import WorkloadNames.Text.Basic

/-!
The characters that DNS names are made of: the ASCII letters and digits, the dot and the hyphen.
-/

set_option autoImplicit false
set_option relaxedAutoImplicit false

namespace WorkloadNames.Dns

/-- A letter or digit of ASCII, a dot or a hyphen. -/
def isNameChar (c : Char) : Bool := c.isAlphanum || c == '.' || c == '-'

theorem isNameChar_of_isAlphanum {c : Char} (h : c.isAlphanum = true) : isNameChar c = true := by
  simp [isNameChar, h]

/-- Every character of a DNS name takes one byte. -/
theorem utf8Size_of_isNameChar {c : Char} (h : isNameChar c = true) : c.utf8Size = 1 := by
  rw [Char.utf8Size_eq_one_iff]
  delta isNameChar Char.isAlphanum Char.isAlpha Char.isUpper Char.isLower Char.isDigit at h
  simp only [Bool.or_eq_true, Bool.and_eq_true, decide_eq_true_eq, beq_iff_eq] at h
  rcases h with ((((h | h) | h) | rfl) | rfl)
  · grind
  · grind
  · grind
  · decide
  · decide

end WorkloadNames.Dns
