import WorkloadNames.Text.Basic

/-!
Code points written in hexadecimal digits.
-/

set_option autoImplicit false
set_option relaxedAutoImplicit false

namespace WorkloadNames.Text

/-- The value of a hexadecimal digit. -/
def hexValue? (c : Char) : Option Nat :=
  if c.isDigit then some (c.toNat - '0'.toNat)
  else if 'a' ≤ c ∧ c ≤ 'f' then some (c.toNat - 'a'.toNat + 10)
  else if 'A' ≤ c ∧ c ≤ 'F' then some (c.toNat - 'A'.toNat + 10)
  else none

/-- The character whose code point has the given digits, if there is one. -/
def charOfHex? (values : List Nat) : Option Char :=
  let code := values.foldl (fun code value ↦ 16 * code + value) 0
  if code.isValidChar then some (Char.ofNat code) else none

end WorkloadNames.Text
