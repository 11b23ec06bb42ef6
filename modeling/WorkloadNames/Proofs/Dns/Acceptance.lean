import Mathlib.Tactic.SplitIfs
import WorkloadNames.Dns.Rule
import WorkloadNames.Proofs.Text.Budget

/-!
When a text is a DNS name. The rules are checked one after the other, and a name is accepted when
none is broken: it fits, all its characters are allowed, and its first and last are letters or
digits. Texts over the alphabet of DNS names take one byte for each character.
-/

set_option autoImplicit false
set_option relaxedAutoImplicit false

namespace WorkloadNames.Dns

/-- Every character of the text belongs to the alphabet of DNS names. -/
def IsNameText (text : Text) : Prop := ∀ c ∈ text, isNameChar c = true

theorem IsNameText.singleByte {text : Text} (h : IsNameText text) : text.SingleByte :=
  fun c hc ↦ utf8Size_of_isNameChar (h c hc)

theorem IsNameText.append {first second : Text} (hfirst : IsNameText first)
    (hsecond : IsNameText second) : IsNameText (first ++ second) := by
  intro c hc
  rcases List.mem_append.mp hc with hc | hc
  · exact hfirst c hc
  · exact hsecond c hc

namespace Rule

theorem isNameChar_of_allows {rule : Rule} {c : Char} (h : rule.allows c = true) :
    isNameChar c = true := by
  cases rule with
  | label => exact (Bool.and_eq_true_iff.mp h).1
  | subdomain => exact h

/-- Letters and digits are allowed by both rules: neither is the dot that a label lacks. -/
theorem allows_of_isAlphanum (rule : Rule) {c : Char} (h : c.isAlphanum = true) :
    rule.allows c = true := by
  cases rule with
  | label =>
    have hdot : c ≠ '.' := by
      rintro rfl
      exact absurd h (by decide)
    simp [allows, isNameChar_of_isAlphanum h, hdot]
  | subdomain => exact isNameChar_of_isAlphanum h

/-- The offset from which characters are counted does not matter to whether one is found. -/
theorem stranger?_eq_none_iff {rule : Rule} {start : Nat} {text : Text} :
    rule.stranger? start text = none ↔ ∀ c ∈ text, rule.allows c = true := by
  induction text generalizing start with
  | nil => simp [stranger?, Text.offsetsFrom]
  | cons c rest ih =>
    have hrest : rule.stranger? (start + c.utf8Size) rest = none ↔
        ∀ d ∈ rest, rule.allows d = true := ih
    simp only [stranger?] at hrest
    simp only [stranger?, Text.offsetsFrom, List.find?_cons, List.forall_mem_cons]
    cases hc : rule.allows c with
    | false => simp
    | true => simpa using hrest

/-- The rules of DNS names as one condition on the whole text. -/
structure IsName (rule : Rule) (name : Text) : Prop where
  fits : Text.byteLength name ≤ rule.limit
  allowed : ∀ c ∈ name, rule.allows c = true
  first : name.head?.any Char.isAlphanum = true
  last : name.getLast?.any Char.isAlphanum = true

/-- The last character of a longer name is the last of what follows its first. -/
theorem badEnding?_eq_none_iff {first : Char} {rest : Text} (hfirst : first.isAlphanum = true) :
    badEnding? rest = none ↔ (first :: rest).getLast?.any Char.isAlphanum = true := by
  rw [List.getLast?_cons]
  cases hlast : rest.getLast? with
  | none => simp [badEnding?, hlast, hfirst]
  | some last => simp [badEnding?, hlast]

/-- Checking rule after rule finds nothing exactly when the whole condition holds. -/
theorem violation?_eq_none_iff {rule : Rule} {name : Text} :
    rule.violation? name = none ↔ rule.IsName name := by
  cases name with
  | nil =>
    constructor
    · intro h
      exact absurd h (by simp [violation?])
    · intro h
      exact absurd h.first (by simp)
  | cons first rest =>
    rw [violation?]
    constructor
    · intro h
      split_ifs at h with hlength hstart
      have hfirst : first.isAlphanum = true := by simpa using hstart
      cases hstranger : rule.stranger? first.utf8Size rest with
      | some entry => simp [hstranger] at h
      | none =>
        rw [hstranger] at h
        have hending := Option.map_eq_none_iff.mp h
        exact ⟨Nat.le_of_not_lt hlength,
          List.forall_mem_cons.mpr
            ⟨rule.allows_of_isAlphanum hfirst, stranger?_eq_none_iff.mp hstranger⟩,
          hfirst, (badEnding?_eq_none_iff hfirst).mp hending⟩
    · intro h
      have hfirst : first.isAlphanum = true := h.first
      have hstranger : rule.stranger? first.utf8Size rest = none :=
        stranger?_eq_none_iff.mpr fun c hc ↦ h.allowed c (List.mem_cons_of_mem first hc)
      rw [if_neg (Nat.not_lt.mpr h.fits), if_neg (by simp [hfirst]), hstranger]
      exact Option.map_eq_none_iff.mpr ((badEnding?_eq_none_iff hfirst).mpr h.last)

theorem accepts_iff_isName {rule : Rule} {name : Text} :
    rule.accepts name = true ↔ rule.IsName name := by
  rw [accepts, Option.isNone_iff_eq_none, violation?_eq_none_iff]

theorem IsName.isNameText {rule : Rule} {name : Text} (h : rule.IsName name) : IsNameText name :=
  fun c hc ↦ isNameChar_of_allows (h.allowed c hc)

theorem IsName.ne_nil {rule : Rule} {name : Text} (h : rule.IsName name) : name ≠ [] := by
  rintro rfl
  exact absurd h.first (by simp)

end Rule

end WorkloadNames.Dns
