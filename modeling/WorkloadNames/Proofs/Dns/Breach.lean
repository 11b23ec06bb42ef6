import Mathlib.Data.Set.Function
import Mathlib.Order.Minimal
import WorkloadNames.Proofs.Dns.Acceptance
import WorkloadNames.Proofs.Text.Leftmost

/-!
The rules that a DNS name breaks. A name can break several rules at once, and each breach is told
here by itself, whatever else is wrong with the name. Checking the rules one after the other reports
a single breach, and it is the one that comes first in the order of the rules.
-/

set_option autoImplicit false
set_option relaxedAutoImplicit false

namespace WorkloadNames

/-! ### Reporting what comes first -/

/-- A check that reports only what comes first among all that applies, and reports something
whenever anything applies, is told by the order alone: no two that apply share a place in it. -/
theorem reports_iff_minimalFor {α : Type*} (reports : α → Prop) {applies : α → Prop}
    {precedence : α → Nat} (hplaces : Set.InjOn precedence {a | applies a})
    (hfirst : ∀ a, reports a → MinimalFor applies precedence a)
    (hreports : (∃ a, applies a) → ∃ a, reports a) {a : α} :
    reports a ↔ MinimalFor applies precedence a := by
  constructor
  · exact hfirst a
  · intro ha
    obtain ⟨b, hb⟩ := hreports ⟨a, ha.prop⟩
    have hminimal := hfirst b hb
    have hplace : precedence a = precedence b :=
      le_antisymm (ha.le hminimal.prop) (hminimal.le ha.prop)
    rwa [hplaces ha.prop hminimal.prop hplace]

namespace Dns

/-- The place of a violation in the order in which the rules are checked. -/
def Violation.precedence : Violation → Nat
  | .empty => 0
  | .tooLong _ _ => 1
  | .badStart _ => 2
  | .badCharacter _ _ => 3
  | .badEnd _ => 4

/-- The dot and the hyphen are what a name may hold besides letters and digits. -/
theorem isNameChar_and_not_isAlphanum_iff {c : Char} :
    isNameChar c = true ∧ c.isAlphanum = false ↔ c = '-' ∨ c = '.' := by
  constructor
  · rintro ⟨hname, hplain⟩
    simp only [isNameChar, hplain, Bool.false_or, Bool.or_eq_true, beq_iff_eq] at hname
    exact hname.symm
  · rintro (rfl | rfl)
    · decide
    · decide

namespace Rule

/-- A rule that a name breaks, whatever other rules it breaks as well. The characters of a bad start
may be any but letters and digits; only one that is allowed elsewhere makes a bad end. -/
inductive Breach (rule : Rule) (name : Text) : Violation → Prop where
  | empty : name = [] → Breach rule name .empty
  | tooLong : rule.limit < Text.byteLength name →
      Breach rule name (.tooLong (Text.byteLength name) rule.limit)
  | badStart {first : Char} : name.head? = some first → first.isAlphanum = false →
      Breach rule name (.badStart first)
  | badCharacter {found : Char} {offset : Nat} :
      name.LeftmostAt (fun c ↦ !rule.allows c) found offset →
      Breach rule name (.badCharacter found offset)
  | badEnd {last : Char} : name.getLast? = some last → rule.allows last = true →
      last.isAlphanum = false → Breach rule name (.badEnd last)

variable {rule : Rule} {name : Text} {violation : Violation}

/-- A name breaks each rule in one way only. -/
theorem injOn_precedence_breach : Set.InjOn Violation.precedence {v | rule.Breach name v} := by
  intro violation h violation' h' hplace
  cases h with
  | empty =>
    cases h' with
    | empty => rfl
    | _ => simp [Violation.precedence] at hplace
  | tooLong =>
    cases h' with
    | tooLong => rfl
    | _ => simp [Violation.precedence] at hplace
  | badStart hhead =>
    cases h' with
    | badStart hhead' => rw [Option.some.inj (hhead.symm.trans hhead')]
    | _ => simp [Violation.precedence] at hplace
  | badCharacter hleftmost =>
    cases h' with
    | badCharacter hleftmost' =>
      obtain ⟨rfl, rfl⟩ := hleftmost.unique hleftmost'
      rfl
    | _ => simp [Violation.precedence] at hplace
  | badEnd hlast =>
    cases h' with
    | badEnd hlast' => rw [Option.some.inj (hlast.symm.trans hlast')]
    | _ => simp [Violation.precedence] at hplace

/-- A name that satisfies the whole condition breaks no rule. -/
theorem IsName.not_breach (h : rule.IsName name) : ¬rule.Breach name violation := by
  intro hbreach
  cases hbreach with
  | empty hnil => exact h.ne_nil hnil
  | tooLong hlong => exact absurd h.fits (Nat.not_le.mpr hlong)
  | badStart hhead hplain => exact absurd h.first (by simp [hhead, hplain])
  | badCharacter hleftmost =>
    exact absurd hleftmost.passes (by simp [h.allowed _ hleftmost.mem])
  | badEnd hlast _ hplain => exact absurd h.last (by simp [hlast, hplain])

/-- What is found behind the first character is the leftmost of the whole name. -/
theorem stranger?_eq_some_iff {first found : Char} {rest : Text} {offset : Nat}
    (hfirst : rule.allows first = true) :
    rule.stranger? first.utf8Size rest = some (offset, found) ↔
      Text.LeftmostAt (fun c ↦ !rule.allows c) (first :: rest) found offset := by
  rw [stranger?, Text.find?_offsetsFrom_eq_some_iff (p := fun c ↦ !rule.allows c),
    Text.leftmostAt_cons_of_neg (by simp [hfirst])]

theorem badEnding?_eq_some_iff {rest : Text} {last : Char} :
    badEnding? rest = some last ↔ rest.getLast? = some last ∧ last.isAlphanum = false := by
  rw [badEnding?, Option.filter_eq_some_iff, Bool.not_eq_true']

/-- What is reported is a breach, and the rules that come before are kept. -/
theorem minimalFor_of_violation?_eq_some (h : rule.violation? name = some violation) :
    MinimalFor (rule.Breach name) Violation.precedence violation := by
  cases name with
  | nil =>
    obtain rfl := Option.some.inj h
    exact ⟨.empty rfl, fun _ _ _ ↦ Nat.zero_le _⟩
  | cons first rest =>
    have hne : first :: rest ≠ [] := List.cons_ne_nil first rest
    rw [violation?] at h
    split_ifs at h with hlength hstart
    · obtain rfl := Option.some.inj h
      refine ⟨.tooLong hlength, fun other hother _ ↦ ?_⟩
      cases hother with
      | empty hnil => exact absurd hnil hne
      | _ => simp [Violation.precedence]
    · obtain rfl := Option.some.inj h
      refine ⟨.badStart rfl (by simpa using hstart), fun other hother _ ↦ ?_⟩
      cases hother with
      | empty hnil => exact absurd hnil hne
      | tooLong hlong => exact absurd hlong hlength
      | _ => simp [Violation.precedence]
    · have hfirst : first.isAlphanum = true := by simpa using hstart
      have hallowed : rule.allows first = true := rule.allows_of_isAlphanum hfirst
      have hstarts : ∀ c, (first :: rest).head? = some c → c.isAlphanum ≠ false := by
        rintro _ ⟨rfl⟩
        simp [hfirst]
      cases hstranger : rule.stranger? first.utf8Size rest with
      | some entry =>
        rw [hstranger] at h
        obtain rfl := Option.some.inj h
        refine ⟨.badCharacter ((stranger?_eq_some_iff hallowed).mp hstranger),
          fun other hother _ ↦ ?_⟩
        cases hother with
        | empty hnil => exact absurd hnil hne
        | tooLong hlong => exact absurd hlong hlength
        | badStart hhead hplain => exact absurd hplain (hstarts _ hhead)
        | _ => simp [Violation.precedence]
      | none =>
        rw [hstranger] at h
        obtain ⟨last, hending, rfl⟩ := Option.map_eq_some_iff.mp h
        obtain ⟨hlast, hplain⟩ := badEnding?_eq_some_iff.mp hending
        have hrest : ∀ c ∈ first :: rest, rule.allows c = true :=
          List.forall_mem_cons.mpr ⟨hallowed, stranger?_eq_none_iff.mp hstranger⟩
        have hend : (first :: rest).getLast? = some last := by
          rw [List.getLast?_cons, hlast, Option.getD_some]
        refine ⟨.badEnd hend (hrest last (List.mem_of_getLast? hend)) hplain,
          fun other hother _ ↦ ?_⟩
        cases hother with
        | empty hnil => exact absurd hnil hne
        | tooLong hlong => exact absurd hlong hlength
        | badStart hhead hplain => exact absurd hplain (hstarts _ hhead)
        | badCharacter hleftmost =>
          exact absurd hleftmost.passes (by simp [hrest _ hleftmost.mem])
        | badEnd => exact Nat.le_refl _

/-- Checking a name reports the first of the rules that it breaks. -/
theorem violation?_eq_some_iff :
    rule.violation? name = some violation ↔
      MinimalFor (rule.Breach name) Violation.precedence violation := by
  refine reports_iff_minimalFor (fun v ↦ rule.violation? name = some v) injOn_precedence_breach
    (fun _ h ↦ minimalFor_of_violation?_eq_some h) ?_
  rintro ⟨other, hother⟩
  cases hviolation : rule.violation? name with
  | some found => exact ⟨found, rfl⟩
  | none => exact absurd hother (violation?_eq_none_iff.mp hviolation).not_breach

end Rule

end Dns

end WorkloadNames
