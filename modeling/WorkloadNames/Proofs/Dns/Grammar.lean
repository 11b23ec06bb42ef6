import Mathlib.Computability.Language
import Mathlib.Data.Char
import Mathlib.Order.Interval.Set.Defs
import WorkloadNames.Proofs.Dns.Acceptance

/-!
The grammar of DNS names as a regular language, put together from classes of characters. Checking a
name reads it from both ends: the first character by itself, the rest from left to right, and the
last once more. The language says the same as one pattern. Its words are over the alphabet of DNS
names, so it does not matter whether their length is counted in bytes or in characters.
-/

set_option autoImplicit false
set_option relaxedAutoImplicit false

namespace WorkloadNames.Dns

open scoped Computability

/-! ### Classes of characters and the language of names -/

/-- The class `[a-zA-Z0-9]`. -/
def lettersAndDigits : Set Char := Set.Icc 'a' 'z' ∪ Set.Icc 'A' 'Z' ∪ Set.Icc '0' '9'

/-- The words of a single character from a class. -/
def oneOf (characters : Set Char) : Language Char := {word | ∃ c ∈ characters, word = [c]}

/-- The pattern `[a-zA-Z0-9]([a-zA-Z0-9…]*[a-zA-Z0-9])?` as the set of all texts that match it from
end to end, where the dots stand for the marks that are allowed inside a name. -/
def grammar (marks : Set Char) : Language Char :=
  oneOf lettersAndDigits * (1 + (oneOf (lettersAndDigits ∪ marks))∗ * oneOf lettersAndDigits)

theorem mem_lettersAndDigits {c : Char} : c ∈ lettersAndDigits ↔ c.isAlphanum = true := by
  delta Char.isAlphanum Char.isAlpha Char.isUpper Char.isLower Char.isDigit
  simp only [lettersAndDigits, Set.mem_union, Set.mem_Icc, Bool.or_eq_true, Bool.and_eq_true,
    decide_eq_true_eq, ge_iff_le, Char.le_def]
  rw [or_comm (a := 'a'.val ≤ c.val ∧ _)]

/-- Words put together from single characters of a class are the texts over that class. -/
theorem mem_kstar_oneOf {characters : Set Char} {word : Text} :
    word ∈ (oneOf characters)∗ ↔ ∀ c ∈ word, c ∈ characters := by
  rw [Language.mem_kstar]
  constructor
  · rintro ⟨words, rfl, hwords⟩ c hc
    obtain ⟨single, hsingle, hmem⟩ := List.mem_flatten.mp hc
    obtain ⟨d, hd, rfl⟩ := hwords single hsingle
    rwa [List.mem_singleton.mp hmem]
  · intro h
    refine ⟨word.map fun c ↦ [c], ?_, ?_⟩
    · rw [← List.flatMap_def, List.flatMap_singleton']
    · intro single hsingle
      obtain ⟨c, hc, rfl⟩ := List.mem_map.mp hsingle
      exact ⟨c, h c hc, rfl⟩

/-- A word of the grammar is over the alphabet and has a letter or digit at both ends, which may be
the same character. -/
theorem mem_grammar_iff {marks : Set Char} {text : Text} :
    text ∈ grammar marks ↔
      (∀ c ∈ text, c ∈ lettersAndDigits ∪ marks) ∧ text.head?.any Char.isAlphanum = true ∧
        text.getLast?.any Char.isAlphanum = true := by
  rw [grammar, Language.mem_mul]
  constructor
  · rintro ⟨_, ⟨first, hfirst, rfl⟩, rest, hrest, rfl⟩
    have hstart := mem_lettersAndDigits.mp hfirst
    rcases (Language.mem_add _ _ _).mp hrest with hnil | hlonger
    · obtain rfl := (Language.mem_one _).mp hnil
      exact ⟨List.forall_mem_singleton.mpr (Or.inl hfirst), hstart, hstart⟩
    · obtain ⟨inner, hinner, _, ⟨last, hlast, rfl⟩, rfl⟩ := Language.mem_mul.mp hlonger
      have hall : ∀ c ∈ inner ++ [last], c ∈ lettersAndDigits ∪ marks :=
        List.forall_mem_append.mpr
          ⟨mem_kstar_oneOf.mp hinner, List.forall_mem_singleton.mpr (Or.inl hlast)⟩
      refine ⟨List.forall_mem_cons.mpr ⟨Or.inl hfirst, hall⟩, hstart, ?_⟩
      rw [List.singleton_append, ← List.cons_append, List.getLast?_concat]
      exact mem_lettersAndDigits.mp hlast
  · rintro ⟨hall, hstart, hend⟩
    cases text with
    | nil => exact absurd hstart Bool.false_ne_true
    | cons first rest =>
      have hfirst : [first] ∈ oneOf lettersAndDigits :=
        ⟨first, mem_lettersAndDigits.mpr hstart, rfl⟩
      refine ⟨[first], hfirst, rest, ?_, rfl⟩
      rw [Language.mem_add]
      -- a single character is the first and the last, and is read only once
      obtain rfl | ⟨inner, last, rfl⟩ := List.eq_nil_or_concat' rest
      · exact Or.inl ((Language.mem_one _).mpr rfl)
      · rw [← List.cons_append, List.getLast?_concat] at hend
        have hlast : [last] ∈ oneOf lettersAndDigits :=
          ⟨last, mem_lettersAndDigits.mpr hend, rfl⟩
        have hinner : inner ∈ (oneOf (lettersAndDigits ∪ marks))∗ :=
          mem_kstar_oneOf.mpr fun c hc ↦
            hall c (List.mem_cons_of_mem first (List.mem_append_left [last] hc))
        exact Or.inr (Language.append_mem_mul hinner hlast)

/-- The alphabet of DNS names is the class `[a-zA-Z0-9.-]`. -/
theorem isNameChar_iff_mem {c : Char} : isNameChar c = true ↔ c ∈ lettersAndDigits ∪ {'.', '-'} := by
  rw [Set.mem_union, mem_lettersAndDigits]
  simp [isNameChar, or_assoc]

/-! ### The two rules and their grammars -/

namespace Rule

/-- What a name may hold inside besides letters and digits. -/
def marks : Rule → Set Char
  | .label => {'-'}
  | .subdomain => {'.', '-'}

theorem allows_iff_mem {rule : Rule} {c : Char} :
    rule.allows c = true ↔ c ∈ lettersAndDigits ∪ rule.marks := by
  cases rule with
  | subdomain => exact isNameChar_iff_mem
  | label =>
    rw [Set.mem_union, mem_lettersAndDigits]
    by_cases hdot : c = '.'
    · have hplain : '.'.isAlphanum = false := by decide
      simp [allows, marks, hdot, hplain]
    · simp [allows, isNameChar, marks, hdot]

/-- The marks of a rule are what it allows besides letters and digits. -/
theorem mem_marks_iff {rule : Rule} {c : Char} :
    c ∈ rule.marks ↔ rule.allows c = true ∧ c.isAlphanum = false := by
  have hmark : c ∈ rule.marks → c.isAlphanum = false := by
    cases rule with
    | label =>
      rintro rfl
      decide
    | subdomain =>
      rintro (rfl | rfl)
      · decide
      · decide
  rw [allows_iff_mem, Set.mem_union, mem_lettersAndDigits]
  constructor
  · intro hc
    exact ⟨Or.inr hc, hmark hc⟩
  · rintro ⟨hplain | hc, hnot⟩
    · exact absurd hplain (by simp [hnot])
    · exact hc

theorem isName_iff_mem_grammar {rule : Rule} {text : Text} :
    rule.IsName text ↔ Text.byteLength text ≤ rule.limit ∧ text ∈ grammar rule.marks := by
  rw [mem_grammar_iff]
  constructor
  · intro h
    exact ⟨h.fits, fun c hc ↦ allows_iff_mem.mp (h.allowed c hc), h.first, h.last⟩
  · rintro ⟨hfits, hall, hstart, hend⟩
    exact ⟨hfits, fun c hc ↦ allows_iff_mem.mpr (hall c hc), hstart, hend⟩

theorem byteLength_of_mem_grammar {rule : Rule} {text : Text} (h : text ∈ grammar rule.marks) :
    Text.byteLength text = text.length := by
  have hallowed : IsNameText text := fun c hc ↦
    isNameChar_of_allows (allows_iff_mem.mpr ((mem_grammar_iff.mp h).1 c hc))
  exact hallowed.singleByte.byteLength_eq

theorem accepts_iff_byteLength_le {rule : Rule} {text : Text} :
    rule.accepts text = true ↔
      text ≠ [] ∧ Text.byteLength text ≤ rule.limit ∧ text ∈ grammar rule.marks := by
  rw [accepts_iff_isName]
  constructor
  · intro h
    exact ⟨h.ne_nil, isName_iff_mem_grammar.mp h⟩
  · rintro ⟨-, h⟩
    exact isName_iff_mem_grammar.mpr h

/-- The two ways to count differ only on texts that are no words. -/
theorem accepts_iff_length_le {rule : Rule} {text : Text} :
    rule.accepts text = true ↔
      text ≠ [] ∧ text.length ≤ rule.limit ∧ text ∈ grammar rule.marks := by
  rw [accepts_iff_byteLength_le]
  refine and_congr_right fun _ ↦ and_congr_left fun hword ↦ ?_
  rw [byteLength_of_mem_grammar hword]

/-- A line break is no letter or digit, so it cannot stand at the end of a name. -/
theorem accepts_append_newline (rule : Rule) (text : Text) :
    rule.accepts (text ++ ['\n']) = false := by
  rw [Bool.eq_false_iff, Ne, accepts_iff_isName]
  intro h
  have hlast := h.last
  rw [List.getLast?_append_of_ne_nil text (by simp)] at hlast
  exact absurd hlast (by decide)

/-- Each rule accepts exactly its grammar within its limit, whichever way the length is counted: a
subdomain is `[a-zA-Z0-9]([a-zA-Z0-9.-]*[a-zA-Z0-9])?` with at most 253, and a label is
`[a-zA-Z0-9]([a-zA-Z0-9-]*[a-zA-Z0-9])?` with at most 63. Nothing may stand behind a word, not even
a line break. -/
theorem accepts_iff_mem_grammar (text : Text) :
    ((Rule.subdomain.accepts text = true ↔
        text ≠ [] ∧ Text.byteLength text ≤ 253 ∧ text ∈ grammar {'.', '-'}) ∧
      (Rule.subdomain.accepts text = true ↔
        text ≠ [] ∧ text.length ≤ 253 ∧ text ∈ grammar {'.', '-'})) ∧
    ((Rule.label.accepts text = true ↔
        text ≠ [] ∧ Text.byteLength text ≤ 63 ∧ text ∈ grammar {'-'}) ∧
      (Rule.label.accepts text = true ↔
        text ≠ [] ∧ text.length ≤ 63 ∧ text ∈ grammar {'-'})) ∧
    ∀ rule : Rule, rule.accepts (text ++ ['\n']) = false :=
  ⟨⟨accepts_iff_byteLength_le, accepts_iff_length_le⟩,
    ⟨accepts_iff_byteLength_le, accepts_iff_length_le⟩,
    fun rule ↦ rule.accepts_append_newline text⟩

end Rule

end WorkloadNames.Dns
