import WorkloadNames.Proofs.Dns.Breach
import WorkloadNames.Proofs.Dns.Grammar

/-!
The one violation that a check of names reports, told outright for each kind. A breach is reported
exactly when every rule with an earlier place in their order is kept, and what the rules before a
place come to is a plain condition on the name: it is not empty, then it also fits, then it also
begins with a letter or digit, then it also has no character outside the classes. With these
conditions each kind of violation has its own equivalence (`ReportsFirst`), and both checks report
so, each with its own limit and marks (`violation?_reportsFirst`).
-/

set_option autoImplicit false
set_option relaxedAutoImplicit false

namespace WorkloadNames.Dns

/-- What is reported of a name under a limit of bytes and with these marks inside. Each violation is
reported under its own condition and with the data that it names; only the condition for the first
that is broken holds. A character that is not allowed stands at an offset that counts its bytes and
its characters alike. -/
structure ReportsFirst (limit : Nat) (marks : Set Char) (name : Text)
    (report : Option Violation) : Prop where
  empty : report = some .empty ↔ name = []
  tooLong (length most : Nat) : report = some (.tooLong length most) ↔
    limit < Text.byteLength name ∧ length = Text.byteLength name ∧ most = limit
  badStart (found : Char) : report = some (.badStart found) ↔
    Text.byteLength name ≤ limit ∧ ∃ rest, name = found :: rest ∧ found ∉ lettersAndDigits
  badCharacter (found : Char) (offset : Nat) : report = some (.badCharacter found offset) ↔
    Text.byteLength name ≤ limit ∧ ∃ first front back,
      name = first :: (front ++ found :: back) ∧ first ∈ lettersAndDigits ∧
      (∀ c ∈ front, c ∈ lettersAndDigits ∪ marks) ∧ found ∉ lettersAndDigits ∪ marks ∧
      Text.byteLength (first :: front) = offset ∧ (first :: front).length = offset
  badEnd (last : Char) : report = some (.badEnd last) ↔
    Text.byteLength name ≤ limit ∧ ∃ first middle,
      name = first :: (middle ++ [last]) ∧ first ∈ lettersAndDigits ∧
      (∀ c ∈ middle, c ∈ lettersAndDigits ∪ marks) ∧ last ∈ marks
  /-- A character that is not allowed is told wherever it stands behind the first, be it the last of
  the name. -/
  stranger (first : Char) (rest : Text) : name = first :: rest → Text.byteLength name ≤ limit →
    first ∈ lettersAndDigits →
    ((∃ found offset, report = some (.badCharacter found offset)) ↔
      ∃ c ∈ rest, c ∉ lettersAndDigits ∪ marks)

namespace Rule

variable {rule : Rule} {name : Text} {violation : Violation} {place : Nat}

/-! ### Rules that are kept -/

/-- A name that keeps the rule with this place in the order in which they are checked. -/
def Keeps (rule : Rule) (name : Text) (place : Nat) : Prop :=
  ∀ violation : Violation, violation.precedence = place → ¬rule.Breach name violation

/-- A name that keeps every rule before this place. -/
def KeepsBelow (rule : Rule) (name : Text) (place : Nat) : Prop :=
  ∀ earlier < place, rule.Keeps name earlier

theorem violation?_eq_some_iff_keepsBelow :
    rule.violation? name = some violation ↔
      rule.Breach name violation ∧ rule.KeepsBelow name violation.precedence := by
  rw [violation?_eq_some_iff, minimalFor_iff_forall_lt]
  refine and_congr_right fun _ ↦ ?_
  constructor
  · rintro h _ hearlier other rfl
    exact h hearlier
  · intro h other hearlier
    exact h _ hearlier other rfl

theorem keeps_zero_iff : rule.Keeps name 0 ↔ name ≠ [] := by
  constructor
  · intro h hnil
    exact h .empty rfl (.empty hnil)
  · intro hne violation hplace hbreach
    cases hbreach with
    | empty hnil => exact hne hnil
    | _ => simp [Violation.precedence] at hplace

theorem keeps_one_iff : rule.Keeps name 1 ↔ Text.byteLength name ≤ rule.limit := by
  constructor
  · intro h
    by_contra hlong
    exact h _ rfl (.tooLong (Nat.not_le.mp hlong))
  · intro hfits violation hplace hbreach
    cases hbreach with
    | tooLong hlong => exact absurd hfits (Nat.not_le.mpr hlong)
    | _ => simp [Violation.precedence] at hplace

theorem keeps_two_iff :
    rule.Keeps name 2 ↔ ∀ first, name.head? = some first → first.isAlphanum = true := by
  constructor
  · intro h first hhead
    by_contra hplain
    exact h _ rfl (.badStart hhead (by simpa using hplain))
  · intro hstart violation hplace hbreach
    cases hbreach with
    | badStart hhead hplain => exact absurd (hstart _ hhead) (by simp [hplain])
    | _ => simp [Violation.precedence] at hplace

theorem keeps_three_iff : rule.Keeps name 3 ↔ ∀ c ∈ name, rule.allows c = true := by
  constructor
  · intro h
    by_contra hstrange
    have hsome : ∃ c ∈ name, (!rule.allows c) = true := by simpa using hstrange
    obtain ⟨found, offset, hleftmost⟩ := Text.exists_leftmostAt_iff.mpr hsome
    exact h _ rfl (.badCharacter hleftmost)
  · intro hallowed violation hplace hbreach
    cases hbreach with
    | badCharacter hleftmost =>
      exact absurd hleftmost.passes (by simp [hallowed _ hleftmost.mem])
    | _ => simp [Violation.precedence] at hplace

/-! ### Names that keep the rules before a place -/

theorem keepsBelow_zero : rule.KeepsBelow name 0 :=
  fun _ hearlier ↦ absurd hearlier (Nat.not_lt_zero _)

theorem keepsBelow_succ_iff :
    rule.KeepsBelow name (place + 1) ↔ rule.KeepsBelow name place ∧ rule.Keeps name place :=
  Nat.forall_lt_succ_right

theorem keepsBelow_one_iff : rule.KeepsBelow name 1 ↔ name ≠ [] := by
  rw [keepsBelow_succ_iff, and_iff_right keepsBelow_zero, keeps_zero_iff]

theorem keepsBelow_two_iff :
    rule.KeepsBelow name 2 ↔ Text.byteLength name ≤ rule.limit ∧ name ≠ [] := by
  rw [keepsBelow_succ_iff, keepsBelow_one_iff, keeps_one_iff, and_comm]

theorem keepsBelow_three_iff :
    rule.KeepsBelow name 3 ↔ Text.byteLength name ≤ rule.limit ∧
      ∃ first rest, name = first :: rest ∧ first.isAlphanum = true := by
  rw [keepsBelow_succ_iff, keepsBelow_two_iff, keeps_two_iff, and_assoc]
  refine and_congr_right fun _ ↦ ?_
  constructor
  · rintro ⟨hne, hstart⟩
    obtain ⟨first, rest, rfl⟩ := List.exists_cons_of_ne_nil hne
    exact ⟨first, rest, rfl, hstart first rfl⟩
  · rintro ⟨first, rest, rfl, hfirst⟩
    refine ⟨List.cons_ne_nil first rest, ?_⟩
    rintro _ ⟨rfl⟩
    exact hfirst

theorem keepsBelow_four_iff :
    rule.KeepsBelow name 4 ↔ Text.byteLength name ≤ rule.limit ∧
      ∃ first rest, name = first :: rest ∧ first.isAlphanum = true ∧
        ∀ c ∈ rest, rule.allows c = true := by
  rw [keepsBelow_succ_iff, keepsBelow_three_iff, keeps_three_iff, and_assoc]
  refine and_congr_right fun _ ↦ ?_
  constructor
  · rintro ⟨⟨first, rest, rfl, hfirst⟩, hallowed⟩
    exact ⟨first, rest, rfl, hfirst, (List.forall_mem_cons.mp hallowed).2⟩
  · rintro ⟨first, rest, rfl, hfirst, hrest⟩
    exact ⟨⟨first, rest, rfl, hfirst⟩,
      List.forall_mem_cons.mpr ⟨rule.allows_of_isAlphanum hfirst, hrest⟩⟩

/-! ### What is reported, kind by kind -/

theorem violation?_eq_empty_iff : rule.violation? name = some .empty ↔ name = [] := by
  rw [violation?_eq_some_iff_keepsBelow]
  constructor
  · rintro ⟨⟨hnil⟩, -⟩
    exact hnil
  · intro hnil
    exact ⟨.empty hnil, keepsBelow_zero⟩

theorem violation?_eq_tooLong_iff {length most : Nat} :
    rule.violation? name = some (.tooLong length most) ↔
      rule.limit < Text.byteLength name ∧ length = Text.byteLength name ∧ most = rule.limit := by
  rw [violation?_eq_some_iff_keepsBelow, Violation.precedence, keepsBelow_one_iff]
  constructor
  · rintro ⟨hbreach, -⟩
    cases hbreach with
    | tooLong hlong => exact ⟨hlong, rfl, rfl⟩
  · rintro ⟨hlong, rfl, rfl⟩
    refine ⟨.tooLong hlong, ?_⟩
    rintro rfl
    exact absurd hlong (Nat.not_lt_zero _)

theorem violation?_eq_badStart_iff {found : Char} :
    rule.violation? name = some (.badStart found) ↔ Text.byteLength name ≤ rule.limit ∧
      ∃ rest, name = found :: rest ∧ found.isAlphanum = false := by
  rw [violation?_eq_some_iff_keepsBelow, Violation.precedence, keepsBelow_two_iff]
  constructor
  · rintro ⟨hbreach, hfits, -⟩
    cases hbreach with
    | badStart hhead hplain =>
      obtain ⟨rest, hname⟩ := List.head?_eq_some_iff.mp hhead
      exact ⟨hfits, rest, hname, hplain⟩
  · rintro ⟨hfits, rest, rfl, hplain⟩
    exact ⟨.badStart rfl hplain, hfits, List.cons_ne_nil found rest⟩

/-- A character behind a good start is reported where it is the leftmost stranger. -/
theorem violation?_eq_badCharacter_iff_leftmostAt {found : Char} {offset : Nat} :
    rule.violation? name = some (.badCharacter found offset) ↔
      name.LeftmostAt (fun c ↦ !rule.allows c) found offset ∧
        Text.byteLength name ≤ rule.limit ∧
          ∃ first rest, name = first :: rest ∧ first.isAlphanum = true := by
  rw [violation?_eq_some_iff_keepsBelow, Violation.precedence, keepsBelow_three_iff]
  refine and_congr_left fun _ ↦ ⟨?_, .badCharacter⟩
  intro hbreach
  cases hbreach with
  | badCharacter hleftmost => exact hleftmost

/-- In front of the leftmost character that is not allowed every character takes one byte. -/
theorem violation?_eq_badCharacter_iff {found : Char} {offset : Nat} :
    rule.violation? name = some (.badCharacter found offset) ↔
      Text.byteLength name ≤ rule.limit ∧ ∃ first front back,
        name = first :: (front ++ found :: back) ∧ first.isAlphanum = true ∧
        (∀ c ∈ front, rule.allows c = true) ∧ rule.allows found = false ∧
        Text.byteLength (first :: front) = offset ∧ (first :: front).length = offset := by
  rw [violation?_eq_badCharacter_iff_leftmostAt]
  constructor
  · rintro ⟨hleftmost, hfits, first, rest, rfl, hfirst⟩
    have hallowed := rule.allows_of_isAlphanum hfirst
    obtain ⟨past, ⟨front, back, rfl, hfront, hfound, rfl⟩, rfl⟩ :=
      (Text.leftmostAt_cons_of_neg (by simp [hallowed])).mp hleftmost
    -- what is allowed takes one byte, so the bytes in front of the stranger count its characters
    have hclean : ∀ c ∈ first :: front, rule.allows c = true :=
      List.forall_mem_cons.mpr ⟨hallowed, fun c hc ↦ by simpa using hfront c hc⟩
    have hascii : IsNameText (first :: front) := fun c hc ↦ isNameChar_of_allows (hclean c hc)
    exact ⟨hfits, first, front, back, rfl, hfirst, (List.forall_mem_cons.mp hclean).2,
      by simpa using hfound, rfl, hascii.singleByte.byteLength_eq.symm⟩
  · rintro ⟨hfits, first, front, back, rfl, hfirst, hfront, hfound, rfl, -⟩
    refine ⟨⟨first :: front, back, rfl, ?_, by simp [hfound], rfl⟩, hfits, first, _, rfl, hfirst⟩
    exact List.forall_mem_cons.mpr
      ⟨by simp [rule.allows_of_isAlphanum hfirst], fun c hc ↦ by simp [hfront c hc]⟩

/-- The last character is judged by itself only behind a first one. -/
theorem violation?_eq_badEnd_iff {last : Char} :
    rule.violation? name = some (.badEnd last) ↔ Text.byteLength name ≤ rule.limit ∧
      ∃ first middle, name = first :: (middle ++ [last]) ∧ first.isAlphanum = true ∧
        (∀ c ∈ middle, rule.allows c = true) ∧ last ∈ rule.marks := by
  rw [violation?_eq_some_iff_keepsBelow, Violation.precedence, keepsBelow_four_iff]
  constructor
  · rintro ⟨hbreach, hfits, first, rest, rfl, hfirst, hrest⟩
    cases hbreach with
    | badEnd hlast hallowed hplain =>
      obtain rfl | ⟨middle, final, rfl⟩ := List.eq_nil_or_concat' rest
      · -- the only character of a name is its first, and that is a letter or digit
        rw [List.getLast?_singleton] at hlast
        obtain rfl := Option.some.inj hlast
        exact absurd hfirst (by simp [hplain])
      · rw [← List.cons_append, List.getLast?_concat] at hlast
        obtain rfl := Option.some.inj hlast
        exact ⟨hfits, first, middle, rfl, hfirst, (List.forall_mem_append.mp hrest).1,
          mem_marks_iff.mpr ⟨hallowed, hplain⟩⟩
  · rintro ⟨hfits, first, middle, rfl, hfirst, hmiddle, hmark⟩
    obtain ⟨hallowed, hplain⟩ := mem_marks_iff.mp hmark
    refine ⟨.badEnd ?_ hallowed hplain, hfits, first, _, rfl, hfirst, ?_⟩
    · rw [← List.cons_append, List.getLast?_concat]
    · exact List.forall_mem_append.mpr ⟨hmiddle, List.forall_mem_singleton.mpr hallowed⟩

/-- Any character behind the first that is not allowed is enough for one to be reported. -/
theorem exists_violation?_eq_badCharacter_iff {first : Char} {rest : Text}
    (hfits : Text.byteLength (first :: rest) ≤ rule.limit) (hfirst : first.isAlphanum = true) :
    (∃ found offset, rule.violation? (first :: rest) = some (.badCharacter found offset)) ↔
      ∃ c ∈ rest, rule.allows c = false := by
  constructor
  · rintro ⟨found, offset, hreported⟩
    obtain ⟨-, _, front, back, hname, -, -, hfound, -⟩ :=
      violation?_eq_badCharacter_iff.mp hreported
    obtain ⟨rfl, rfl⟩ := List.cons.inj hname
    exact ⟨found, List.mem_append_right front List.mem_cons_self, hfound⟩
  · rintro ⟨c, hc, hnot⟩
    have hsome : ∃ c ∈ first :: rest, (!rule.allows c) = true :=
      ⟨c, List.mem_cons_of_mem first hc, by simp [hnot]⟩
    obtain ⟨found, offset, hleftmost⟩ := Text.exists_leftmostAt_iff.mpr hsome
    exact ⟨found, offset, violation?_eq_badCharacter_iff_leftmostAt.mpr
      ⟨hleftmost, hfits, first, rest, rfl, hfirst⟩⟩

theorem reportsFirst (rule : Rule) (name : Text) :
    ReportsFirst rule.limit rule.marks name (rule.violation? name) where
  empty := violation?_eq_empty_iff
  tooLong _ _ := violation?_eq_tooLong_iff
  badStart _ := by
    simp only [mem_lettersAndDigits, Bool.not_eq_true]
    exact violation?_eq_badStart_iff
  badCharacter _ _ := by
    simp only [← allows_iff_mem, mem_lettersAndDigits, Bool.not_eq_true]
    exact violation?_eq_badCharacter_iff
  badEnd _ := by
    simp only [← allows_iff_mem, mem_lettersAndDigits]
    exact violation?_eq_badEnd_iff
  stranger first rest hname hfits hfirst := by
    subst hname
    simp only [← allows_iff_mem, Bool.not_eq_true]
    exact exists_violation?_eq_badCharacter_iff hfits (mem_lettersAndDigits.mp hfirst)

/-- Both checks report the first rule that a name breaks, with exact data: a subdomain has a limit
of 253 bytes and the dot and the hyphen for marks, a label a limit of 63 and the hyphen alone. -/
theorem violation?_reportsFirst (name : Text) :
    ReportsFirst 253 {'.', '-'} name (Rule.subdomain.violation? name) ∧
    ReportsFirst 63 {'-'} name (Rule.label.violation? name) :=
  ⟨reportsFirst .subdomain name, reportsFirst .label name⟩

/-- A dot is the first thing that is wrong with this name as a label, and an accented letter behind
it as a subdomain. The hyphen at the end is told for neither; without the letter the end is all that
is wrong with the subdomain. -/
theorem violation?_reportsFirst_of_dotted_name :
    Rule.label.violation? "a-.é-".toList = some (.badCharacter '.' 2) ∧
      Rule.subdomain.violation? "a-.é-".toList = some (.badCharacter 'é' 3) ∧
      Rule.subdomain.violation? "a-.-".toList = some (.badEnd '-') := by
  obtain ⟨hsubdomain, hlabel⟩ := violation?_reportsFirst "a-.é-".toList
  obtain ⟨hplain, -⟩ := violation?_reportsFirst "a-.-".toList
  have hletter : 'a' ∈ lettersAndDigits := mem_lettersAndDigits.mpr (by decide)
  have hdot : '.' ∉ lettersAndDigits := by
    rw [mem_lettersAndDigits]
    decide
  have haccented : 'é' ∉ lettersAndDigits := by
    rw [mem_lettersAndDigits]
    decide
  refine ⟨?_, ?_, ?_⟩
  · exact (hlabel.badCharacter '.' 2).mpr ⟨by decide +kernel, 'a', ['-'], "é-".toList,
      by decide +kernel, hletter, by simp, by simp [hdot], by decide +kernel, rfl⟩
  · exact (hsubdomain.badCharacter 'é' 3).mpr ⟨by decide +kernel, 'a', ['-', '.'], ['-'],
      by decide +kernel, hletter, by simp, by simp [haccented], by decide +kernel, rfl⟩
  · exact (hplain.badEnd '-').mpr ⟨by decide +kernel, 'a', ['-', '.'],
      by decide +kernel, hletter, by simp, by simp⟩

end Rule

end WorkloadNames.Dns
