import WorkloadNames.Proofs.Dns.FirstBreach

/-!
Labels as short subdomains without dots. The two rules differ in their limit and in the dot, and
where neither comes into play the two checks report the same (`violation?_congr`). A dot is a
stranger to a label and to nothing else, so the leftmost stranger to a label is the leftmost dot or
the leftmost stranger to a subdomain, whichever comes first. What the check of a label reports can
therefore be read off the check of the name as a subdomain and the place of its first dot
(`label_violation?_of_subdomain`).
-/

set_option autoImplicit false
set_option relaxedAutoImplicit false

namespace WorkloadNames.Dns

/-- Whether a violation is told before the character at an offset is looked at: the first character
is judged before all others, and those behind it from left to right. -/
def Violation.isToldBefore (offset : Nat) : Violation → Bool
  | .badStart _ => true
  | .badCharacter _ place => place < offset
  | _ => false

namespace Rule

variable {rule other : Rule} {name : Text} {offset : Nat}

/-! ### What the rules share -/

theorem label_allows_iff {c : Char} :
    Rule.label.allows c = true ↔ Rule.subdomain.allows c = true ∧ c ≠ '.' := by
  simp [allows]

/-- A label is a subdomain that is short enough and has no dot. -/
theorem isName_label_iff :
    Rule.label.IsName name ↔
      Rule.subdomain.IsName name ∧ Text.byteLength name ≤ 63 ∧ '.' ∉ name := by
  constructor
  · intro h
    refine ⟨⟨h.fits.trans (by decide), fun c hc ↦ (label_allows_iff.mp (h.allowed c hc)).1,
      h.first, h.last⟩, h.fits, fun hdot ↦ ?_⟩
    exact absurd (h.allowed '.' hdot) (by decide)
  · rintro ⟨h, hfits, hdot⟩
    refine ⟨hfits, fun c hc ↦ label_allows_iff.mpr ⟨h.allowed c hc, ?_⟩, h.first, h.last⟩
    rintro rfl
    exact hdot hc

theorem Breach.congr {violation : Violation}
    (hallows : ∀ c ∈ name, rule.allows c = other.allows c)
    (hfits : Text.byteLength name ≤ rule.limit) (h : rule.Breach name violation) :
    other.Breach name violation := by
  cases h with
  | empty hnil => exact .empty hnil
  | tooLong hlong => exact absurd hfits (Nat.not_le.mpr hlong)
  | badStart hhead hplain => exact .badStart hhead hplain
  | badCharacter hleftmost =>
    exact .badCharacter (hleftmost.congr fun c hc ↦ congrArg Bool.not (hallows c hc))
  | badEnd hlast hallowed hplain =>
    exact .badEnd hlast (hallows _ (List.mem_of_getLast? hlast) ▸ hallowed) hplain

/-- Rules that agree on the characters of a name find the same wrong with it, if both have room for
it. -/
theorem violation?_congr (hallows : ∀ c ∈ name, rule.allows c = other.allows c)
    (hfits : Text.byteLength name ≤ rule.limit) (hfitsOther : Text.byteLength name ≤ other.limit) :
    rule.violation? name = other.violation? name := by
  have hbreaches : rule.Breach name = other.Breach name := by
    funext violation
    exact propext ⟨.congr hallows hfits, .congr (fun c hc ↦ (hallows c hc).symm) hfitsOther⟩
  ext violation
  rw [violation?_eq_some_iff, violation?_eq_some_iff, hbreaches]

/-! ### Names with a dot -/

theorem label_stranger_eq :
    (fun c ↦ !Rule.label.allows c) = fun c ↦ c == '.' || !Rule.subdomain.allows c := by
  funext c
  simp only [allows, bne, Bool.not_and, Bool.not_not]
  exact Bool.or_comm _ _

/-- Behind a good start only a stranger can be told before a character is looked at. -/
theorem any_isToldBefore_iff {first : Char} {rest : Text} (hfirst : first.isAlphanum = true) :
    (rule.violation? (first :: rest)).any (Violation.isToldBefore offset) = true ↔
      ∃ found place, rule.violation? (first :: rest) = some (.badCharacter found place) ∧
        place < offset := by
  rw [Option.any_eq_true]
  constructor
  · rintro ⟨violation, hviolation, htold⟩
    cases violation with
    | badStart ch =>
      obtain ⟨-, _, hname, hplain⟩ := violation?_eq_badStart_iff.mp hviolation
      obtain ⟨rfl, -⟩ := List.cons.inj hname
      exact absurd hfirst (by simp [hplain])
    | badCharacter found place => exact ⟨found, place, hviolation, of_decide_eq_true htold⟩
    | _ => exact absurd htold Bool.false_ne_true
  · rintro ⟨found, place, hviolation, hplace⟩
    exact ⟨_, hviolation, decide_eq_true hplace⟩

/-- Behind a good start a label is refused for its first dot, unless a stranger to both rules stands
in front of that. -/
theorem label_violation?_of_leftmostAt_dot {first : Char} {rest : Text}
    (hfits : Text.byteLength (first :: rest) ≤ 63) (hfirst : first.isAlphanum = true)
    (hdot : Text.LeftmostAt (· == '.') (first :: rest) '.' offset) :
    Rule.label.violation? (first :: rest) =
      if (Rule.subdomain.violation? (first :: rest)).any (Violation.isToldBefore offset) then
        Rule.subdomain.violation? (first :: rest)
      else some (.badCharacter '.' offset) := by
  have hroom : Text.byteLength (first :: rest) ≤ Rule.subdomain.limit := hfits.trans (by decide)
  obtain ⟨found, place, hleftmost⟩ :
      ∃ found place, Text.LeftmostAt (fun c ↦ !Rule.label.allows c) (first :: rest) found place :=
    Text.exists_leftmostAt_iff.mpr ⟨'.', hdot.mem, by decide⟩
  have hlabel : Rule.label.violation? (first :: rest) = some (.badCharacter found place) :=
    violation?_eq_badCharacter_iff_leftmostAt.mpr ⟨hleftmost, hfits, first, rest, rfl, hfirst⟩
  rw [label_stranger_eq] at hleftmost
  rcases hleftmost.of_or with hfirstDot | ⟨hnot, hstranger⟩
  · -- the dot itself: strangers to a subdomain are strangers to a label and come no sooner
    obtain ⟨rfl, rfl⟩ := hfirstDot.unique hdot
    rw [hlabel, if_neg]
    rw [any_isToldBefore_iff hfirst]
    rintro ⟨other, behind, hother, hbefore⟩
    obtain ⟨hlater, -⟩ := violation?_eq_badCharacter_iff_leftmostAt.mp hother
    rcases hleftmost.eq_or_lt hlater fun c hc ↦ by simp [hc] with ⟨-, heq⟩ | hbehind
    · exact absurd heq hbefore.ne'
    · exact absurd hbehind hbefore.asymm
  · have hsubdomain : Rule.subdomain.violation? (first :: rest) =
        some (.badCharacter found place) :=
      violation?_eq_badCharacter_iff_leftmostAt.mpr ⟨hstranger, hroom, first, rest, rfl, hfirst⟩
    rcases hleftmost.eq_or_lt hdot fun c hc ↦ by simp [hc] with ⟨heq, -⟩ | hbefore
    · exact absurd hnot (by simp [heq])
    · rw [hlabel, if_pos ((any_isToldBefore_iff hfirst).mpr ⟨found, place, hsubdomain, hbefore⟩),
        hsubdomain]

/-- A bad start is the same to both rules. -/
theorem label_violation?_of_bad_start {first : Char} {rest : Text}
    (hfits : Text.byteLength (first :: rest) ≤ 63) (hfirst : first.isAlphanum = false) :
    Rule.label.violation? (first :: rest) = some (.badStart first) ∧
      Rule.subdomain.violation? (first :: rest) = some (.badStart first) :=
  ⟨violation?_eq_badStart_iff.mpr ⟨hfits, rest, rfl, hfirst⟩,
    violation?_eq_badStart_iff.mpr ⟨hfits.trans (by decide), rest, rfl, hfirst⟩⟩

/-! ### The check of a label, read off the check of a subdomain -/

/-- The check of a label is the check of a subdomain, restricted to short names without a dot. Of a
name that is short enough it reports the same if there is no dot in it. Otherwise it reports the
same where that is told before the first dot is looked at, which is a bad start or a character in
front of the dot, and that dot in every other case, be the name accepted as a subdomain or not. So
the labels are exactly the subdomains of at most 63 bytes that have no dot. -/
theorem label_violation?_of_subdomain (name : Text) :
    (Text.byteLength name ≤ 63 → '.' ∉ name →
      Rule.label.violation? name = Rule.subdomain.violation? name) ∧
    (∀ front back, Text.byteLength name ≤ 63 → name = front ++ '.' :: back → '.' ∉ front →
      Rule.label.violation? name =
        if (Rule.subdomain.violation? name).any (Violation.isToldBefore (Text.byteLength front))
        then Rule.subdomain.violation? name
        else some (.badCharacter '.' (Text.byteLength front))) ∧
    (Rule.label.accepts name = true ↔
      Rule.subdomain.accepts name = true ∧ Text.byteLength name ≤ 63 ∧ '.' ∉ name) := by
  refine ⟨fun hfits hnodot ↦ ?_, fun front back hfits hname hfront ↦ ?_, ?_⟩
  · refine violation?_congr (fun c hc ↦ ?_) hfits (hfits.trans (by decide))
    have hc : c ≠ '.' := fun heq ↦ hnodot (heq ▸ hc)
    simp [allows, hc]
  · have hdot : name.LeftmostAt (· == '.') '.' (Text.byteLength front) :=
      ⟨front, back, hname, fun c hc ↦ beq_false_of_ne fun heq ↦ hfront (heq ▸ hc), rfl, rfl⟩
    obtain ⟨first, rest, rfl⟩ := List.exists_cons_of_ne_nil (List.ne_nil_of_mem hdot.mem)
    cases hfirst : first.isAlphanum with
    | true => exact label_violation?_of_leftmostAt_dot hfits hfirst hdot
    | false =>
      obtain ⟨hlabel, hsubdomain⟩ := label_violation?_of_bad_start hfits hfirst
      rw [hlabel, hsubdomain]
      rfl
  · rw [accepts_iff_isName, accepts_iff_isName, isName_label_iff]

/-- The hyphen at the end of the first name is all that is wrong with it under either rule. Of the
next two, one has a stranger in front of its dot and the other behind it, where it is not told; a
dot is told instead of a hyphen at the end, and of a name that is a subdomain. -/
theorem label_violation?_of_subdomain_of_early_and_late_dots :
    Rule.label.violation? "web-".toList = Rule.subdomain.violation? "web-".toList ∧
      Rule.label.violation? "aé.b".toList = some (.badCharacter 'é' 1) ∧
      Rule.label.violation? "aé.b".toList = Rule.subdomain.violation? "aé.b".toList ∧
      Rule.label.violation? "a.é".toList = some (.badCharacter '.' 1) ∧
      Rule.label.violation? "a.b-".toList = some (.badCharacter '.' 1) ∧
      Rule.label.violation? "docker.io".toList = some (.badCharacter '.' 6) ∧
      Rule.label.accepts "docker-io".toList = true := by
  obtain ⟨hsame, -, -⟩ := label_violation?_of_subdomain "web-".toList
  obtain ⟨-, hearly, -⟩ := label_violation?_of_subdomain "aé.b".toList
  obtain ⟨-, hlate, -⟩ := label_violation?_of_subdomain "a.é".toList
  obtain ⟨-, hend, -⟩ := label_violation?_of_subdomain "a.b-".toList
  obtain ⟨-, haccepted, -⟩ := label_violation?_of_subdomain "docker.io".toList
  obtain ⟨-, -, hlabel⟩ := label_violation?_of_subdomain "docker-io".toList
  have htold := hearly ['a', 'é'] ['b'] (by decide +kernel) (by decide +kernel) (by decide +kernel)
  refine ⟨hsame (by decide +kernel) (by decide +kernel), htold.trans (by decide +kernel),
    htold.trans (if_pos (by decide +kernel)), ?_, ?_, ?_, ?_⟩
  · exact (hlate ['a'] ['é'] (by decide +kernel) (by decide +kernel) (by decide +kernel)).trans
      (by decide +kernel)
  · exact (hend ['a'] ['b', '-'] (by decide +kernel) (by decide +kernel)
      (by decide +kernel)).trans (by decide +kernel)
  · exact (haccepted "docker".toList "io".toList (by decide +kernel) (by decide +kernel)
      (by decide +kernel)).trans (by decide +kernel)
  · exact hlabel.mpr ⟨by decide +kernel, by decide +kernel, by decide +kernel⟩

end Rule

end WorkloadNames.Dns
