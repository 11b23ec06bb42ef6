import WorkloadNames.Proofs.Dns.Breach
import WorkloadNames.Proofs.Friendly.Construction

/-!
What the check of an instance name comes to for its components. Only the assembled name is checked,
so the joining hyphens count as two bytes and stand in for the first or the last character where the
namespace or the name is empty. The alphabet binds all three components, the first character only
the namespace and the last only the name; the kind between them may be empty and may begin and end
as it likes. The first part says when a name is built, the second which violation is reported when
it is not: what is wrong with the assembled name is what is wrong with its components, with offsets
that are counted on from one component to the next.
-/

set_option autoImplicit false
set_option relaxedAutoImplicit false

namespace WorkloadNames.Friendly

open Dns

variable {namespaceName kind name hash : Text}

/-! ### The assembled name, part by part -/

theorem assembled_ne_nil : assembled namespaceName kind name ≠ [] := by
  rw [assembled_eq]
  exact List.append_ne_nil_of_right_ne_nil namespaceName (List.cons_ne_nil '-' _)

theorem byteLength_assembled :
    Text.byteLength (assembled namespaceName kind name) =
      Text.byteLength namespaceName + Text.byteLength kind + Text.byteLength name + 2 := by
  rw [assembled_eq, byteLength_append_hyphen, byteLength_append_hyphen]
  omega

/-- The first character is that of the namespace, or the hyphen behind an empty one. -/
theorem head?_assembled :
    (assembled namespaceName kind name).head? = some (namespaceName.head?.getD '-') := by
  rw [assembled_eq]
  cases namespaceName with
  | nil => rfl
  | cons first rest => rfl

/-- The last character is that of the name, or the hyphen before an empty one. -/
theorem getLast?_assembled :
    (assembled namespaceName kind name).getLast? = some (name.getLast?.getD '-') := by
  rw [assembled_eq, List.getLast?_append_cons, ← List.cons_append, List.getLast?_append_cons,
    List.getLast?_cons]

theorem isNameText_assembled_iff :
    IsNameText (assembled namespaceName kind name) ↔
      IsNameText namespaceName ∧ IsNameText kind ∧ IsNameText name := by
  have hhyphen : isNameChar '-' = true := by decide
  simp only [IsNameText, assembled_eq, List.forall_mem_append, List.forall_mem_cons, hhyphen,
    true_and]

/-- A joining hyphen in the place of a missing first or last character is no letter or digit. -/
theorem isAlphanum_getD_hyphen_iff {extreme? : Option Char} :
    (extreme?.getD '-').isAlphanum = true ↔ extreme?.any Char.isAlphanum = true := by
  cases extreme? with
  | none => decide
  | some c => rfl

theorem isName_assembled_iff :
    Rule.subdomain.IsName (assembled namespaceName kind name) ↔
      IsNameText namespaceName ∧ IsNameText kind ∧ IsNameText name ∧
        namespaceName.head?.any Char.isAlphanum = true ∧
        name.getLast?.any Char.isAlphanum = true ∧
        Text.byteLength namespaceName + Text.byteLength kind + Text.byteLength name + 2 ≤ 253 := by
  rw [← byteLength_assembled, ← isAlphanum_getD_hyphen_iff, ← isAlphanum_getD_hyphen_iff]
  constructor
  · intro h
    obtain ⟨hnamespace, hkind, hname⟩ := isNameText_assembled_iff.mp h.isNameText
    have hfirst := h.first
    have hlast := h.last
    rw [head?_assembled] at hfirst
    rw [getLast?_assembled] at hlast
    exact ⟨hnamespace, hkind, hname, hfirst, hlast, h.fits⟩
  · rintro ⟨hnamespace, hkind, hname, hfirst, hlast, hfits⟩
    refine ⟨hfits, isNameText_assembled_iff.mpr ⟨hnamespace, hkind, hname⟩, ?_, ?_⟩
    · rw [head?_assembled]
      exact hfirst
    · rw [getLast?_assembled]
      exact hlast

/-! ### When an instance name is built -/

/-- Whether a name is built is settled by the two checks. -/
theorem exists_instanceName_eq_built_iff :
    (∃ friendly, instanceName name namespaceName kind hash = .built friendly) ↔
      Rule.subdomain.IsName (assembled namespaceName kind name) ∧ IsHash 8 hash := by
  simp only [instanceName_eq_built_iff, exists_and_left, exists_eq, and_true]

/-- An instance name is built exactly when its components are over the alphabet, the namespace
begins and the name ends with a letter or digit, all of it fits into 253 bytes, and the hash has at
least eight characters and neither a colon nor a slash. Between that first and that last character
nothing is asked of any end: the namespace may end, the kind begin and end and the name begin with
hyphens and dots, and the kind may be empty. -/
theorem instanceName_built_iff_components :
    (∀ namespaceName kind name hash : Text,
      (∃ friendly, instanceName name namespaceName kind hash = .built friendly) ↔
        (∀ c ∈ namespaceName, isNameChar c = true) ∧ (∀ c ∈ kind, isNameChar c = true) ∧
        (∀ c ∈ name, isNameChar c = true) ∧
        namespaceName.head?.any Char.isAlphanum = true ∧
        name.getLast?.any Char.isAlphanum = true ∧
        Text.byteLength namespaceName + Text.byteLength kind + Text.byteLength name + 2 ≤ 253 ∧
        8 ≤ hash.length ∧ ':' ∉ hash ∧ '/' ∉ hash) ∧
    ∀ (first last : Char) (rest kind front hash : Text),
      first.isAlphanum = true → last.isAlphanum = true →
      (∀ c ∈ rest, isNameChar c = true) → (∀ c ∈ kind, isNameChar c = true) →
      (∀ c ∈ front, isNameChar c = true) →
      rest.length + kind.length + front.length + 4 ≤ 253 →
      8 ≤ hash.length → ':' ∉ hash → '/' ∉ hash →
      ∃ friendly, instanceName (front ++ [last]) (first :: rest) kind hash = .built friendly := by
  constructor
  · intro namespaceName kind name hash
    rw [exists_instanceName_eq_built_iff, isName_assembled_iff, isHash_iff]
    simp only [IsNameText, and_assoc]
  · intro first last rest kind front hash hfirst hlast hrest hkind hfront hfits hlong hcolon hslash
    have hnamespace : IsNameText (first :: rest) :=
      List.forall_mem_cons.mpr ⟨isNameChar_of_isAlphanum hfirst, hrest⟩
    have hname : IsNameText (front ++ [last]) :=
      IsNameText.append hfront (List.forall_mem_singleton.mpr (isNameChar_of_isAlphanum hlast))
    have hbytes : Text.byteLength (first :: rest) + Text.byteLength kind +
        Text.byteLength (front ++ [last]) + 2 ≤ 253 := by
      rw [hnamespace.singleByte.byteLength_eq, IsNameText.singleByte hkind |>.byteLength_eq,
        hname.singleByte.byteLength_eq, List.length_cons, List.length_append, List.length_singleton]
      omega
    have hend : (front ++ [last]).getLast?.any Char.isAlphanum = true := by
      rw [List.getLast?_concat]
      exact hlast
    exact exists_instanceName_eq_built_iff.mpr
      ⟨isName_assembled_iff.mpr ⟨hnamespace, hkind, hname, hfirst, hend, hbytes⟩,
        isHash_iff.mpr ⟨hlong, hcolon, hslash⟩⟩

/-- Dots and hyphens at all four inner ends, with a kind of nothing else and with no kind at all. -/
theorem instanceName_built_iff_components_of_marked_ends :
    (∃ friendly, instanceName ".-b".toList "a-.".toList "-..-".toList "é-.😀1234".toList =
      .built friendly) ∧
    ∃ friendly, instanceName ".-b".toList "a-.".toList [] "é-.😀1234".toList = .built friendly := by
  have hrest : ∀ c ∈ "-.".toList, isNameChar c = true := List.all_eq_true.mp rfl
  have hkind : ∀ c ∈ "-..-".toList, isNameChar c = true := List.all_eq_true.mp rfl
  have hfront : ∀ c ∈ ".-".toList, isNameChar c = true := List.all_eq_true.mp rfl
  obtain ⟨hlong, hcolon, hslash⟩ :
      8 ≤ "é-.😀1234".toList.length ∧ ':' ∉ "é-.😀1234".toList ∧ '/' ∉ "é-.😀1234".toList := by
    decide
  constructor
  · exact instanceName_built_iff_components.2 'a' 'b' _ _ _ _ rfl rfl hrest hkind hfront
      (by decide) hlong hcolon hslash
  · exact instanceName_built_iff_components.2 'a' 'b' _ [] _ _ rfl rfl hrest (List.forall_mem_nil _)
      hfront (by decide) hlong hcolon hslash

/-! ### What is wrong with the components -/

/-- What is wrong with the components of an instance, each by itself. A joining hyphen is reported
where the namespace or the name is empty, and nowhere else; offsets count from the beginning of the
assembled name. -/
inductive ComponentBreach (namespaceName kind name : Text) : Violation → Prop where
  | tooLong :
      253 < Text.byteLength namespaceName + Text.byteLength kind + Text.byteLength name + 2 →
      ComponentBreach namespaceName kind name (.tooLong
        (Text.byteLength namespaceName + Text.byteLength kind + Text.byteLength name + 2) 253)
  | emptyNamespace : namespaceName = [] → ComponentBreach namespaceName kind name (.badStart '-')
  | badStart {first : Char} : namespaceName.head? = some first → first.isAlphanum = false →
      ComponentBreach namespaceName kind name (.badStart first)
  | inNamespace {found : Char} {offset : Nat} :
      namespaceName.LeftmostAt (fun c ↦ !isNameChar c) found offset →
      ComponentBreach namespaceName kind name (.badCharacter found offset)
  | inKind {found : Char} {offset : Nat} : (∀ c ∈ namespaceName, isNameChar c = true) →
      kind.LeftmostAt (fun c ↦ !isNameChar c) found offset →
      ComponentBreach namespaceName kind name
        (.badCharacter found (Text.byteLength namespaceName + 1 + offset))
  | inName {found : Char} {offset : Nat} : (∀ c ∈ namespaceName, isNameChar c = true) →
      (∀ c ∈ kind, isNameChar c = true) →
      name.LeftmostAt (fun c ↦ !isNameChar c) found offset →
      ComponentBreach namespaceName kind name (.badCharacter found
        (Text.byteLength namespaceName + 1 + Text.byteLength kind + 1 + offset))
  | emptyName : name = [] → ComponentBreach namespaceName kind name (.badEnd '-')
  | badEnd {last : Char} : name.getLast? = some last → last = '-' ∨ last = '.' →
      ComponentBreach namespaceName kind name (.badEnd last)

/-- A joining hyphen is of the alphabet, so it is never found; it only counts as a byte. -/
theorem leftmostAt_append_hyphen_iff {front back : Text} {found : Char} {offset : Nat} :
    (front ++ '-' :: back).LeftmostAt (fun c ↦ !isNameChar c) found offset ↔
      front.LeftmostAt (fun c ↦ !isNameChar c) found offset ∨
        IsNameText front ∧ ∃ past, back.LeftmostAt (fun c ↦ !isNameChar c) found past ∧
          offset = Text.byteLength front + 1 + past := by
  have hhyphen : (!isNameChar '-') = false := by decide
  have hfront : (∀ c ∈ front, (!isNameChar c) = false) ↔ IsNameText front := by
    simp only [IsNameText, Bool.not_eq_false']
  rw [Text.leftmostAt_append_iff, hfront]
  refine or_congr Iff.rfl (and_congr_right fun _ ↦ ?_)
  simp only [Text.leftmostAt_cons_of_neg (p := fun c ↦ !isNameChar c) hhyphen]
  constructor
  · rintro ⟨_, ⟨past, hpast, rfl⟩, rfl⟩
    exact ⟨past, hpast, (Nat.add_assoc _ 1 past).symm⟩
  · rintro ⟨past, hpast, rfl⟩
    exact ⟨1 + past, ⟨past, hpast, rfl⟩, Nat.add_assoc _ 1 past⟩

/-- The leftmost character outside the alphabet stands in the first component that has one. -/
theorem leftmostAt_assembled_iff {found : Char} {offset : Nat} :
    (assembled namespaceName kind name).LeftmostAt (fun c ↦ !isNameChar c) found offset ↔
      namespaceName.LeftmostAt (fun c ↦ !isNameChar c) found offset ∨
      (IsNameText namespaceName ∧ ∃ past, kind.LeftmostAt (fun c ↦ !isNameChar c) found past ∧
        offset = Text.byteLength namespaceName + 1 + past) ∨
      (IsNameText namespaceName ∧ IsNameText kind ∧
        ∃ past, name.LeftmostAt (fun c ↦ !isNameChar c) found past ∧
          offset = Text.byteLength namespaceName + 1 + Text.byteLength kind + 1 + past) := by
  rw [assembled_eq, leftmostAt_append_hyphen_iff]
  refine or_congr Iff.rfl ?_
  constructor
  · rintro ⟨hnamespace, _, hrest, rfl⟩
    rcases leftmostAt_append_hyphen_iff.mp hrest with hfound | ⟨hkind, past, hfound, rfl⟩
    · exact Or.inl ⟨hnamespace, _, hfound, rfl⟩
    · exact Or.inr ⟨hnamespace, hkind, past, hfound, by omega⟩
  · rintro (⟨hnamespace, past, hfound, rfl⟩ | ⟨hnamespace, hkind, past, hfound, rfl⟩)
    · exact ⟨hnamespace, past, leftmostAt_append_hyphen_iff.mpr (Or.inl hfound), rfl⟩
    · exact ⟨hnamespace, Text.byteLength kind + 1 + past,
        leftmostAt_append_hyphen_iff.mpr (Or.inr ⟨hkind, past, hfound, rfl⟩), by omega⟩

/-- What is wrong with the assembled name is what is wrong with its components. -/
theorem breach_assembled_iff {violation : Violation} :
    Rule.subdomain.Breach (assembled namespaceName kind name) violation ↔
      ComponentBreach namespaceName kind name violation := by
  constructor
  · intro h
    cases h with
    | empty hnil => exact absurd hnil assembled_ne_nil
    | tooLong hlong =>
      rw [byteLength_assembled] at hlong ⊢
      exact .tooLong hlong
    | badStart hhead hplain =>
      rw [head?_assembled, Option.some.injEq] at hhead
      subst hhead
      cases hnamespace : namespaceName.head? with
      | none => exact .emptyNamespace (List.head?_eq_none_iff.mp hnamespace)
      | some first =>
        rw [hnamespace] at hplain
        exact .badStart hnamespace hplain
    | badCharacter hleftmost =>
      rcases leftmostAt_assembled_iff.mp hleftmost with hfound | ⟨hnamespace, past, hfound, rfl⟩ |
        ⟨hnamespace, hkind, past, hfound, rfl⟩
      · exact .inNamespace hfound
      · exact .inKind hnamespace hfound
      · exact .inName hnamespace hkind hfound
    | badEnd hlast hallowed hplain =>
      rw [getLast?_assembled, Option.some.injEq] at hlast
      subst hlast
      have hmark := isNameChar_and_not_isAlphanum_iff.mp ⟨hallowed, hplain⟩
      cases hname : name.getLast? with
      | none => exact .emptyName (List.getLast?_eq_none_iff.mp hname)
      | some last =>
        rw [hname] at hmark
        exact .badEnd hname hmark
  · intro h
    cases h with
    | tooLong hlong =>
      rw [← byteLength_assembled] at hlong ⊢
      exact .tooLong hlong
    | emptyNamespace hnil =>
      subst hnil
      exact .badStart head?_assembled (by decide)
    | badStart hhead hplain =>
      refine .badStart ?_ hplain
      rw [head?_assembled, hhead, Option.getD_some]
    | inNamespace hfound =>
      exact .badCharacter (leftmostAt_assembled_iff.mpr (Or.inl hfound))
    | inKind hnamespace hfound =>
      exact .badCharacter
        (leftmostAt_assembled_iff.mpr (Or.inr (Or.inl ⟨hnamespace, _, hfound, rfl⟩)))
    | inName hnamespace hkind hfound =>
      exact .badCharacter
        (leftmostAt_assembled_iff.mpr (Or.inr (Or.inr ⟨hnamespace, hkind, _, hfound, rfl⟩)))
    | emptyName hnil =>
      subst hnil
      exact .badEnd getLast?_assembled (by decide) (by decide)
    | badEnd hlast hmark =>
      obtain ⟨hallowed, hplain⟩ := isNameChar_and_not_isAlphanum_iff.mpr hmark
      refine .badEnd ?_ hallowed hplain
      rw [getLast?_assembled, hlast, Option.getD_some]

/-- The check of the assembled name reports the first thing that is wrong with its components. -/
theorem violation?_assembled_eq_some_iff {violation : Violation} :
    Rule.subdomain.violation? (assembled namespaceName kind name) = some violation ↔
      MinimalFor (ComponentBreach namespaceName kind name) Violation.precedence violation := by
  have hbreach : Rule.subdomain.Breach (assembled namespaceName kind name) =
      ComponentBreach namespaceName kind name := by
    ext v
    exact breach_assembled_iff
  rw [Rule.violation?_eq_some_iff, hbreach]

/-- A character is found inside the component that holds it, never at a joining hyphen. -/
theorem ComponentBreach.offset_ne {found : Char} {offset : Nat}
    (h : ComponentBreach namespaceName kind name (.badCharacter found offset)) :
    offset ≠ Text.byteLength namespaceName ∧
      offset ≠ Text.byteLength namespaceName + 1 + Text.byteLength kind := by
  cases h with
  | inNamespace hfound =>
    have hinside := hfound.lt_byteLength
    omega
  | inKind _ hfound =>
    have hinside := hfound.lt_byteLength
    omega
  | inName => omega

theorem not_componentBreach {violation : Violation}
    (h : Rule.subdomain.violation? (assembled namespaceName kind name) = none) :
    ¬ComponentBreach namespaceName kind name violation := by
  rw [← breach_assembled_iff]
  exact (Rule.violation?_eq_none_iff.mp h).not_breach

/-- Where some kind is accepted between a namespace and a name, another can only make the whole too
long or bring in a character that is outside the alphabet. -/
theorem tooLong_or_badCharacter_of_kind {other : Text} {violation : Violation}
    (hother : Rule.subdomain.violation? (assembled namespaceName other name) = none)
    (h : Rule.subdomain.violation? (assembled namespaceName kind name) = some violation) :
    (∃ length, violation = .tooLong length 253) ∨
      ∃ found offset, violation = .badCharacter found offset ∧ found ∈ kind := by
  have hkept : ∀ v, ¬ComponentBreach namespaceName other name v :=
    fun _ ↦ not_componentBreach hother
  obtain ⟨-, hotherKind, -⟩ := isName_assembled_iff.mp (Rule.violation?_eq_none_iff.mp hother)
  -- what is wrong with the namespace or the name would be wrong beside the other kind as well
  cases (violation?_assembled_eq_some_iff.mp h).prop with
  | tooLong => exact Or.inl ⟨_, rfl⟩
  | inKind _ hfound => exact Or.inr ⟨_, _, rfl, hfound.mem⟩
  | emptyNamespace hnil => exact absurd (.emptyNamespace hnil) (hkept _)
  | badStart hhead hplain => exact absurd (.badStart hhead hplain) (hkept _)
  | inNamespace hfound => exact absurd (.inNamespace hfound) (hkept _)
  | inName hnamespace _ hfound => exact absurd (.inName hnamespace hotherKind hfound) (hkept _)
  | emptyName hnil => exact absurd (.emptyName hnil) (hkept _)
  | badEnd hlast hmark => exact absurd (.badEnd hlast hmark) (hkept _)

end WorkloadNames.Friendly
