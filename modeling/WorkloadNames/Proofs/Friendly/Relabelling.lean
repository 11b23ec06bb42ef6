import Mathlib.Data.List.DropRight
import Mathlib.Data.List.Induction
import WorkloadNames.Proofs.Friendly.Interchange

/-!
Names that are named again. A name of an image is a tag as good as any, and giving it with another
hash appends another fragment. A run of such steps grows by seven bytes at a time until the cap is
reached, and from there on the new fragment takes the place of the last one
(`relabelled?_bounded`). What each step does is told by `text?_imageName`, and what it keeps by
`IsLabel`: the letters, the length, the beginning and the end.
-/

set_option autoImplicit false
set_option relaxedAutoImplicit false

namespace WorkloadNames.Friendly

open Dns

variable {tag core name last next : Text} {hashes : List Text} {steps : Nat}

/-! ### One step -/

/-- A hash with which names can be named again: it passes for images, and what a name takes from it
belongs to the alphabet. -/
structure IsLabelHash (hash : Text) : Prop where
  long : 6 ≤ hash.length
  noColon : ':' ∉ hash
  noSlash : '/' ∉ hash
  spelled : ∀ c ∈ hash.rtake 6, isNameChar c = true

theorem IsLabelHash.isHash (h : IsLabelHash next) : IsHash 6 next :=
  isHash_iff.mpr ⟨h.long, h.noColon, h.noSlash⟩

theorem IsLabelHash.length_rtake (h : IsLabelHash next) : (next.rtake 6).length = 6 :=
  length_rtake_of_isHash h.isHash

/-- A text with a fragment behind it, cut to 253 characters at most. -/
def labelled (text hash : Text) : Text := text.take 246 ++ '-' :: hash.rtake 6

/-- What a step makes of a tag that is not empty once sanitized. -/
theorem text?_imageName (hne : sanitize tag ≠ []) (hnext : IsLabelHash next) :
    (imageName tag next).text? = some (labelled (sanitize tag) next) := by
  have hbytes : Text.byteLength (next.rtake 6) = 6 := by
    rw [(IsNameText.singleByte hnext.spelled).byteLength_eq, hnext.length_rtake]
  have hkept := (Sanitize.isNameText_sanitize tag).singleByte.within_eq_take 246
  rw [imageName_eq_built_iff.mpr ⟨hnext.isHash, hne, rfl⟩, Answer.text?, Name.text_capped, hbytes,
    labelled, ← hkept]

theorem isNameText_labelled (hname : IsNameText name) (hnext : IsLabelHash next) :
    IsNameText (labelled name next) := by
  have hkept : IsNameText (name.take 246) := fun c hc ↦ hname c (List.mem_of_mem_take hc)
  exact hkept.append (List.forall_mem_cons.mpr ⟨by decide, hnext.spelled⟩)

theorem length_labelled (hnext : IsLabelHash next) (name : Text) :
    (labelled name next).length = min 253 (name.length + 7) := by
  rw [labelled, List.length_append, List.length_cons, List.length_take, hnext.length_rtake]
  omega

/-! ### Runs -/

/-- The name that a tag comes to if it is given with one hash after the other and every name is the
next tag; nothing if a step has no name. -/
def relabelled? (tag : Text) (hashes : List Text) : Option Text :=
  hashes.foldlM (fun name hash ↦ (imageName name hash).text?) tag

theorem relabelled?_concat (tag : Text) (hashes : List Text) (next : Text) :
    relabelled? tag (hashes ++ [next]) =
      (relabelled? tag hashes).bind fun name ↦ (imageName name next).text? := by
  simp only [relabelled?, List.foldlM_append, List.foldlM_cons, List.foldlM_nil, bind_pure]
  rfl

/-- What is known of a name behind some steps, the last of them with the given hash. -/
structure IsLabel (core : Text) (steps : Nat) (last name : Text) : Prop where
  spelled : IsNameText name
  length : name.length = min 253 (core.length + 7 * steps)
  initial : core.take 246 <+: name
  final : '-' :: last.rtake 6 <:+ name

theorem isLabel_labelled (hcore : IsNameText core) (hnext : IsLabelHash next) :
    IsLabel core 1 next (labelled core next) where
  spelled := isNameText_labelled hcore hnext
  length := length_labelled hnext core
  initial := List.prefix_append _ _
  final := List.suffix_append _ _

theorem IsLabel.ne_nil (h : IsLabel core steps last name) : name ≠ [] := by
  rintro rfl
  exact List.cons_ne_nil _ _ (List.suffix_nil.mp h.final)

theorem IsLabel.sanitize_eq (h : IsLabel core steps last name) : sanitize name = name :=
  Sanitize.sanitize_eq_self_iff.mpr h.spelled

theorem IsLabel.text?_imageName (h : IsLabel core steps last name) (hnext : IsLabelHash next) :
    (imageName name next).text? = some (labelled name next) := by
  have hne : sanitize name ≠ [] := h.sanitize_eq.symm ▸ h.ne_nil
  rw [Friendly.text?_imageName hne hnext, h.sanitize_eq]

/-- A further step adds seven characters as long as there is room for them. -/
theorem IsLabel.labelled (h : IsLabel core steps last name) (hnext : IsLabelHash next) :
    IsLabel core (steps + 1) next (labelled name next) where
  spelled := isNameText_labelled h.spelled hnext
  length := by
    rw [length_labelled hnext, h.length]
    omega
  initial := by
    have hkept : core.take 246 <+: name.take 246 := by
      rw [List.prefix_take_iff]
      exact ⟨h.initial, List.length_take_le 246 core⟩
    exact hkept.trans (List.prefix_append _ _)
  final := List.suffix_append _ _

/-- A run never fails, and what each of its steps keeps holds of the name that it comes to. -/
theorem exists_relabelled? (hne : sanitize tag ≠ [])
    (hhashes : ∀ hash ∈ hashes ++ [last], IsLabelHash hash) :
    ∃ name, relabelled? tag (hashes ++ [last]) = some name ∧
      IsLabel (sanitize tag) (hashes.length + 1) last name := by
  induction hashes using List.reverseRecOn generalizing last with
  | nil =>
    have hlast : IsLabelHash last := hhashes last (by simp)
    refine ⟨_, ?_, isLabel_labelled (Sanitize.isNameText_sanitize tag) hlast⟩
    rw [relabelled?_concat]
    exact text?_imageName hne hlast
  | append_singleton hashes previous ih =>
    obtain ⟨hbefore, hlast⟩ := List.forall_mem_append.mp hhashes
    obtain ⟨name, hname, hlabel⟩ := ih hbefore
    have hstep : IsLabelHash last := hlast last (List.mem_singleton_self last)
    refine ⟨labelled name last, ?_, ?_⟩
    · rw [relabelled?_concat, hname, Option.bind_some, hlabel.text?_imageName hstep]
    · rw [List.length_append, List.length_singleton]
      exact hlabel.labelled hstep

/-- A name is read from its right end: six characters of the last hash, behind a hyphen. -/
theorem IsLabel.exists_front (h : IsLabel core steps last name) (hlast : IsLabelHash last) :
    ∃ front, name = front ++ '-' :: last.rtake 6 ∧ name.rdrop 6 = front ++ ['-'] := by
  obtain ⟨front, rfl⟩ := h.final
  have hdrop := @List.rdrop_append_length _ (front ++ ['-']) (last.rtake 6)
  rw [hlast.length_rtake, ← List.append_cons] at hdrop
  exact ⟨front, rfl, hdrop⟩

theorem IsLabel.rdrop_append_rtake (h : IsLabel core steps last name) (hlast : IsLabelHash last) :
    name.rdrop 6 ++ last.rtake 6 = name := by
  obtain ⟨front, hname, hdrop⟩ := h.exists_front hlast
  rw [hdrop, ← List.append_cons, ← hname]

/-- At the cap nothing in front of the last fragment changes any more. -/
theorem IsLabel.labelled_eq_of_full (h : IsLabel core steps last name) (hlast : IsLabelHash last)
    (hfull : name.length = 253) (next : Text) :
    Friendly.labelled name next = name.rdrop 6 ++ next.rtake 6 := by
  obtain ⟨front, hname, hdrop⟩ := h.exists_front hlast
  have hfront : front.length = 246 := by
    have hlength := hlast.length_rtake
    rw [hname, List.length_append, List.length_cons] at hfull
    omega
  rw [Friendly.labelled, hdrop, hname, List.take_left' hfront, List.append_cons]

/-- Naming names again stays bounded and comes to rest. Let a tag with a character of the alphabet
be given with a hash, its name with another hash, and so on, where what a name takes from a hash
belongs to the alphabet. Every step has a name. Behind `k` of them it has seven bytes for each step
more than the sanitized tag, but 253 at most; it begins with the first bytes of the sanitized tag,
up to 246 of them, and ends with a hyphen and the last six characters of the last hash. A name of
253 bytes only has its last six characters replaced by those of the next hash, so the hash used last
leaves it as it is. -/
theorem relabelled?_bounded {tag : Text} {hashes : List Text} {last : Text}
    (htag : ∃ c ∈ tag, isNameChar c = true)
    (hhashes : ∀ hash ∈ hashes ++ [last], IsLabelHash hash) :
    ∃ name, relabelled? tag (hashes ++ [last]) = some name ∧
      Text.byteLength name =
        min 253 (Text.byteLength (sanitize tag) + 7 * (hashes ++ [last]).length) ∧
      (sanitize tag).within (min (Text.byteLength (sanitize tag)) 246) <+: name ∧
      '-' :: last.rtake 6 <:+ name ∧
      (Text.byteLength name = 253 →
        (∀ next, IsLabelHash next →
          relabelled? tag (hashes ++ [last] ++ [next]) = some (name.rdrop 6 ++ next.rtake 6) ∧
          (imageName name next).text? = some (name.rdrop 6 ++ next.rtake 6)) ∧
        (imageName name last).text? = some name) := by
  obtain ⟨c, hc, husable⟩ := htag
  have hne : sanitize tag ≠ [] := by
    intro hnil
    exact absurd (Sanitize.sanitize_eq_nil_iff.mp hnil c hc) (by simp [husable])
  have hlast : IsLabelHash last := hhashes last (by simp)
  obtain ⟨name, hname, hlabel⟩ := exists_relabelled? hne hhashes
  have hcore := (Sanitize.isNameText_sanitize tag).singleByte
  have hbytes := hlabel.spelled.singleByte.byteLength_eq
  refine ⟨name, hname, ?bytes, ?initial, hlabel.final, fun hfull ↦ ?full⟩
  case bytes => rw [hbytes, hlabel.length, hcore.byteLength_eq, List.length_append,
    List.length_singleton]
  case initial =>
    rw [hcore.within_eq_take, hcore.byteLength_eq, Nat.min_comm, ← List.take_eq_take_min]
    exact hlabel.initial
  case full =>
    rw [hbytes] at hfull
    have hstep (next : Text) (hnext : IsLabelHash next) :
        (imageName name next).text? = some (name.rdrop 6 ++ next.rtake 6) := by
      rw [hlabel.text?_imageName hnext, hlabel.labelled_eq_of_full hlast hfull]
    refine ⟨fun next hnext ↦ ⟨?_, hstep next hnext⟩, ?_⟩
    · rw [relabelled?_concat, hname, Option.bind_some, hstep next hnext]
    · rw [hstep last hlast, hlabel.rdrop_append_rtake hlast]

/-- The cap is reached with the second hash, and the cut falls inside the fragment of the first. A
hash of hyphens then takes the place of the second one. -/
theorem relabelled?_bounded_of_cut_fragment :
    let tag := '/' :: List.replicate 240 'a'
    (∃ c ∈ tag, isNameChar c = true) ∧
      (∀ hash ∈ ["abc123".toList] ++ ["shé-x.-y9z".toList], IsLabelHash hash) ∧
      relabelled? tag ["abc123".toList, "shé-x.-y9z".toList] =
        some (List.replicate 240 'a' ++ "-abc12-x.-y9z".toList) ∧
      relabelled? tag ["abc123".toList, "shé-x.-y9z".toList, "------".toList] =
        some (List.replicate 240 'a' ++ "-abc12-------".toList) := by
  intro tag
  have hfirst : IsLabelHash "abc123".toList :=
    ⟨by decide, by decide, by decide, List.all_eq_true.mp (by decide +kernel)⟩
  have hsecond : IsLabelHash "shé-x.-y9z".toList :=
    ⟨by decide, by decide, by decide, List.all_eq_true.mp (by decide +kernel)⟩
  have hthird : IsLabelHash "------".toList :=
    ⟨by decide, by decide, by decide, List.all_eq_true.mp (by decide +kernel)⟩
  have htag : ∃ c ∈ tag, isNameChar c = true :=
    ⟨'a', List.mem_cons_of_mem '/' (List.mem_replicate.mpr ⟨by decide, rfl⟩), by decide⟩
  have hused : ∀ hash ∈ ["abc123".toList] ++ ["shé-x.-y9z".toList], IsLabelHash hash := by
    intro hash hhash
    rcases List.mem_pair.mp hhash with rfl | rfl
    · exact hfirst
    · exact hsecond
  obtain ⟨name, hname, -, -, -, hfull⟩ := relabelled?_bounded htag hused
  have hcapped : relabelled? tag ["abc123".toList, "shé-x.-y9z".toList] =
      some (List.replicate 240 'a' ++ "-abc12-x.-y9z".toList) := by decide +kernel
  obtain rfl := Option.some.inj (hname.symm.trans hcapped)
  obtain ⟨hnext, -⟩ := hfull (by decide +kernel)
  exact ⟨htag, hused, hcapped, (hnext _ hthird).1.trans (by decide +kernel)⟩

end WorkloadNames.Friendly
