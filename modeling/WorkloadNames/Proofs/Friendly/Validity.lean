import WorkloadNames.Proofs.Friendly.Cap

/-!
When a friendly name is a DNS subdomain. The identifier brings its first character and the alphabet,
and the hash brings the rest: a hash may hold any character but the two separators, and a tag may
begin with a dot or a hyphen. A cut of the identifier makes no difference, since what is left behind
the cut is the hyphen and the fragments.
-/

set_option autoImplicit false
set_option relaxedAutoImplicit false

namespace WorkloadNames.Friendly

open Dns
open Text (length_rtake)

/-- A cut identifier still begins as the whole does, and the suffix stands at the end. -/
theorem accepts_capped_iff {identifier suffix : Text} (hidentifier : IsNameText identifier)
    (hne : identifier ≠ []) (hsuffix : suffix.length ≤ 9) (hsuffixne : suffix ≠ []) :
    Rule.subdomain.accepts (Name.capped identifier suffix).text = true ↔
      identifier.head?.any Char.isAlphanum = true ∧ IsNameText suffix ∧
        suffix.getLast?.any Char.isAlphanum = true := by
  have hcapped := isCapped_within hidentifier hne hsuffix
  rw [Name.text_capped, Rule.accepts_iff_isName]
  generalize identifier.within (252 - Text.byteLength suffix) = kept at hcapped ⊢
  have hfirst : (kept ++ '-' :: suffix).head? = identifier.head? := by
    obtain ⟨c, rest, rfl⟩ := List.exists_cons_of_ne_nil hcapped.nonempty
    obtain ⟨tail, rfl⟩ := hcapped.initial
    rfl
  have hlast : (kept ++ '-' :: suffix).getLast? = suffix.getLast? := by
    rw [List.getLast?_append_of_ne_nil kept (List.cons_ne_nil '-' suffix),
      List.getLast?_cons_of_ne_nil hsuffixne]
  constructor
  · intro h
    refine ⟨hfirst ▸ h.first, ?_, hlast ▸ h.last⟩
    intro c hc
    exact h.allowed c (List.mem_append_right kept (List.mem_cons_of_mem '-' hc))
  · rintro ⟨hstart, hspelled, hend⟩
    have hkept : IsNameText kept := fun c hc ↦ hidentifier c (hcapped.initial.subset hc)
    have hhyphen : IsNameText ('-' :: suffix) := List.forall_mem_cons.mpr ⟨by decide, hspelled⟩
    exact ⟨hcapped.fits, hkept.append hhyphen, hfirst.symm ▸ hstart, hlast.symm ▸ hend⟩

/-- The last characters of a hash end as the hash does. -/
theorem getLast?_rtake {text : Text} {count : Nat} (hpos : 0 < count) (hlong : count ≤ text.length) :
    (text.rtake count).getLast? = text.getLast? := by
  rw [List.rtake, List.getLast?_drop, if_neg (by omega)]

theorem isNameText_instanceFragments_iff {hash : Text} :
    IsNameText (instanceFragments hash) ↔
      IsNameText (hash.take 4) ∧ IsNameText (hash.rtake 4) := by
  have hhyphen : isNameChar '-' = true := by decide
  simp only [IsNameText, instanceFragments, List.forall_mem_append, List.forall_mem_cons, hhyphen,
    true_and]

theorem getLast?_instanceFragments {hash : Text} (hhash : IsHash 8 hash) :
    (instanceFragments hash).getLast? = hash.getLast? := by
  have hlong := hhash.long
  have hne : hash.rtake 4 ≠ [] := by
    intro hnil
    have hlength := length_rtake hash 4
    rw [hnil, List.length_nil] at hlength
    omega
  have hlast := getLast?_rtake (by decide : 0 < 4) (by omega : 4 ≤ hash.length)
  rw [instanceFragments, List.getLast?_append_of_ne_nil _ (List.cons_ne_nil '-' _),
    List.getLast?_cons_of_ne_nil hne, hlast]

theorem getLast?_any_of_forall {text : Text} {p : Char → Bool} (hne : text ≠ [])
    (hall : ∀ c ∈ text, p c = true) : text.getLast?.any p = true := by
  rw [List.getLast?_eq_some_getLast hne]
  exact hall _ (List.getLast_mem hne)

/-- A sanitized tag is over the alphabet already, so its first character and the hash decide. -/
theorem accepts_imageName_iff {tag hash : Text} {image : Name}
    (hbuilt : imageName tag hash = .built image) :
    Rule.subdomain.accepts image.text = true ↔
      (sanitize tag).head?.any Char.isAlphanum = true ∧ IsNameText (hash.rtake 6) ∧
        hash.getLast?.any Char.isAlphanum = true := by
  obtain ⟨hhash, hne, rfl⟩ := imageName_eq_built_iff.mp hbuilt
  have hlong := hhash.long
  have hlength := length_rtake hash 6
  have hsuffixne : hash.rtake 6 ≠ [] := List.ne_nil_of_length_pos (by omega)
  rw [accepts_capped_iff (Sanitize.isNameText_sanitize tag) hne (by omega)
    hsuffixne, getLast?_rtake (by decide) hlong]

/-- The components have been checked already, so the hash alone decides. -/
theorem accepts_instanceName_iff {name namespaceName kind hash : Text} {friendly : Name}
    (hbuilt : instanceName name namespaceName kind hash = .built friendly) :
    Rule.subdomain.accepts friendly.text = true ↔
      IsNameText (hash.take 4) ∧ IsNameText (hash.rtake 4) ∧
        hash.getLast?.any Char.isAlphanum = true := by
  obtain ⟨hname, hhash, rfl⟩ := instanceName_eq_built_iff.mp hbuilt
  have hlength := length_instanceFragments_of_isHash hhash
  have hsuffixne : instanceFragments hash ≠ [] := List.ne_nil_of_length_pos (by omega)
  rw [accepts_capped_iff hname.isNameText hname.ne_nil hlength.le hsuffixne,
    isNameText_instanceFragments_iff, getLast?_instanceFragments hhash, and_assoc]
  exact and_iff_right hname.first

/-- The exact condition for a friendly name to be a DNS subdomain, of images and of instances, cut
or not; for hashes of letters and digits only the first character of an image tag is left of it. -/
theorem accepts_text_iff :
    (∀ tag hash image, imageName tag hash = .built image →
      (Rule.subdomain.accepts image.text = true ↔
        (sanitize tag).head?.any Char.isAlphanum = true ∧
          (∀ c ∈ hash.rtake 6, isNameChar c = true) ∧
          hash.getLast?.any Char.isAlphanum = true) ∧
      ((tag.find? isNameChar).any Char.isAlphanum = true → (∀ c ∈ hash, c.isAlphanum = true) →
        Rule.subdomain.accepts image.text = true)) ∧
    ∀ name namespaceName kind hash friendly,
      instanceName name namespaceName kind hash = .built friendly →
      (Rule.subdomain.accepts friendly.text = true ↔
        (∀ c ∈ hash.take 4, isNameChar c = true) ∧ (∀ c ∈ hash.rtake 4, isNameChar c = true) ∧
          hash.getLast?.any Char.isAlphanum = true) ∧
      ((∀ c ∈ hash, c.isAlphanum = true) → Rule.subdomain.accepts friendly.text = true) := by
  constructor
  · intro tag hash image hbuilt
    have hiff := accepts_imageName_iff hbuilt
    refine ⟨hiff, fun hstart hletters ↦ hiff.mpr ⟨?_, ?_, ?_⟩⟩
    · rw [Sanitize.head?_sanitize]
      exact hstart
    · intro c hc
      exact isNameChar_of_isAlphanum (hletters c (List.mem_of_mem_drop hc))
    · have hhash := (imageName_eq_built_iff.mp hbuilt).1
      exact getLast?_any_of_forall (hhash.ne_nil (by decide)) hletters
  · intro name namespaceName kind hash friendly hbuilt
    have hiff := accepts_instanceName_iff hbuilt
    refine ⟨hiff, fun hletters ↦ hiff.mpr ⟨?_, ?_, ?_⟩⟩
    · intro c hc
      exact isNameChar_of_isAlphanum (hletters c (List.mem_of_mem_take hc))
    · intro c hc
      exact isNameChar_of_isAlphanum (hletters c (List.mem_of_mem_drop hc))
    · have hhash := (instanceName_eq_built_iff.mp hbuilt).2.1
      exact getLast?_any_of_forall (hhash.ne_nil (by decide)) hletters

/-- A tag that is cut behind a dot and components that are cut behind a hyphen both give names of
the DNS, since the hashes are letters and digits. -/
theorem accepts_text_iff_of_edge_cut :
    (∃ image, imageName (List.replicate 245 'a' ++ ".bc".toList) "f4e3b6a3ac8c".toList =
        .built image ∧ Rule.subdomain.accepts image.text = true) ∧
      ∃ friendly, instanceName (List.replicate 9 'a') (List.replicate 238 'a') "Pod".toList
        "1ba506b2".toList = .built friendly ∧ Rule.subdomain.accepts friendly.text = true := by
  have himage : imageName (List.replicate 245 'a' ++ ".bc".toList) "f4e3b6a3ac8c".toList =
      .built ⟨List.replicate 245 'a' ++ ['.'], "a3ac8c".toList, some ⟨248, 246⟩⟩ := by
    decide +kernel
  have hinstance : instanceName (List.replicate 9 'a') (List.replicate 238 'a') "Pod".toList
      "1ba506b2".toList = .built ⟨List.replicate 238 'a' ++ "-Pod-".toList, "1ba5-06b2".toList,
        some ⟨252, 243⟩⟩ := by
    decide +kernel
  exact ⟨⟨_, himage, (accepts_text_iff.1 _ _ _ himage).2 (by decide +kernel)
      (List.all_eq_true.mp (by decide +kernel))⟩,
    ⟨_, hinstance, (accepts_text_iff.2 _ _ _ _ _ hinstance).2
      (List.all_eq_true.mp (by decide +kernel))⟩⟩

end WorkloadNames.Friendly
