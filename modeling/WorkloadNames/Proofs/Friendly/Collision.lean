import WorkloadNames.Proofs.Friendly.Construction
import WorkloadNames.Proofs.Text.Separated

/-!
When two friendly names are the same. The fragments of the hash have a fixed number of characters,
so a name can be read from its right end: its last characters are the fragments, and what stands
before the hyphen is the part of the identifier that was kept. Two names are equal exactly when both
parts are. The hyphens and dots that both parts may hold do not matter.
-/

set_option autoImplicit false
set_option relaxedAutoImplicit false

namespace WorkloadNames.Friendly

open Dns

/-- Names with suffixes of the same number of characters are split at the same place. -/
theorem text_capped_eq_iff {identifier₁ identifier₂ suffix₁ suffix₂ : Text}
    (hlength : suffix₁.length = suffix₂.length) :
    (Name.capped identifier₁ suffix₁).text = (Name.capped identifier₂ suffix₂).text ↔
      suffix₁ = suffix₂ ∧
        identifier₁.within (252 - Text.byteLength suffix₁) =
          identifier₂.within (252 - Text.byteLength suffix₁) := by
  rw [Name.text_capped, Name.text_capped]
  constructor
  · intro h
    -- read from the right: the suffixes are equally long, whatever hyphens they hold
    obtain ⟨hkept, hrest⟩ := List.append_inj' h (by simp [hlength])
    obtain rfl := (List.cons.inj hrest).2
    exact ⟨rfl, hkept⟩
  · rintro ⟨rfl, hkept⟩
    rw [hkept]

/-- Nothing is lost of identifiers that fit, so the name gives them back. -/
theorem identifier_eq_of_text_capped_eq {identifier₁ identifier₂ suffix₁ suffix₂ : Text}
    (hlength : suffix₁.length = suffix₂.length)
    (hfits₁ : Text.byteLength identifier₁ ≤ 252 - Text.byteLength suffix₁)
    (hfits₂ : Text.byteLength identifier₂ ≤ 252 - Text.byteLength suffix₂)
    (htext : (Name.capped identifier₁ suffix₁).text = (Name.capped identifier₂ suffix₂).text) :
    identifier₁ = identifier₂ := by
  obtain ⟨rfl, hkept⟩ := (text_capped_eq_iff hlength).mp htext
  rwa [Text.within_eq_self hfits₁, Text.within_eq_self hfits₂] at hkept

/-! ### Image names -/

/-- Image names collide exactly when the last six characters of the hashes agree and so do the
sanitized tags, as far as there is room for them. Hashes with different ends never collide, and
where both tags fit whole they are the same once sanitized. -/
theorem imageName_text_eq_iff {tag₁ hash₁ tag₂ hash₂ : Text} {image₁ image₂ : Name}
    (hbuilt₁ : imageName tag₁ hash₁ = .built image₁)
    (hbuilt₂ : imageName tag₂ hash₂ = .built image₂) :
    (image₁.text = image₂.text ↔
      hash₁.rtake 6 = hash₂.rtake 6 ∧
        (sanitize tag₁).within (252 - Text.byteLength (hash₁.rtake 6)) =
          (sanitize tag₂).within (252 - Text.byteLength (hash₁.rtake 6))) ∧
    (hash₁.rtake 6 ≠ hash₂.rtake 6 → image₁.text ≠ image₂.text) ∧
    (Text.byteLength (sanitize tag₁) ≤ 252 - Text.byteLength (hash₁.rtake 6) →
      Text.byteLength (sanitize tag₂) ≤ 252 - Text.byteLength (hash₂.rtake 6) →
      image₁.text = image₂.text → sanitize tag₁ = sanitize tag₂) := by
  obtain ⟨hhash₁, -, rfl⟩ := imageName_eq_built_iff.mp hbuilt₁
  obtain ⟨hhash₂, -, rfl⟩ := imageName_eq_built_iff.mp hbuilt₂
  have hlength : (hash₁.rtake 6).length = (hash₂.rtake 6).length := by
    rw [length_rtake_of_isHash hhash₁, length_rtake_of_isHash hhash₂]
  have hiff := @text_capped_eq_iff (sanitize tag₁) (sanitize tag₂) _ _ hlength
  refine ⟨hiff, fun hends htext ↦ hends (hiff.mp htext).1, ?_⟩
  intro hfits₁ hfits₂ htext
  exact identifier_eq_of_text_capped_eq hlength hfits₁ hfits₂ htext

/-- Tags that differ only behind the cut collide under hashes that end alike. -/
theorem imageName_text_eq_iff_of_late_difference :
    ∃ image₁ image₂ : Name,
      imageName (List.replicate 246 'a' ++ ['b']) "f4e3b6a3ac8c".toList = .built image₁ ∧
      imageName (List.replicate 246 'a' ++ "/c".toList) "abc-a3ac8c".toList = .built image₂ ∧
      image₁.text = image₂.text := by
  have himage₁ : imageName (List.replicate 246 'a' ++ ['b']) "f4e3b6a3ac8c".toList =
      .built ⟨List.replicate 246 'a', "a3ac8c".toList, some ⟨247, 246⟩⟩ := by decide +kernel
  have himage₂ : imageName (List.replicate 246 'a' ++ "/c".toList) "abc-a3ac8c".toList =
      .built ⟨List.replicate 246 'a', "a3ac8c".toList, some ⟨248, 246⟩⟩ := by decide +kernel
  exact ⟨_, _, himage₁, himage₂,
    (imageName_text_eq_iff himage₁ himage₂).1.mpr ⟨by decide +kernel, by decide +kernel⟩⟩

/-! ### Instance names -/

/-- The fragments have four characters each, so they are read off the ends of the suffix. -/
theorem instanceFragments_eq_iff {hash₁ hash₂ : Text} (hhash₁ : IsHash 8 hash₁)
    (hhash₂ : IsHash 8 hash₂) :
    instanceFragments hash₁ = instanceFragments hash₂ ↔
      hash₁.take 4 = hash₂.take 4 ∧ hash₁.rtake 4 = hash₂.rtake 4 := by
  have hlong₁ := hhash₁.long
  have hlong₂ := hhash₂.long
  constructor
  · intro h
    have hfront : (hash₁.take 4).length = (hash₂.take 4).length := by
      rw [List.length_take, List.length_take]
      omega
    obtain ⟨htake, hrest⟩ := List.append_inj h hfront
    exact ⟨htake, (List.cons.inj hrest).2⟩
  · rintro ⟨htake, hrtake⟩
    rw [instanceFragments, instanceFragments, htake, hrtake]

/-- Only the last component may hold a hyphen, so the first two hyphens are the joints. -/
theorem assembled_inj {namespaceName₁ kind₁ name₁ namespaceName₂ kind₂ name₂ : Text}
    (hnamespace₁ : '-' ∉ namespaceName₁) (hkind₁ : '-' ∉ kind₁)
    (hnamespace₂ : '-' ∉ namespaceName₂) (hkind₂ : '-' ∉ kind₂)
    (h : assembled namespaceName₁ kind₁ name₁ = assembled namespaceName₂ kind₂ name₂) :
    namespaceName₁ = namespaceName₂ ∧ kind₁ = kind₂ ∧ name₁ = name₂ := by
  rw [assembled_eq, assembled_eq] at h
  obtain ⟨hnamespace, hrest⟩ := Text.append_cons_inj hnamespace₁ hnamespace₂ h
  exact ⟨hnamespace, Text.append_cons_inj hkind₁ hkind₂ hrest⟩

/-- Instance names collide exactly when both fragments of the hashes agree and so do the assembled
components, as far as there is room for them. Where nothing is cut, and no hyphen stands before the
last component, a name determines all three. -/
theorem instanceName_text_eq_iff
    {name₁ namespaceName₁ kind₁ hash₁ name₂ namespaceName₂ kind₂ hash₂ : Text}
    {friendly₁ friendly₂ : Name}
    (hbuilt₁ : instanceName name₁ namespaceName₁ kind₁ hash₁ = .built friendly₁)
    (hbuilt₂ : instanceName name₂ namespaceName₂ kind₂ hash₂ = .built friendly₂) :
    (friendly₁.text = friendly₂.text ↔
      hash₁.take 4 = hash₂.take 4 ∧ hash₁.rtake 4 = hash₂.rtake 4 ∧
        (assembled namespaceName₁ kind₁ name₁).within
            (252 - Text.byteLength (hash₁.take 4 ++ '-' :: hash₁.rtake 4)) =
          (assembled namespaceName₂ kind₂ name₂).within
            (252 - Text.byteLength (hash₁.take 4 ++ '-' :: hash₁.rtake 4))) ∧
    ('-' ∉ namespaceName₁ → '-' ∉ kind₁ → '-' ∉ namespaceName₂ → '-' ∉ kind₂ →
      Text.byteLength (assembled namespaceName₁ kind₁ name₁) ≤
        252 - Text.byteLength (hash₁.take 4 ++ '-' :: hash₁.rtake 4) →
      Text.byteLength (assembled namespaceName₂ kind₂ name₂) ≤
        252 - Text.byteLength (hash₂.take 4 ++ '-' :: hash₂.rtake 4) →
      friendly₁.text = friendly₂.text →
      namespaceName₁ = namespaceName₂ ∧ kind₁ = kind₂ ∧ name₁ = name₂) := by
  obtain ⟨-, hhash₁, rfl⟩ := instanceName_eq_built_iff.mp hbuilt₁
  obtain ⟨-, hhash₂, rfl⟩ := instanceName_eq_built_iff.mp hbuilt₂
  have hlength : (instanceFragments hash₁).length = (instanceFragments hash₂).length := by
    rw [length_instanceFragments_of_isHash hhash₁, length_instanceFragments_of_isHash hhash₂]
  constructor
  · rw [text_capped_eq_iff hlength, instanceFragments_eq_iff hhash₁ hhash₂, and_assoc]
    rfl
  · intro hnamespace₁ hkind₁ hnamespace₂ hkind₂ hfits₁ hfits₂ htext
    have hassembled := identifier_eq_of_text_capped_eq hlength hfits₁ hfits₂ htext
    exact assembled_inj hnamespace₁ hkind₁ hnamespace₂ hkind₂ hassembled

/-- A hyphen may move from one component to the next unseen; without hyphens it cannot. -/
theorem instanceName_text_eq_iff_of_moved_hyphen :
    (∃ friendly₁ friendly₂ : Name,
      instanceName "d".toList "a-b".toList "c".toList "1ba506b2".toList = .built friendly₁ ∧
      instanceName "d".toList "a".toList "b-c".toList "1ba5é06b2".toList = .built friendly₂ ∧
      friendly₁.text = friendly₂.text) ∧
    ∃ friendly₁ friendly₂ : Name,
      instanceName "b-c".toList "a".toList "d".toList "1ba506b2".toList = .built friendly₁ ∧
      instanceName "b-c".toList "a".toList "d".toList "1ba5é06b2".toList = .built friendly₂ ∧
      friendly₁.text = friendly₂.text ∧
      "a".toList = "a".toList ∧ "d".toList = "d".toList ∧ "b-c".toList = "b-c".toList := by
  have hsecond : instanceName "d".toList "a-b".toList "c".toList "1ba506b2".toList =
      .built ⟨"a-b-c-d".toList, "1ba5-06b2".toList, none⟩ := by decide +kernel
  have hthird : instanceName "d".toList "a".toList "b-c".toList "1ba5é06b2".toList =
      .built ⟨"a-b-c-d".toList, "1ba5-06b2".toList, none⟩ := by decide +kernel
  have hplain : instanceName "b-c".toList "a".toList "d".toList "1ba506b2".toList =
      .built ⟨"a-d-b-c".toList, "1ba5-06b2".toList, none⟩ := by decide +kernel
  have haccented : instanceName "b-c".toList "a".toList "d".toList "1ba5é06b2".toList =
      .built ⟨"a-d-b-c".toList, "1ba5-06b2".toList, none⟩ := by decide +kernel
  exact ⟨⟨_, _, hsecond, hthird, (instanceName_text_eq_iff hsecond hthird).1.mpr
      ⟨by decide +kernel, by decide +kernel, by decide +kernel⟩⟩,
    ⟨_, _, hplain, haccented, rfl, (instanceName_text_eq_iff hplain haccented).2
      (by decide +kernel) (by decide +kernel) (by decide +kernel) (by decide +kernel)
      (by decide +kernel) (by decide +kernel) rfl⟩⟩

end WorkloadNames.Friendly
