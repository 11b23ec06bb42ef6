import WorkloadNames.Proofs.Friendly.Construction

/-!
How a friendly name stays under its limit. Whatever the identifier and however many bytes the
characters of the hash take, a name keeps the fragments of the hash whole and gives every byte that
they leave to the identifier. It is the longest name of its kind with at most 253 bytes.
-/

set_option autoImplicit false
set_option relaxedAutoImplicit false

namespace WorkloadNames.Friendly

open Dns
open Text (length_rtake)

/-- What a name keeps of its identifier: the longest prefix with which the whole takes at most 253
bytes, which is never empty, is all of the identifier where all of it fits, and uses the 253 bytes
up where it is not. -/
structure IsCapped (identifier suffix kept : Text) : Prop where
  initial : kept <+: identifier
  nonempty : kept ≠ []
  fits : Text.byteLength (kept ++ '-' :: suffix) ≤ 253
  longest : ∀ other, other <+: identifier →
    Text.byteLength (other ++ '-' :: suffix) ≤ 253 → other <+: kept
  uncut : Text.byteLength (identifier ++ '-' :: suffix) ≤ 253 → kept = identifier
  full : kept ≠ identifier → Text.byteLength (kept ++ '-' :: suffix) = 253

/-- A suffix of few characters leaves room, and single bytes can use that room up. -/
theorem isCapped_within {identifier suffix : Text} (hidentifier : IsNameText identifier)
    (hne : identifier ≠ []) (hsuffix : suffix.length ≤ 9) :
    IsCapped identifier suffix (identifier.within (252 - Text.byteLength suffix)) := by
  have hbytes := Text.byteLength_le_four_mul_length suffix
  have hkept := hidentifier.singleByte.byteLength_within (252 - Text.byteLength suffix)
  refine ⟨Text.within_isPrefix _ _, Text.within_ne_nil hne (by omega), ?fits, ?longest, ?uncut,
    ?full⟩
  case fits =>
    rw [byteLength_append_hyphen]
    omega
  case longest =>
    intro other hinitial hfits
    rw [byteLength_append_hyphen] at hfits
    exact Text.isPrefix_within_of_le hinitial (by omega)
  case uncut =>
    intro hfits
    rw [byteLength_append_hyphen] at hfits
    exact Text.within_eq_self (by omega)
  case full =>
    -- only an identifier that is too long is cut, and the cut then takes all the room
    intro hcut
    have hlong : 252 - Text.byteLength suffix < Text.byteLength identifier := by
      by_contra hfits
      exact hcut (Text.within_eq_self (Nat.le_of_not_lt hfits))
    rw [byteLength_append_hyphen]
    omega

/-- Every name that is built, of an image or of an instance, carries its fragments of the hash whole
behind the longest prefix of the identifier that fits beside them. -/
theorem text_eq_longest_and_suffix :
    (∀ tag hash image, imageName tag hash = .built image →
      (hash.rtake 6).length = 6 ∧
        ∃ kept, image.text = kept ++ '-' :: hash.rtake 6 ∧
          IsCapped (sanitize tag) (hash.rtake 6) kept) ∧
    ∀ name namespaceName kind hash friendly,
      instanceName name namespaceName kind hash = .built friendly →
      (hash.take 4).length = 4 ∧ (hash.rtake 4).length = 4 ∧
        ∃ kept, friendly.text = kept ++ '-' :: (hash.take 4 ++ '-' :: hash.rtake 4) ∧
          IsCapped (namespaceName ++ '-' :: (kind ++ '-' :: name))
            (hash.take 4 ++ '-' :: hash.rtake 4) kept := by
  constructor
  · intro tag hash image hbuilt
    obtain ⟨hhash, hne, rfl⟩ := imageName_eq_built_iff.mp hbuilt
    have hlength := length_rtake_of_isHash hhash
    exact ⟨hlength, _, Name.text_capped _ _,
      isCapped_within (Sanitize.isNameText_sanitize tag) hne (by omega)⟩
  · intro name namespaceName kind hash friendly hbuilt
    obtain ⟨hname, hhash, rfl⟩ := instanceName_eq_built_iff.mp hbuilt
    have hlong := hhash.long
    refine ⟨?_, ?_, _, Name.text_capped _ _, ?_⟩
    · rw [List.length_take]
      omega
    · rw [length_rtake]
      omega
    · rw [← assembled_eq]
      exact isCapped_within hname.isNameText hname.ne_nil (length_instanceFragments_le hash)

/-- Six characters of four bytes leave 228 bytes to the tag, and fragments of an accented hash
leave an instance its whole identifier. -/
theorem text_eq_longest_and_suffix_of_wide_hash :
    (∃ image, imageName ("docker.io/".toList ++ List.replicate 240 'a') "0123😀😀😀😀😀😀".toList =
        .built image ∧
      ∃ kept, image.text = kept ++ '-' :: "0123😀😀😀😀😀😀".toList.rtake 6 ∧
        IsCapped (sanitize ("docker.io/".toList ++ List.replicate 240 'a'))
          ("0123😀😀😀😀😀😀".toList.rtake 6) kept) ∧
      ∃ friendly, instanceName "webapp".toList "default".toList "Pod".toList "ébcdefghé".toList =
        .built friendly ∧
      ∃ kept, friendly.text =
          kept ++ '-' :: ("ébcdefghé".toList.take 4 ++ '-' :: "ébcdefghé".toList.rtake 4) ∧
        IsCapped ("default".toList ++ '-' :: ("Pod".toList ++ '-' :: "webapp".toList))
          ("ébcdefghé".toList.take 4 ++ '-' :: "ébcdefghé".toList.rtake 4) kept := by
  have himage : imageName ("docker.io/".toList ++ List.replicate 240 'a')
      "0123😀😀😀😀😀😀".toList = .built ⟨"docker.io-".toList ++ List.replicate 218 'a',
        "😀😀😀😀😀😀".toList, some ⟨250, 228⟩⟩ := by decide +kernel
  have hinstance : instanceName "webapp".toList "default".toList "Pod".toList
      "ébcdefghé".toList = .built ⟨"default-Pod-webapp".toList, "ébcd-fghé".toList, none⟩ := by
    decide +kernel
  exact ⟨⟨_, himage, (text_eq_longest_and_suffix.1 _ _ _ himage).2⟩,
    ⟨_, hinstance, (text_eq_longest_and_suffix.2 _ _ _ _ _ hinstance).2.2⟩⟩

end WorkloadNames.Friendly
