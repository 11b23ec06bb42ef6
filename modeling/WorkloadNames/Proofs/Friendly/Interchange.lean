import WorkloadNames.Proofs.Friendly.Construction
import WorkloadNames.Proofs.Sanitize.Retraction

/-!
Which inputs of friendly names can be put in place of one another. Of a usable tag the builder reads
the sanitized form alone, so tags with the same form are interchangeable for every hash, even for
one that is refused; and since sanitizing leaves its own results alone, a tag may be sanitized
before it is given (`imageName_congr`). Of a hash that passes, a name keeps the fragments alone. The
fragments of a hash, put together, are a hash that passes as well and has the same fragments, so
they can stand for it (`imageName_rtake`, `instanceName_ends`).
-/

set_option autoImplicit false
set_option relaxedAutoImplicit false

namespace WorkloadNames.Friendly

open Dns
open Text (length_rtake)

variable {minimum : Nat} {tag other hash taken namespaceName kind name : Text}
  {image friendly : Name}

/-! ### Tags -/

/-- What becomes of a usable tag is told by its sanitized form: the hash is judged by itself, and
behind it nothing is left to refuse. -/
theorem imageName_of_sanitize_ne_nil (h : sanitize tag ≠ []) :
    imageName tag hash =
      (hashRejection? hash 6).elim (.built (Name.capped (sanitize tag) (hash.rtake 6)))
        .rejected := by
  have htag : tag ≠ [] := by
    rintro rfl
    exact h rfl
  rw [imageName, if_neg (by simpa using htag), if_neg (by simpa using h),
    join_sanitize_imageSuffix?, minImageHashLength, imageSuffixLength]
  cases hashRejection? hash 6 with
  | none => rfl
  | some rejection => rfl

theorem imageName_congr (hsame : sanitize tag = sanitize other) (h : sanitize tag ≠ [])
    (hash : Text) : imageName tag hash = imageName other hash := by
  rw [imageName_of_sanitize_ne_nil h, imageName_of_sanitize_ne_nil (hsame ▸ h), hsame]

/-! ### Hashes -/

/-- Characters taken from a hash are a hash themselves as long as there are enough of them. -/
theorem IsHash.of_subset (h : IsHash minimum hash) (htaken : taken ⊆ hash)
    (hlong : minimum ≤ taken.length) : IsHash minimum taken :=
  ⟨hlong, fun c hc ↦ h.whole c (htaken hc)⟩

theorem rtake_rtake (text : Text) (count : Nat) :
    (text.rtake count).rtake count = text.rtake count := by
  rw [List.rtake, length_rtake, Nat.sub_eq_zero_of_le (Nat.min_le_left _ _), List.drop_zero]

/-- The end of an image hash is an image hash and its own end. -/
theorem imageName_rtake (hbuilt : imageName tag hash = .built image) :
    imageName tag (hash.rtake 6) = .built image := by
  obtain ⟨hhash, hne, rfl⟩ := imageName_eq_built_iff.mp hbuilt
  have hend : IsHash 6 (hash.rtake 6) :=
    hhash.of_subset (List.drop_subset _ _) (length_rtake_of_isHash hhash).ge
  exact imageName_eq_built_iff.mpr ⟨hend, hne, by rw [rtake_rtake]⟩

/-- The two ends of a hash meet where they are put together, and are found there again. -/
theorem instanceFragments_ends (hhash : IsHash 8 hash) :
    instanceFragments (hash.take 4 ++ hash.rtake 4) = instanceFragments hash := by
  have hlong := hhash.long
  have hfront : (hash.take 4).length = 4 := by
    rw [List.length_take]
    omega
  have hback : (hash.rtake 4).length = 4 := by
    rw [length_rtake]
    omega
  have hends : (hash.take 4 ++ hash.rtake 4).rtake 4 = hash.rtake 4 := by
    rw [List.rtake, List.length_append, hback, Nat.add_sub_cancel, List.drop_left]
  rw [instanceFragments, instanceFragments, List.take_left' hfront, hends]

theorem instanceName_ends (hbuilt : instanceName name namespaceName kind hash = .built friendly) :
    instanceName name namespaceName kind (hash.take 4 ++ hash.rtake 4) = .built friendly := by
  obtain ⟨hname, hhash, rfl⟩ := instanceName_eq_built_iff.mp hbuilt
  have hlong := hhash.long
  have hends : IsHash 8 (hash.take 4 ++ hash.rtake 4) := by
    have htaken : hash.take 4 ++ hash.rtake 4 ⊆ hash :=
      List.append_subset.mpr ⟨List.take_subset 4 hash, List.drop_subset _ hash⟩
    refine hhash.of_subset htaken ?_
    rw [List.length_append, List.length_take, length_rtake]
    omega
  exact instanceName_eq_built_iff.mpr ⟨hname, hends, by rw [instanceFragments_ends hhash]⟩

/-- Building a friendly name reads its inputs through their normal forms. A tag with a character of
the alphabet can be sanitized beforehand without any difference to the answer, be it a name or the
reason why there is none; so tags that are the same and not empty once sanitized are
interchangeable. A hash from which a name is built can be cut down to what the name takes from it:
its last six characters for an image, its first four and its last four for an instance. -/
theorem answers_of_normal_forms :
    (∀ tag hash, (∃ c ∈ tag, isNameChar c = true) →
      imageName tag hash = imageName (sanitize tag) hash) ∧
    (∀ tag hash image, imageName tag hash = .built image →
      imageName tag (hash.rtake 6) = .built image) ∧
    (∀ name namespaceName kind hash friendly,
      instanceName name namespaceName kind hash = .built friendly →
      instanceName name namespaceName kind (hash.take 4 ++ hash.rtake 4) = .built friendly) ∧
    ∀ tag other, sanitize tag = sanitize other → sanitize tag ≠ [] →
      ∀ hash, imageName tag hash = imageName other hash := by
  refine ⟨?_, fun _ _ _ ↦ imageName_rtake, fun _ _ _ _ _ ↦ instanceName_ends,
    fun _ _ ↦ imageName_congr⟩
  rintro tag hash ⟨c, hc, husable⟩
  have hne : sanitize tag ≠ [] := by
    intro hnil
    exact absurd (Sanitize.sanitize_eq_nil_iff.mp hnil c hc) (by simp [husable])
  have hself : sanitize (sanitize tag) = sanitize tag :=
    Sanitize.sanitize_eq_self_iff.mpr (Sanitize.isNameText_sanitize tag)
  exact imageName_congr hself.symm hne hash

/-- A tag and its sanitized form are refused for the same colon in the hash. Six accented letters
can stand for the hash that they end, and eight characters for one of nine. Tags that differ in what
is dropped or rewritten have the same name. -/
theorem answers_of_normal_forms_of_accented_hashes :
    imageName "/nginx:1".toList "sha256:é".toList = .rejected (.badHashCharacter ':') ∧
      imageName "/nginx:1".toList "sha256:é".toList =
        imageName "nginx-1".toList "sha256:é".toList ∧
      imageName "nginx".toList "éééééé".toList =
        .built ⟨"nginx".toList, "éééééé".toList, none⟩ ∧
      instanceName "web".toList "default".toList "Pod".toList "ébcdfghé".toList =
        .built ⟨"default-Pod-web".toList, "ébcd-fghé".toList, none⟩ ∧
      imageName "nginx:1".toList "abc123".toList =
        imageName " nginx 1/".toList "abc123".toList := by
  obtain ⟨hsanitized, himage, hinstance, hsame⟩ := answers_of_normal_forms
  have hlonger : imageName "nginx".toList "abcdéééééé".toList =
      .built ⟨"nginx".toList, "éééééé".toList, none⟩ := by decide +kernel
  have hnine : instanceName "web".toList "default".toList "Pod".toList "ébcdefghé".toList =
      .built ⟨"default-Pod-web".toList, "ébcd-fghé".toList, none⟩ := by decide +kernel
  refine ⟨by decide +kernel, ?_, himage _ _ _ hlonger, hinstance _ _ _ _ _ hnine, ?_⟩
  · exact hsanitized "/nginx:1".toList _ ⟨'n', by decide +kernel, by decide⟩
  · exact hsame _ _ (by decide +kernel) (by decide +kernel) _

end WorkloadNames.Friendly
