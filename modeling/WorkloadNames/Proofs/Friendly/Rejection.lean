import WorkloadNames.Proofs.Friendly.Components

/-!
Which rejection is reported. Several things can be wrong with the input of a friendly name at once,
and the two builders look for them in opposite orders: an image is refused for its hash before its
tag has been sanitized, an instance is refused for its components before its hash has been looked
at. Everything that is wrong is told here by itself, and the main statements say that what is
reported comes first in the order.
-/

set_option autoImplicit false
set_option relaxedAutoImplicit false

namespace WorkloadNames.Friendly

open Dns

/-- The place of a rejection in the order in which a builder looks for it. No builder looks for both
an empty tag and a bad instance name, and each looks for its own before it looks at the hash. -/
def Rejection.precedence : Rejection → Nat
  | .emptyTag | .badInstanceName _ _ => 0
  | .emptyHash => 1
  | .badHashCharacter _ => 2
  | .shortHash _ _ => 3
  | .unusableTag _ => 4

variable {minimum : Nat} {tag hash namespaceName kind name : Text} {rejection : Rejection}

/-! ### Hashes -/

/-- What is wrong with a hash, each by itself: a hash with a separator may be too short as well. -/
inductive HashBreach (minimum : Nat) (hash : Text) : Rejection → Prop where
  | empty : hash = [] → HashBreach minimum hash .emptyHash
  | separator {found : Char} {offset : Nat} :
      hash.LeftmostAt (fun c ↦ c == ':' || c == '/') found offset →
      HashBreach minimum hash (.badHashCharacter found)
  | short : hash.length < minimum → HashBreach minimum hash (.shortHash hash.length minimum)

theorem HashBreach.precedence_mem (h : HashBreach minimum hash rejection) :
    1 ≤ rejection.precedence ∧ rejection.precedence ≤ 3 := by
  cases h with
  | _ => simp [Rejection.precedence]

theorem injOn_precedence_hashBreach :
    Set.InjOn Rejection.precedence {r | HashBreach minimum hash r} := by
  intro rejection h rejection' h' hplace
  cases h with
  | empty =>
    cases h' with
    | empty => rfl
    | _ => simp [Rejection.precedence] at hplace
  | separator hleftmost =>
    cases h' with
    | separator hleftmost' => rw [(hleftmost.unique hleftmost').1]
    | _ => simp [Rejection.precedence] at hplace
  | short =>
    cases h' with
    | short => rfl
    | _ => simp [Rejection.precedence] at hplace

theorem IsHash.not_hashBreach (h : IsHash minimum hash) (hpos : 0 < minimum) :
    ¬HashBreach minimum hash rejection := by
  intro hbreach
  cases hbreach with
  | empty hnil => exact h.ne_nil hpos hnil
  | separator hleftmost =>
    have hwhole : isHashSeparator _ = false := h.whole _ hleftmost.mem
    exact absurd hleftmost.passes (Bool.eq_false_iff.mp hwhole)
  | short hshort => exact absurd h.long (Nat.not_le.mpr hshort)

theorem minimalFor_of_hashRejection?_eq_some (h : hashRejection? hash minimum = some rejection) :
    MinimalFor (HashBreach minimum hash) Rejection.precedence rejection := by
  rw [hashRejection?] at h
  by_cases hempty : hash = []
  · rw [if_pos (by simpa using hempty)] at h
    obtain rfl := Option.some.inj h
    exact ⟨.empty hempty, fun other hother _ ↦ hother.precedence_mem.1⟩
  · rw [if_neg (by simpa using hempty)] at h
    cases hfind : hash.find? isHashSeparator with
    | some found =>
      rw [hfind] at h
      obtain rfl := Option.some.inj h
      obtain ⟨offset, hleftmost⟩ := Text.find?_eq_some_iff_leftmostAt.mp hfind
      refine ⟨.separator hleftmost, fun other hother _ ↦ ?_⟩
      cases hother with
      | empty hnil => exact absurd hnil hempty
      | _ => simp [Rejection.precedence]
    | none =>
      rw [hfind] at h
      split_ifs at h with hshort
      obtain rfl := Option.some.inj h
      refine ⟨.short hshort, fun other hother _ ↦ ?_⟩
      cases hother with
      | empty hnil => exact absurd hnil hempty
      | separator hleftmost =>
        have hfound := Text.find?_eq_some_iff_leftmostAt.mpr ⟨_, hleftmost⟩
        exact absurd (hfind.symm.trans hfound) (by simp)
      | short => exact Nat.le_refl _

/-- Checking a hash reports the first thing that is wrong with it. -/
theorem hashRejection?_eq_some_iff (hpos : 0 < minimum) :
    hashRejection? hash minimum = some rejection ↔
      MinimalFor (HashBreach minimum hash) Rejection.precedence rejection := by
  refine reports_iff_minimalFor (fun r ↦ hashRejection? hash minimum = some r)
    injOn_precedence_hashBreach (fun _ h ↦ minimalFor_of_hashRejection?_eq_some h) ?_
  rintro ⟨other, hother⟩
  cases hhash : hashRejection? hash minimum with
  | some found => exact ⟨found, rfl⟩
  | none => exact absurd hother (((hashRejection?_eq_none_iff hpos).mp hhash).not_hashBreach hpos)

/-! ### Image names -/

/-- What is wrong with the input of an image name, each by itself. -/
inductive ImageBreach (tag hash : Text) : Rejection → Prop where
  | emptyTag : tag = [] → ImageBreach tag hash .emptyTag
  | ofHash {rejection : Rejection} : HashBreach 6 hash rejection → ImageBreach tag hash rejection
  | unusableTag : (∀ c ∈ tag, isNameChar c = false) → ImageBreach tag hash (.unusableTag tag)

theorem injOn_precedence_imageBreach :
    Set.InjOn Rejection.precedence {r | ImageBreach tag hash r} := by
  intro rejection h rejection' h' hplace
  -- the places of what can be wrong with a hash lie strictly between those of the two other kinds
  cases h with
  | emptyTag =>
    cases h' with
    | emptyTag => rfl
    | ofHash hbreach' =>
      have hbounds := hbreach'.precedence_mem
      rw [← hplace] at hbounds
      simp [Rejection.precedence] at hbounds
    | unusableTag => simp [Rejection.precedence] at hplace
  | ofHash hbreach =>
    have hbounds := hbreach.precedence_mem
    cases h' with
    | emptyTag =>
      rw [hplace] at hbounds
      simp [Rejection.precedence] at hbounds
    | ofHash hbreach' => exact injOn_precedence_hashBreach hbreach hbreach' hplace
    | unusableTag =>
      rw [hplace] at hbounds
      simp [Rejection.precedence] at hbounds
  | unusableTag =>
    cases h' with
    | emptyTag => simp [Rejection.precedence] at hplace
    | ofHash hbreach' =>
      have hbounds := hbreach'.precedence_mem
      rw [← hplace] at hbounds
      simp [Rejection.precedence] at hbounds
    | unusableTag => rfl

/-- The four ways in which building an image name can end; no cut ever misses. -/
theorem imageName_cases (tag hash : Text) :
    tag = [] ∧ imageName tag hash = .rejected .emptyTag ∨
    (tag ≠ [] ∧ ∃ rejection, hashRejection? hash 6 = some rejection ∧
      imageName tag hash = .rejected rejection) ∨
    (tag ≠ [] ∧ IsHash 6 hash ∧ sanitize tag = [] ∧
      imageName tag hash = .rejected (.unusableTag tag)) ∨
    IsHash 6 hash ∧ sanitize tag ≠ [] ∧ ∃ image, imageName tag hash = .built image := by
  by_cases htag : tag = []
  · subst htag
    exact Or.inl ⟨rfl, rfl⟩
  · have hsome : tag.isEmpty = false := by simpa using htag
    cases hhash : hashRejection? hash 6 with
    | some rejection =>
      have himage : imageName tag hash = .rejected rejection := by
        rw [imageName, hsome, minImageHashLength, imageSuffixLength, hhash]
        rfl
      exact Or.inr (Or.inl ⟨htag, rejection, rfl, himage⟩)
    | none =>
      have hpasses := (hashRejection?_eq_none_iff (by decide)).mp hhash
      by_cases hleft : sanitize tag = []
      · have himage : imageName tag hash = .rejected (.unusableTag tag) := by
          rw [imageName, hsome, minImageHashLength, imageSuffixLength, hhash, hleft]
          rfl
        exact Or.inr (Or.inr (Or.inl ⟨htag, hpasses, hleft, himage⟩))
      · have himage := imageName_eq_built_iff.mpr ⟨hpasses, hleft, rfl⟩
        exact Or.inr (Or.inr (Or.inr ⟨hpasses, hleft, _, himage⟩))

theorem imageName_ne_fault (tag hash : Text) : imageName tag hash ≠ .fault := by
  rcases imageName_cases tag hash with ⟨-, himage⟩ | ⟨-, found, -, himage⟩ | ⟨-, -, -, himage⟩ |
    ⟨-, -, image, himage⟩
  · simp [himage]
  · simp [himage]
  · simp [himage]
  · simp [himage]

theorem minimalFor_of_imageName_eq_rejected (h : imageName tag hash = .rejected rejection) :
    MinimalFor (ImageBreach tag hash) Rejection.precedence rejection := by
  rcases imageName_cases tag hash with ⟨hnil, himage⟩ | ⟨htag, found, hhash, himage⟩ |
    ⟨htag, hpasses, hleft, himage⟩ | ⟨-, -, image, himage⟩
  · obtain rfl := Answer.rejected.inj (himage.symm.trans h)
    exact ⟨.emptyTag hnil, fun _ _ _ ↦ Nat.zero_le _⟩
  · obtain rfl := Answer.rejected.inj (himage.symm.trans h)
    have hfirst := (hashRejection?_eq_some_iff (by decide)).mp hhash
    refine ⟨.ofHash hfirst.prop, fun other hother _ ↦ ?_⟩
    cases hother with
    | emptyTag hnil => exact absurd hnil htag
    | ofHash hbreach => exact hfirst.le hbreach
    | unusableTag => exact hfirst.prop.precedence_mem.2.trans (Nat.le_succ 3)
  · obtain rfl := Answer.rejected.inj (himage.symm.trans h)
    refine ⟨.unusableTag (Sanitize.sanitize_eq_nil_iff.mp hleft), fun other hother _ ↦ ?_⟩
    cases hother with
    | emptyTag hnil => exact absurd hnil htag
    | ofHash hbreach => exact absurd hbreach (hpasses.not_hashBreach (by decide))
    | unusableTag => exact Nat.le_refl _
  · exact absurd (himage.symm.trans h) (by simp)

theorem imageName_eq_rejected_iff :
    imageName tag hash = .rejected rejection ↔
      MinimalFor (ImageBreach tag hash) Rejection.precedence rejection := by
  refine reports_iff_minimalFor (fun r ↦ imageName tag hash = .rejected r)
    injOn_precedence_imageBreach (fun _ h ↦ minimalFor_of_imageName_eq_rejected h) ?_
  rintro ⟨other, hother⟩
  rcases imageName_cases tag hash with ⟨-, himage⟩ | ⟨-, found, -, himage⟩ | ⟨-, -, -, himage⟩ |
    ⟨hpasses, hleft, -⟩
  · exact ⟨_, himage⟩
  · exact ⟨found, himage⟩
  · exact ⟨_, himage⟩
  · cases hother with
    | emptyTag hnil =>
      subst hnil
      exact absurd rfl hleft
    | ofHash hbreach => exact absurd hbreach (hpasses.not_hashBreach (by decide))
    | unusableTag hall => exact absurd (Sanitize.sanitize_eq_nil_iff.mpr hall) hleft

/-- An image name is built exactly when the tag holds a character of the alphabet and the hash has
at least six characters and neither a colon nor a slash. Otherwise the first thing that is wrong is
reported: an empty tag, an empty hash, the leftmost separator of the hash whatever its length, its
length in characters, and last a tag of which nothing is left, told as it was given. -/
theorem imageName_rejects_first (tag hash : Text) :
    ((∃ image, imageName tag hash = .built image) ↔
      (∃ c ∈ tag, isNameChar c = true) ∧ 6 ≤ hash.length ∧ ':' ∉ hash ∧ '/' ∉ hash) ∧
    (∀ rejection, imageName tag hash = .rejected rejection ↔
      MinimalFor (ImageBreach tag hash) Rejection.precedence rejection) ∧
    imageName tag hash ≠ .fault := by
  refine ⟨?_, fun _ ↦ imageName_eq_rejected_iff, imageName_ne_fault tag hash⟩
  have htag : (∃ c ∈ tag, isNameChar c = true) ↔ sanitize tag ≠ [] := by
    rw [Ne, Sanitize.sanitize_eq_nil_iff]
    simp only [not_forall, Bool.not_eq_false, exists_prop]
  simp only [imageName_eq_built_iff, htag, ← isHash_iff, exists_and_left, exists_eq, and_true]
  exact and_comm

/-! ### Instance names -/

theorem instanceName_of_violation?_eq_some {violation : Violation}
    (h : Rule.subdomain.violation? (assembled namespaceName kind name) = some violation) :
    instanceName name namespaceName kind hash =
      .rejected (.badInstanceName (assembled namespaceName kind name) violation) := by
  rw [instanceName]
  simp only [h]

/-- The three ways in which building an instance name can end; no cut ever misses. -/
theorem instanceName_cases (name namespaceName kind hash : Text) :
    (∃ violation, Rule.subdomain.violation? (assembled namespaceName kind name) = some violation ∧
      instanceName name namespaceName kind hash =
        .rejected (.badInstanceName (assembled namespaceName kind name) violation)) ∨
    (Rule.subdomain.violation? (assembled namespaceName kind name) = none ∧
      ∃ rejection, hashRejection? hash 8 = some rejection ∧
        instanceName name namespaceName kind hash = .rejected rejection) ∨
    Rule.subdomain.violation? (assembled namespaceName kind name) = none ∧ IsHash 8 hash ∧
      ∃ friendly, instanceName name namespaceName kind hash = .built friendly := by
  cases hviolation : Rule.subdomain.violation? (assembled namespaceName kind name) with
  | some violation =>
    exact Or.inl ⟨violation, rfl, instanceName_of_violation?_eq_some hviolation⟩
  | none =>
    cases hhash : hashRejection? hash 8 with
    | some rejection =>
      have hinstance : instanceName name namespaceName kind hash = .rejected rejection := by
        rw [instanceName]
        simp only [hviolation, instanceFragmentLength, hhash]
      exact Or.inr (Or.inl ⟨rfl, rejection, rfl, hinstance⟩)
    | none =>
      have hpasses := (hashRejection?_eq_none_iff (by decide)).mp hhash
      have hname := Rule.violation?_eq_none_iff.mp hviolation
      have hinstance := instanceName_eq_built_iff.mpr ⟨hname, hpasses, rfl⟩
      exact Or.inr (Or.inr ⟨rfl, hpasses, _, hinstance⟩)

theorem instanceName_ne_fault (name namespaceName kind hash : Text) :
    instanceName name namespaceName kind hash ≠ .fault := by
  rcases instanceName_cases name namespaceName kind hash with ⟨_, -, hinstance⟩ |
    ⟨-, _, -, hinstance⟩ | ⟨-, -, _, hinstance⟩
  · simp [hinstance]
  · simp [hinstance]
  · simp [hinstance]

/-- The hash is looked at only behind components that form a name, and then it alone decides. -/
theorem instanceName_eq_rejected_iff
    (h : Rule.subdomain.violation? (assembled namespaceName kind name) = none) :
    instanceName name namespaceName kind hash = .rejected rejection ↔
      MinimalFor (HashBreach 8 hash) Rejection.precedence rejection := by
  have hname := (Rule.violation?_eq_none_iff.mp h).isNameText
  rw [← hashRejection?_eq_some_iff (by decide), instanceName]
  simp only [h, instanceFragmentLength]
  cases hhash : hashRejection? hash 8 with
  | some found => rw [Answer.rejected.injEq, Option.some.injEq]
  | none => simp [join_instanceSuffix? hname]

/-- Components that do not form a DNS subdomain are refused with their assembled name and the first
thing that is wrong with it, whatever the hash: its length, then its first character, then the
leftmost character outside the alphabet, which is never a joining hyphen, then its last. It is never
empty, and nothing but its length and its characters can be wrong with the kind. Only a hash behind
components that are accepted is looked at: whether it is empty, then its leftmost separator, then
its length in characters. -/
theorem instanceName_rejects_first (namespaceName kind name hash : Text) :
    (∀ violation,
      Rule.subdomain.violation? (namespaceName ++ '-' :: (kind ++ '-' :: name)) = some violation →
      instanceName name namespaceName kind hash =
        .rejected (.badInstanceName (namespaceName ++ '-' :: (kind ++ '-' :: name)) violation)) ∧
    (∀ violation,
      Rule.subdomain.violation? (namespaceName ++ '-' :: (kind ++ '-' :: name)) = some violation ↔
        MinimalFor (ComponentBreach namespaceName kind name) Violation.precedence violation) ∧
    Rule.subdomain.violation? (namespaceName ++ '-' :: (kind ++ '-' :: name)) ≠ some .empty ∧
    (∀ found offset,
      Rule.subdomain.violation? (namespaceName ++ '-' :: (kind ++ '-' :: name)) =
        some (.badCharacter found offset) →
      offset ≠ Text.byteLength namespaceName ∧
        offset ≠ Text.byteLength namespaceName + 1 + Text.byteLength kind) ∧
    (∀ other violation,
      Rule.subdomain.violation? (namespaceName ++ '-' :: (other ++ '-' :: name)) = none →
      Rule.subdomain.violation? (namespaceName ++ '-' :: (kind ++ '-' :: name)) = some violation →
      (∃ length, violation = .tooLong length 253) ∨
        ∃ found offset, violation = .badCharacter found offset ∧ found ∈ kind) ∧
    (Rule.subdomain.violation? (namespaceName ++ '-' :: (kind ++ '-' :: name)) = none →
      ∀ rejection, instanceName name namespaceName kind hash = .rejected rejection ↔
        MinimalFor (HashBreach 8 hash) Rejection.precedence rejection) := by
  simp only [← assembled_eq]
  refine ⟨fun _ h ↦ instanceName_of_violation?_eq_some h,
    fun _ ↦ violation?_assembled_eq_some_iff, ?_, ?_,
    fun _ _ hother h ↦ tooLong_or_badCharacter_of_kind hother h,
    fun h _ ↦ instanceName_eq_rejected_iff h⟩
  · intro h
    cases (violation?_assembled_eq_some_iff.mp h).prop
  · intro found offset h
    exact (violation?_assembled_eq_some_iff.mp h).prop.offset_ne

/-- A bad kind is reported at the first of its bad characters although the hash is empty, and a hash
that is judged is refused for its first separator although it is too short. -/
theorem instanceName_rejects_first_of_several :
    instanceName "web".toList "default".toList "é:".toList [] =
        .rejected (.badInstanceName "default-é:-web".toList (.badCharacter 'é' 8)) ∧
      8 ≠ Text.byteLength "default".toList ∧
      MinimalFor (ComponentBreach "default".toList "é:".toList "web".toList)
        Violation.precedence (.badCharacter 'é' 8) ∧
      (∃ found offset, Violation.badCharacter 'é' 8 = .badCharacter found offset ∧
        found ∈ "é:".toList) ∧
      MinimalFor (HashBreach 8 "a/b:".toList) Rejection.precedence (.badHashCharacter '/') := by
  have hviolation : Rule.subdomain.violation?
      ("default".toList ++ '-' :: ("é:".toList ++ '-' :: "web".toList)) =
        some (.badCharacter 'é' 8) := by decide +kernel
  have hnone : Rule.subdomain.violation?
      ("default".toList ++ '-' :: ("Pod".toList ++ '-' :: "web".toList)) = none := by
    decide +kernel
  have hrejected : instanceName "web".toList "default".toList "Pod".toList "a/b:".toList =
      .rejected (.badHashCharacter '/') := by decide +kernel
  obtain ⟨hreported, hfirst, -, hplace, hkind, -⟩ :=
    instanceName_rejects_first "default".toList "é:".toList "web".toList []
  obtain ⟨-, -, -, -, -, hjudged⟩ :=
    instanceName_rejects_first "default".toList "Pod".toList "web".toList "a/b:".toList
  refine ⟨hreported _ hviolation, (hplace _ _ hviolation).1, (hfirst _).mp hviolation, ?_,
    (hjudged hnone _).mp hrejected⟩
  rcases hkind _ _ hnone hviolation with ⟨_, hlong⟩ | hcharacter
  · exact absurd hlong (by simp)
  · exact hcharacter

end WorkloadNames.Friendly
