import WorkloadNames.Friendly.Builder
import WorkloadNames.Proofs.Dns.Acceptance
import WorkloadNames.Proofs.Sanitize.Scan
import WorkloadNames.Proofs.Text.Fragments

/-!
What building a friendly name comes to. The builders cut texts at byte offsets, and each cut could
miss; on what passes their checks none does. A name is then built exactly when its checks pass, and
it is the longest prefix of the identifier that leaves room for the suffix, beside the suffix. The
two equivalences `imageName_eq_built_iff` and `instanceName_eq_built_iff` say all there is to know
of a name that has been built.
-/

set_option autoImplicit false
set_option relaxedAutoImplicit false

namespace WorkloadNames.Friendly

open Dns
open Text (length_rtake)

/-! ### Hashes and their fragments -/

/-- A hash that is long enough and holds no separator. -/
structure IsHash (minimum : Nat) (hash : Text) : Prop where
  long : minimum ≤ hash.length
  whole : ∀ c ∈ hash, isHashSeparator c = false

theorem IsHash.ne_nil {minimum : Nat} {hash : Text} (h : IsHash minimum hash) (hpos : 0 < minimum) :
    hash ≠ [] := by
  rintro rfl
  exact absurd h.long (Nat.not_le.mpr hpos)

theorem isHash_iff {minimum : Nat} {hash : Text} :
    IsHash minimum hash ↔ minimum ≤ hash.length ∧ ':' ∉ hash ∧ '/' ∉ hash := by
  have hwhole : (∀ c ∈ hash, isHashSeparator c = false) ↔ ':' ∉ hash ∧ '/' ∉ hash := by
    constructor
    · intro h
      exact ⟨fun hc ↦ absurd (h ':' hc) (by decide), fun hc ↦ absurd (h '/' hc) (by decide)⟩
    · rintro ⟨hcolon, hslash⟩ c hc
      have hnotColon : c ≠ ':' := fun h ↦ hcolon (h ▸ hc)
      have hnotSlash : c ≠ '/' := fun h ↦ hslash (h ▸ hc)
      simp [isHashSeparator, hnotColon, hnotSlash]
  rw [← hwhole]
  exact ⟨fun h ↦ ⟨h.long, h.whole⟩, fun h ↦ ⟨h.1, h.2⟩⟩

/-- A hash passes its check exactly when no rule for hashes is broken. -/
theorem hashRejection?_eq_none_iff {hash : Text} {minimum : Nat} (hpos : 0 < minimum) :
    hashRejection? hash minimum = none ↔ IsHash minimum hash := by
  rw [hashRejection?]
  cases hfind : hash.find? isHashSeparator with
  | some found =>
    constructor
    · intro h
      split_ifs at h
    · intro h
      have hfound := h.whole found (List.mem_of_find?_eq_some hfind)
      rw [List.find?_some hfind] at hfound
      exact absurd hfound (by decide)
  | none =>
    constructor
    · intro h
      split_ifs at h with hempty hshort
      exact ⟨Nat.le_of_not_lt hshort, by simpa using List.find?_eq_none.mp hfind⟩
    · intro h
      rw [if_neg (by simpa using h.ne_nil hpos)]
      exact if_neg (Nat.not_lt.mpr h.long)

theorem length_rtake_of_isHash {minimum : Nat} {hash : Text} (h : IsHash minimum hash) :
    (hash.rtake minimum).length = minimum := by
  rw [length_rtake]
  exact Nat.min_eq_left h.long

/-- The fragments of an instance hash, joined as they stand in a name. -/
def instanceFragments (hash : Text) : Text := hash.take 4 ++ '-' :: hash.rtake 4

/-- The last characters of a hash are found by counting, so they are there for every hash. -/
theorem imageSuffix?_eq (hash : Text) : imageSuffix? hash = some (hash.rtake 6) :=
  Text.lastChars?_eq_drop hash 6

theorem instanceSuffix?_eq (hash : Text) :
    instanceSuffix? hash = some (instanceFragments hash) := by
  rw [instanceSuffix?, Text.firstChars?_eq_take, Text.lastChars?_eq_drop, instanceFragments,
    List.rtake]
  simp [instanceFragmentLength]

theorem length_instanceFragments (hash : Text) :
    (instanceFragments hash).length = min 4 hash.length + (min 4 hash.length + 1) := by
  rw [instanceFragments, List.length_append, List.length_cons, List.length_take, length_rtake]

theorem length_instanceFragments_le (hash : Text) : (instanceFragments hash).length ≤ 9 := by
  rw [length_instanceFragments]
  omega

theorem length_instanceFragments_of_isHash {hash : Text} (h : IsHash 8 hash) :
    (instanceFragments hash).length = 9 := by
  have hlong := h.long
  rw [length_instanceFragments]
  omega

/-! ### Names under the limit -/

/-- The name of an identifier that is cut, if need be, to make room for its suffix. -/
def Name.capped (identifier suffix : Text) : Name where
  identifier := identifier.within (252 - Text.byteLength suffix)
  suffix := suffix
  cut? :=
    if 252 - Text.byteLength suffix < Text.byteLength identifier then
      some ⟨Text.byteLength identifier, 252 - Text.byteLength suffix⟩
    else none

theorem Name.text_capped (identifier suffix : Text) :
    (Name.capped identifier suffix).text =
      identifier.within (252 - Text.byteLength suffix) ++ '-' :: suffix := rfl

theorem byteLength_append_hyphen (front suffix : Text) :
    Text.byteLength (front ++ '-' :: suffix) =
      Text.byteLength front + 1 + Text.byteLength suffix := by
  rw [Text.byteLength_append, Text.byteLength_cons, Nat.add_assoc]
  rfl

/-- Joining has an answer wherever the cut cannot fall inside a character. -/
theorem Name.join?_eq_capped {identifier suffix : Text} (hidentifier : identifier.SingleByte)
    (hsuffix : Text.byteLength suffix ≤ 252) :
    Name.join? identifier suffix = some (Name.capped identifier suffix) := by
  have hroom : roomBeside? suffix = some (252 - Text.byteLength suffix) := by
    rw [roomBeside?_eq_some_iff]
    change _ = 253
    omega
  rw [Name.join?, hroom, Name.capped]
  by_cases hcut : 252 - Text.byteLength suffix < Text.byteLength identifier
  · simp [hcut, hidentifier.before?_eq_within hcut.le]
  · simp [hcut, Text.within_eq_self (Nat.le_of_not_lt hcut)]

/-- The answer for an identifier over the alphabet and a suffix of few characters. -/
theorem Answer.join_eq_built {identifier suffix : Text} (hidentifier : IsNameText identifier)
    (hsuffix : suffix.length ≤ 9) :
    Answer.join identifier (some suffix) = .built (Name.capped identifier suffix) := by
  have hbytes := Text.byteLength_le_four_mul_length suffix
  rw [Answer.join, Option.bind_some, Name.join?_eq_capped hidentifier.singleByte (by omega)]

/-! ### The two builders -/

theorem assembled_eq (namespaceName kind name : Text) :
    assembled namespaceName kind name = namespaceName ++ '-' :: (kind ++ '-' :: name) := by
  simp [assembled, List.intercalate_cons_cons]

/-- Whatever is left of a tag and whatever the hash, the two can be joined. -/
theorem join_sanitize_imageSuffix? (tag hash : Text) :
    Answer.join (sanitize tag) (imageSuffix? hash) =
      .built (Name.capped (sanitize tag) (hash.rtake 6)) := by
  have hlength := length_rtake hash 6
  rw [imageSuffix?_eq]
  exact Answer.join_eq_built (Sanitize.isNameText_sanitize tag) (by omega)

/-- An identifier over the alphabet can be joined with the fragments of any hash. -/
theorem join_instanceSuffix? {identifier : Text} (hidentifier : IsNameText identifier)
    (hash : Text) :
    Answer.join identifier (instanceSuffix? hash) =
      .built (Name.capped identifier (instanceFragments hash)) := by
  rw [instanceSuffix?_eq]
  exact Answer.join_eq_built hidentifier (length_instanceFragments_le hash)

/-- An image name is built exactly when the hash passes and something of the tag is left. -/
theorem imageName_eq_built_iff {tag hash : Text} {image : Name} :
    imageName tag hash = .built image ↔
      IsHash 6 hash ∧ sanitize tag ≠ [] ∧ image = Name.capped (sanitize tag) (hash.rtake 6) := by
  rw [imageName, join_sanitize_imageSuffix?, ← hashRejection?_eq_none_iff (by decide)]
  by_cases htag : tag = []
  · -- an empty tag is refused before its hash is looked at, and sanitizing it leaves nothing
    subst htag
    simp [show sanitize [] = [] from rfl]
  · rw [if_neg (by simpa using htag), minImageHashLength, imageSuffixLength]
    cases hhash : hashRejection? hash 6 with
    | some rejection => simp
    | none =>
      by_cases hsanitized : sanitize tag = []
      · simp [hsanitized]
      · rw [if_neg (by simpa using hsanitized)]
        constructor
        · intro h
          exact ⟨rfl, hsanitized, (Answer.built.inj h).symm⟩
        · rintro ⟨-, -, rfl⟩
          rfl

/-- An instance name is built exactly when the components form a DNS subdomain and the hash
passes. -/
theorem instanceName_eq_built_iff {name namespaceName kind hash : Text} {friendly : Name} :
    instanceName name namespaceName kind hash = .built friendly ↔
      Rule.subdomain.IsName (assembled namespaceName kind name) ∧ IsHash 8 hash ∧
        friendly = Name.capped (assembled namespaceName kind name) (instanceFragments hash) := by
  rw [instanceName, ← Rule.violation?_eq_none_iff, ← hashRejection?_eq_none_iff (by decide)]
  cases hviolation : Rule.subdomain.violation? (assembled namespaceName kind name) with
  | some violation => simp
  | none =>
    have hname := Rule.violation?_eq_none_iff.mp hviolation
    cases hhash : hashRejection? hash 8 with
    | some rejection => simp [instanceFragmentLength, hhash]
    | none =>
      simp [instanceFragmentLength, hhash, join_instanceSuffix? hname.isNameText, eq_comm]

end WorkloadNames.Friendly
