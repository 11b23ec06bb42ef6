import WorkloadNames.Proofs.Friendly.Rejection

/-!
Which input is to blame for a rejection. A rejection that blames the hash stands whatever the
identifier is replaced by, and one that does not stands whatever the hash is replaced by, although
the two builders look at their inputs in opposite orders and the one for images looks at its tag
twice. A hash that is blamed is also all that stands in the way: a good one in its place lets an
instance name be built, and an image name as soon as its tag has a usable character.
-/

set_option autoImplicit false
set_option relaxedAutoImplicit false

namespace WorkloadNames.Friendly

open Dns

variable {minimum : Nat} {tag hash namespaceName kind name : Text} {rejection : Rejection}

/-- Whatever is neither built nor at fault has been refused. -/
theorem Answer.exists_eq_rejected {answer : Answer} (hbuilt : ¬∃ name, answer = .built name)
    (hfault : answer ≠ .fault) : ∃ rejection, answer = .rejected rejection := by
  cases answer with
  | built name => exact absurd ⟨name, rfl⟩ hbuilt
  | rejected rejection => exact ⟨rejection, rfl⟩
  | fault => exact absurd rfl hfault

/-! ### Hashes -/

/-- What is wrong with a hash blames the hash. -/
theorem HashBreach.isHashError (h : HashBreach minimum hash rejection) :
    rejection.isHashError = true := by
  cases h with
  | empty => rfl
  | separator => rfl
  | short => rfl

theorem isHashError_of_hashRejection? (hpos : 0 < minimum)
    (h : hashRejection? hash minimum = some rejection) : rejection.isHashError = true :=
  ((hashRejection?_eq_some_iff hpos).mp h).prop.isHashError

theorem not_isHash_of_hashRejection? (hpos : 0 < minimum)
    (h : hashRejection? hash minimum = some rejection) : ¬IsHash minimum hash := by
  intro hpasses
  exact hpasses.not_hashBreach hpos ((hashRejection?_eq_some_iff hpos).mp h).prop

/-! ### Images -/

/-- An image is refused for its hash, or for a tag of which nothing is left. -/
theorem blame_of_imageName (h : imageName tag hash = .rejected rejection) :
    (rejection.isHashError = true ∧ ¬IsHash 6 hash) ∨
      (rejection.isHashError = false ∧ sanitize tag = []) := by
  rcases imageName_cases tag hash with ⟨hnil, himage⟩ | ⟨-, found, hhash, himage⟩ |
    ⟨-, -, hleft, himage⟩ | ⟨-, -, image, himage⟩
  · obtain rfl := Answer.rejected.inj (himage.symm.trans h)
    subst hnil
    exact Or.inr ⟨rfl, rfl⟩
  · obtain rfl := Answer.rejected.inj (himage.symm.trans h)
    exact Or.inl ⟨isHashError_of_hashRejection? (by decide) hhash,
      not_isHash_of_hashRejection? (by decide) hhash⟩
  · obtain rfl := Answer.rejected.inj (himage.symm.trans h)
    exact Or.inr ⟨rfl, hleft⟩
  · exact absurd (himage.symm.trans h) (by simp)

theorem exists_imageName_eq_rejected (h : ¬(IsHash 6 hash ∧ sanitize tag ≠ [])) :
    ∃ rejection, imageName tag hash = .rejected rejection := by
  refine Answer.exists_eq_rejected ?_ (imageName_ne_fault tag hash)
  rintro ⟨image, himage⟩
  obtain ⟨hpasses, hleft, -⟩ := imageName_eq_built_iff.mp himage
  exact h ⟨hpasses, hleft⟩

/-! ### Instances -/

/-- An instance is refused for its components, or for the hash behind components that form a
name. -/
theorem blame_of_instanceName
    (h : instanceName name namespaceName kind hash = .rejected rejection) :
    (rejection.isHashError = true ∧ ¬IsHash 8 hash ∧
        Rule.subdomain.IsName (assembled namespaceName kind name)) ∨
      (rejection.isHashError = false ∧ ∃ violation,
        Rule.subdomain.violation? (assembled namespaceName kind name) = some violation) := by
  rcases instanceName_cases name namespaceName kind hash with ⟨violation, hviolation, hinstance⟩ |
    ⟨hname, found, hhash, hinstance⟩ | ⟨-, -, friendly, hinstance⟩
  · obtain rfl := Answer.rejected.inj (hinstance.symm.trans h)
    exact Or.inr ⟨rfl, violation, hviolation⟩
  · obtain rfl := Answer.rejected.inj (hinstance.symm.trans h)
    exact Or.inl ⟨isHashError_of_hashRejection? (by decide) hhash,
      not_isHash_of_hashRejection? (by decide) hhash, Rule.violation?_eq_none_iff.mp hname⟩
  · exact absurd (hinstance.symm.trans h) (by simp)

theorem exists_instanceName_eq_rejected (h : ¬IsHash 8 hash) :
    ∃ rejection, instanceName name namespaceName kind hash = .rejected rejection := by
  refine Answer.exists_eq_rejected ?_ (instanceName_ne_fault name namespaceName kind hash)
  rintro ⟨friendly, hinstance⟩
  obtain ⟨-, hpasses, -⟩ := instanceName_eq_built_iff.mp hinstance
  exact h hpasses

/-! ### Blame -/

/-- Blame is right in both directions. Where the hash is blamed, no other identifier helps, and any
good hash does: any of eight characters or more without a colon and a slash for an instance, any of
six or more for an image whose tag has a usable character. Where the hash is not blamed, no other
hash helps, and for an instance no other hash is blamed either. -/
theorem blame_stands :
    (∀ tag hash rejection, imageName tag hash = .rejected rejection →
      (rejection.isHashError = true →
        (∀ other, ∃ r, imageName other hash = .rejected r) ∧
        ((∃ c ∈ tag, isNameChar c = true) →
          ∀ other : Text, 6 ≤ other.length → ':' ∉ other → '/' ∉ other →
            ∃ image, imageName tag other = .built image)) ∧
      (rejection.isHashError = false → ∀ other, ∃ r, imageName tag other = .rejected r)) ∧
    ∀ namespaceName kind name hash rejection,
      instanceName name namespaceName kind hash = .rejected rejection →
      (rejection.isHashError = true →
        (∀ otherNamespace otherKind otherName,
          ∃ r, instanceName otherName otherNamespace otherKind hash = .rejected r) ∧
        ∀ other : Text, 8 ≤ other.length → ':' ∉ other → '/' ∉ other →
          ∃ friendly, instanceName name namespaceName kind other = .built friendly) ∧
      (rejection.isHashError = false →
        ∀ other, ∃ r, instanceName name namespaceName kind other = .rejected r ∧
          r.isHashError = false) := by
  constructor
  · intro tag hash rejection h
    rcases blame_of_imageName h with ⟨hblame, hbad⟩ | ⟨hblame, hleft⟩
    · refine ⟨fun _ ↦ ⟨fun other ↦ ?_, ?_⟩, fun hother ↦ absurd hblame (by simp [hother])⟩
      · exact exists_imageName_eq_rejected fun hboth ↦ hbad hboth.1
      · rintro ⟨c, hc, hname⟩ other hlong hcolon hslash
        have husable : sanitize tag ≠ [] := by
          intro hleft
          exact absurd (Sanitize.sanitize_eq_nil_iff.mp hleft c hc) (by simp [hname])
        exact ⟨_, imageName_eq_built_iff.mpr
          ⟨isHash_iff.mpr ⟨hlong, hcolon, hslash⟩, husable, rfl⟩⟩
    · refine ⟨fun hother ↦ absurd hother (by simp [hblame]), fun _ other ↦ ?_⟩
      exact exists_imageName_eq_rejected fun hboth ↦ hboth.2 hleft
  · intro namespaceName kind name hash rejection h
    rcases blame_of_instanceName h with ⟨hblame, hbad, hname⟩ | ⟨hblame, violation, hviolation⟩
    · refine ⟨fun _ ↦ ⟨fun otherNamespace otherKind otherName ↦ ?_, ?_⟩,
        fun hother ↦ absurd hblame (by simp [hother])⟩
      · exact exists_instanceName_eq_rejected hbad
      · intro other hlong hcolon hslash
        exact exists_instanceName_eq_built_iff.mpr
          ⟨hname, isHash_iff.mpr ⟨hlong, hcolon, hslash⟩⟩
    · refine ⟨fun hother ↦ absurd hother (by simp [hblame]), fun _ other ↦ ?_⟩
      exact ⟨_, instanceName_of_violation?_eq_some hviolation, rfl⟩

/-- A hash with an algorithm in front of it is blamed beside a tag with a usable character and
beside one without; a kind with a slash is blamed whatever the hash. -/
theorem blame_stands_of_prefixed_hash :
    (∃ r, imageName "://".toList "sha256:abcdef".toList = .rejected r) ∧
    (∃ image, imageName "é.é".toList "é-.😀\"\n".toList = .built image) ∧
    (∃ r, imageName "://".toList [] = .rejected r) ∧
    (∃ r, instanceName "-".toList [] "é".toList "sha256:abcdef".toList = .rejected r) ∧
    (∃ friendly, instanceName "web".toList "default".toList [] "é-.😀1234".toList =
      .built friendly) ∧
    ∃ r, instanceName "web".toList "default".toList "a/b".toList "é-.😀1234".toList = .rejected r ∧
      r.isHashError = false := by
  have himage : imageName "é.é".toList "sha256:abcdef".toList =
      .rejected (.badHashCharacter ':') := by decide +kernel
  have hunusable : imageName "://".toList "abcdef".toList =
      .rejected (.unusableTag "://".toList) := by decide +kernel
  have hinstance : instanceName "web".toList "default".toList [] "sha256:abcdef".toList =
      .rejected (.badHashCharacter ':') := by decide +kernel
  have hkind : instanceName "web".toList "default".toList "a/b".toList [] =
      .rejected (.badInstanceName "default-a/b-web".toList (.badCharacter '/' 9)) := by
    decide +kernel
  obtain ⟨himages, hinstances⟩ := blame_stands
  obtain ⟨hother, hgood⟩ := (himages _ _ _ himage).1 rfl
  obtain ⟨hcomponents, hhash⟩ := (hinstances _ _ _ _ _ hinstance).1 rfl
  exact ⟨hother _,
    hgood ⟨'.', by decide, by decide⟩ _ (by decide) (by decide) (by decide),
    (himages _ _ _ hunusable).2 rfl _, hcomponents _ _ _,
    hhash _ (by decide) (by decide) (by decide), (hinstances _ _ _ _ _ hkind).2 rfl _⟩

end WorkloadNames.Friendly
