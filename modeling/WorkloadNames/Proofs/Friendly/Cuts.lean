import WorkloadNames.Proofs.Friendly.Rejection

/-!
Every cut hits. A friendly name is made by slicing: the raw identifier is trimmed, fragments are cut
off both ends of a hash, and a long identifier is cut to the room that its suffix leaves. A slice
misses when an offset lies past the end of a text or inside one of its characters, and there is no
room at all beside a suffix that is too long. Trimming and the fragments need nothing: their offsets
are found by walking over whole characters. Joining does need something, told here as `CanJoin`, and
it has an answer exactly then. Both builders see to it before they join: an image through the
alphabet of what sanitizing leaves, an instance through the check of its assembled name, and both
through the few characters that a suffix takes from a hash.
-/

set_option autoImplicit false
set_option relaxedAutoImplicit false

namespace WorkloadNames

/-- What trimming leaves is a slice of the raw text. -/
theorem Sanitize.exists_between?_eq_trim (raw : Text) :
    ∃ start stop, raw.between? start stop = some (trim raw) := by
  obtain ⟨back, hback⟩ : trim raw <+: raw.dropWhile fun c ↦ !Dns.isNameChar c := by
    rw [trim_eq_rdropWhile]
    exact List.rdropWhile_prefix _ _
  obtain ⟨front, hfront⟩ : (raw.dropWhile fun c ↦ !Dns.isNameChar c) <:+ raw :=
    List.dropWhile_suffix _
  rw [← hback] at hfront
  have hslice := Text.between?_append front (trim raw) back
  rw [hfront] at hslice
  exact ⟨_, _, hslice⟩

namespace Friendly

open Dns
open Text (length_rtake)

/-! ### Joining -/

/-- What the joining of an identifier and a suffix relies on and does not check itself. -/
structure CanJoin (identifier suffix : Text) : Prop where
  /-- The suffix and its hyphen fit into a name. -/
  leavesRoom : 1 + Text.byteLength suffix ≤ maxLength
  /-- An identifier that is longer than the room can be cut to it. -/
  hits : ∀ room, room + 1 + Text.byteLength suffix = maxLength →
    room < Text.byteLength identifier → identifier.IsBoundary room

/-- Joining misses exactly when the suffix leaves no room or the room ends inside a character. -/
theorem exists_join?_eq_some_iff {identifier suffix : Text} :
    (∃ name, Name.join? identifier suffix = some name) ↔ CanJoin identifier suffix := by
  constructor
  · rintro ⟨name, hname⟩
    rw [Name.join?] at hname
    cases hroom : roomBeside? suffix with
    | none => simp [hroom] at hname
    | some room =>
      have hsum := roomBeside?_eq_some_iff.mp hroom
      refine ⟨by omega, fun other hother hlonger ↦ ?_⟩
      obtain rfl : other = room := by omega
      cases hkept : identifier.before? other with
      | none => simp [hroom, hlonger, hkept] at hname
      | some kept => exact Text.exists_before?_eq_some_iff.mp ⟨kept, hkept⟩
  · intro h
    have hleft := h.leavesRoom
    obtain ⟨room, hsum⟩ : ∃ room, room + 1 + Text.byteLength suffix = maxLength :=
      ⟨maxLength - (1 + Text.byteLength suffix), by omega⟩
    have hroom := roomBeside?_eq_some_iff.mpr hsum
    rw [Name.join?, hroom]
    by_cases hcut : room < Text.byteLength identifier
    · obtain ⟨kept, hkept⟩ := Text.exists_before?_eq_some_iff.mpr (h.hits room hsum hcut)
      exact ⟨⟨kept, suffix, some ⟨Text.byteLength identifier, room⟩⟩, by simp [hcut, hkept]⟩
    · exact ⟨⟨identifier, suffix, none⟩, by simp [hcut]⟩

/-- Nothing more is needed than single bytes in the identifier and few characters in the suffix. -/
theorem canJoin_of_singleByte {identifier suffix : Text} (hidentifier : identifier.SingleByte)
    (hsuffix : suffix.length ≤ 9) : CanJoin identifier suffix := by
  have hbytes := Text.byteLength_le_four_mul_length suffix
  have hlimit : maxLength = 253 := rfl
  refine ⟨by omega, fun room _ hlonger ↦ ?_⟩
  exact Text.exists_before?_eq_some_iff.mp ⟨_, hidentifier.before?_eq_within hlonger.le⟩

/-! ### The two builders -/

/-- Every slice that is taken on the way to a friendly name is taken at boundaries of its text, and
no suffix is too long to leave room. Trimming leaves a slice of every raw text. Every character of a
text begins at a boundary, so the fragments at both ends are there for every text and every count.
Joining has an answer exactly where it can be made. What sanitizing leaves, and what the check of an
assembled name accepts, has characters of one byte only and can be joined with the fragments of any
hash; so neither builder ever cuts where there is nothing to cut. -/
theorem every_cut_hits :
    (∀ raw : Text, ∃ start stop, raw.between? start stop = some (Sanitize.trim raw)) ∧
    (∀ (text : Text) (count : Nat),
      (∀ entry ∈ text.offsets,
        entry.1 ≤ Text.byteLength text ∧ text.IsBoundary entry.1) ∧
      (∃ front, text.firstChars? count = some front) ∧
      ∃ back, text.lastChars? count = some back) ∧
    (∀ identifier suffix : Text,
      (∃ name, Name.join? identifier suffix = some name) ↔ CanJoin identifier suffix) ∧
    (∀ tag hash : Text,
      (sanitize tag).SingleByte ∧
      (∃ suffix, imageSuffix? hash = some suffix ∧ CanJoin (sanitize tag) suffix) ∧
      imageName tag hash ≠ .fault) ∧
    ∀ namespaceName kind name hash : Text,
      (Rule.subdomain.violation? (assembled namespaceName kind name) = none →
        (assembled namespaceName kind name).SingleByte ∧
        ∃ suffix, instanceSuffix? hash = some suffix ∧
          CanJoin (assembled namespaceName kind name) suffix) ∧
      instanceName name namespaceName kind hash ≠ .fault := by
  refine ⟨Sanitize.exists_between?_eq_trim, fun text count ↦ ⟨?_, ?_, ?_⟩,
    fun _ _ ↦ exists_join?_eq_some_iff, fun tag hash ↦ ?_, fun namespaceName kind name hash ↦ ?_⟩
  · intro entry hentry
    have hboundary := Text.isBoundary_of_mem_offsets hentry
    exact ⟨hboundary.le_byteLength, hboundary⟩
  · exact ⟨_, Text.firstChars?_eq_take text count⟩
  · exact ⟨_, Text.lastChars?_eq_drop text count⟩
  · have htag := (Sanitize.isNameText_sanitize tag).singleByte
    have hsuffix : (hash.rtake 6).length ≤ 9 := by
      rw [length_rtake]
      omega
    exact ⟨htag, ⟨_, imageSuffix?_eq hash, canJoin_of_singleByte htag hsuffix⟩,
      imageName_ne_fault tag hash⟩
  · refine ⟨fun haccepted ↦ ?_, instanceName_ne_fault name namespaceName kind hash⟩
    have hname := (Rule.violation?_eq_none_iff.mp haccepted).isNameText.singleByte
    exact ⟨hname, _, instanceSuffix?_eq hash,
      canJoin_of_singleByte hname (length_instanceFragments_le hash)⟩

/-- An assembled name of 253 bytes beside fragments of four-byte characters: the room ends 34 bytes
before the end of the name. -/
theorem every_cut_hits_of_widest_fragments :
    (3 ≤ Text.byteLength "aé😀-".toList ∧ Text.IsBoundary "aé😀-".toList 3) ∧
    ∃ suffix, instanceSuffix? "😀😀😀😀😀😀😀😀".toList = some suffix ∧
      CanJoin (assembled "a".toList "b".toList (List.replicate 249 'c')) suffix := by
  have hentry : (3, '😀') ∈ Text.offsets "aé😀-".toList := by decide
  have haccepted : Rule.subdomain.violation?
      (assembled "a".toList "b".toList (List.replicate 249 'c')) = none := by decide +kernel
  obtain ⟨-, hfragments, -, -, hinstance⟩ := every_cut_hits
  obtain ⟨-, hjoin⟩ := (hinstance _ _ _ "😀😀😀😀😀😀😀😀".toList).1 haccepted
  exact ⟨(hfragments "aé😀-".toList 4).1 _ hentry, hjoin⟩

end Friendly

end WorkloadNames
