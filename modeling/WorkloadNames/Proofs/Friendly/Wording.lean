import WorkloadNames.Friendly.Rejection
import WorkloadNames.Proofs.Dns.Wording

/-!
What can be read off the wording of a rejection. As with the messages of violations, each kind of
rejection has an opening of its own. Behind it a tag is followed by words that do not change, and a
name by words with three capitals and by the message of its violation. Since such a message has one
capital at most, these words cannot stand in it, whatever the name holds: the wording is read from
its right end. So a wording determines its rejection (`reason_injective`), and any text that begins
with it determines its kind (`opening_eq_of_reason_append_eq`).
-/

set_option autoImplicit false
set_option relaxedAutoImplicit false

namespace WorkloadNames.Friendly.Rejection

variable {rejection other : Rejection} {rest rest' : Text}

/-- The words with which a reason begins, whatever has been refused. -/
def opening : Rejection → String
  | .emptyTag => "image tag cannot be empty"
  | .unusableTag _ => "image tag '"
  | .emptyHash => "hash cannot be empty"
  | .shortHash _ _ => "hash is "
  | .badHashCharacter _ => "hash contains invalid character '"
  | .badInstanceName _ _ => "instance name '"

/-- What stands between a name and the message of its violation, behind the closing quote. -/
def verdict : Text := " is not a valid DNS subdomain: ".toList

/-- What a reason says behind its opening. -/
def details : Rejection → Text
  | .emptyTag => []
  | .unusableTag tag => tag ++ "' has no usable characters".toList
  | .emptyHash => []
  | .shortHash length minimum =>
    Text.decimal length ++ " characters long, need at least ".toList ++ Text.decimal minimum
  | .badHashCharacter found => [found, '\'']
  | .badInstanceName name violation => name ++ '\'' :: (verdict ++ violation.message)

theorem reason_eq (rejection : Rejection) :
    rejection.reason = rejection.opening.toList ++ rejection.details := by
  have hassoc (first second third fourth : Text) :
      first ++ second ++ third ++ fourth = first ++ (second ++ third ++ fourth) := by
    simp only [List.append_assoc]
  cases rejection with
  | emptyTag => exact (List.append_nil _).symm
  | unusableTag tag => exact List.append_assoc _ _ _
  | emptyHash => exact (List.append_nil _).symm
  | shortHash length minimum => exact hassoc _ _ _ _
  | badHashCharacter found => rfl
  | badInstanceName name violation =>
    refine (hassoc _ name ('\'' :: verdict) _).trans ?_
    rw [details, List.append_assoc, List.cons_append]
    rfl

/-- All openings. -/
def openings : List String :=
  [opening .emptyTag, opening (.unusableTag []), opening .emptyHash, opening (.shortHash 0 0),
    opening (.badHashCharacter 'a'), opening (.badInstanceName [] .empty)]

theorem opening_mem_openings (rejection : Rejection) : rejection.opening ∈ openings := by
  cases rejection <;> simp [openings, opening]

theorem prefixFree_openings : Text.PrefixFree (openings.map String.toList) := by decide +kernel

/-- Texts that begin with reasons and are the same begin with reasons of one kind. -/
theorem opening_eq_of_reason_append_eq (h : rejection.reason ++ rest = other.reason ++ rest') :
    rejection.opening = other.opening ∧ rejection.details ++ rest = other.details ++ rest' := by
  rw [reason_eq, reason_eq, List.append_assoc, List.append_assoc] at h
  obtain ⟨hopening, hdetails⟩ := prefixFree_openings.append_inj
    (List.mem_map_of_mem (opening_mem_openings rejection))
    (List.mem_map_of_mem (opening_mem_openings other)) h
  exact ⟨String.toList_inj.mp hopening, hdetails⟩

/-- The words in front of a message have more capitals than there are in it. -/
theorem not_verdict_isInfix_message (violation : Dns.Violation) :
    ¬ verdict <:+: violation.message := by
  intro hinfix
  have hcapitals : verdict.countP Char.isUpper = 3 := by decide
  have hmost := violation.countP_isUpper_message_le
  have hleast := hinfix.sublist.countP_le (p := Char.isUpper)
  omega

/-- Rejections of the same kind, whatever they hold. -/
inductive SameKind : Rejection → Rejection → Prop
  | emptyTag : SameKind .emptyTag .emptyTag
  | unusableTag (tag tag' : Text) : SameKind (.unusableTag tag) (.unusableTag tag')
  | emptyHash : SameKind .emptyHash .emptyHash
  | shortHash (length minimum length' minimum' : Nat) :
    SameKind (.shortHash length minimum) (.shortHash length' minimum')
  | badHashCharacter (found found' : Char) :
    SameKind (.badHashCharacter found) (.badHashCharacter found')
  | badInstanceName (name name' : Text) (violation violation' : Dns.Violation) :
    SameKind (.badInstanceName name violation) (.badInstanceName name' violation')

theorem sameKind_of_opening_eq (h : rejection.opening = other.opening) :
    SameKind rejection other := by
  cases rejection with
  | emptyTag =>
    cases other with
    | emptyTag => exact .emptyTag
    | _ => exact absurd h (by simp [opening])
  | unusableTag tag =>
    cases other with
    | unusableTag tag' => exact .unusableTag tag tag'
    | _ => exact absurd h (by simp [opening])
  | emptyHash =>
    cases other with
    | emptyHash => exact .emptyHash
    | _ => exact absurd h (by simp [opening])
  | shortHash length minimum =>
    cases other with
    | shortHash length' minimum' => exact .shortHash length minimum length' minimum'
    | _ => exact absurd h (by simp [opening])
  | badHashCharacter found =>
    cases other with
    | badHashCharacter found' => exact .badHashCharacter found found'
    | _ => exact absurd h (by simp [opening])
  | badInstanceName name violation =>
    cases other with
    | badInstanceName name' violation' => exact .badInstanceName name name' violation violation'
    | _ => exact absurd h (by simp [opening])

/-- Rejections with the same opening are told apart by their details. -/
theorem eq_of_opening_eq (hopening : rejection.opening = other.opening)
    (hdetails : rejection.details = other.details) : rejection = other := by
  cases sameKind_of_opening_eq hopening with
  | emptyTag => rfl
  | unusableTag tag tag' =>
    obtain rfl := List.append_cancel_right hdetails
    rfl
  | emptyHash => rfl
  | shortHash length minimum length' minimum' =>
    obtain ⟨rfl, rfl⟩ := Text.decimal_append_decimal_inj (by decide) hdetails
    rfl
  | badHashCharacter found found' =>
    obtain ⟨rfl, -⟩ := List.cons.inj hdetails
    rfl
  | badInstanceName name name' violation violation' =>
    obtain ⟨rfl, hmessage⟩ := Text.append_mark_inj (by decide)
      (not_verdict_isInfix_message violation) (not_verdict_isInfix_message violation') hdetails
    obtain rfl := Dns.Violation.message_injective hmessage
    rfl

/-- No two rejections have the same reason. -/
theorem reason_injective : Function.Injective reason := by
  intro rejection other h
  obtain ⟨hopening, hdetails⟩ := @opening_eq_of_reason_append_eq rejection other [] [] (by rw [h])
  rw [List.append_nil, List.append_nil] at hdetails
  exact eq_of_opening_eq hopening hdetails

end WorkloadNames.Friendly.Rejection
