import WorkloadNames.Dns.Violation
import WorkloadNames.Proofs.Text.Separated

/-!
What can be read off the message of a violation. Each kind of violation has an opening of its own,
and none of them begins another; behind the opening come the details, from which a character is read
by its place and a number by its digits. So a message determines its violation, with everything that
was found (`message_injective`). A character that was found is the only letter of a message that can
be a capital.
-/

set_option autoImplicit false
set_option relaxedAutoImplicit false

namespace WorkloadNames.Dns.Violation

variable {violation other : Violation}

/-! ### Openings and details -/

/-- The words with which a message begins, whatever has been found. -/
def opening : Violation → String
  | .empty => "name cannot be empty"
  | .tooLong _ _ => "name is "
  | .badStart _ => "name must start with an alphanumeric character, got '"
  | .badCharacter _ _ => "invalid character '"
  | .badEnd _ => "name must end with an alphanumeric character, got '"

/-- What a message says behind its opening. -/
def details : Violation → Text
  | .empty => []
  | .tooLong length limit =>
    Text.decimal length ++ " characters long, limit is ".toList ++ Text.decimal limit
  | .badStart found => [found, '\'']
  | .badCharacter found offset => found :: ("' at position ".toList ++ Text.decimal offset)
  | .badEnd found => [found, '\'']

theorem message_eq (violation : Violation) :
    violation.message = violation.opening.toList ++ violation.details := by
  have hassoc (first second third fourth : Text) :
      first ++ second ++ third ++ fourth = first ++ (second ++ third ++ fourth) := by
    simp only [List.append_assoc]
  cases violation with
  | empty => exact (List.append_nil _).symm
  | tooLong length limit => exact hassoc _ _ _ _
  | badStart found => rfl
  | badCharacter found offset => exact hassoc _ [found] _ _
  | badEnd found => rfl

/-- All openings. -/
def openings : List String :=
  [opening .empty, opening (.tooLong 0 0), opening (.badStart 'a'), opening (.badCharacter 'a' 0),
    opening (.badEnd 'a')]

theorem opening_mem_openings (violation : Violation) : violation.opening ∈ openings := by
  cases violation <;> simp [openings, opening]

theorem prefixFree_openings : Text.PrefixFree (openings.map String.toList) := by decide +kernel

/-- Violations of the same kind, whatever has been found. -/
inductive SameKind : Violation → Violation → Prop
  | empty : SameKind .empty .empty
  | tooLong (length limit length' limit' : Nat) :
    SameKind (.tooLong length limit) (.tooLong length' limit')
  | badStart (found found' : Char) : SameKind (.badStart found) (.badStart found')
  | badCharacter (found found' : Char) (offset offset' : Nat) :
    SameKind (.badCharacter found offset) (.badCharacter found' offset')
  | badEnd (found found' : Char) : SameKind (.badEnd found) (.badEnd found')

theorem sameKind_of_opening_eq (h : violation.opening = other.opening) :
    SameKind violation other := by
  cases violation with
  | empty =>
    cases other with
    | empty => exact .empty
    | _ => exact absurd h (by simp [opening])
  | tooLong length limit =>
    cases other with
    | tooLong length' limit' => exact .tooLong length limit length' limit'
    | _ => exact absurd h (by simp [opening])
  | badStart found =>
    cases other with
    | badStart found' => exact .badStart found found'
    | _ => exact absurd h (by simp [opening])
  | badCharacter found offset =>
    cases other with
    | badCharacter found' offset' => exact .badCharacter found found' offset offset'
    | _ => exact absurd h (by simp [opening])
  | badEnd found =>
    cases other with
    | badEnd found' => exact .badEnd found found'
    | _ => exact absurd h (by simp [opening])

/-- Violations with the same opening are told apart by their details. -/
theorem eq_of_opening_eq (hopening : violation.opening = other.opening)
    (hdetails : violation.details = other.details) : violation = other := by
  cases sameKind_of_opening_eq hopening with
  | empty => rfl
  | tooLong length limit length' limit' =>
    obtain ⟨rfl, rfl⟩ := Text.decimal_append_decimal_inj (by decide) hdetails
    rfl
  | badStart found found' =>
    obtain ⟨rfl, -⟩ := List.cons.inj hdetails
    rfl
  | badCharacter found found' offset offset' =>
    obtain ⟨rfl, hrest⟩ := List.cons.inj hdetails
    obtain rfl := Text.decimal_injective (List.append_cancel_left hrest)
    rfl
  | badEnd found found' =>
    obtain ⟨rfl, -⟩ := List.cons.inj hdetails
    rfl

/-- No two violations have the same message. -/
theorem message_injective : Function.Injective message := by
  intro violation other h
  rw [message_eq, message_eq] at h
  obtain ⟨hopening, hdetails⟩ := prefixFree_openings.append_inj
    (List.mem_map_of_mem (opening_mem_openings violation))
    (List.mem_map_of_mem (opening_mem_openings other)) h
  exact eq_of_opening_eq (String.toList_inj.mp hopening) hdetails

/-! ### Capitals -/

theorem countP_isUpper_decimal (n : Nat) : (Text.decimal n).countP Char.isUpper = 0 := by
  rw [List.countP_eq_zero]
  intro c hc hupper
  have hletter : 'A'.val ≤ c.val := (of_decide_eq_true hupper).1
  have hdigit : c.val ≤ '9'.val :=
    of_decide_eq_true (Bool.and_eq_true_iff.mp (Text.isDigit_of_mem_decimal hc)).2
  exact absurd (UInt32.le_trans hletter hdigit) (by decide)

theorem countP_isUpper_cons_le {c : Char} {text : Text} (h : text.countP Char.isUpper = 0) :
    (c :: text).countP Char.isUpper ≤ 1 := by
  rw [List.countP_cons, h, Nat.zero_add]
  split <;> omega

/-- The wording of a message has no capitals, so at most the character that was found is one. -/
theorem countP_isUpper_message_le (violation : Violation) :
    violation.message.countP Char.isUpper ≤ 1 := by
  have hopenings : ∀ opening ∈ openings, opening.toList.countP Char.isUpper = 0 := by
    decide +kernel
  rw [message_eq, List.countP_append, hopenings _ (opening_mem_openings violation), Nat.zero_add]
  cases violation with
  | empty => exact Nat.zero_le 1
  | tooLong length limit =>
    have hwords : " characters long, limit is ".toList.countP Char.isUpper = 0 := by decide
    rw [details, List.countP_append, List.countP_append, hwords, countP_isUpper_decimal,
      countP_isUpper_decimal]
    exact Nat.zero_le 1
  | badStart found => exact countP_isUpper_cons_le (by decide)
  | badCharacter found offset =>
    have hwords : "' at position ".toList.countP Char.isUpper = 0 := by decide
    refine countP_isUpper_cons_le ?_
    rw [List.countP_append, hwords, countP_isUpper_decimal]
  | badEnd found => exact countP_isUpper_cons_le (by decide)

end WorkloadNames.Dns.Violation
