import WorkloadNames.Text.Basic

/-!
What a text can do to break the rules of DNS names, and how each violation is told to a reader.
Lengths and offsets are in bytes.
-/

set_option autoImplicit false
set_option relaxedAutoImplicit false

namespace WorkloadNames.Dns

/-- One way to break the rules of DNS names, with what is needed to see it. -/
inductive Violation where
  /-- The name has no characters. -/
  | empty
  /-- The name takes more bytes than its rule allows. -/
  | tooLong (length limit : Nat)
  /-- The name begins with something other than a letter or digit. -/
  | badStart (found : Char)
  /-- A character after the first is not of the rule's alphabet. -/
  | badCharacter (found : Char) (offset : Nat)
  /-- The name ends with a hyphen or a dot. -/
  | badEnd (found : Char)
  deriving DecidableEq, Repr

/-- The wording of a violation. -/
def Violation.message : Violation → Text
  | .empty => "name cannot be empty".toList
  | .tooLong length limit =>
    "name is ".toList ++ Text.decimal length ++ " characters long, limit is ".toList
      ++ Text.decimal limit
  | .badStart found =>
    "name must start with an alphanumeric character, got '".toList ++ [found, '\'']
  | .badCharacter found offset =>
    "invalid character '".toList ++ [found] ++ "' at position ".toList ++ Text.decimal offset
  | .badEnd found =>
    "name must end with an alphanumeric character, got '".toList ++ [found, '\'']

/-- Whether the name's length is what is wrong with it. -/
def Violation.isTooLong : Violation → Bool
  | .tooLong _ _ => true
  | _ => false

end WorkloadNames.Dns
