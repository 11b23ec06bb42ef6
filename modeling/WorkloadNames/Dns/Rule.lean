import WorkloadNames.Dns.Alphabet
import WorkloadNames.Dns.Violation
import WorkloadNames.Text.Offset

/-!
The two rules that a DNS name can be held to. A subdomain has at most 253 bytes of letters, digits,
dots and hyphens; a label has at most 63 and no dots. Both begin and end with a letter or digit.
Checking a name reports the first rule that it breaks: its emptiness, then its length, then its
first character, then the leftmost character outside the alphabet, then its last character.
-/

set_option autoImplicit false
set_option relaxedAutoImplicit false

namespace WorkloadNames.Dns

/-- What kind of name a text is meant to be. -/
inductive Rule where
  | label
  | subdomain
  deriving DecidableEq, Repr

namespace Rule

/-- The greatest number of bytes of a name. -/
def limit : Rule → Nat
  | .label => 63
  | .subdomain => 253

/-- The characters that may stand after the first of a name. -/
def allows : Rule → Char → Bool
  | .label, c => isNameChar c && c != '.'
  | .subdomain, c => isNameChar c

/-- The leftmost character that the alphabet lacks, with its offset counted from `start`. -/
def stranger? (rule : Rule) (start : Nat) (text : Text) : Option (Nat × Char) :=
  (Text.offsetsFrom start text).find? fun entry ↦ !rule.allows entry.2

/-- A last character that is no letter or digit. The first character has its own rule, so only the
rest of the name is given. -/
def badEnding? (rest : Text) : Option Char :=
  rest.getLast?.filter fun c ↦ !c.isAlphanum

/-- The first rule that a name breaks. -/
def violation? (rule : Rule) (name : Text) : Option Violation :=
  match name with
  | [] => some .empty
  | first :: rest =>
    if rule.limit < Text.byteLength name then
      some (.tooLong (Text.byteLength name) rule.limit)
    else if !first.isAlphanum then
      some (.badStart first)
    else
      match rule.stranger? first.utf8Size rest with
      | some (offset, found) => some (.badCharacter found offset)
      | none => (badEnding? rest).map .badEnd

/-- Whether a text is a name of this kind. -/
def accepts (rule : Rule) (name : Text) : Bool := (rule.violation? name).isNone

end Rule

end WorkloadNames.Dns
