import WorkloadNames.Dns.Violation

/-!
Why no friendly name can be built from an input, and how each reason is told to a reader. A reason
is either about the hash, which then has to be replaced, or about the identifier.
-/

set_option autoImplicit false
set_option relaxedAutoImplicit false

namespace WorkloadNames.Friendly

/-- A reason to refuse the input of a friendly name. -/
inductive Rejection where
  /-- The image tag has no characters. -/
  | emptyTag
  /-- Nothing of the image tag belongs to the alphabet of DNS names. -/
  | unusableTag (tag : Text)
  /-- The hash has no characters. -/
  | emptyHash
  /-- The hash has fewer characters than its fragments need. -/
  | shortHash (length minimum : Nat)
  /-- The hash holds a colon or a slash. -/
  | badHashCharacter (found : Char)
  /-- The joined components of an instance are no DNS subdomain. -/
  | badInstanceName (name : Text) (violation : Dns.Violation)
  deriving DecidableEq, Repr

namespace Rejection

/-- The wording of a reason. -/
def reason : Rejection → Text
  | .emptyTag => "image tag cannot be empty".toList
  | .unusableTag tag => "image tag '".toList ++ tag ++ "' has no usable characters".toList
  | .emptyHash => "hash cannot be empty".toList
  | .shortHash length minimum =>
    "hash is ".toList ++ Text.decimal length ++ " characters long, need at least ".toList
      ++ Text.decimal minimum
  | .badHashCharacter found => "hash contains invalid character '".toList ++ [found, '\'']
  | .badInstanceName name violation =>
    "instance name '".toList ++ name ++ "' is not a valid DNS subdomain: ".toList
      ++ violation.message

/-- The whole sentence in which a reason is reported. -/
def message (rejection : Rejection) : Text :=
  "invalid friendly name: ".toList ++ rejection.reason

/-- Whether the hash is to blame, and not the identifier. -/
def isHashError : Rejection → Bool
  | .emptyHash | .shortHash _ _ | .badHashCharacter _ => true
  | .emptyTag | .unusableTag _ | .badInstanceName _ _ => false

end Rejection

end WorkloadNames.Friendly
