import WorkloadNames.Config
import WorkloadNames.Friendly.Rejection
import WorkloadNames.Palette
import WorkloadNames.Text.Quoted

/-!
Why a run fails, and how it explains itself: one line with the error, and a hint behind an empty
line where there is something to be done about it.
-/

set_option autoImplicit false
set_option relaxedAutoImplicit false

namespace WorkloadNames.Program

/-- Why a run fails. -/
inductive Failure where
  /-- There is no directory for the file of the settings. -/
  | noDirectory
  /-- The file of the settings cannot be used. -/
  | settings (fault : Config.Fault) (path : Text)
  /-- No friendly name can be built. -/
  | rejected (rejection : Friendly.Rejection)
  /-- Some of the names that were to be checked are invalid. -/
  | invalidNames (invalid total : Nat)
  /-- A name was cut where there is nothing to cut. -/
  | fault
  deriving DecidableEq, Repr

namespace Failure

/-- The wording of a failure. -/
def message : Failure → Text
  | .noDirectory => "Could not determine config directory".toList
  | .settings .unreadable path => "Failed to read config from ".toList ++ Text.quoted path
  | .settings .malformed path => "Failed to parse config from ".toList ++ Text.quoted path
  | .rejected rejection => rejection.message
  | .invalidNames invalid total =>
    Text.decimal invalid ++ " of ".toList ++ Text.decimal total ++ " name(s) failed validation".toList
  | .fault => "a name was cut inside a character".toList

/-- What to do about a hash that is refused. -/
def hashHint : Text :=
  "Pass the bare hex digest, without an algorithm prefix such as `sha256:`.".toList

/-- What to do about the components of an instance that are refused. -/
def instanceHint : Text :=
  ("Namespace, kind and name may only contain letters, digits, `.` and `-`, "
    ++ "and joined with hyphens must fit in 253 characters.").toList

/-- What to do about a failure. -/
def hint? : Failure → Option Text
  | .rejected (.badInstanceName _ _) => some instanceHint
  | .rejected rejection => if rejection.isHashError then some hashHint else none
  | .noDirectory | .settings _ _ | .invalidNames _ _ | .fault => none

/-- The explanation of a failure, with the line breaks at its ends. -/
def explanation (palette : Palette) (failure : Failure) : Text :=
  palette.errorWord ++ [' '] ++ failure.message ++ ['\n']
    ++ failure.hint?.elim [] fun hint ↦ ['\n'] ++ palette.hintLine hint ++ ['\n']

end Failure

end WorkloadNames.Program
