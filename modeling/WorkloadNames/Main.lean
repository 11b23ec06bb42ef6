import Std.Time.Format
import WorkloadNames.Program.Run

/-!
The command line program. The environment, the clock and the file of the settings are looked at
first, and what the run leaves behind is written out afterwards.
-/

set_option autoImplicit false
set_option relaxedAutoImplicit false

namespace WorkloadNames.Main

/-- What a path leads to. Whatever cannot be found is missing, for whatever reason. -/
def see (path : String) : IO Files.Sight := do
  try
    let _ ← IO.FS.realPath path
  catch _ =>
    return .missing
  try
    return .file (← IO.FS.readBinFile path)
  catch _ =>
    return .unreadable

/-- The present time in universal time, to the microsecond. -/
def clock : IO String := do
  let now := Std.Time.DateTime.ofTimestamp (← Std.Time.Timestamp.now) .UTC
  return now.format "uuuu-MM-dd'T'HH:mm:ss.SSSSSS'Z'"

/-- The home directory in a record of users, one on each line, for the user of a number. -/
def homeIn? (users number : Text) : Option Text :=
  (Text.pieces '\n' users).findSome? fun user ↦
    match Text.pieces ':' user with
    | [_, _, found, _, _, home, _] => if found = number then some home else none
    | _ => none

/-- The number of the user in the status of a process. -/
def userIn? (status : Text) : Option Text :=
  (Text.pieces '\n' status).findSome? fun line ↦
    match Text.pieces '\t' line with
    | title :: number :: _ => if title = "Uid:".toList then some number else none
    | _ => none

/-- The home directory that the system has on record for the user. -/
def recordedHome? : IO (Option Text) := do
  try
    let users ← IO.FS.readFile "/etc/passwd"
    let status ← IO.FS.readFile "/proc/self/status"
    return (userIn? status.toList).bind (homeIn? users.toList)
  catch _ =>
    return none

/-- The variables of the environment that a run may ask for. -/
def variableNames : List String :=
  ["FNAME_CONFIG", "FNAME_LOG", "HOME", "XDG_CONFIG_HOME", "CLICOLOR_FORCE", "NO_COLOR"]

end WorkloadNames.Main

open WorkloadNames WorkloadNames.Main in
/-- Runs the program once. -/
def main (arguments : List String) : IO UInt32 := do
  let known ← variableNames.filterMapM fun name ↦ do
    return (← IO.getEnv name).map fun value ↦ (name.toList, value.toList)
  let surroundings : Program.Surroundings :=
    { arguments := arguments.map String.toList
      environment := fun name ↦ (known.find? fun entry ↦ entry.1 = name).map Prod.snd
      recordedHome? := (← recordedHome?)
      look := fun _ ↦ .missing
      time := (← clock).toList
      readers := .own }
  let sight ← match surroundings.wantedPath? with
    | some path => see (String.ofList path)
    | none => pure .missing
  let outcome := Program.run { surroundings with look := fun _ ↦ sight }
  (← IO.getStdout).putStr (String.ofList outcome.output)
  (← IO.getStderr).putStr (String.ofList outcome.errors)
  return outcome.exitCode.toUInt32
