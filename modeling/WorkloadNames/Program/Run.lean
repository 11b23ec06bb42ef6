import WorkloadNames.Log.Filter
import WorkloadNames.Log.Line
import WorkloadNames.Program.Performance
import WorkloadNames.Toml.Document

/-!
A run of the program from what surrounds it to what it leaves behind. The command line is read
first, then the settings, then the filter of the log; only then is anything logged. What a run
prints and whether it succeeds is settled by the command alone, and the log stands before the
explanation of a failure. Documents and filters are read by others: how they do it is part of what
surrounds a run.
-/

set_option autoImplicit false
set_option relaxedAutoImplicit false

namespace WorkloadNames.Program

open CommandLine

/-- What reads the texts that are not the program's own. -/
structure Readers where
  /-- The entries of a document. -/
  document? : Text → Option Toml.Entries
  /-- The filter that a text writes. -/
  filter : Text → Except Log.Unread Log.Filter

/-- The readers of this library. -/
def Readers.own : Readers := ⟨Toml.parse?, Log.Filter.ofText⟩

/-- All that a run can see. -/
structure Surroundings where
  arguments : List Text
  /-- The variables of the environment. -/
  environment : Text → Option Text
  /-- The home directory that the system has on record for the user. -/
  recordedHome? : Option Text
  /-- What paths lead to. -/
  look : Text → Files.Sight
  /-- The time that log lines bear. -/
  time : Text
  readers : Readers

/-- All that a run leaves behind. -/
structure Outcome where
  exitCode : Nat
  output : Text
  errors : Text
  deriving DecidableEq, Repr

/-! ### Before the command -/

/-- What the program says of itself. -/
def versionLine : Text := "fname 0.1.0\n".toList

/-- How a run ends that does not get to its command. -/
def halted (palette : Palette) : Halt → Outcome
  | .version => ⟨0, versionLine, []⟩
  | .help => ⟨0, Misuse.nothing.explanation palette, []⟩
  | .misuse misuse => ⟨2, [], misuse.explanation palette⟩

namespace Surroundings

/-- The home directory of the user. -/
def home? (surroundings : Surroundings) : Option Text :=
  [surroundings.environment "HOME".toList, surroundings.recordedHome?].findSome?
    (Option.filter (fun home ↦ !home.isEmpty))

/-- The directory of the settings of all programs: the one that the environment names by an absolute
path, or else one below the home directory. Without a home directory there is neither. -/
def settingsDirectory? (surroundings : Surroundings) : Option Text :=
  surroundings.home?.map fun home ↦
    ((surroundings.environment "XDG_CONFIG_HOME".toList).filter (·.head? == some '/')).getD
      (Files.below home ".config".toList)

/-- Where the settings are kept unless the command line says otherwise. -/
def standardPath? (surroundings : Surroundings) : Option Text :=
  surroundings.settingsDirectory?.map fun directory ↦
    Files.below (Files.below directory "fname".toList) "config.toml".toList

/-- The path of the settings. -/
def settingsPath? (surroundings : Surroundings) (invocation : Invocation) : Option Text :=
  invocation.config?.or surroundings.standardPath?

/-- The path of the settings that the command line asks for, if it can be read. -/
def wantedPath? (surroundings : Surroundings) : Option Text :=
  match parse (surroundings.environment "FNAME_CONFIG".toList) surroundings.arguments with
  | .error _ => none
  | .ok invocation => surroundings.settingsPath? invocation

/-- The settings. -/
def settings (surroundings : Surroundings) (invocation : Invocation) : Except Failure Config :=
  match surroundings.settingsPath? invocation with
  | none => .error .noDirectory
  | some path =>
    (Config.load surroundings.readers.document? (surroundings.look path)).mapError fun fault ↦
      .settings fault path

/-- The filter of the log, or the complaint with which its reader breaks off. -/
def filter (surroundings : Surroundings) (config : Config) : Except Text Log.Filter :=
  Log.Filter.inForce surroundings.readers.filter (surroundings.environment "FNAME_LOG".toList)
    config.logLevel

/-- Errors and hints are coloured when the environment insists. -/
def palette (surroundings : Surroundings) : Palette :=
  match surroundings.environment "CLICOLOR_FORCE".toList with
  | some value => if value = ['0'] then .plain else .coloured
  | none => .plain

/-- Whether the environment refuses colours where nothing insists on them. -/
def refusesColours (surroundings : Surroundings) : Bool :=
  (surroundings.environment "NO_COLOR".toList).any fun value ↦ !value.isEmpty

/-- The command line is found fault with in colours when the environment insists and does not refuse
them. -/
def misusePalette (surroundings : Surroundings) : Palette :=
  if surroundings.refusesColours then .plain else surroundings.palette

/-- Log lines are coloured unless the environment refuses it. -/
def logPalette (surroundings : Surroundings) : Palette :=
  if surroundings.refusesColours then .plain else .coloured

end Surroundings

/-! ### The command and its log -/

/-- The events of a run whose settings have been read. -/
def events (config : Config) (performance : Performance) : List Log.Event :=
  .configured config.format :: performance.events

/-- The log of some events. -/
def log (filter : Log.Filter) (style : Log.Style) (palette : Palette) (time : Text)
    (events : List Log.Event) : Text :=
  ((events.map Log.Event.record).filter filter.enables).flatMap fun record ↦
    record.line style palette time

/-- The form of the log lines that a command line asks for. -/
def logStyle (invocation : Invocation) : Log.Style := if invocation.logJson then .json else .words

/-- How a run ends whose settings and filter have been read. -/
def conclude (surroundings : Surroundings) (invocation : Invocation) (config : Config)
    (filter : Log.Filter) : Outcome :=
  let performance := perform (invocation.format config) invocation.command
  let logged := log filter (logStyle invocation) surroundings.logPalette surroundings.time
    (events config performance)
  match performance.failure? with
  | none => ⟨0, performance.output, logged⟩
  | some failure =>
    ⟨1, performance.output, logged ++ failure.explanation surroundings.palette⟩

/-- A run of the program. A reader that breaks off takes the run with it. -/
def run (surroundings : Surroundings) : Outcome :=
  match parse (surroundings.environment "FNAME_CONFIG".toList) surroundings.arguments with
  | .error halt => halted surroundings.misusePalette halt
  | .ok invocation =>
    match surroundings.settings invocation with
    | .error failure => ⟨1, [], failure.explanation surroundings.palette⟩
    | .ok config =>
      match surroundings.filter config with
      | .error complaint => ⟨101, [], complaint⟩
      | .ok filter => conclude surroundings invocation config filter

end WorkloadNames.Program
