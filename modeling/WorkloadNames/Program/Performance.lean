import WorkloadNames.CommandLine.Invocation
import WorkloadNames.Friendly.Builder
import WorkloadNames.Grid
import WorkloadNames.Json
import WorkloadNames.Log.Event
import WorkloadNames.Program.Failure

/-!
What each command does: what it prints in either format, the events on the way, and whether it
fails. Nothing here knows of the log or its settings.
-/

set_option autoImplicit false
set_option relaxedAutoImplicit false

namespace WorkloadNames.Program

open CommandLine

/-- What a command does. -/
structure Performance where
  events : List Log.Event
  output : Text
  failure? : Option Failure

/-! ### Names -/

/-- One result in a format: on a line of its own, or as an object with everything that led to it. -/
def single (format : Format) (result : Text) (members : List (Text × Text)) : Text :=
  match format with
  | .table => result ++ ['\n']
  | .json =>
    (Json.object (members.map fun (name, content) ↦ (name, .text content))).indented ++ ['\n']

/-- The event of a cut, if a name has been cut. -/
def cutEvents (name : Friendly.Name) : List Log.Event :=
  (name.cut?.map Log.Event.shortened).toList

/-- What the building of a name amounts to. -/
def naming (answer : Friendly.Answer) (named : Text → Log.Event) (output : Text → Text) :
    Performance :=
  match answer with
  | .built name => ⟨cutEvents name ++ [named name.text], output name.text, none⟩
  | .rejected rejection => ⟨[.rejected rejection], [], some (.rejected rejection)⟩
  | .fault => ⟨[], [], some .fault⟩

/-- Building the name of an image. -/
def nameImage (format : Format) (tag hash : Text) : Performance :=
  naming (Friendly.imageName tag hash) .imageNamed fun result ↦
    single format result
      [("image_tag".toList, tag), ("image_hash".toList, hash), ("friendly_name".toList, result)]

/-- Building the name of an instance. -/
def nameInstance (format : Format) (namespaceName kind name hash : Text) : Performance :=
  naming (Friendly.instanceName name namespaceName kind hash) .instanceNamed fun result ↦
    single format result
      [("namespace".toList, namespaceName), ("kind".toList, kind), ("name".toList, name),
        ("friendly_name".toList, result)]

/-- Sanitizing an identifier. -/
def sanitizeRaw (format : Format) (raw : Text) : Performance :=
  ⟨[], single format (sanitize raw) [("raw".toList, raw), ("sanitized".toList, sanitize raw)], none⟩

/-! ### Checks -/

/-- What was found out about a name. -/
structure Finding where
  name : Text
  rule : Dns.Rule
  violation? : Option Dns.Violation
  deriving DecidableEq, Repr

namespace Finding

/-- Checks a name. -/
def ofName (rule : Dns.Rule) (name : Text) : Finding := ⟨name, rule, rule.violation? name⟩

/-- Whether the name is valid. -/
def valid (finding : Finding) : Bool := finding.violation?.isNone

/-- What is wrong with the name; nothing if it is valid. -/
def problem (finding : Finding) : Text := finding.violation?.elim [] (·.message)

/-- The event of having checked the name. -/
def event (finding : Finding) : Log.Event := .checked finding.name finding.rule finding.valid

/-- A finding as a row of a table. -/
def row (finding : Finding) : List Text :=
  [finding.name, finding.rule.title, (if finding.valid then "true" else "false").toList,
    finding.problem]

/-- A finding as an object, which has a problem only if there is one. -/
def toJson (finding : Finding) : Json :=
  .object
    ([("name".toList, .text finding.name), ("rule".toList, .text finding.rule.title),
      ("valid".toList, .truth finding.valid)]
      ++ if finding.problem.isEmpty then [] else [("problem".toList, .text finding.problem)])

end Finding

/-- The heads of the columns of a report. -/
def reportHeader : List Text := ["Name", "Rule", "Valid", "Problem"].map String.toList

/-- All findings in a format. -/
def report (format : Format) (findings : List Finding) : Text :=
  match format with
  | .table => (Grid.mk reportHeader (findings.map Finding.row)).render ++ ['\n']
  | .json => (Json.array (findings.map Finding.toJson)).indented ++ ['\n']

/-- Checking names, each on its own. -/
def checkNames (format : Format) (rule : Dns.Rule) (names : List Text) : Performance :=
  let findings := names.map (Finding.ofName rule)
  let invalid := findings.countP fun finding ↦ !finding.valid
  ⟨findings.map Finding.event, report format findings,
    if invalid = 0 then none else some (.invalidNames invalid findings.length)⟩

/-! ### All commands -/

/-- What a command does in a format. -/
def perform (format : Format) : Command → Performance
  | .nameImage tag hash => nameImage format tag hash
  | .nameInstance namespaceName kind name hash => nameInstance format namespaceName kind name hash
  | .sanitize raw => sanitizeRaw format raw
  | .check label names => checkNames format (if label then .label else .subdomain) names

end WorkloadNames.Program
