import WorkloadNames.Config
import WorkloadNames.Dns.Rule
import WorkloadNames.Friendly.Name
import WorkloadNames.Friendly.Rejection
import WorkloadNames.Log.Level

/-!
What the program does, told as events, and the record of each event: where it comes from, how
important it is, a message and some named values.
-/

set_option autoImplicit false
set_option relaxedAutoImplicit false

namespace WorkloadNames

/-- The word for a rule in reports and logs. -/
def Dns.Rule.title : Dns.Rule → Text
  | .label => "dns-label".toList
  | .subdomain => "dns-subdomain".toList

namespace Log

/-- Something that the program has done. -/
inductive Event where
  /-- The settings have been read. -/
  | configured (format : Format)
  /-- The input of a friendly name has been refused. -/
  | rejected (rejection : Friendly.Rejection)
  /-- The identifier of a friendly name has been cut. -/
  | shortened (cut : Friendly.Cut)
  /-- A friendly name of an image has been built. -/
  | imageNamed (name : Text)
  /-- A friendly name of an instance has been built. -/
  | instanceNamed (name : Text)
  /-- A name has been checked. -/
  | checked (name : Text) (rule : Dns.Rule) (valid : Bool)
  deriving DecidableEq, Repr

/-- A named value of a record. -/
inductive Field where
  /-- A text as it is. -/
  | plain (content : Text)
  /-- A text between quotes. -/
  | quoted (content : Text)
  | number (value : Nat)
  | truth (value : Bool)
  deriving DecidableEq, Repr

/-- What is known of an event. -/
structure Record where
  level : Level
  target : Text
  message : Text
  fields : List (Text × Field)
  deriving DecidableEq, Repr

/-- The name of a format in a log line. -/
def formatTitle : Format → Text
  | .table => "Table".toList
  | .json => "Json".toList

/-- The record of an event. -/
def Event.record : Event → Record
  | .configured format =>
    ⟨.debug, "fname".toList, "configuration loaded".toList,
      [("format".toList, .plain (formatTitle format))]⟩
  | .rejected rejection =>
    ⟨.debug, "fname_names::friendly".toList, "rejected friendly name input".toList,
      [("reason".toList, .plain rejection.reason)]⟩
  | .shortened cut =>
    ⟨.debug, "fname_names::friendly".toList, "truncating friendly name".toList,
      [("original_len".toList, .number cut.fullLength),
        ("kept_len".toList, .number cut.keptLength)]⟩
  | .imageNamed name =>
    ⟨.info, "fname::commands::image".toList, "built image friendly name".toList,
      [("friendly_name".toList, .plain name)]⟩
  | .instanceNamed name =>
    ⟨.info, "fname::commands::instance".toList, "built instance friendly name".toList,
      [("friendly_name".toList, .plain name)]⟩
  | .checked name rule valid =>
    ⟨.debug, "fname::commands::check".toList, "checked name".toList,
      [("name".toList, .plain name), ("rule".toList, .quoted rule.title),
        ("valid".toList, .truth valid)]⟩

end Log

end WorkloadNames
