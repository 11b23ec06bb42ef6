import WorkloadNames.Json
import WorkloadNames.Log.Event
import WorkloadNames.Palette
import WorkloadNames.Text.Quoted

/-!
The lines of the log, in words or as JSON objects. The time of a line is given from outside. In
words the parts of a line may be set off by colours: the time, the target and the signs between the
parts are dimmed, the names of values are slanted, and each level has a colour of its own.
-/

set_option autoImplicit false
set_option relaxedAutoImplicit false

namespace WorkloadNames.Log

/-- The form of the lines of a log. -/
inductive Style where
  | words
  | json
  deriving DecidableEq, Repr

/-- A value in words. -/
def Field.inWords : Field → Text
  | .plain content => content
  | .quoted content => Text.quoted content
  | .number value => Text.decimal value
  | .truth value => (if value then "true" else "false").toList

/-- A value in JSON. -/
def Field.toJson : Field → Json
  | .plain content => .text content
  | .quoted content => .text content
  | .number value => .number value
  | .truth value => .truth value

namespace Record

/-- The sequence that dims a part of a line. -/
def dimming : Text := "\x1b[2m".toList

/-- The sequence that slants a part of a line. -/
def slanting : Text := "\x1b[3m".toList

/-- The name of a value and the sign behind it, with a blank in front. -/
def label (palette : Palette) (name : Text) : Text :=
  ' ' :: (palette.setOff slanting name ++ palette.setOff dimming ['='])

/-- What a line in words says before the values of its record: the level in five columns, the target
and the message. -/
def heading (palette : Palette) (record : Record) : Text :=
  let level := List.replicate (5 - record.level.name.length) ' ' ++ record.level.name
  palette.setOff record.level.opening level ++ [' '] ++ palette.setOff dimming record.target
    ++ palette.setOff dimming [':'] ++ [' '] ++ record.message

/-- A line in words: the time, what the record is about, and its values. -/
def inWords (palette : Palette) (time : Text) (record : Record) : Text :=
  palette.setOff dimming time ++ [' '] ++ record.heading palette
    ++ record.fields.flatMap fun (name, field) ↦ label palette name ++ field.inWords

/-- A line as an object, with the message in front of the values. -/
def toJson (time : Text) (record : Record) : Json :=
  .object
    [("timestamp".toList, .text time),
      ("level".toList, .text record.level.name),
      ("fields".toList,
        .object
          (("message".toList, .text record.message)
            :: record.fields.map fun (name, field) ↦ (name, field.toJson))),
      ("target".toList, .text record.target)]

/-- The line of a record, with its line break. Objects are never coloured. -/
def line (style : Style) (palette : Palette) (time : Text) (record : Record) : Text :=
  match style with
  | .words => record.inWords palette time ++ ['\n']
  | .json => (record.toJson time).compact ++ ['\n']

end Record

end WorkloadNames.Log
