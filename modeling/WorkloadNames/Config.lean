import WorkloadNames.Files
import WorkloadNames.Toml.Value

/-!
The settings of the program and the file they are kept in. The file is a TOML document with at most
two keys, `format` and `log_level`; a missing file is as good as an empty one. Any fault of the file
spoils all of it: there is no falling back to the settings that could be read. How a document is
read is given from outside.
-/

set_option autoImplicit false
set_option relaxedAutoImplicit false

namespace WorkloadNames

/-- How results are printed. -/
inductive Format where
  | table
  | json
  deriving DecidableEq, Repr

namespace Format

/-- The word for a format on the command line and in the settings. -/
def word : Format → Text
  | .table => "table".toList
  | .json => "json".toList

/-- The formats in the order in which they are told to a reader. -/
def all : List Format := [.table, .json]

/-- The format of a word. -/
def ofWord? (word : Text) : Option Format := all.find? fun format ↦ format.word = word

@[simp] theorem ofWord?_word (format : Format) : ofWord? format.word = some format := by
  cases format <;> decide

theorem ofWord?_eq_some_iff {word : Text} {format : Format} :
    ofWord? word = some format ↔ format.word = word := by
  constructor
  · intro h
    have hfind : all.find? (fun format ↦ format.word = word) = some format := h
    have hfound := List.find?_some hfind
    exact of_decide_eq_true hfound
  · rintro rfl
    exact ofWord?_word format

end Format

/-- The settings of the program. -/
structure Config where
  /-- How results are printed unless the command line says otherwise. -/
  format : Format
  /-- Which events are logged unless the environment says otherwise. -/
  logLevel : Text
  deriving DecidableEq, Repr

namespace Config

/-- The settings of an empty file. -/
def standard : Config := ⟨.table, "warn".toList⟩

/-- A format is named by a string, or by the only key of a table whose value is empty. -/
def format? : Toml.Value → Option Format
  | .text content => Format.ofWord? content
  | .table _ [(key, .array [])] => Format.ofWord? key
  | .table _ [(key, .table _ [])] => Format.ofWord? key
  | _ => none

/-- The settings with one of them taken from a file. -/
def set? (config : Config) (key : Text) (value : Toml.Value) : Option Config :=
  if key = "format".toList then
    (format? value).map fun format ↦ { config with format }
  else if key = "log_level".toList then
    match value with
    | .text logLevel => some { config with logLevel }
    | _ => none
  else none

/-- The settings that a document holds. -/
def ofEntries? (entries : Toml.Entries) : Option Config :=
  entries.foldlM (fun config entry ↦ config.set? entry.1 entry.2) standard

/-- What can be wrong with the file of the settings. -/
inductive Fault where
  /-- The file cannot be read as text. -/
  | unreadable
  /-- The text of the file holds no settings. -/
  | malformed
  deriving DecidableEq, Repr

/-- The settings in what a path leads to, given the reader of documents. -/
def load (document? : Text → Option Toml.Entries) : Files.Sight → Except Fault Config
  | .missing => .ok standard
  | .unreadable => .error .unreadable
  | .file content =>
    match String.fromUTF8? content with
    | none => .error .unreadable
    | some text =>
      match (document? text.toList).bind ofEntries? with
      | none => .error .malformed
      | some config => .ok config

end Config

end WorkloadNames
