import WorkloadNames.Text.Basic

/-!
The values of a TOML document and the building of its tables. A table remembers how it came to be,
since that decides whether it may be extended: a table that only headers of inner tables have named
may still get a header of its own, a table made by dotted keys takes further dotted keys, and an
inline table takes nothing more.
-/

set_option autoImplicit false
set_option relaxedAutoImplicit false

namespace WorkloadNames.Toml

/-- How a table came to be. -/
inductive Origin where
  /-- Named on the way to an inner table. -/
  | implied
  /-- Opened by a header. -/
  | header
  /-- Named on the way of a dotted key. -/
  | dotted
  /-- Written out between braces. -/
  | inline
  deriving DecidableEq, Repr

/-- A value. Numbers, truth values, dates and times are kept as written. -/
inductive Value where
  | text (content : Text)
  | scalar (written : Text)
  | array (items : List Value)
  | table (origin : Origin) (entries : List (Text × Value))
  /-- The tables opened one by one under the same doubled header. -/
  | tables (rows : List (List (Text × Value)))
  deriving Repr

/-- The keys of a table with their values, in order of definition. -/
abbrev Entries := List (Text × Value)

namespace Entries

/-- The value of a key. -/
def get? (entries : Entries) (key : Text) : Option Value :=
  (entries.find? fun entry ↦ entry.1 = key).map Prod.snd

/-- The table with one value replaced, or added at the end if its key is new. -/
def put (entries : Entries) (key : Text) (value : Value) : Entries :=
  if (entries.get? key).isSome then
    entries.map fun entry ↦ if entry.1 = key then (key, value) else entry
  else entries ++ [(key, value)]

/-- Gives a value to a key that has none; the keys before the last name tables. -/
def define? : List Text → Value → Entries → Option Entries
  | [], _, _ => none
  | [key], value, entries =>
    match entries.get? key with
    | none => some (entries.put key value)
    | some _ => none
  | key :: path, value, entries =>
    match entries.get? key with
    | none => (define? path value []).map fun inner ↦ entries.put key (.table .dotted inner)
    | some (.table .dotted inner) =>
      (define? path value inner).map fun inner ↦ entries.put key (.table .dotted inner)
    | some (.table .implied inner) =>
      (define? path value inner).map fun inner ↦ entries.put key (.table .implied inner)
    | some _ => none

/-- Changes the table that a path of headers leads to. Tables that are missing on the way are
implied, and a key of several tables leads to the last of them. -/
def change? (action : Entries → Option Entries) : List Text → Entries → Option Entries
  | [], entries => action entries
  | key :: path, entries =>
    match entries.get? key with
    | none => (change? action path []).map fun inner ↦ entries.put key (.table .implied inner)
    | some (.table .inline _) => none
    | some (.table origin inner) =>
      (change? action path inner).map fun inner ↦ entries.put key (.table origin inner)
    | some (.tables rows) =>
      match rows.getLast? with
      | none => none
      | some last =>
        (change? action path last).map fun last ↦ entries.put key (.tables (rows.dropLast ++ [last]))
    | some _ => none

/-- Opens a table by a header. -/
def open? (key : Text) (entries : Entries) : Option Entries :=
  match entries.get? key with
  | none => some (entries.put key (.table .header []))
  | some (.table .implied inner) => some (entries.put key (.table .header inner))
  | some _ => none

/-- Opens one more table by a doubled header. -/
def openNext? (key : Text) (entries : Entries) : Option Entries :=
  match entries.get? key with
  | none => some (entries.put key (.tables [[]]))
  | some (.tables rows) => some (entries.put key (.tables (rows ++ [[]])))
  | some _ => none

end Entries

end WorkloadNames.Toml
