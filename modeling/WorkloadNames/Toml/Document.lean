import WorkloadNames.Toml.Lexical
import WorkloadNames.Toml.Scalar
import WorkloadNames.Toml.Value

/-!
Reading a TOML document. A document is a list of lines: a key with its value, a header that opens a
table for the lines below it, or nothing but a comment. A key is given one value only. The result is
the table at the root of the document, or nothing if the text is no document.
-/

set_option autoImplicit false
set_option relaxedAutoImplicit false

namespace WorkloadNames.Toml

/-! ### Values -/

mutual

/-- A value of at most so many parts. -/
def value? : Nat → Text → Option (Value × Text)
  | 0, _ => none
  | most + 1, '[' :: rest => do
    let (items, rest) ← items? most (← skipLines? false rest)
    return (.array items, rest)
  | most + 1, '{' :: rest => do
    let (entries, rest) ← members? most [] (← skipLines? false rest)
    return (.table .inline entries, rest)
  | _ + 1, text =>
    match string? text with
    | some (content, rest) => some (.text content, rest)
    | none => (scalar? text).map fun (written, rest) ↦ (.scalar written, rest)

/-- The rest of an array, from where an item may begin. -/
def items? : Nat → Text → Option (List Value × Text)
  | 0, _ => none
  | _ + 1, ']' :: rest => some ([], rest)
  | most + 1, text => do
    let (item, rest) ← value? most text
    match ← skipLines? false rest with
    | ',' :: rest =>
      let (items, rest) ← items? most (← skipLines? false rest)
      return (item :: items, rest)
    | ']' :: rest => return ([item], rest)
    | _ => none

/-- The rest of an inline table, from where a key may begin. -/
def members? : Nat → Entries → Text → Option (Entries × Text)
  | 0, _, _ => none
  | _ + 1, entries, '}' :: rest => some (entries, rest)
  | most + 1, entries, text => do
    let (path, rest) ← keyPath? text
    match rest with
    | '=' :: rest =>
      let (value, rest) ← value? most (skipSpaces rest)
      let entries ← entries.define? path value
      match ← skipLines? false rest with
      | ',' :: rest => members? most entries (← skipLines? false rest)
      | '}' :: rest => return (entries, rest)
      | _ => none
    | _ => none

end

/-! ### Lines -/

/-- A document read so far: its root table, and the path of the table that is open. -/
structure Draft where
  root : Entries
  path : List Text
  deriving Repr

/-- Opens the table at the end of a path, in the way that its kind of header does. -/
def Draft.header? (draft : Draft) (opening : Text → Entries → Option Entries) (path : List Text) :
    Option Draft := do
  let key ← path.getLast?
  let root ← draft.root.change? (opening key) path.dropLast
  return ⟨root, path⟩

/-- One line of a document that holds something. -/
def Draft.line? (draft : Draft) : Text → Option (Draft × Text)
  | '[' :: '[' :: rest => do
    let (path, rest) ← keyPath? (skipSpaces rest)
    match rest with
    | ']' :: ']' :: rest =>
      return (← draft.header? Entries.openNext? path, ← lineEnd? false rest)
    | _ => none
  | '[' :: rest => do
    let (path, rest) ← keyPath? (skipSpaces rest)
    match rest with
    | ']' :: rest => return (← draft.header? Entries.open? path, ← lineEnd? false rest)
    | _ => none
  | text => do
    let (path, rest) ← keyPath? text
    match rest with
    | '=' :: rest =>
      let (value, rest) ← value? (rest.length + 1) (skipSpaces rest)
      let root ← draft.root.change? (Entries.define? path value) draft.path
      return (⟨root, draft.path⟩, ← lineEnd? false rest)
    | _ => none

/-- The lines of a document, at most so many. -/
def Draft.lines? : Nat → Draft → Text → Option Entries
  | 0, _, _ => none
  | most + 1, draft, text => do
    match ← skipLines? false text with
    | [] => return draft.root
    | text =>
      let (draft, rest) ← draft.line? text
      lines? most draft rest

/-- A text without the byte order mark that it may begin with. -/
def withoutMark : Text → Text
  | '\ufeff' :: rest => rest
  | text => text

/-- The root table of a document. -/
def parse? (text : Text) : Option Entries :=
  let text := withoutMark text
  Draft.lines? (text.length + 1) ⟨[], []⟩ text

end WorkloadNames.Toml
