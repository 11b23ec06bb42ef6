import WorkloadNames.Pattern.CharClass
import WorkloadNames.Text.Alphanumeric

/-!
Whether a text is a pattern. A pattern is a choice of sequences; a part of a sequence may be
repeated, and parts may be grouped. Patterns stand between braces themselves, so that an opening
brace in one, unless it is escaped or a member of a class, has no closing brace and makes the text
no pattern.
-/

set_option autoImplicit false
set_option relaxedAutoImplicit false

namespace WorkloadNames.Pattern

/-! ### Groups -/

/-- What stands behind an opening parenthesis. -/
inductive Head where
  /-- The parts of a group, to be read in the given way; the group may bear a name. -/
  | group (mode : Mode) (name? : Option Text)
  /-- A change of the way of reading, for the rest of the group around it. -/
  | change (mode : Mode)
  deriving DecidableEq, Repr

/-- A character of the name of a group, or its first one. -/
def isGroupNameChar (c : Char) (isFirst : Bool) : Bool :=
  if isFirst then c == '_' || Text.isLetter c
  else c ∈ ['_', '.', '[', ']'] || Text.isAlphanumeric c

/-- The name of a group, with the angle bracket behind it. -/
def groupName? (text : Text) : Option (Text × Text) := do
  let name := text.takeWhile fun c ↦ c != '>'
  let first ← name.head?
  guard (isGroupNameChar first true && name.tail.all (isGroupNameChar · false))
  match text.drop name.length with
  | '>' :: rest => return (name, rest)
  | _ => none

/-- The rest of the letters that change the way of reading, with what ends them. No letter stands
twice, and a hyphen, which may stand once, turns off the letters behind it. -/
def changes? (seen : List Char) (hyphen? : Option Bool) (mode : Mode) : Text → Option (Head × Text)
  | [] => none
  | ':' :: rest => if hyphen? = some true then none else some (.group mode none, rest)
  | ')' :: rest =>
    if hyphen? = some true ∨ (seen.isEmpty ∧ hyphen? = none) then none
    else some (.change mode, rest)
  | '-' :: rest => if hyphen?.isSome then none else changes? seen (some true) mode rest
  | c :: rest =>
    if c ∈ Mode.letters ∧ c ∉ seen then
      changes? (c :: seen) (hyphen?.map fun _ ↦ false) (mode.turned c hyphen?.isNone) rest
    else none

/-- What stands behind an opening parenthesis. There is no looking ahead or behind. -/
def head? (mode : Mode) (text : Text) : Option (Head × Text) :=
  match mode.skip text with
  | '?' :: '=' :: _ => none
  | '?' :: '!' :: _ => none
  | '?' :: '<' :: '=' :: _ => none
  | '?' :: '<' :: '!' :: _ => none
  | '?' :: 'P' :: '<' :: rest =>
    (groupName? rest).map fun (name, rest) ↦ (.group mode (some name), rest)
  | '?' :: '<' :: rest =>
    (groupName? rest).map fun (name, rest) ↦ (.group mode (some name), rest)
  | '?' :: rest => changes? [] none mode rest
  | rest => some (.group mode none, rest)

/-! ### Sequences -/

/-- What has been read of a group, or of the pattern as a whole. -/
structure Body where
  /-- How deeply the choices so far are nested, if there has been a bar. -/
  choices? : Option Nat
  /-- The number of parts behind the last bar. -/
  count : Nat
  /-- How deeply these are nested, the last one aside. -/
  others : Nat
  /-- How deeply the last one is nested. -/
  last : Nat
  /-- Whether the last one can be repeated. -/
  isRepeatable : Bool
  deriving DecidableEq, Repr

namespace Body

/-- A group of which nothing has been read. -/
def nothing : Body := ⟨none, 0, 0, 0, false⟩

/-- One more part. -/
def add (body : Body) (depth : Nat) (isRepeatable : Bool) : Body :=
  { body with
    count := body.count + 1
    others := max body.others body.last
    last := depth
    isRepeatable := isRepeatable }

/-- The repetition of the last part. -/
def repeated (body : Body) : Body := { body with last := body.last + 1 }

/-- How deeply the parts behind the last bar are nested, taken together. -/
def sequence (body : Body) : Nat :=
  if body.count ≤ 1 then body.last else max body.others body.last + 1

/-- How deeply all that has been read is nested. -/
def total (body : Body) : Nat :=
  body.choices?.elim body.sequence fun choices ↦ max choices (body.sequence + 1)

/-- A bar, behind which a further choice begins. -/
def bar (body : Body) : Body :=
  { nothing with choices? := some (max (body.choices?.getD 0) (body.sequence + 1)) }

end Body

/-- The text after the sign that makes a repetition as short as can be. -/
def skipShortest : Text → Text
  | '?' :: rest => rest
  | text => text

/-- The rest of a group or of the pattern as a whole, with at most so many parts: how deeply it is
nested, and the names that groups have been given. -/
def bodyRest? : Nat → Mode → Bool → List Text → Body → Text → Option (Nat × List Text × Text)
  | 0, _, _, _, _, _ => none
  | most + 1, mode, isGroup, names, body, text =>
    match mode.skip text with
    | [] => if isGroup then none else some (body.total, names, [])
    | ')' :: rest => if isGroup then some (body.total, names, rest) else none
    | '|' :: rest => bodyRest? most mode isGroup names body.bar rest
    | '(' :: rest =>
      match head? mode rest with
      | none => none
      | some (.change mode, rest) => bodyRest? most mode isGroup names (body.add 0 false) rest
      | some (.group inner name?, rest) => do
        guard (name?.all fun name ↦ name ∉ names)
        let (depth, names, rest) ← bodyRest? most inner true (name?.toList ++ names) .nothing rest
        bodyRest? most mode isGroup names (body.add (depth + 1) true) rest
    | '[' :: rest => do
      let (depth, rest) ← class? mode rest
      bodyRest? most mode isGroup names (body.add depth true) rest
    | '{' :: _ => none
    | c :: rest =>
      if c ∈ ['?', '*', '+'] then do
        guard body.isRepeatable
        bodyRest? most mode isGroup names body.repeated (skipShortest rest)
      else do
        let (atom, rest) ← atom? mode (c :: rest)
        guard (atom.isUsable mode)
        bodyRest? most mode isGroup names (body.add 0 true) rest

/-- The depth of nesting that is put up with. -/
def maxDepth : Nat := 250

/-- Whether a text is a pattern that can be matched. -/
def isPattern (text : Text) : Bool :=
  (bodyRest? (text.length + 1) .standard false [] .nothing text).any fun (depth, _, _) ↦
    depth ≤ maxDepth

end WorkloadNames.Pattern
