import WorkloadNames.Pattern.Atom

/-!
Classes of characters, between square brackets: characters, ranges, families and further classes,
taken together or joined by operators. Every reader gives how deeply what it has read is nested.
-/

set_option autoImplicit false
set_option relaxedAutoImplicit false

namespace WorkloadNames.Pattern

/-- What has been read of a class. -/
structure Members where
  /-- How deeply the operands so far are nested, if there has been an operator. -/
  operands? : Option Nat
  /-- The number of members behind the last operator. -/
  count : Nat
  /-- How deeply these are nested. -/
  depth : Nat
  deriving DecidableEq, Repr

namespace Members

/-- A class of which nothing has been read. -/
def nothing : Members := ⟨none, 0, 0⟩

/-- One more member. -/
def add (members : Members) (depth : Nat) : Members :=
  { members with count := members.count + 1, depth := max members.depth depth }

/-- How deeply all that has been read is nested. -/
def total (members : Members) : Nat :=
  let union := if members.count ≤ 1 then members.depth else members.depth + 1
  members.operands?.elim union fun operands ↦ max operands union + 1

/-- An operator, behind which a further operand begins. -/
def operator (members : Members) : Members := ⟨some members.total, 0, 0⟩

end Members

/-- Where a class is being read: its first hyphens, and a closing bracket as its very first
character, are members. -/
inductive Place where
  | first
  | behindHyphens
  | later
  deriving DecidableEq, Repr

/-- The names of the classes that need not be spelled. -/
def classNames : List Text :=
  ["alnum", "alpha", "ascii", "blank", "cntrl", "digit", "graph", "lower", "print", "punct",
    "space", "upper", "word", "xdigit"].map String.toList

/-- A caret, by which a class holds all but its members. -/
def negation : Text → Bool × Text
  | '^' :: rest => (true, rest)
  | text => (false, text)

/-- A named class, read from behind its first bracket, and whether it is negated. -/
def namedClass? : Text → Option (Bool × Text)
  | ':' :: rest =>
    let (isNegated, rest) := negation rest
    let name := rest.takeWhile fun c ↦ c != ':'
    match rest.drop name.length with
    | ':' :: ']' :: rest => if name ∈ classNames then some (isNegated, rest) else none
    | _ => none
  | _ => none

/-- Whether a class can be matched: what is no member of it may not be a byte. -/
def isClassUsable (mode : Mode) (isNegated : Bool) : Bool := !(mode.bytes && isNegated)

/-- The text after a character, a family or a range. -/
def range? (mode : Mode) (text : Text) : Option Text := do
  let (first, rest) ← member? mode text
  match mode.skip rest with
  | [] => none
  | '-' :: behind =>
    if mode.ahead? behind = some ']' ∨ mode.ahead? behind = some '-' then
      guard (first.isMember mode)
      return '-' :: behind
    else
      let (last, rest) ← member? mode (mode.skip behind)
      match first, last with
      | .char c _, .char d _ =>
        guard (c.toNat ≤ d.toNat && first.isMember mode && last.isMember mode)
        return rest
      | _, _ => none
  | rest =>
    guard (first.isMember mode)
    return rest

/-- The rest of a class, with at most so many parts, and how deeply the class is nested. -/
def classRest? : Nat → Mode → Place → Members → Text → Option (Nat × Text)
  | 0, _, _, _, _ => none
  | most + 1, mode, place, members, text =>
    match mode.skip text with
    | [] => none
    | ']' :: rest =>
      if place = .first then do
        guard ((Atom.char ']' false).isMember mode)
        classRest? most mode .later (members.add 0) rest
      else some (members.total + 1, rest)
    | '-' :: rest =>
      if place = .later then
        match rest with
        | '-' :: rest => classRest? most mode .later members.operator rest
        | _ => do classRest? most mode .later (members.add 0) (← range? mode ('-' :: rest))
      else do
        guard ((Atom.char '-' false).isMember mode)
        classRest? most mode .behindHyphens (members.add 0) rest
    | '&' :: '&' :: rest => classRest? most mode .later members.operator rest
    | '~' :: '~' :: rest => classRest? most mode .later members.operator rest
    | '[' :: rest =>
      match namedClass? rest with
      | some (isNegated, rest) => do
        guard (if mode.bytes then !isNegated else !mode.caseless)
        classRest? most mode .later (members.add 0) rest
      | none => do
        let (isNegated, rest) := negation (mode.skip rest)
        guard (isClassUsable mode isNegated)
        let (depth, rest) ← classRest? most mode .first .nothing rest
        classRest? most mode .later (members.add depth) rest
    | text => do classRest? most mode .later (members.add 0) (← range? mode text)

/-- A class, read from behind its first bracket. -/
def class? (mode : Mode) (text : Text) : Option (Nat × Text) := do
  let (isNegated, rest) := negation (mode.skip text)
  guard (isClassUsable mode isNegated)
  classRest? (rest.length + 1) mode .first .nothing rest

end WorkloadNames.Pattern
