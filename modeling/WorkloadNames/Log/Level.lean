import WorkloadNames.Text.Basic

/-!
How important an event is, and the thresholds that decide which events are told. A threshold is a
level, which admits that level and everything more important, or nothing, which admits no event.
-/

set_option autoImplicit false
set_option relaxedAutoImplicit false

namespace WorkloadNames.Log

/-- The importance of an event. -/
inductive Level where
  | error
  | warn
  | info
  | debug
  | trace
  deriving DecidableEq, Repr

namespace Level

/-- The levels from the most important to the least. -/
def all : List Level := [.error, .warn, .info, .debug, .trace]

/-- The place of a level in that order, from one on. -/
def number : Level → Nat
  | .error => 1
  | .warn => 2
  | .info => 3
  | .debug => 4
  | .trace => 5

/-- The name of a level in a log line. -/
def name : Level → Text
  | .error => "ERROR".toList
  | .warn => "WARN".toList
  | .info => "INFO".toList
  | .debug => "DEBUG".toList
  | .trace => "TRACE".toList

/-- The sequence that sets the name of a level off on a terminal. -/
def opening : Level → Text
  | .error => "\x1b[31m".toList
  | .warn => "\x1b[33m".toList
  | .info => "\x1b[32m".toList
  | .debug => "\x1b[34m".toList
  | .trace => "\x1b[35m".toList

end Level

/-- The least important level to be told; nothing if no event is. -/
abbrev Threshold := Option Level

namespace Threshold

/-- Whether an event of a level is told. -/
def admits (threshold : Threshold) (level : Level) : Bool :=
  threshold.any fun least ↦ level.number ≤ least.number

/-- The number that a text of digits writes, with or without a plus sign before it. -/
def number? (text : Text) : Option Nat :=
  let digits := match text with
    | '+' :: rest => rest
    | rest => rest
  if digits.isEmpty || !digits.all Char.isDigit then none
  else some (digits.foldl (fun value c ↦ 10 * value + (c.toNat - '0'.toNat)) 0)

/-- The threshold of a number from zero to five, or of the name of a level or of `off` in letters of
either case. -/
def ofText? (text : Text) : Option Threshold :=
  match number? text with
  | some 0 => some none
  | some number => (Level.all.find? fun level ↦ level.number = number).map some
  | none =>
    let capitals := text.map Char.toUpper
    if capitals = "OFF".toList then some none
    else (Level.all.find? fun level ↦ level.name = capitals).map some

end Threshold

end WorkloadNames.Log
