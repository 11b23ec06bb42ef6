import WorkloadNames.CommandLine.Misuse

/-!
Reading one stretch of the command line, from left to right. The value of a parameter is settled
only when the next argument with a meaning of its own comes along or the stretch ends: it is then
that a parameter given twice and a value that is refused are found. An argument that is itself
unexpected is reported before anything that is still to be settled.
-/

set_option autoImplicit false
set_option relaxedAutoImplicit false

namespace WorkloadNames.CommandLine

/-! ### The looks of an argument -/

/-- An argument by its looks. -/
inductive Look where
  /-- Two hyphens: every argument from here on is an operand. -/
  | divider
  /-- Two hyphens and a word, with a value behind an equals sign or without. -/
  | long (word : Text) (value? : Option Text)
  /-- A hyphen and letters. -/
  | letters (letters : Text)
  | plain
  deriving DecidableEq, Repr

/-- The looks of an argument. -/
def Look.ofArgument : Text → Look
  | ['-', '-'] => .divider
  | '-' :: '-' :: rest =>
    let word := rest.takeWhile fun c ↦ c != '='
    match rest.drop word.length with
    | [] => .long word none
    | _ :: value => .long word (some value)
  | '-' :: c :: rest => .letters (c :: rest)
  | _ => .plain

/-! ### What has been read -/

/-- A parameter whose value is still to be settled, or still to come. -/
structure Pending where
  parameter : Parameter
  value? : Option Text
  deriving DecidableEq, Repr

/-- What has been read of a stretch. -/
structure Reading where
  values : List (Parameter × Text)
  flags : List Flag
  operands : List Text
  pending? : Option Pending
  deriving DecidableEq, Repr

/-- Why reading ends early. -/
inductive Halt where
  | misuse (misuse : Misuse)
  | help
  | version
  deriving DecidableEq, Repr

/-- How a stretch ends: with the line, or with a command and the arguments after it. -/
inductive Ending where
  | line
  | verb (verb : Verb) (rest : List Text)
  | help (rest : List Text)
  deriving DecidableEq, Repr

namespace Reading

/-- A stretch of which nothing has been read. -/
def fresh : Reading := ⟨[], [], [], none⟩

/-- The settled value of a parameter. -/
def value? (reading : Reading) (parameter : Parameter) : Option Text :=
  (reading.values.find? fun entry ↦ entry.1 = parameter).map Prod.snd

/-- The fault of a value that a parameter refuses; an empty value counts as none. -/
def refusal (parameter : Parameter) (value : Text) : Halt :=
  .misuse (if value.isEmpty then .valueMissing parameter else .badValue value parameter)

/-- Settles the value of a parameter. -/
def give (reading : Reading) (parameter : Parameter) (value : Text) : Except Halt Reading :=
  if (reading.value? parameter).isSome then .error (.misuse (.repeated parameter.shown))
  else if parameter.accepts value then
    .ok { reading with values := reading.values ++ [(parameter, value)] }
  else .error (refusal parameter value)

/-- Settles what is pending. -/
def settle (reading : Reading) : Except Halt Reading :=
  match reading.pending? with
  | none => .ok reading
  | some ⟨parameter, none⟩ => .error (.misuse (.valueMissing parameter))
  | some ⟨parameter, some value⟩ => { reading with pending? := none }.give parameter value

/-- The parameter that waits for its value. -/
def waiting? (reading : Reading) : Option Parameter :=
  reading.pending?.bind fun pending ↦
    if pending.value?.isNone then some pending.parameter else none

/-- Takes a flag. -/
def raise (reading : Reading) (flag : Flag) : Except Halt Reading := do
  let reading ← reading.settle
  match flag with
  | .help => throw .help
  | .version => throw .version
  | .logJson | .label =>
    if flag ∈ reading.flags then throw (.misuse (.repeated flag.shown))
    else return { reading with flags := reading.flags ++ [flag] }

/-- Takes a word with two hyphens. -/
def long (reading : Reading) (stretch : Stretch) (word : Text) (value? : Option Text) :
    Except Halt Reading :=
  match stretch.parameter? word with
  | some parameter => do
    let reading ← reading.settle
    match value? with
    | some value => reading.give parameter value
    | none => return { reading with pending? := some ⟨parameter, none⟩ }
  | none =>
    match stretch.flag? word with
    | some flag =>
      match value? with
      | some value => .error (.misuse (.unexpectedValue value flag))
      | none => reading.raise flag
    | none => .error (.misuse (.unexpected (['-', '-'] ++ word)))

/-- Takes letters behind one hyphen. -/
def letters (reading : Reading) (stretch : Stretch) : Text → Except Halt Reading
  | [] => .ok reading
  | letter :: rest =>
    match stretch.letterFlag? letter with
    | some flag => do (← reading.raise flag).letters stretch rest
    | none => .error (.misuse (.unexpected ['-', letter]))

/-- The fault of an operand that a stretch has no room for. Before the command there is room for
none, since the command itself is expected. -/
def surplus (stretch : Stretch) (divided : Bool) (argument : Text) : Misuse :=
  match stretch with
  | .before =>
    if divided && Misuse.isCommandWord argument then .unexpected argument
    else .unknownCommand argument
  | .after _ => .unexpected argument

/-- Takes an operand. -/
def operand (reading : Reading) (stretch : Stretch) (divided : Bool) (argument : Text) :
    Except Halt Reading :=
  if stretch.hasRoom reading.operands.length then do
    let reading ← reading.settle
    return { reading with operands := reading.operands ++ [argument] }
  else .error (.misuse (surplus stretch divided argument))

/-- How a stretch ends at an argument, if it does: only a command ends one, and only the stretch
before it. -/
def ending? (stretch : Stretch) (argument : Text) (rest : List Text) : Option Ending :=
  match stretch with
  | .before =>
    if argument = helpWord then some (.help rest)
    else (Verb.ofWord? argument).map fun verb ↦ .verb verb rest
  | .after _ => none

/-- Reads a stretch up to its end. What is pending then stays so. -/
def read (stretch : Stretch) (divided : Bool) (reading : Reading) :
    List Text → Except Halt (Reading × Ending)
  | [] => .ok (reading, .line)
  | argument :: rest =>
    if divided then do read stretch true (← reading.operand stretch true argument) rest
    else
      match Look.ofArgument argument with
      | .divider => read stretch true reading rest
      | .long word value? => do
        read stretch false (← reading.long stretch word value?) rest
      | .letters letters => do
        read stretch false (← reading.letters stretch letters) rest
      | .plain =>
        match reading.waiting? with
        | some parameter =>
          read stretch false { reading with pending? := some ⟨parameter, some argument⟩ } rest
        | none =>
          match ending? stretch argument rest with
          | some ending => .ok (reading, ending)
          | none => do read stretch false (← reading.operand stretch false argument) rest

end Reading

end WorkloadNames.CommandLine
