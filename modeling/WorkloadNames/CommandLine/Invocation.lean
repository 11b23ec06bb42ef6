import WorkloadNames.CommandLine.Reading

/-!
What a command line asks for. An option of the program may stand before the command or after it, and
the later place wins; the path of the settings may also come from the environment, which counts for
less than either place.
-/

set_option autoImplicit false
set_option relaxedAutoImplicit false

namespace WorkloadNames.CommandLine

/-- A command with its arguments. -/
inductive Command where
  | nameImage (tag hash : Text)
  | nameInstance (namespaceName kind name hash : Text)
  | sanitize (raw : Text)
  | check (label : Bool) (names : List Text)
  deriving DecidableEq, Repr

/-- Everything that a command line asks for. -/
structure Invocation where
  /-- The format that results are to be printed in. -/
  format? : Option Format
  /-- The path of the settings. -/
  config? : Option Text
  /-- Whether log lines are to be JSON objects. -/
  logJson : Bool
  command : Command
  deriving DecidableEq, Repr

/-- The format of the results: that of the command line, or else that of the settings. -/
def Invocation.format (invocation : Invocation) (config : Config) : Format :=
  invocation.format?.getD config.format

namespace Reading

/-- The parameters and operands of a stretch that have to be given and have not been. -/
def missing (reading : Reading) (stretch : Stretch) : List Text :=
  ((stretch.required.filter fun parameter ↦ (reading.value? parameter).isNone).map Parameter.shown)
    ++ (stretch.operands.drop reading.operands.length).map Operand.shown

/-- The command of the arguments after a verb. -/
def command? (reading : Reading) : Verb → Option Command
  | .nameImage =>
    match reading.operands with
    | [tag, hash] => some (.nameImage tag hash)
    | _ => none
  | .nameInstance =>
    match reading.operands with
    | [hash] => do
      return .nameInstance (← reading.value? .namespaceName) (← reading.value? .kind)
        (← reading.value? .name) hash
    | _ => none
  | .sanitize =>
    match reading.operands with
    | [raw] => some (.sanitize raw)
    | _ => none
  | .check =>
    match reading.operands with
    | [] => none
    | names => some (.check (.label ∈ reading.flags) names)

/-- Whether a path of the settings from the environment can be used, should one be needed. -/
def checkConfig (reading : Reading) (environment? : Option Text) : Except Halt Unit :=
  match reading.value? .config, environment? with
  | none, some path =>
    if Parameter.accepts .config path then .ok () else .error (refusal .config path)
  | _, _ => .ok ()

end Reading

/-- Reads the arguments after a verb. -/
def readCommand (verb : Verb) (environment? : Option Text) (arguments : List Text) :
    Except Halt (Reading × Command) := do
  let (reading, _) ← Reading.read (.after verb) false .fresh arguments
  let reading ← reading.settle
  reading.checkConfig environment?
  match reading.command? verb with
  | some command => return (reading, command)
  | none => throw (.misuse (.missing (reading.missing (.after verb))))

/-- What comes of asking for help on some commands. Commands have no commands of their own. -/
def helpOn : List Text → Halt
  | [] => .help
  | [word] => if Misuse.isCommandWord word then .help else .misuse (.unknownCommand word)
  | word :: inner :: _ =>
    .misuse (.unknownCommand (if Misuse.isCommandWord word then inner else word))

/-- Whether anything has been given in front of a missing command. -/
def isBare (reading : Reading) (environment? : Option Text) : Bool :=
  reading.values.isEmpty && reading.flags.isEmpty && environment?.isNone

/-- Reads a whole command line, given the path of the settings in the environment. -/
def parse (environment? : Option Text) (arguments : List Text) : Except Halt Invocation := do
  let (front, ending) ← Reading.read .before false .fresh arguments
  match ending with
  | .help rest => throw (helpOn rest)
  | .line =>
    let front ← front.settle
    front.checkConfig environment?
    throw (.misuse (if isBare front environment? then .nothing else .noCommand))
  | .verb verb rest =>
    let (back, command) ← readCommand verb environment? rest
    let front ← front.settle
    front.checkConfig environment?
    return {
      format? := ((back.value? .format).or (front.value? .format)).bind Format.ofWord?
      config? := ((back.value? .config).or (front.value? .config)).or environment?
      logJson := .logJson ∈ back.flags ++ front.flags
      command }

end WorkloadNames.CommandLine
