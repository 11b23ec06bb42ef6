import WorkloadNames.Proofs.CommandLine.Steps

/-!
Every invocation can be asked for. It is written as arguments with the options of the program in
front of its command, each value joined to its option, and the operands behind the divider, where
nothing is taken for an option any more. Parsing gives the invocation back, whatever its texts are.
-/

set_option autoImplicit false
set_option relaxedAutoImplicit false

namespace WorkloadNames.CommandLine

variable {stretch : Stretch} {reading : Reading} {parameter : Parameter} {flag : Flag}
  {rest : List Text}

/-! ### Writing -/

/-- A parameter and its value in one argument. -/
def Parameter.given (parameter : Parameter) (value : Text) : Text :=
  '-' :: '-' :: (parameter.word ++ '=' :: value)

namespace Command

/-- The verb of a command. -/
def verb : Command → Verb
  | .nameImage _ _ => .nameImage
  | .nameInstance _ _ _ _ => .nameInstance
  | .sanitize _ => .sanitize
  | .check _ _ => .check

/-- The arguments of a command after its verb. -/
def arguments : Command → List Text
  | .nameImage tag hash => [['-', '-'], tag, hash]
  | .nameInstance namespaceName kind name hash =>
    [Parameter.namespaceName.given namespaceName, Parameter.kind.given kind,
      Parameter.name.given name, ['-', '-'], hash]
  | .sanitize raw => [['-', '-'], raw]
  | .check label names => (if label then [Flag.label.shown] else []) ++ ['-', '-'] :: names

end Command

/-- An invocation as arguments. -/
def Invocation.written (invocation : Invocation) : List Text :=
  ((invocation.format?.map Format.word).map Parameter.format.given).toList
    ++ ((invocation.config?.map Parameter.config.given).toList
    ++ ((if invocation.logJson then [Flag.logJson.shown] else [])
    ++ invocation.command.verb.word :: invocation.command.arguments))

/-! ### Words -/

theorem Stretch.parameter?_word (h : parameter ∈ stretch.parameters) :
    stretch.parameter? parameter.word = some parameter := by
  revert h
  cases stretch with
  | before => cases parameter <;> decide
  | after verb => cases verb <;> cases parameter <;> decide

theorem Stretch.parameter?_word_flag (stretch : Stretch) (flag : Flag) :
    stretch.parameter? flag.word = none := by
  cases stretch with
  | before => cases flag <;> decide
  | after verb => cases verb <;> cases flag <;> decide

theorem Stretch.flag?_word (h : flag ∈ stretch.flags) : stretch.flag? flag.word = some flag := by
  revert h
  cases stretch with
  | before => cases flag <;> decide
  | after verb => cases verb <;> cases flag <;> decide

theorem Verb.ofWord?_word (verb : Verb) : Verb.ofWord? verb.word = some verb := by
  cases verb <;> decide

theorem Verb.word_ne_helpWord (verb : Verb) : verb.word ≠ helpWord := by
  cases verb <;> decide

theorem Look.ofArgument_given (parameter : Parameter) (value : Text) :
    Look.ofArgument (parameter.given value) = .long parameter.word (some value) := by
  cases parameter <;> rfl

theorem Look.ofArgument_shown (flag : Flag) :
    Look.ofArgument flag.shown = .long flag.word none := by
  cases flag <;> rfl

theorem Look.ofArgument_word (verb : Verb) : Look.ofArgument verb.word = .plain := by
  cases verb <;> rfl

/-! ### Arguments -/

namespace Reading

/-- A value that is joined to its parameter is settled at once. -/
theorem read_given {value : Text} (hparameter : parameter ∈ stretch.parameters)
    (hpending : reading.pending? = none) (hnew : reading.value? parameter = none)
    (haccepts : parameter.accepts value = true) (rest : List Text) :
    read stretch false reading (parameter.given value :: rest) =
      read stretch false { reading with values := reading.values ++ [(parameter, value)] }
        rest := by
  have hlong := long_eq_ok_iff.mpr (.joined (Stretch.parameter?_word hparameter)
    (settle_eq_ok hpending) (give_eq_ok_iff.mpr ⟨hnew, haccepts, rfl⟩))
  rw [read, if_neg Bool.false_ne_true, Look.ofArgument_given]
  simp only [hlong, ok_bind]

/-- A flag that only sets something is taken at once. -/
theorem read_shown (hflag : flag ∈ stretch.flags) (hkind : flag = .logJson ∨ flag = .label)
    (hpending : reading.pending? = none) (hnew : flag ∉ reading.flags) (rest : List Text) :
    read stretch false reading (flag.shown :: rest) =
      read stretch false { reading with flags := reading.flags ++ [flag] } rest := by
  have hlong := long_eq_ok_iff.mpr (.raised (stretch.parameter?_word_flag flag)
    (Stretch.flag?_word hflag)
    (raise_eq_ok_iff.mpr ⟨hkind, reading, settle_eq_ok hpending, hnew, rfl⟩))
  rw [read, if_neg Bool.false_ne_true, Look.ofArgument_shown]
  simp only [hlong, ok_bind]

theorem read_divider (stretch : Stretch) (reading : Reading) (rest : List Text) :
    read stretch false reading (['-', '-'] :: rest) = read stretch true reading rest :=
  rfl

/-- Behind the divider everything is an operand, as long as there is room. -/
theorem read_operands (operands : List Text) (hpending : reading.pending? = none)
    (hroom : stretch = .after .check ∨
      reading.operands.length + operands.length ≤ stretch.operands.length) :
    read stretch true reading operands =
      .ok ({ reading with operands := reading.operands ++ operands }, .line) := by
  induction operands generalizing reading with
  | nil => rw [read, List.append_nil]
  | cons operand operands ih =>
    have hplace : stretch.hasRoom reading.operands.length = true := by
      rcases hroom with hcheck | hroom
      · simp [Stretch.hasRoom, hcheck]
      · have hlt : reading.operands.length < stretch.operands.length := by
          rw [List.length_cons] at hroom
          omega
        simp [Stretch.hasRoom, hlt]
    have hoperand : reading.operand stretch true operand =
        .ok { reading with operands := reading.operands ++ [operand] } :=
      operand_eq_ok_iff.mpr ⟨hplace, reading, settle_eq_ok hpending, rfl⟩
    have hlater : stretch = .after .check ∨
        (reading.operands ++ [operand]).length + operands.length ≤ stretch.operands.length := by
      refine hroom.imp_right fun hroom ↦ ?_
      rw [List.length_append, List.length_singleton]
      rw [List.length_cons] at hroom
      omega
    have hmore := @ih { reading with operands := reading.operands ++ [operand] } hpending hlater
    rw [read, if_pos rfl, hoperand, ok_bind, hmore, List.append_assoc, List.singleton_append]

/-- The word of a verb ends the stretch in front of the command. -/
theorem read_word (verb : Verb) (hpending : reading.pending? = none) (rest : List Text) :
    read .before false reading (verb.word :: rest) = .ok (reading, .verb verb rest) := by
  have hwaiting : reading.waiting? = none := by rw [waiting?, hpending]; rfl
  rw [read, Look.ofArgument_word]
  simp [hwaiting, ending?, Verb.word_ne_helpWord, Verb.ofWord?_word]

/-- A parameter that may be left out. -/
theorem read_given? {value? : Option Text} (hparameter : parameter ∈ stretch.parameters)
    (hpending : reading.pending? = none) (hnew : reading.value? parameter = none)
    (haccepts : ∀ value ∈ value?, parameter.accepts value = true) (rest : List Text) :
    read stretch false reading ((value?.map parameter.given).toList ++ rest) =
      read stretch false
        { reading with
          values := reading.values ++ (value?.map fun value ↦ (parameter, value)).toList }
        rest := by
  cases value? with
  | none => simp
  | some value => exact read_given hparameter hpending hnew (haccepts value rfl) rest

/-- A flag that may be left out. -/
theorem read_shown? (hflag : flag ∈ stretch.flags) (hkind : flag = .logJson ∨ flag = .label)
    (hpending : reading.pending? = none) (hnew : flag ∉ reading.flags) (raised : Bool)
    (rest : List Text) :
    read stretch false reading ((if raised then [flag.shown] else []) ++ rest) =
      read stretch false
        { reading with flags := reading.flags ++ if raised then [flag] else [] } rest := by
  cases raised with
  | false => simp
  | true => exact read_shown hflag hkind hpending hnew rest

theorem checkConfig_eq_ok {environment? : Option Text} (h : environment? ≠ some [])
    (reading : Reading) : reading.checkConfig environment? = .ok () := by
  unfold checkConfig
  split
  · rename_i path _
    cases path with
    | nil => exact absurd rfl h
    | cons c path => rfl
  · rfl

end Reading

/-! ### Parsing -/

open Reading

/-- What has been read of the arguments of a command, none of which belongs to the program. -/
def Command.back (command : Command) : Reading :=
  match command with
  | .nameImage tag hash => ⟨[], [], [tag, hash], none⟩
  | .nameInstance namespaceName kind name hash =>
    ⟨[(.namespaceName, namespaceName), (.kind, kind), (.name, name)], [], [hash], none⟩
  | .sanitize raw => ⟨[], [], [raw], none⟩
  | .check label names => ⟨[], if label then [.label] else [], names, none⟩

theorem read_arguments (command : Command) :
    read (.after command.verb) false .fresh command.arguments = .ok (command.back, .line) := by
  cases command with
  | nameImage tag hash => rfl
  | nameInstance namespaceName kind name hash =>
    rw [Command.arguments, Command.verb, read_given (by decide) rfl rfl rfl,
      read_given (by decide) rfl rfl rfl, read_given (by decide) rfl rfl rfl]
    rfl
  | sanitize raw => rfl
  | check label names =>
    rw [Command.arguments, Command.verb, read_shown? (by decide) (Or.inr rfl) rfl List.not_mem_nil,
      read_divider, read_operands names rfl (Or.inl rfl)]
    rfl

theorem readCommand_arguments {environment? : Option Text} (henvironment : environment? ≠ some [])
    {command : Command} (hnames : ∀ label, command ≠ .check label []) :
    readCommand command.verb environment? command.arguments = .ok (command.back, command) := by
  have hcommand : command.back.command? command.verb = some command := by
    cases command with
    | nameImage tag hash => rfl
    | nameInstance namespaceName kind name hash => rfl
    | sanitize raw => rfl
    | check label names =>
      cases names with
      | nil => exact absurd rfl (hnames label)
      | cons name names => cases label <;> rfl
  have hsettle : command.back.settle = .ok command.back :=
    settle_eq_ok (by cases command <;> rfl)
  rw [readCommand, read_arguments, ok_bind]
  simp only [hsettle, ok_bind, checkConfig_eq_ok henvironment, hcommand]
  rfl

/-- What has been read of the arguments in front of a command. -/
def Invocation.front (invocation : Invocation) : Reading :=
  ⟨((invocation.format?.map Format.word).map fun word ↦ (.format, word)).toList
      ++ (invocation.config?.map fun path ↦ (.config, path)).toList,
    if invocation.logJson then [.logJson] else [], [], none⟩

theorem read_written {invocation : Invocation} (hconfig : invocation.config? ≠ some []) :
    read .before false .fresh invocation.written =
      .ok (invocation.front, .verb invocation.command.verb invocation.command.arguments) := by
  have hword : ∀ word ∈ invocation.format?.map Format.word,
      Parameter.accepts .format word = true := by
    intro word hword
    obtain ⟨format, -, rfl⟩ := Option.map_eq_some_iff.mp hword
    simp [Parameter.accepts]
  have hpath : ∀ path ∈ invocation.config?, Parameter.accepts .config path = true := by
    intro path hpath
    cases path with
    | nil => exact absurd hpath hconfig
    | cons c path => rfl
  have hnew : value? { fresh with values := fresh.values ++
      ((invocation.format?.map Format.word).map fun word ↦ (.format, word)).toList } .config =
        none := by
    cases invocation.format? <;> rfl
  rw [Invocation.written, read_given? (by decide) rfl rfl hword,
    read_given? (by decide) rfl hnew hpath,
    read_shown? (by decide) (Or.inl rfl) rfl List.not_mem_nil, read_word _ rfl]
  rfl

theorem Command.value?_back_eq_none (command : Command) :
    command.back.value? .format = none ∧ command.back.value? .config = none := by
  cases command <;> exact ⟨rfl, rfl⟩

theorem Invocation.value?_front_format (invocation : Invocation) :
    invocation.front.value? .format = invocation.format?.map Format.word := by
  obtain ⟨format?, config?, logJson, command⟩ := invocation
  cases format? with
  | none => cases config? <;> rfl
  | some format => rfl

theorem Invocation.value?_front_config (invocation : Invocation) :
    invocation.front.value? .config = invocation.config? := by
  obtain ⟨format?, config?, logJson, command⟩ := invocation
  cases format? <;> cases config? <;> rfl

theorem Invocation.logJson_mem_flags_iff (invocation : Invocation) :
    Flag.logJson ∈ invocation.command.back.flags ++ invocation.front.flags ↔
      invocation.logJson = true := by
  obtain ⟨format?, config?, logJson, command⟩ := invocation
  have hback : Flag.logJson ∉ command.back.flags := by
    cases command with
    | check label names => cases label <;> simp [Command.back]
    | _ => exact List.not_mem_nil
  cases logJson <;> simp [Invocation.front, hback]

/-- Parsing gives back an invocation that has been written as arguments. Its path of the settings is
not empty, and a path from the environment stands in for it if it is left out. -/
theorem parse_written {environment? : Option Text} (henvironment : environment? ≠ some [])
    {invocation : Invocation} (hconfig : invocation.config? ≠ some [])
    (hnames : ∀ label, invocation.command ≠ .check label []) :
    parse environment? invocation.written =
      .ok { invocation with config? := invocation.config?.or environment? } := by
  have hsettle : invocation.front.settle = .ok invocation.front := settle_eq_ok rfl
  have hformat : (invocation.format?.map Format.word).bind Format.ofWord? =
      invocation.format? := by
    cases invocation.format? with
    | none => rfl
    | some format => exact Format.ofWord?_word format
  obtain ⟨hnoFormat, hnoConfig⟩ := invocation.command.value?_back_eq_none
  rw [parse, read_written hconfig, ok_bind]
  simp only [readCommand_arguments henvironment hnames, hsettle, ok_bind,
    checkConfig_eq_ok henvironment, hnoFormat, hnoConfig, Option.none_or,
    invocation.value?_front_format, invocation.value?_front_config, hformat,
    invocation.logJson_mem_flags_iff, Bool.decide_eq_true]
  rfl

end WorkloadNames.CommandLine
