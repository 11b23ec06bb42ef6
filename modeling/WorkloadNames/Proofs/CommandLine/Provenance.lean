import WorkloadNames.Proofs.CommandLine.Spelling

/-!
Where the texts of an invocation come from. Reading takes the command line from left to right, and
what it has read is how the arguments that it has passed divide among values, flags and operands,
but for a value that is still to be settled and a parameter that waits for one. This holds before
the first argument and every argument preserves it. So what a parsed command line asks for is what
it spells: each option as it has been given, and the operands as exactly those behind the verb.
-/

set_option autoImplicit false
set_option relaxedAutoImplicit false

namespace WorkloadNames.CommandLine

variable {stretch : Stretch} {reading next : Reading} {parameter : Parameter} {flag : Flag}
  {argument value word : Text} {given rest : List Text} {divided : Bool}

namespace Reading

/-! ### One argument -/

/-- The values that are settled once what is pending is. -/
def due (reading : Reading) : List (Parameter × Text) :=
  reading.values ++ (reading.pending?.bind fun pending ↦
    pending.value?.map fun value ↦ (pending.parameter, value)).toList

/-- No parameter has two values, each accepts its own, and there is room for the operands. -/
structure Sound (stretch : Stretch) (reading : Reading) : Prop where
  distinct : (reading.values.map Prod.fst).Nodup
  accepted : ∀ entry ∈ reading.values, entry.1.accepts entry.2 = true
  room : stretch = .after .check ∨ reading.operands.length ≤ stretch.operands.length

/-- What is settled is how the arguments divide, and nothing is still to come. -/
structure Settled (stretch : Stretch) (given : List Text) (reading : Reading) : Prop
    extends Sound stretch reading where
  spelled : Spelled stretch given reading.values reading.flags reading.operands
  pending : reading.pending? = none

/-- What is settled and what is due are how the arguments divide. A parameter that waits for its
value is the last argument, unless there are operands only. -/
structure Drawn (stretch : Stretch) (given : List Text) (divided : Bool) (reading : Reading) : Prop
    extends Sound stretch reading where
  spelled : reading.waiting? = none →
    Spelled stretch given reading.due reading.flags reading.operands
  waiting : ∀ parameter, reading.waiting? = some parameter → divided = false →
    parameter ∈ stretch.parameters ∧ ∃ before, given = before ++ ['-' :: '-' :: parameter.word] ∧
      Spelled stretch before reading.values reading.flags reading.operands
  divider : divided = true ↔ ['-', '-'] ∈ given

theorem due_eq_values (h : reading.pending? = none) : reading.due = reading.values := by
  simp [due, h]

theorem value?_eq_lookup (reading : Reading) (parameter : Parameter) :
    reading.value? parameter = reading.values.lookup parameter := by
  unfold value?
  induction reading.values with
  | nil => rfl
  | cons entry values ih =>
    rw [List.find?_cons, List.lookup_cons]
    by_cases hentry : entry.1 = parameter
    · simp [hentry]
    · have hother : (parameter == entry.1) = false := beq_eq_false_iff_ne.mpr (Ne.symm hentry)
      simp [hentry, hother, ih]

/-- Settling settles what is due and nothing else. -/
theorem eq_of_settle (h : reading.settle = .ok next) :
    reading.waiting? = none ∧ next = { reading with values := reading.due, pending? := none } := by
  rcases settle_eq_ok_iff.mp h with ⟨hpending, rfl⟩ | ⟨parameter, value, hpending, hgive⟩
  · refine ⟨by rw [waiting?, hpending, Option.bind_none], ?_⟩
    rw [due_eq_values hpending, ← hpending]
  · obtain ⟨-, -, rfl⟩ := give_eq_ok_iff.mp hgive
    refine ⟨by simp [waiting?, hpending], ?_⟩
    simp [due, hpending]

theorem Sound.give (h : Sound stretch reading) (hgive : reading.give parameter value = .ok next) :
    Sound stretch next := by
  obtain ⟨hnew, haccepts, rfl⟩ := give_eq_ok_iff.mp hgive
  have hother : ∀ entry ∈ reading.values, parameter ≠ entry.1 := by
    simpa [value?_eq_lookup, List.lookup_eq_none_iff] using hnew
  refine ⟨?_, ?_, h.room⟩
  · rw [List.map_append, List.nodup_append]
    refine ⟨h.distinct, by simp, ?_⟩
    simpa using fun found value hentry ↦ (hother (found, value) hentry).symm
  · intro entry hentry
    rcases List.mem_append.mp hentry with hentry | hentry
    · exact h.accepted entry hentry
    · obtain rfl := List.mem_singleton.mp hentry
      exact haccepts

theorem Sound.settle (h : Sound stretch reading) (hsettle : reading.settle = .ok next) :
    Sound stretch next := by
  rcases settle_eq_ok_iff.mp hsettle with ⟨-, rfl⟩ | ⟨parameter, value, -, hgive⟩
  · exact h
  · have hrest : Sound stretch { reading with pending? := none } := ⟨h.distinct, h.accepted, h.room⟩
    exact hrest.give hgive

theorem Settled.drawn (h : Settled stretch given reading)
    (hdivided : divided = true ↔ ['-', '-'] ∈ given) : Drawn stretch given divided reading := by
  have hwaiting : reading.waiting? = none := by rw [waiting?, h.pending, Option.bind_none]
  refine ⟨h.toSound, fun _ ↦ ?_, by simp [hwaiting], hdivided⟩
  rw [due_eq_values h.pending]
  exact h.spelled

theorem drawn_fresh : Drawn stretch [] false fresh :=
  Settled.drawn ⟨⟨List.nodup_nil, by simp [fresh], Or.inr (Nat.zero_le _)⟩, .nothing, rfl⟩ (by simp)

theorem Drawn.settle (h : Drawn stretch given divided reading)
    (hsettle : reading.settle = .ok next) : Settled stretch given next := by
  obtain ⟨hwaiting, heq⟩ := eq_of_settle hsettle
  refine ⟨h.toSound.settle hsettle, ?_, ?_⟩
  · rw [heq]
    exact h.spelled hwaiting
  · rw [heq]

theorem Drawn.undivided (h : Drawn stretch given false reading) : ['-', '-'] ∉ given :=
  fun hmem ↦ absurd (h.divider.mpr hmem) (by decide)

/-- Another argument is no divider unless it looks like one. -/
theorem Drawn.divider_append (h : Drawn stretch given divided reading)
    (hlook : Look.ofArgument argument ≠ .divider) :
    divided = true ↔ ['-', '-'] ∈ given ++ [argument] := by
  rw [List.mem_append, List.mem_singleton, h.divider, or_iff_left (ne_divider_of_look hlook).symm]

/-- A value that is joined to its parameter comes behind those before it. -/
theorem Settled.give (h : Settled stretch given reading) (hdivider : ['-', '-'] ∉ given)
    (hparameter : parameter ∈ stretch.parameters)
    (hgive : reading.give parameter value = .ok next) :
    Settled stretch (given ++ [parameter.given value]) next := by
  have hsound := h.toSound.give hgive
  have hjoined : Spelled stretch [parameter.given value] [(parameter, value)] [] [] :=
    .joined hparameter .nothing
  have hspelled := h.spelled.append hdivider hjoined
  obtain ⟨-, -, rfl⟩ := give_eq_ok_iff.mp hgive
  rw [List.append_nil, List.append_nil] at hspelled
  exact ⟨hsound, hspelled, h.pending⟩

/-- A flag that is raised is the one that was given last. -/
theorem Drawn.raise (h : Drawn stretch given false reading) (hflag : flag ∈ stretch.flags)
    (hraise : reading.raise flag = .ok next) : Settled stretch (given ++ [flag.shown]) next := by
  obtain ⟨-, settled, hsettle, -, rfl⟩ := raise_eq_ok_iff.mp hraise
  have hsettled := h.settle hsettle
  have hshown : Spelled stretch [flag.shown] [] [flag] [] := .flag hflag .nothing
  have hspelled := hsettled.spelled.append h.undivided hshown
  rw [List.append_nil, List.append_nil] at hspelled
  exact ⟨⟨hsettled.distinct, hsettled.accepted, hsettled.room⟩, hspelled, hsettled.pending⟩

/-- A long argument is taken as a value, as a parameter that waits for one, or as a flag. -/
theorem Drawn.long {value? : Option Text} (h : Drawn stretch given false reading)
    (hlook : Look.ofArgument argument = .long word value?)
    (hlong : reading.long stretch word value? = .ok next) :
    Drawn stretch (given ++ [argument]) false next := by
  have hargument := Look.eq_of_ofArgument_eq_long hlook
  have hdivided : false = true ↔ ['-', '-'] ∈ given ++ [argument] :=
    h.divider_append (by rw [hlook]; simp)
  cases long_eq_ok_iff.mp hlong with
  | @joined parameter value settled _ hparameter hsettle hgive =>
    have hmem := Stretch.mem_of_parameter? hparameter
    obtain rfl := Stretch.word_of_parameter? hparameter
    obtain rfl : argument = parameter.given value := hargument
    exact ((h.settle hsettle).give h.undivided hmem hgive).drawn hdivided
  | @waits parameter settled hparameter hsettle =>
    have hmem := Stretch.mem_of_parameter? hparameter
    obtain rfl := Stretch.word_of_parameter? hparameter
    have hsettled := h.settle hsettle
    refine ⟨⟨hsettled.distinct, hsettled.accepted, hsettled.room⟩, by simp [waiting?], ?_, hdivided⟩
    intro other hother _
    obtain rfl : parameter = other := by simpa [waiting?] using hother
    rw [Option.elim_none, List.append_nil] at hargument
    exact ⟨hmem, given, by rw [hargument], hsettled.spelled⟩
  | @raised flag _ _ hflag hraise =>
    have hmem := Stretch.mem_of_flag? hflag
    obtain rfl := Stretch.word_of_flag? hflag
    rw [Option.elim_none, List.append_nil] at hargument
    obtain rfl : argument = flag.shown := hargument
    exact (h.raise hmem hraise).drawn hdivided

/-- An operand comes behind those before it, and behind the divider there is nothing else. -/
theorem Drawn.operand (h : Drawn stretch given divided reading)
    (hlook : divided = true ∨ Look.ofArgument argument = .plain)
    (hoperand : reading.operand stretch divided argument = .ok next) :
    Settled stretch (given ++ [argument]) next := by
  obtain ⟨hroom, settled, hsettle, rfl⟩ := operand_eq_ok_iff.mp hoperand
  have hsettled := h.settle hsettle
  have hoperands : settled.operands = reading.operands := by rw [(eq_of_settle hsettle).2]
  have hsound : Sound stretch { settled with operands := settled.operands ++ [argument] } := by
    refine ⟨hsettled.distinct, hsettled.accepted, ?_⟩
    simpa [Stretch.hasRoom, hoperands, Nat.succ_le_iff] using hroom
  refine ⟨hsound, ?_, hsettled.pending⟩
  cases divided with
  | true => exact hsettled.spelled.concat (h.divider.mp rfl) argument
  | false =>
    have hplain : Look.ofArgument argument = .plain := hlook.resolve_left Bool.false_ne_true
    have hspelled := hsettled.spelled.append h.undivided (.operand hplain .nothing)
    rwa [List.append_nil, List.append_nil] at hspelled

/-- Behind the divider nothing waits any more: what does, is never settled. -/
theorem Drawn.divide (h : Drawn stretch given false reading) :
    Drawn stretch (given ++ [['-', '-']]) true reading := by
  refine ⟨h.toSound, fun hwaiting ↦ ?_, fun _ _ hdivided ↦ absurd hdivided (by decide), by simp⟩
  have hspelled := (h.spelled hwaiting).append h.undivided (.divided [])
  rwa [List.append_nil, List.append_nil, List.append_nil] at hspelled

/-- A parameter that waits takes the next argument. -/
theorem Drawn.await (h : Drawn stretch given false reading)
    (hwaiting : reading.waiting? = some parameter) (hlook : Look.ofArgument argument = .plain) :
    Drawn stretch (given ++ [argument]) false
      { reading with pending? := some ⟨parameter, some argument⟩ } := by
  obtain ⟨hmem, before, rfl, hbefore⟩ := h.waiting parameter hwaiting rfl
  have hundivided : ['-', '-'] ∉ before := fun hdivider ↦
    h.undivided (List.mem_append_left _ hdivider)
  have hspelled := hbefore.append hundivided (.apart hmem hlook .nothing)
  rw [List.append_nil, List.append_nil, List.append_cons] at hspelled
  refine ⟨⟨h.distinct, h.accepted, h.room⟩, fun _ ↦ hspelled, by simp [waiting?],
    h.divider_append (by rw [hlook]; simp)⟩

/-- What one argument makes of a reading, where reading does not end at it. It tells also whether
there are operands only, in front of the argument and behind it. -/
inductive Passes (stretch : Stretch) (reading : Reading) (argument : Text) :
    Bool → Bool → Reading → Prop where
  | divided {next : Reading} (hoperand : reading.operand stretch true argument = .ok next) :
    Passes stretch reading argument true true next
  | divider (h : argument = ['-', '-']) : Passes stretch reading argument false true reading
  | long {word : Text} {value? : Option Text} {next : Reading}
      (hlook : Look.ofArgument argument = .long word value?)
      (hlong : reading.long stretch word value? = .ok next) :
    Passes stretch reading argument false false next
  | awaited {parameter : Parameter} (hlook : Look.ofArgument argument = .plain)
      (hwaiting : reading.waiting? = some parameter) :
    Passes stretch reading argument false false
      { reading with pending? := some ⟨parameter, some argument⟩ }
  | operand {next : Reading} (hlook : Look.ofArgument argument = .plain)
      (hwaiting : reading.waiting? = none) (hgoes : ∀ rest, ending? stretch argument rest = none)
      (hoperand : reading.operand stretch false argument = .ok next) :
    Passes stretch reading argument false false next

/-- Every argument that is passed is read. -/
theorem Drawn.passes {later : Bool} (h : Drawn stretch given divided reading)
    (hpasses : Passes stretch reading argument divided later next) :
    Drawn stretch (given ++ [argument]) later next := by
  cases hpasses with
  | divided hoperand =>
    have hdivider : ['-', '-'] ∈ given := h.divider.mp rfl
    exact (h.operand (Or.inl rfl) hoperand).drawn (by simp [hdivider])
  | divider hargument =>
    subst hargument
    exact h.divide
  | long hlook hlong => exact h.long hlook hlong
  | awaited hlook hwaiting => exact h.await hwaiting hlook
  | operand hlook hwaiting hgoes hoperand =>
    exact (h.operand (Or.inr hlook) hoperand).drawn (h.divider_append (by simp [hlook]))

end Reading

/-! ### All arguments -/

/-- What an ending leaves unread, with the word that makes it. -/
def Ending.unread : Ending → List Text
  | .line => []
  | .verb found rest => found.word :: rest
  | .help rest => helpWord :: rest

/-- An ending with something else left unread. -/
def Ending.map (f : List Text → List Text) : Ending → Ending
  | .line => .line
  | .verb found rest => .verb found (f rest)
  | .help rest => .help (f rest)

namespace Reading

theorem unread_of_ending? {ending : Ending} (h : ending? stretch argument rest = some ending) :
    ending.unread = argument :: rest := by
  unfold Reading.ending? at h
  split at h
  · split at h
    · rename_i hhelp
      obtain rfl := Option.some.inj h
      rw [Ending.unread, hhelp]
    · obtain ⟨verb, hverb, rfl⟩ := Option.map_eq_some_iff.mp h
      have hfind : Verb.all.find? (fun verb ↦ verb.word = argument) = some verb := hverb
      have hfound := List.find?_some hfind
      rw [Ending.unread, of_decide_eq_true hfound]
  · cases h

/-- Whether reading ends at an argument does not depend on what is left unread. -/
theorem ending?_map (f : List Text → List Text) (stretch : Stretch) (argument : Text)
    (rest : List Text) :
    ending? stretch argument (f rest) = (ending? stretch argument rest).map (Ending.map f) := by
  unfold Reading.ending?
  cases stretch with
  | after verb => rfl
  | before =>
    by_cases hhelp : argument = helpWord
    · simp only [if_pos hhelp]
      rfl
    · simp only [if_neg hhelp]
      cases Verb.ofWord? argument with
      | none => rfl
      | some verb => rfl

/-- Reading goes on behind an argument that it passes. -/
theorem Passes.read_cons {later : Bool} (h : Passes stretch reading argument divided later next)
    (rest : List Text) :
    read stretch divided reading (argument :: rest) = read stretch later next rest := by
  cases h with
  | divided hoperand => rw [Reading.read, if_pos rfl, hoperand, ok_bind]
  | divider hargument =>
    subst hargument
    exact read_divider stretch reading rest
  | long hlook hlong =>
    rw [Reading.read, if_neg Bool.false_ne_true, hlook]
    simp only [hlong, ok_bind]
  | awaited hlook hwaiting =>
    rw [Reading.read, if_neg Bool.false_ne_true, hlook]
    simp only [hwaiting]
  | operand hlook hwaiting hgoes hoperand =>
    rw [Reading.read, if_neg Bool.false_ne_true, hlook]
    simp only [hwaiting, hgoes rest, hoperand, ok_bind]

/-- An argument at which reading ends, with the rest left unread. -/
structure Ends (stretch : Stretch) (reading : Reading) (argument : Text) (rest : List Text)
    (ending : Ending) : Prop where
  look : Look.ofArgument argument = .plain
  waiting : reading.waiting? = none
  ends : ending? stretch argument rest = some ending

theorem Ends.read_cons {ending : Ending} (h : Ends stretch reading argument rest ending) :
    read stretch false reading (argument :: rest) = .ok (reading, ending) := by
  rw [Reading.read, if_neg Bool.false_ne_true, h.look]
  simp only [h.waiting, h.ends]

/-- Reading passes an argument or ends at it. -/
theorem passes_or_ends {ending : Ending}
    (h : read stretch divided reading (argument :: rest) = .ok (next, ending)) :
    (∃ later taken, Passes stretch reading argument divided later taken ∧
      read stretch later taken rest = .ok (next, ending)) ∨
    (divided = false ∧ next = reading ∧ Ends stretch reading argument rest ending) := by
  cases divided with
  | true =>
    rw [Reading.read, if_pos rfl] at h
    obtain ⟨taken, hoperand, hread⟩ := exists_of_bind_eq_ok h
    exact Or.inl ⟨true, taken, .divided hoperand, hread⟩
  | false =>
    rw [Reading.read, if_neg Bool.false_ne_true] at h
    split at h
    · rename_i hlook
      exact Or.inl ⟨true, reading, .divider (Look.eq_of_ofArgument_eq_divider hlook), h⟩
    · rename_i word value? hlook
      obtain ⟨taken, hlong, hread⟩ := exists_of_bind_eq_ok h
      exact Or.inl ⟨false, taken, .long hlook hlong, hread⟩
    · rename_i letters hlook
      obtain ⟨taken, hletters, -⟩ := exists_of_bind_eq_ok h
      obtain ⟨letter, letters, rfl⟩ := Look.eq_cons_of_ofArgument_eq_letters hlook
      exact absurd hletters letters_ne_ok
    · rename_i hlook
      split at h
      · rename_i parameter hwaiting
        exact Or.inl ⟨false, _, .awaited hlook hwaiting, h⟩
      · rename_i hwaiting
        split at h
        · rename_i found hending
          obtain ⟨rfl, rfl⟩ := Prod.mk.inj (Except.ok.inj h)
          exact Or.inr ⟨rfl, rfl, hlook, hwaiting, hending⟩
        · rename_i hending
          obtain ⟨taken, hoperand, hread⟩ := exists_of_bind_eq_ok h
          have hgoes (other : List Text) : ending? stretch argument other = none := by
            have hmap := ending?_map (fun _ ↦ other) stretch argument rest
            rwa [hending] at hmap
          exact Or.inl ⟨false, taken, .operand hlook hwaiting hgoes hoperand, hread⟩

/-- Reading keeps to what is given, up to where it ends. After a verb it ends with the line, and a
verb that ends it stands in front of the divider. The induction is on the arguments that are
left. -/
theorem Drawn.read {ending : Ending} (h : Drawn stretch given divided reading)
    (hread : read stretch divided reading rest = .ok (next, ending)) :
    (∀ verb, stretch = .after verb → ending = .line) ∧
    ∃ taken, taken ++ ending.unread = rest ∧ ∃ divided, Drawn stretch (given ++ taken) divided next ∧
      (ending ≠ .line → divided = false) := by
  induction rest generalizing given divided reading with
  | nil =>
    obtain ⟨rfl, rfl⟩ := Prod.mk.inj (Except.ok.inj hread)
    exact ⟨fun _ _ ↦ rfl, [], rfl, divided, by rwa [List.append_nil], fun hline ↦ absurd rfl hline⟩
  | cons argument rest ih =>
    rcases passes_or_ends hread with ⟨later, passed, hpasses, hread⟩ | ⟨rfl, rfl, hends⟩
    · obtain ⟨hline, taken, htaken, divided, hnext, hdivided⟩ := ih (h.passes hpasses) hread
      refine ⟨hline, argument :: taken, by rw [List.cons_append, htaken], divided, ?_, hdivided⟩
      rwa [List.append_assoc, List.singleton_append] at hnext
    · refine ⟨?_, [], unread_of_ending? hends.ends, false, by rwa [List.append_nil], fun _ ↦ rfl⟩
      rintro verb rfl
      cases hends.ends

end Reading

open Reading

/-! ### What is asked for -/

theorem readCommand_eq_ok_iff {verb : Verb} {environment? : Option Text} {command : Command} :
    readCommand verb environment? given = .ok (reading, command) ↔
      ∃ drawn ending, Reading.read (.after verb) false .fresh given = .ok (drawn, ending) ∧
        drawn.settle = .ok reading ∧ reading.checkConfig environment? = .ok () ∧
        reading.command? verb = some command := by
  constructor
  · intro h
    obtain ⟨⟨drawn, ending⟩, hread, h⟩ := exists_of_bind_eq_ok h
    obtain ⟨settled, hsettle, h⟩ := exists_of_bind_eq_ok h
    obtain ⟨⟨⟩, hconfig, h⟩ := exists_of_bind_eq_ok h
    split at h
    · rename_i found hfound
      obtain ⟨rfl, rfl⟩ := Prod.mk.inj (Except.ok.inj h)
      exact ⟨drawn, ending, hread, hsettle, hconfig, hfound⟩
    · cases h
  · rintro ⟨drawn, ending, hread, hsettle, hconfig, hcommand⟩
    rw [readCommand, hread, ok_bind]
    simp only [hsettle, hconfig, hcommand, ok_bind]
    rfl

/-- What a command asks for together with what has been read in front of it and behind it. -/
def asked (environment? : Option Text) (front back : Reading) (command : Command) : Invocation where
  format? := ((back.value? .format).or (front.value? .format)).bind Format.ofWord?
  config? := ((back.value? .config).or (front.value? .config)).or environment?
  logJson := .logJson ∈ back.flags ++ front.flags
  command := command

theorem parse_eq_ok_iff {environment? : Option Text} {arguments : List Text}
    {invocation : Invocation} :
    parse environment? arguments = .ok invocation ↔
      ∃ drawn front back verb rest command,
        Reading.read .before false .fresh arguments = .ok (drawn, .verb verb rest) ∧
        readCommand verb environment? rest = .ok (back, command) ∧ drawn.settle = .ok front ∧
        front.checkConfig environment? = .ok () ∧
        invocation = asked environment? front back command := by
  constructor
  · intro h
    obtain ⟨⟨drawn, ending⟩, hread, h⟩ := exists_of_bind_eq_ok h
    cases ending with
    | help rest => cases h
    | line =>
      obtain ⟨settled, -, h⟩ := exists_of_bind_eq_ok h
      obtain ⟨⟨⟩, -, h⟩ := exists_of_bind_eq_ok h
      cases h
    | verb verb rest =>
      obtain ⟨⟨back, command⟩, hcommand, h⟩ := exists_of_bind_eq_ok h
      obtain ⟨front, hsettle, h⟩ := exists_of_bind_eq_ok h
      obtain ⟨⟨⟩, hconfig, h⟩ := exists_of_bind_eq_ok h
      exact ⟨drawn, front, back, verb, rest, command, hread, hcommand, hsettle, hconfig,
        (Except.ok.inj h).symm⟩
  · rintro ⟨drawn, front, back, verb, rest, command, hread, hcommand, hsettle, hconfig, rfl⟩
    rw [parse, hread, ok_bind]
    simp only [hcommand, hsettle, hconfig, ok_bind]
    rfl

/-- The operands of a command in their order. -/
def Command.operands : Command → List Text
  | .nameImage tag hash => [tag, hash]
  | .nameInstance _ _ _ hash => [hash]
  | .sanitize raw => [raw]
  | .check _ names => names

/-- A command holds the values and the flags that are given behind its verb. Names to check there
are always some. -/
def Command.Holds (values : List (Parameter × Text)) (flags : List Flag) : Command → Prop
  | .nameInstance namespaceName kind name _ =>
    values.lookup .namespaceName = some namespaceName ∧ values.lookup .kind = some kind ∧
      values.lookup .name = some name
  | .check label names => (label = true ↔ Flag.label ∈ flags) ∧ names ≠ []
  | .nameImage _ _ | .sanitize _ => True

/-- A command line spells an invocation. In front of the verb there are options of the program only,
and behind it those of the command as well and its operands, which are exactly the operands of the
command. The options of the program are taken from behind the verb or else from in front of it, and
the path of the settings is the one of the environment if there is none. -/
def Invocation.IsGiven (environment? : Option Text) (arguments : List Text)
    (invocation : Invocation) : Prop :=
  ∃ front given values flags values' flags',
    arguments = front ++ invocation.command.verb.word :: given ∧ ['-', '-'] ∉ front ∧
    Spelled .before front values flags [] ∧
    Spelled (.after invocation.command.verb) given values' flags' invocation.command.operands ∧
    (values.map Prod.fst).Nodup ∧ (values'.map Prod.fst).Nodup ∧
    invocation.command.Holds values' flags' ∧
    invocation.format?.map Format.word = (values'.lookup .format).or (values.lookup .format) ∧
    invocation.config? = ((values'.lookup .config).or (values.lookup .config)).or environment? ∧
    (invocation.logJson = true ↔ Flag.logJson ∈ flags' ++ flags)

theorem holds_of_command? {verb : Verb} {command : Command}
    (h : reading.command? verb = some command) :
    command.verb = verb ∧ command.operands = reading.operands ∧
      command.Holds reading.values reading.flags := by
  cases verb with
  | nameInstance =>
    simp only [command?, value?_eq_lookup] at h
    split at h
    · rename_i hash hhash
      obtain ⟨namespaceName, hnamespace, h⟩ := Option.bind_eq_some_iff.mp h
      obtain ⟨kind, hkind, h⟩ := Option.bind_eq_some_iff.mp h
      obtain ⟨name, hname, h⟩ := Option.bind_eq_some_iff.mp h
      obtain rfl := Option.some.inj h
      exact ⟨rfl, hhash.symm, hnamespace, hkind, hname⟩
    · cases h
  | nameImage =>
    simp only [command?] at h
    split at h
    · rename_i tag hash htag
      obtain rfl := Option.some.inj h
      exact ⟨rfl, htag.symm, trivial⟩
    · cases h
  | sanitize =>
    simp only [command?] at h
    split at h
    · rename_i raw hraw
      obtain rfl := Option.some.inj h
      exact ⟨rfl, hraw.symm, trivial⟩
    · cases h
  | check =>
    simp only [command?] at h
    split at h
    · cases h
    · rename_i names hnames
      obtain rfl := Option.some.inj h
      exact ⟨rfl, rfl, decide_eq_true_iff, hnames⟩

theorem settled_of_readCommand {verb : Verb} {environment? : Option Text} {command : Command}
    (h : readCommand verb environment? given = .ok (reading, command)) :
    Settled (.after verb) given reading ∧ command.verb = verb ∧
      command.operands = reading.operands ∧ command.Holds reading.values reading.flags := by
  obtain ⟨drawn, ending, hread, hsettle, -, hcommand⟩ := readCommand_eq_ok_iff.mp h
  obtain ⟨hline, taken, htaken, divided, hdrawn, -⟩ := drawn_fresh.read hread
  obtain rfl := hline verb rfl
  obtain rfl : taken = given := by rwa [Ending.unread, List.append_nil] at htaken
  exact ⟨hdrawn.settle hsettle, holds_of_command? hcommand⟩

/-- A value of the format is the word of one. -/
theorem Reading.Sound.map_word_bind_ofWord? (h : Sound stretch reading) :
    ((reading.value? .format).bind Format.ofWord?).map Format.word = reading.value? .format := by
  cases hvalue : reading.value? .format with
  | none => rfl
  | some word =>
    obtain ⟨⟨found, word⟩, hfind, rfl⟩ := Option.map_eq_some_iff.mp hvalue
    obtain rfl : found = .format := by simpa using List.find?_some hfind
    have haccepts := h.accepted _ (List.mem_of_find?_eq_some hfind)
    obtain ⟨format, hformat⟩ := Option.isSome_iff_exists.mp haccepts
    rw [Option.bind_some, hformat, Option.map_some, Format.ofWord?_eq_some_iff.mp hformat]

/-- What a parsed command line asks for is what it spells. -/
theorem isGiven_of_parse {environment? : Option Text} {arguments : List Text}
    {invocation : Invocation} (h : parse environment? arguments = .ok invocation) :
    invocation.IsGiven environment? arguments := by
  obtain ⟨drawn, front, back, verb, given, command, hread, hcommand, hsettle, -, rfl⟩ :=
    parse_eq_ok_iff.mp h
  obtain ⟨-, passed, hpassed, divided, hdrawn, hdivided⟩ := drawn_fresh.read hread
  obtain rfl := hdivided (by simp)
  have hfront := hdrawn.settle hsettle
  obtain ⟨hback, rfl, hoperands, hholds⟩ := settled_of_readCommand hcommand
  refine ⟨passed, given, front.values, front.flags, back.values, back.flags, hpassed.symm,
    hdrawn.undivided, ?_, ?_, hfront.distinct, hback.distinct, hholds, ?_, ?_, ?_⟩
  · have hroom := hfront.room.resolve_left (by simp)
    have hnothing : front.operands = [] := List.eq_nil_of_length_eq_zero (Nat.le_zero.mp hroom)
    exact hnothing ▸ hfront.spelled
  · exact hoperands ▸ hback.spelled
  · simp only [asked]
    cases hformat : back.value? .format with
    | some word =>
      have hword := hback.toSound.map_word_bind_ofWord?
      rw [hformat] at hword
      rw [Option.some_or, hword, ← value?_eq_lookup, hformat, Option.some_or]
    | none =>
      rw [Option.none_or, hfront.toSound.map_word_bind_ofWord?, ← value?_eq_lookup, hformat,
        Option.none_or, value?_eq_lookup]
  · simp only [asked, value?_eq_lookup]
  · simp only [asked, decide_eq_true_iff]

/-- Commands of one verb with the same operands hold the same if they are given the same. -/
theorem Command.eq_of_holds {command command' : Command} {values : List (Parameter × Text)}
    {flags : List Flag} (hverb : command.verb = command'.verb)
    (hoperands : command.operands = command'.operands) (h : command.Holds values flags)
    (h' : command'.Holds values flags) : command = command' := by
  cases command with
  | nameImage tag hash =>
    cases command' with
    | nameImage tag' hash' =>
      obtain ⟨rfl, rfl⟩ : tag = tag' ∧ hash = hash' := by simpa [operands] using hoperands
      rfl
    | _ => cases hverb
  | nameInstance namespaceName kind name hash =>
    cases command' with
    | nameInstance namespaceName' kind' name' hash' =>
      obtain rfl : hash = hash' := by simpa [operands] using hoperands
      obtain ⟨hnamespace, hkind, hname⟩ := h
      obtain ⟨hnamespace', hkind', hname'⟩ := h'
      obtain rfl := Option.some.inj (hnamespace.symm.trans hnamespace')
      obtain rfl := Option.some.inj (hkind.symm.trans hkind')
      obtain rfl := Option.some.inj (hname.symm.trans hname')
      rfl
    | _ => cases hverb
  | sanitize raw =>
    cases command' with
    | sanitize raw' =>
      obtain rfl : raw = raw' := by simpa [operands] using hoperands
      rfl
    | _ => cases hverb
  | check label names =>
    cases command' with
    | check label' names' =>
      obtain rfl : names = names' := hoperands
      obtain rfl : label = label' := Bool.eq_iff_iff.mpr (h.1.trans h'.1.symm)
      rfl
    | _ => cases hverb

/-- A command line spells one invocation only. -/
theorem Invocation.IsGiven.unique {environment? : Option Text} {arguments : List Text}
    {invocation invocation' : Invocation} (h : invocation.IsGiven environment? arguments)
    (h' : invocation'.IsGiven environment? arguments) : invocation = invocation' := by
  obtain ⟨front, given, values, flags, laterValues, laterFlags, rfl, hdivider, hfront, hgiven, -, -,
    hholds, hformat, hconfig, hlogJson⟩ := h
  obtain ⟨front', given', values', flags', laterValues', laterFlags', heq, hdivider', hfront',
    hgiven', -, -, hholds', hformat', hconfig', hlogJson'⟩ := h'
  obtain ⟨rfl, hword, rfl⟩ := hfront.verb_unique hfront' hdivider hdivider' heq
  have hverb : invocation.command.verb = invocation'.command.verb := by
    have hfound := Verb.ofWord?_word invocation.command.verb
    rw [hword, Verb.ofWord?_word] at hfound
    exact (Option.some.inj hfound).symm
  obtain ⟨rfl, rfl, -⟩ := hfront.unique hfront'
  rw [← hverb] at hgiven'
  obtain ⟨rfl, rfl, hoperands⟩ := hgiven.unique hgiven'
  have hcommand := Command.eq_of_holds hverb hoperands.symm hholds hholds'
  have hformats : invocation.format? = invocation'.format? := by
    have hword : Function.Injective Format.word := fun format other heq ↦ by
      rw [← Option.some_inj, ← Format.ofWord?_word format, heq, Format.ofWord?_word]
    exact Option.map_injective hword (hformat.trans hformat'.symm)
  have hlog : invocation.logJson = invocation'.logJson :=
    Bool.eq_iff_iff.mpr (hlogJson.trans hlogJson'.symm)
  obtain ⟨format?, config?, logJson, command⟩ := invocation
  obtain ⟨format?', config?', logJson', command'⟩ := invocation'
  rw [Invocation.mk.injEq]
  exact ⟨hformats, hconfig.trans hconfig'.symm, hlog, hcommand⟩

end WorkloadNames.CommandLine
