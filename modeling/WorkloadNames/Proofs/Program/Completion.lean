import WorkloadNames.Program.Run
import WorkloadNames.Proofs.CommandLine.Provenance
import WorkloadNames.Proofs.Log.SingleLevel

/-!
Runs that get to their command. The command line can be read, the settings load and the reader of
filters answers; from there on the output and the exit code are those of the command, and the log
stands before the explanation of a failure. Every command can be reached, with whatever texts it is
given. Any other run logs nothing: it ends with its command line, with its settings or with the
reader of filters.
-/

set_option autoImplicit false
set_option relaxedAutoImplicit false

namespace WorkloadNames.Program

open CommandLine

namespace Surroundings

/-- A run gets to its command: its command line can be read, its settings load, and the reader of
filters answers. -/
structure Reach (surroundings : Surroundings) (invocation : Invocation) (config : Config) :
    Prop where
  parsed : parse (surroundings.environment "FNAME_CONFIG".toList) surroundings.arguments =
    .ok invocation
  loaded : surroundings.settings invocation = .ok config
  answered : ∃ filter, surroundings.filter config = .ok filter

/-- What a run logs that gets to its command. -/
def logged (surroundings : Surroundings) (invocation : Invocation) (config : Config) : Text :=
  (surroundings.filter config).toOption.elim [] fun filter ↦
    log filter (logStyle invocation) surroundings.logPalette surroundings.time
      (events config (perform (invocation.format config) invocation.command))

/-- The events that are told of by a run that gets to its command. -/
def told (surroundings : Surroundings) (invocation : Invocation) (config : Config) :
    List Log.Event :=
  (events config (perform (invocation.format config) invocation.command)).filter fun event ↦
    (surroundings.filter config).toOption.any fun filter ↦ filter.enables event.record

/-- The line of an event in the log of a run. -/
def lineOf (surroundings : Surroundings) (invocation : Invocation) (event : Log.Event) : Text :=
  event.record.line (logStyle invocation) surroundings.logPalette surroundings.time

/-- A log has a line for each event that is told of. -/
theorem logged_eq_flatMap_told (surroundings : Surroundings) (invocation : Invocation)
    (config : Config) :
    surroundings.logged invocation config =
      (surroundings.told invocation config).flatMap (surroundings.lineOf invocation) := by
  unfold logged told
  cases surroundings.filter config with
  | error complaint => simp [Except.toOption]
  | ok filter =>
    change log _ _ _ _ _ = _
    rw [log, List.filter_map, List.flatMap_map]
    rfl

namespace Reach

variable {surroundings : Surroundings} {invocation : Invocation} {config : Config}

/-- What the command is asked for is what the command line spells. -/
theorem isGiven (h : surroundings.Reach invocation config) :
    invocation.IsGiven (surroundings.environment "FNAME_CONFIG".toList) surroundings.arguments :=
  isGiven_of_parse h.parsed

/-- A run whose command succeeds leaves its log behind and no explanation. -/
theorem run_eq_of_success (h : surroundings.Reach invocation config)
    (hsuccess : (perform (invocation.format config) invocation.command).failure? = none) :
    run surroundings =
      ⟨0, (perform (invocation.format config) invocation.command).output,
        surroundings.logged invocation config⟩ := by
  obtain ⟨filter, hfilter⟩ := h.answered
  rw [run, h.parsed, logged, hfilter]
  simp only [h.loaded, hfilter, conclude, hsuccess]
  rfl

/-- A run whose command fails explains itself behind its log. -/
theorem run_eq_of_failure (h : surroundings.Reach invocation config) {failure : Failure}
    (hfailure : (perform (invocation.format config) invocation.command).failure? = some failure) :
    run surroundings =
      ⟨1, (perform (invocation.format config) invocation.command).output,
        surroundings.logged invocation config ++ failure.explanation surroundings.palette⟩ := by
  obtain ⟨filter, hfilter⟩ := h.answered
  rw [run, h.parsed, logged, hfilter]
  simp only [h.loaded, hfilter, conclude, hfailure]
  rfl

/-- The log stands before the explanation of a failure, if there is one. -/
theorem errors_eq_logged (h : surroundings.Reach invocation config) :
    (run surroundings).errors = surroundings.logged invocation config ++
      (perform (invocation.format config) invocation.command).failure?.elim []
        (Failure.explanation surroundings.palette) := by
  cases hfailure : (perform (invocation.format config) invocation.command).failure? with
  | none =>
    rw [h.run_eq_of_success hfailure]
    exact (List.append_nil _).symm
  | some failure =>
    rw [h.run_eq_of_failure hfailure]
    rfl

/-- The output is that of the command, whether it fails or not. -/
theorem output_eq (h : surroundings.Reach invocation config) :
    (run surroundings).output =
      (perform (invocation.format config) invocation.command).output := by
  cases hfailure : (perform (invocation.format config) invocation.command).failure? with
  | none => rw [h.run_eq_of_success hfailure]
  | some failure => rw [h.run_eq_of_failure hfailure]

/-- A run succeeds exactly if its command does. -/
theorem exitCode_eq_zero_iff (h : surroundings.Reach invocation config) :
    (run surroundings).exitCode = 0 ↔
      (perform (invocation.format config) invocation.command).failure? = none := by
  cases hfailure : (perform (invocation.format config) invocation.command).failure? with
  | none => simp [h.run_eq_of_success hfailure]
  | some failure => simp [h.run_eq_of_failure hfailure]

/-- A run gets to one command, under one file of settings. -/
theorem unique {other : Invocation} {otherConfig : Config}
    (h : surroundings.Reach invocation config) (h' : surroundings.Reach other otherConfig) :
    other = invocation ∧ otherConfig = config := by
  obtain rfl := Except.ok.inj (h'.parsed.symm.trans h.parsed)
  exact ⟨rfl, Except.ok.inj (h'.loaded.symm.trans h.loaded)⟩

end Reach

/-- A run gets to whatever its arguments write, where no file holds settings. -/
theorem reach_of_written {surroundings : Surroundings} {invocation : Invocation}
    (harguments : surroundings.arguments = invocation.written)
    (henvironment : surroundings.environment "FNAME_CONFIG".toList = none)
    (hlook : ∀ path, surroundings.look path = .missing)
    (hpath : (surroundings.settingsPath? invocation).isSome = true)
    (hfilter : ∃ filter, surroundings.filter .standard = .ok filter)
    (hconfig : invocation.config? ≠ some [])
    (hnames : ∀ label, invocation.command ≠ .check label []) :
    surroundings.Reach invocation .standard := by
  obtain ⟨path, hpath⟩ := Option.isSome_iff_exists.mp hpath
  refine ⟨?_, ?_, hfilter⟩
  · rw [harguments, henvironment, parse_written (by simp) hconfig hnames, Option.or_none]
  · rw [settings, hpath]
    simp only [hlook]
    rfl

/-- A user with a home directory and without a file of settings. Of the environment some variables
besides are set. -/
def atHome (arguments : List Text) (exported : List (Text × Text)) (time : Text) :
    Surroundings where
  arguments := arguments
  environment name := (exported ++ [("HOME".toList, "/home/user".toList)]).lookup name
  recordedHome? := none
  look := fun _ ↦ .missing
  time := time
  readers := .own

/-- Without such variables the user gets to whatever the arguments write, and logs warnings. -/
theorem reach_atHome {arguments : List Text} {invocation : Invocation} {time : Text}
    (hwritten : arguments = invocation.written) (hconfig : invocation.config? ≠ some [])
    (hnames : ∀ label, invocation.command ≠ .check label []) :
    (atHome arguments [] time).Reach invocation .standard := by
  have hpath : ((atHome arguments [] time).settingsPath? invocation).isSome = true := by
    have hstandard : (atHome arguments [] time).standardPath?.isSome = true := rfl
    rw [settingsPath?, Option.isSome_or, hstandard, Bool.or_true]
  have hfilter : (atHome arguments [] time).filter .standard = .ok (.ofThreshold (some .warn)) := by
    have hwarn : Readers.own.filter "warn".toList = .ok (.ofThreshold (some .warn)) :=
      Log.ofText_of_threshold (by decide) (by decide)
    change Log.Filter.firstOf Readers.own.filter ["warn".toList] = _
    rw [Log.Filter.firstOf, hwarn]
  exact reach_of_written hwritten rfl (fun _ ↦ rfl) hpath ⟨_, hfilter⟩ hconfig hnames

/-- A level in the environment is in force, whatever a file asks for. -/
theorem filter_atHome_of_level (arguments : List Text) (exported : List (Text × Text)) (time : Text)
    (config : Config) {text : Text} {threshold : Log.Threshold}
    (hlevel : Log.Threshold.ofText? text = some threshold) (hsign : text.head? ≠ some '+') :
    (atHome arguments (("FNAME_LOG".toList, text) :: exported) time).filter config =
      .ok (.ofThreshold threshold) := by
  have henvironment : (atHome arguments (("FNAME_LOG".toList, text) :: exported) time).environment
      "FNAME_LOG".toList = some text := by
    simp [atHome]
  have hread : Readers.own.filter text = .ok (.ofThreshold threshold) :=
    Log.ofText_of_threshold hlevel hsign
  rw [filter, henvironment, Log.Filter.inForce]
  change Log.Filter.firstOf Readers.own.filter [text, config.logLevel] = _
  rw [Log.Filter.firstOf, hread]

end Surroundings

/-! ### Runs that do not get to their command -/

variable {surroundings : Surroundings} {invocation : Invocation}

theorem not_reach_of_halt {halt : Halt}
    (h : parse (surroundings.environment "FNAME_CONFIG".toList) surroundings.arguments =
      .error halt) (invocation : Invocation) (config : Config) :
    ¬ surroundings.Reach invocation config := by
  intro hreach
  cases h.symm.trans hreach.parsed

theorem not_reach_of_failure {failure : Failure}
    (h : parse (surroundings.environment "FNAME_CONFIG".toList) surroundings.arguments =
      .ok invocation) (hsettings : surroundings.settings invocation = .error failure)
    (other : Invocation) (config : Config) : ¬ surroundings.Reach other config := by
  intro hreach
  obtain rfl := Except.ok.inj (h.symm.trans hreach.parsed)
  cases hsettings.symm.trans hreach.loaded

theorem run_of_halt {halt : Halt}
    (h : parse (surroundings.environment "FNAME_CONFIG".toList) surroundings.arguments =
      .error halt) : run surroundings = halted surroundings.misusePalette halt := by
  rw [run, h]

/-- A reader of filters that breaks off ends the run with its complaint, before anything is logged
or printed. -/
theorem run_of_abort {config : Config} {complaint : Text}
    (h : parse (surroundings.environment "FNAME_CONFIG".toList) surroundings.arguments =
      .ok invocation) (hsettings : surroundings.settings invocation = .ok config)
    (habort : surroundings.filter config = .error complaint) :
    run surroundings = ⟨101, [], complaint⟩ := by
  rw [run, h]
  simp only [hsettings, habort]

theorem run_of_failure {failure : Failure}
    (h : parse (surroundings.environment "FNAME_CONFIG".toList) surroundings.arguments =
      .ok invocation) (hsettings : surroundings.settings invocation = .error failure) :
    run surroundings = ⟨1, [], failure.explanation surroundings.palette⟩ := by
  rw [run, h]
  simp only [hsettings]

end WorkloadNames.Program
