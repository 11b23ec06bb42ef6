import WorkloadNames.Proofs.CommandLine.LogFlag
import WorkloadNames.Proofs.Program.Settings

/-!
Logging and results. What is logged is chosen by a variable of the environment, a flag of the
command line and an entry of the settings. Two runs that differ in nothing else end with the same
exit code and the same output, and fail with the same explanation, as long as the reader of filters
answers them. There is one story of what a command does, which comes of the command and of the
format of the settings alone, and the log of either run tells some of it, in its order.
-/

set_option autoImplicit false
set_option relaxedAutoImplicit false

namespace WorkloadNames.Program

open CommandLine

variable {surroundings surroundings' : Surroundings} {invocation invocation' : Invocation}
  {config config' : Config}

/-! ### What a log tells -/

/-- Everything that happens in a run that gets to its command. -/
def story (format? : Option Format) (command : Command) (settings : Format) : List Log.Event :=
  .configured settings :: (perform (format?.getD settings) command).events

/-- How a run that gets to its command explains itself, if its command fails. -/
def apology (palette : Palette) (format? : Option Format) (command : Command) (settings : Format) :
    Text :=
  (perform (format?.getD settings) command).failure?.elim [] (Failure.explanation palette)

/-- A run leaves lines behind that tell of some events in their order, and then an error text. Each
event has a line of its own, from which it is known. -/
def Tells (surroundings : Surroundings) (events : List Log.Event) (error : Text) : Prop :=
  ∃ (style : Log.Style) (told : List Log.Event),
    let lineOf (event : Log.Event) : Text :=
      event.record.line style surroundings.logPalette surroundings.time
    Log.FaithfulLines lineOf ∧ told.Sublist events ∧
      (run surroundings).errors = told.flatMap lineOf ++ error

theorem tells_of_reach (h : surroundings.Reach invocation config) :
    Tells surroundings (story invocation.format? invocation.command config.format)
      (apology surroundings.palette invocation.format? invocation.command config.format) := by
  refine ⟨logStyle invocation, surroundings.told invocation config,
    Log.faithfulLines_line _ _ _, List.filter_sublist, ?_⟩
  change _ = (surroundings.told invocation config).flatMap (surroundings.lineOf invocation) ++ _
  rw [← surroundings.logged_eq_flatMap_told]
  exact h.errors_eq_logged

/-- A run that does not get to its command logs nothing. -/
theorem tells_nil (surroundings : Surroundings) :
    Tells surroundings [] (run surroundings).errors :=
  ⟨.words, [], Log.faithfulLines_line _ _ _, List.Sublist.refl [], rfl⟩

/-! ### Runs that differ in logging only -/

/-- Two sights of a file are the same, or both hold settings, with the same format. -/
def SameButLogLevel (document? : Text → Option Toml.Entries) (sight sight' : Files.Sight) : Prop :=
  sight' = sight ∨ ∃ config config', Config.load document? sight = .ok config ∧
    Config.load document? sight' = .ok config' ∧ config'.format = config.format

/-- Two runs see the same, but for what chooses their logs. They may also run at different times,
which only log lines bear. -/
structure SameButLogging (surroundings surroundings' : Surroundings) : Prop where
  arguments : SameButLogJson (surroundings.environment "FNAME_CONFIG".toList)
    surroundings.arguments surroundings'.arguments
  environment : ∀ name, name ≠ "FNAME_LOG".toList →
    surroundings'.environment name = surroundings.environment name
  recordedHome : surroundings'.recordedHome? = surroundings.recordedHome?
  files : ∀ path, SameButLogLevel surroundings.readers.document? (surroundings.look path)
    (surroundings'.look path)
  readers : surroundings'.readers = surroundings.readers

/-- The reader of filters answers the texts that a run may have it read: the one in the environment,
and the log level of settings that load. -/
structure IsAnswered (surroundings : Surroundings) : Prop where
  environment : ∀ text ∈ surroundings.environment "FNAME_LOG".toList,
    Log.Answers surroundings.readers.filter text
  settings : ∀ invocation config, surroundings.settings invocation = .ok config →
    Log.Answers surroundings.readers.filter config.logLevel

/-- It is enough that it answers the log level which every file holds. -/
theorem isAnswered_of_load (henvironment : ∀ text ∈ surroundings.environment "FNAME_LOG".toList,
      Log.Answers surroundings.readers.filter text)
    (hload : ∀ path,
      Config.load surroundings.readers.document? (surroundings.look path) = .ok config)
    (hlevel : Log.Answers surroundings.readers.filter config.logLevel) :
    IsAnswered surroundings := by
  refine ⟨henvironment, fun invocation other hother ↦ ?_⟩
  unfold Surroundings.settings at hother
  split at hother
  · cases hother
  · rw [hload] at hother
    obtain rfl := Except.ok.inj hother
    exact hlevel

/-- A run whose filters are answered gets to its command if its settings load. -/
theorem IsAnswered.reach (h : IsAnswered surroundings)
    (hparsed : parse (surroundings.environment "FNAME_CONFIG".toList) surroundings.arguments =
      .ok invocation) (hloaded : surroundings.settings invocation = .ok config) :
    surroundings.Reach invocation config := by
  refine ⟨hparsed, hloaded, Log.Filter.exists_firstOf fun text htext ↦ ?_⟩
  rcases List.mem_append.mp htext with htext | htext
  · exact h.environment text (Option.mem_toList.mp htext)
  · obtain rfl := List.mem_singleton.mp htext
    exact h.settings invocation config hloaded

namespace SameButLogging

theorem palette (h : SameButLogging surroundings surroundings') :
    surroundings'.palette = surroundings.palette := by
  unfold Surroundings.palette
  rw [h.environment "CLICOLOR_FORCE".toList (by decide)]

theorem misusePalette (h : SameButLogging surroundings surroundings') :
    surroundings'.misusePalette = surroundings.misusePalette := by
  unfold Surroundings.misusePalette Surroundings.refusesColours
  rw [h.environment "NO_COLOR".toList (by decide), h.palette]

theorem settingsPath? (h : SameButLogging surroundings surroundings')
    (hmuted : invocation'.muted = invocation.muted) :
    surroundings'.settingsPath? invocation' = surroundings.settingsPath? invocation := by
  obtain ⟨-, hconfig, -⟩ := Invocation.asks_of_muted hmuted
  unfold Surroundings.settingsPath? Surroundings.standardPath? Surroundings.settingsDirectory?
    Surroundings.home?
  rw [hconfig, h.recordedHome, h.environment "HOME".toList (by decide),
    h.environment "XDG_CONFIG_HOME".toList (by decide)]

/-- The settings fail to load in both runs, for the same reason, or load in both, with the same
format. -/
theorem settings (h : SameButLogging surroundings surroundings')
    (hmuted : invocation'.muted = invocation.muted) :
    surroundings'.settings invocation' = surroundings.settings invocation ∨
      ∃ config config', surroundings.settings invocation = .ok config ∧
        surroundings'.settings invocation' = .ok config' ∧ config'.format = config.format := by
  unfold Surroundings.settings
  rw [h.settingsPath? hmuted, h.readers]
  cases surroundings.settingsPath? invocation with
  | none => exact Or.inl rfl
  | some path =>
    simp only
    rcases h.files path with hsight | ⟨config, config', hload, hload', hformat⟩
    · rw [hsight]
      exact Or.inl rfl
    · rw [hload, hload']
      exact Or.inr ⟨config, config', rfl, rfl, hformat⟩

/-- Both command lines are found fault with in the same way, or both ask for the same. -/
theorem parsed (h : SameButLogging surroundings surroundings') :
    (∃ halt, parse (surroundings.environment "FNAME_CONFIG".toList) surroundings.arguments =
        .error halt ∧
      parse (surroundings'.environment "FNAME_CONFIG".toList) surroundings'.arguments =
        .error halt) ∨
      ∃ invocation invocation',
        parse (surroundings.environment "FNAME_CONFIG".toList) surroundings.arguments =
          .ok invocation ∧
        parse (surroundings'.environment "FNAME_CONFIG".toList) surroundings'.arguments =
          .ok invocation' ∧ invocation'.muted = invocation.muted := by
  rw [h.environment "FNAME_CONFIG".toList (by decide)]
  rcases h.arguments.eq_or_exists_parse with hsame | hparse
  · rw [hsame]
    cases parse (surroundings.environment "FNAME_CONFIG".toList) surroundings.arguments with
    | error halt => exact Or.inl ⟨halt, rfl, rfl⟩
    | ok invocation => exact Or.inr ⟨invocation, invocation, rfl, rfl, rfl⟩
  · exact Or.inr hparse

end SameButLogging

/-! ### How such runs end -/

/-- Two runs end alike: with the same exit code, the same output and the same error text, behind
logs that tell of the same events. A run that gets to its command tells its story, and any other run
tells nothing. -/
structure EndAlike (surroundings surroundings' : Surroundings) : Prop where
  exits : (run surroundings').exitCode = (run surroundings).exitCode
  output : (run surroundings').output = (run surroundings).output
  errors : ∃ events error, Tells surroundings events error ∧ Tells surroundings' events error ∧
    (∀ invocation config,
      surroundings.Reach invocation config ∨ surroundings'.Reach invocation config →
        events = story invocation.format? invocation.command config.format ∧
        error = apology surroundings.palette invocation.format? invocation.command
          config.format) ∧
    ((∀ invocation config, ¬ surroundings.Reach invocation config) → events = [])

theorem endAlike_of_stuck (hrun : run surroundings' = run surroundings)
    (hstuck : ∀ invocation config, ¬ surroundings.Reach invocation config)
    (hstuck' : ∀ invocation config, ¬ surroundings'.Reach invocation config) :
    EndAlike surroundings surroundings' := by
  refine ⟨by rw [hrun], by rw [hrun], [], (run surroundings).errors, tells_nil surroundings, ?_, ?_,
    fun _ ↦ rfl⟩
  · rw [← hrun]
    exact tells_nil surroundings'
  · intro invocation config hreach
    exact absurd hreach (not_or.mpr ⟨hstuck invocation config, hstuck' invocation config⟩)

theorem endAlike_of_reach (hpalette : surroundings'.palette = surroundings.palette)
    (h : surroundings.Reach invocation config) (h' : surroundings'.Reach invocation' config')
    (hmuted : invocation'.muted = invocation.muted) (hformat : config'.format = config.format) :
    EndAlike surroundings surroundings' := by
  obtain ⟨hasked, -, hcommand⟩ := Invocation.asks_of_muted hmuted
  have htells := tells_of_reach h'
  have hperform : perform (invocation'.format config') invocation'.command =
      perform (invocation.format config) invocation.command := by
    rw [hcommand, Invocation.format, Invocation.format, hasked, hformat]
  rw [hasked, hcommand, hformat, hpalette] at htells
  refine ⟨?_, by rw [h'.output_eq, h.output_eq, hperform], _, _, tells_of_reach h, htells, ?_,
    fun hstuck ↦ absurd h (hstuck invocation config)⟩
  · cases hfailure : (perform (invocation.format config) invocation.command).failure? with
    | none => rw [h.run_eq_of_success hfailure, h'.run_eq_of_success (by rw [hperform, hfailure])]
    | some failure =>
      rw [h.run_eq_of_failure hfailure, h'.run_eq_of_failure (by rw [hperform, hfailure])]
  · rintro other otherConfig (hreach | hreach)
    · obtain ⟨rfl, rfl⟩ := h.unique hreach
      exact ⟨rfl, rfl⟩
    · obtain ⟨rfl, rfl⟩ := h'.unique hreach
      rw [hasked, hcommand, hformat]
      exact ⟨rfl, rfl⟩

/-- Logging never influences results. Two runs may differ in the filter that the environment asks
for, in the flag for log lines in JSON and in the log level of settings that load in both: as long
as the reader of filters answers them, their exit codes and outputs are the same, and behind the
lines of its log each has the same error text. The lines tell of some events of one sequence, which
comes of the command, its arguments and the format of the settings alone. -/
theorem log_never_interferes {surroundings surroundings' : Surroundings}
    (h : SameButLogging surroundings surroundings') (hanswered : IsAnswered surroundings)
    (hanswered' : IsAnswered surroundings') : EndAlike surroundings surroundings' := by
  rcases h.parsed with ⟨halt, hparse, hparse'⟩ | ⟨invocation, invocation', hparse, hparse', hmuted⟩
  · have hrun : run surroundings' = run surroundings := by
      rw [run_of_halt hparse, run_of_halt hparse', h.misusePalette]
    exact endAlike_of_stuck hrun (not_reach_of_halt hparse) (not_reach_of_halt hparse')
  · rcases h.settings hmuted with hsettings | ⟨config, config', hload, hload', hformat⟩
    · cases hload : surroundings.settings invocation with
      | error failure =>
        have hload' := hsettings.trans hload
        have hrun : run surroundings' = run surroundings := by
          rw [run_of_failure hparse hload, run_of_failure hparse' hload', h.palette]
        exact endAlike_of_stuck hrun (not_reach_of_failure hparse hload)
          (not_reach_of_failure hparse' hload')
      | ok config =>
        exact endAlike_of_reach h.palette (hanswered.reach hparse hload)
          (hanswered'.reach hparse' (hsettings.trans hload)) hmuted rfl
    · exact endAlike_of_reach h.palette (hanswered.reach hparse hload)
        (hanswered'.reach hparse' hload') hmuted hformat

/-- A run that logs everything in JSON, under settings that would have logged nothing, ends as one
that logs nothing: an invalid name is reported in the same way, and both logs tell of two events. -/
theorem log_never_interferes_of_loud_run :
    let arguments := ["--config=p", "check", "--", "a/b"].map String.toList
    let quiet : Surroundings := .atHome arguments [] "then".toList
    let loud : Surroundings :=
      { Surroundings.atHome (Flag.logJson.shown :: arguments)
          [("FNAME_LOG".toList, "debug".toList)] "now".toList with
        look := fun _ ↦ .file "log_level='off'".toUTF8 }
    let events := [Log.Event.configured .table, .checked "a/b".toList .subdomain false]
    let error := (Failure.invalidNames 1 1).explanation .plain
    SameButLogging quiet loud ∧ (run loud).exitCode = (run quiet).exitCode ∧
      (run loud).output = (run quiet).output ∧ Tells quiet events error ∧
      Tells loud events error := by
  intro arguments quiet loud events error
  have hwritten : arguments = Invocation.written
      ⟨none, some "p".toList, false, .check false ["a/b".toList]⟩ := by decide +kernel
  have hreach : quiet.Reach ⟨none, some "p".toList, false, .check false ["a/b".toList]⟩ .standard :=
    Surroundings.reach_atHome hwritten (by decide) (by simp)
  have hentries : Toml.parse? "log_level='off'".toList =
      some [("log_level".toList, .text "off".toList)] := by
    have htext : "log_level='off'".toList = ['l', 'o', 'g', '_', 'l', 'e', 'v', 'e', 'l', '=',
      '\'', 'o', 'f', 'f', '\''] := rfl
    rw [htext]
    rfl
  have hload : Config.load Toml.parse? (.file "log_level='off'".toUTF8) =
      .ok ⟨.table, "off".toList⟩ :=
    Config.load_file_eq_ok (Config.fromUTF8?_toUTF8 _) hentries rfl
  have hsame : SameButLogging quiet loud := by
    refine ⟨?_, fun name hname ↦ ?_, rfl, fun path ↦ ?_, rfl⟩
    · have hplace : IsPlace [] := ⟨List.not_mem_nil, by simp⟩
      exact SameButLogJson.added hplace (by decide +kernel) hreach.parsed
    · have hother : (name == "FNAME_LOG".toList) = false := beq_eq_false_iff_ne.mpr hname
      change (("FNAME_LOG".toList, "debug".toList) :: [("HOME".toList, "/home/user".toList)]).lookup
        name = _
      rw [List.lookup_cons, hother]
      rfl
    · exact Or.inr ⟨.standard, ⟨.table, "off".toList⟩, rfl, hload, rfl⟩
  have hquiet : IsAnswered quiet := by
    refine @isAnswered_of_load quiet .standard (fun text htext ↦ ?_) (fun path ↦ rfl)
      (Log.readsLevels_ofText.answers (by decide : _ = some (some .warn)) (by decide))
    cases (show quiet.environment "FNAME_LOG".toList = none by decide).symm.trans htext
  have hloud : IsAnswered loud := by
    refine isAnswered_of_load (fun text htext ↦ ?_) (fun path ↦ hload)
      (Log.readsLevels_ofText.answers (by decide : _ = some none) (by decide))
    obtain rfl : text = "debug".toList :=
      Option.some.inj (htext.symm.trans (by decide : loud.environment _ = _))
    exact Log.readsLevels_ofText.answers (by decide : _ = some (some .debug)) (by decide)
  obtain ⟨hexits, houtput, told, explanation, htells, htells', hreached, -⟩ :=
    log_never_interferes hsame hquiet hloud
  obtain ⟨rfl, rfl⟩ := hreached _ _ (Or.inl hreach)
  have hevents : story none (.check false ["a/b".toList]) .table = events := by decide +kernel
  have herror : apology .plain none (.check false ["a/b".toList]) .table = error := by
    decide +kernel
  rw [← hevents, ← herror]
  exact ⟨hsame, hexits, houtput, htells, htells'⟩

end WorkloadNames.Program
