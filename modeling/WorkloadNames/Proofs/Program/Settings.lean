import WorkloadNames.Proofs.Config.Entries
import WorkloadNames.Proofs.Log.Lines
import WorkloadNames.Proofs.Program.Completion

/-!
What the file of the settings makes of a run. The path of the file is the one that the command line
or the environment asks for, or else one in the directory for settings (`Located`); without a home
directory there is none, and the run stops. A file that cannot be read, is no document or holds an
entry that spoils it stops the run before anything is logged or printed; one line then tells the
path, whatever the command line and the environment ask for. Any other file lets the command run: in
the format of the command line, or else of the file, or else as a table, and with the log that the
environment asks for, or else the file. A missing file does as well as an empty one.
-/

set_option autoImplicit false
set_option relaxedAutoImplicit false

namespace WorkloadNames.Program

open CommandLine

variable {surroundings : Surroundings} {invocation : Invocation} {config : Config} {path : Text}
  {path? path'? : Option Text} {fault : Config.Fault}

/-! ### How a run ends -/

/-- A run is stopped before its command. Without colours it leaves nothing behind but one line. -/
structure IsStopped (surroundings : Surroundings) (line : Text) : Prop where
  exits : (run surroundings).exitCode = 1
  silent : (run surroundings).output = []
  complains : surroundings.palette = .plain → (run surroundings).errors = line ++ ['\n']
  oneLine : '\n' ∉ line

/-- A run carries out its command under some settings and a filter of its log, with a line for each
event that the filter enables. The format of the command line wins over that of the settings. -/
structure CarriesOut (surroundings : Surroundings) (invocation : Invocation) (config : Config)
    (filter : Log.Filter) : Prop where
  output : (run surroundings).output =
    (perform (invocation.format?.getD config.format) invocation.command).output
  exits : (run surroundings).exitCode =
    if (perform (invocation.format?.getD config.format) invocation.command).failure?.isNone
      then 0 else 1
  errors :
    let lineOf (event : Log.Event) : Text :=
      event.record.line (if invocation.logJson then .json else .words) surroundings.logPalette
        surroundings.time
    Log.FaithfulLines lineOf ∧ (run surroundings).errors =
      ((Log.Event.configured config.format ::
          (perform (invocation.format?.getD config.format) invocation.command).events).filter
            fun event ↦ filter.enables event.record).flatMap lineOf
        ++ (perform (invocation.format?.getD config.format) invocation.command).failure?.elim []
          (Failure.explanation surroundings.palette)

theorem Surroundings.Reach.carriesOut (h : surroundings.Reach invocation config)
    {filter : Log.Filter} (hfilter : surroundings.filter config = .ok filter) :
    CarriesOut surroundings invocation config filter where
  output := h.output_eq
  exits := by
    change _ = if (perform (invocation.format config) invocation.command).failure?.isNone then 0
      else 1
    cases hfailure : (perform (invocation.format config) invocation.command).failure? with
    | none =>
      rw [h.run_eq_of_success hfailure]
      rfl
    | some failure =>
      rw [h.run_eq_of_failure hfailure]
      rfl
  errors := by
    have htold : surroundings.told invocation config =
        (events config (perform (invocation.format config) invocation.command)).filter fun event ↦
          filter.enables event.record := by
      rw [Surroundings.told, hfilter]
      rfl
    have herrors := h.errors_eq_logged
    rw [surroundings.logged_eq_flatMap_told, htold] at herrors
    exact ⟨Log.faithfulLines_line _ _ _, herrors⟩

/-! ### Where the file is -/

/-- The home directory of the user: the one that the environment tells, or else the one on record.
An empty path is none. -/
def IsHome (surroundings : Surroundings) (home : Text) : Prop :=
  home ≠ [] ∧ (surroundings.environment "HOME".toList = some home ∨
    (∀ told ∈ surroundings.environment "HOME".toList, told = []) ∧
      surroundings.recordedHome? = some home)

/-- Where the settings are looked for, if anywhere. -/
inductive Located (surroundings : Surroundings) (invocation : Invocation) : Option Text → Prop where
  /-- At the path that is asked for. -/
  | asked {path : Text} (h : invocation.config? = some path) :
    Located surroundings invocation (some path)
  /-- In the directory for settings that the environment tells by an absolute path. -/
  | shared {home directory : Text} (hnone : invocation.config? = none)
      (hhome : IsHome surroundings home)
      (h : surroundings.environment "XDG_CONFIG_HOME".toList = some ('/' :: directory)) :
    Located surroundings invocation
      (some (Files.below (Files.below ('/' :: directory) "fname".toList) "config.toml".toList))
  /-- In the directory for settings below the home directory. -/
  | atHome {home : Text} (hnone : invocation.config? = none) (hhome : IsHome surroundings home)
      (h : ∀ directory,
        surroundings.environment "XDG_CONFIG_HOME".toList ≠ some ('/' :: directory)) :
    Located surroundings invocation
      (some (Files.below (Files.below (Files.below home ".config".toList) "fname".toList)
        "config.toml".toList))
  /-- Without a home directory there is no directory for settings either. -/
  | nowhere (hnone : invocation.config? = none) (h : ∀ home, ¬ IsHome surroundings home) :
    Located surroundings invocation none

theorem isHome_iff {home : Text} : IsHome surroundings home ↔ surroundings.home? = some home := by
  have hor : surroundings.home? =
      ((surroundings.environment "HOME".toList).filter fun home ↦ !home.isEmpty).or
        (surroundings.recordedHome?.filter fun home ↦ !home.isEmpty) := by
    rw [Surroundings.home?, List.findSome?_cons, List.findSome?_singleton]
    cases (surroundings.environment "HOME".toList).filter fun home ↦ !home.isEmpty <;> rfl
  rw [hor, Option.or_eq_some_iff, Option.filter_eq_some_iff, Option.filter_eq_none_iff,
    Option.filter_eq_some_iff]
  simp only [IsHome, Option.mem_def, Bool.not_eq_true', List.isEmpty_eq_false_iff, ne_eq, not_not]
  tauto

/-- The directory for settings is the one that the environment tells by an absolute path, or else
one below the home directory. -/
theorem settingsDirectory?_eq_some_iff {directory : Text} :
    surroundings.settingsDirectory? = some directory ↔ ∃ home, IsHome surroundings home ∧
      ((∃ rest, surroundings.environment "XDG_CONFIG_HOME".toList = some ('/' :: rest) ∧
          directory = '/' :: rest) ∨
        (∀ rest, surroundings.environment "XDG_CONFIG_HOME".toList ≠ some ('/' :: rest)) ∧
          directory = Files.below home ".config".toList) := by
  have hmap : surroundings.settingsDirectory? = some directory ↔
      ∃ home, IsHome surroundings home ∧
        ((surroundings.environment "XDG_CONFIG_HOME".toList).filter (·.head? == some '/')).getD
          (Files.below home ".config".toList) = directory := by
    simp only [Surroundings.settingsDirectory?, Option.map_eq_some_iff, isHome_iff]
  rw [hmap]
  refine exists_congr fun home ↦ and_congr_right fun _ ↦ ?_
  cases hfilter : (surroundings.environment "XDG_CONFIG_HOME".toList).filter
      (·.head? == some '/') with
  | none =>
    have hrelative : ∀ rest,
        surroundings.environment "XDG_CONFIG_HOME".toList ≠ some ('/' :: rest) := by
      intro rest htold
      simpa using Option.filter_eq_none_iff.mp hfilter _ htold
    rw [Option.getD_none]
    constructor
    · intro hdirectory
      exact Or.inr ⟨hrelative, hdirectory.symm⟩
    · rintro (⟨rest, htold, -⟩ | ⟨-, rfl⟩)
      · exact absurd htold (hrelative rest)
      · rfl
  | some told =>
    obtain ⟨htold, hslash⟩ := Option.filter_eq_some_iff.mp hfilter
    obtain ⟨rest, rfl⟩ : ∃ rest, told = '/' :: rest :=
      List.head?_eq_some_iff.mp (beq_iff_eq.mp hslash)
    constructor
    · rintro rfl
      exact Or.inl ⟨rest, htold, rfl⟩
    · rintro (⟨other, hother, rfl⟩ | ⟨hrelative, -⟩)
      · exact Option.some.inj (htold.symm.trans hother)
      · exact absurd htold (hrelative rest)

/-- The settings are looked for at one place, and this is where a run looks for them. -/
theorem located_iff :
    Located surroundings invocation path? ↔ surroundings.settingsPath? invocation = path? := by
  unfold Surroundings.settingsPath? Surroundings.standardPath?
  constructor
  · intro h
    cases h with
    | asked h => rw [h, Option.some_or]
    | shared hnone hhome h =>
      have hdirectory := settingsDirectory?_eq_some_iff.mpr ⟨_, hhome, Or.inl ⟨_, h, rfl⟩⟩
      rw [hnone, Option.none_or, hdirectory, Option.map_some]
    | atHome hnone hhome h =>
      have hdirectory := settingsDirectory?_eq_some_iff.mpr ⟨_, hhome, Or.inr ⟨h, rfl⟩⟩
      rw [hnone, Option.none_or, hdirectory, Option.map_some]
    | nowhere hnone h =>
      have hdirectory : surroundings.settingsDirectory? = none := by
        rw [Option.eq_none_iff_forall_ne_some]
        intro directory hdirectory
        obtain ⟨home, hhome, -⟩ := settingsDirectory?_eq_some_iff.mp hdirectory
        exact h home hhome
      rw [hnone, Option.none_or, hdirectory, Option.map_none]
  · rintro rfl
    cases hconfig : invocation.config? with
    | some path => exact .asked hconfig
    | none =>
      cases hdirectory : surroundings.settingsDirectory? with
      | none =>
        refine .nowhere hconfig fun home hhome ↦ ?_
        have hnone : surroundings.home? = none := Option.map_eq_none_iff.mp hdirectory
        cases hnone.symm.trans (isHome_iff.mp hhome)
      | some directory =>
        obtain ⟨home, hhome, hplace⟩ := settingsDirectory?_eq_some_iff.mp hdirectory
        rcases hplace with ⟨rest, h, rfl⟩ | ⟨h, rfl⟩
        · exact .shared hconfig hhome h
        · exact .atHome hconfig hhome h

/-! ### What the file decides -/

/-- A command line can be read, and its settings are looked for at a path. -/
structure Surroundings.Selects (surroundings : Surroundings) (invocation : Invocation)
    (path : Text) : Prop where
  parsed : parse (surroundings.environment "FNAME_CONFIG".toList) surroundings.arguments =
    .ok invocation
  path : surroundings.settingsPath? invocation = some path

/-- What a run complains of that is stopped by a fault of the file. -/
def complaint (fault : Config.Fault) (path : Text) : Text :=
  (match fault with
    | .unreadable => "Error: Failed to read config from ".toList
    | .malformed => "Error: Failed to parse config from ".toList) ++ Text.quoted path

theorem newline_notMem_complaint (fault : Config.Fault) (path : Text) :
    '\n' ∉ complaint fault path := by
  cases fault with
  | unreadable =>
    exact List.not_mem_append (by decide) (Text.newline_notMem_quoted path)
  | malformed =>
    exact List.not_mem_append (by decide) (Text.newline_notMem_quoted path)

/-- A failure without a hint is explained in one line. -/
theorem explanation_of_no_hint {failure : Failure} (h : failure.hint? = none) :
    failure.explanation .plain = "Error: ".toList ++ failure.message ++ ['\n'] := by
  rw [Failure.explanation, h]
  exact List.append_nil _

theorem settings_eq_load (h : surroundings.Selects invocation path) :
    surroundings.settings invocation =
      (Config.load surroundings.readers.document? (surroundings.look path)).mapError fun fault ↦
        .settings fault path := by
  rw [Surroundings.settings, h.path]

/-- A failure of the settings stops the run with its line. -/
theorem isStopped_of_failure {failure : Failure} {line : Text}
    (hparsed : parse (surroundings.environment "FNAME_CONFIG".toList) surroundings.arguments =
      .ok invocation) (hsettings : surroundings.settings invocation = .error failure)
    (hhint : failure.hint? = none) (hline : "Error: ".toList ++ failure.message = line)
    (hnewline : '\n' ∉ line) : IsStopped surroundings line := by
  have hrun := run_of_failure hparsed hsettings
  refine ⟨by rw [hrun], by rw [hrun], fun hpalette ↦ ?_, hnewline⟩
  rw [hrun, hpalette, explanation_of_no_hint hhint, hline]

theorem isStopped_of_load (h : surroundings.Selects invocation path)
    (hload : Config.load surroundings.readers.document? (surroundings.look path) = .error fault) :
    IsStopped surroundings (complaint fault path) := by
  have hsettings : surroundings.settings invocation = .error (.settings fault path) := by
    rw [settings_eq_load h, hload]
    rfl
  refine isStopped_of_failure h.parsed hsettings rfl ?_ (newline_notMem_complaint fault path)
  cases fault <;> rfl

theorem settings_of_load (h : surroundings.Selects invocation path)
    (hload : Config.load surroundings.readers.document? (surroundings.look path) = .ok config) :
    surroundings.settings invocation = .ok config := by
  rw [settings_eq_load h, hload]
  rfl

/-- Settings that load have the command carried out, under the filter that the reader answers. -/
theorem carriesOut_of_load (h : surroundings.Selects invocation path)
    (hload : Config.load surroundings.readers.document? (surroundings.look path) = .ok config)
    {filter : Log.Filter} (hfilter : surroundings.filter config = .ok filter) :
    CarriesOut surroundings invocation config filter := by
  have hreach : surroundings.Reach invocation config :=
    ⟨h.parsed, settings_of_load h hload, filter, hfilter⟩
  exact hreach.carriesOut hfilter

/-- A file that is missing is as good as an empty one. -/
theorem run_of_missing (h : surroundings.Selects invocation path)
    (hreader : Toml.IsReader surroundings.readers.document?)
    (hmissing : surroundings.look path = .missing) {look : Text → Files.Sight}
    (hempty : look path = .file ByteArray.empty) :
    run surroundings = run { surroundings with look } := by
  have hselects : Surroundings.Selects { surroundings with look } invocation path :=
    ⟨h.parsed, h.path⟩
  have hsettings : surroundings.settings invocation = .ok .standard :=
    settings_of_load h (by rw [hmissing]; rfl)
  have hload : Config.load surroundings.readers.document? (look path) = .ok .standard := by
    have hnothing : surroundings.readers.document? "".toList = some [] := hreader.empty
    rw [hempty, Config.load_file_eq_ok rfl hnothing rfl]
  have hsettings' : Surroundings.settings { surroundings with look } invocation = .ok .standard :=
    settings_of_load hselects hload
  rw [run, run, hselects.parsed]
  simp only [hsettings, hsettings']
  rfl

/-- Settings are taken as a whole or not at all, and the command line wins over them. They are
looked for where the command line or `FNAME_CONFIG` say, or else in the directory for settings; a
run without one is stopped. A missing file is as good as an empty one. A file that cannot be read as
text, is no document, or has an entry with another key or with a value that its key does not take
stops the run before anything is logged or printed; without colours one line tells the path, and
there is no hint. With any other file the command is carried out under the settings of its entries,
and of the standard ones where it has none, if only the reader of filters answers. -/
theorem settings_whole_or_refused {surroundings : Surroundings} {invocation : Invocation}
    (hparsed : parse (surroundings.environment "FNAME_CONFIG".toList) surroundings.arguments =
      .ok invocation) (hreader : Toml.IsReader surroundings.readers.document?) :
    invocation.IsGiven (surroundings.environment "FNAME_CONFIG".toList) surroundings.arguments ∧
    (∃ path?, Located surroundings invocation path?) ∧
    (Located surroundings invocation none →
      IsStopped surroundings "Error: Could not determine config directory".toList) ∧
    ∀ path, Located surroundings invocation (some path) →
      (surroundings.look path = .missing →
        (∀ filter, Log.Filter.inForce surroundings.readers.filter
            (surroundings.environment "FNAME_LOG".toList) "warn".toList = .ok filter →
          CarriesOut surroundings invocation ⟨.table, "warn".toList⟩ filter) ∧
        ∀ look, look path = .file ByteArray.empty →
          run surroundings = run { surroundings with look }) ∧
      (surroundings.look path = .unreadable →
        IsStopped surroundings
          ("Error: Failed to read config from ".toList ++ Text.quoted path)) ∧
      ∀ content, surroundings.look path = .file content →
        (String.fromUTF8? content = none →
          IsStopped surroundings
            ("Error: Failed to read config from ".toList ++ Text.quoted path)) ∧
        ∀ text, String.fromUTF8? content = some text →
          (surroundings.readers.document? text.toList = none →
            IsStopped surroundings
              ("Error: Failed to parse config from ".toList ++ Text.quoted path)) ∧
          ∀ entries, surroundings.readers.document? text.toList = some entries →
            ((∃ entry ∈ entries, Config.Spoils entry.1 entry.2) →
              IsStopped surroundings
                ("Error: Failed to parse config from ".toList ++ Text.quoted path)) ∧
            ((∀ entry ∈ entries, ¬ Config.Spoils entry.1 entry.2) →
              ∃ config, Config.Holds entries ⟨.table, "warn".toList⟩ config ∧
                ∀ filter, Log.Filter.inForce surroundings.readers.filter
                    (surroundings.environment "FNAME_LOG".toList) config.logLevel = .ok filter →
                  CarriesOut surroundings invocation config filter) := by
  refine ⟨isGiven_of_parse hparsed, ⟨_, located_iff.mpr rfl⟩, fun hnowhere ↦ ?_,
    fun path hlocated ↦ ?_⟩
  · have hsettings : surroundings.settings invocation = .error .noDirectory := by
      rw [Surroundings.settings, located_iff.mp hnowhere]
    exact isStopped_of_failure hparsed hsettings rfl rfl (by decide)
  have h : surroundings.Selects invocation path := ⟨hparsed, located_iff.mp hlocated⟩
  refine ⟨fun hmissing ↦ ⟨fun filter hfilter ↦ ?_, fun look hempty ↦
      run_of_missing h hreader hmissing hempty⟩,
    fun hunreadable ↦ ?_, fun content hcontent ↦ ⟨fun hbytes ↦ ?_, fun text htext ↦
      ⟨fun hnone ↦ ?_, fun entries hentries ↦ ⟨fun hspoilt ↦ ?_, fun hsound ↦ ?_⟩⟩⟩⟩
  · exact carriesOut_of_load h (by rw [hmissing]; rfl) hfilter
  · exact isStopped_of_load h (by rw [hunreadable]; rfl)
  · exact isStopped_of_load h (by rw [hcontent, Config.load, hbytes])
  · have hload : Config.load surroundings.readers.document? (surroundings.look path) =
        .error .malformed := by
      simp only [hcontent, Config.load, htext, hnone, Option.bind_none]
    exact isStopped_of_load h hload
  · have hfails := Config.ofEntries?_eq_none_iff.mpr hspoilt
    have hload : Config.load surroundings.readers.document? (surroundings.look path) =
        .error .malformed := by
      simp only [hcontent, Config.load, htext, hentries, Option.bind_some, hfails]
    exact isStopped_of_load h hload
  · have hsome : Config.ofEntries? entries ≠ none := by
      rw [Ne, Config.ofEntries?_eq_none_iff]
      rintro ⟨entry, hentry, hspoils⟩
      exact hsound entry hentry hspoils
    obtain ⟨config, hconfig⟩ := Option.ne_none_iff_exists'.mp hsome
    have hload : Config.load surroundings.readers.document? (surroundings.look path) =
        .ok config := by
      rw [hcontent, Config.load_file_eq_ok htext hentries hconfig]
    exact ⟨config, Config.holds_of_foldlM (hreader.distinct hentries) hconfig,
      fun filter hfilter ↦ carriesOut_of_load h hload hfilter⟩

/-- A key that is no setting stops a run although the other one is sound, the command line gives the
format and the environment asks for a log. A table of one key names a format as well as its word
does, and the format of the command line wins over it. Without an option the file is looked for in
the directory that the environment tells, and without a home directory nowhere. -/
theorem settings_whole_or_refused_of_unknown_key :
    let invocation (config? : Option Text) : Invocation :=
      ⟨some .table, config?, false, .sanitize "a/b".toList⟩
    let arguments := ["--format=table", "--config=it's", "sanitize", "--", "a/b"].map String.toList
    let debugging := [("FNAME_LOG".toList, "debug".toList)]
    let keeping (content : String) (home : Surroundings) : Surroundings :=
      { home with look := fun _ ↦ .file content.toUTF8 }
    let refused := run (keeping "x=1\nformat='json'" (.atHome arguments debugging []))
    let obeyed := run (keeping "format.json=[]" (.atHome arguments debugging []))
    let elsewhere := keeping "x=1\nformat='json'" (.atHome (invocation none).written
      [("XDG_CONFIG_HOME".toList, "/etc/xdg".toList)] [])
    let homeless := run (.atHome (invocation none).written [("HOME".toList, [])] [])
    (refused.exitCode = 1 ∧ refused.output = [] ∧ refused.errors =
      "Error: Failed to parse config from ".toList ++ "\"it\\'s\"".toList ++ ['\n']) ∧
    (obeyed.exitCode = 0 ∧ obeyed.output = "a-b\n".toList ∧
      obeyed.errors = (Log.Event.configured .json).record.line .words .coloured []) ∧
    (run elsewhere).errors = "Error: Failed to parse config from ".toList ++
      "\"/etc/xdg/fname/config.toml\"".toList ++ ['\n'] ∧
    homeless.exitCode = 1 ∧
      homeless.errors = "Error: Could not determine config directory\n".toList := by
  intro invocation arguments debugging keeping refused obeyed elsewhere homeless
  have hwritten : arguments = (invocation (some "it's".toList)).written := by decide +kernel
  have hparse (config? : Option Text) (hconfig : config? ≠ some []) :
      parse none (invocation config?).written = .ok (invocation config?) := by
    have hparse := @parse_written none (by simp) (invocation config?) hconfig (by simp [invocation])
    rwa [Option.or_none] at hparse
  have hunknown : Toml.parse? "x=1\nformat='json'".toList =
      some [("x".toList, .scalar "1".toList), ("format".toList, .text "json".toList)] := by
    have htext : "x=1\nformat='json'".toList = ['x', '=', '1', '\n', 'f', 'o', 'r', 'm', 'a', 't',
        '=', '\'', 'j', 's', 'o', 'n', '\''] := rfl
    rw [htext]
    rfl
  have honlyKey : Toml.parse? "format.json=[]".toList =
      some [("format".toList, .table .dotted [("json".toList, .array [])])] := by
    have htext : "format.json=[]".toList =
        ['f', 'o', 'r', 'm', 'a', 't', '.', 'j', 's', 'o', 'n', '=', '[', ']'] := rfl
    rw [htext]
    rfl
  have hgiven (content : String) := @settings_whole_or_refused
    (keeping content (.atHome arguments debugging [])) (invocation (some "it's".toList))
    (by rw [← hparse _ (by simp), ← hwritten]; rfl) Toml.isReader_parse?
  have hfree := @settings_whole_or_refused elsewhere (invocation none)
    (hparse none (by simp)) Toml.isReader_parse?
  have hlost := @settings_whole_or_refused
    (.atHome (invocation none).written [("HOME".toList, [])] []) (invocation none)
    (hparse none (by simp)) Toml.isReader_parse?
  have hstranger : ∃ entry ∈ [("x".toList, Toml.Value.scalar "1".toList),
      ("format".toList, .text "json".toList)], Config.Spoils entry.1 entry.2 :=
    ⟨_, List.mem_cons_self, .unknown (by decide) (by decide)⟩
  refine ⟨?_, ?_, ?_, ?_⟩
  · obtain ⟨-, -, -, hpath⟩ := hgiven "x=1\nformat='json'"
    obtain ⟨-, -, hfile⟩ := hpath "it's".toList (.asked rfl)
    have hstopped := (((hfile _ rfl).2 _ (Config.fromUTF8?_toUTF8 _)).2 _ hunknown).1 hstranger
    exact ⟨hstopped.exits, hstopped.silent, (hstopped.complains rfl).trans (by decide +kernel)⟩
  · obtain ⟨-, -, -, hpath⟩ := hgiven "format.json=[]"
    obtain ⟨-, -, hfile⟩ := hpath "it's".toList (.asked rfl)
    obtain ⟨⟨format, logLevel⟩, ⟨hformat, hlevel⟩, hcarries⟩ :=
      (((hfile _ rfl).2 _ (Config.fromUTF8?_toUTF8 _)).2 _ honlyKey).2 (by
        intro entry hentry hspoils
        obtain rfl := List.mem_singleton.mp hentry
        exact absurd ((@Config.set?_eq_none_iff .standard _ _).mpr hspoils) (by decide))
    obtain rfl : format = .json :=
      Option.some.inj ((Config.format?_eq_some_iff.mpr hformat).symm.trans (by decide))
    obtain rfl : logLevel = "warn".toList := hlevel
    have hcarried := hcarries _ (Surroundings.filter_atHome_of_level arguments [] []
      ⟨.json, "warn".toList⟩ (by decide : Log.Threshold.ofText? "debug".toList = some (some .debug))
      (by decide))
    exact ⟨hcarried.exits, hcarried.output.trans (by decide +kernel),
      hcarried.errors.2.trans (by decide +kernel)⟩
  · obtain ⟨-, -, -, hpath⟩ := hfree
    have hhome : IsHome elsewhere "/home/user".toList := ⟨by decide, Or.inl (by decide)⟩
    have hshared : elsewhere.environment "XDG_CONFIG_HOME".toList =
        some ('/' :: "etc/xdg".toList) := by decide
    obtain ⟨-, -, hfile⟩ := hpath _ (.shared rfl hhome hshared)
    have hstopped := (((hfile _ rfl).2 _ (Config.fromUTF8?_toUTF8 _)).2 _ hunknown).1 hstranger
    exact (hstopped.complains (by decide)).trans (by decide +kernel)
  · obtain ⟨-, -, hnowhere, -⟩ := hlost
    have hstopped := hnowhere (.nowhere rfl fun home hhome ↦ by
      cases (isHome_iff.mp hhome).symm.trans (by decide : _ = none))
    exact ⟨hstopped.exits, hstopped.complains (by decide)⟩

end WorkloadNames.Program
