import WorkloadNames.Proofs.Program.Noninterference

/-!
Which events a run logs. Three texts are tried in turn for a filter: that of the environment, the
log level of the settings, and a text that asks for warnings. Filters are read by a reader from
outside, which has to read the plainest texts as what they say and to answer what it is asked; the
first text that is there and can be read is then in force, and a line is written for each event that
it admits (`log_follows_first_readable`). So a filter in the environment leaves nothing to the log
level, a text that is refused is passed over as if it were not there, and of two runs that log up to
a level the one with the higher level writes all that the other one writes.
-/

set_option autoImplicit false
set_option relaxedAutoImplicit false

namespace WorkloadNames

namespace Log.Filter

variable {read : Text → Except Unread Filter} {texts : List Text} {filter : Filter}

/-- What is in force is the filter of the first text that can be read, with one behind the others
that asks for warnings. -/
theorem findSome?_of_firstOf (hread : ReadsLevels read) (h : firstOf read texts = .ok filter) :
    (texts ++ ["warn".toList]).findSome? (fun text ↦ (read text).toOption) = some filter := by
  induction texts with
  | nil =>
    have hwarn : read "warn".toList = .ok (ofThreshold (some .warn)) :=
      hread.level (by decide) (by decide)
    rw [List.nil_append, List.findSome?_singleton, hwarn, ← Except.ok.inj h]
    rfl
  | cons text rest ih =>
    rw [List.cons_append, List.findSome?_cons]
    unfold firstOf at h
    cases htext : read text with
    | ok first =>
      rw [htext] at h
      exact congrArg some (Except.ok.inj h)
    | error unread =>
      rw [htext] at h
      cases unread with
      | refused => exact ih h
      | aborted complaint => cases h

end Log.Filter

namespace Program

open CommandLine

variable {surroundings surroundings' : Surroundings} {invocation : Invocation}
  {config config' : Config}

/-! ### The filter in force -/

namespace Surroundings

/-- The filter of the first text that is there and can be read. -/
def chosen? (surroundings : Surroundings) (config : Config) : Option Log.Filter :=
  ((surroundings.environment "FNAME_LOG".toList).toList ++
      [config.logLevel, "warn".toList]).findSome?
    fun text ↦ (surroundings.readers.filter text).toOption

theorem Reach.chosen?_eq (h : surroundings.Reach invocation config)
    (hreader : Log.ReadsLevels surroundings.readers.filter) :
    surroundings.chosen? config = (surroundings.filter config).toOption := by
  obtain ⟨filter, hfilter⟩ := h.answered
  have hfirst := Log.Filter.findSome?_of_firstOf hreader hfilter
  rw [List.append_assoc] at hfirst
  rw [hfilter]
  exact hfirst

/-- The lines that are due in a run that gets to its command: one for each event of its story that
the chosen filter admits. -/
def due (surroundings : Surroundings) (invocation : Invocation) (config : Config) : List Text :=
  ((story invocation.format? invocation.command config.format).filter fun event ↦
      (surroundings.chosen? config).any fun filter ↦ filter.Admits event.record).map
    (surroundings.lineOf invocation)

/-- An event has a line among them exactly if the chosen filter admits it. -/
theorem lineOf_mem_due_iff (hlines : Log.FaithfulLines (surroundings.lineOf invocation))
    {event : Log.Event}
    (hevent : event ∈ story invocation.format? invocation.command config.format) :
    surroundings.lineOf invocation event ∈ surroundings.due invocation config ↔
      ∃ filter ∈ surroundings.chosen? config, filter.Admits event.record := by
  rw [due, List.mem_map_of_injective hlines.distinct, List.mem_filter, Option.any_eq_true]
  simp [hevent]

/-- What a run writes about errors: the lines that are due, and then why its command fails. -/
theorem Reach.errors_eq (h : surroundings.Reach invocation config)
    (hreader : Log.ReadsLevels surroundings.readers.filter) :
    (run surroundings).errors = (surroundings.due invocation config).flatten ++
      apology surroundings.palette invocation.format? invocation.command config.format := by
  have hlines : (surroundings.due invocation config).flatten =
      surroundings.logged invocation config := by
    have hadmits : (fun event : Log.Event ↦ (surroundings.chosen? config).any fun filter ↦
        decide (filter.Admits event.record)) = fun event ↦
          (surroundings.filter config).toOption.any fun filter ↦ filter.enables event.record := by
      funext event
      rw [h.chosen?_eq hreader]
      simp only [← Log.Filter.enables_iff, Bool.decide_eq_true]
    rw [due, hadmits, logged_eq_flatMap_told, List.flatMap_def]
    rfl
  rw [hlines]
  exact h.errors_eq_logged

/-! ### Runs under other filters -/

/-- The same run with another filter in the environment, or none. -/
def withLog (surroundings : Surroundings) (log? : Option Text) : Surroundings :=
  { surroundings with
    environment := fun name ↦
      if name = "FNAME_LOG".toList then log? else surroundings.environment name }

theorem filter_withLog (surroundings : Surroundings) (log? : Option Text) (config : Config) :
    (surroundings.withLog log?).filter config =
      Log.Filter.inForce surroundings.readers.filter log? config.logLevel := by
  simp only [filter, withLog, if_pos]

/-- Two runs that come to the same command and have the same filter in force are the same. -/
theorem run_eq_of_filter_eq
    (hparsed : parse (surroundings.environment "FNAME_CONFIG".toList) surroundings.arguments =
      .ok invocation)
    (hparsed' : parse (surroundings'.environment "FNAME_CONFIG".toList) surroundings'.arguments =
      .ok invocation)
    (hloaded : surroundings.settings invocation = .ok config)
    (hloaded' : surroundings'.settings invocation = .ok config')
    (hformat : config'.format = config.format) (htime : surroundings'.time = surroundings.time)
    (hpalette : surroundings'.palette = surroundings.palette)
    (hlogPalette : surroundings'.logPalette = surroundings.logPalette)
    (hfilter : surroundings'.filter config' = surroundings.filter config) :
    run surroundings' = run surroundings := by
  rw [run, run, hparsed, hparsed']
  simp only [hloaded, hloaded', hfilter]
  cases surroundings.filter config with
  | error complaint => rfl
  | ok filter =>
    unfold conclude events Invocation.format
    simp only [hformat, htime, hpalette, hlogPalette]

/-- Of two filters of a single level the higher one has all lines written that the lower one has. -/
theorem due_sublist {low high : Log.Threshold}
    (hlow : surroundings.chosen? config = some (.ofThreshold low))
    (hhigh : surroundings'.chosen? config' = some (.ofThreshold high))
    (hrank : low.rank ≤ high.rank) (hformat : config'.format = config.format)
    (hlines : surroundings'.lineOf invocation = surroundings.lineOf invocation) :
    (surroundings.due invocation config).Sublist (surroundings'.due invocation config') := by
  unfold due
  rw [hlow, hhigh, hformat, hlines]
  refine List.Sublist.map _ (List.monotone_filter_right _ fun event hevent ↦ ?_)
  simp only [Option.any_some, decide_eq_true_eq] at hevent ⊢
  exact Log.Filter.admits_ofThreshold_mono hrank hevent

end Surroundings

/-! ### What the three texts come to -/

/-- The log of a run follows the first text that is there and can be read. -/
structure FollowsFirstReadable (surroundings : Surroundings) (invocation : Invocation)
    (config : Config) : Prop where
  /-- The run gets to its command, whether the texts can be read or not. -/
  reach : surroundings.Reach invocation config
  /-- One of the texts can always be read. -/
  chosen : (surroundings.chosen? config).isSome = true
  /-- The lines that are due are written in the order of their events, and nothing else is but the
  reason why the command fails. -/
  errors : (run surroundings).errors = (surroundings.due invocation config).flatten ++
    apology surroundings.palette invocation.format? invocation.command config.format
  /-- A line is known from its event, and the event from its line. -/
  lines : Log.FaithfulLines (surroundings.lineOf invocation)
  /-- The line of an event is written exactly if the filter admits the event. -/
  written : ∀ event ∈ story invocation.format? invocation.command config.format,
    surroundings.lineOf invocation event ∈ surroundings.due invocation config ↔
      ∃ filter ∈ surroundings.chosen? config, filter.Admits event.record
  /-- The target of a directive that decides on an event begins that of the event, and no other
  directive of which this is true has a longer one, unless it asks for a value that the event has
  not. -/
  longest : ∀ filter ∈ surroundings.chosen? config, ∀ record directive,
    Log.Decides filter.directives record directive →
    (∀ target ∈ directive.target?, target <+: record.target) ∧
    ∀ other ∈ filter.directives, (∀ target ∈ other.target?, target <+: record.target) →
      (∀ name ∈ other.field?, name = "message".toList ∨ ∃ field ∈ record.fields, field.1 = name) →
      other.reach ≤ directive.reach
  /-- The command is carried out under whatever texts. -/
  output : (run surroundings).output =
    (perform (invocation.format config) invocation.command).output
  exits : (run surroundings).exitCode = 0 ↔
    (perform (invocation.format config) invocation.command).failure? = none
  /-- No text that the reader answers keeps the run from its command. -/
  reached : ∀ log?, (∀ text ∈ log?, Log.Answers surroundings.readers.filter text) →
    (surroundings.withLog log?).Reach invocation config
  /-- A filter in the environment that can be read leaves nothing to the log level. -/
  settled : ∀ text ∈ surroundings.environment "FNAME_LOG".toList, ∀ filter,
    surroundings.readers.filter text = .ok filter → ∀ look config',
      Surroundings.settings { surroundings with look } invocation = .ok config' →
      config'.format = config.format → run { surroundings with look } = run surroundings
  /-- The empty text in the environment is a filter too, and asks for errors. -/
  empty : (surroundings.withLog (some [])).chosen? config = some (.ofThreshold (some .error))
  /-- A text in the environment that is refused is as good as none. -/
  unreadable : ∀ text, surroundings.readers.filter text = .error .refused →
    run (surroundings.withLog (some text)) = run (surroundings.withLog none)
  /-- A text on which the reader breaks off ends the run before anything is logged or printed. -/
  aborted : ∀ text complaint, surroundings.readers.filter text = .error (.aborted complaint) →
    run (surroundings.withLog (some text)) = ⟨101, [], complaint⟩
  /-- A text that stands for a level, by its number or by its name, is the filter of that level, and
  admits it and every more important one. -/
  plain : ∀ text threshold, Log.Threshold.ofText? text = some threshold → text.head? ≠ some '+' →
    (surroundings.withLog (some text)).chosen? config = some (.ofThreshold threshold) ∧
    ∀ record, (Log.Filter.ofThreshold threshold).Admits record ↔
      record.level.number ≤ threshold.rank
  /-- A run under a higher level writes all lines that are written under a lower one. -/
  levels : ∀ (surroundings' : Surroundings) (config' : Config) (low high : Log.Threshold),
    surroundings'.lineOf invocation = surroundings.lineOf invocation →
    config'.format = config.format →
    surroundings.chosen? config = some (.ofThreshold low) →
    surroundings'.chosen? config' = some (.ofThreshold high) → low.rank ≤ high.rank →
    (surroundings.due invocation config).Sublist (surroundings'.due invocation config')

/-- A text in the environment that can be read is the one in force. -/
theorem chosen?_withLog_of_ok {text : Text} {filter : Log.Filter} (config : Config)
    (h : surroundings.readers.filter text = .ok filter) :
    (surroundings.withLog (some text)).chosen? config = some filter := by
  have henvironment : (surroundings.withLog (some text)).environment "FNAME_LOG".toList =
      some text := by
    simp only [Surroundings.withLog, if_pos]
  have hread : (surroundings.withLog (some text)).readers.filter text = .ok filter := h
  rw [Surroundings.chosen?, henvironment, Option.toList_some, List.singleton_append,
    List.findSome?_cons, hread]
  rfl

/-- Whatever the environment and the settings ask for, a run whose settings load logs what the first
text among theirs admits that can be read, or else warnings; the other texts have no influence on
it, and none of the texts has any on the command. The reader of filters is to read levels and the
empty text as what they say, and to read or refuse whatever else the run has for it. -/
theorem log_follows_first_readable {surroundings : Surroundings} {invocation : Invocation}
    {config : Config} (hreader : Log.ReadsLevels surroundings.readers.filter)
    (hanswered : IsAnswered surroundings)
    (hparsed : parse (surroundings.environment "FNAME_CONFIG".toList) surroundings.arguments =
      .ok invocation)
    (hloaded : surroundings.settings invocation = .ok config) :
    FollowsFirstReadable surroundings invocation config := by
  have hreach := hanswered.reach hparsed hloaded
  have hlines : Log.FaithfulLines (surroundings.lineOf invocation) := Log.faithfulLines_line _ _ _
  exact {
    reach := hreach
    chosen := by
      obtain ⟨filter, hfilter⟩ := hreach.answered
      rw [hreach.chosen?_eq hreader, hfilter]
      rfl
    errors := hreach.errors_eq hreader
    lines := hlines
    written := fun event ↦ Surroundings.lineOf_mem_due_iff hlines
    longest := by
      intro filter hfilter record directive hdecides
      obtain ⟨hinitial, -⟩ := Log.Directive.concerns_iff.mp hdecides.concerns
      refine ⟨hinitial, fun other hother htarget hfield ↦ ?_⟩
      exact hdecides.reach_le hother (Log.Directive.concerns_iff.mpr ⟨htarget, hfield⟩)
    output := hreach.output_eq
    exits := hreach.exitCode_eq_zero_iff
    reached := fun log? hlog ↦ by
      have hall : IsAnswered (surroundings.withLog log?) := ⟨hlog, hanswered.settings⟩
      exact hall.reach hparsed hloaded
    settled := by
      intro text htext filter hfilter look config' hloaded' hformat
      refine Surroundings.run_eq_of_filter_eq hparsed hparsed hloaded hloaded' hformat rfl rfl rfl
        ?_
      unfold Surroundings.filter Log.Filter.inForce
      simp only [show surroundings.environment "FNAME_LOG".toList = some text from htext,
        Option.toList_some, List.singleton_append, Log.Filter.firstOf, hfilter]
    empty := chosen?_withLog_of_ok config hreader.empty
    unreadable := by
      intro text hrefused
      refine Surroundings.run_eq_of_filter_eq hparsed hparsed hloaded hloaded rfl rfl rfl rfl ?_
      rw [Surroundings.filter_withLog, Surroundings.filter_withLog, Log.Filter.inForce,
        Option.toList_some, List.singleton_append, Log.Filter.firstOf, hrefused]
      rfl
    aborted := by
      intro text complaint habort
      refine run_of_abort hparsed hloaded ?_
      rw [Surroundings.filter_withLog, Log.Filter.inForce, Option.toList_some,
        List.singleton_append, Log.Filter.firstOf, habort]
    plain := fun text threshold hlevel hsign ↦
      ⟨chosen?_withLog_of_ok config (hreader.level hlevel hsign),
        fun record ↦ Log.Filter.admits_ofThreshold_iff⟩
    levels := by
      intro surroundings' config' low high hlines' hformat hlow hhigh hrank
      exact Surroundings.due_sublist hlow hhigh hrank hformat hlines' }

/-- The target of the program begins that of its library. A filter that is silent about the one and
talks about the other has the cut of a name told and nothing else, whatever the settings ask for. A
text that is no filter is passed over, one that breaks the reading off ends the run, and a level in
digits has less told than one in words. -/
theorem log_follows_first_readable_of_overlapping_targets :
    let arguments := ["--config=p".toList, "image".toList, "--".toList, List.replicate 250 'a',
      "0123456".toList]
    let missing : Surroundings := .atHome arguments
      [("FNAME_LOG".toList, "fname=off,fname_names=debug".toList)] "now".toList
    let tracing : Surroundings :=
      { missing with look := fun _ ↦ .file "log_level='trace'".toUTF8 }
    let invocation : Invocation :=
      ⟨none, some "p".toList, false, .nameImage (List.replicate 250 'a') "0123456".toList⟩
    (run missing).errors =
        (Log.Event.shortened ⟨250, 246⟩).record.line .words .coloured "now".toList ∧
      run tracing = run missing ∧
      run (missing.withLog (some "=".toList)) = run (missing.withLog none) ∧
      (run (missing.withLog (some " é=info".toList))).exitCode = 101 ∧
      ((missing.withLog (some "2".toList)).due invocation .standard).Sublist
        ((missing.withLog (some "Info".toList)).due invocation .standard) := by
  intro arguments missing tracing invocation
  have hwritten : arguments = invocation.written := by decide +kernel
  obtain ⟨filter, hfilter⟩ :
      ∃ filter, Readers.own.filter "fname=off,fname_names=debug".toList = .ok filter :=
    ⟨⟨[⟨some "fname".toList, none, none⟩, ⟨some "fname_names".toList, none, some .debug⟩]⟩,
      by decide +kernel⟩
  have hentries : Toml.parse? "log_level='trace'".toList =
      some [("log_level".toList, .text "trace".toList)] := by
    have htext : "log_level='trace'".toList = ['l', 'o', 'g', '_', 'l', 'e', 'v', 'e', 'l', '=',
      '\'', 't', 'r', 'a', 'c', 'e', '\''] := rfl
    rw [htext]
    rfl
  have hload : Config.load Toml.parse? (.file "log_level='trace'".toUTF8) =
      .ok ⟨.table, "trace".toList⟩ :=
    Config.load_file_eq_ok (Config.fromUTF8?_toUTF8 _) hentries rfl
  have hanswered : IsAnswered missing := by
    refine @isAnswered_of_load missing .standard (fun text htext ↦ ?_) (fun path ↦ rfl)
      (Log.readsLevels_ofText.answers (by decide : _ = some (some .warn)) (by decide))
    obtain rfl : text = "fname=off,fname_names=debug".toList :=
      Option.some.inj (htext.symm.trans (by decide : missing.environment _ = _))
    intro complaint hread
    cases hfilter.symm.trans hread
  have hparsed : parse (missing.environment "FNAME_CONFIG".toList) missing.arguments =
      .ok invocation := by
    have hunset : missing.environment "FNAME_CONFIG".toList = none := by decide
    rw [hunset, show missing.arguments = invocation.written from hwritten]
    exact parse_written (by simp) (by decide) fun label hcommand ↦ by cases hcommand
  have hloaded : missing.settings invocation = .ok .standard := rfl
  have hfollows := log_follows_first_readable Log.readsLevels_ofText hanswered hparsed hloaded
  have htwo : IsAnswered (missing.withLog (some "2".toList)) := by
    refine ⟨fun text htext ↦ ?_, hanswered.settings⟩
    obtain rfl : text = "2".toList := (Option.some.inj htext).symm
    exact Log.readsLevels_ofText.answers (by decide : _ = some (some .warn)) (by decide)
  have hdigit := log_follows_first_readable Log.readsLevels_ofText htwo hparsed hloaded
  have hdue : missing.due invocation .standard =
      [(Log.Event.shortened ⟨250, 246⟩).record.line .words .coloured "now".toList] := by
    decide +kernel
  refine ⟨?_, ?_, ?_, ?_, ?_⟩
  · rw [hfollows.errors, hdue]
    decide +kernel
  · have hselects : tracing.Selects invocation "p".toList := ⟨hparsed, rfl⟩
    exact hfollows.settled _ (by decide) filter hfilter tracing.look _
      (settings_of_load hselects hload) rfl
  · exact hfollows.unreadable _ (by decide +kernel)
  · rw [hfollows.aborted _ "a directive was cut inside a character\n".toList (by decide +kernel)]
  · exact hdigit.levels _ _ (some .warn) (some .info) rfl rfl
      (hfollows.plain _ _ (by decide) (by decide)).1 (hfollows.plain _ _ (by decide) (by decide)).1
      (by decide)

end Program

end WorkloadNames
