import WorkloadNames.Proofs.Friendly.Cap
import WorkloadNames.Proofs.Program.Agreement
import WorkloadNames.Proofs.Program.Check
import WorkloadNames.Proofs.Program.Noninterference
import WorkloadNames.Proofs.Program.Refusal

/-!
The log of a run that holds nothing back. It begins with the settings and then tells what the
command has done, and what it tells is what the run shows: the reason of a refusal is the one that
is printed, a cut is told of exactly if something of the identifier is missing in the printed name,
and every checked name has the record of the report (`log_tells_the_truth`).
-/

set_option autoImplicit false
set_option relaxedAutoImplicit false

namespace WorkloadNames.Program

open CommandLine Friendly

variable {surroundings : Surroundings} {invocation : Invocation} {config : Config}

/-! ### Records of a run -/

namespace Chronicle

/-- The settings have been loaded. -/
def loading (format : Format) : Log.Record :=
  ⟨.debug, "fname".toList, "configuration loaded".toList,
    [("format".toList, .plain (match format with | .table => "Table" | .json => "Json").toList)]⟩

/-- A name has been refused for a reason. -/
def refusal (reason : Text) : Log.Record :=
  ⟨.debug, "fname_names::friendly".toList, "rejected friendly name input".toList,
    [("reason".toList, .plain reason)]⟩

/-- Of an identifier only a part has been kept. -/
def truncation (identifier kept : Text) : Log.Record :=
  ⟨.debug, "fname_names::friendly".toList, "truncating friendly name".toList,
    [("original_len".toList, .number (Text.byteLength identifier)),
      ("kept_len".toList, .number (Text.byteLength kept))]⟩

/-- The name of an image has been built. -/
def imageBuilt (name : Text) : Log.Record :=
  ⟨.info, "fname::commands::image".toList, "built image friendly name".toList,
    [("friendly_name".toList, .plain name)]⟩

/-- The name of an instance has been built. -/
def instanceBuilt (name : Text) : Log.Record :=
  ⟨.info, "fname::commands::instance".toList, "built instance friendly name".toList,
    [("friendly_name".toList, .plain name)]⟩

/-- A name has been checked, with the outcome that is reported. -/
def inspection (record : Record) : Log.Record :=
  ⟨.debug, "fname::commands::check".toList, "checked name".toList,
    [("name".toList, .plain record.name), ("rule".toList, .quoted record.rule),
      ("valid".toList, .truth record.valid)]⟩

theorem record_configured (format : Format) :
    (Log.Event.configured format).record = loading format := by
  cases format <;> rfl

theorem record_checked (label : Bool) (name : Text) :
    (Finding.ofName (Record.ruleOf label) name).event.record =
      inspection (Record.ofName label name) := by
  rw [Finding.event, Log.Event.record, inspection]
  simp only [Finding.ofName, Finding.title_ruleOf]
  rfl

/-! ### Names that are asked for -/

/-- What a name is built from, how it is shown and how it is told of. -/
structure Request where
  identifier : Text
  suffix : Text
  /-- What stands in front of the name in an object. -/
  inputs : List (Text × Text)
  built : Text → Log.Record

/-- The name that a command asks for. -/
def request? : Command → Option Request
  | .nameImage tag hash =>
    some ⟨sanitize tag, hash.rtake 6, [("image_tag".toList, tag), ("image_hash".toList, hash)],
      imageBuilt⟩
  | .nameInstance namespaceName kind name hash =>
    some ⟨assembled namespaceName kind name, instanceFragments hash,
      [("namespace".toList, namespaceName), ("kind".toList, kind), ("name".toList, name)],
      instanceBuilt⟩
  | .sanitize _ | .check _ _ => none

/-- What a run tells of the name that it is asked for, and the error behind its log. -/
inductive TellsOfName (surroundings : Surroundings) (invocation : Invocation) (config : Config)
    (request : Request) : List Log.Record → Text → Prop
  /-- The name is refused, and the reason that is told is printed in the error, with nothing behind
  its line but a hint. -/
  | refused {rejection : Rejection} {hint : Text}
      (refuses : answer? invocation.command = some (.rejected rejection))
      (exits : (run surroundings).exitCode = 1) (silent : (run surroundings).output = [])
      (advises : hint = (Failure.rejected rejection).hint?.elim [] fun advice ↦
        ['\n'] ++ surroundings.palette.hintLine advice ++ ['\n']) :
      TellsOfName surroundings invocation config request [refusal rejection.reason]
        (surroundings.palette.errorWord ++ " invalid friendly name: ".toList ++ rejection.reason
          ++ '\n' :: hint)
  /-- The name is built and printed as it is told. If it does not keep the identifier whole, this is
  told too: the identifier is then longer than what is kept, and the name has 253 bytes. -/
  | built {kept : Text} (initial : kept <+: request.identifier)
      (full : kept ≠ request.identifier →
        Text.byteLength kept < Text.byteLength request.identifier ∧
          Text.byteLength kept + 1 + Text.byteLength request.suffix = 253)
      (shows : Shows (run surroundings) (invocation.format config) request.inputs
        "friendly_name".toList (some (kept ++ '-' :: request.suffix))) :
      TellsOfName surroundings invocation config request
        ((if kept = request.identifier then [] else [truncation request.identifier kept])
          ++ [request.built (kept ++ '-' :: request.suffix)]) []

/-- The cut of a name is an event exactly if not all of the identifier is kept. -/
theorem records_cutEvents {identifier suffix : Text} (hidentifier : Dns.IsNameText identifier)
    (hne : identifier ≠ []) (hsuffix : suffix.length ≤ 9) :
    (cutEvents (Name.capped identifier suffix)).map Log.Event.record =
      if identifier.within (252 - Text.byteLength suffix) = identifier then []
      else [truncation identifier (identifier.within (252 - Text.byteLength suffix))] := by
  have hcapped := isCapped_within hidentifier hne hsuffix
  by_cases hcut : 252 - Text.byteLength suffix < Text.byteLength identifier
  · have hkept : Text.byteLength (identifier.within (252 - Text.byteLength suffix)) =
        252 - Text.byteLength suffix := by
      rw [hidentifier.singleByte.byteLength_within]
      omega
    have hshorter : identifier.within (252 - Text.byteLength suffix) ≠ identifier := by
      intro hwhole
      rw [hwhole] at hkept
      omega
    rw [if_neg hshorter, truncation, hkept]
    simp only [cutEvents, Name.capped, hcut, if_true]
    rfl
  · rw [if_pos (Text.within_eq_self (Nat.le_of_not_lt hcut))]
    simp only [cutEvents, Name.capped, hcut, if_false]
    rfl

/-- The error about a refused name is its reason in a line, and then the hint if there is one. -/
theorem explanation_rejected_eq (palette : Palette) (rejection : Rejection) :
    (Failure.rejected rejection).explanation palette =
      palette.errorWord ++ " invalid friendly name: ".toList ++ rejection.reason
        ++ '\n' :: (Failure.rejected rejection).hint?.elim [] fun advice ↦
          ['\n'] ++ palette.hintLine advice ++ ['\n'] := by
  have hassoc (word lead reason hint : Text) :
      word ++ [' '] ++ (lead ++ reason) ++ ['\n'] ++ hint =
        word ++ (' ' :: lead) ++ reason ++ '\n' :: hint := by
    simp only [List.append_assoc, List.cons_append, List.nil_append]
  exact hassoc _ "invalid friendly name: ".toList _ _

/-- The building of a name tells of it, whatever the command is that asks for it. -/
theorem tellsOfName_of_perform (h : surroundings.Reach invocation config) {request : Request}
    (answer : Answer) (named : Text → Log.Event)
    (hanswer : answer? invocation.command = some answer)
    (hperform : perform (invocation.format config) invocation.command =
      naming answer named fun result ↦ single (invocation.format config) result
        (request.inputs ++ [("friendly_name".toList, result)]))
    (hrecord : ∀ name, (named name).record = request.built name)
    (hbuilt : ∀ name, answer = .built name → Dns.IsNameText request.identifier ∧
      request.identifier ≠ [] ∧ name = Name.capped request.identifier request.suffix)
    (hsuffix : request.suffix.length ≤ 9) :
    TellsOfName surroundings invocation config request
      ((perform (invocation.format config) invocation.command).events.map Log.Event.record)
      ((perform (invocation.format config) invocation.command).failure?.elim []
        (Failure.explanation surroundings.palette)) := by
  have hshows := shows_of_naming h answer named hperform
  cases answer with
  | built name =>
    obtain ⟨hidentifier, hne, rfl⟩ := hbuilt name rfl
    have hcapped := isCapped_within hidentifier hne hsuffix
    rw [hperform]
    simp only [naming, List.map_append, records_cutEvents hidentifier hne hsuffix, List.map_cons,
      List.map_nil, hrecord]
    refine .built hcapped.initial (fun hcut ↦ ?_) hshows
    have hfull := hcapped.full hcut
    have hlong := mt hcapped.uncut hcut
    rw [byteLength_append_hyphen] at hfull hlong
    omega
  | rejected rejection =>
    obtain ⟨houtput, hfailure⟩ := perform_of_rejected hanswer (invocation.format config)
    have hrun := h.run_eq_of_failure hfailure
    rw [hfailure, Option.elim_some, explanation_rejected_eq, hperform]
    exact .refused hanswer (by rw [hrun]) (by rw [hrun, houtput]) rfl
  | fault =>
    obtain ⟨rejection, hrejection⟩ := exists_rejection hanswer (by simp)
    cases hrejection

/-- A command that asks for a name tells of it. -/
theorem tellsOfName (h : surroundings.Reach invocation config) {request : Request}
    (hrequest : request? invocation.command = some request) :
    TellsOfName surroundings invocation config request
      ((perform (invocation.format config) invocation.command).events.map Log.Event.record)
      ((perform (invocation.format config) invocation.command).failure?.elim []
        (Failure.explanation surroundings.palette)) := by
  cases hcommand : invocation.command with
  | nameImage tag hash =>
    rw [hcommand] at hrequest
    obtain rfl := Option.some.inj hrequest
    rw [← hcommand]
    refine tellsOfName_of_perform h (imageName tag hash) .imageNamed (by rw [hcommand]; rfl)
      (by rw [hcommand]; rfl) (fun _ ↦ rfl) (fun name hbuilt ↦ ?_) ?_
    · obtain ⟨-, hne, hname⟩ := imageName_eq_built_iff.mp hbuilt
      exact ⟨Sanitize.isNameText_sanitize tag, hne, hname⟩
    · have hlength := Text.length_rtake hash 6
      change (hash.rtake 6).length ≤ 9
      omega
  | nameInstance namespaceName kind name hash =>
    rw [hcommand] at hrequest
    obtain rfl := Option.some.inj hrequest
    rw [← hcommand]
    refine tellsOfName_of_perform h (instanceName name namespaceName kind hash) .instanceNamed
      (by rw [hcommand]; rfl) (by rw [hcommand]; rfl) (fun _ ↦ rfl) (fun name hbuilt ↦ ?_)
      (length_instanceFragments_le hash)
    obtain ⟨hname, -, hcapped⟩ := instanceName_eq_built_iff.mp hbuilt
    exact ⟨hname.isNameText, hname.ne_nil, hcapped⟩
  | sanitize raw =>
    rw [hcommand] at hrequest
    cases hrequest
  | check label names =>
    rw [hcommand] at hrequest
    cases hrequest

end Chronicle

open Chronicle

/-! ### The log as a whole -/

/-- A run whose filter admits every event has a line for each event of its story. -/
theorem errors_eq_of_open (h : surroundings.Reach invocation config) {filter : Log.Filter}
    (hfilter : surroundings.filter config = .ok filter)
    (hopen : ∀ event : Log.Event, filter.enables event.record = true) :
    (run surroundings).errors =
      (Log.Event.configured config.format ::
          (perform (invocation.format config) invocation.command).events).flatMap
        (surroundings.lineOf invocation) ++
      (perform (invocation.format config) invocation.command).failure?.elim []
        (Failure.explanation surroundings.palette) := by
  have htold : surroundings.told invocation config =
      events config (perform (invocation.format config) invocation.command) := by
    refine List.filter_eq_self.mpr fun event _ ↦ ?_
    rw [hfilter]
    exact hopen event
  rw [h.errors_eq_logged, surroundings.logged_eq_flatMap_told, htold, events]

/-- What a check of names tells is what it reports. -/
theorem records_check (format : Format) (label : Bool) (names : List Text) :
    (perform format (.check label names)).events.map Log.Event.record =
      (names.map (Record.ofName label)).map inspection := by
  change ((names.map (Finding.ofName (Record.ruleOf label))).map Finding.event).map
    Log.Event.record = _
  simp only [List.map_map]
  exact List.map_congr_left fun name _ ↦ record_checked label name

/-- A check of names fails with their count, and with nothing if all of them are valid. -/
theorem error_check (palette : Palette) (format : Format) (label : Bool) (names : List Text) :
    let invalid := (names.map (Record.ofName label)).countP fun record ↦ !record.valid
    (perform format (.check label names)).failure?.elim [] (Failure.explanation palette) =
      if invalid = 0 then []
      else palette.errorWord ++ [' '] ++ (Text.decimal invalid ++ " of ".toList ++
        Text.decimal names.length ++ " name(s) failed validation".toList) ++ ['\n'] := by
  intro invalid
  rw [failure?_check, ← explanation_invalidNames]
  change (if invalid = 0 then none else _).elim _ _ = _
  split
  · rfl
  · rfl

/-- The log tells the truth about the run. Under a filter that lets everything through it tells
first that the settings have been loaded, with the format that is in them, and then what the command
has done, in front of the error if there is one. A name that is asked for is told of with what is
printed: either with the reason for which it is refused, or with the name itself, behind its cut if
it has been cut (`Chronicle.TellsOfName`). A check tells of every name as it is reported, in the
same order. Sanitizing tells nothing more. Each event has a line of its own, from which it is known,
and behind the lines stands nothing but the error. -/
theorem log_tells_the_truth {surroundings : Surroundings} {invocation : Invocation}
    {config : Config} {filter : Log.Filter} (h : surroundings.Reach invocation config)
    (hfilter : surroundings.filter config = .ok filter)
    (hopen : ∀ event : Log.Event, filter.enables event.record = true) :
    ∃ (told : List Log.Event) (error : Text),
      invocation.IsGiven (surroundings.environment "FNAME_CONFIG".toList) surroundings.arguments ∧
      Log.FaithfulLines (surroundings.lineOf invocation) ∧
      (run surroundings).errors =
        (.configured config.format :: told).flatMap (surroundings.lineOf invocation) ++ error ∧
      (Log.Event.configured config.format).record = loading config.format ∧
      (∀ request, request? invocation.command = some request →
        TellsOfName surroundings invocation config request (told.map Log.Event.record) error) ∧
      (∀ raw, invocation.command = .sanitize raw → told = [] ∧ error = []) ∧
      ∀ label names, invocation.command = .check label names →
        let reported := names.map (Record.ofName label)
        let invalid := reported.countP fun record ↦ !record.valid
        told.map Log.Event.record = reported.map inspection ∧
        (error = if invalid = 0 then [] else
          surroundings.palette.errorWord ++ [' '] ++ (Text.decimal invalid ++ " of ".toList ++
            Text.decimal names.length ++ " name(s) failed validation".toList) ++ ['\n']) ∧
        ∃ document, (run surroundings).output = document ++ ['\n'] ∧
          match invocation.format config with
          | .table => document = (Grid.mk reportHeader (reported.map Record.row)).render ∧
              Grid.read? document =
                some ((reportHeader :: reported.map Record.row).map fun row ↦ row.map Grid.visible)
          | .json => Json.read? document = some (.array (reported.map Record.toJson)) := by
  refine ⟨_, _, h.isGiven, Log.faithfulLines_line _ _ _, errors_eq_of_open h hfilter hopen,
    record_configured config.format, fun request ↦ tellsOfName h, ?_, ?_⟩
  · intro raw hcommand
    rw [hcommand]
    exact ⟨rfl, rfl⟩
  · intro label names hcommand reported invalid
    rw [h.output_eq, hcommand]
    exact ⟨records_check _ label names, error_check _ _ label names,
      exists_report (invocation.format config) label names⟩

/-- A tag of 250 characters loses four of them, and the log tells so, before it tells the name that
is printed. -/
theorem log_tells_the_truth_of_cut_tag :
    let tag := List.replicate 250 'a'
    let kept := List.replicate 246 'a'
    let name := kept ++ "-123456".toList
    let outcome := run (.atHome ["image".toList, "--".toList, tag, "0123456".toList]
      [("FNAME_LOG".toList, "trace".toList)] "now".toList)
    outcome.output = name ++ ['\n'] ∧
      outcome.errors = [loading .table, truncation tag kept, imageBuilt name].flatMap fun record ↦
        record.line .words .coloured "now".toList := by
  intro tag kept name outcome
  have hfilter : (Surroundings.atHome ["image".toList, "--".toList, tag, "0123456".toList]
      [("FNAME_LOG".toList, "trace".toList)] "now".toList).filter .standard =
        .ok (.ofThreshold (some .trace)) :=
    Surroundings.filter_atHome_of_level _ _ _ _ (by decide) (by decide)
  have hreach : (Surroundings.atHome ["image".toList, "--".toList, tag, "0123456".toList]
      [("FNAME_LOG".toList, "trace".toList)] "now".toList).Reach
      ⟨none, none, false, .nameImage tag "0123456".toList⟩ .standard :=
    Surroundings.reach_of_written (by decide +kernel) (by decide) (fun _ ↦ rfl) (by decide +kernel)
      ⟨_, hfilter⟩ (by simp) (by simp)
  have houtput : outcome.output = name ++ ['\n'] := hreach.output_eq.trans (by decide +kernel)
  obtain ⟨told, error, -, -, herrors, hloading, htold, -⟩ :=
    log_tells_the_truth hreach hfilter fun event ↦ by cases event <;> rfl
  have hrecords : told.map Log.Event.record = [truncation tag kept, imageBuilt name] ∧
      error = [] := by
    generalize told.map Log.Event.record = records at htold
    cases htold _ rfl with
    | refused refuses exits silent => exact absurd (silent.symm.trans houtput) (by decide)
    | @built keptTag initial full shows =>
      -- what has been kept of the tag is read off the output
      obtain ⟨_, -, hprinted⟩ := shows.prints _ rfl
      have hname : keptTag ++ '-' :: "0123456".toList.rtake 6 = kept ++ "-123456".toList :=
        List.append_cancel_right (hprinted.symm.trans houtput)
      have hsuffix : '-' :: "0123456".toList.rtake 6 = "-123456".toList := by decide
      obtain rfl : keptTag = kept := by
        rw [hsuffix] at hname
        exact List.append_cancel_right hname
      exact ⟨by decide +kernel, rfl⟩
  obtain ⟨hrecords, rfl⟩ := hrecords
  refine ⟨houtput, ?_⟩
  have hall : (Log.Event.configured .table :: told).map Log.Event.record =
      [loading .table, truncation tag kept, imageBuilt name] := by
    rw [List.map_cons, hrecords]
    exact congrArg (· :: _) hloading
  rw [← hall, List.flatMap_map]
  exact herrors.trans (List.append_nil _)

end WorkloadNames.Program
