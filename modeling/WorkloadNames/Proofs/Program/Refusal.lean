import WorkloadNames.Proofs.Friendly.Rejection
import WorkloadNames.Proofs.Program.Completion

/-!
Runs that ask for a name which cannot be built. Such a run prints nothing and explains itself behind
its log: one line gives the reason, and an empty line and a hint follow where the hash or the
components of an instance have to be changed. Nothing but the reason goes into the explanation, so
it is the same for every format, every log and every file of the settings.
-/

set_option autoImplicit false
set_option relaxedAutoImplicit false

namespace WorkloadNames.Program

open CommandLine Friendly

/-- What comes of the name that a command asks for, if it asks for one. -/
def answer? : Command → Option Answer
  | .nameImage tag hash => some (imageName tag hash)
  | .nameInstance namespaceName kind name hash => some (instanceName name namespaceName kind hash)
  | .sanitize _ | .check _ _ => none

/-- What a reader is advised to do about a rejection, behind an empty line. -/
def advice : Rejection → Text
  | .emptyHash | .shortHash _ _ | .badHashCharacter _ =>
    "\nHint: ".toList ++ Failure.hashHint ++ ['\n']
  | .badInstanceName _ _ => "\nHint: ".toList ++ Failure.instanceHint ++ ['\n']
  | .emptyTag | .unusableTag _ => []

theorem advice_eq_nil_iff {rejection : Rejection} :
    advice rejection = [] ↔ rejection = .emptyTag ∨ ∃ tag, rejection = .unusableTag tag := by
  cases rejection with
  | emptyTag => exact ⟨fun _ ↦ Or.inl rfl, fun _ ↦ rfl⟩
  | unusableTag tag => exact ⟨fun _ ↦ Or.inr ⟨tag, rfl⟩, fun _ ↦ rfl⟩
  | _ =>
    refine iff_of_false ?_ (by simp)
    exact List.append_ne_nil_of_right_ne_nil _ (List.cons_ne_nil _ _)

/-- How a rejection is explained without colours. -/
theorem explanation_rejected (rejection : Rejection) :
    (Failure.rejected rejection).explanation .plain =
      "Error: invalid friendly name: ".toList ++ rejection.reason ++ ['\n'] ++ advice rejection := by
  have hline : Palette.plain.errorWord ++ [' '] ++ rejection.message =
      "Error: invalid friendly name: ".toList ++ rejection.reason := rfl
  have hadvice : ((Failure.rejected rejection).hint?.elim [] fun hint ↦
      ['\n'] ++ Palette.plain.hintLine hint ++ ['\n']) = advice rejection := by
    cases rejection <;> rfl
  unfold Failure.explanation
  rw [← hline, ← hadvice]
  rfl

/-- A name that is asked for is built or refused for a reason; no cut ever misses. -/
theorem exists_rejection {command : Command} {answer : Answer}
    (h : answer? command = some answer) (hfails : ∀ name, answer ≠ .built name) :
    ∃ rejection, answer = .rejected rejection := by
  cases answer with
  | built name => exact absurd rfl (hfails name)
  | rejected rejection => exact ⟨rejection, rfl⟩
  | fault =>
    cases command with
    | nameImage tag hash => exact absurd (Option.some.inj h) (imageName_ne_fault tag hash)
    | nameInstance namespaceName kind name hash =>
      exact absurd (Option.some.inj h) (instanceName_ne_fault name namespaceName kind hash)
    | sanitize raw => cases h
    | check label names => cases h

theorem perform_of_rejected {command : Command} {rejection : Rejection}
    (h : answer? command = some (.rejected rejection)) (format : Format) :
    (perform format command).output = [] ∧
      (perform format command).failure? = some (.rejected rejection) := by
  cases command with
  | nameImage tag hash =>
    have himage : imageName tag hash = .rejected rejection := Option.some.inj h
    simp only [perform, nameImage, himage, naming, and_self]
  | nameInstance namespaceName kind name hash =>
    have hinstance : instanceName name namespaceName kind hash = .rejected rejection :=
      Option.some.inj h
    simp only [perform, nameInstance, hinstance, naming, and_self]
  | sanitize raw => cases h
  | check label names => cases h

/-- A name that is asked for and cannot be built has been refused for a reason. Every run that gets
to the command, in whatever format, with whatever log and settings, then ends with one, prints
nothing, and without colours explains itself behind its log by this reason alone: in one line, with
a hint unless the reason is a tag that is empty or has no usable characters. -/
theorem refusal_explained {command : Command} {answer : Answer}
    (hanswer : answer? command = some answer) (hfails : ∀ name, answer ≠ .built name) :
    ∃ rejection, answer = .rejected rejection ∧
      (advice rejection = [] ↔ rejection = .emptyTag ∨ ∃ tag, rejection = .unusableTag tag) ∧
      ∀ {surroundings : Surroundings} {invocation : Invocation} {config : Config},
        surroundings.Reach invocation config → invocation.command = command →
        (run surroundings).exitCode = 1 ∧ (run surroundings).output = [] ∧
        (surroundings.palette = .plain →
          (run surroundings).errors = surroundings.logged invocation config ++
            ("Error: invalid friendly name: ".toList ++ rejection.reason ++ ['\n']
              ++ advice rejection)) := by
  obtain ⟨rejection, rfl⟩ := exists_rejection hanswer hfails
  refine ⟨rejection, rfl, advice_eq_nil_iff, ?_⟩
  rintro surroundings invocation config hreach rfl
  obtain ⟨houtput, hfailure⟩ := perform_of_rejected hanswer (invocation.format config)
  rw [hreach.run_eq_of_failure hfailure]
  refine ⟨rfl, houtput, fun hpalette ↦ ?_⟩
  rw [hpalette, explanation_rejected]

/-- A hash with its algorithm in front is refused with a hint, behind a log of two events as behind
none, whether results are to be printed as JSON or not. -/
theorem refusal_explained_of_prefixed_hash :
    let arguments := ["image", "--", "nginx", "sha256:abcdef"].map String.toList
    let quiet := run (.atHome arguments [] [])
    let told := run (.atHome ("--format=json".toList :: arguments)
      [("FNAME_LOG".toList, "debug".toList)] "now".toList)
    let events := [Log.Event.configured .table, .rejected (.badHashCharacter ':')]
    let explanation := "Error: invalid friendly name: ".toList ++ Rejection.reason
      (.badHashCharacter ':') ++ ['\n'] ++ ("\nHint: ".toList ++ Failure.hashHint ++ ['\n'])
    quiet.exitCode = 1 ∧ quiet.output = [] ∧ quiet.errors = explanation ∧
      told.exitCode = 1 ∧ told.output = [] ∧ told.errors =
        (events.flatMap fun event ↦ event.record.line .words .coloured "now".toList)
          ++ explanation := by
  intro arguments quiet told events explanation
  have hquiet : (Surroundings.atHome arguments [] []).Reach
      ⟨none, none, false, .nameImage "nginx".toList "sha256:abcdef".toList⟩ .standard :=
    Surroundings.reach_atHome (by decide +kernel) (by simp) (by simp)
  have hfilter : (Surroundings.atHome ("--format=json".toList :: arguments)
      [("FNAME_LOG".toList, "debug".toList)] "now".toList).filter .standard =
        .ok (.ofThreshold (some .debug)) :=
    Surroundings.filter_atHome_of_level _ _ _ _ (by decide) (by decide)
  have htold : (Surroundings.atHome ("--format=json".toList :: arguments)
      [("FNAME_LOG".toList, "debug".toList)] "now".toList).Reach
      ⟨some .json, none, false, .nameImage "nginx".toList "sha256:abcdef".toList⟩ .standard :=
    Surroundings.reach_of_written (by decide +kernel) (by decide) (fun _ ↦ rfl) (by decide +kernel)
      ⟨_, hfilter⟩ (by simp) (by simp)
  have hrejected : answer? (.nameImage "nginx".toList "sha256:abcdef".toList) =
      some (.rejected (.badHashCharacter ':')) := by decide +kernel
  obtain ⟨rejection, hrejection, -, hruns⟩ := refusal_explained hrejected (by simp)
  obtain rfl := Answer.rejected.inj hrejection
  obtain ⟨hexit, houtput, herrors⟩ := hruns hquiet rfl
  obtain ⟨hexit', houtput', herrors'⟩ := hruns htold rfl
  refine ⟨hexit, houtput, ?_, hexit', houtput', ?_⟩
  · have hnone : (Surroundings.atHome arguments [] []).told
        ⟨none, none, false, .nameImage "nginx".toList "sha256:abcdef".toList⟩ .standard = [] := by
      decide +kernel
    rw [herrors (by decide), Surroundings.logged_eq_flatMap_told, hnone]
    rfl
  · have hboth : (Surroundings.atHome ("--format=json".toList :: arguments)
        [("FNAME_LOG".toList, "debug".toList)] "now".toList).told
        ⟨some .json, none, false, .nameImage "nginx".toList "sha256:abcdef".toList⟩ .standard =
          events := by
      decide +kernel
    rw [herrors' (by decide), Surroundings.logged_eq_flatMap_told, hboth]
    rfl

end WorkloadNames.Program
