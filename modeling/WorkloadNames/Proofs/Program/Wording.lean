import WorkloadNames.Proofs.Friendly.Wording
import WorkloadNames.Proofs.Program.Check
import WorkloadNames.Proofs.Program.Refusal

/-!
What a reader can tell from what a run prints about its errors. The line about a rejected name and
the problem of a checked name are texts from which the error can be read back with all that is in
it, whatever quotes and words the names hold (`wording_determines_error`). A hint behind the line
changes nothing about that: the kind of the rejection alone decides whether there is one.
-/

set_option autoImplicit false
set_option relaxedAutoImplicit false

namespace WorkloadNames.Program

open CommandLine Friendly

variable {rejection rejection' : Rejection} {palette palette' : Palette}

/-! ### Explanations -/

/-- There is a hint for some kinds of rejections, and for each of them always the same. -/
theorem hint?_eq_of_sameKind (h : rejection.SameKind rejection') :
    (Failure.rejected rejection).hint? = (Failure.rejected rejection').hint? := by
  cases h <;> rfl

/-- Explanations in different palettes differ in their first characters. -/
theorem palette_eq_of_errorWord_append_eq {rest rest' : Text}
    (h : palette.errorWord ++ rest = palette'.errorWord ++ rest') : palette = palette' := by
  have hhead (palette : Palette) (rest : Text) :
      (palette.errorWord ++ rest).head? = palette.errorWord.head? := by
    cases palette <;> rfl
  have hheads := congrArg List.head? h
  rw [hhead, hhead] at hheads
  cases palette with
  | plain =>
    cases palette' with
    | plain => rfl
    | coloured => exact absurd hheads (by decide)
  | coloured =>
    cases palette' with
    | plain => exact absurd hheads (by decide)
    | coloured => rfl

/-- The explanation of a rejection determines it, and the palette. -/
theorem eq_of_explanation_rejected_eq
    (h : (Failure.rejected rejection).explanation palette =
      (Failure.rejected rejection').explanation palette') :
    palette = palette' ∧ rejection = rejection' := by
  have hassoc (word lead reason hint : Text) :
      word ++ [' '] ++ (lead ++ reason) ++ ['\n'] ++ hint =
        word ++ ' ' :: (lead ++ (reason ++ '\n' :: hint)) := by
    simp only [List.append_assoc, List.cons_append, List.nil_append]
  have hboth := (hassoc _ _ _ _).symm.trans (h.trans (hassoc _ _ _ _))
  obtain rfl := palette_eq_of_errorWord_append_eq hboth
  refine ⟨rfl, ?_⟩
  have hreasons := List.append_cancel_left (List.cons.inj (List.append_cancel_left hboth)).2
  have hopening := (Rejection.opening_eq_of_reason_append_eq hreasons).1
  rw [hint?_eq_of_sameKind (Rejection.sameKind_of_opening_eq hopening)] at hreasons
  exact Rejection.reason_injective (List.append_cancel_right hreasons)

/-- Runs that refuse a name behind the same log explain themselves in the same way only if they
refuse it for the same reason. -/
theorem rejection_eq_of_errors_eq {surroundings surroundings' : Surroundings}
    {invocation invocation' : Invocation} {config config' : Config}
    (h : surroundings.Reach invocation config) (h' : surroundings'.Reach invocation' config')
    (hanswer : answer? invocation.command = some (.rejected rejection))
    (hanswer' : answer? invocation'.command = some (.rejected rejection'))
    (hlogged : surroundings.logged invocation config = surroundings'.logged invocation' config')
    (herrors : (run surroundings).errors = (run surroundings').errors) :
    rejection = rejection' := by
  rw [h.run_eq_of_failure (perform_of_rejected hanswer _).2,
    h'.run_eq_of_failure (perform_of_rejected hanswer' _).2] at herrors
  simp only [hlogged] at herrors
  exact (eq_of_explanation_rejected_eq (List.append_cancel_left herrors)).2

/-! ### Problems -/

/-- The problem of a finding tells all that is wrong with its name. -/
theorem violation?_eq_of_problem_eq {finding finding' : Finding}
    (h : finding.problem = finding'.problem) : finding.violation? = finding'.violation? := by
  unfold Finding.problem at h
  cases hfound : finding.violation? with
  | none =>
    cases hfound' : finding'.violation? with
    | none => rfl
    | some violation' =>
      rw [hfound, hfound'] at h
      exact absurd h.symm violation'.message_ne_nil
  | some violation =>
    cases hfound' : finding'.violation? with
    | none =>
      rw [hfound, hfound'] at h
      exact absurd h violation.message_ne_nil
    | some violation' =>
      rw [hfound, hfound'] at h
      exact congrArg some (Dns.Violation.message_injective h)

/-! ### What errors are told by -/

/-- Printed errors are unambiguous. No two violations have the same message and no two rejections
the same reason, whatever texts, characters and numbers they hold. The line about a rejection
determines it, and so does the whole explanation that a run leaves behind its log; the problem of a
checked name determines the violation that was found, or that there is none. -/
theorem wording_determines_error :
    Function.Injective Dns.Violation.message ∧ Function.Injective Rejection.reason ∧
    (∀ palette : Palette, Function.Injective fun rejection : Rejection ↦
      palette.errorWord ++ ' ' :: (rejection.message ++ ['\n'])) ∧
    (∀ {surroundings surroundings' : Surroundings} {invocation invocation' : Invocation}
      {config config' : Config} {rejection rejection' : Rejection},
      surroundings.Reach invocation config → surroundings'.Reach invocation' config' →
      answer? invocation.command = some (.rejected rejection) →
      answer? invocation'.command = some (.rejected rejection') →
      surroundings.logged invocation config = surroundings'.logged invocation' config' →
      (run surroundings).errors = (run surroundings').errors → rejection = rejection') ∧
    ∀ {finding finding' : Finding}, finding.problem = finding'.problem →
      finding.violation? = finding'.violation? := by
  refine ⟨Dns.Violation.message_injective, Rejection.reason_injective, ?_,
    rejection_eq_of_errors_eq, violation?_eq_of_problem_eq⟩
  intro palette rejection rejection' h
  have hmessage := List.append_cancel_right (List.cons.inj (List.append_cancel_left h)).2
  exact Rejection.reason_injective (List.append_cancel_left hmessage)

/-- The name of an instance imitates the message about another, which is told apart from it all the
same. Different names under different rules may have the same problem, and then have the same
violation. -/
theorem wording_determines_error_of_imitation :
    let arguments (name : Text) :=
      ["instance".toList, "--namespace=x".toList, "--kind=y".toList, "--name=".toList ++ name,
        "--".toList, "0123abcd".toList]
    let imitation := "a'' is not a valid DNS subdomain: invalid character ''' at position 5".toList
    let outcome (name : Text) := run (.atHome (arguments name) [] [])
    (outcome "a'".toList).errors ≠ (outcome imitation).errors ∧
      (Rejection.reason (.badInstanceName "x-y-a'".toList (.badCharacter '\'' 5))).isPrefixOf
        (Rejection.reason
          (.badInstanceName ("x-y-".toList ++ imitation) (.badCharacter '\'' 5))) = true ∧
      Dns.Rule.label.violation? "-a.b".toList = Dns.Rule.subdomain.violation? "-c".toList := by
  intro arguments imitation outcome
  have hreach (name : Text) : (Surroundings.atHome (arguments name) [] []).Reach
      ⟨none, none, false, .nameInstance "x".toList "y".toList name "0123abcd".toList⟩ .standard :=
    Surroundings.reach_atHome rfl (by simp) (by simp)
  have hplain : answer? (.nameInstance "x".toList "y".toList "a'".toList "0123abcd".toList) =
      some (.rejected (.badInstanceName "x-y-a'".toList (.badCharacter '\'' 5))) := by
    decide +kernel
  have himitation : answer? (.nameInstance "x".toList "y".toList imitation "0123abcd".toList) =
      some (.rejected (.badInstanceName ("x-y-".toList ++ imitation) (.badCharacter '\'' 5))) := by
    decide +kernel
  obtain ⟨-, -, -, hruns, hproblems⟩ := wording_determines_error
  refine ⟨fun herrors ↦ ?_, by decide +kernel, ?_⟩
  · have hsame := hruns (hreach "a'".toList) (hreach imitation) hplain himitation
      (by decide +kernel) herrors
    exact absurd hsame (by decide +kernel)
  · exact @hproblems (.ofName .label "-a.b".toList) (.ofName .subdomain "-c".toList)
      (by decide +kernel)

end WorkloadNames.Program
