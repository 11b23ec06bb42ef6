import Mathlib.Data.Char
import Mathlib.Data.List.Induction
import Mathlib.Data.List.Lex
import Mathlib.Data.Prod.Lex
import WorkloadNames.Log.Filter

/-!
Which directive of a filter decides on an event. Directives are as narrow as their targets are long,
and those that ask for a value are narrower than those that do not (`Directive.narrowness`). Of the
directives that concern an event the narrowest decides, and of several the last (`Decides`);
scanning them from left to right finds it, and an event is told exactly if a directive decides on it
that admits its level (`enables_iff`).
-/

set_option autoImplicit false
set_option relaxedAutoImplicit false

namespace WorkloadNames.Log

/-! ### How narrow a directive is -/

/-- Texts, and lists of texts, are in the order of their first difference. -/
theorem cons_le_cons_iff {α : Type*} [LinearOrder α] {first second : α} {rest others : List α} :
    first :: rest ≤ second :: others ↔ first < second ∨ first = second ∧ rest ≤ others := by
  rw [le_iff_lt_or_eq, le_iff_lt_or_eq, List.cons_lt_cons_iff, List.cons.injEq]
  tauto

theorem precedes_iff {text other : Text} : precedes text other = true ↔ text ≤ other := by
  fun_induction precedes text other with
  | case1 other => exact iff_of_true rfl (not_lt.mp (List.not_lt_nil other))
  | case2 c rest => exact iff_of_false Bool.false_ne_true (not_le.mpr (List.nil_lt_cons c rest))
  | case3 c rest d others ih =>
    rw [Bool.or_eq_true, Bool.and_eq_true, ih, decide_eq_true_eq, beq_iff_eq, cons_le_cons_iff]
    exact Iff.rfl

namespace Directive

variable {directive other : Directive}

/-- The length of the target, and one more; nothing for a directive about every target. -/
def reach (directive : Directive) : Nat := directive.target?.elim 0 (·.length + 1)

/-- How narrow a directive is: the length of its target first, then the name of the value that it
asks for, if it does. -/
def narrowness (directive : Directive) : Nat ×ₗ List Text :=
  toLex (directive.reach, directive.field?.toList)

theorem isNarrower_iff :
    directive.isNarrower other = true ↔ other.narrowness ≤ directive.narrowness := by
  rw [narrowness, narrowness, Prod.Lex.toLex_le_toLex]
  change (if directive.reach ≠ other.reach then decide (other.reach < directive.reach) else _) =
    true ↔ _
  by_cases hreach : directive.reach = other.reach
  · rw [if_neg (not_not.mpr hreach), hreach]
    simp only [lt_self_iff_false, true_and, false_or]
    cases directive.field? with
    | none =>
      cases other.field? with
      | none => exact iff_of_true rfl le_rfl
      | some otherName =>
        exact iff_of_false Bool.false_ne_true (not_le.mpr (List.nil_lt_cons otherName []))
    | some name =>
      cases other.field? with
      | none => exact iff_of_true rfl (not_lt.mp (List.not_lt_nil [name]))
      | some otherName =>
        rw [precedes_iff, Option.toList_some, Option.toList_some, cons_le_cons_iff,
          le_iff_lt_or_eq]
        simp only [le_refl, and_true]
  · rw [if_pos hreach, decide_eq_true_eq]
    simp [Ne.symm hreach]

/-- A directive concerns an event if its target begins that of the event and the event has the value
that it asks for; a message every event has. -/
theorem concerns_iff {record : Record} :
    directive.concerns record = true ↔
      (∀ target ∈ directive.target?, target <+: record.target) ∧
        ∀ name ∈ directive.field?,
          name = "message".toList ∨ ∃ field ∈ record.fields, field.1 = name := by
  unfold concerns
  rw [Bool.and_eq_true, Option.all_eq_true, Option.all_eq_true]
  simp only [List.isPrefixOf_iff_prefix, Bool.or_eq_true, decide_eq_true_eq, List.any_eq_true,
    Option.mem_def]

end Directive

/-! ### The directive that decides -/

variable {directives : List Directive} {directive other : Directive} {record : Record}

/-- A directive decides on an event: it concerns it, no directive in front of it that concerns it is
narrower, and every directive behind it that concerns it is less narrow. -/
def Decides (directives : List Directive) (record : Record) (directive : Directive) : Prop :=
  ∃ before after, directives = before ++ directive :: after ∧ directive.concerns record = true ∧
    (∀ earlier ∈ before, earlier.concerns record = true →
      earlier.narrowness ≤ directive.narrowness) ∧
    ∀ later ∈ after, later.concerns record = true → later.narrowness < directive.narrowness

namespace Decides

theorem concerns (h : Decides directives record directive) : directive.concerns record = true := by
  obtain ⟨-, -, -, hconcerns, -, -⟩ := h
  exact hconcerns

/-- Of all directives that concern an event the one that decides is the narrowest. -/
theorem narrowness_le (h : Decides directives record directive) (hother : other ∈ directives)
    (hconcerns : other.concerns record = true) : other.narrowness ≤ directive.narrowness := by
  obtain ⟨before, after, rfl, -, hbefore, hafter⟩ := h
  rcases List.mem_append.mp hother with hmem | hmem
  · exact hbefore other hmem hconcerns
  · rcases List.mem_cons.mp hmem with rfl | hmem
    · exact le_rfl
    · exact (hafter other hmem hconcerns).le

/-- A longer target wins, whatever else the directives ask for. -/
theorem reach_le (h : Decides directives record directive) (hother : other ∈ directives)
    (hconcerns : other.concerns record = true) : other.reach ≤ directive.reach := by
  rcases Prod.Lex.toLex_le_toLex.mp (h.narrowness_le hother hconcerns) with hlt | ⟨heq, -⟩
  · exact hlt.le
  · exact heq.le

/-- One more directive changes nothing if it does not concern the event or is less narrow. -/
theorem concat (h : Decides directives record directive)
    (hother : other.concerns record = true → other.narrowness < directive.narrowness) :
    Decides (directives ++ [other]) record directive := by
  obtain ⟨before, after, rfl, hconcerns, hbefore, hafter⟩ := h
  refine ⟨before, after ++ [other], by rw [List.append_assoc, List.cons_append], hconcerns, hbefore,
    fun later hlater ↦ ?_⟩
  rcases List.mem_append.mp hlater with hmem | hmem
  · exact hafter later hmem
  · obtain rfl := List.mem_singleton.mp hmem
    exact hother

/-- A directive decides behind directives that concern the event only if they are no narrower. -/
theorem last (hconcerns : directive.concerns record = true)
    (hbefore : ∀ earlier ∈ directives, earlier.concerns record = true →
      earlier.narrowness ≤ directive.narrowness) :
    Decides (directives ++ [directive]) record directive :=
  ⟨directives, [], rfl, hconcerns, hbefore, fun _ hlater ↦ absurd hlater List.not_mem_nil⟩

/-- Only one directive decides. -/
theorem unique (h : Decides directives record directive) (h' : Decides directives record other) :
    directive = other := by
  obtain ⟨before, after, rfl, hconcerns, hbefore, hafter⟩ := h
  obtain ⟨before', after', hsplit, hconcerns', hbefore', hafter'⟩ := h'
  rcases List.append_eq_append_iff.mp hsplit with ⟨between, rfl, hrest⟩ | ⟨between, rfl, hrest⟩
  · cases between with
    | nil => exact (List.cons.inj hrest).1
    | cons first between =>
      obtain ⟨rfl, rfl⟩ := List.cons.inj hrest
      -- the other directive stands behind this one, so it is less narrow and no less narrow
      exact absurd (hafter other (by simp) hconcerns')
        (not_lt.mpr (hbefore' directive (by simp) hconcerns))
  · cases between with
    | nil => exact (List.cons.inj hrest).1.symm
    | cons first between =>
      obtain ⟨rfl, rfl⟩ := List.cons.inj hrest
      exact absurd (hafter' directive (by simp) hconcerns)
        (not_lt.mpr (hbefore other (by simp) hconcerns'))

end Decides

namespace Filter

/-- How one more directive changes which of them decides. -/
theorem deciding?_concat (directives : List Directive) (directive : Directive) (record : Record) :
    deciding? ⟨directives ++ [directive]⟩ record =
      if directive.concerns record then
        match deciding? ⟨directives⟩ record with
        | none => some directive
        | some best => if directive.isNarrower best then some directive else some best
      else deciding? ⟨directives⟩ record := by
  unfold deciding?
  rw [List.filter_append, List.foldl_append, List.filter_singleton]
  cases directive.concerns record <;> rfl

/-- Scanning the directives from left to right finds none exactly if none concerns the event, and
else the one that decides. -/
theorem deciding?_spec (directives : List Directive) (record : Record) :
    match deciding? ⟨directives⟩ record with
    | none => ∀ directive ∈ directives, directive.concerns record = false
    | some directive => Decides directives record directive := by
  induction directives using List.reverseRecOn with
  | nil => exact fun directive hdirective ↦ absurd hdirective List.not_mem_nil
  | append_singleton directives directive ih =>
    rw [deciding?_concat]
    cases hconcerns : directive.concerns record with
    | false =>
      cases hbest : deciding? ⟨directives⟩ record with
      | none =>
        rw [hbest] at ih
        simpa [or_imp, forall_and, hconcerns] using ih
      | some best =>
        rw [hbest] at ih
        exact ih.concat fun h ↦ absurd (hconcerns.symm.trans h) Bool.false_ne_true
    | true =>
      cases hbest : deciding? ⟨directives⟩ record with
      | none =>
        rw [hbest] at ih
        exact .last hconcerns fun earlier hearlier h ↦
          absurd ((ih earlier hearlier).symm.trans h) Bool.false_ne_true
      | some best =>
        rw [hbest] at ih
        by_cases hnarrower : directive.isNarrower best = true
        · simp only [if_true, hnarrower]
          exact .last hconcerns fun earlier hearlier h ↦
            (ih.narrowness_le hearlier h).trans (Directive.isNarrower_iff.mp hnarrower)
        · simp only [if_true, hnarrower]
          exact ih.concat fun _ ↦ not_le.mp (mt Directive.isNarrower_iff.mpr hnarrower)

/-- A filter admits an event: a directive decides on it that admits its level. -/
def Admits (filter : Filter) (record : Record) : Prop :=
  ∃ directive, Decides filter.directives record directive ∧
    directive.threshold.admits record.level = true

/-- An event is told exactly if a directive decides on it that admits its level. -/
theorem enables_iff {filter : Filter} {record : Record} :
    filter.enables record = true ↔ filter.Admits record := by
  have hspec := deciding?_spec filter.directives record
  change (filter.deciding? record).any _ = true ↔ _
  cases hfound : filter.deciding? record with
  | none =>
    rw [show deciding? ⟨filter.directives⟩ record = none from hfound] at hspec
    refine iff_of_false Bool.false_ne_true ?_
    rintro ⟨directive, ⟨before, after, hsplit, hconcerns, -⟩, -⟩
    have hmem : directive ∈ filter.directives := by simp [hsplit]
    exact absurd ((hspec directive hmem).symm.trans hconcerns) Bool.false_ne_true
  | some directive =>
    rw [show deciding? ⟨filter.directives⟩ record = some directive from hfound] at hspec
    constructor
    · intro hadmits
      exact ⟨directive, hspec, hadmits⟩
    · rintro ⟨other, hother, hadmits⟩
      rw [hspec.unique hother]
      exact hadmits

instance (filter : Filter) : DecidablePred filter.Admits :=
  fun _ ↦ decidable_of_iff _ enables_iff

end Filter

end WorkloadNames.Log
