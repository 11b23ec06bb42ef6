import Mathlib.Data.List.Infix
import WorkloadNames.Proofs.Sanitize.Scan

/-!
Sanitizing as a reader of the rules would do it by hand. What is left of a raw text between its
leading and trailing characters outside the alphabet is read once from left to right, and this is
all that `sanitize` does. No scheme marker reaches over a character of the alphabet, so each run of
other characters between two of them is rewritten by itself: it becomes as many hyphens as it has
characters, less two for every marker in it.
-/

set_option autoImplicit false
set_option relaxedAutoImplicit false

namespace WorkloadNames.Sanitize

open Dns

variable {raw core run : Text} {a b : Char}

/-! ### What is dropped at the ends -/

/-- What is left of a text without the characters outside the alphabet at its ends: nothing else is
dropped, and no such character is left to be dropped. -/
structure IsCore (raw core : Text) : Prop where
  dropped : ∃ front back, raw = front ++ core ++ back ∧ ∀ c ∈ front ++ back, isNameChar c = false
  head : ∀ c ∈ core.head?, isNameChar c = true
  last : ∀ c ∈ core.getLast?, isNameChar c = true

theorem isCore_trim (raw : Text) : IsCore raw (trim raw) where
  dropped := by
    refine ⟨raw.takeWhile fun c ↦ !isNameChar c,
      (raw.dropWhile fun c ↦ !isNameChar c).rtakeWhile fun c ↦ !isNameChar c, ?_, ?_⟩
    · rw [trim_eq_rdropWhile, List.append_assoc, List.rdropWhile_append_rtakeWhile,
        List.takeWhile_append_dropWhile]
    · intro c hc
      rcases List.mem_append.mp hc with hc | hc
      · simpa using List.mem_takeWhile_imp hc
      · simpa using List.mem_rtakeWhile_imp hc
  head := by
    intro c hc
    rw [head?_trim] at hc
    exact List.find?_some hc
  last := by
    intro c hc
    have hne : trim raw ≠ [] := by
      intro hnil
      simp [hnil] at hc
    rw [List.getLast?_eq_getLast_of_ne_nil hne] at hc
    obtain rfl := Option.some.inj hc
    have hlast := List.rdropWhile_last_not (fun c ↦ !isNameChar c) _ hne
    rw [Bool.not_eq_true, Bool.not_eq_false'] at hlast
    exact hlast

/-- Dropping from the left stops at a character of the alphabet, whatever stands behind it. -/
theorem exists_dropWhile_eq (ha : isNameChar a = true) (left : Text) :
    ∃ kept, ∀ rest, (left ++ a :: rest).dropWhile (fun c ↦ !isNameChar c) = kept ++ a :: rest := by
  refine ⟨left.dropWhile fun c ↦ !isNameChar c, fun rest ↦ ?_⟩
  rw [List.dropWhile_append]
  split
  · rename_i hempty
    rw [List.isEmpty_iff.mp hempty, List.dropWhile_cons_of_neg (by simp [ha]), List.nil_append]
  · rfl

/-- Dropping from the right stops at a character of the alphabet, whatever stands before it. -/
theorem exists_rdropWhile_eq (hb : isNameChar b = true) (right : Text) :
    ∃ kept, ∀ front,
      (front ++ b :: right).rdropWhile (fun c ↦ !isNameChar c) = front ++ b :: kept := by
  obtain ⟨kept, hkept⟩ := exists_dropWhile_eq hb right.reverse
  refine ⟨kept.reverse, fun front ↦ ?_⟩
  have hfront := congrArg List.reverse (hkept front.reverse)
  simpa [List.rdropWhile] using hfront

/-- There is only one such part of a text. -/
theorem IsCore.eq_trim (h : IsCore raw core) : core = trim raw := by
  obtain ⟨front, back, rfl, hdropped⟩ := h.dropped
  have hfront : ∀ c ∈ front, (!isNameChar c) = true := fun c hc ↦ by
    simp [hdropped c (List.mem_append_left back hc)]
  have hback : ∀ c ∈ back.reverse, (!isNameChar c) = true := fun c hc ↦ by
    simp [hdropped c (List.mem_append_right front (List.mem_reverse.mp hc))]
  rw [trim_eq_rdropWhile, List.append_assoc, List.dropWhile_append_of_pos hfront]
  cases core with
  | nil =>
    rw [List.nil_append, eq_comm, List.rdropWhile_eq_nil_iff]
    intro c hc
    exact hback c (List.mem_reverse.mpr ((List.dropWhile_sublist _).subset hc))
  | cons a rest =>
    rw [List.cons_append, List.dropWhile_cons_of_neg (by simp [h.head a rfl]), ← List.cons_append]
    unfold List.rdropWhile
    rw [List.reverse_append, List.dropWhile_append_of_pos hback]
    have hlast := h.last
    rw [← List.head?_reverse] at hlast
    cases hreverse : (a :: rest).reverse with
    | nil => simp at hreverse
    | cons z before =>
      rw [hreverse] at hlast
      rw [List.dropWhile_cons_of_neg (by simp [hlast z rfl]), ← hreverse, List.reverse_reverse]

/-! ### Runs -/

/-- The text that marks a scheme. -/
def marker : Text := "://".toList

/-- The number of scheme markers in a text, told by the places where one begins. -/
def markerCount (text : Text) : Nat := text.tails.countP fun tail ↦ marker.isPrefixOf tail

/-- A character of the alphabet parts the pass in two, since no marker reaches over it. -/
theorem scan_append_cons (ha : isNameChar a = true) (left rest : Text) :
    scan (left ++ a :: rest) = scan left ++ a :: scan rest := by
  fun_induction scan left with
  | case1 => exact scan_cons_of_isNameChar ha rest
  | case2 left ih => rw [List.cons_append, List.cons_append, List.cons_append, scan, ih]; rfl
  | case3 c left hmarker ih =>
    rw [List.cons_append, scan, ih]
    · rfl
    · -- a marker that begins in front of `a` also ends in front of it
      intro tail hcolon htail
      cases left with
      | nil =>
        obtain ⟨rfl, -⟩ := List.cons.inj htail
        exact absurd ha (by decide)
      | cons d left =>
        obtain ⟨hslash, htail⟩ := List.cons.inj htail
        cases left with
        | nil =>
          obtain ⟨rfl, -⟩ := List.cons.inj htail
          exact absurd ha (by decide)
        | cons e left =>
          obtain ⟨hslash', -⟩ := List.cons.inj htail
          exact hmarker left hcolon (by rw [hslash, hslash'])

theorem scan_concat (ha : isNameChar a = true) (left : Text) :
    scan (left ++ [a]) = scan left ++ [a] := by
  rw [scan_append_cons ha, scan]

theorem markerCount_cons_of_ne (hmarker : ∀ tail, a = ':' → run ≠ '/' :: '/' :: tail) :
    markerCount (a :: run) = markerCount run := by
  have hnone : marker.isPrefixOf (a :: run) = false := by
    rw [Bool.eq_false_iff, Ne, List.isPrefixOf_iff_prefix]
    rintro ⟨tail, htail⟩
    obtain ⟨hcolon, hrun⟩ := List.cons.inj htail
    exact hmarker tail hcolon.symm hrun.symm
  unfold markerCount
  rw [List.tails_cons, List.countP_cons_of_neg (by simp [hnone])]

theorem markerCount_marker (rest : Text) :
    markerCount (':' :: '/' :: '/' :: rest) = markerCount rest + 1 := by
  have hslashes : markerCount ('/' :: '/' :: rest) = markerCount rest := by
    rw [markerCount_cons_of_ne (by simp), markerCount_cons_of_ne (by simp)]
  rw [← hslashes]
  unfold markerCount
  rw [List.tails_cons, List.countP_cons_of_pos rfl]

/-- The pass writes a character for each that it reads, and two less for every marker. -/
theorem length_scan (text : Text) : (scan text).length + 2 * markerCount text = text.length := by
  fun_induction scan text with
  | case1 => rfl
  | case2 rest ih =>
    rw [markerCount_marker]
    simp only [List.length_cons]
    omega
  | case3 c rest hmarker ih =>
    rw [markerCount_cons_of_ne hmarker, List.length_cons, List.length_cons]
    omega

theorem eq_hyphen_of_mem_scan (h : ∀ c ∈ run, isNameChar c = false) :
    ∀ c ∈ scan run, c = '-' := by
  fun_induction scan run with
  | case1 => exact List.forall_mem_nil _
  | case2 rest ih => exact List.forall_mem_cons.mpr ⟨rfl, ih fun c hc ↦ h c (by simp [hc])⟩
  | case3 c rest hmarker ih =>
    have hhyphen : hyphenated c = '-' := by simp [hyphenated, h c List.mem_cons_self]
    exact List.forall_mem_cons.mpr ⟨hhyphen, ih fun d hd ↦ h d (List.mem_cons_of_mem c hd)⟩

/-- A run of characters outside the alphabet becomes a hyphen for each of them, and two less for
every marker. -/
theorem scan_eq_replicate (h : ∀ c ∈ run, isNameChar c = false) :
    ∃ hyphens, hyphens + 2 * markerCount run = run.length ∧
      scan run = List.replicate hyphens '-' :=
  ⟨(scan run).length, length_scan run, List.eq_replicate_of_mem (eq_hyphen_of_mem_scan h)⟩

/-- What stands before a run and what stands behind it are sanitized by themselves. -/
theorem sanitize_append_run (ha : isNameChar a = true) (hb : isNameChar b = true)
    (left run right : Text) :
    sanitize (left ++ a :: (run ++ b :: right)) =
      sanitize (left ++ [a]) ++ scan run ++ sanitize (b :: right) := by
  obtain ⟨before, hbefore⟩ := exists_dropWhile_eq ha left
  obtain ⟨behind, hbehind⟩ := exists_rdropWhile_eq hb right
  have hleft : sanitize (left ++ [a]) = scan before ++ [a] := by
    rw [sanitize_eq_scan_trim, trim_eq_rdropWhile, hbefore,
      List.rdropWhile_concat_neg _ _ _ (by simp [ha]), scan_concat ha]
  have hright : sanitize (b :: right) = b :: scan behind := by
    rw [sanitize_eq_scan_trim, trim_eq_rdropWhile, List.dropWhile_cons_of_neg (by simp [hb])]
    have hkept := hbehind []
    rw [List.nil_append, List.nil_append] at hkept
    rw [hkept, scan_cons_of_isNameChar hb]
  have hwhole : trim (left ++ a :: (run ++ b :: right)) =
      before ++ a :: (run ++ b :: behind) := by
    rw [trim_eq_rdropWhile, hbefore]
    simpa using hbehind (before ++ a :: run)
  rw [sanitize_eq_scan_trim, hwhole, scan_append_cons ha, scan_append_cons hb, hleft, hright]
  simp

/-- Sanitizing is one pass over what is left of a text without the characters outside the alphabet
at its ends. A run of such characters between two of the alphabet therefore becomes exactly as many
hyphens as it has characters, less two for each scheme marker in it, in front of what the rest of
the text becomes by itself. -/
theorem sanitize_eq_scan_and_runs (raw : Text) :
    (∃ core, IsCore raw core) ∧ (∀ core, IsCore raw core → sanitize raw = scan core) ∧
    ∀ left a run b right, raw = left ++ a :: (run ++ b :: right) →
      isNameChar a = true → isNameChar b = true → (∀ c ∈ run, isNameChar c = false) →
      ∃ hyphens, hyphens + 2 * markerCount run = run.length ∧
        sanitize raw = sanitize (left ++ [a]) ++ List.replicate hyphens '-'
          ++ sanitize (b :: right) := by
  refine ⟨⟨trim raw, isCore_trim raw⟩, ?_, ?_⟩
  · intro core hcore
    rw [hcore.eq_trim, sanitize_eq_scan_trim]
  · rintro left a run b right rfl ha hb hrun
    obtain ⟨hyphens, hlength, hscan⟩ := scan_eq_replicate hrun
    exact ⟨hyphens, hlength, by rw [sanitize_append_run ha hb, hscan]⟩

/-- A marker at an end is dropped with what is around it. Between the two letters stand two colons,
a marker, two slashes, a blank and a letter that is not of ASCII: seven hyphens. -/
theorem sanitize_eq_scan_and_runs_of_crowded_marker :
    IsCore "://é.a::://// éb-:".toList ".a::://// éb-".toList ∧
      sanitize "://é.a::://// éb-:".toList = scan ".a::://// éb-".toList ∧
      ∃ hyphens, hyphens + 2 * markerCount "::://// é".toList = "::://// é".toList.length ∧
        sanitize "://é.a::://// éb-:".toList =
          sanitize "://é.a".toList ++ List.replicate hyphens '-' ++ sanitize "b-:".toList ∧
        hyphens = 7 := by
  obtain ⟨-, hpass, hruns⟩ := sanitize_eq_scan_and_runs "://é.a::://// éb-:".toList
  have houtside (text : Text) (h : (text.all fun c ↦ !isNameChar c) = true) :
      ∀ c ∈ text, isNameChar c = false := by
    intro c hc
    simpa using List.all_eq_true.mp h c hc
  have hcore : IsCore "://é.a::://// éb-:".toList ".a::://// éb-".toList := by
    refine ⟨⟨"://é".toList, [':'], by decide +kernel, houtside _ (by decide +kernel)⟩, ?_, ?_⟩
    · rintro c ⟨rfl⟩
      decide
    · rintro c ⟨rfl⟩
      decide
  obtain ⟨hyphens, hlength, hrun⟩ := hruns "://é.".toList 'a' "::://// é".toList 'b' "-:".toList
    (by decide +kernel) (by decide) (by decide) (houtside _ (by decide +kernel))
  have hmarkers : markerCount "::://// é".toList = 1 := by decide +kernel
  refine ⟨hcore, hpass _ hcore, hyphens, hlength, hrun, ?_⟩
  rw [hmarkers] at hlength
  exact Nat.add_right_cancel hlength

end WorkloadNames.Sanitize
