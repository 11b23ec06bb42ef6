import Mathlib.Algebra.Order.Group.Int
import WorkloadNames.Text.Width

/-!
Laws of the columns that a line fills. Some characters take back columns of what stands behind them,
but never more than these have added (`Behind.owed`), so no line is narrower than nothing. A blank
fills one column, whatever stands behind it, and nothing in front of it is drawn together with
anything behind it. A line is therefore as wide as its parts at any of its blanks
(`displayWidth_append_blank`).
-/

set_option autoImplicit false
set_option relaxedAutoImplicit false

namespace WorkloadNames.Text

/-! ### Columns taken back -/

/-- The columns that a character in front may take back. -/
def Behind.owed : Behind → Int
  | .letter .tifinaghBehindJoiner _ | .letter .subscript _ | .joinedLetter | .joinedOdd => 1
  | _ => 0

theorem Behind.owed_nonneg (behind : Behind) : 0 ≤ behind.owed := by
  unfold Behind.owed
  split <;> decide

/-- Letters that are written below others fill a column of their own. -/
theorem one_le_charWidth_of_isSubscriptLetter {c : Char} (h : isSubscriptLetter c = true) :
    1 ≤ charWidth c := by
  have hrange : ∀ n < 48, isSubscriptLetter (Char.ofNat (0x1780 + n)) = true →
      1 ≤ charWidth (Char.ofNat (0x1780 + n)) := by
    decide +kernel
  have hbounds : 0x1780 ≤ c.toNat ∧ c.toNat ≤ 0x17af := by
    simp only [isSubscriptLetter, inRanges, List.any_cons, List.any_nil, Bool.or_eq_true,
      Bool.and_eq_true, decide_eq_true_eq, Bool.false_eq_true, or_false] at h
    omega
  have hc := hrange (c.toNat - 0x1780) (by omega)
  rw [Nat.add_sub_cancel' hbounds.1, Char.ofNat_toNat] at hc
  exact hc h

theorem Behind.owed_ite_le {condition : Prop} [Decidable condition] {first second : Behind}
    {columns : Int} (hfirst : condition → first.owed ≤ columns) (hsecond : second.owed ≤ columns) :
    (if condition then first else second).owed ≤ columns := by
  by_cases h : condition
  · rw [if_pos h]
    exact hfirst h
  · rw [if_neg h]
    exact hsecond

/-- Of the characters that belong to nothing behind them only the letters that are written below
others owe a column. -/
theorem Behind.owed_ofChar_le (c : Char) : (Behind.ofChar c).owed ≤ charWidth c := by
  have hwidth : (0 : Int) ≤ charWidth c := Int.natCast_nonneg _
  unfold Behind.ofChar
  iterate 3 refine owed_ite_le (fun _ ↦ hwidth) ?_
  refine owed_ite_le (fun h ↦ Int.ofNat_le.mpr (one_le_charWidth_of_isSubscriptLetter h)) ?_
  iterate 9 refine owed_ite_le (fun _ ↦ hwidth) ?_
  exact hwidth

/-- What belongs to a ligature takes back no more than is owed. -/
theorem Behind.owed_of_ligature? {last : LastLetter} {hasJoiner : Bool} {view : Behind} {c : Char}
    {columns : Int} (h : ligature? last hasJoiner c = some (columns, view)) :
    view.owed ≤ columns + (letter last hasJoiner).owed := by
  unfold ligature? at h
  cases last <;> grind [Behind.owed]

theorem Behind.owed_of_together? {behind view : Behind} {c : Char} {columns : Int}
    (h : behind.together? c = some (columns, view)) : view.owed ≤ columns + behind.owed := by
  unfold together? at h
  cases behind with
  | letter last hasJoiner => exact owed_of_ligature? h
  | _ => grind [Behind.owed]

theorem Behind.owed_unconcerned_le (behind : Behind) : behind.unconcerned.owed ≤ behind.owed := by
  unfold unconcerned
  split
  · exact le_rfl
  · exact behind.owed_nonneg

theorem Behind.owed_wishing_le (behind : Behind) (wish : Wish) :
    (behind.wishing wish).behind.owed ≤ behind.owed := by
  unfold wishing
  split
  · exact le_rfl
  · exact behind.owed_nonneg

theorem owed_measuredPlainly_le (c : Char) (behind : Behind) :
    (measuredPlainly c behind).2.behind.owed ≤ (measuredPlainly c behind).1 + behind.owed := by
  have howed := behind.owed_nonneg
  unfold measuredPlainly
  split
  · rw [zero_add]
    exact behind.owed_wishing_le (wishOf c)
  · split
    · rw [zero_add]
      exact howed
    · split
      · rename_i columns view htogether
        exact Behind.owed_of_together? htogether
      · exact (Behind.owed_ofChar_le c).trans (le_add_of_nonneg_right howed)

/-- A character leaves no more to be taken back than it adds to what has been owed. -/
theorem owed_measured_le (c : Char) (view : View) :
    (measured c view).2.behind.owed ≤ (measured c view).1 + view.behind.owed := by
  have howed := view.behind.owed_nonneg
  have hunconcerned := view.behind.owed_unconcerned_le
  have hplainly := owed_measuredPlainly_le c view.behind.unconcerned
  have hemoji : Behind.emoji.owed = 0 := rfl
  have hnothing : Behind.nothing.owed = 0 := rfl
  unfold measured
  split
  · exact owed_measuredPlainly_le c view.behind
  · split
    · rw [hemoji]
      split <;> omega
    · omega
  · split
    · rw [hnothing]
      omega
    · omega
  · split
    · rw [hnothing]
      omega
    · omega

/-! ### Lines -/

theorem widthAndView_cons (c : Char) (rest : Text) :
    widthAndView (c :: rest) =
      ((widthAndView rest).1 + (measured c (widthAndView rest).2).1,
        (measured c (widthAndView rest).2).2) :=
  rfl

/-- A line is wide enough for all that may be taken back of it. -/
theorem owed_widthAndView_le (line : Text) :
    (widthAndView line).2.behind.owed ≤ (widthAndView line).1 := by
  induction line with
  | nil => exact le_rfl
  | cons c rest ih =>
    have hstep := owed_measured_le c (widthAndView rest).2
    rw [widthAndView_cons]
    dsimp only
    omega

theorem natCast_displayWidth (line : Text) : (displayWidth line : Int) = (widthAndView line).1 :=
  Int.toNat_of_nonneg ((Behind.owed_nonneg _).trans (owed_widthAndView_le line))

/-! ### Blanks -/

theorem Behind.together?_blank (behind : Behind) : behind.together? ' ' = none := by
  cases behind with
  | letter last hasJoiner => cases last <;> cases hasJoiner <;> decide +kernel
  | tagLetters count =>
    simp [together?, show isTagLetter ' ' = false by decide, show isTagDigit ' ' = false by decide]
  | tagDigits count => simp [together?, show isTagDigit ' ' = false by decide]
  | _ => decide +kernel

theorem measuredPlainly_blank (behind : Behind) :
    measuredPlainly ' ' behind = (1, ⟨.nothing, .none⟩) := by
  have hwidth : charWidth ' ' = 1 := by decide +kernel
  have hbehind : Behind.ofChar ' ' = .nothing := by decide +kernel
  have hwish : wishOf ' ' = .none := by decide
  simp [measuredPlainly, hwish, Behind.together?_blank, hwidth, hbehind]

/-- A blank fills one column and parts what stands around it. -/
theorem measured_blank (view : View) : measured ' ' view = (1, ⟨.nothing, .none⟩) := by
  have hcoloured : canBeColoured ' ' = false := by decide +kernel
  have hmark : isQuotationMark ' ' = false := by decide
  unfold measured
  split
  · exact measuredPlainly_blank _
  · simp [hcoloured, measuredPlainly_blank]
  · simp [canBePlain, hcoloured, measuredPlainly_blank]
  · simp [hmark, measuredPlainly_blank]

theorem widthAndView_append_blank (line rest : Text) :
    widthAndView (line ++ ' ' :: rest) =
      ((widthAndView line).1 + 1 + (widthAndView rest).1, (widthAndView line).2) := by
  induction line with
  | nil =>
    rw [List.nil_append, widthAndView_cons, measured_blank, add_comm]
    rfl
  | cons c line ih =>
    rw [List.cons_append, widthAndView_cons, ih, widthAndView_cons]
    dsimp only
    congr 1
    omega

/-- A line is as wide as its parts at any of its blanks, together with the blank. -/
theorem displayWidth_append_blank (line rest : Text) :
    displayWidth (line ++ ' ' :: rest) = displayWidth line + 1 + displayWidth rest := by
  have hwhole := natCast_displayWidth (line ++ ' ' :: rest)
  have hline := natCast_displayWidth line
  have hrest := natCast_displayWidth rest
  rw [widthAndView_append_blank] at hwhole
  dsimp only at hwhole
  omega

theorem displayWidth_append_replicate (line : Text) (count : Nat) :
    displayWidth (line ++ List.replicate count ' ') = displayWidth line + count := by
  induction count generalizing line with
  | zero => simp
  | succ count ih =>
    have hblanks := ih []
    rw [List.nil_append] at hblanks
    rw [List.replicate_succ, displayWidth_append_blank, hblanks]
    have hnothing : displayWidth [] = 0 := rfl
    omega

end WorkloadNames.Text
