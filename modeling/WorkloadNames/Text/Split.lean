import WorkloadNames.Text.Basic

/-!
Splitting a text at every occurrence of one character. There is always one piece more than there are
separators, and joining the pieces by the separator gives the text back.
-/

set_option autoImplicit false
set_option relaxedAutoImplicit false

namespace WorkloadNames.Text

/-- The pieces between the occurrences of a separator. -/
def pieces (separator : Char) : Text → List Text
  | [] => [[]]
  | c :: rest =>
    if c = separator then [] :: pieces separator rest
    else
      match pieces separator rest with
      | [] => [[c]]
      | piece :: more => (c :: piece) :: more

/-- The library's splitting of a list has the same pieces. -/
theorem pieces_eq_splitOn (separator : Char) (text : Text) :
    pieces separator text = text.splitOn separator := by
  induction text with
  | nil => rfl
  | cons c rest ih =>
    simp only [pieces, List.splitOn_cons_eq_if_modifyHead, ih, beq_iff_eq]
    split
    · rfl
    · cases h : List.splitOn separator rest with
      | nil => exact absurd h (List.splitOn_ne_nil separator rest)
      | cons piece more => rfl

theorem pieces_ne_nil (separator : Char) (text : Text) : pieces separator text ≠ [] := by
  rw [pieces_eq_splitOn]
  exact List.splitOn_ne_nil separator text

theorem intercalate_pieces (separator : Char) (text : Text) :
    [separator].intercalate (pieces separator text) = text := by
  rw [pieces_eq_splitOn, List.intercalate_splitOn]

theorem separator_notMem_of_mem_pieces {separator : Char} {text piece : Text}
    (h : piece ∈ pieces separator text) : separator ∉ piece := by
  fun_induction pieces separator text generalizing piece with
  | case1 =>
    obtain rfl := List.mem_singleton.mp h
    exact List.not_mem_nil
  | case2 rest ih =>
    rcases List.mem_cons.mp h with rfl | hrest
    · exact List.not_mem_nil
    · exact ih hrest
  | case3 c rest hc hnil ih => exact absurd hnil (pieces_ne_nil separator rest)
  | case4 c rest hc first more hpieces ih =>
    rw [hpieces] at ih
    rcases List.mem_cons.mp h with rfl | hmore
    · exact List.not_mem_cons_of_ne_of_not_mem (Ne.symm hc) (ih List.mem_cons_self)
    · exact ih (List.mem_cons_of_mem first hmore)

end WorkloadNames.Text
