import Mathlib.Data.List.DropRight
import Mathlib.Data.List.Forall2
import WorkloadNames.Grid
import WorkloadNames.Proofs.Text.Columns

/-!
Reading a table back from its drawing. The first rule tells how wide the columns are, the rules part
the rows, and a cell ends at the first bar behind exactly as many columns as its own has: no bar
inside a cell stands there, since a line is wider than any part of it in front of a blank. What
cannot be told from a drawing are the blanks at the ends of lines and the empty lines at the bottom
of a cell (`visible`); everything else of a table is read back (`read?_render`).
-/

set_option autoImplicit false
set_option relaxedAutoImplicit false

namespace WorkloadNames.Grid

variable {width height index : Nat} {widths : List Nat} {line part cell rest : Text}
  {lines row : List Text}

/-! ### The reader -/

/-- The cell of some lines, without blanks at their ends and without empty lines at the bottom. -/
def trimmed (lines : List Text) : Text :=
  ['\n'].intercalate ((lines.map (List.rdropWhile (· == ' '))).rdropWhile List.isEmpty)

/-- What a drawing tells of a cell. -/
def visible (cell : Text) : Text := trimmed (cellLines cell)

/-- The widths of the columns under a rule. -/
def ruleWidths (rule : Text) : List Nat :=
  (Text.pieces '+' rule).tail.dropLast.map fun dashes ↦ dashes.length - 2

/-- What stands in front of the first blank and bar behind exactly some columns, with what has been
taken already, and what stands behind them. -/
def column? (width : Nat) (taken : Text) : Text → Option (Text × Text)
  | [] => none
  | c :: rest =>
    if c = ' ' ∧ rest.head? = some '|' ∧ Text.displayWidth taken = width then
      some (taken, rest.tail)
    else column? width (taken ++ [c]) rest

/-- The first column of what a line holds behind a bar, and what it holds behind the next. -/
def peel? (width : Nat) (line : Text) : Option (Text × Text) :=
  if line.head? = some ' ' then column? width [] line.tail else none

/-- The cells of a row, one column after the other, from what its lines hold behind a bar. -/
def cells? : List Nat → List Text → Option (List Text)
  | [], lines => if lines.all List.isEmpty then some [] else none
  | width :: widths, lines => do
    let parts ← lines.mapM (peel? width)
    let others ← cells? widths (parts.map Prod.snd)
    return trimmed (parts.map Prod.fst) :: others

/-- The cells of a row from its lines. -/
def row? (widths : List Nat) (lines : List Text) : Option (List Text) :=
  if lines.all (·.head? = some '|') then cells? widths (lines.map List.tail) else none

/-- The rows of a drawing, the one that heads the columns first. -/
def read? (drawing : Text) : Option (List (List Text)) :=
  match Text.pieces '\n' drawing with
  | [] => none
  | rule :: lines =>
    (lines.splitOnP (·.head? = some '+')).dropLast.mapM (row? (ruleWidths rule))

/-! ### Lines filled up -/

theorem displayWidth_padded (h : Text.displayWidth line ≤ width) :
    Text.displayWidth (padded width line) = width := by
  rw [padded, Text.displayWidth_append_replicate, Nat.add_sub_cancel' h]

/-- A filled line ends at the first bar behind as many columns as it fills. -/
theorem column?_append {taken : Text} (h : Text.displayWidth (taken ++ part) = width)
    (rest : Text) :
    column? width taken (part ++ ' ' :: '|' :: rest) = some (taken ++ part, rest) := by
  induction part generalizing taken with
  | nil =>
    rw [List.append_nil] at h
    simp [column?, h]
  | cons c part ih =>
    rw [List.append_cons] at h
    -- a line that ended at this blank would be narrower than the whole
    have hnarrower : ¬(c = ' ' ∧ (part ++ ' ' :: '|' :: rest).head? = some '|' ∧
        Text.displayWidth taken = width) := by
      rintro ⟨rfl, -, htaken⟩
      rw [List.append_assoc, List.singleton_append, Text.displayWidth_append_blank] at h
      omega
    rw [List.cons_append, column?, if_neg hnarrower, ih h, List.append_assoc, List.singleton_append]

/-- What is dropped at the end of a list is dropped also behind more of it. -/
theorem rdropWhile_append {α : Type} {p : α → Bool} {dropped : List α}
    (h : ∀ x ∈ dropped, p x = true) (kept : List α) :
    (kept ++ dropped).rdropWhile p = kept.rdropWhile p := by
  have hreverse : ∀ x ∈ dropped.reverse, p x = true := fun x hx ↦ h x (List.mem_reverse.mp hx)
  rw [List.rdropWhile, List.reverse_append, List.dropWhile_append_of_pos hreverse, List.rdropWhile]

theorem rdropWhile_padded (width : Nat) (line : Text) :
    (padded width line).rdropWhile (· == ' ') = line.rdropWhile (· == ' ') :=
  rdropWhile_append (by simp) line

/-- Cells that are filled up with blank lines are told as they are. -/
theorem trimmed_padded (h : (cellLines cell).length ≤ height) (width : Nat) :
    trimmed ((List.range height).map fun index ↦
      padded width ((cellLines cell)[index]?.getD [])) = visible cell := by
  have hlines : ((List.range height).map fun index ↦
      padded width ((cellLines cell)[index]?.getD [])).map (List.rdropWhile (· == ' ')) =
      (cellLines cell).map (List.rdropWhile (· == ' ')) ++
        List.replicate (height - (cellLines cell).length) [] := by
    refine List.ext_getElem (by simp; omega) fun index hindex _ ↦ ?_
    simp only [List.getElem_map, List.getElem_range, rdropWhile_padded]
    by_cases hinside : index < (cellLines cell).length
    · rw [List.getElem_append_left (by simpa using hinside), List.getElem?_eq_getElem hinside]
      simp
    · rw [List.getElem_append_right (by simpa using hinside),
        List.getElem?_eq_none (Nat.le_of_not_lt hinside)]
      simp
  rw [trimmed, hlines, rdropWhile_append (by simp), visible, trimmed]

/-- A drawing tells all of a cell of one line that does not end with a blank. -/
theorem visible_eq_self (hline : '\n' ∉ cell) (hlast : cell.getLast? ≠ some ' ') :
    visible cell = cell := by
  have hlines : cellLines cell = [cell] := by
    rw [cellLines, Text.pieces_eq_splitOn, List.splitOn_eq_singleton hline]
  have hkept : cell.rdropWhile (· == ' ') = cell := by
    rw [List.rdropWhile_eq_self_iff]
    intro hne hblank
    rw [List.getLast?_eq_getLast_of_ne_nil hne, beq_iff_eq.mp hblank] at hlast
    exact hlast rfl
  rw [visible, hlines, trimmed, List.map_singleton, hkept]
  cases cell with
  | nil => rfl
  | cons c rest => simp [List.rdropWhile]

/-! ### Rows -/

/-- A row fits under a rule: each line of a cell fits into its column. -/
def Fits (widths : List Nat) (row : List Text) : Prop :=
  List.Forall₂ (fun width cell ↦ ∀ line ∈ cellLines cell, Text.displayWidth line ≤ width) widths row

theorem mapM_eq_some_map {α β : Type} {f : α → Option β} {g : α → β} {values : List α}
    (h : ∀ value ∈ values, f value = some (g value)) : values.mapM f = some (values.map g) := by
  induction values with
  | nil => rfl
  | cons value values ih =>
    obtain ⟨hvalue, hvalues⟩ := List.forall_mem_cons.mp h
    rw [List.mapM_cons, hvalue, ih hvalues]
    rfl

/-- A line of a row behind its first bar. -/
def behindBar (widths : List Nat) (row : List Text) (index : Nat) : Text :=
  (rowLine widths row index).tail

theorem rowLine_eq_cons (widths : List Nat) (row : List Text) (index : Nat) :
    rowLine widths row index = '|' :: behindBar widths row index :=
  rfl

theorem behindBar_cons (width : Nat) (widths : List Nat) (cell : Text) (row : List Text)
    (index : Nat) :
    behindBar (width :: widths) (cell :: row) index =
      ' ' :: (padded width ((cellLines cell)[index]?.getD []) ++
        ' ' :: '|' :: behindBar widths row index) := by
  simp [behindBar, rowLine]

/-- The first column of a row is read back from each of its lines. -/
theorem peel?_behindBar (h : ∀ line ∈ cellLines cell, Text.displayWidth line ≤ width)
    (widths : List Nat) (row : List Text) (index : Nat) :
    peel? width (behindBar (width :: widths) (cell :: row) index) =
      some (padded width ((cellLines cell)[index]?.getD []), behindBar widths row index) := by
  have hline : Text.displayWidth ((cellLines cell)[index]?.getD []) ≤ width := by
    cases hfound : (cellLines cell)[index]? with
    | none => exact Nat.zero_le width
    | some line => exact h line (List.mem_of_getElem? hfound)
  have hwidth : Text.displayWidth ([] ++ padded width ((cellLines cell)[index]?.getD [])) = width :=
    displayWidth_padded hline
  rw [behindBar_cons, peel?, List.head?_cons, if_pos rfl, List.tail_cons, column?_append hwidth,
    List.nil_append]

/-- The cells of a row are read back from its lines, one column after the other. -/
theorem cells?_behindBar (hfits : Fits widths row)
    (hheight : ∀ cell ∈ row, (cellLines cell).length ≤ height) :
    cells? widths ((List.range height).map (behindBar widths row)) = some (row.map visible) := by
  induction hfits with
  | nil => simp [cells?, behindBar, rowLine]
  | @cons width cell widths row hcell _ ih =>
    obtain ⟨htall, hheight⟩ := List.forall_mem_cons.mp hheight
    have hparts : ((List.range height).map (behindBar (width :: widths) (cell :: row))).mapM
        (peel? width) = some ((List.range height).map fun index ↦
          (padded width ((cellLines cell)[index]?.getD []), behindBar widths row index)) := by
      rw [List.mapM_map]
      exact mapM_eq_some_map fun index _ ↦ peel?_behindBar hcell widths row index
    rw [cells?, hparts]
    simp only [Option.bind_eq_bind, Option.bind_some, List.map_map, Function.comp_def]
    rw [ih hheight, trimmed_padded htall]
    rfl

/-- A row is read back from the lines of its block. -/
theorem row?_lines (hfits : Fits widths row)
    (hheight : ∀ cell ∈ row, (cellLines cell).length ≤ height) :
    row? widths ((List.range height).map (rowLine widths row)) = some (row.map visible) := by
  have hbars : ((List.range height).map (rowLine widths row)).all (·.head? = some '|') = true := by
    simp [rowLine_eq_cons]
  rw [row?, if_pos hbars, List.map_map]
  exact cells?_behindBar hfits hheight

/-! ### Rules and widths -/

theorem ruleWidths_horizontalRule (widths : List Nat) :
    ruleWidths (horizontalRule widths) = widths := by
  have hdashes : Text.pieces '+' (widths.flatMap fun width ↦
      List.replicate (width + 2) '-' ++ ['+']) =
      (widths.map fun width ↦ List.replicate (width + 2) '-') ++ [[]] := by
    induction widths with
    | nil => rfl
    | cons width widths ih =>
      rw [Text.pieces_eq_splitOn] at ih ⊢
      rw [List.flatMap_cons, List.append_assoc, List.singleton_append, List.splitOn,
        List.splitOnP_append_cons _ _ (by simp), List.splitOnP_eq_singleton (by simp)]
      rw [List.splitOn] at ih
      rw [ih, List.map_cons, List.singleton_append, List.cons_append]
  have hrule : Text.pieces '+' (horizontalRule widths) = [] ::
      ((widths.map fun width ↦ List.replicate (width + 2) '-') ++ [[]]) := by
    rw [horizontalRule, Text.pieces, if_pos rfl, hdashes]
  rw [ruleWidths, hrule, List.tail_cons, List.dropLast_concat, List.map_map]
  simp [Function.comp_def]

theorem le_foldl_max {α : Type} (f : α → Nat) (values : List α) (start : Nat) :
    start ≤ values.foldl (fun most value ↦ max most (f value)) start ∧
      ∀ value ∈ values, f value ≤ values.foldl (fun most value ↦ max most (f value)) start := by
  induction values generalizing start with
  | nil => exact ⟨Nat.le_refl start, by simp⟩
  | cons value values ih =>
    obtain ⟨hstart, hvalues⟩ := ih (max start (f value))
    refine ⟨(Nat.le_max_left _ _).trans hstart, List.forall_mem_cons.mpr ⟨?_, hvalues⟩⟩
    exact (Nat.le_max_right _ _).trans hstart

theorem displayWidth_le_cellWidth (h : line ∈ cellLines cell) :
    Text.displayWidth line ≤ cellWidth cell :=
  (le_foldl_max Text.displayWidth (cellLines cell) 0).2 line h

theorem length_cellLines_le_rowHeight (h : cell ∈ row) :
    (cellLines cell).length ≤ rowHeight row :=
  (le_foldl_max (fun cell ↦ (cellLines cell).length) row 0).2 cell h

theorem forall₂_le_zipWith_max {first second : List Nat} (h : first.length = second.length) :
    List.Forall₂ (· ≤ ·) first (List.zipWith max first second) ∧
      List.Forall₂ (· ≤ ·) second (List.zipWith max first second) := by
  induction first generalizing second with
  | nil =>
    obtain rfl := List.length_eq_zero_iff.mp h.symm
    exact ⟨.nil, .nil⟩
  | cons a first ih =>
    cases second with
    | nil => cases h
    | cons b second =>
      obtain ⟨hfirst, hsecond⟩ := ih (Nat.succ.inj h)
      exact ⟨.cons (Nat.le_max_left a b) hfirst, .cons (Nat.le_max_right a b) hsecond⟩

theorem forall₂_le_trans {first second third : List Nat} (h : List.Forall₂ (· ≤ ·) first second)
    (h' : List.Forall₂ (· ≤ ·) second third) : List.Forall₂ (· ≤ ·) first third := by
  induction h generalizing third with
  | nil => exact h'
  | cons hle _ ih =>
    cases h' with
    | cons hle' hrest => exact .cons (Nat.le_trans hle hle') (ih hrest)

/-- The widths of some rows only grow, and every row has its share in them. -/
theorem le_foldl_zipWith_max {rows : List (List Text)}
    (h : ∀ row ∈ rows, row.length = widths.length) :
    let settled := rows.foldl (fun widths row ↦ List.zipWith max widths (row.map cellWidth)) widths
    List.Forall₂ (· ≤ ·) widths settled ∧
      ∀ row ∈ rows, List.Forall₂ (· ≤ ·) (row.map cellWidth) settled := by
  induction rows generalizing widths with
  | nil => exact ⟨List.forall₂_same.mpr fun width _ ↦ Nat.le_refl width, by simp⟩
  | cons row rows ih =>
    obtain ⟨hrow, hrows⟩ := List.forall_mem_cons.mp h
    have hlength : widths.length = (row.map cellWidth).length := by rw [List.length_map, hrow]
    obtain ⟨hwidths, hcells⟩ := forall₂_le_zipWith_max hlength
    obtain ⟨hgrown, hothers⟩ := @ih (List.zipWith max widths (row.map cellWidth)) (by
      intro other hother
      rw [List.length_zipWith, ← hlength, Nat.min_self, hrows other hother])
    refine ⟨forall₂_le_trans hwidths hgrown, List.forall_mem_cons.mpr ⟨?_, hothers⟩⟩
    exact forall₂_le_trans hcells hgrown

theorem fits_of_forall₂ (h : List.Forall₂ (· ≤ ·) (row.map cellWidth) widths) :
    Fits widths row := by
  rw [List.forall₂_map_left_iff] at h
  exact h.flip.imp fun width cell hcell line hline ↦
    (displayWidth_le_cellWidth hline).trans hcell

/-- All rows of a table fit under its rules. -/
theorem fits_columnWidths {grid : Grid} (h : ∀ row ∈ grid.rows, row.length = grid.header.length) :
    ∀ row ∈ grid.header :: grid.rows, Fits grid.columnWidths row := by
  obtain ⟨hheader, hrows⟩ := @le_foldl_zipWith_max (grid.header.map cellWidth) grid.rows
    (by simpa using h)
  exact List.forall_mem_cons.mpr ⟨fits_of_forall₂ hheader, fun row hrow ↦
    fits_of_forall₂ (hrows row hrow)⟩

/-! ### The drawing -/

theorem newline_notMem_horizontalRule (widths : List Nat) : '\n' ∉ horizontalRule widths := by
  simp [horizontalRule]

theorem newline_notMem_rowLine (widths : List Nat) (row : List Text) (index : Nat) :
    '\n' ∉ rowLine widths row index := by
  have hline (cell : Text) : '\n' ∉ (cellLines cell)[index]?.getD [] := by
    cases hfound : (cellLines cell)[index]? with
    | none => exact List.not_mem_nil
    | some line => exact Text.separator_notMem_of_mem_pieces (List.mem_of_getElem? hfound)
  simp [rowLine, padded, hline]

theorem newline_notMem_of_mem_lines {grid : Grid} (h : line ∈ grid.lines) : '\n' ∉ line := by
  rcases List.mem_cons.mp h with rfl | h
  · exact newline_notMem_horizontalRule _
  · obtain ⟨row, -, hblock⟩ := List.mem_flatMap.mp h
    rcases List.mem_append.mp hblock with hblock | hblock
    · obtain ⟨index, -, rfl⟩ := List.mem_map.mp hblock
      exact newline_notMem_rowLine _ row index
    · obtain rfl := List.mem_singleton.mp hblock
      exact newline_notMem_horizontalRule _

/-- The rules part the rows. -/
theorem splitOnP_rowBlocks (widths : List Nat) (rows : List (List Text)) :
    (rows.flatMap (rowBlock widths)).splitOnP (·.head? = some '+') =
      (rows.map fun row ↦ (List.range (rowHeight row)).map (rowLine widths row)) ++ [[]] := by
  induction rows with
  | nil => rfl
  | cons row rows ih =>
    have hlines : ∀ line ∈ (List.range (rowHeight row)).map (rowLine widths row),
        decide (line.head? = some '+') = false := by
      simp [rowLine_eq_cons]
    rw [List.flatMap_cons, rowBlock, List.append_assoc, List.singleton_append,
      List.splitOnP_append_cons _ _ (by rfl), List.splitOnP_eq_singleton hlines, ih]
    rfl

/-- A table whose rows are as long as its header is read back from its drawing, cell by cell, as far
as a drawing tells of them. -/
theorem read?_render {grid : Grid} (h : ∀ row ∈ grid.rows, row.length = grid.header.length) :
    read? grid.render = some ((grid.header :: grid.rows).map fun row ↦ row.map visible) := by
  have hpieces : Text.pieces '\n' grid.render = grid.lines := by
    rw [Text.pieces_eq_splitOn, render, List.splitOn_intercalate '\n'
      (fun line hline ↦ newline_notMem_of_mem_lines hline) (List.cons_ne_nil _ _)]
  have hfits := fits_columnWidths h
  have hrows : (((grid.header :: grid.rows).map fun row ↦
      (List.range (rowHeight row)).map (rowLine grid.columnWidths row))).mapM
        (row? grid.columnWidths) =
      some ((grid.header :: grid.rows).map fun row ↦ row.map visible) := by
    rw [List.mapM_map]
    exact mapM_eq_some_map fun row hrow ↦
      row?_lines (hfits row hrow) fun cell hcell ↦ length_cellLines_le_rowHeight hcell
  rw [read?, hpieces, lines]
  simp only [ruleWidths_horizontalRule, splitOnP_rowBlocks, List.dropLast_concat]
  exact hrows

end WorkloadNames.Grid
