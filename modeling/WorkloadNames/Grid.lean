import WorkloadNames.Text.Split
import WorkloadNames.Text.Width

/-!
Tables drawn in characters. Rows are parted by rules, cells stand one blank away from the bars
between them and are aligned to the left. A cell may hold several lines; the other cells of its row
are then filled up with blank lines. A column is as wide as the widest line in it.
-/

set_option autoImplicit false
set_option relaxedAutoImplicit false

namespace WorkloadNames

/-- A table: what heads its columns, and its rows of as many cells. -/
structure Grid where
  header : List Text
  rows : List (List Text)
  deriving Repr

namespace Grid

/-- The lines of a cell. -/
def cellLines (cell : Text) : List Text := Text.pieces '\n' cell

/-- The columns of the terminal that the widest line of a cell fills. -/
def cellWidth (cell : Text) : Nat :=
  (cellLines cell).foldl (fun width line ↦ max width (Text.displayWidth line)) 0

/-- The number of lines of the tallest cell of a row. -/
def rowHeight (row : List Text) : Nat :=
  row.foldl (fun height cell ↦ max height (cellLines cell).length) 0

/-- The width of every column. -/
def columnWidths (grid : Grid) : List Nat :=
  grid.rows.foldl (fun widths row ↦ List.zipWith max widths (row.map cellWidth))
    (grid.header.map cellWidth)

/-- The rule between two rows. -/
def horizontalRule (widths : List Nat) : Text :=
  '+' :: widths.flatMap fun width ↦ List.replicate (width + 2) '-' ++ ['+']

/-- A line filled up with blanks to the width of its column. -/
def padded (width : Nat) (line : Text) : Text :=
  line ++ List.replicate (width - Text.displayWidth line) ' '

/-- One of the lines of a row, counted from the top. -/
def rowLine (widths : List Nat) (row : List Text) (index : Nat) : Text :=
  '|' :: (List.zip widths row).flatMap fun (width, cell) ↦
    ' ' :: padded width ((cellLines cell)[index]?.getD []) ++ [' ', '|']

/-- All lines of a row and the rule below it. -/
def rowBlock (widths : List Nat) (row : List Text) : List Text :=
  (List.range (rowHeight row)).map (rowLine widths row) ++ [horizontalRule widths]

/-- The lines of the drawing. -/
def lines (grid : Grid) : List Text :=
  let widths := grid.columnWidths
  horizontalRule widths :: (grid.header :: grid.rows).flatMap (rowBlock widths)

/-- The drawing, without a line break at its end. -/
def render (grid : Grid) : Text := ['\n'].intercalate grid.lines

end Grid

end WorkloadNames
