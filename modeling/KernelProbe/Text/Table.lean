import KernelProbe.Text.Split
import KernelProbe.Text.Width

/-!
# Tables

A table of text cells drawn with `+`, `-` and `|`: a rule above and below the header and below
every row, each column as wide as its widest line, and one blank on either side of a cell. A cell
that holds line breaks takes several lines, and the other cells of its row are filled with blanks.
-/

namespace KernelProbe.Text

/-- A table: the column titles and the rows, each a list of cells. -/
structure Table where
  /-- The column titles. -/
  header : List String
  /-- The rows from top to bottom. -/
  rows : List (List String)

namespace Table

/-- The lines of a cell. -/
def cellLines (cell : String) : List (List Char) := splitOn '\n' cell.toList

/-- The columns that a cell takes: those of its widest line. -/
def cellWidth (cell : String) : Nat := (cellLines cell).foldl (fun w line => max w (width line)) 0

/-- The widths of the columns. -/
def columnWidths (t : Table) : List Nat :=
  t.rows.foldl (fun widths row => List.zipWith max widths (row.map cellWidth))
    (t.header.map cellWidth)

/-- A rule across the table. -/
def rule (widths : List Nat) : List Char :=
  '+' :: widths.flatMap fun w => List.replicate (w + 2) '-' ++ ['+']

/-- One line of a cell, filled up to the column's width. -/
def padded (w : Nat) (line : List Char) : List Char :=
  ' ' :: (line ++ List.replicate (w - width line) ' ' ++ [' ', '|'])

/-- The `i`-th printed line of a row; a cell that has no such line is blank there. -/
def rowLine (widths : List Nat) (cells : List (List (List Char))) (i : Nat) : List Char :=
  '|' :: (List.zip widths cells).flatMap fun (w, lines) => padded w (lines.getD i [])

/-- The printed lines of a row. -/
def rowLines (widths : List Nat) (row : List String) : List (List Char) :=
  let cells := row.map cellLines
  let height := cells.foldl (fun h lines => max h lines.length) 1
  (List.range height).map (rowLine widths cells)

/-- The lines of the drawn table. -/
def lines (t : Table) : List (List Char) :=
  let widths := t.columnWidths
  rule widths :: (t.header :: t.rows).flatMap fun row => rowLines widths row ++ [rule widths]

/-- The drawn table, without a line break at the end. -/
def render (t : Table) : String := String.ofList (List.intercalate ['\n'] t.lines)

end Table

end KernelProbe.Text
