import SheetQuery.Text.Width

/-!
# Result tables

Headers and rows as lines of a terminal. Every column is as wide as its widest cell, two spaces stand
between columns, a line of dashes stands below the headers, and no line ends in a space.
-/

namespace SheetQuery.Layout

/-- A cell on one line: line breaks and tabs become spaces. -/
def flatten (cell : Text) : Text :=
  cell.map fun c => if c = '\n' ∨ c = '\r' ∨ c = '\t' then ' ' else c

def cellWidth (cell : Text) : Nat := Text.visibleWidth (flatten cell)

/-- The widths widened by the cells of a row; cells without a column do not count. -/
def widen : List Nat → List Text → List Nat
  | w :: ws, cell :: row => max w (cellWidth cell) :: widen ws row
  | ws, _ => ws

def columnWidths (headers : List Text) (rows : List (List Text)) : List Nat :=
  (rows.foldl widen (headers.map cellWidth)).map (max 1)

def pad (width : Nat) (cell : Text) : Text :=
  flatten cell ++ List.replicate (width - cellWidth cell) ' '

/-- A line of the table; cells without a column are left out. -/
def line (widths : List Nat) (row : List Text) : Text :=
  Text.dropRightWhile (· == ' ')
    (Text.joinWith [' ', ' '] ((widths.zip row).map fun (width, cell) => pad width cell))

def rule (widths : List Nat) : List Text := widths.map (List.replicate · '-')

/-- The table: headers, dashes and rows, a line feed behind each line. -/
def table (headers : List Text) (rows : List (List Text)) : Text :=
  let widths := columnWidths headers rows
  (headers :: rule widths :: rows).flatMap fun row => line widths row ++ ['\n']

/-- The table and the number of its rows; one line if it has none. -/
def result (headers : List Text) (rows : List (List Text)) : Text :=
  if rows.isEmpty then "Query OK, 0 rows returned.\n".toList
  else table headers rows ++ "\n(".toList ++ Text.decimal rows.length ++ " rows)\n".toList

end SheetQuery.Layout
