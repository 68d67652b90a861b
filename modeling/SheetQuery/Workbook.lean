import SheetQuery.Number.Numeral

/-!
# Workbooks

A workbook is a list of sheets, a sheet a list of cells at places. The grid of a sheet is the smallest
rectangle around its cells that have content, row by row, with empty texts where there is no cell.
-/

namespace SheetQuery

inductive CellContent where
  | empty
  | text (s : Text)
  /-- A number or a date, which is the number of its day. -/
  | number (written : Text)
  | boolean (written : Text)
  | error (name : Text)
deriving DecidableEq, Repr

structure CellPlace where
  row : Nat
  column : Nat
deriving DecidableEq, Repr

structure Cell where
  place : CellPlace
  content : CellContent
deriving DecidableEq, Repr

structure Sheet where
  name : Text
  cells : List Cell
deriving DecidableEq, Repr

structure Workbook where
  sheets : List Sheet
deriving DecidableEq, Repr

namespace CellContent

def errorNames : List String :=
  ["#DIV/0!", "#N/A", "#NAME?", "#NULL!", "#NUM!", "#REF!", "#VALUE!"]

/-- The text of a cell, or the name of an error that does not exist. A number that cannot be read is
kept as it is written. -/
def display : CellContent → Except Text Text
  | .empty => .ok []
  | .text s => .ok s
  | .number written =>
    match Binary64.ofText? written with
    | some x => .ok x.shortest
    | none => .ok written
  | .boolean written => .ok (if written = ['0'] then "false" else "true").toList
  | .error name => if errorNames.contains (String.ofList name) then .ok name else .error name

end CellContent

namespace Sheet

/-- The cells with content, each with its text; the first error that does not exist ends it. -/
def texts (s : Sheet) : Except Text (List (CellPlace × Text)) :=
  (s.cells.filter (·.content != .empty)).mapM fun cell => do
    return (cell.place, ← cell.content.display)

/-- The last text at a place. -/
def textAt (texts : List (CellPlace × Text)) (place : CellPlace) : Text :=
  ((texts.reverse.find? fun t => t.1 == place).map (·.2)).getD []

def span : List Nat → List Nat
  | [] => []
  | n :: rest =>
    let low := rest.foldl min n
    let high := rest.foldl max n
    List.range' low (high + 1 - low)

/-- The grid of a sheet, or the name of an error that does not exist. -/
def grid (s : Sheet) : Except Text (List (List Text)) := do
  let texts ← s.texts
  let columns := span (texts.map (·.1.column))
  return (span (texts.map (·.1.row))).map fun row =>
    let members := texts.filter (·.1.row == row)
    columns.map fun column => textAt members ⟨row, column⟩

end Sheet

end SheetQuery
