import SheetQuery.Identifier
import SheetQuery.Mapping.Store

/-!
# The table of a statement

A statement speaks of a table when the table's name stands in it as a whole word, without regard to the
case of ASCII letters. If it speaks of exactly one table, that table's headers come first, both when
headers are replaced in the statement and when result columns get their headers back.
-/

namespace SheetQuery

/-- The words of a statement: its maximal blocks of letters, digits and underscores, in lower case. -/
def statementWords (sql : Text) : List Text := (Text.runs Identifier.isWordChar sql).map Text.lower

/-- The one table among `tables` that the statement speaks of. -/
def tableContext (sql : Text) (tables : List Text) : Option Text :=
  let words := statementWords sql
  -- Two tables whose names differ in case stand in the statement together, and then neither is its table.
  match tables.filter fun table => !table.isEmpty && words.contains (Text.lower table) with
  | [table] => some table
  | _ => none

namespace HeaderMappings

/-- The header of a result column: that of the table of the statement, else that of the first table which
has the identifier, else the column's own name. -/
def columnLabel (m : HeaderMappings) (context : Option Text) (column : Text) : Text :=
  match context.bind fun table => m.reverse table column with
  | some label => label
  | none => ((m.tables.findSome? fun table => m.reverse table column).getD column)

def columnLabels (m : HeaderMappings) (context : Option Text) (columns : List Text) : List Text :=
  columns.map (m.columnLabel context)

end HeaderMappings

end SheetQuery
