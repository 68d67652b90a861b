import SheetQuery.Identifier
import SheetQuery.Mapping.Store

/-!
# Table plans

What a table with given headers will look like in the database. A header with Han characters gets the
name of its position and a mapping; any other header gets its sanitized form, followed by a number if
earlier headers have the same form, or the name of its position if nothing is left of it.
-/

namespace SheetQuery

structure PlannedColumn where
  header : Text
  identifier : Text
  /-- The header is kept as a mapping. -/
  mapped : Bool
deriving DecidableEq, Repr

structure TablePlan where
  table : Text
  columns : List PlannedColumn
deriving DecidableEq, Repr

/-- How often each sanitized form has been seen. -/
abbrev FormCounts := List (Text × Nat)

namespace FormCounts

def count (seen : FormCounts) (form : Text) : Nat := (seen.lookup form).getD 0

def increment : FormCounts → Text → FormCounts
  | [], form => [(form, 1)]
  | (other, n) :: rest, form =>
    if other == form then (other, n + 1) :: rest else (other, n) :: increment rest form

end FormCounts

/-- The column of a header at a position, and the forms seen with it. -/
def planColumn (seen : FormCounts) (position : Nat) (header : Text) : PlannedColumn × FormCounts :=
  if Text.hasHan header then (⟨header, Identifier.forPosition position, true⟩, seen)
  else
    let form := Identifier.forColumn header
    if form.isEmpty then (⟨header, Identifier.forPosition position, false⟩, seen)
    else
      -- Forms are counted, not identifiers: the identifier made here may be the form of a later header.
      let earlier := seen.count form
      let identifier := if earlier = 0 then form else form ++ '_' :: Text.decimal earlier
      (⟨header, identifier, false⟩, seen.increment form)

def planColumns (seen : FormCounts) (position : Nat) : List Text → List PlannedColumn
  | [] => []
  | header :: rest =>
    let planned := planColumn seen position header
    planned.1 :: planColumns planned.2 (position + 1) rest

/-- The plan of a table with these headers. -/
def planTable (table : Text) (headers : List Text) : TablePlan := ⟨table, planColumns [] 1 headers⟩

namespace TablePlan

def identifiers (plan : TablePlan) : List Text := plan.columns.map (·.identifier)

def mappings (plan : TablePlan) : List Mapping :=
  (plan.columns.filter (·.mapped)).map fun c => ⟨plan.table, c.header, c.identifier⟩

def columnSql (identifier : Text) : Text := '"' :: identifier ++ "\" TEXT".toList

def createSql (plan : TablePlan) : Text :=
  "CREATE TABLE ".toList ++ plan.table ++ " (".toList ++
    Text.joinWith ", ".toList (plan.identifiers.map columnSql) ++ ")".toList

def insertSql (plan : TablePlan) : Text :=
  "INSERT INTO ".toList ++ plan.table ++ " VALUES (".toList ++
    Text.joinWith ", ".toList (List.replicate plan.columns.length ['?']) ++ ")".toList

theorem createSql_eq (plan : TablePlan) : plan.createSql = "CREATE TABLE ".toList ++ (plan.table ++ ' ' :: '(' ::
    (Text.joinWith ", ".toList (plan.identifiers.map columnSql) ++ ")".toList)) := by
  unfold createSql
  rw [List.append_assoc, List.append_assoc, List.append_assoc]
  rfl

theorem insertSql_eq (plan : TablePlan) : plan.insertSql = "INSERT INTO ".toList ++ (plan.table ++ ' ' ::
    ("VALUES (".toList ++ (Text.joinWith ", ".toList (List.replicate plan.columns.length ['?']) ++ ")".toList))) := by
  unfold insertSql
  rw [List.append_assoc, List.append_assoc, List.append_assoc]
  rfl

end TablePlan

end SheetQuery
