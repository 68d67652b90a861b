import SheetQuery.Sql.Statement
import SheetQuery.Sql.Fault

/-!
# Tables and schemas

A table is a list of columns and a list of rows, ordered by row number. A schema holds tables and the
triggers on them; the catalog of a connection is its main schema and one for temporary tables, which is
searched first.
-/

namespace SheetQuery.Sql

structure Column where
  name : Text
  /-- The type as it was declared, empty if none was. -/
  type : Text
  notNull : Bool
  /-- The default as it was written, and its value. -/
  default : Option (Text × Value)
  /-- The place in the primary key, counted from one; zero outside it. -/
  keyPosition : Nat
deriving DecidableEq

def Column.affinity (c : Column) : Affinity := Affinity.ofType c.type

structure Row where
  number : Int
  values : List Value
deriving DecidableEq

structure Table where
  name : Text
  columns : List Column
  /-- The place of the column that shows the row number, if there is one. -/
  numberColumn : Option Nat
  rows : List Row
deriving DecidableEq

namespace Table

def columnIndex? (t : Table) (name : Text) : Option Nat :=
  t.columns.findIdx? fun c => Text.sameName c.name name

def nextNumber (t : Table) : Int := t.rows.foldl (fun n r => max n (r.number + 1)) 1

def keyColumns (t : Table) : List Nat :=
  (List.range t.columns.length).filterMap fun k =>
    t.columns.findIdx? fun c => c.keyPosition == k + 1

/-- The members of a row at the places of a key; a row with a null there has no key. -/
def keyOf (places : List Nat) (values : List Value) : Option (List Value) :=
  let key := places.map fun k => values.getD k .null
  if places.isEmpty || key.contains .null then none else some key

def numberName (t : Table) : Text :=
  ((t.numberColumn.bind (t.columns[·]?)).map (·.name)).getD "rowid".toList

def insertByNumber (new : Row) : List Row → List Row
  | [] => [new]
  | old :: rest => if new.number < old.number then new :: old :: rest else old :: insertByNumber new rest

end Table

structure Schema where
  tables : List Table
  triggers : List TriggerDefinition
deriving DecidableEq

namespace Schema

def empty : Schema := ⟨[], []⟩

instance : Inhabited Schema := ⟨empty⟩

def find? (s : Schema) (name : Text) : Option Table := s.tables.find? fun t => Text.sameName t.name name

def replace (s : Schema) (table : Table) : Schema :=
  { s with tables := s.tables.map fun t => if t.name = table.name then table else t }

def create (s : Schema) (table : Table) : Schema := { s with tables := s.tables ++ [table] }

def drop (s : Schema) (name : Text) : Schema :=
  ⟨s.tables.filter fun t => !Text.sameName t.name name,
   s.triggers.filter fun t => !Text.sameName t.table.name name⟩

/-- A table gets another name, and its triggers follow. -/
def rename (s : Schema) (name newName : Text) : Schema :=
  ⟨s.tables.map fun t => if Text.sameName t.name name then { t with name := newName } else t,
   s.triggers.map fun t =>
    if Text.sameName t.table.name name then { t with table := { t.table with name := newName } } else t⟩

end Schema

structure Catalog where
  main : Schema
  temp : Schema
deriving DecidableEq

namespace Catalog

def tempName : Text := "temp".toList

def mainName : Text := "main".toList

/-- Where a table is found: in the temporary schema or not, and the table. -/
def find? (c : Catalog) (name : TableName) : Option (Bool × Table) :=
  let inTemp := (c.temp.find? name.name).map (true, ·)
  let inMain := (c.main.find? name.name).map (false, ·)
  match name.database with
  | none => inTemp <|> inMain
  | some database =>
    if Text.sameName database.name tempName then inTemp
    else if Text.sameName database.name mainName then inMain
    else none

def find (c : Catalog) (name : TableName) : Except Located (Bool × Table) :=
  match c.find? name with
  | some found => .ok found
  | none => .error (Fault.noSuchTable name.display).anywhere

def schema (c : Catalog) (temporary : Bool) : Schema := if temporary then c.temp else c.main

def modify (c : Catalog) (temporary : Bool) (f : Schema → Schema) : Catalog :=
  if temporary then { c with temp := f c.temp } else { c with main := f c.main }

end Catalog

end SheetQuery.Sql
