import SheetQuery.Sql.Action
import SheetQuery.Sql.Pages

/-!
# The database

The state of a connection: its tables, the tables to go back to if a transaction is open, the number of
rows that the last statement changed, and two settings. A statement either runs as a whole or leaves
the tables as they were.

* `Database.compile` prepares the one statement of a text.
* `Database.perform` runs a prepared statement.
-/

namespace SheetQuery.Sql

structure Database where
  catalog : Catalog
  /-- The catalog before the transaction, if one is open. -/
  before : Option Catalog
  /-- The number of rows that the last insertion, update or deletion changed. -/
  changes : Nat
  /-- Statements must not write. -/
  readOnly : Bool
  /-- The greatest number of pages of the main schema. -/
  pageLimit : Nat
deriving DecidableEq

/-- What a statement yields: a result, or the number of rows that were changed last. -/
inductive Outcome where
  | rows (rows : List (List Value))
  | affected (count : Nat)
deriving DecidableEq

structure Prepared where
  action : Action
  parameters : Nat

namespace Database

def noPageLimit : Nat := 4294967294

def ofSchema (main : Schema) : Database := ⟨⟨main, .empty⟩, none, 0, false, noPageLimit⟩

/-- The tables that stay when the connection is closed: those before an open transaction. -/
def committed (db : Database) : Schema := ((db.before).getD db.catalog).main

/-- A table to create is checked as soon as its name is read, before the rest of the statement. -/
def checkHead (db : Database) (sql : Text) : Except Located Unit := do
  match tableHead? sql with
  | some (name, ifNotExists) =>
    let _ ← db.catalog.checkNewTable name ifNotExists
  | none => pure ()

/-- The first statement of a text, prepared, and the text behind it. -/
def compileFirst (db : Database) (sql : Text) : Except Error (Option Prepared × Text) :=
  let compiled : Except Located (Option Prepared × Text) := do
    db.checkHead sql
    match ← readStatement sql with
    | none => return (none, [])
    | some parsed => return (some ⟨← db.catalog.prepare parsed.statement, parsed.parameters⟩, parsed.rest)
  match compiled with
  | .ok result => .ok result
  | .error located => .error (.ofLocated sql located)

/-- The one statement of a text, prepared, or none if the text has none. What stands behind it must be
free of faults and of statements; `limit` bounds the number of parts. -/
def compileWithin (db : Database) : Nat → Text → Except Error (Option Prepared)
  | 0, _ => .ok none
  | limit + 1, sql => do
    let (first, rest) ← db.compileFirst sql
    -- The text behind the statement is compiled too, so a fault in it comes before one of running.
    if rest.isEmpty then return first
    else
      match ← db.compileWithin limit rest with
      | none => return first
      | some _ => .error (.ofFault .multipleStatements)

def compile (db : Database) (sql : Text) : Except Error (Option Prepared) :=
  db.compileWithin (sql.length + 1) sql

/-- The catalog after a statement, if it fits the limit of pages. -/
def fits (db : Database) (catalog : Catalog) : Bool :=
  db.pageLimit == noPageLimit || catalog.main.pages ≤ db.pageLimit

def define (db : Database) (catalog : Catalog) : Database × Except Fault Outcome :=
  if db.readOnly then (db, .error .readOnly)
  else if !db.fits catalog then (db, .error .full)
  else ({ db with catalog := catalog }, .ok (.affected db.changes))

def undone (db : Database) : Database :=
  { db with catalog := db.before.getD db.catalog, before := none, changes := 0 }

/-- Where a statement ends that changes the rows of a table, and how the database goes on. -/
def settle (db : Database) (temporary : Bool) (result : Except Stop Progress) :
    Database × Except Fault Outcome :=
  let withTable (table : Table) : Catalog := db.catalog.modify temporary (·.replace table)
  match result with
  | .ok p =>
    if db.fits (withTable p.table) then
      ({ db with catalog := withTable p.table, changes := p.changed }, .ok (.affected p.changed))
    else (db.undone, .error .full)
  | .error stop =>
    match stop.refusal with
    -- The rows before the refused one stay changed, and so does their number.
    | .fail =>
      ({ db with catalog := withTable stop.progress.table, changes := stop.progress.changed },
       .error stop.fault)
    | .rollback => (db.undone, .error stop.fault)
    | _ => ({ db with changes := 0 }, .error stop.fault)

def modifyRows (db : Database) (temporary : Bool) (name : Text)
    (change : Table → Except Stop Progress) : Database × Except Fault Outcome :=
  if db.readOnly then ({ db with changes := 0 }, .error .readOnly)
  else
    match (db.catalog.schema temporary).find? name with
    | some table => db.settle temporary (change table)
    | none => (db, .error (.noSuchTable name))

/-- The values of a new row: those given for places, and defaults for the others. -/
def placeValues (table : Table) (places : List Nat) (values : List Value) : List Value :=
  table.columns.mapIdx fun k c =>
    match places.findIdx? (· == k) with
    | some given => values.getD given .null
    | none => (c.default.map (·.2)).getD .null

def selectedRows (table : Table) (parameters : List Value) (condition : Option Term) : List Row :=
  table.rows.filter fun r => condition.all fun t => t.holds ⟨r.members, parameters, []⟩

def assigned (parameters : List Value) (changes : List (Nat × Term)) (r : Row) : List Value :=
  changes.foldl (fun values (k, t) => values.set k (t.eval ⟨r.members, parameters, []⟩)) r.values

def isYes (value : Text) : Bool :=
  let word := String.ofList (Text.lower value)
  ["on", "yes", "true"].contains word || Text.digitsValue (value.filter Char.isDigit) != 0

def setPageLimit (db : Database) (value : Option Text) : Database :=
  match value.bind fun v => if v.all Char.isDigit then some (Text.digitsValue v) else none with
  | some n => if n = 0 then db else { db with pageLimit := max n db.catalog.main.pages }
  | none => db

/-- A prepared statement is run with values for its parameters. -/
def perform (db : Database) (parameters : List Value) : Action → Database × Except Fault Outcome
  | .rows result => (db, .ok (.rows result.rows))
  | .insert temporary name replace places rows triggers =>
    db.modifyRows temporary name fun table =>
      let values := rows.map fun terms =>
        placeValues table places (terms.map (·.eval ⟨[], parameters, []⟩))
      Progress.all (Progress.insert triggers replace) values ⟨table, 0⟩
  | .update temporary name changes condition triggers =>
    db.modifyRows temporary name fun table =>
      let rows := (selectedRows table parameters condition).map fun r =>
        (r, assigned parameters changes r)
      Progress.all (Progress.update triggers) rows ⟨table, 0⟩
  | .delete temporary name condition triggers =>
    db.modifyRows temporary name fun table =>
      Progress.all (Progress.delete triggers) (selectedRows table parameters condition) ⟨table, 0⟩
  | .createTable temporary table => db.define (db.catalog.modify temporary (·.create table))
  | .dropTable temporary name => db.define (db.catalog.modify temporary (·.drop name))
  | .renameTable temporary name newName => db.define (db.catalog.modify temporary (·.rename name newName))
  | .createTrigger temporary d =>
    db.define (db.catalog.modify temporary fun s => { s with triggers := s.triggers ++ [d] })
  | .dropTrigger name =>
    let without (s : Schema) : Schema :=
      { s with triggers := s.triggers.filter fun d => !Text.sameName d.name name }
    db.define ⟨without db.catalog.main, without db.catalog.temp⟩
  | .setting .readOnly none =>
    (db, .ok (.rows [[.integer (if db.readOnly then 1 else 0)]]))
  | .setting .readOnly (some value) => ({ db with readOnly := isYes value }, .ok (.affected db.changes))
  | .setting .pageLimit value =>
    let db := db.setPageLimit value
    (db, .ok (.rows [[.integer db.pageLimit]]))
  | .setting .unknown _ => (db, .ok (.affected db.changes))
  | .begin immediate =>
    if immediate && db.readOnly then (db, .error .readOnly)
    else if db.before.isSome then (db, .error .nestedBegin)
    else ({ db with before := some db.catalog }, .ok (.affected db.changes))
  | .commit =>
    if db.before.isSome then ({ db with before := none }, .ok (.affected db.changes))
    else (db, .error .commitOutside)
  | .rollback =>
    match db.before with
    | some catalog => ({ db with catalog := catalog, before := none }, .ok (.affected db.changes))
    | none => (db, .error .rollbackOutside)
  | .nothing => (db, .ok (.affected db.changes))

def performPrepared (db : Database) (prepared : Prepared) (parameters : List Value) :
    Database × Except Error Outcome :=
  let performed := db.perform parameters prepared.action
  (performed.1, performed.2.mapError Error.ofFault)

def execute (db : Database) (sql : Text) (parameters : List Value) : Database × Except Error Outcome :=
  match db.compile sql with
  | .error e => (db, .error e)
  | .ok none => (db, .error (.ofFault .misuse))
  | .ok (some prepared) =>
    if prepared.parameters = parameters.length then db.performPrepared prepared parameters
    else (db, .error (.ofFault (.parameterCount parameters.length prepared.parameters)))

end Database

end SheetQuery.Sql
