import SheetQuery.Sql.Database
import SheetQuery.Store

/-!
# Connections

The database of this library as an engine: what is in a file, the two queries on the catalog, and every
other statement by its text.
-/

namespace SheetQuery.Sql

def Action.headers : Action → List Text
  | .rows result => result.columns.map (·.name)
  | .setting .readOnly none => ["query_only".toList]
  | .setting .pageLimit _ => ["max_page_count".toList]
  | _ => []

namespace Database

/-- The tables in a file; an empty file has none. -/
def schemaOf : Option Content → Except Fault Schema
  | none | some (.bytes []) => .ok .empty
  | some (.database tables) => .ok tables
  | some _ => .error .notDatabase

def tablesHeaders : List Text := ["name".toList]

/-- The names of the main tables in order, without one name and without those like `sqlite_%`. -/
def tableNames (db : Database) (left : Text) : List Text :=
  Text.sorted ((db.catalog.main.tables.map (·.name)).filter fun name =>
    name != left && !likeMatches "sqlite_%".toList name)

def masterTable : Table :=
  let column (name type : String) : Column := ⟨name.toList, type.toList, false, none, 0⟩
  ⟨"sqlite_master".toList,
   [column "type" "TEXT", column "name" "TEXT", column "tbl_name" "TEXT", column "rootpage" "INT",
    column "sql" "TEXT"], none, []⟩

def masterNames : List String := ["sqlite_master", "sqlite_schema", "sqlite_temp_master", "sqlite_temp_schema"]

def findTable? (db : Database) (name : Text) : Option Table :=
  if masterNames.contains (String.ofList (Text.lower name)) then some masterTable
  else db.catalog.temp.find? name <|> db.catalog.main.find? name

/-- The function that describes tables, which a table of its name takes the place of. -/
def infoFunction : Text := "pragma_table_info".toList

def infoFault? (db : Database) : Option Fault :=
  if (db.catalog.temp.find? infoFunction).isSome || (db.catalog.main.find? infoFunction).isSome then
    some (.notFunction infoFunction)
  else none

def infoHeaders : List Text :=
  ["cid", "name", "type", "notnull", "dflt_value", "pk"].map String.toList

def infoRow (position : Nat) (c : Column) : List Value :=
  [.integer position, .text c.name, .text c.type, .integer (if c.notNull then 1 else 0),
   (c.default.map fun d => Value.text d.1).getD .null, .integer c.keyPosition]

/-- The names of the columns of a statement's result. -/
def headersOf (db : Database) (sql : Text) : Except Failure (List Text) :=
  if sql = Store.tablesSql then .ok tablesHeaders
  else if sql = Store.tableInfoSql then
    match db.infoFault? with
    | some fault => .error fault.failure
    | none => .ok infoHeaders
  else
    match db.compile sql with
    | .error e => .error e.failure
    | .ok none => .ok []
    | .ok (some prepared) => .ok prepared.action.headers

def carryOut (db : Database) (sql : Text) (parameters : List Value) : Database × Except Failure Nat :=
  match db.execute sql parameters with
  | (db, .ok (.affected count)) => (db, .ok count)
  | (db, .ok (.rows _)) => (db, .error Fault.returnedRows.failure)
  | (db, .error e) => (db, .error e.failure)

/-- A query is answered. -/
def answer (db : Database) (sql : Text) (parameters : List Value) : Database × Answer :=
  match parameters with
  | [.text name] =>
    -- The two queries on the catalog lie outside the language of `Statement`.
    if sql = Store.tablesSql then (db, ⟨(db.tableNames name).map ([.text ·]), none⟩)
    else if sql = Store.tableInfoSql then
      match db.infoFault? with
      | some fault => (db, ⟨[], some fault.failure⟩)
      | none => (db, ⟨((db.findTable? name).map fun t => t.columns.mapIdx infoRow).getD [], none⟩)
    else answerOf (db.execute sql parameters)
  | _ => answerOf (db.execute sql parameters)
where
  /-- The answer in the outcome of a statement. -/
  answerOf : Database × Except Error Outcome → Database × Answer
    | (db, .ok (.rows rows)) => (db, ⟨rows, none⟩)
    | (db, .ok (.affected _)) => (db, ⟨[], none⟩)
    | (db, .error e) => (db, ⟨[], some e.failure⟩)

def control (db : Database) (action : Action) : Database × Except Failure Unit :=
  match db.perform [] action with
  | (db, .ok _) => (db, .ok ())
  | (db, .error fault) => (db, .error fault.failure)

instance : Engine Database where
  connect content :=
    match schemaOf content with
    | .ok tables => .ok (ofSchema tables)
    | .error fault => .error fault.failure
  content db := .database db.committed
  isDatabase
    | .database _ => true
    | _ => false
  prepare := headersOf
  execute := carryOut
  query := answer
  begin db := db.control (.begin false)
  commit db := db.control .commit
  abandon db := (db.control .rollback).1

end Database

end SheetQuery.Sql
