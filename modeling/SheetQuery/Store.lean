import SheetQuery.Engine
import SheetQuery.Mapping.Store

/-!
# Stores

A store is a database at a location: in memory, or in a file that it is saved to. Beside the user's
tables it has a table of its own, in which the header mappings outlive the session.

* `Store.openAt` opens the store at a location, `Store.save` keeps what has been committed.
* `Store.run` runs a statement of the user.
* `Store.tables` and `Store.tableInfo` list tables and the columns of one.
* `Store.storedMappings` reads the header mappings.
-/

namespace SheetQuery

/-- A result as it is shown: the names of its columns, and rows of texts. -/
structure Listing where
  headers : List Text
  rows : List (List Text)
deriving DecidableEq, Repr

/-- What a statement of the user yields: a result, or the number of rows that were changed last. -/
inductive QueryOutcome where
  | rows (listing : Listing)
  | affected (count : Nat)
deriving DecidableEq, Repr

def Sql.Error.failure (e : Sql.Error) : Failure := ⟨e.message, e.cause?.toList⟩

def Sql.Fault.failure (f : Sql.Fault) : Failure := (Sql.Error.ofFault f).failure

def memberAt (row : List Sql.Value) (k : Nat) : Except Failure Sql.Value :=
  match row[k]? with
  | some v => .ok v
  | none => .error (Sql.Fault.columnIndex k).failure

/-- A member of a row as a text, which it has to be. -/
def textAt (headers : List Text) (row : List Sql.Value) (k : Nat) : Except Failure Text := do
  match ← memberAt row k with
  | .text s => return s
  | v => .error (Sql.Fault.columnClass k (headers.getD k []) v.className).failure

/-- A result as it is shown: of every row, a member for each header. -/
def Listing.ofAnswer (headers : List Text) (a : Answer) : Except Failure Listing := do
  let rows ← a.collect fun row =>
    (List.range headers.length).mapM fun k => (memberAt row k).map (·.display)
  return ⟨headers, rows⟩

structure Store (C : Type) where
  location : Text
  database : C
deriving DecidableEq

namespace Store

def memoryLocation : Text := ":memory:".toList

def mappingTableName : Text := "_csvsql_header_mappings".toList

def mappingTableSql : Text :=
  "CREATE TABLE IF NOT EXISTS _csvsql_header_mappings (\n".toList ++
    "                table_name TEXT NOT NULL,\n".toList ++
    "                original TEXT NOT NULL,\n".toList ++
    "                identifier TEXT NOT NULL,\n".toList ++
    "                PRIMARY KEY (table_name, original)\n".toList ++
    "            );".toList

/-- The location names a file that the store is saved to. -/
def isFile (location : Text) : Bool := location != memoryLocation && !location.isEmpty

def tablesSql : Text :=
  "SELECT name FROM sqlite_master WHERE type = 'table' AND name <> ?1 AND name NOT LIKE 'sqlite_%' ".toList ++
    "ORDER BY name".toList

def tableInfoSql : Text :=
  "SELECT cid, name, type, \"notnull\", dflt_value, pk FROM pragma_table_info(?1)".toList

def mappingQuery : Text :=
  "SELECT table_name, original, identifier FROM ".toList ++ mappingTableName ++
    " ORDER BY table_name, original".toList

def openFailure (location : Text) : Failure :=
  (Sql.Fault.cannotOpen location).failure.within ("Opening database at ".toList ++ location)

variable {C : Type} [Engine C]

def isPersistent (s : Store C) : Bool := s.location != memoryLocation

/-- The committed tables are saved to the store's file, unless something else has taken its place. -/
def save (s : Store C) (disk : Disk) : Disk :=
  if isFile s.location then
    match disk.lookup s.location with
    | .ok (.file content) =>
      if Engine.isDatabase C content then disk.put s.location (.file (Engine.content s.database)) else disk
    | _ => disk
  else disk

/-- The store on a new connection, with a table of header mappings. -/
def connect (location : Text) (content : Option Content) : Except Failure (Store C) :=
  let connected : Except Failure C := do
    let db ← Engine.connect content
    match Engine.execute db mappingTableSql [] with
    | (_, .error e) => .error e
    | (db, .ok _) => return db
  match connected with
  | .ok db => .ok ⟨location, db⟩
  | .error e => .error (e.within ("Preparing mapping table in ".toList ++ location))

/-- The store at a location. A file that is missing is made. -/
def openAt (disk : Disk) (location : Text) : Except Failure (Store C × Disk) :=
  if isFile location then
    match disk.writable location with
    | .error _ => .error (openFailure location)
    | .ok () => do
      let s : Store C ← connect location (disk.read location).toOption
      return (s, disk.put location (.file (Engine.content s.database)))
  else (connect location none).map (·, disk)

/-- A statement of the user is run: one without columns is carried out, any other is a query. -/
def run (s : Store C) (sql : Text) : Store C × Except Failure QueryOutcome :=
  match Engine.prepare s.database sql with
  | .error e => (s, .error e)
  | .ok [] =>
    -- An empty text has no columns either: what becomes of it is left to `Engine.execute`.
    let (db, count) := Engine.execute s.database sql []
    ({ s with database := db }, count.map .affected)
  | .ok headers =>
    let (db, answer) := Engine.query s.database sql []
    ({ s with database := db }, (Listing.ofAnswer headers answer).map .rows)

def ask (s : Store C) (sql : Text) (parameters : List Sql.Value) : Except Failure (List Text × Answer) := do
  let headers ← Engine.prepare s.database sql
  return (headers, (Engine.query s.database sql parameters).2)

def tables (s : Store C) : Except Failure (List Text) := do
  let (headers, answer) ← s.ask tablesSql [.text mappingTableName]
  answer.collect fun row => textAt headers row 0

def tableInfo (s : Store C) (name : Text) : Except Failure Listing := do
  let (headers, answer) ← s.ask tableInfoSql [.text name]
  let info ← Listing.ofAnswer headers answer
  if info.rows.isEmpty then .error (.ofMessage ("no such table: ".toList ++ name)) else return info

def mappingOfRow (headers : List Text) (row : List Sql.Value) : Except Failure Mapping := do
  let table ← textAt headers row 0
  let label ← textAt headers row 1
  return ⟨table, label, ← textAt headers row 2⟩

/-- The header mappings that the store keeps, ordered by table and header. -/
def storedMappings (s : Store C) : Except Failure (List Mapping) := do
  let (headers, answer) ← s.ask mappingQuery []
  answer.collect (mappingOfRow headers)

end Store

end SheetQuery
