import SheetQuery.Mapping.Ambiguity
import SheetQuery.Plan
import SheetQuery.Session.Basic
import SheetQuery.Session.LoadError
import SheetQuery.Source

/-!
# Loading tables

A grid becomes a table: the plan of its headers is created, its rows are inserted, and the mappings of the
plan take the place of those kept for the table's name. All of that is one transaction. Only when it is
committed do the session's own mappings follow.

* `Store.loadTable` is the transaction.
* `Session.loadGrid`, `Session.loadFile` and `Session.loadFiles` load a grid, a file, and files one after
  the other.
-/

namespace SheetQuery

namespace Store

variable {C : Type} [Engine C]

/-- The rows are inserted one after the other, the first of which has the number `row`. -/
def insertRows (plan : TablePlan) (db : C) (row : Nat) : List (List Text) → C × Except LoadError Unit
  | [] => (db, .ok ())
  | cells :: rest =>
    if cells.length = plan.columns.length then
      match Engine.execute db plan.insertSql (cells.map .text) with
      | (db, .ok _) => insertRows plan db (row + 1) rest
      | (db, .error e) => (db, .error (.row plan.table row e))
    else (db, .error (.columnCount plan.table row plan.columns.length cells.length))

def firstRow : Nat := 2

def dropMappingsSql : Text := "DELETE FROM ".toList ++ mappingTableName ++ " WHERE table_name = ?1".toList

def keepMappingSql : Text :=
  "INSERT OR REPLACE INTO ".toList ++ mappingTableName ++
    " (table_name, original, identifier) VALUES (?1, ?2, ?3)".toList

def keepMappings (db : C) : List Mapping → C × Except LoadError Unit
  | [] => (db, .ok ())
  | m :: rest =>
    match Engine.execute db keepMappingSql [.text m.table, .text m.label, .text m.identifier] with
    | (db, .ok _) => keepMappings db rest
    | (db, .error e) => (db, .error (.store e))

/-- The mappings of a plan take the place of those kept for its table. -/
def replaceMappings (db : C) (plan : TablePlan) : Step C (Except LoadError Unit) :=
  match Engine.execute db dropMappingsSql [.text plan.table] with
  | (db, .error e) => .pure db (.error (.store e))
  | (db, .ok stale) =>
    let notes : List Note :=
      if stale = 0 then []
      else
        [⟨.debug, .store, "Replacing ".toList ++ Text.decimal stale ++ " stored mapping(s) for ".toList ++
          plan.table⟩]
    -- Compiled once for all mappings, also if there are none.
    match Engine.prepare db keepMappingSql with
    | .error e => ⟨db, .error (.store e), notes⟩
    | .ok _ =>
      let kept := keepMappings db plan.mappings
      ⟨kept.1, kept.2, notes⟩

def createTable (db : C) (plan : TablePlan) (rows : List (List Text)) : C × Except LoadError Unit :=
  match Engine.execute db plan.createSql [] with
  | (db, .error e) => (db, .error (.schema plan.table e))
  | (db, .ok _) =>
    -- Compiled once for all rows, also if there are none.
    match Engine.prepare db plan.insertSql with
    | .error e => (db, .error (.store e))
    | .ok _ => insertRows plan db firstRow rows

def fillTable (db : C) (plan : TablePlan) (rows : List (List Text)) : Step C (Except LoadError Unit) :=
  let notes : List Note := [⟨.debug, .store, plan.createSql⟩]
  match createTable db plan rows with
  | (db, .error e) => ⟨db, .error e, notes⟩
  | (db, .ok ()) => (replaceMappings db plan).after notes

/-- A table is loaded in a transaction of its own: either all of it is committed or it is given up. -/
def loadTable (s : Store C) (plan : TablePlan) (rows : List (List Text)) :
    Step (Store C) (Except LoadError Unit) :=
  match Engine.begin s.database with
  | (db, .error e) => .pure { s with database := db } (.error (.store e))
  | (db, .ok ()) =>
    let filled := fillTable db plan rows
    match filled.answer with
    | .error e => ⟨{ s with database := Engine.abandon filled.state }, .error e, filled.notes⟩
    | .ok () =>
      match Engine.commit filled.state with
      | (db, .ok ()) => ⟨{ s with database := db }, .ok (), filled.notes⟩
      | (db, .error e) => ⟨{ s with database := Engine.abandon db }, .error (.store e), filled.notes⟩

end Store

structure LoadSummary where
  table : Text
  rows : Nat
  mappedColumns : Nat
deriving DecidableEq, Repr

namespace Session

variable {C : Type} [Engine C]

def staleNotes (m : HeaderMappings) (table : Text) : List Note :=
  match m.tableMappings? table with
  | some stale =>
    [⟨.debug, .load, "Dropped ".toList ++ Text.decimal stale.length ++ " stale mapping(s) for ".toList ++
      table⟩]
  | none => []

/-- The warnings about the ambiguities that a table takes part in. -/
def ambiguityNotes (m : HeaderMappings) (table : Text) : List Note :=
  (m.ambiguities.filter (·.involves table)).map fun a =>
    ⟨.warn, .load, "Ambiguous header mapping: ".toList ++ a.text⟩

def adoptMappings (m : HeaderMappings) (plan : TablePlan) : HeaderMappings :=
  (m.removeTable plan.table).extend plan.mappings

def loadPlan (s : Session C) (plan : TablePlan) (rows : List (List Text)) :
    Step (Session C) (Except LoadError LoadSummary) :=
  let loaded := s.store.loadTable plan rows
  match loaded.answer with
  | .error e => ⟨{ s with store := loaded.state }, .error e, loaded.notes⟩
  | .ok () =>
    let mappings := adoptMappings s.mappings plan
    ⟨{ s with store := loaded.state, mappings := mappings },
     .ok ⟨plan.table, rows.length, plan.mappings.length⟩,
     loaded.notes ++ staleNotes s.mappings plan.table ++ ambiguityNotes mappings plan.table⟩

/-- A grid is loaded as a table. -/
def loadGrid (s : Session C) (table : Text) : Grid → Step (Session C) (Except LoadError LoadSummary)
  | [] => .pure s (.error (.emptyGrid ("table ".toList ++ table)))
  | headers :: rows =>
    let plan := planTable table headers
    (s.loadPlan plan rows).after
      [⟨.debug, .load, "Planned columns for ".toList ++ table ++ ": ".toList ++
        Text.quotedList plan.identifiers⟩]

/-- The name of the table of a file: what a table name keeps of the file name without its extension. -/
def tableOfPath (path : Text) : Text := Identifier.forTable ((Path.stem? path).getD [])

/-- The grid of a file, if it can be loaded: its kind is known, it is not too large, it can be read and it
is not empty. -/
def readSource (options : LoadOptions) (disk : Disk) (path : Text) : Except LoadError Grid :=
  match SourceKind.ofPath? path, disk.lookup path with
  | none, _ => .error (.unsupportedFile path)
  | some _, .error fault =>
    .error (.read ⟨"Reading metadata for ".toList ++ Text.quoted path, [fault.text]⟩)
  | some kind, .ok node =>
    if node.size > options.maxFileSize then
      .error (.fileTooLarge path node.size options.maxFileSize)
    else
      match readGrid options.readers disk path kind options.delimiter options.encoding with
      | .error fault => .error (.read fault.failure)
      | .ok [] => .error (.emptyGrid (Text.quoted path))
      | .ok grid => .ok grid

def loadFile (s : Session C) (disk : Disk) (path : Text) : Step (Session C) (Except LoadError LoadSummary) :=
  match readSource s.options disk path with
  | .error e => .pure s (.error e)
  | .ok grid =>
    let loaded := s.loadGrid (tableOfPath path) grid
    match loaded.answer with
    | .error _ => loaded
    | .ok summary =>
      { loaded with
        notes := loaded.notes ++
          [⟨.info, .load, "Loaded table '".toList ++ summary.table ++ "' from ".toList ++ Text.quoted path ++
            " (".toList ++ Text.decimal summary.rows ++ " row(s))".toList⟩] }

/-- Files are loaded one after the other; one that fails is passed over with a warning. The answer is the
number of those that did not fail. -/
def loadFiles (s : Session C) (disk : Disk) : List Text → Step (Session C) Nat
  | [] => .pure s 0
  | path :: rest =>
    (s.loadFile disk path).bind fun s loaded =>
      match loaded with
      | .ok _ => (loadFiles s disk rest).map (· + 1)
      | .error e =>
        (loadFiles s disk rest).after
          [⟨.warn, .session, "Failed to load file ".toList ++ Text.quoted path ++ ": ".toList ++
            e.failure.message⟩]

end Session

end SheetQuery
