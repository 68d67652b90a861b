import SheetQuery.Sql.Change
import SheetQuery.Sql.Grammar

/-!
# Actions

A statement prepared against a catalog: its tables and columns are found and its names are checked, so
that what is left to fail depends on the rows, on triggers and on the state of the connection.
`Catalog.prepare` finds the faults of a statement in the order in which they are reported.
-/

namespace SheetQuery.Sql

/-- A statement whose tables and columns are found. -/
inductive Action where
  | rows (result : Relation)
  /-- Rows of terms for columns at these places; other columns get their defaults. -/
  | insert (temporary : Bool) (table : Text) (replace : Bool) (places : List Nat)
      (rows : List (List Term)) (triggers : List ActiveTrigger)
  | update (temporary : Bool) (table : Text) (changes : List (Nat × Term)) (condition : Option Term)
      (triggers : List ActiveTrigger)
  | delete (temporary : Bool) (table : Text) (condition : Option Term) (triggers : List ActiveTrigger)
  | createTable (temporary : Bool) (table : Table)
  | dropTable (temporary : Bool) (table : Text)
  | renameTable (temporary : Bool) (table newName : Text)
  | createTrigger (temporary : Bool) (definition : TriggerDefinition)
  | dropTrigger (name : Text)
  | setting (setting : Setting) (value : Option Text)
  | begin (immediate : Bool)
  | commit
  | rollback
  | nothing

def maxColumns : Nat := 2000

def isReservedName (name : Text) : Bool := "sqlite_".toList.isPrefixOf (Text.lower name)

/-- The columns of a definition, checked one after the other: their number, and that no name comes
twice. -/
def checkColumns (table : Text) (earlier : List Text) : List ColumnDefinition → Except Located Unit
  | [] => .ok ()
  | c :: rest =>
    if earlier.length ≥ maxColumns then .error (Fault.tooManyColumns table).anywhere
    else if earlier.contains (Text.lower c.name) then .error (Fault.duplicateColumn c.name).anywhere
    else checkColumns table (Text.lower c.name :: earlier) rest

/-- The spelling that a column's type is kept in: some types are written in capitals. -/
def keptType (type : Text) : Text :=
  let capitals := type.map Char.toUpper
  if ["ANY", "BLOB", "INT", "INTEGER", "REAL", "TEXT"].contains (String.ofList capitals) then capitals
  else type

def ColumnDefinition.column (key : List Text) (d : ColumnDefinition) : Column :=
  let default := d.default.map fun (written, e) =>
    (written, match Scope.nothing.resolve e with
      | .ok t => t.term.eval ⟨[], [], []⟩
      | .error _ => .null)
  let position := match key.findIdx? (Text.sameName d.name) with
    | some k => k + 1
    | none => 0
  ⟨d.name, keptType d.type, d.notNull, default, position⟩

def TableDefinition.table (d : TableDefinition) : Table :=
  let key :=
    if d.primaryKey.isEmpty then (d.columns.filter (·.primaryKey)).map (·.name) else d.primaryKey
  let columns := d.columns.map (ColumnDefinition.column key)
  let numberColumn :=
    match key with
    | [name] => columns.findIdx? fun c =>
        Text.sameName c.name name && Text.sameName c.type "integer".toList
    | _ => none
  ⟨d.name.name, columns, numberColumn, []⟩

namespace Catalog

def target (name : TableName) : Except Located Bool :=
  match name.database with
  | none => .ok false
  | some database =>
    if Text.sameName database.name tempName then .ok true
    else if Text.sameName database.name mainName then .ok false
    else .error ((Fault.unknownDatabase database.written).at database.offset)

/-- The checks of a new table's name: it is not reserved and not taken. The result is the schema, or
none if the table exists and that is no fault. -/
def checkNewTable (c : Catalog) (name : TableName) (ifNotExists : Bool) : Except Located (Option Bool) := do
  let temporary ← target name
  if isReservedName name.name then .error (Fault.reservedName name.name).anywhere
  else if ((c.schema temporary).find? name.name).isSome then
    if ifNotExists then return none
    else .error ((Fault.tableExists name.written).at name.offset)
  else return some temporary

/-- The terms of inserted rows; all rows have as many terms as the first. -/
def insertedRows (width : Nat) : List (List Expr) → Except Located (List (List Term))
  | [] => .ok []
  | row :: rest => do
    if row.length != width then .error Fault.unequalValues.anywhere
    else
      let terms ← Scope.nothing.resolveAll row
      return terms.map (·.term) :: (← insertedRows width rest)

def targetPlaces (t : Table) (columns : List Text) : Except Located (List Nat) :=
  columns.mapM fun name =>
    match t.columnIndex? name with
    | some k => .ok k
    | none => .error (Fault.noTargetColumn t.name name).anywhere

def assignments (t : Table) (scope : Scope) : List (Text × Expr) → Except Located (List (Nat × Term))
  | [] => .ok []
  | (name, e) :: rest => do
    let typed ← scope.resolve e
    match t.columnIndex? name with
    | some k => return (k, typed.term) :: (← assignments t scope rest)
    | none => .error (Fault.noSuchColumn name).anywhere

def prepare (c : Catalog) : Statement → Except Located Action
  | .select q => (q.run c).map .rows
  | .insert name replace columns rows => do
    let (temporary, t) ← c.find name
    let triggers ← ActiveTrigger.onEvent (c.schema temporary) t .insert
    let places ← targetPlaces t columns
    let terms ← insertedRows (rows.headD []).length rows
    let given := (rows.headD []).length
    if columns.isEmpty then
      if given = t.columns.length then
        return .insert temporary t.name replace (List.range given) terms triggers
      else .error (Fault.valueCount t.name t.columns.length given).anywhere
    else if given = columns.length then return .insert temporary t.name replace places terms triggers
    else .error (Fault.columnListCount given columns.length).anywhere
  | .update name changes condition => do
    let (temporary, t) ← c.find name
    let triggers ← ActiveTrigger.onEvent (c.schema temporary) t .update
    let scope : Scope := ⟨[t.scope t.name], []⟩
    let changes ← assignments t scope changes
    return .update temporary t.name changes (← scope.resolveOptional condition) triggers
  | .delete name condition => do
    let (temporary, t) ← c.find name
    let triggers ← ActiveTrigger.onEvent (c.schema temporary) t .delete
    let scope : Scope := ⟨[t.scope t.name], []⟩
    return .delete temporary t.name (← scope.resolveOptional condition) triggers
  | .createTable d => do
    match ← c.checkNewTable d.name d.ifNotExists with
    | none => return .nothing
    | some temporary =>
      checkColumns d.name.name [] d.columns
      return .createTable temporary d.table
  | .dropTable name ifExists =>
    match c.find? name with
    | some (temporary, t) => .ok (.dropTable temporary t.name)
    | none =>
      if ifExists then .ok .nothing
      else if isReservedName name.name then .error (Fault.protectedTable name.name).anywhere
      else .error (Fault.noSuchTable name.display).anywhere
  | .renameTable name newName => do
    let (temporary, t) ← c.find name
    if ((c.schema temporary).find? newName).isSome then .error (Fault.nameTaken newName).anywhere
    else if isReservedName newName then .error (Fault.reservedName newName).anywhere
    else return .renameTable temporary t.name newName
  | .createTrigger d => do
    let (temporary, t) ← (c.find? d.table).elim
      (.error (Fault.noSuchTable (mainName ++ '.' :: d.table.name)).anywhere) .ok
    if (c.schema temporary).triggers.any fun other => Text.sameName other.name d.name then
      if d.ifNotExists then return .nothing else .error (Fault.triggerExists d.name).anywhere
    else
      let _ ← ActiveTrigger.ofDefinition t d
      return .createTrigger temporary { d with table := { d.table with name := t.name } }
  | .dropTrigger name ifExists =>
    if (c.main.triggers ++ c.temp.triggers).any fun d => Text.sameName d.name name then
      .ok (.dropTrigger name)
    else if ifExists then .ok .nothing
    else .error (Fault.noSuchTrigger name).anywhere
  | .setting setting value => .ok (.setting setting value)
  | .begin immediate => .ok (.begin immediate)
  | .commit => .ok .commit
  | .rollback => .ok .rollback

end Catalog

end SheetQuery.Sql
