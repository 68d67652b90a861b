import SheetQuery.Sql.Query

/-!
# Changes of rows

Inserting, updating and deleting rows of one table. Every row passes the triggers of the table and the
constraints of its columns; a trigger can refuse it, and then the refusal says what becomes of the rows
before it (`Stop`).
-/

namespace SheetQuery.Sql

/-- A trigger whose columns are found: when it fires, its conditions decide whether it refuses. Terms see
the new row and then the old one. -/
structure ActiveTrigger where
  before : Bool
  condition : Option Term
  /-- Conditions of the body's queries, with the refusal in each, if there is one. -/
  refusals : List (Option Term × Option (Refusal × Text))

/-- A table during a statement, and the number of rows changed. -/
structure Progress where
  table : Table
  changed : Nat

/-- A statement stops: why, what becomes of its work, and the work done so far. -/
structure Stop where
  fault : Fault
  refusal : Refusal
  progress : Progress

namespace ActiveTrigger

def scope (table : Table) : Scope := ⟨[table.scope "new".toList, table.scope "old".toList], []⟩

def refusalOf (scope : Scope) : List Expr → Except Located (Option (Refusal × Text))
  | [] => .ok none
  | .raise refusal message :: _ => .ok (some (refusal, message))
  | e :: rest => do
    let _ ← scope.resolve e
    refusalOf scope rest

def refusalsOf (scope : Scope) :
    List (List Expr × Option Expr) → Except Located (List (Option Term × Option (Refusal × Text)))
  | [] => .ok []
  | (items, condition) :: rest => do
    let condition ← scope.resolveOptional condition
    let refusal ← refusalOf scope items
    return (condition, refusal) :: (← refusalsOf scope rest)

def ofDefinition (table : Table) (d : TriggerDefinition) : Except Located ActiveTrigger := do
  let scope := scope table
  return ⟨d.before, ← scope.resolveOptional d.condition, ← refusalsOf scope d.body⟩

def onEvent (s : Schema) (table : Table) (event : Event) : Except Located (List ActiveTrigger) :=
  let rec collect : List TriggerDefinition → Except Located (List ActiveTrigger)
    | [] => .ok []
    | d :: rest => do
      if d.event = event ∧ Text.sameName d.table.name table.name then
        let t ← ofDefinition table d
        return t :: (← collect rest)
      else collect rest
  collect s.triggers

def refusal? (members : List Value) (t : ActiveTrigger) : Option (Refusal × Text) :=
  let passes (condition : Option Term) : Bool := condition.all fun c => c.holds ⟨members, [], []⟩
  if passes t.condition then
    t.refusals.findSome? fun (condition, refusal) => if passes condition then refusal else none
  else none

/-- The first refusal of the triggers that fire before the row is changed, or after. -/
def firstRefusal (triggers : List ActiveTrigger) (before : Bool) (members : List Value) :
    Option (Refusal × Text) :=
  (triggers.filter (·.before == before)).findSome? (refusal? members)

end ActiveTrigger

namespace Table

def stored (t : Table) (values : List Value) : List Value :=
  List.zipWith (fun (c : Column) v => Value.store c.affinity v) t.columns values

def missingColumn? (t : Table) (values : List Value) : Option Column :=
  (t.columns.zip values).findSome? fun (c, v) => if c.notNull && v == .null then some c else none

def sameKey (t : Table) (values : List Value) (r : Row) : Bool :=
  match keyOf t.keyColumns values with
  | some key => keyOf t.keyColumns r.values == some key
  | none => false

def keyNames (t : Table) : List Text :=
  t.keyColumns.filterMap fun k => (t.columns[k]?).map fun c => t.name ++ '.' :: c.name

/-- The number that a row asks for by its values: none leaves the choice. -/
def askedNumber (t : Table) (values : List Value) : Except Fault (Option Int) :=
  match t.numberColumn with
  | none => .ok none
  | some k =>
    match values.getD k .null with
    | .null => .ok none
    | .integer i => .ok (some i)
    | _ => .error .mismatch

def withNumber (t : Table) (number : Int) (values : List Value) : List Value :=
  match t.numberColumn with
  | some k => values.set k (.integer number)
  | none => values

/-- A row is put in. A row with the same key or number gives way if `replace` is set, else it is a
fault. -/
def insertRow (t : Table) (replace : Bool) (values : List Value) : Except Fault (Table × Row) := do
  let asked ← t.askedNumber values
  let number := asked.getD t.nextNumber
  let row : Row := ⟨number, t.withNumber number values⟩
  match t.missingColumn? row.values with
  | some c => throw (.notNull t.name c.name)
  | none => pure ()
  -- A replaced row goes without a trace: triggers on deletion do not see it.
  let clashes (r : Row) : Bool := r.number == number || t.sameKey row.values r
  if replace then
    return ({ t with rows := Table.insertByNumber row (t.rows.filter fun r => !clashes r) }, row)
  else if t.rows.any (·.number == number) then throw (.primaryKey [t.name ++ '.' :: t.numberName])
  else if t.rows.any (t.sameKey row.values) then throw (.primaryKey t.keyNames)
  else return ({ t with rows := Table.insertByNumber row t.rows }, row)

def updatedNumber (t : Table) (old : Row) (values : List Value) : Except Fault Int :=
  match t.numberColumn with
  | none => .ok old.number
  | some k =>
    match values.getD k .null with
    | .integer i => .ok i
    | _ => .error .mismatch

def updateRow (t : Table) (old : Row) (values : List Value) : Except Fault (Table × Row) := do
  let number ← t.updatedNumber old values
  let row : Row := ⟨number, values⟩
  match t.missingColumn? values with
  | some c => throw (.notNull t.name c.name)
  | none => pure ()
  let others := t.rows.filter (·.number != old.number)
  if others.any (·.number == number) then throw (.primaryKey [t.name ++ '.' :: t.numberName])
  else if others.any (t.sameKey values) then throw (.primaryKey t.keyNames)
  else if number = old.number then
    return ({ t with rows := t.rows.map fun r => if r.number == number then row else r }, row)
  else return ({ t with rows := Table.insertByNumber row others }, row)

end Table

namespace Progress

def advance (p : Progress) (table : Table) : Progress := ⟨table, p.changed + 1⟩

/-- A row is changed by `change` with the triggers around it. `members` are what the triggers see
before the change; what they see after it comes with the changed table. -/
def changeRow (triggers : List ActiveTrigger) (members : List Value)
    (change : Except Fault (Table × List Value)) (p : Progress) : Except Stop Progress :=
  match ActiveTrigger.firstRefusal triggers true members with
  | some (.ignore, _) => .ok p
  | some (refusal, message) => .error ⟨.raised message, refusal, p⟩
  | none =>
    match change with
    | .error fault => .error ⟨fault, .abort, p⟩
    | .ok (table, after) =>
      match ActiveTrigger.firstRefusal triggers false after with
      | some (.ignore, _) | none => .ok (p.advance table)
      | some (refusal, message) => .error ⟨.raised message, refusal, p⟩

def noRow (t : Table) : List Value := List.replicate (t.columns.length + 1) Value.null

def insert (triggers : List ActiveTrigger) (replace : Bool) (p : Progress) (values : List Value) :
    Except Stop Progress :=
  let values := p.table.stored values
  p.changeRow triggers ((Value.integer (-1) :: values) ++ noRow p.table)
    ((p.table.insertRow replace values).map fun (t, row) => (t, row.members ++ noRow t))

def update (triggers : List ActiveTrigger) (p : Progress) (change : Row × List Value) :
    Except Stop Progress :=
  let (old, values) := change
  let values := p.table.stored values
  p.changeRow triggers ((Value.integer old.number :: values) ++ old.members)
    ((p.table.updateRow old values).map fun (t, row) => (t, row.members ++ old.members))

def delete (triggers : List ActiveTrigger) (p : Progress) (old : Row) : Except Stop Progress :=
  let members := noRow p.table ++ old.members
  p.changeRow triggers members
    (.ok ({ p.table with rows := p.table.rows.filter (·.number != old.number) }, members))

def all {α : Type} (one : Progress → α → Except Stop Progress) :
    List α → Progress → Except Stop Progress
  | [], p => .ok p
  | a :: rest, p =>
    match one p a with
    | .ok p => all one rest p
    | .error stop => .error stop

end Progress

end SheetQuery.Sql
