import SheetQuery.Sql.Term

/-!
# Queries

What a query yields: the names of its columns and its rows. The rows of its tables are combined, the
first table outermost; the condition selects, the order sorts (rows that tie stay in place), and the
limits cut.

* `Sources.join` combines the tables.
* `Query.run` is the result of a query.
-/

namespace SheetQuery.Sql

structure ResultColumn where
  name : Text
  affinity : Option Affinity
deriving DecidableEq

structure Relation where
  columns : List ResultColumn
  rows : List (List Value)
deriving DecidableEq

/-- Tables combined: how expressions see them, and their rows one behind the other. -/
structure Joined where
  tables : List ScopeTable
  rows : List (List Value)

structure Output where
  name : Text
  /-- The name can be used in the order and in the condition. -/
  isAlias : Bool
  typed : Typed

namespace QueryBody

def starOutputs (placed : List (Nat × ScopeTable)) : List Output :=
  placed.flatMap fun (start, t) =>
    t.columns.mapIdx fun k (name, affinity) => ⟨name, true, ⟨.column (start + 1 + k), some affinity⟩⟩

def columnName? (placed : List (Nat × ScopeTable)) (place : Nat) : Option Text :=
  placed.findSome? fun (start, t) =>
    if place = start then t.number
    else if start < place then (t.columns[place - start - 1]?).map (·.1)
    else none

/-- The outputs of an item: a plain column is called as in its table, another expression as it is
written, unless a name is given. -/
def itemOutputs (tables : List ScopeTable) : ResultItem → Except Located (List Output)
  | .all =>
    if tables.isEmpty then .error Fault.noTables.anywhere
    else .ok (starOutputs (Scope.placed 0 tables))
  | .allOf name =>
    match (Scope.placed 0 tables).filter fun (_, t) => Text.sameName t.name name with
    | [] => .error (Fault.noSuchTable name).anywhere
    | found => .ok (starOutputs found)
  | .expr e given written => do
    let typed ← Scope.resolve ⟨tables, []⟩ e
    match given with
    | some name => return [⟨name, true, typed⟩]
    | none =>
      -- A double-quoted name that turned out to be a text keeps its spelling.
      match e, typed.term with
      | .column .., .column place =>
        return [⟨(columnName? (Scope.placed 0 tables).reverse place).getD written, false, typed⟩]
      | _, _ => return [⟨written, false, typed⟩]

def outputs (tables : List ScopeTable) : List ResultItem → Except Located (List Output)
  | [] => .ok []
  | item :: rest => do
    let first ← itemOutputs tables item
    return first ++ (← outputs tables rest)

/-- The terms to sort by: a name of an output, the number of an output, or an expression. -/
def orderKey (scope : Scope) (outs : List Output) (term : Nat) (e : Expr) : Except Located Term :=
  match e with
  | .column none name _ _ =>
    match outs.find? fun o => o.isAlias && Text.sameName o.name name with
    | some o => .ok o.typed.term
    | none => (scope.resolve e).map (·.term)
  | .natural n offset =>
    match (if n = 0 then none else outs[n - 1]?) with
    | some o => .ok o.typed.term
    | none => .error ((Fault.orderTermRange term outs.length).at offset)
  | e => (scope.resolve e).map (·.term)

def orderKeys (scope : Scope) (outs : List Output) (term : Nat) :
    List OrderTerm → Except Located (List (Term × Bool))
  | [] => .ok []
  | t :: rest => do
    let key ← orderKey scope outs term t.expr
    return (key, t.descending) :: (← orderKeys scope outs (term + 1) rest)

def compareKeys : List (Value × Bool) → List (Value × Bool) → Ordering
  | (v, descending) :: rest, (w, _) :: rest' =>
    ((if descending then (Value.order v w).swap else Value.order v w)).then (compareKeys rest rest')
  | _, _ => .eq

def limitNumber (t : Option Term) : Except Located (Option Int) :=
  match t with
  | none => .ok none
  | some t =>
    match (t.eval ⟨[], [], []⟩).toNumeric.toWhole with
    | .integer i => .ok (some i)
    | _ => .error Fault.mismatch.anywhere

/-- The rows between the offset and the limit; a negative limit is none. -/
def cutRows {α : Type} (limit offset : Option Int) (rows : List α) : List α :=
  let behind := rows.drop (offset.getD 0).toNat
  match limit with
  | some n => if n < 0 then behind else behind.take n.toNat
  | none => behind

/-- The rows of a result: one for each selected row, or a single one if rows are counted; then columns
outside the counts are those of the first selected row. -/
def project (terms : List Term) (keys : List (Term × Bool)) (tables : List ScopeTable)
    (selected : List (List Value)) : List (List Value × List (Value × Bool)) :=
  let onRow (env : Surroundings) : List Value × List (Value × Bool) :=
    (terms.map (·.eval env), keys.map fun (t, descending) => (t.eval env, descending))
  if terms.any Term.counts then
    let missing := List.replicate (sumOf ScopeTable.width tables) Value.null
    [onRow ⟨selected.headD missing, [], selected⟩]
  else selected.map fun row => onRow ⟨row, [], []⟩

def run (body : QueryBody) (joined : Joined) : Except Located Relation := do
  let limit ← Scope.nothing.resolveOptional body.limit
  let offset ← Scope.nothing.resolveOptional body.offset
  let outs ← outputs joined.tables body.items
  let named := outs.filter (·.isAlias)
  let scope : Scope := ⟨joined.tables, named.map fun o => (o.name, o.typed)⟩
  let condition ← scope.resolveOptional body.condition
  let keys ← orderKeys scope outs 1 body.order
  let limit ← limitNumber limit
  let offset ← limitNumber offset
  let selected :=
    match condition with
    | some t => joined.rows.filter fun row => t.holds ⟨row, [], []⟩
    | none => joined.rows
  let projected := project (outs.map (·.typed.term)) keys joined.tables selected
  let sorted :=
    if keys.isEmpty then projected
    else projected.mergeSort fun a b => compareKeys a.2 b.2 != .gt
  return ⟨outs.map fun o => ⟨o.name, o.typed.affinity⟩, (cutRows limit offset sorted).map (·.1)⟩

end QueryBody

namespace Relation

def baseName (name : Text) : Text :=
  let front := Text.dropRightWhile Char.isDigit name
  if front.getLast? = some ':' then front.dropLast else name

/-- The name, or the first one with a number behind a colon that is not `taken`. -/
def freeName (taken : List Text) (name : Text) : Text :=
  let isTaken (candidate : Text) : Bool := taken.any (Text.sameName candidate)
  let numbered (k : Nat) : Text := baseName name ++ ':' :: Text.decimal (k + 1)
  if isTaken name then
    (((List.range (taken.length + 1)).map numbered).find? (!isTaken ·)).getD name
  else name

/-- The names with those changed that an earlier one has. -/
def distinctNames (names : List Text) : List Text :=
  names.foldl (fun taken name => taken ++ [freeName taken name]) []

/-- A result as a table for expressions; its rows have no numbers. -/
def scope (r : Relation) (name : Text) : ScopeTable :=
  let names := distinctNames (r.columns.map (·.name))
  ⟨name, names.zip (r.columns.map fun c => c.affinity.getD .blob), none⟩

end Relation

namespace Sources

/-- The first table's rows, each followed by every row of the others. -/
def combine (table : ScopeTable) (rows : List (List Value)) (others : Joined) : Joined :=
  ⟨table :: others.tables, rows.flatMap fun row => others.rows.map (row ++ ·)⟩

def join (catalog : Catalog) : Sources → Except Located Joined
  | none => .ok ⟨[], [[]]⟩
  | table name alias? rest => do
    let (_, t) ← catalog.find name
    let others ← join catalog rest
    return combine (t.scope (alias?.getD t.name)) (t.rows.map Row.members) others
  | query body inner alias? rest => do
    let relation ← body.run (← join catalog inner)
    let others ← join catalog rest
    return combine (relation.scope (alias?.getD [])) (relation.rows.map (Value.null :: ·)) others

end Sources

def Query.run (catalog : Catalog) (q : Query) : Except Located Relation := do
  q.body.run (← q.sources.join catalog)

end SheetQuery.Sql
