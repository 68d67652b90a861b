import Mathlib.Data.Multiset.Filter
import SheetQuery.Session.Load

/-!
# What the statements of an engine mean

The program knows of an engine only what it answers.  Results about what is in a database are stated over a vocabulary
for it, and rest on laws that are stated in this vocabulary, each result on those that it names.

* `Semantics`: what a database holds at some point, and what there is to say of it.
* `LoadStatement`, `Filling`, `Working`, `Dropped`: what a load runs, and where it can give its transaction up.
* `Reachable`: what can be done on a connection.
* `RollsBack`, `Commits`, `Answers`: transactions, and what the answers of queries depend on.
* `KeepsMappings`, `WritesMappings`, `OpensStores`: the table of header mappings, and the file of a store.
-/

namespace SheetQuery

/-- What there is to say of the connections of an engine.  A version is all that a database holds at some point, the
temporary tables of the connection with it. -/
structure Semantics (C : Type) where
  Version : Type
  Settings : Type
  /-- What there is under a name. -/
  Under : Type
  /-- The version that statements work on. -/
  now : C → Version
  /-- The versions that a transaction can go back to, that of its beginning last; none if no transaction is open. -/
  saved : C → List Version
  settings : C → Settings
  /-- Statements that write are carried out, without an answer of their own. -/
  Writes : Settings → Prop
  /-- Rows come in the order in which they were put in, under the plain names of their columns. -/
  Reads : Settings → Prop
  /-- The failure is that there is no room for more. -/
  Full : Failure → Prop
  /-- The names of the main tables, as they are spelled. -/
  names : Version → List Text
  /-- The tables of the name, in any case and of any schema, with their columns and rows, and whatever else has it. -/
  under : Version → Text → Under
  /-- A temporary table or view of the name hides the main table. -/
  Hidden : Version → Text → Prop
  /-- No trigger, view or foreign key takes part in statements on the name. -/
  Clear : Version → Text → Prop
  /-- A main table of the name is there in this spelling, and in plain sight: its columns are texts of these names, its
  rows are these, and statements on the name do to them just what they say. -/
  Stores : Version → Text → List Text → List (List Text) → Prop
  /-- The table of header mappings is as the program makes it and in plain sight: statements on its name do just what
  they say.  These are its rows. -/
  Keeps : Version → Multiset (List Sql.Value) → Prop
  /-- A store that is opened on what a file holds, or on nothing, has a table of header mappings with these rows, and
  nothing that takes part in statements on it. -/
  Opens : Option Content → Multiset (List Sql.Value) → Prop
  /-- What a file holds is no damaged database, and its texts are in UTF-8. -/
  Sound : Option Content → Prop
  /-- The text names a table that is there: no table can be created under it. -/
  Taken : Version → Text → Prop

/-- The row that keeps a mapping. -/
def mappingRow (e : Mapping) : List Sql.Value := [.text e.table, .text e.label, .text e.identifier]

/-- The query that reads a whole table. -/
def selectAllSql (table : Text) : Text := "SELECT * FROM ".toList ++ table

/-- The statement is one that a load runs. -/
inductive LoadStatement : Text → Prop
  | create (table : Text) (headers : List Text) : LoadStatement (planTable table headers).createSql
  | insert (table : Text) (headers : List Text) : LoadStatement (planTable table headers).insertSql
  | drop : LoadStatement Store.dropMappingsSql
  | keep : LoadStatement Store.keepMappingSql

/-- The statement is one on the table of header mappings. -/
def MappingStatement (sql : Text) : Prop := sql = Store.dropMappingsSql ∨ sql = Store.keepMappingSql

theorem MappingStatement.load {sql : Text} (h : MappingStatement sql) : LoadStatement sql := by
  rcases h with rfl | rfl
  · exact .drop
  · exact .keep

/-- The query is one of the store itself, with these parameters. -/
inductive StoreQuery : Text → List Sql.Value → Prop
  | tables : StoreQuery Store.tablesSql [.text Store.mappingTableName]
  | tableInfo (name : Text) : StoreQuery Store.tableInfoSql [.text name]
  | mappings : StoreQuery Store.mappingQuery []

section

variable {C : Type} [Engine C]

/-- From the first connection to the second, the table of the plan has been created, and filled with some rows. -/
inductive Filling (plan : TablePlan) (c : C) : C → Prop
  | created {c' : C} {n : Nat} {headers : List Text} (hcreate : Engine.execute c plan.createSql [] = (c', .ok n))
      (hprepare : Engine.prepare c' plan.insertSql = .ok headers) : Filling plan c c'
  | inserted {c' c'' : C} {n : Nat} {cells : List Text} (h : Filling plan c c')
      (hcells : cells.length = plan.columns.length)
      (hinsert : Engine.execute c' plan.insertSql (cells.map .text) = (c'', .ok n)) : Filling plan c c''

/-- From the first connection to the second, a transaction has been begun, and statements of a load have been run. -/
inductive Working (c : C) : C → Prop
  | begun {c' : C} (h : Engine.begin c = (c', .ok ())) : Working c c'
  | executed {c' c'' : C} {sql : Text} {parameters : List Sql.Value} {n : Nat} (h : Working c c')
      (hsql : LoadStatement sql) (hexecute : Engine.execute c' sql parameters = (c'', .ok n)) : Working c c''

/-- The transaction that was begun on the first connection can be given up on the second one: all went well so far, or
the last statement failed, or it could not be committed. -/
inductive Dropped (c : C) : C → Prop
  | working {c' : C} (h : Working c c') : Dropped c c'
  | failed {c' c'' : C} {sql : Text} {parameters : List Sql.Value} {e : Failure} (h : Working c c')
      (hsql : LoadStatement sql) (hexecute : Engine.execute c' sql parameters = (c'', .error e)) : Dropped c c''
  | uncommitted {c' c'' : C} {e : Failure} (h : Working c c') (hcommit : Engine.commit c' = (c'', .error e)) :
      Dropped c c''

/-- What can be done on a connection, to a file that satisfies `p`. -/
inductive Reachable (p : Option Content → Prop) : C → Prop
  | connect {content : Option Content} {c : C} (hcontent : p content) (h : Engine.connect content = .ok c) :
      Reachable p c
  | execute {c c' : C} (h : Reachable p c) {sql : Text} {parameters : List Sql.Value} {answer : Except Failure Nat}
      (hexecute : Engine.execute c sql parameters = (c', answer)) : Reachable p c'
  | query {c : C} (h : Reachable p c) (sql : Text) (parameters : List Sql.Value) :
      Reachable p (Engine.query c sql parameters).1
  | begin {c c' : C} (h : Reachable p c) {answer : Except Failure Unit} (hbegin : Engine.begin c = (c', answer)) :
      Reachable p c'
  | commit {c c' : C} (h : Reachable p c) {answer : Except Failure Unit} (hcommit : Engine.commit c = (c', answer)) :
      Reachable p c'
  | abandon {c : C} (h : Reachable p c) : Reachable p (Engine.abandon c)

/-- What holds once a table is created, and what the statements of a load keep, holds as long as all goes well. -/
theorem Filling.made {p : C → Prop} {table : Text} {headers : List Text} {c c' : C}
    (hmade : ∀ {c' n names}, Engine.execute c (planTable table headers).createSql [] = (c', .ok n) →
      Engine.prepare c' (planTable table headers).insertSql = .ok names → p c')
    (hp : ∀ {sql}, LoadStatement sql → ∀ {c c' : C} {parameters n},
      Engine.execute c sql parameters = (c', .ok n) → p c → p c')
    (h : Filling (planTable table headers) c c') : p c' := by
  induction h with
  | created hcreate hprepare => exact hmade hcreate hprepare
  | inserted _ _ hinsert ih => exact hp (.insert table headers) hinsert ih

theorem Filling.kept {p : C → Prop} {table : Text} {headers : List Text} {c c' : C}
    (hp : ∀ {sql}, LoadStatement sql → ∀ {c c' : C} {parameters n},
      Engine.execute c sql parameters = (c', .ok n) → p c → p c')
    (h : Filling (planTable table headers) c c') (hc : p c) : p c' :=
  h.made (fun hcreate _ => hp (.create table headers) hcreate hc) hp

theorem Working.reachable {p : Option Content → Prop} {c c' : C} (h : Working c c') (hc : Reachable p c) :
    Reachable p c' := by
  induction h with
  | begun hbegin => exact hc.begin hbegin
  | executed _ _ hexecute ih => exact ih.execute hexecute

theorem Dropped.reachable {p : Option Content → Prop} {c c' : C} (h : Dropped c c') (hc : Reachable p c) :
    Reachable p c' := by
  cases h with
  | working h => exact h.reachable hc
  | failed h _ hexecute => exact (h.reachable hc).execute hexecute
  | uncommitted h hcommit => exact (h.reachable hc).commit hcommit

end

namespace Semantics

variable {C : Type} (σ : Semantics C)

/-- The version that is in the file, or would be in one. -/
def committed (c : C) : σ.Version := (σ.saved c).getLastD (σ.now c)

/-- It holds now, and of all that a transaction can go back to. -/
def Throughout (p : σ.Version → Prop) (c : C) : Prop := p (σ.now c) ∧ ∀ v ∈ σ.saved c, p v

/-- All is as it was before. -/
structure Same (c c' : C) : Prop where
  now : σ.now c' = σ.now c
  saved : σ.saved c' = σ.saved c
  settings : σ.settings c' = σ.settings c

variable {σ}

theorem Throughout.committed {p : σ.Version → Prop} {c : C} (h : σ.Throughout p c) : p (σ.committed c) := by
  unfold Semantics.committed
  cases hlast : (σ.saved c).getLast? with
  | none => rw [List.getLastD_eq_getLast?, hlast]; exact h.1
  | some v => rw [List.getLastD_eq_getLast?, hlast]; exact h.2 v (List.mem_of_getLast? hlast)

theorem Same.throughout {p : σ.Version → Prop} {c c' : C} (h : σ.Same c c') (hc : σ.Throughout p c) :
    σ.Throughout p c' := by
  unfold Throughout
  rw [h.now, h.saved]
  exact hc

theorem throughout_of_saved {p : σ.Version → Prop} {c : C} (hnow : p (σ.now c)) (hsaved : σ.saved c = []) :
    σ.Throughout p c := by
  refine ⟨hnow, ?_⟩
  rw [hsaved]
  exact fun v hv => nomatch hv

variable [Engine C] (σ)

/-! ### Transactions -/

/-- A transaction that cannot be begun changes nothing, and one that is given up undoes all since its beginning. -/
structure RollsBack : Prop where
  begin_error {c c' : C} {e : Failure} (h : Engine.begin c = (c', .error e)) : σ.Same c c'
  abandon {c c' : C} (h : Dropped c c') : σ.Same c (Engine.abandon c')

/-- A transaction begins where none is open, on the version that is there.  Committed, it leaves its own version. -/
structure Commits : Prop where
  begin_ok {c c' : C} (h : Engine.begin c = (c', .ok ())) :
    σ.saved c = [] ∧ σ.now c' = σ.now c ∧ σ.settings c' = σ.settings c
  begins {c : C} (h : σ.saved c = []) : ∃ c', Engine.begin c = (c', .ok ())
  commit {c c' : C} (h : Engine.commit c = (c', .ok ())) :
    σ.now c' = σ.now c ∧ σ.saved c' = [] ∧ σ.settings c' = σ.settings c
  settings {c c' : C} {sql : Text} (hsql : LoadStatement sql) {parameters : List Sql.Value} {n : Nat}
    (h : Engine.execute c sql parameters = (c', .ok n)) : σ.settings c' = σ.settings c

/-- The queries of the store answer from the version that is there. -/
structure Answers : Prop where
  congr {c c' : C} (hnow : σ.now c' = σ.now c) (hsettings : σ.settings c' = σ.settings c) {sql : Text}
    {parameters : List Sql.Value} (hsql : StoreQuery sql parameters) :
    Engine.prepare c' sql = Engine.prepare c sql ∧
      (Engine.query c' sql parameters).2 = (Engine.query c sql parameters).2

/-! ### The table of header mappings -/

/-- Texts are compared byte by byte, and a row that is put in takes the place of the one with its table and header. -/
structure KeepsMappings : Prop where
  read {c : C} {kept : List Mapping} (h : σ.Keeps (σ.now c) (kept.map mappingRow))
    (hkept : kept.Pairwise Mapping.Before) :
    ∃ headers, Engine.prepare c Store.mappingQuery = .ok headers ∧
      (Engine.query c Store.mappingQuery []).2 = ⟨kept.map mappingRow, none⟩
  drop {c c' : C} {rows : Multiset (List Sql.Value)} (h : σ.Keeps (σ.now c) rows) {table : Text} {n : Nat}
    (hdrop : Engine.execute c Store.dropMappingsSql [.text table] = (c', .ok n)) :
    σ.Keeps (σ.now c') (rows.filter fun row => row.head? ≠ some (.text table))
  keep {c c' : C} {rows : Multiset (List Sql.Value)} (h : σ.Keeps (σ.now c) rows) {e : Mapping} {n : Nat}
    (hkeep : Engine.execute c Store.keepMappingSql (mappingRow e) = (c', .ok n)) :
    σ.Keeps (σ.now c') (mappingRow e ::ₘ rows.filter fun row => row.take 2 ≠ [.text e.table, .text e.label])

/-- The statements on the table of header mappings are carried out where statements that write are, unless there is no
room, and so is the commit of a load. -/
structure WritesMappings : Prop where
  clear {v : σ.Version} {rows : Multiset (List Sql.Value)} (h : σ.Keeps v rows) : σ.Clear v Store.mappingTableName
  prepare {c : C} {rows : Multiset (List Sql.Value)} (h : σ.Keeps (σ.now c) rows) :
    ∃ headers, Engine.prepare c Store.keepMappingSql = .ok headers
  writes {c c' : C} {sql : Text} (hsql : MappingStatement sql) {parameters : List Sql.Value} {n : Nat}
    (h : Engine.execute c sql parameters = (c', .ok n)) : σ.Writes (σ.settings c)
  drop {c c' : C} {rows : Multiset (List Sql.Value)} (h : σ.Keeps (σ.now c) rows) (hwrites : σ.Writes (σ.settings c))
    {table : Text} {e : Failure}
    (hdrop : Engine.execute c Store.dropMappingsSql [.text table] = (c', .error e)) : σ.Full e
  keep {c c' : C} {rows : Multiset (List Sql.Value)} (h : σ.Keeps (σ.now c) rows) (hwrites : σ.Writes (σ.settings c))
    {new : Mapping} {e : Failure}
    (hkeep : Engine.execute c Store.keepMappingSql (mappingRow new) = (c', .error e)) : σ.Full e
  commit {c c₁ c₂ : C} (hbegin : Engine.begin c = (c₁, .ok ())) {table : Text} {headers : List Text}
    {rows : List (List Text)} (hclear : σ.Clear (σ.now c) table) {kept : Multiset (List Sql.Value)}
    (hkeeps : σ.Keeps (σ.now c) kept) (hfilled : (Store.fillTable c₁ (planTable table headers) rows).answer = .ok ())
    {e : Failure}
    (hcommit : Engine.commit (Store.fillTable c₁ (planTable table headers) rows).state = (c₂, .error e)) : σ.Full e

/-- A store is opened on the table of header mappings of its file, or makes one.  Its file has what was committed. -/
structure OpensStores : Prop where
  new : σ.Opens none 0
  opened {content : Option Content} {rows : Multiset (List Sql.Value)} (h : σ.Opens content rows) {c c' : C}
    (hconnect : Engine.connect content = .ok c) {n : Nat}
    (hexecute : Engine.execute c Store.mappingTableSql [] = (c', .ok n)) :
    σ.Keeps (σ.now c') rows ∧ σ.saved c' = []
  isDatabase (c : C) : Engine.isDatabase C (Engine.content c)
  content {c : C} {rows : Multiset (List Sql.Value)} (h : σ.Keeps (σ.committed c) rows) :
    σ.Opens (some (Engine.content c)) rows
  connects {c : C} {rows : Multiset (List Sql.Value)} (h : σ.Keeps (σ.committed c) rows) :
    ∃ c₁ c₂ : C, ∃ n, Engine.connect (some (Engine.content c)) = .ok c₁ ∧
      Engine.execute c₁ Store.mappingTableSql [] = (c₂, .ok n)

end Semantics

end SheetQuery
