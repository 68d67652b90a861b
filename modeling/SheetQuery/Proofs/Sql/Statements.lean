import SheetQuery.Proofs.Engine.Semantics
import SheetQuery.Proofs.Sql.Compiled
import SheetQuery.Proofs.Sql.Locality
import SheetQuery.Proofs.Text.Joining
import SheetQuery.Sql.Connection

/-!
# The statements of a load

What the statements that the store itself runs read as, and what they do to the database: whatever its name is, a table
is created, or rows of one are put in or deleted, and nothing else changes.

* `Places`: where a table is created under a text; `exists_places`: its rows go there.
* `LoadStatement.about`: a statement of a load is on tables of one name.
* `engineExecute_of_perform`, `engineExecute_of_fault`: what is answered for a statement that is carried out.
* `Database.Carries`: what such a statement does if it does not fail; `carries_of_execute` says that it does.
-/

namespace SheetQuery

open Sql (Catalog Database)

namespace Store

/-- The table of header mappings as a statement names it at some place. -/
def mappingName (offset : Nat) : Sql.TableName := ⟨⟨mappingTableName, mappingTableName, offset⟩, none⟩

/-- The statement that drops the mappings kept for a table. -/
def dropMappings : Sql.Statement :=
  .delete (mappingName 12) (some (.binary .equal (.column none "table_name".toList false 42) (.parameter 1)))

/-- The statement that keeps a mapping. -/
def keepMapping : Sql.Statement :=
  .insert (mappingName 23) true (["table_name", "original", "identifier"].map String.toList)
    [[.parameter 1, .parameter 2, .parameter 3]]

/-- The statement that reads the mappings. -/
def readMappings : Sql.Statement :=
  let column (name : String) (offset : Nat) : Sql.Expr := .column none name.toList false offset
  .select
    ⟨⟨[.expr (column "table_name" 7) none "table_name".toList, .expr (column "original" 19) none "original".toList,
        .expr (column "identifier" 29) none "identifier".toList], none,
      [⟨column "table_name" 78, false⟩, ⟨column "original" 90, false⟩], none, none⟩,
     .table (mappingName 45) none .none⟩

theorem readStatement_dropMappingsSql :
    Sql.readStatement dropMappingsSql = .ok (some ⟨dropMappings, 1, []⟩) := by
  decide +kernel

theorem readStatement_keepMappingSql :
    Sql.readStatement keepMappingSql = .ok (some ⟨keepMapping, 3, []⟩) := by
  decide +kernel

theorem readStatement_mappingQuery :
    Sql.readStatement mappingQuery = .ok (some ⟨readMappings, 0, []⟩) := by
  decide +kernel

theorem tableHead?_keepMappingSql : Sql.tableHead? keepMappingSql = none := by
  decide +kernel

end Store

/-! ### Where a table goes -/

/-- A statement that creates a table under the text creates it under the name in one schema, or fails. -/
def Places (text : Text) (temporary : Bool) (name : Text) : Prop :=
  ∀ columns created d, Sql.readStatement ("CREATE TABLE ".toList ++ (text ++ ' ' :: '(' :: columns)) = .ok (some created) →
    created.statement = .createTable d →
      d.ifNotExists = false ∧ d.name.name = name ∧ Catalog.target d.name = .ok temporary

/-- The parameters of a row close no quote and no comment. -/
private theorem closers_not_mem (n : Nat) :
    ∀ x ∈ Sql.closers, x ∉ Text.joinWith ", ".toList (List.replicate n ['?']) ++ ")".toList := by
  have hapart : ∀ x ∈ Sql.closers, x ∉ ", ".toList ++ ['?'] ++ ")".toList := Sql.not_mem_of_closers (by decide)
  have hmarks : ∀ x ∈ Text.joinWith ", ".toList (List.replicate n ['?']), x ∈ ", ".toList ++ ['?'] := by
    refine forall_mem_intercalate (fun x hx => List.mem_append_left _ hx) fun part hpart x hx => ?_
    rw [List.eq_of_mem_replicate hpart] at hx
    exact List.mem_append_right _ hx
  intro x hx hmem
  refine hapart x hx ?_
  rcases List.mem_append.1 hmem with h | h
  · exact List.mem_append_left _ (hmarks x h)
  · exact List.mem_append_right _ h

section

variable {plan : TablePlan} {db db' : Database} {parsed : Sql.Parsed}

theorem readStatement_createSql_eq (h : Sql.readStatement plan.createSql = .ok (some parsed)) :
    ∃ d, parsed.statement = .createTable d := by
  rw [TablePlan.createSql_eq] at h
  obtain ⟨d, _, _, _, hd, -⟩ := Sql.readStatement_createTable h
  exact ⟨d, hd⟩

/-- Where the table of a plan can be created and its rows can be put in, all tables of its text go, and its rows. -/
theorem exists_places {d : Sql.TableDefinition} (hcreate : Sql.readStatement plan.createSql = .ok (some parsed))
    (hd : parsed.statement = .createTable d) {temporary : Bool} (htarget : Catalog.target d.name = .ok temporary)
    {inserted : Sql.Parsed} (hinsert : Sql.readStatement plan.insertSql = .ok (some inserted)) :
    Places plan.table temporary d.name.name ∧ inserted.statement.About d.name.name := by
  rw [TablePlan.insertSql_eq] at hinsert
  rw [TablePlan.createSql_eq] at hcreate
  obtain ⟨target, columns, rows, _, _, hstatement, -⟩ := Sql.readStatement_insertInto hinsert
  have hsame : ∀ columns created d,
      Sql.readStatement ("CREATE TABLE ".toList ++ (plan.table ++ ' ' :: '(' :: columns)) = .ok (some created) →
        created.statement = .createTable d → d.ifNotExists = false ∧ d.name.Same target := fun _ _ d hcreate hd =>
    Sql.created_same (closers_not_mem _) hcreate hinsert hd hstatement
  obtain ⟨-, hd'⟩ := hsame _ _ d hcreate hd
  refine ⟨fun columns created d₁ hcreate₁ hd₁ => ?_, ?_⟩
  · obtain ⟨hexists, hsame₁⟩ := hsame columns created d₁ hcreate₁ hd₁
    exact ⟨hexists, (hsame₁.trans hd'.symm).name, (hd'.trans hsame₁.symm).target htarget⟩
  · rw [hstatement]
    exact hd'.name.symm

end

/-! ### What the statements do -/

/-- A statement of a load is on tables of one name. -/
theorem LoadStatement.about {sql : Text} (h : LoadStatement sql) {parsed : Sql.Parsed}
    (hread : Sql.readStatement sql = .ok (some parsed)) : ∃ name, parsed.statement.About name := by
  cases h with
  | create table headers =>
    obtain ⟨d, hd⟩ := readStatement_createSql_eq hread
    exact ⟨d.name.name, hd ▸ rfl⟩
  | insert table headers =>
    rw [TablePlan.insertSql_eq] at hread
    obtain ⟨target, columns, rows, _, _, hstatement, -⟩ := Sql.readStatement_insertInto hread
    exact ⟨target.name, hstatement ▸ rfl⟩
  | drop =>
    cases Store.readStatement_dropMappingsSql.symm.trans hread
    exact ⟨Store.mappingTableName, rfl⟩
  | keep =>
    cases Store.readStatement_keepMappingSql.symm.trans hread
    exact ⟨Store.mappingTableName, rfl⟩

theorem MappingStatement.about {sql : Text} (h : MappingStatement sql) {parsed : Sql.Parsed}
    (hread : Sql.readStatement sql = .ok (some parsed)) : parsed.statement.About Store.mappingTableName := by
  rcases h with rfl | rfl
  · cases Store.readStatement_dropMappingsSql.symm.trans hread
    rfl
  · cases Store.readStatement_keepMappingSql.symm.trans hread
    rfl

namespace Sql.Database

variable {db db' : Database} {sql : Text} {parameters : List Value} {n : Nat}

theorem engineExecute_eq_ok :
    Engine.execute db sql parameters = (db', .ok n) ↔ db.execute sql parameters = (db', .ok (.affected n)) := by
  change db.carryOut sql parameters = _ ↔ _
  unfold carryOut
  split <;> simp [*]

theorem engineExecute_fst : (Engine.execute db sql parameters).1 = (db.execute sql parameters).1 := by
  change (db.carryOut sql parameters).1 = _
  unfold carryOut
  split <;> simp [*]

section

variable {p : Prepared} (hcompile : db.compile sql = .ok (some p)) (hparameters : p.parameters = parameters.length)

include hcompile hparameters

private theorem execute_of_compile : db.execute sql parameters = db.performPrepared p parameters := by
  unfold execute
  rw [hcompile]
  exact if_pos hparameters

/-- What a prepared statement comes to decides what is answered for it. -/
theorem engineExecute_of_perform (hperform : db.perform parameters p.action = (db', .ok (.affected n))) :
    Engine.execute db sql parameters = (db', .ok n) := by
  rw [engineExecute_eq_ok, execute_of_compile hcompile hparameters, performPrepared, hperform]
  rfl

theorem engineExecute_of_fault {fault : Fault} (hperform : db.perform parameters p.action = (db', .error fault)) :
    Engine.execute db sql parameters = (db', .error fault.failure) := by
  change db.carryOut sql parameters = _
  rw [carryOut, execute_of_compile hcompile hparameters, performPrepared, hperform]
  rfl

end

/-- A statement that is carried out has been read, and what it was prepared to has been done. -/
theorem exists_of_engineExecute (h : Engine.execute db sql parameters = (db', .ok n)) :
    ∃ p parsed, readStatement sql = .ok (some parsed) ∧ db.compile sql = .ok (some p) ∧
      db.catalog.prepare parsed.statement = .ok p.action ∧ db.perform parameters p.action = (db', .ok (.affected n)) := by
  obtain ⟨p, hcompile, -, hperform⟩ := execute_eq_ok (engineExecute_eq_ok.1 h)
  obtain ⟨parsed, hread, hprepare, -⟩ := compile_eq_some hcompile
  exact ⟨p, parsed, hread, hcompile, hprepare, hperform⟩

theorem enginePrepare_of_compile {p : Prepared} (hcompile : db.compile sql = .ok (some p))
    (hlist : sql ≠ Store.tablesSql) (hinfo : sql ≠ Store.tableInfoSql) : Engine.prepare db sql = .ok p.action.headers := by
  change db.headersOf sql = _
  rw [headersOf, if_neg hlist, if_neg hinfo, hcompile]

/-- A query has the result that it was prepared to. -/
theorem engineQuery_of_compile {result : Relation} (hcompile : db.compile sql = .ok (some ⟨.rows result, 0⟩))
    (hlist : sql ≠ Store.tablesSql) (hinfo : sql ≠ Store.tableInfoSql) :
    Engine.prepare db sql = .ok (result.columns.map (·.name)) ∧
      Engine.query db sql [] = (db, ⟨result.rows, none⟩) := by
  refine ⟨enginePrepare_of_compile hcompile hlist hinfo, ?_⟩
  change answer.answerOf (db.execute sql []) = _
  unfold execute
  rw [hcompile]
  rfl

/-- The names of columns are there only for statements that can be read. -/
theorem exists_of_enginePrepare {headers : List Text} (h : Engine.prepare db sql = .ok headers)
    (hlist : sql ≠ Store.tablesSql) (hinfo : sql ≠ Store.tableInfoSql) (hread : readStatement sql ≠ .ok none) :
    ∃ p parsed, readStatement sql = .ok (some parsed) ∧ db.compile sql = .ok (some p) ∧
      db.catalog.prepare parsed.statement = .ok p.action := by
  change db.headersOf sql = _ at h
  rw [headersOf, if_neg hlist, if_neg hinfo] at h
  split at h
  · cases h
  · rename_i hcompile
    exact absurd hcompile fun hnone => hread (readStatement_of_compile_none hnone)
  · rename_i p hcompile
    obtain ⟨parsed, hread, hprepare, -⟩ := compile_eq_some hcompile
    exact ⟨p, parsed, hread, hcompile, hprepare⟩

private theorem answer_text (db : Database) (sql name : Text) : db.answer sql [.text name] =
    if sql = Store.tablesSql then (db, ⟨(db.tableNames name).map ([.text ·]), none⟩)
    else if sql = Store.tableInfoSql then
      match db.infoFault? with
      | some fault => (db, ⟨[], some fault.failure⟩)
      | none => (db, ⟨((db.findTable? name).map fun t => t.columns.mapIdx infoRow).getD [], none⟩)
    else answer.answerOf (db.execute sql [.text name]) := rfl

theorem enginePrepare_tablesSql (db : Database) : Engine.prepare db Store.tablesSql = .ok tablesHeaders := by
  change db.headersOf Store.tablesSql = _
  rw [headersOf, if_pos rfl]

theorem engineQuery_tablesSql (db : Database) (name : Text) :
    Engine.query db Store.tablesSql [.text name] = (db, ⟨(db.tableNames name).map ([.text ·]), none⟩) := by
  exact (answer_text db _ name).trans (if_pos rfl)

private theorem tableInfoSql_ne : Store.tableInfoSql ≠ Store.tablesSql := by decide +kernel

theorem enginePrepare_tableInfoSql (db : Database) : Engine.prepare db Store.tableInfoSql =
    match db.infoFault? with
    | some fault => .error fault.failure
    | none => .ok infoHeaders := by
  change db.headersOf Store.tableInfoSql = _
  unfold headersOf
  refine (if_neg tableInfoSql_ne).trans ((if_pos rfl).trans ?_)
  cases db.infoFault? <;> rfl

theorem engineQuery_tableInfoSql (db : Database) (name : Text) : Engine.query db Store.tableInfoSql [.text name] =
    match db.infoFault? with
    | some fault => (db, ⟨[], some fault.failure⟩)
    | none => (db, ⟨((db.findTable? name).map fun t => t.columns.mapIdx infoRow).getD [], none⟩) := by
  exact (answer_text db _ name).trans ((if_neg tableInfoSql_ne).trans (if_pos rfl))

/-- Statements on tables of the name have been carried out: transactions and settings are as they were. -/
structure Carries (name : Text) (db db' : Database) : Prop where
  step : db.catalog.StepAt name db'.catalog
  before : db'.before = db.before
  readOnly : db'.readOnly = db.readOnly
  pageLimit : db'.pageLimit = db.pageLimit

theorem carries_of_perform {name : Text} {s : Statement} (hs : s.About name) {a : Action}
    (ha : db.catalog.prepare s = .ok a) {outcome : Outcome} (h : db.perform parameters a = (db', .ok outcome)) :
    db.Carries name db' := by
  rcases perform_cases db parameters (Catalog.ordinary_of_prepare ha hs.ordinary) with
    ⟨n, h'⟩ | ⟨c, n, hc, h'⟩ | ⟨-, fault, hfault⟩
  · rw [h] at h'
    cases h'
    exact ⟨.refl, rfl, rfl, rfl⟩
  · rw [h] at h'
    cases h'
    exact ⟨Catalog.stepAt_of_yields hs ha hc, rfl, rfl, rfl⟩
  · rw [h] at hfault
    cases hfault

theorem carries_of_execute {name : Text} (hs : ∀ parsed, readStatement sql = .ok (some parsed) → parsed.statement.About name)
    (h : Engine.execute db sql parameters = (db', .ok n)) : db.Carries name db' := by
  obtain ⟨p, parsed, hread, -, hprepare, hperform⟩ := exists_of_engineExecute h
  exact carries_of_perform (hs parsed hread) hprepare hperform

end Sql.Database

/-- What a statement of a load does if it does not fail. -/
theorem LoadStatement.carries {sql : Text} (hsql : LoadStatement sql) {db db' : Database} {parameters : List Sql.Value}
    {n : Nat} (h : Engine.execute db sql parameters = (db', .ok n)) : ∃ name, db.Carries name db' := by
  obtain ⟨p, parsed, hread, -, hprepare, hperform⟩ := Database.exists_of_engineExecute h
  obtain ⟨name, hname⟩ := hsql.about hread
  exact ⟨name, Database.carries_of_perform hname hprepare hperform⟩

end SheetQuery
