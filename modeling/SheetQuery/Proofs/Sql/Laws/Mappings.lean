import SheetQuery.Proofs.Session.Loads
import SheetQuery.Proofs.Sql.Laws.Transactions

/-!
# The table of header mappings as a table of the database

A store is opened on the table of header mappings that its file has, or makes one.  Rows are dropped, put in and read as
the laws have it.

* `execute_mappingTableSql_of_some`, `execute_mappingTableSql_eq_ok`: a table that is there stays as it is.
* `opensStores`, `keepsMappings`, `writesMappings`: the laws.
-/

namespace SheetQuery

open Sql (Catalog Database Row Schema Value)

/-! ### The table is made -/

namespace Store

/-- The definition of the table of header mappings. -/
def mappingDefinition : Sql.TableDefinition :=
  let column (name : String) : Sql.ColumnDefinition := ⟨name.toList, "TEXT".toList, true, false, none⟩
  ⟨mappingName 27, true, ["table_name", "original", "identifier"].map column,
    ["table_name", "original"].map String.toList⟩

theorem readStatement_mappingTableSql :
    Sql.readStatement mappingTableSql = .ok (some ⟨.createTable mappingDefinition, 0, []⟩) := by
  decide +kernel

private theorem tableHead?_mappingTableSql : Sql.tableHead? mappingTableSql = some (mappingName 27, true) := by
  decide +kernel

private theorem table_mappingDefinition : mappingDefinition.table = mappingTable := by
  decide +kernel

variable {db db' : Database} {n : Nat}

/-- A table of header mappings that is there stays as it is. -/
theorem execute_mappingTableSql_of_some (h : (db.catalog.main.find? mappingTableName).isSome) :
    ∃ n, Engine.execute db mappingTableSql [] = (db, .ok n) := by
  have hsome : ((db.catalog.schema false).find? mappingTableName).isSome := h
  have hcheck : db.catalog.checkNewTable (mappingName 27) true = .ok none :=
    bind_eq_ok.2 ⟨false, rfl, (if_neg (by decide +kernel)).trans ((if_pos hsome).trans rfl)⟩
  have hhead : db.checkHead mappingTableSql = .ok () := by
    rw [Database.checkHead, tableHead?_mappingTableSql]
    exact bind_eq_ok.2 ⟨_, hcheck, rfl⟩
  have hprepare : db.catalog.prepare (.createTable mappingDefinition) = .ok .nothing := bind_eq_ok.2 ⟨_, hcheck, rfl⟩
  have hcompile := Database.compile_of_checked hhead readStatement_mappingTableSql hprepare
  exact ⟨_, Database.engineExecute_of_perform hcompile rfl rfl⟩

/-- Where there is none, it is made. -/
theorem execute_mappingTableSql_eq_ok (h : Engine.execute db mappingTableSql [] = (db', .ok n)) :
    (db.catalog.main.find? mappingTableName).isSome ∧ db' = db ∨ db.catalog.main.find? mappingTableName = none ∧
      db' = { db with catalog := db.catalog.modify false (·.create mappingTable) } := by
  cases hfind : db.catalog.main.find? mappingTableName with
  | some t =>
    have hsome : (db.catalog.main.find? mappingTableName).isSome := by
      rw [hfind]
      rfl
    obtain ⟨n', hsame⟩ := execute_mappingTableSql_of_some hsome
    cases h.symm.trans hsame
    exact .inl ⟨rfl, rfl⟩
  | none =>
    have hnone : ¬ ((db.catalog.schema false).find? mappingTableName).isSome := by
      change ¬ (db.catalog.main.find? mappingTableName).isSome
      rw [hfind]
      exact Bool.false_ne_true
    have hcheck : db.catalog.checkNewTable (mappingName 27) true = .ok (some false) :=
      bind_eq_ok.2 ⟨false, rfl, (if_neg (by decide +kernel)).trans ((if_neg hnone).trans rfl)⟩
    have hprepare : db.catalog.prepare (.createTable mappingDefinition) = .ok (.createTable false mappingTable) := by
      rw [← table_mappingDefinition]
      exact bind_eq_ok.2 ⟨_, hcheck, bind_eq_ok.2 ⟨(), by decide +kernel, rfl⟩⟩
    obtain ⟨p, parsed, hread, -, haction, hperform⟩ := Database.exists_of_engineExecute h
    cases readStatement_mappingTableSql.symm.trans hread
    rw [← Except.ok.inj (hprepare.symm.trans haction)] at hperform
    exact .inr ⟨rfl, (Database.define_eq_ok hperform).2.1⟩

/-- The query yields the rows in the order of tables and headers. -/
theorem engineQuery_mappingQuery {rows : List Row} (h : Holds db.catalog rows) :
    Engine.prepare db mappingQuery = .ok queryHeaders ∧
      Engine.query db mappingQuery [] = (db, ⟨(rows.map (·.values)).mergeSort keyBefore, none⟩) := by
  have hhead : Sql.tableHead? mappingQuery = none := by decide +kernel
  have hcompile := Database.compile_of_read hhead readStatement_mappingQuery (prepare_mappingQuery h)
  exact Database.engineQuery_of_compile hcompile (by decide +kernel) (by decide +kernel)

end Store

namespace Sql

/-- The tables of a file with those of a connection that is opened on it. -/
theorem Schema.HasMappings.holds {s : Schema} {rows : List Row} (h : s.HasMappings rows) {db : Database} {n : Nat}
    (hexecute : Engine.execute (Database.ofSchema s) Store.mappingTableSql [] = (db, .ok n)) :
    Store.Holds db.catalog rows := by
  have hquiet : ∀ temporary, ((Database.ofSchema s).catalog.schema temporary).Quiet Store.mappingTableName := by
    rintro (_ | _)
    · exact h.quiet
    · exact fun d hd => nomatch hd
  rcases Store.execute_mappingTableSql_eq_ok hexecute with ⟨hsome, rfl⟩ | ⟨hnone, rfl⟩
  · refine ⟨h.table.resolve_left fun hnil => ?_, rfl, hquiet, h.valid⟩
    change (s.find? Store.mappingTableName).isSome at hsome
    rw [Schema.under_eq_nil.1 hnil.1] at hsome
    cases hsome
  · have hunder := Schema.under_eq_nil.2 hnone
    have hrows : rows = [] := by
      rcases h.table with ⟨-, hrows⟩ | hone
      · exact hrows
      · cases hunder.symm.trans hone
    subst hrows
    refine ⟨?_, rfl, fun temporary => ?_, .empty⟩
    · change (s.create Store.mappingTable).under _ = _
      rw [Schema.under_create, show s.under Store.mappingTableName = [] from hunder]
      rfl
    · cases temporary
      · exact hquiet false
      · exact hquiet true

namespace Database

theorem committed_eq (db : Database) : semantics.committed db = (db.before).getD db.catalog := by
  change (db.before.toList).getLastD db.catalog = _
  cases db.before <;> rfl

theorem engineConnect_eq_ok {content : Option Content} {db : Database} (h : Engine.connect content = .ok db) :
    ∃ tables, schemaOf content = .ok tables ∧ db = ofSchema tables := by
  simp only [Engine.connect] at h
  split at h
  · rename_i tables htables
    exact ⟨tables, htables, (Except.ok.inj h).symm⟩
  · cases h

/-! ### The laws -/

theorem opensStores : semantics.OpensStores where
  new := by
    intro tables htables
    cases htables
    exact ⟨[], ⟨.inl ⟨rfl, rfl⟩, fun _ hd => (nomatch hd), .empty⟩, rfl⟩
  opened {content rows} h {c c'} hconnect {n} hexecute := by
    obtain ⟨tables, htables, rfl⟩ := engineConnect_eq_ok hconnect
    obtain ⟨stored, hmappings, hstored⟩ := h tables htables
    refine ⟨⟨stored, hmappings.holds hexecute, hstored⟩, ?_⟩
    rcases Store.execute_mappingTableSql_eq_ok hexecute with ⟨-, rfl⟩ | ⟨-, rfl⟩
    · rfl
    · rfl
  isDatabase c := rfl
  content {c rows} h := by
    obtain ⟨stored, hholds, hstored⟩ := h
    rintro tables htables
    cases htables
    rw [committed_eq] at hholds
    exact ⟨stored, ⟨.inr hholds.main, hholds.quiet false, hholds.valid⟩, hstored⟩
  connects {c rows} h := by
    obtain ⟨stored, hholds, -⟩ := h
    rw [committed_eq] at hholds
    have hsome : ((ofSchema c.committed).catalog.main.find? Store.mappingTableName).isSome := by
      rw [show (ofSchema c.committed).catalog.main.find? Store.mappingTableName = _ from hholds.shows.found]
      rfl
    obtain ⟨n, hexecute⟩ := Store.execute_mappingTableSql_of_some hsome
    exact ⟨_, _, n, rfl, hexecute⟩

theorem keepsMappings : semantics.KeepsMappings where
  read {c kept} h hkept := by
    obtain ⟨stored, hholds, hstored⟩ := h
    obtain ⟨hprepare, hquery⟩ := Store.engineQuery_mappingQuery hholds
    rw [Store.mergeSort_eq_of_perm_values hholds.valid (Multiset.coe_eq_coe.1 hstored),
      Store.mergeSort_mappingRows hkept] at hquery
    exact ⟨_, hprepare, congrArg Prod.snd hquery⟩
  drop {c c' rows} h {table n} hdrop := by
    obtain ⟨stored, hholds, rfl⟩ := h
    rcases Store.execute_dropMappings hholds (Store.writes_of_execute (.inl rfl) hdrop) table with
      ⟨db, m, hok, hholds'⟩ | ⟨db, herror⟩
    · cases hdrop.symm.trans hok
      exact ⟨_, hholds', hholds.valid.values_droppedRows table⟩
    · cases hdrop.symm.trans herror
  keep {c c' rows} h {e n} hkeep := by
    obtain ⟨stored, hholds, rfl⟩ := h
    rcases Store.execute_keepMapping hholds (Store.writes_of_execute (.inr rfl) hkeep) e with
      ⟨db, m, hok, hholds'⟩ | ⟨db, herror⟩
    · cases hkeep.symm.trans hok
      exact ⟨_, hholds', hholds.valid.values_withRow e⟩
    · cases hkeep.symm.trans herror

theorem writesMappings : semantics.WritesMappings where
  clear {v rows} h := by
    obtain ⟨stored, hholds, -⟩ := h
    exact hholds.quiet
  prepare {c rows} h := by
    obtain ⟨stored, hholds, -⟩ := h
    have hcompile := compile_of_read Store.tableHead?_keepMappingSql Store.readStatement_keepMappingSql
      hholds.prepare_keepMapping
    exact ⟨_, enginePrepare_of_compile hcompile (by decide +kernel) (by decide +kernel)⟩
  writes {c c' sql} hsql {parameters n} h := Store.writes_of_execute hsql h
  drop {c c' rows} h hwrites {table e} hdrop := by
    obtain ⟨stored, hholds, -⟩ := h
    rcases Store.execute_dropMappings hholds hwrites table with ⟨db, m, hok, -⟩ | ⟨db, herror⟩
    · cases hdrop.symm.trans hok
    · cases hdrop.symm.trans herror
      rfl
  keep {c c' rows} h hwrites {new e} hkeep := by
    obtain ⟨stored, hholds, -⟩ := h
    rcases Store.execute_keepMapping hholds hwrites new with ⟨db, m, hok, -⟩ | ⟨db, herror⟩
    · cases hkeep.symm.trans hok
    · cases hkeep.symm.trans herror
      rfl
  commit {c c₁ c₂} hbegin {table headers rows} _ {kept} _ hfilled {e} hcommit := by
    obtain ⟨-, hinside⟩ := inside_of_working (Store.working_of_fillTable (.begun hbegin) hfilled)
    have hanswer := congrArg Prod.snd ((engineCommit_of_some hinside.before).symm.trans hcommit)
    cases hanswer

end Database

end Sql

end SheetQuery
