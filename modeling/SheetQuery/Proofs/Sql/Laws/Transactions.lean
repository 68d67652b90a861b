import SheetQuery.Proofs.Sql.Semantics

/-!
# Transactions

A transaction begins where none is open and goes back to the tables of its beginning.  No statement of a load gets out of
it, unless it fails and undoes it.

* `Inside`, `Undone`: a transaction that is open, and one that has been undone; `inside_or_undone_of_dropped`.
* `rollsBack`, `commits`: the laws of transactions.
* `answers`: the queries of the store depend on the tables alone.
-/

namespace SheetQuery.Sql.Database

variable {start db db' : Database}

/-! ### Beginning and end -/

theorem engineBegin_of_none (h : db.before = none) :
    Engine.begin db = ({ db with before := some db.catalog }, .ok ()) := by
  simp [Engine.begin, control, perform, h]

theorem engineBegin_of_some {c : Catalog} (h : db.before = some c) :
    Engine.begin db = (db, .error Fault.nestedBegin.failure) := by
  simp [Engine.begin, control, perform, h]

theorem engineBegin_eq_ok (h : Engine.begin db = (db', .ok ())) :
    db.before = none ∧ db' = { db with before := some db.catalog } := by
  cases hbefore : db.before with
  | none =>
    cases (engineBegin_of_none hbefore).symm.trans h
    exact ⟨rfl, rfl⟩
  | some c => cases (engineBegin_of_some hbefore).symm.trans h

theorem engineCommit_of_some {c : Catalog} (h : db.before = some c) :
    Engine.commit db = ({ db with before := none }, .ok ()) := by
  simp [Engine.commit, control, perform, h]

theorem engineCommit_of_none (h : db.before = none) : Engine.commit db = (db, .error Fault.commitOutside.failure) := by
  simp [Engine.commit, control, perform, h]

/-- The transaction that began on `start` is open. -/
structure Inside (start db : Database) : Prop where
  before : db.before = some start.catalog
  readOnly : db.readOnly = start.readOnly
  pageLimit : db.pageLimit = start.pageLimit

/-- The transaction that began on `start` has been undone. -/
structure Undone (start db : Database) : Prop where
  before : db.before = none
  catalog : db.catalog = start.catalog
  readOnly : db.readOnly = start.readOnly
  pageLimit : db.pageLimit = start.pageLimit

theorem Inside.carries {name : Text} (h : Inside start db) (hdb : db.Carries name db') : Inside start db' :=
  ⟨hdb.before.trans h.before, hdb.readOnly.trans h.readOnly, hdb.pageLimit.trans h.pageLimit⟩

/-- A statement of a load leaves the transaction open or undoes it. -/
theorem Inside.execute (h : Inside start db) {sql : Text} (hsql : LoadStatement sql) (parameters : List Value) :
    Inside start (Engine.execute db sql parameters).1 ∨ Undone start (Engine.execute db sql parameters).1 := by
  rw [engineExecute_fst]
  rcases db.execute_cases sql parameters with hdb | ⟨p, hcompile, hdb⟩
  · rw [hdb]
    exact .inl h
  · rw [hdb]
    obtain ⟨parsed, hread, hprepare, -⟩ := compile_eq_some hcompile
    obtain ⟨name, hname⟩ := hsql.about hread
    rcases perform_cases db parameters (Catalog.ordinary_of_prepare hprepare hname.ordinary) with
      ⟨n, h'⟩ | ⟨c, n, -, h'⟩ | ⟨h', -⟩
    · rw [h']
      exact .inl ⟨h.before, h.readOnly, h.pageLimit⟩
    · rw [h']
      exact .inl ⟨h.before, h.readOnly, h.pageLimit⟩
    · rw [h']
      exact .inr ⟨rfl, by rw [undone, h.before, Option.getD_some], h.readOnly, h.pageLimit⟩

theorem inside_of_working (h : Working db db') : db.before = none ∧ Inside db db' := by
  induction h with
  | begun hbegin =>
    obtain ⟨hnone, rfl⟩ := engineBegin_eq_ok hbegin
    exact ⟨hnone, rfl, rfl, rfl⟩
  | executed _ hsql hexecute ih =>
    obtain ⟨name, hcarries⟩ := hsql.carries hexecute
    exact ⟨ih.1, ih.2.carries hcarries⟩

theorem inside_or_undone_of_dropped (h : Dropped db db') : db.before = none ∧ (Inside db db' ∨ Undone db db') := by
  cases h with
  | working h => exact ⟨(inside_of_working h).1, .inl (inside_of_working h).2⟩
  | failed h hsql hexecute =>
    obtain ⟨hnone, hinside⟩ := inside_of_working h
    have hexecuted := hinside.execute hsql (by assumption)
    rw [hexecute] at hexecuted
    exact ⟨hnone, hexecuted⟩
  | uncommitted h hcommit =>
    obtain ⟨hnone, hinside⟩ := inside_of_working h
    cases (engineCommit_of_some hinside.before).symm.trans hcommit

/-! ### The laws -/

theorem rollsBack : semantics.RollsBack where
  begin_error {c c' e} h := by
    cases hbefore : c.before with
    | none => cases (engineBegin_of_none hbefore).symm.trans h
    | some before =>
      cases (engineBegin_of_some hbefore).symm.trans h
      exact ⟨rfl, rfl, rfl⟩
  abandon {c c'} h := by
    obtain ⟨hnone, hdropped⟩ := inside_or_undone_of_dropped h
    obtain ⟨catalog, before, changes, readOnly, limit⟩ := c
    obtain ⟨catalog', before', changes', readOnly', limit'⟩ := c'
    rcases hdropped with ⟨hopen, hreadOnly, hlimit⟩ | ⟨hclosed, hcatalog, hreadOnly, hlimit⟩
    · dsimp only at hnone hopen hreadOnly hlimit
      subst hnone hopen hreadOnly hlimit
      exact ⟨rfl, rfl, rfl⟩
    · dsimp only at hnone hclosed hcatalog hreadOnly hlimit
      subst hnone hclosed hcatalog hreadOnly hlimit
      exact ⟨rfl, rfl, rfl⟩

theorem commits : semantics.Commits where
  begin_ok {c c'} h := by
    obtain ⟨hnone, rfl⟩ := engineBegin_eq_ok h
    exact ⟨congrArg Option.toList hnone, rfl, rfl⟩
  begins {c} h := ⟨_, engineBegin_of_none (Option.toList_eq_nil_iff.1 h)⟩
  commit {c c'} h := by
    cases hbefore : c.before with
    | none => cases (engineCommit_of_none hbefore).symm.trans h
    | some before =>
      cases (engineCommit_of_some hbefore).symm.trans h
      exact ⟨rfl, rfl, rfl⟩
  settings {c c' sql} hsql {parameters n} h := by
    obtain ⟨name, hcarries⟩ := hsql.carries h
    exact congrArg₂ Prod.mk hcarries.readOnly hcarries.pageLimit

/-! ### Queries of the store -/

/-- A statement that reads answers from the tables alone. -/
private theorem engineQuery_select {sql : Text} {q : Query} {k : Nat}
    (hread : readStatement sql = .ok (some ⟨.select q, k, []⟩)) (hlist : sql ≠ Store.tablesSql)
    (hinfo : sql ≠ Store.tableInfoSql) (hcatalog : db'.catalog = db.catalog) :
    Engine.prepare db' sql = Engine.prepare db sql ∧ (Engine.query db' sql []).2 = (Engine.query db sql []).2 := by
  have hcompile : db'.compile sql = db.compile sql := compile_congr hcatalog sql
  constructor
  · change db'.headersOf sql = db.headersOf sql
    rw [headersOf, headersOf, if_neg hlist, if_neg hinfo, if_neg hlist, if_neg hinfo, hcompile]
  · have hanswer : (db'.execute sql []).2 = (db.execute sql []).2 := by
      unfold execute
      rw [hcompile]
      split
      · rfl
      · rfl
      · rename_i p hp
        obtain ⟨result, -, haction⟩ := map_eq_ok (prepare_of_compile hp hread)
        split
        · unfold performPrepared
          rw [← haction]
          rfl
        · rfl
    have hanswerOf : ∀ r : Database × Except Error Outcome, (answer.answerOf r).2 = (answer.answerOf (db, r.2)).2 := by
      rintro ⟨db', e | result | count⟩ <;> rfl
    change (answer.answerOf (db'.execute sql [])).2 = (answer.answerOf (db.execute sql [])).2
    rw [hanswerOf, hanswer, ← hanswerOf]

theorem answers : semantics.Answers where
  congr {c c'} hnow _ {sql parameters} hsql := by
    have hcatalog : c'.catalog = c.catalog := hnow
    cases hsql with
    | tables =>
      have hnames : ∀ name, c'.tableNames name = c.tableNames name := fun name => by
        rw [tableNames, tableNames, hcatalog]
      rw [enginePrepare_tablesSql, enginePrepare_tablesSql, engineQuery_tablesSql, engineQuery_tablesSql, hnames]
      exact ⟨rfl, rfl⟩
    | tableInfo name =>
      have hfault : c'.infoFault? = c.infoFault? := by rw [infoFault?, infoFault?, hcatalog]
      have hfind : c'.findTable? name = c.findTable? name := by rw [findTable?, findTable?, hcatalog]
      rw [enginePrepare_tableInfoSql, enginePrepare_tableInfoSql, engineQuery_tableInfoSql, engineQuery_tableInfoSql,
        hfault, hfind]
      cases c.infoFault? <;> exact ⟨rfl, rfl⟩
    | mappings => exact engineQuery_select Store.readStatement_mappingQuery (by decide) (by decide) hcatalog

end SheetQuery.Sql.Database
