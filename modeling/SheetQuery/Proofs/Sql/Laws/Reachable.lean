import SheetQuery.Proofs.Engine.Tables
import SheetQuery.Proofs.Sql.Laws.Mappings
import SheetQuery.Proofs.Sql.Numbering

/-!
# Whatever is done on a connection

A transaction goes back only to tables that were there, and what no statement breaks holds of all that an undamaged
database comes to.  So its names of tables stay distinct, and the rows that it counts are those that its statements
change.

* `throughout_of_reachable`: what no statement breaks.
* `savesTables`, `counter_lawful`: the laws.
-/

namespace SheetQuery.Sql.Database

variable {db db' : Database} {sql : Text} {parameters : List Value}

/-! ### What a statement leaves -/

/-- A query leaves what its statement leaves. -/
theorem engineQuery_fst (db : Database) (sql : Text) (parameters : List Value) :
    (Engine.query db sql parameters).1 = db ∨ (Engine.query db sql parameters).1 = (db.execute sql parameters).1 := by
  have hanswer : ∀ r : Database × Except Error Outcome, (answer.answerOf r).1 = r.1 := by
    rintro ⟨db, e | result | count⟩ <;> rfl
  change (db.answer sql parameters).1 = db ∨ (db.answer sql parameters).1 = _
  unfold answer
  split
  · split_ifs
    · exact .inl rfl
    · cases db.infoFault? <;> exact .inl rfl
    · exact .inr (hanswer _)
  · exact .inr (hanswer _)

private theorem control_fst (db : Database) (action : Action) : (db.control action).1 = (db.perform [] action).1 := by
  unfold control
  split <;> simp [*]

/-! ### What no statement breaks -/

/-- What no statement breaks holds of all that a database comes to, if it holds of what is in a file. -/
theorem throughout_of_reachable {p : Catalog → Prop} (hp : KeptByStatements p)
    (hfile : ∀ {content tables}, semantics.Sound content → schemaOf content = .ok tables → p ⟨tables, .empty⟩)
    (h : Reachable semantics.Sound db) : db.Throughout p := by
  have hcontrol : ∀ {db : Database} (action : Action), db.Throughout p → (∀ c, ¬ action.Yields db.catalog c) →
      (db.control action).1.Throughout p := by
    intro db action h haction
    rw [control_fst]
    exact h.perform [] fun c hc => absurd hc (haction c)
  induction h with
  | connect hcontent hconnect =>
    obtain ⟨tables, htables, rfl⟩ := engineConnect_eq_ok hconnect
    exact ⟨hfile hcontent htables, fun c hc => nomatch hc⟩
  | @execute c c' _ sql parameters answer hexecute ih =>
    have hkept := ih.execute hp sql parameters
    rw [← engineExecute_fst, hexecute] at hkept
    exact hkept
  | query _ sql parameters ih =>
    rcases engineQuery_fst _ sql parameters with hsame | hsame
    · rw [hsame]
      exact ih
    · rw [hsame]
      exact ih.execute hp sql parameters
  | @begin c c' _ answer hbegin ih =>
    have hkept : (Engine.begin c).1.Throughout p := hcontrol (.begin false) ih fun _ => id
    rw [hbegin] at hkept
    exact hkept
  | @commit c c' _ answer hcommit ih =>
    have hkept : (Engine.commit c).1.Throughout p := hcontrol .commit ih fun _ => id
    rw [hcommit] at hkept
    exact hkept
  | abandon _ ih => exact hcontrol .rollback ih fun _ => id

/-- No two tables of the main schema have the same name, in any case. -/
theorem distinct_of_reachable (h : Reachable semantics.Sound db) : db.catalog.main.Distinct := by
  refine (throughout_of_reachable keptByStatements_distinct (fun hsound htables temporary => ?_) h).now false
  cases temporary
  · exact (hsound _ htables).1
  · exact List.nodup_nil

theorem numbered_of_reachable (h : Reachable semantics.Sound db) : db.catalog.All Table.Numbered := by
  refine (throughout_of_reachable keptByStatements_numbered (fun hsound htables temporary t ht => ?_) h).now
  cases temporary
  · exact (hsound _ htables).2 t ht
  · cases ht

/-! ### What a transaction goes back to -/

private theorem saved_execute {v : Catalog} (hv : v ∈ semantics.saved (db.execute sql parameters).1) :
    v = semantics.now db ∨ v ∈ semantics.saved db := by
  rcases db.execute_cases sql parameters with hdb | ⟨p, -, hdb⟩
  · rw [hdb] at hv
    exact .inr hv
  · rw [hdb] at hv
    have hv : (db.perform parameters p.action).1.before = some v := Option.mem_toList.1 hv
    rcases before_perform db parameters p.action with hnone | hsame | hnow
    · cases hv.symm.trans hnone
    · exact .inr (Option.mem_toList.2 (hsame.symm.trans hv))
    · exact .inl (Option.some.inj (hv.symm.trans hnow))

theorem savesTables : semantics.SavesTables where
  executed {c c' sql parameters answer} h {v} hv := by
    have hstate : c' = (c.execute sql parameters).1 := by rw [← engineExecute_fst, h]
    rw [hstate] at hv
    exact saved_execute hv
  queried {c sql parameters v} hv := by
    rcases engineQuery_fst c sql parameters with hsame | hsame
    · rw [hsame] at hv
      exact .inr hv
    · rw [hsame] at hv
      exact saved_execute hv
  reopened {c c₁ c₂} hconnect {n} hexecute {name} h := by
    cases hconnect
    rw [committed_eq] at h
    have hname : name ∈ c.committed.tables.map (·.name) := h
    rcases Store.execute_mappingTableSql_eq_ok hexecute with ⟨-, rfl⟩ | ⟨-, rfl⟩
    · exact hname
    · obtain ⟨t, ht, hname⟩ := List.mem_map.1 hname
      exact List.mem_map.2 ⟨t, List.mem_append_left _ ht, hname⟩

/-! ### Counted rows -/

private theorem counts_modify {a : Action} (h : a.Counts) (parameters : List Value) (db : Database) :
    ∃ temporary name change, db.perform parameters a = db.modifyRows temporary name change := by
  cases a with
  | insert | update | delete => exact ⟨_, _, _, rfl⟩
  | rows | createTable | dropTable | renameTable | createTrigger | dropTrigger | setting | begin | commit | rollback
  | nothing => exact h.elim

private theorem compile_connection (db : Database) (sql : Text) : db.catalog.connection.compile sql = db.compile sql :=
  @compile_congr db.catalog.connection db rfl sql

private theorem changes_execute (hcounts : ¬ counter.Counts (semantics.now db) sql) :
    (db.execute sql parameters).1.changes = db.changes := by
  rcases db.execute_cases sql parameters with hdb | ⟨p, hcompile, hdb⟩
  · rw [hdb]
  · rw [hdb]
    refine (perform_uncounted db parameters fun haction => hcounts ⟨p, ?_, haction⟩).1
    exact (compile_connection db sql).trans hcompile

theorem counter_lawful : counter.Lawful where
  connected {content c} h := by
    obtain ⟨tables, -, rfl⟩ := engineConnect_eq_ok h
    rfl
  opening v := by
    rintro ⟨p, hcompile, hcounts⟩
    have hprepare := prepare_of_compile hcompile Store.readStatement_mappingTableSql
    rcases Catalog.prepare_createTable hprepare with ⟨haction, -⟩ | ⟨temporary, -, -, -, haction⟩
    · rw [haction] at hcounts
      exact hcounts
    · rw [haction] at hcounts
      exact hcounts
  reported {c c' sql parameters n} h := by
    obtain ⟨p, -, -, -, -, hperform⟩ := exists_of_engineExecute h
    by_cases hcounts : p.action.Counts
    · obtain ⟨temporary, name, change, hmodify⟩ := counts_modify hcounts parameters c
      obtain ⟨-, t, progress, -, -, rfl, houtcome⟩ := modifyRows_eq_ok (hmodify.symm.trans hperform)
      exact Outcome.affected.inj houtcome
    · obtain ⟨hchanges, hanswer⟩ := perform_uncounted c parameters hcounts
      rw [hperform] at hchanges hanswer
      exact (hanswer n rfl).trans hchanges.symm
  counted {c c'} hc {sql} hcounts {parameters n} h := by
    obtain ⟨p, hcompile, hp⟩ := hcounts
    obtain ⟨q, -, -, hcompile', -, hperform⟩ := exists_of_engineExecute h
    cases ((compile_connection c sql).symm.trans hcompile).symm.trans hcompile'
    exact ⟨p, hcompile, (perform_counts (numbered_of_reachable hc) hp hperform).1⟩
  determined {c₁ c₁' c₂ c₂'} hnow {sql} hcounts _ {parameters n₁ n₂} h₁ h₂ := by
    obtain ⟨p, hcompile, hp⟩ := hcounts
    obtain ⟨q, -, -, hcompile₁, -, hperform₁⟩ := exists_of_engineExecute h₁
    obtain ⟨r, -, -, hcompile₂, -, hperform₂⟩ := exists_of_engineExecute h₂
    rw [compile_congr hnow sql] at hcompile₂
    cases hcompile₁.symm.trans hcompile₂
    cases ((compile_connection c₁ sql).symm.trans hcompile).symm.trans hcompile₁
    exact perform_counts_unique hnow hp hperform₂ hperform₁
  uncounted {c sql} hcounts parameters := by
    have hexecute : (c.execute sql parameters).1.changes = c.changes := changes_execute hcounts
    refine ⟨?_, ?_⟩
    · rw [engineExecute_fst]
      exact hexecute
    · rcases engineQuery_fst c sql parameters with hsame | hsame
      · rw [hsame]
      · rw [hsame]
        exact hexecute

end SheetQuery.Sql.Database
