import SheetQuery.Proofs.Engine.Tables
import SheetQuery.Proofs.Plan
import SheetQuery.Proofs.Sql.Semantics

/-!
# Tables that loads make

A table that is created under a word is one of texts in the main schema, and its rows are put in behind each other.
Whatever the text of a table is, the statements of its load change the tables of one name in one schema only.

* `Creates`: a table is created under a word; `creates_of_execute`.
* `Fills`: a table is created and filled under a text; `exists_fills`.
* `makesTables`, `leavesOthers`, `namesTables`, `takesNames`: the laws.
-/

namespace SheetQuery.Sql

theorem Catalog.HasTable.beside {c c' : Catalog} {other name : Text} {names : List Text} {rows : List (List Text)}
    (h : c.HasTable other names rows) (hc : c.AlikeBeside name c') (hother : ¬ Text.sameName other name) :
    c'.HasTable other names rows :=
  { h with shows := hc.shows hother h.shows }

namespace Database

variable {db db' : Database} {plan : TablePlan} {table : Text} {headers : List Text} {n : Nat}

/-! ### A table is created -/

/-- A table of texts is created under a word in the main schema, where there was none of its name. -/
structure Creates (plan : TablePlan) (db db' : Database) : Prop where
  word : TableWord plan.table
  unreserved : isReservedName plan.table = false
  nonempty : plan.identifiers ≠ []
  distinct : (plan.identifiers.map Text.lower).Nodup
  free : db.catalog.main.find? plan.table = none
  created : db' =
    { db with catalog := db.catalog.modify false (·.create (filledTable plan.table plan.identifiers [])) }

theorem creates_of_execute (hword : table.all Identifier.isWordChar)
    (h : Engine.execute db (planTable table headers).createSql [] = (db', .ok n)) :
    Creates (planTable table headers) db db' := by
  obtain ⟨p, parsed, hread, -, hprepare, hperform⟩ := exists_of_engineExecute h
  obtain ⟨htable, hne, -, offset, -, hstatement⟩ := readStatement_createSql hword (word_identifiers table headers) hread
  rw [hstatement] at hprepare
  rcases Catalog.prepare_createTable hprepare with ⟨-, hexists⟩ | ⟨temporary, htarget, hnone, hnodup, haction⟩
  · cases hexists
  · cases htarget
    rw [haction, table_textDefinitions] at hperform
    rw [List.map_map] at hnodup
    exact ⟨htable, Catalog.not_reserved_of_prepare hprepare, hne, hnodup, hnone, (define_eq_ok hperform).2.1⟩

theorem Creates.hasTable (h : Creates plan db db') (hquiet : db.catalog.main.Quiet plan.table)
    (hvisible : db'.catalog.temp.find? plan.table = none) :
    db'.catalog.HasTable plan.table plan.identifiers [] := by
  refine ⟨h.word, h.unreserved, h.nonempty, h.distinct, fun _ hcells => (nomatch hcells), ?_, hvisible, ?_⟩
  · rw [h.created]
    change (db.catalog.main.create _).find? plan.table = _
    rw [Schema.find?_eq_head?, Schema.under_create, Schema.under_eq_nil.2 h.free, name_filledTable,
      if_pos (Text.sameName_iff.2 rfl)]
    rfl
  · rw [h.created]
    exact hquiet

/-! ### A row is put in -/

theorem insertSql_ne (plan : TablePlan) : plan.insertSql ≠ Store.tablesSql ∧ plan.insertSql ≠ Store.tableInfoSql := by
  rw [TablePlan.insertSql_eq]
  constructor
  · intro h
    cases congrArg List.head? h
  · intro h
    cases congrArg List.head? h

section

variable {rows : List (List Text)} (h : db.catalog.HasTable plan.table plan.identifiers rows)

include h

/-- The statement that puts a row into the table puts it behind the others. -/
theorem compile_insertSql : db.compile plan.insertSql =
    .ok (some ⟨appendAction plan.table plan.columns.length, plan.columns.length⟩) := by
  have hcolumns : plan.columns ≠ [] := fun hnil => h.nonempty (by rw [TablePlan.identifiers, hnil]; rfl)
  obtain ⟨offset, hread⟩ := says_insertSql h.word hcolumns
  have hwidth : (filledTable plan.table plan.identifiers rows).columns.length = plan.columns.length := by
    rw [columns_filledTable, List.length_map, TablePlan.identifiers, List.length_map]
  have hprepare := prepare_appendRow h.shows plan.table offset
  rw [hwidth, name_filledTable] at hprepare
  exact hread.compile hprepare

theorem execute_insertSql (hwrite : db.readOnly = false) {cells : List Text}
    (hcells : cells.length = plan.columns.length) :
    (∃ db' n, Engine.execute db plan.insertSql (cells.map .text) = (db', .ok n) ∧
        db'.catalog.HasTable plan.table plan.identifiers (rows ++ [cells])) ∨
      ∃ db', Engine.execute db plan.insertSql (cells.map .text) = (db', .error Fault.full.failure) := by
  have hwidth : (filledTable plan.table plan.identifiers rows).columns.length = plan.columns.length := by
    rw [columns_filledTable, List.length_map, TablePlan.identifiers, List.length_map]
  have hparameters : plan.columns.length = (cells.map Value.text).length := by rw [List.length_map, hcells]
  have happend := perform_appendRow h.shows (ofTexts_filledTable _ _ _) hwrite (hcells.trans hwidth.symm)
  rw [hwidth, name_filledTable, append_filledTable] at happend
  rcases happend with hperform | ⟨db', hperform⟩
  · refine .inl ⟨_, 1, engineExecute_of_perform (compile_insertSql h) hparameters hperform, ?_⟩
    refine ⟨h.word, h.unreserved, h.nonempty, h.distinct, ?_, ?_⟩
    · refine List.forall_mem_append.2 ⟨h.widths, List.forall_mem_singleton.2 ?_⟩
      rw [hcells, TablePlan.identifiers, List.length_map]
    · have hshows := h.shows.replace_rows (filledTable plan.table plan.identifiers (rows ++ [cells])).rows
      rw [← append_filledTable] at hshows ⊢
      exact hshows
  · exact .inr ⟨db', engineExecute_of_fault (compile_insertSql h) hparameters hperform⟩

theorem writes_of_insertSql {cells : List Text}
    (hinsert : Engine.execute db plan.insertSql (cells.map .text) = (db', .ok n)) : db.readOnly = false := by
  obtain ⟨p, parsed, hread, hcompile, -, hperform⟩ := exists_of_engineExecute hinsert
  cases (compile_insertSql h).symm.trans hcompile
  exact (modifyRows_eq_ok hperform).1

end

/-! ### A table is filled -/

/-- All tables of the text go to one name in one schema.  There was none, and there is one now; nothing else has
changed. -/
structure Fills (plan : TablePlan) (temporary : Bool) (name : Text) (db db' : Database) : Prop where
  places : Places plan.table temporary name
  inserts : ∀ parsed, readStatement plan.insertSql = .ok (some parsed) → parsed.statement.About name
  free : (db.catalog.schema temporary).find? name = none
  there : ((db'.catalog.schema temporary).find? name).isSome
  beside : db.catalog.AlikeBeside name db'.catalog

theorem readStatement_insertSql_ne_none (plan : TablePlan) : readStatement plan.insertSql ≠ .ok none := by
  rw [TablePlan.insertSql_eq]
  exact readStatement_words_ne_none (v := "INSERT".toList) (w := "INTO".toList) (by decide) (by decide) _

/-- The table is made where all tables of its text go. -/
theorem exists_fills_of_created (hcreate : Engine.execute db plan.createSql [] = (db', .ok n)) {names : List Text}
    (hprepare : Engine.prepare db' plan.insertSql = .ok names) :
    ∃ temporary name, Fills plan temporary name db db' ∧
      ∀ parsed d, readStatement plan.createSql = .ok (some parsed) → parsed.statement = .createTable d →
        d.name.name = name ∧ Catalog.target d.name = .ok temporary := by
  obtain ⟨p, parsed, hread, -, hprepared, hperform⟩ := exists_of_engineExecute hcreate
  obtain ⟨_, inserted, hinsert, -, -⟩ := exists_of_enginePrepare hprepare (insertSql_ne plan).1 (insertSql_ne plan).2
    (readStatement_insertSql_ne_none plan)
  obtain ⟨d, hd⟩ := readStatement_createSql_eq hread
  rw [hd] at hprepared
  obtain ⟨checked, hchecked, -⟩ := bind_eq_ok.1 hprepared
  obtain ⟨temporary, htarget, -⟩ := bind_eq_ok.1 hchecked
  obtain ⟨hplaces, habout⟩ := exists_places hread hd htarget hinsert
  have hread' := hread
  rw [TablePlan.createSql_eq] at hread'
  rcases Catalog.prepare_createTable hprepared with ⟨-, hexists⟩ | ⟨temporary', htarget', hnone, -, haction⟩
  · rw [(hplaces _ _ d hread' hd).1] at hexists
    cases hexists
  · cases htarget.symm.trans htarget'
    rw [haction] at hperform
    obtain ⟨-, rfl, -⟩ := define_eq_ok hperform
    have hstep : db.catalog.StepAt d.name.name (db.catalog.modify temporary (·.create d.table)) :=
      .create temporary rfl hnone
    refine ⟨temporary, d.name.name, ⟨hplaces, fun other hother => ?_, hnone, ?_, hstep.alikeBeside⟩, ?_⟩
    · cases hinsert.symm.trans hother
      exact habout
    · rw [Schema.isSome_find?, Catalog.schema_modify, if_pos rfl]
      exact ⟨d.table, List.mem_append_right _ (List.mem_singleton_self _), Text.sameName_iff.2 rfl⟩
    · intro other d' hother hd'
      cases hread.symm.trans hother
      cases hd.symm.trans hd'
      exact ⟨rfl, htarget⟩

/-- The table that is filled is one of a name in one schema, which is the main one under the name of a word. -/
theorem exists_fills (h : Filling (planTable table headers) db db') :
    ∃ temporary name, Fills (planTable table headers) temporary name db db' ∧
      (table.all Identifier.isWordChar → temporary = false ∧ name = table) := by
  induction h with
  | created hcreate hprepare =>
    obtain ⟨temporary, name, hfills, hplace⟩ := exists_fills_of_created hcreate hprepare
    refine ⟨temporary, name, hfills, fun hword => ?_⟩
    obtain ⟨p, parsed, hread, -⟩ := exists_of_engineExecute hcreate
    obtain ⟨-, -, -, offset, -, hstatement⟩ := readStatement_createSql hword (word_identifiers table headers) hread
    obtain ⟨hname, htarget⟩ := hplace parsed _ hread hstatement
    exact ⟨(Except.ok.inj htarget).symm, hname.symm⟩
  | inserted _ _ hinsert ih =>
    obtain ⟨temporary, name, hfills, hplace⟩ := ih
    have hcarries := carries_of_execute hfills.inserts hinsert
    exact ⟨temporary, name, ⟨hfills.places, hfills.inserts, hfills.free, hcarries.step.isSome_find? hfills.there,
      hfills.beside.trans hcarries.step.alikeBeside⟩, hplace⟩

/-- A table that was in sight before and is in sight still is not the one that is filled. -/
theorem Fills.not_sameName {temporary : Bool} {name other : Text} (h : Fills plan temporary name db db')
    {names : List Text} {rows : List (List Text)} (hother : db.catalog.HasTable other names rows)
    (hvisible : db'.catalog.temp.find? other = none) : ¬ Text.sameName other name := by
  intro hsame
  cases temporary with
  | false =>
    have hfree : db.catalog.main.find? name = none := h.free
    rw [← Schema.find?_congr hsame, hother.shows.found] at hfree
    cases hfree
  | true =>
    have hthere : (db'.catalog.temp.find? name).isSome := h.there
    rw [← Schema.find?_congr hsame, hvisible] at hthere
    cases hthere

/-! ### Statements that make no table -/

/-- Statements that put in or delete rows leave the names of tables as they are. -/
theorem names_of_execute {sql : Text} {parameters : List Value}
    (hs : ∀ parsed, readStatement sql = .ok (some parsed) → parsed.statement.OnRows)
    (h : Engine.execute db sql parameters = (db', .ok n)) (temporary : Bool) :
    (db'.catalog.schema temporary).tables.map (·.name) = (db.catalog.schema temporary).tables.map (·.name) := by
  obtain ⟨p, parsed, hread, -, hprepare, hperform⟩ := exists_of_engineExecute h
  have hrows := Catalog.onRows_of_prepare hprepare (hs parsed hread)
  let same (c : Catalog) : Prop :=
    (c.schema temporary).tables.map (·.name) = (db.catalog.schema temporary).tables.map (·.name)
  refine kept_of_perform (p := same) hrows.ordinary (fun c hc => ?_) rfl hperform
  obtain ⟨b, t, rfl⟩ := hrows.of_yields hc
  change ((db.catalog.modify b _).schema temporary).tables.map (·.name) = _
  rw [Catalog.schema_modify]
  split
  · rw [Schema.names_replace]
  · rfl

/-- So they hide no table. -/
private theorem visible_of_execute {sql : Text} {parameters : List Value}
    (hs : ∀ parsed, readStatement sql = .ok (some parsed) → parsed.statement.OnRows)
    (h : Engine.execute db sql parameters = (db', .ok n)) {name : Text} (hhidden : (db'.catalog.temp.find? name).isSome) :
    (db.catalog.temp.find? name).isSome := by
  have hnames : db'.catalog.temp.tables.map (·.name) = db.catalog.temp.tables.map (·.name) := names_of_execute hs h true
  obtain ⟨t, ht, hsame⟩ := Schema.isSome_find?.1 hhidden
  obtain ⟨t', ht', hname⟩ := List.mem_map.1 (hnames ▸ List.mem_map_of_mem ht)
  exact Schema.isSome_find?.2 ⟨t', ht', by rwa [hname]⟩

private theorem onRows_insertSql {parsed : Parsed} (h : readStatement plan.insertSql = .ok (some parsed)) :
    parsed.statement.OnRows := by
  rw [TablePlan.insertSql_eq] at h
  obtain ⟨target, columns, rows, _, _, hstatement, -⟩ := readStatement_insertInto h
  rw [hstatement]
  trivial

private theorem onRows_of_mapping {sql : Text} (hsql : MappingStatement sql) {parsed : Parsed}
    (h : readStatement sql = .ok (some parsed)) : parsed.statement.OnRows := by
  rcases hsql with rfl | rfl
  · cases Store.readStatement_dropMappingsSql.symm.trans h
    trivial
  · cases Store.readStatement_keepMappingSql.symm.trans h
    trivial

/-! ### The laws -/

private theorem not_isSome {c : Catalog} {name : Text} (h : ¬ (c.temp.find? name).isSome) : c.temp.find? name = none := by
  simpa using h

theorem makesTables : semantics.MakesTables where
  created {c c' table headers} hword hclear {n} h hvisible :=
    (creates_of_execute hword h).hasTable (hclear false) (not_isSome hvisible)
  prepare {c table headers rows} h := by
    have htable : c.catalog.HasTable (planTable table headers).table (planTable table headers).identifiers rows := h
    exact ⟨_, enginePrepare_of_compile (compile_insertSql htable) (insertSql_ne _).1 (insertSql_ne _).2⟩
  inserted {c c' table headers rows} h {cells} hcells {n} hinsert := by
    have htable : c.catalog.HasTable (planTable table headers).table (planTable table headers).identifiers rows := h
    rcases execute_insertSql htable (writes_of_insertSql htable hinsert) hcells with ⟨db, m, hok, hstored⟩ | ⟨db, herror⟩
    · cases hinsert.symm.trans hok
      exact hstored
    · cases hinsert.symm.trans herror
  refused {c c' table headers rows} h hwrites {cells} hcells {e} hinsert := by
    have htable : c.catalog.HasTable (planTable table headers).table (planTable table headers).identifiers rows := h
    rcases execute_insertSql htable hwrites hcells with ⟨db, m, hok, -⟩ | ⟨db, herror⟩
    · cases hinsert.symm.trans hok
    · cases hinsert.symm.trans herror
      rfl
  others {c c' table headers} hfilling hclear {other names rows} h hvisible := by
    obtain ⟨temporary, name, hfills, -⟩ := exists_fills hfilling
    exact h.beside hfills.beside (hfills.not_sameName h (not_isSome hvisible))
  mapped {c c' sql} hsql {parameters n} hexecute _ {other} hother {names rows} h :=
    h.beside (carries_of_execute (fun _ => hsql.about) hexecute).step.alikeBeside hother
  keeps {c c' table headers} hword hfilling hclear {rows} h := by
    obtain ⟨stored, hholds, hstored⟩ := h
    obtain ⟨temporary, name, hfills, hplace⟩ := exists_fills hfilling
    obtain ⟨rfl, rfl⟩ := hplace hword
    refine ⟨stored, hholds.beside (fun hsame => ?_) hfills.beside, hstored⟩
    have hfree : c.catalog.main.find? name = none := hfills.free
    rw [← Schema.find?_congr hsame] at hfree
    cases hholds.shows.found.symm.trans hfree
  clear {c c' sql} hsql {parameters n} hexecute {name} h := by
    obtain ⟨other, hcarries⟩ := hsql.carries hexecute
    exact fun temporary => hcarries.step.alikeBeside.quiet (h temporary)

theorem leavesOthers : semantics.LeavesOthers where
  hidden {c c' sql} hsql {parameters n} hexecute {name} h := by
    obtain ⟨other, hcarries⟩ := hsql.carries hexecute
    have hstep := hcarries.step
    exact (hstep.isSome_find? h : ((c'.catalog.schema true).find? name).isSome)
  created_visible {c c' table headers} hword {n} h {name} hhidden := by
    rw [(creates_of_execute hword h).created] at hhidden
    exact hhidden
  inserted_visible {c c' table headers parameters n} h {name} hhidden :=
    visible_of_execute (fun _ => onRows_insertSql) h hhidden
  mapped_visible {c c' sql} hsql {parameters n} h {name} hhidden :=
    visible_of_execute (fun _ => onRows_of_mapping hsql) h hhidden
  under {c c' table headers} hword hfilling _ {name} hname := by
    obtain ⟨temporary, other, hfills, hplace⟩ := exists_fills hfilling
    obtain ⟨-, rfl⟩ := hplace hword
    exact congrArg₂ Prod.mk (hfills.beside.under false name hname) (hfills.beside.under true name hname)
  mapped {c c' sql} hsql {parameters n} hexecute _ {name} hname := by
    have halike := (carries_of_execute (fun _ => hsql.about) hexecute).step.alikeBeside
    exact congrArg₂ Prod.mk (halike.under false name hname) (halike.under true name hname)

theorem namesTables : semantics.NamesTables where
  mapping {v rows} h := by
    obtain ⟨stored, hholds, -⟩ := h
    exact List.mem_map.2 ⟨_, List.mem_of_find?_eq_some hholds.shows.found, rfl⟩
  free {c c' table headers} hword {n} h name hname hsame := by
    obtain ⟨t, ht, rfl⟩ := List.mem_map.1 hname
    have hsome : (c.catalog.main.find? table).isSome := Schema.isSome_find?.2 ⟨t, ht, hsame⟩
    rw [show c.catalog.main.find? table = none from (creates_of_execute hword h).free] at hsome
    cases hsome
  created {c c' table headers} hword {n} h := by
    have hcreates := creates_of_execute hword h
    have hlast : filledTable table (planTable table headers).identifiers [] ∈ c'.catalog.main.tables := by
      rw [hcreates.created]
      exact List.mem_append_right _ (List.mem_singleton_self _)
    exact List.mem_map.2 ⟨_, hlast, name_filledTable ..⟩
  kept {c c' sql} hsql {parameters n} hexecute {name} h := by
    obtain ⟨other, hcarries⟩ := hsql.carries hexecute
    exact hcarries.step.names_subset false h

theorem takesNames : semantics.TakesNames where
  free {c c' table headers n names} h hprepare := by
    rintro ⟨temporary, name, hplaces, hthere⟩
    obtain ⟨temporary', name', hfills, hplace⟩ := exists_fills_of_created h hprepare
    obtain ⟨p, parsed, hread, -⟩ := exists_of_engineExecute h
    obtain ⟨d, hd⟩ := readStatement_createSql_eq hread
    obtain ⟨rfl, htarget'⟩ := hplace parsed d hread hd
    rw [TablePlan.createSql_eq] at hread
    obtain ⟨-, rfl, htarget⟩ := hplaces _ _ d hread hd
    cases htarget.symm.trans htarget'
    have hthere : ((c.catalog.schema temporary).find? d.name.name).isSome := hthere
    rw [hfills.free] at hthere
    cases hthere
  created {c c' table headers n names} h hprepare := by
    obtain ⟨temporary, name, hfills, -⟩ := exists_fills_of_created h hprepare
    exact ⟨temporary, name, hfills.places, hfills.there⟩
  kept {c c' sql} hsql {parameters n} hexecute {name} h := by
    obtain ⟨temporary, other, hplaces, hthere⟩ := h
    obtain ⟨_, hcarries⟩ := hsql.carries hexecute
    exact ⟨temporary, other, hplaces, hcarries.step.isSome_find? hthere⟩

end Database

end SheetQuery.Sql
