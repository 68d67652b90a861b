import SheetQuery.Proofs.Sql.Laws.Mappings
import SheetQuery.Proofs.Sql.Laws.Tables

/-!
# What loads and queries depend on

Two databases that have the same tables under a name load a table of this name alike.  Two that have the same tables under
all names answer the queries of the store alike, in whatever order their tables stand.

* `compile_alike`, `execute_alike`: a statement on the table comes to the same.
* `tableNames_alike`: the list of tables does not depend on their order.
* `actsLocally`: the law.
-/

namespace SheetQuery.Sql.Database

variable {db db' db₁ : Database} {table : Text} {headers : List Text} {sql : Text} {parameters : List Value} {n : Nat}

/-! ### Statements on one table -/

/-- The statement creates the table or puts a row into it. -/
def OnTable (table : Text) (headers : List Text) (sql : Text) : Prop :=
  sql = (planTable table headers).createSql ∨ sql = (planTable table headers).insertSql

/-- Such a statement is prepared alike. -/
theorem compile_alike (h : db.catalog.AlikeAt table db'.catalog) (hword : table.all Identifier.isWordChar)
    (hsql : OnTable table headers sql) {p : Prepared} (hcompile : db.compile sql = .ok (some p)) :
    db'.compile sql = .ok (some p) ∧ ∃ s : Statement, s.About table ∧ db.catalog.prepare s = .ok p.action := by
  obtain ⟨action, width⟩ := p
  obtain ⟨⟨statement, count, rest⟩, hread, hprepare, hcount⟩ := compile_eq_some hcompile
  dsimp only at hprepare hcount
  subst hcount
  rcases hsql with rfl | rfl
  · obtain ⟨-, -, hrest, offset, hhead, hstatement⟩ :=
      readStatement_createSql hword (word_identifiers table headers) hread
    dsimp only at hrest hstatement
    subst hrest hstatement
    have habout : Statement.About table (.createTable ⟨⟨⟨table, table, offset⟩, none⟩, false,
      (planTable table headers).identifiers.map Grammar.textDefinition, []⟩) := rfl
    have hprepare' := (h.prepare_eq habout).trans hprepare
    obtain ⟨checked, hchecked, -⟩ := bind_eq_ok.1 hprepare'
    have hhead' : db'.checkHead (planTable table headers).createSql = .ok () := by
      rw [checkHead, hhead]
      exact bind_eq_ok.2 ⟨checked, hchecked, rfl⟩
    exact ⟨compile_of_checked hhead' hread hprepare', _, habout, hprepare⟩
  · obtain ⟨htable, hcolumns⟩ := readStatement_insertSql hword hread
    obtain ⟨offset, hinsert⟩ := says_insertSql htable hcolumns
    cases hinsert.read.symm.trans hread
    have habout : Statement.About table (.insert ⟨⟨table, table, offset⟩, none⟩ false []
      [(List.range' 1 (planTable table headers).columns.length).map .parameter]) := rfl
    exact ⟨hinsert.compile ((h.prepare_eq habout).trans hprepare), _, habout, hprepare⟩

/-- What it has done in one database it does in the other, if there is room. -/
theorem execute_alike (h : db.catalog.AlikeAt table db'.catalog) (hreadOnly : db'.readOnly = db.readOnly)
    (hword : table.all Identifier.isWordChar) (hsql : OnTable table headers sql)
    (hexecute : Engine.execute db sql parameters = (db₁, .ok n)) :
    (∃ db₁' m, Engine.execute db' sql parameters = (db₁', .ok m) ∧
        ∀ b, (db₁'.catalog.schema b).under table = (db₁.catalog.schema b).under table) ∨
      ∃ db₁', Engine.execute db' sql parameters = (db₁', .error Fault.full.failure) := by
  obtain ⟨p, hcompile, hparameters, hperform⟩ := execute_eq_ok (engineExecute_eq_ok.1 hexecute)
  obtain ⟨hcompile', s, habout, hprepare⟩ := compile_alike h hword hsql hcompile
  rcases perform_alike h hreadOnly habout hprepare hperform with ⟨db₁', m, hperform', hunder⟩ | ⟨db₁', hperform'⟩
  · exact .inl ⟨db₁', m, engineExecute_of_perform hcompile' hparameters hperform', hunder⟩
  · exact .inr ⟨db₁', engineExecute_of_fault hcompile' hparameters hperform'⟩

theorem alikeAt_of_alike (h : semantics.Alike table db db') :
    db.catalog.AlikeAt table db'.catalog ∧ db'.readOnly = db.readOnly := by
  have hunder : (db'.catalog.main.under table, db'.catalog.temp.under table) =
      (db.catalog.main.under table, db.catalog.temp.under table) := h.under
  refine ⟨⟨fun temporary => ?_, h.clear, h.clear'⟩, congrArg Prod.fst h.settings⟩
  cases temporary
  · exact congrArg Prod.fst hunder
  · exact congrArg Prod.snd hunder

/-! ### Queries of the store -/

section

variable (hunder : ∀ name, ¬ Text.sameName name Store.mappingTableName → ∀ temporary,
    (db'.catalog.schema temporary).under name = (db.catalog.schema temporary).under name)

include hunder

private theorem find?_alike {name : Text} (hname : ¬ Text.sameName name Store.mappingTableName) :
    db'.catalog.temp.find? name = db.catalog.temp.find? name ∧
      db'.catalog.main.find? name = db.catalog.main.find? name := by
  have hmain : db'.catalog.main.under name = db.catalog.main.under name := hunder name hname false
  have htemp : db'.catalog.temp.under name = db.catalog.temp.under name := hunder name hname true
  rw [Schema.find?_eq_head?, Schema.find?_eq_head?, Schema.find?_eq_head?, Schema.find?_eq_head?, hmain, htemp]
  exact ⟨rfl, rfl⟩

private theorem infoFault?_alike : db'.infoFault? = db.infoFault? := by
  obtain ⟨htemp, hmain⟩ := find?_alike hunder (show ¬ Text.sameName infoFunction Store.mappingTableName by decide +kernel)
  rw [infoFault?, infoFault?, htemp, hmain]

variable {stored stored' : List Row} (h : Store.Holds db.catalog stored) (h' : Store.Holds db'.catalog stored')

include h h'

private theorem perm_names :
    (db'.catalog.main.tables.map (·.name)).Perm (db.catalog.main.tables.map (·.name)) := by
  have hcount : ∀ (s : Schema) (name : Text),
      (s.tables.map (·.name)).count name = ((s.under name).map (·.name)).count name := by
    intro s name
    rw [List.count_eq_countP, List.countP_map, List.count_eq_countP, List.countP_map, Schema.under, List.countP_filter]
    refine List.countP_congr fun t _ => ?_
    simp only [Function.comp_apply, beq_iff_eq, Bool.and_eq_true]
    exact ⟨fun hname => ⟨hname, hname ▸ Text.sameName_iff.2 rfl⟩, And.left⟩
  rw [List.perm_iff_count]
  intro name
  rw [hcount, hcount]
  by_cases hname : Text.sameName name Store.mappingTableName
  · rw [Schema.under_congr hname, Schema.under_congr hname, h.main, h'.main]
    rfl
  · have hsame : db'.catalog.main.under name = db.catalog.main.under name := hunder name hname false
    rw [hsame]

theorem tableNames_alike (left : Text) : db'.tableNames left = db.tableNames left :=
  Text.sorted_eq_of_perm ((perm_names hunder h h').filter _)

/-- A table is described alike: the rows of the table of header mappings are no part of its description. -/
private theorem columns_alike (name : Text) :
    (db'.findTable? name).map (·.columns) = (db.findTable? name).map (·.columns) := by
  rw [findTable?, findTable?]
  split
  · rfl
  · by_cases hname : Text.sameName name Store.mappingTableName
    · have hfind : ∀ {db : Database} {stored : List Row}, Store.Holds db.catalog stored →
          (db.catalog.temp.find? name <|> db.catalog.main.find? name) = some (Store.mappingTableWith stored) := by
        intro db stored h
        rw [Schema.find?_congr hname, Schema.find?_congr hname, h.shows.unhidden, h.shows.found]
        rfl
      rw [hfind h, hfind h']
      rfl
    · obtain ⟨htemp, hmain⟩ := find?_alike hunder hname
      rw [htemp, hmain]

end

/-! ### The law -/

theorem actsLocally : semantics.ActsLocally where
  executed {c₁ c₁' c₂ c₂' table headers} h hword {sql} hsql {parameters n₁ n₂} h₁ h₂ := by
    obtain ⟨halike, hreadOnly⟩ := alikeAt_of_alike h
    rcases execute_alike halike hreadOnly hword hsql h₁ with ⟨db, m, hok, hunder⟩ | ⟨db, herror⟩
    · cases h₂.symm.trans hok
      exact congrArg₂ Prod.mk (hunder false) (hunder true)
    · cases h₂.symm.trans herror
  refused {c₁ c₁' c₂ c₂' table headers} h hword {sql} hsql {parameters n₁ e} h₁ h₂ := by
    obtain ⟨halike, hreadOnly⟩ := alikeAt_of_alike h
    rcases execute_alike halike hreadOnly hword hsql h₁ with ⟨db, m, hok, -⟩ | ⟨db, herror⟩
    · cases h₂.symm.trans hok
    · cases h₂.symm.trans herror
      rfl
  prepared {c₁ c₂ table headers} h hword {names} h₁ := by
    obtain ⟨p, _, _, hcompile, -⟩ := exists_of_enginePrepare h₁ (insertSql_ne _).1 (insertSql_ne _).2
      (readStatement_insertSql_ne_none _)
    obtain ⟨hcompile', -⟩ := compile_alike (alikeAt_of_alike h).1 hword (.inr rfl) hcompile
    exact ⟨_, enginePrepare_of_compile hcompile' (insertSql_ne _).1 (insertSql_ne _).2⟩
  spelled {v name name'} h := congrArg₂ Prod.mk (Schema.under_congr h) (Schema.under_congr h)
  answered {c₁ c₂} _ hunder {rows} h₁ h₂ {sql parameters} hsql := by
    obtain ⟨stored₁, hholds₁, hstored₁⟩ := h₁
    obtain ⟨stored₂, hholds₂, hstored₂⟩ := h₂
    have hunder' : ∀ name, ¬ Text.sameName name Store.mappingTableName → ∀ temporary,
        (c₂.catalog.schema temporary).under name = (c₁.catalog.schema temporary).under name := by
      intro name hname temporary
      have hpair : (c₂.catalog.main.under name, c₂.catalog.temp.under name) =
          (c₁.catalog.main.under name, c₁.catalog.temp.under name) := hunder name hname
      cases temporary
      · exact congrArg Prod.fst hpair
      · exact congrArg Prod.snd hpair
    cases hsql with
    | tables =>
      rw [enginePrepare_tablesSql, enginePrepare_tablesSql, engineQuery_tablesSql, engineQuery_tablesSql,
        tableNames_alike hunder' hholds₁ hholds₂]
      exact ⟨rfl, rfl⟩
    | tableInfo name =>
      have hcolumns := columns_alike hunder' hholds₁ hholds₂ name
      have hrows : ((c₂.findTable? name).map fun t => t.columns.mapIdx infoRow) =
          (c₁.findTable? name).map fun t => t.columns.mapIdx infoRow := by
        have hmap := congrArg (Option.map fun columns : List Column => columns.mapIdx infoRow) hcolumns
        rwa [Option.map_map, Option.map_map] at hmap
      rw [enginePrepare_tableInfoSql, enginePrepare_tableInfoSql, engineQuery_tableInfoSql, engineQuery_tableInfoSql,
        infoFault?_alike hunder', hrows]
      cases c₁.infoFault? <;> exact ⟨rfl, rfl⟩
    | mappings =>
      have hanswer : ∀ {db : Database} {stored : List Row}, Store.Holds db.catalog stored →
          Engine.prepare db Store.mappingQuery = .ok Store.queryHeaders ∧
            (Engine.query db Store.mappingQuery []).2 = ⟨(stored.map (·.values)).mergeSort Store.keyBefore, none⟩ := by
        intro db stored h
        obtain ⟨hprepare, hquery⟩ := Store.engineQuery_mappingQuery h
        exact ⟨hprepare, congrArg Prod.snd hquery⟩
      have hperm : (stored₂.map (·.values)).Perm (stored₁.map (·.values)) :=
        Multiset.coe_eq_coe.1 (hstored₂.trans hstored₁.symm)
      rw [(hanswer hholds₁).1, (hanswer hholds₂).1, (hanswer hholds₁).2, (hanswer hholds₂).2,
        Store.mergeSort_eq_of_perm_values hholds₂.valid hperm]
      exact ⟨rfl, rfl⟩

end SheetQuery.Sql.Database
