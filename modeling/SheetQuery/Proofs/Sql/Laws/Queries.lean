import SheetQuery.Proofs.Sql.Laws.Reachable
import SheetQuery.Proofs.Sql.Laws.Tables
import SheetQuery.Proofs.Sql.Selection

/-!
# Queries on tables

The list of tables, the description of one, and its rows.

* `engineQuery_selectAll`, `engineQuery_selectColumns`: the columns and rows of a table in sight.
* `listsTables`, `describesTables`, `showsTables`, `beginsEmpty`: the laws.
-/

namespace SheetQuery.Sql

section

variable {c : Catalog} {table : Text} {names : List Text} {rows : List (List Text)} (h : c.HasTable table names rows)

include h

private theorem length_of_mem_rows : ∀ r ∈ (filledTable table names rows).rows,
    r.values.length = (filledTable table names rows).columns.length := by
  intro r hr
  have hvalues : r.values ∈ (filledTable table names rows).rows.map (·.values) := List.mem_map_of_mem hr
  rw [values_filledTable] at hvalues
  obtain ⟨cells, hcells, hr⟩ := List.mem_map.1 hvalues
  rw [← hr, List.length_map, h.widths cells hcells, columns_filledTable, List.length_map]

private theorem hasColumn {w : Text} {k : Nat} (hk : names[k]? = some w) : (filledTable table names rows).HasColumn w k := by
  obtain ⟨hlt, hw⟩ := List.getElem?_eq_some_iff.1 hk
  refine ⟨?_, ?_⟩
  · rw [Table.columnIndex?, columns_filledTable, List.findIdx?_map, List.findIdx?_eq_some_iff_getElem]
    refine ⟨hlt, Text.sameName_iff.2 (congrArg Text.lower hw), fun j hj hsame => ?_⟩
    -- no other name is the same, ignoring case
    have hjlt : j < (names.map Text.lower).length := by
      rw [List.length_map]
      omega
    have hklt : k < (names.map Text.lower).length := by rwa [List.length_map]
    have hlower : (names.map Text.lower)[j] = (names.map Text.lower)[k] := by
      rw [List.getElem_map, List.getElem_map, hw]
      exact Text.sameName_iff.1 hsame
    have hplace := h.distinct.getElem_inj_iff.1 hlower
    omega
  · rw [columns_filledTable, List.getElem?_map, hk]
    rfl

end

namespace Database

variable {db : Database} {table : Text} {names : List Text} {rows : List (List Text)}

/-! ### The rows of a table -/

/-- A query of a table in sight is none of the queries on the catalog, which have a parameter. -/
private theorem ne_of_no_parameter {sql : Text} (h : '?' ∉ sql) : sql ≠ Store.tablesSql ∧ sql ≠ Store.tableInfoSql := by
  constructor
  · rintro rfl
    exact h (by decide +kernel)
  · rintro rfl
    exact h (by decide +kernel)

private theorem parameter_not_mem_of_word {w : Text} (h : w.all Identifier.isWordChar) : '?' ∉ w := fun hmem =>
  absurd (List.all_eq_true.1 h _ hmem) (by decide)

theorem engineQuery_selectAll (h : db.catalog.HasTable table names rows) :
    Engine.prepare db (selectAllSql table) = .ok names ∧
      Engine.query db (selectAllSql table) [] = (db, ⟨rows.map fun cells => cells.map Value.text, none⟩) := by
  obtain ⟨columns, hcompile, hnames⟩ :=
    compile_selectAll h.word h.shows.found h.shows.unhidden (length_of_mem_rows h)
  have hselect : '?' ∉ "SELECT * FROM ".toList := by decide +kernel
  have hsql : '?' ∉ selectAllSql table := fun hmem =>
    (List.mem_append.1 hmem).elim hselect (parameter_not_mem_of_word h.word.word)
  have hcompile' : db.compile (selectAllSql table) = _ := hcompile
  obtain ⟨hprepare, hquery⟩ := engineQuery_of_compile hcompile' (ne_of_no_parameter hsql).1 (ne_of_no_parameter hsql).2
  have hcolumns : (names.map textColumn).map (·.name) = names := by
    rw [List.map_map]
    exact List.map_id names
  rw [hnames, columns_filledTable, hcolumns] at hprepare
  rw [values_filledTable] at hquery
  exact ⟨hprepare, hquery⟩

theorem engineQuery_selectColumns (h : db.catalog.HasTable table names rows) {places : List Nat} (hne : places ≠ [])
    {name : Nat → Text} (hplaces : ∀ k ∈ places, names[k]? = some (name k))
    (hnames : ∀ k ∈ places, Grammar.ColumnName (name k) ∧ (name k).all Identifier.isWordChar) :
    let sql := "SELECT ".toList ++ Text.joinWith ", ".toList (places.map name) ++ " FROM ".toList ++ table
    Engine.prepare db sql = .ok (places.map name) ∧
      Engine.query db sql [] =
        (db, ⟨rows.map fun cells => places.map fun k => Value.text (cells.getD k []), none⟩) := by
  intro sql
  have hcolumns : List.Forall₂ (filledTable table names rows).HasColumn (places.map name) places := by
    rw [List.forall₂_map_left_iff, List.forall₂_same]
    exact fun k hk => hasColumn h (hplaces k hk)
  obtain ⟨columns, hcompile, hheaders⟩ := compile_selectColumns h.word h.shows.found h.shows.unhidden
    (by simpa using hne) (List.forall_mem_map.2 hnames) hcolumns
  have hlisted : '?' ∉ Text.joinWith ", ".toList (places.map name) := by
    have hall : ∀ x ∈ Text.joinWith ", ".toList (places.map name), x ≠ '?' := by
      have hcomma : '?' ∉ ", ".toList := by decide
      refine forall_mem_intercalate (fun x hx h => hcomma (h ▸ hx)) fun part hpart x hx => ?_
      obtain ⟨k, hk, rfl⟩ := List.mem_map.1 hpart
      rintro rfl
      exact parameter_not_mem_of_word (hnames k hk).2 hx
    exact fun hmem => hall _ hmem rfl
  have hsql : '?' ∉ sql := by
    simp only [sql, List.mem_append, not_or]
    exact ⟨⟨⟨by decide, hlisted⟩, by decide⟩, parameter_not_mem_of_word h.word.word⟩
  obtain ⟨hprepare, hquery⟩ := engineQuery_of_compile hcompile (ne_of_no_parameter hsql).1 (ne_of_no_parameter hsql).2
  rw [hheaders] at hprepare
  have hvalues := congrArg (List.map fun values : List Value => places.map fun k => values.getD k .null)
    (values_filledTable table names rows)
  rw [List.map_map, List.map_map] at hvalues
  have hcells : ((filledTable table names rows).rows.map fun r => places.map fun k => r.values.getD k .null) =
      rows.map fun cells => places.map fun k => Value.text (cells.getD k []) := by
    refine hvalues.trans (List.map_congr_left fun cells hcells => List.map_congr_left fun k hk => ?_)
    have hlt : k < cells.length := by
      rw [h.widths cells hcells]
      exact (List.getElem?_eq_some_iff.1 (hplaces k hk)).1
    simp [List.getD_eq_getElem?_getD, hlt]
  rw [hcells] at hquery
  exact ⟨hprepare, hquery⟩

/-! ### The description of a table -/

/-- The tables of the catalog have reserved names. -/
private theorem findTable?_eq {name : Text} (h : isReservedName name = false) :
    db.findTable? name = (db.catalog.temp.find? name <|> db.catalog.main.find? name) := by
  rw [findTable?, if_neg]
  intro hmaster
  have hreserved : ∀ n ∈ masterNames, "sqlite_".toList.isPrefixOf n.toList := by decide
  have hname := hreserved _ (List.contains_iff_mem.1 hmaster)
  rw [show (String.ofList (Text.lower name)).toList = Text.lower name from String.toList_ofList] at hname
  exact Bool.false_ne_true (h.symm.trans hname)

/-! ### The laws -/

theorem listsTables : semantics.ListsTables where
  listed {c} _ := by
    refine ⟨tablesHeaders, c.tableNames Store.mappingTableName, enginePrepare_tablesSql c, ?_, Text.ordered_sorted _,
      List.mergeSort_perm ..⟩
    rw [engineQuery_tablesSql]
  distinct {c} h := by
    have hdistinct : (c.catalog.main.tables.map fun t => Text.lower t.name).Nodup := distinct_of_reachable h
    change (c.catalog.main.tables.map (·.name)).Pairwise _
    rw [List.pairwise_map]
    exact (List.pairwise_map.1 hdistinct).imp fun hne hsame => hne (Text.sameName_iff.1 hsame)

theorem describesTables : semantics.DescribesTables where
  nonempty h := Catalog.HasTable.nonempty h
  distinct h := (Catalog.HasTable.distinct h).of_map
  described {c table names rows} h _ {headers} hprepare {name} hname := by
    have htable : c.catalog.HasTable table names rows := h
    rw [enginePrepare_tableInfoSql] at hprepare
    rw [engineQuery_tableInfoSql]
    cases hfault : c.infoFault? with
    | some fault =>
      rw [hfault] at hprepare
      cases hprepare
    | none =>
      rw [hfault] at hprepare
      have hreserved : isReservedName name = false := by
        rw [isReservedName, Text.sameName_iff.1 hname]
        exact htable.unreserved
      have hfound : c.findTable? name = some (filledTable table names rows) := by
        rw [findTable?_eq hreserved, Schema.find?_congr hname, Schema.find?_congr hname, htable.shows.unhidden,
          htable.shows.found]
        rfl
      refine ⟨(Except.ok.inj hprepare).symm, ?_⟩
      rw [hfound, Option.map_some, Option.getD_some, columns_filledTable]
      refine congrArg (Answer.mk · none) (List.mapIdx_eq_iff.2 fun k => ?_)
      rw [List.getElem?_mapIdx, List.getElem?_map, Option.map_map]
      rfl

theorem showsTables : semantics.ShowsTables where
  shown {c table names rows} _ h _ := by
    have htable : c.catalog.HasTable table names rows := h
    obtain ⟨hprepare, hquery⟩ := engineQuery_selectAll htable
    exact ⟨hprepare, congrArg Prod.snd hquery⟩

theorem beginsEmpty : semantics.BeginsEmpty where
  settings {c} h := by
    cases h
    exact ⟨rfl, trivial⟩
  opened {c c'} h {n} hexecute := by
    cases h
    have hquiet : ∀ name temporary, ((ofSchema .empty).catalog.schema temporary).Quiet name := by
      rintro name (_ | _) d hd
      · cases hd
      · cases hd
    rcases Store.execute_mappingTableSql_eq_ok hexecute with ⟨-, rfl⟩ | ⟨-, rfl⟩
    · exact ⟨rfl, fun name => ⟨hquiet name, Bool.false_ne_true⟩⟩
    · refine ⟨rfl, fun name => ⟨fun temporary => ?_, Bool.false_ne_true⟩⟩
      cases temporary
      · exact hquiet name false
      · exact hquiet name true

end Database

end SheetQuery.Sql
