import SheetQuery.Proofs.Mapping.Selection
import SheetQuery.Proofs.Mapping.Words
import SheetQuery.Proofs.Session.GridLoads
import SheetQuery.Proofs.Session.Loaded
import SheetQuery.Proofs.Sql.Laws.Queries

/-!
# Headers of loaded tables in queries

A session that only loads shows each column under the header that its table keeps for it.  A column that its table
keeps no header for takes that of the first table which keeps one under its identifier.

* `query_rows`: a query shows what the store yields, with headers.
* `reverse_iff`: the headers of a session are those that its tables keep.
* `LoadedWith.query_selectAll`: what the columns of a table are called when all of them are asked for.
* `LoadedWith.query_labels`: what they are called when they are asked for by their headers.
-/

namespace SheetQuery

open Sql (Database)

/-- The first by name of the loaded tables that keep a header under the identifier keeps this one. -/
def FirstNames (loads : List Load) (identifier label : Text) : Prop :=
  ∃ l ∈ loads, l.Names identifier label ∧
    ∀ other ∈ loads, ∀ label', other.Names identifier label' → ¬ other.table < l.table

namespace Session

variable {s : Session Database} {loads : List Load} {l other : Load}

/-- A query shows what the store yields, with headers. -/
theorem query_rows {sql text : Text} {listing : Listing} (htext : s.mappings.substitute sql = text)
    (hrun : (s.store.run text).2 = .ok (.rows listing)) : (s.query sql).answer = .ok (.rows
      ⟨s.mappings.columnLabels (tableContext sql s.mappings.tables) listing.headers, listing.rows⟩) := by
  rw [query_answer_eq_rows, shown?, htext, hrun]

/-- What loads keep holds of any session that only loads. -/
private theorem onlyLoaded_database (hs : s.LoadedWith loads) : s.OnlyLoaded Database.semantics loads :=
  hs.onlyLoaded Database.opensStores Database.keepsMappings Database.rollsBack Database.commits Database.makesTables
    Database.leavesOthers Database.namesTables Database.beginsEmpty

/-- All tables stand if their names are words. -/
private theorem stands (hs : s.LoadedWith loads) (hwords : ∀ l ∈ loads, l.table.all Identifier.isWordChar) :
    ∀ l ∈ loads, l.Stands Database.semantics s := fun l hl =>
  (onlyLoaded_database hs).stands l hl (hwords l hl)
    (hs.visible Database.rollsBack Database.commits Database.leavesOthers Database.beginsEmpty hwords l.table)

/-- The table of a load that stands. -/
private theorem hasTable (hl : l.Stands Database.semantics s) :
    s.store.database.catalog.HasTable l.table l.plan.identifiers l.rows := hl.stored

/-! ### The headers of a session -/

/-- The headers of a session are those that its tables keep. -/
theorem OnlyLoaded.reverse_iff (hs : s.OnlyLoaded Database.semantics loads)
    (hstands : ∀ l ∈ loads, l.Stands Database.semantics s)
    {table identifier label : Text} :
    s.mappings.reverse table identifier = some label ↔ ∃ l ∈ loads, l.table = table ∧ l.Names identifier label := by
  rw [HeaderMappings.reverse_eq_some]
  constructor
  · intro h
    obtain ⟨l, hl, rfl⟩ := hs.tables _ (HeaderMappings.resolve_eq_some.1 h)
    exact ⟨l, hl, rfl, ((hstands l hl).mapped label identifier).1 h⟩
  · rintro ⟨l, hl, rfl, hnames⟩
    exact ((hstands l hl).mapped label identifier).2 hnames

/-- The first table in order that has the identifier is the first one by name that keeps a header under it. -/
private theorem findSome?_of_firstNames (hs : s.OnlyLoaded Database.semantics loads)
    (hstands : ∀ l ∈ loads, l.Stands Database.semantics s)
    {identifier label : Text} (h : FirstNames loads identifier label) :
    (s.mappings.tables.findSome? fun table => s.mappings.reverse table identifier) = some label := by
  obtain ⟨l, hl, hnames, hfirst⟩ := h
  have hreverse := (hs.reverse_iff hstands).2 ⟨l, hl, rfl, hnames⟩
  have hmem : l.table ∈ s.mappings.tables := by
    have hentry := HeaderMappings.resolve_eq_some.1 (HeaderMappings.reverse_eq_some.1 hreverse)
    exact HeaderMappings.mem_tables.2 ⟨_, hentry, rfl⟩
  obtain ⟨before, after, htables⟩ := List.append_of_mem hmem
  refine List.findSome?_eq_some_iff.2 ⟨before, l.table, after, htables, hreverse, fun table htable => ?_⟩
  rw [Option.eq_none_iff_forall_not_mem]
  intro label' hlabel'
  obtain ⟨other, hother, rfl, hnames'⟩ := (hs.reverse_iff hstands).1 hlabel'
  have hordered := s.mappings.pairwise_tables
  rw [htables, List.pairwise_append] at hordered
  exact hfirst other hother label' hnames' (hordered.2.2 _ htable _ (List.mem_cons_self ..))

/-- A query for all columns of a table is about it, if it has headers. -/
private theorem tableContext_selectAll (hs : s.OnlyLoaded Database.semantics loads)
    (hstands : ∀ l ∈ loads, l.Stands Database.semantics s) (hl : l ∈ loads) :
    tableContext ("SELECT * FROM ".toList ++ l.table) s.mappings.tables =
      if l.table ∈ s.mappings.tables then some l.table else none := by
  have hword : Sql.TableWord l.table := (hasTable (hstands l hl)).word
  have hwords := statementWords_selectAll hword.word hword.ne_nil
  have hspoken : Text.lower l.table ∈ statementWords ("SELECT * FROM ".toList ++ l.table) := by
    rw [hwords]
    exact List.mem_of_getElem? (i := 2) rfl
  apply tableContext_eq s.mappings.nodup_tables hword.ne_nil hspoken
  intro table htable hspoken
  obtain ⟨e, he, rfl⟩ := HeaderMappings.mem_tables.1 htable
  obtain ⟨other, hother, hsame⟩ := hs.tables e he
  have hfree : Sql.TableWord other.table := (hasTable (hstands other hother)).word
  rw [← hsame] at hspoken ⊢
  rw [hwords, List.mem_cons, List.mem_cons, List.mem_singleton] at hspoken
  rcases hspoken with hspoken | hspoken | hspoken
  · exact absurd hspoken (hfree.free "select" (by decide))
  · exact absurd hspoken (hfree.free "from" (by decide))
  · exact hs.spelled l hl other hother hword.word (Text.sameName_iff.2 hspoken)

/-- No table has the identifier if none keeps a header under it. -/
private theorem findSome?_of_no_names (hs : s.OnlyLoaded Database.semantics loads)
    (hstands : ∀ l ∈ loads, l.Stands Database.semantics s) {identifier : Text}
    (h : ∀ l ∈ loads, ∀ label, ¬ l.Names identifier label) :
    (s.mappings.tables.findSome? fun table => s.mappings.reverse table identifier) = none := by
  rw [List.findSome?_eq_none_iff]
  intro table _
  rw [Option.eq_none_iff_forall_not_mem]
  intro label hlabel
  obtain ⟨l, hl, -, hnames⟩ := (hs.reverse_iff hstands).1 hlabel
  exact h l hl label hnames

/-- All columns of a table that stands are its own, with its rows. -/
private theorem answer_selectAll (hs : s.OnlyLoaded Database.semantics loads) (hl : l.Stands Database.semantics s) :
    (s.query ("SELECT * FROM ".toList ++ l.table)).answer = .ok (.rows ⟨s.mappings.columnLabels
      (tableContext ("SELECT * FROM ".toList ++ l.table) s.mappings.tables) l.plan.identifiers, l.rows⟩) := by
  have hword : Sql.TableWord l.table := (hasTable hl).word
  have htext : s.mappings.substitute ("SELECT * FROM ".toList ++ l.table) = "SELECT * FROM ".toList ++ l.table := by
    refine HeaderMappings.substitute_of_no_han hs.marked ?_
    rw [Text.hasHan, List.any_append, Bool.or_eq_false_iff]
    exact ⟨by decide, hasHan_of_word hword.word⟩
  exact query_rows htext
    (Database.showsTables.run_selectAll hword.word hl.stored trivial (hasTable hl).nonempty (hasTable hl).widths)

/-- Each column of a table shows the header that is kept there.  That is its own header, unless this has no Han
characters or comes again behind it: then the column shows the header which the first table by name that keeps one under
its identifier keeps there, or else its identifier. -/
theorem LoadedWith.query_selectAll (hs : s.LoadedWith loads)
    (hsanitized : ∀ l ∈ loads, Identifier.forTable l.table = l.table) (hl : l ∈ loads) :
    ∃ shown, (s.query ("SELECT * FROM ".toList ++ l.table)).answer = .ok (.rows ⟨shown, l.rows⟩) ∧
      shown.length = l.headers.length ∧
      ∀ k header identifier, l.headers[k]? = some header → l.plan.identifiers[k]? = some identifier →
        (KeptAt l.headers k header → shown[k]? = some header) ∧
        (¬ KeptAt l.headers k header →
          (∀ label, FirstNames loads identifier label → shown[k]? = some label) ∧
          ((∀ other ∈ loads, ∀ label, ¬ other.Names identifier label) → shown[k]? = some identifier)) := by
  have honly := onlyLoaded_database hs
  have hstands := stands hs fun l hl => hsanitized l hl ▸ word_forTable l.table
  have hnodup : l.plan.identifiers.Nodup := (hasTable (hstands l hl)).distinct.of_map
  refine ⟨_, answer_selectAll honly (hstands l hl), ?_, fun k header identifier hheader hidentifier => ?_⟩
  · rw [HeaderMappings.columnLabels, List.length_map, TablePlan.identifiers, List.length_map]
    exact length_columns l.table l.headers
  · rw [HeaderMappings.columnLabels, List.getElem?_map, hidentifier, Option.map_some,
      HeaderMappings.columnLabel_eq (tableContext_selectAll honly hstands hl)]
    refine ⟨fun hkept => ?_, fun hkept => ?_⟩
    · rw [(hstands l hl).reverse_eq_some hheader hidentifier hkept]
      rfl
    · rw [(hstands l hl).reverse_eq_none hheader hidentifier hnodup hkept, Option.none_or]
      refine ⟨fun label hfirst => ?_, fun hnone => ?_⟩
      · rw [findSome?_of_firstNames honly hstands hfirst]
        rfl
      · rw [findSome?_of_no_names honly hstands hnone]
        rfl

/-! ### A header that comes twice, and one of another table -/

/-- One table has a header under the first identifier. -/
private def single : Load := ⟨['a'], ["品名".toList], [[['x']]]⟩

/-- Another table has a header twice, so that the first of its columns loses it. -/
private def repeated : Load := ⟨['b'], ["名称".toList, "数量".toList, "名称".toList], [[['1'], ['2'], ['3']]]⟩

/-- The session with both tables. -/
private def both : Session Database := (repeated.run (single.run inMemory).state).state

/-- A header that is written twice, between quotes and bare, and another one. -/
private def written : List Token :=
  [⟨"名称".toList, some '`'⟩, ⟨"数量".toList, none⟩, ⟨"名称".toList, none⟩]

/-- What the loads answer, and what the session behind them has. -/
private theorem both_eq :
    ((single.run inMemory).answer = .ok ⟨['a'], 1, 1⟩ ∧
      (repeated.run (single.run inMemory).state).answer = .ok ⟨['b'], 1, 3⟩) ∧
    (both.mappings.columnLabels (tableContext ("SELECT * FROM ".toList ++ repeated.table) both.mappings.tables)
      repeated.plan.identifiers = ["品名".toList, "数量".toList, "名称".toList] ∧
      both.store.database.catalog.temp.find? ['b'] = none) ∧
    (∀ t ∈ written, (both.mappings.resolve ['b'] t.label).isSome) ∧
      both.mappings.resolve ['b'] "名称".toList = some (Identifier.forPosition 3) ∧
      both.mappings.resolve ['b'] "数量".toList = some (Identifier.forPosition 2) ∧
      (both.mappings.entries.all fun e => (' ' :: ',' :: labelQuotes).all (· ∉ e.label)) ∧
      tableContext (selectText written ['b']) both.mappings.tables = some ['b'] := by
  decide +kernel

private theorem loadedWith_both : both.LoadedWith [single, repeated] :=
  (loadedWith_inMemory.load both_eq.1.1).load both_eq.1.2

private theorem sanitized_both : ∀ l ∈ [single, repeated], Identifier.forTable l.table = l.table := by
  intro l hl
  rcases List.mem_pair.1 hl with rfl | rfl <;> decide

/-- The first column shows the header of the other table, the last one keeps its own. -/
theorem query_selectAll_repeated :
    ∃ shown, (both.query ("SELECT * FROM ".toList ++ ['b'])).answer = .ok (.rows ⟨shown, [[['1'], ['2'], ['3']]]⟩) ∧
      shown[0]? = some "品名".toList ∧ shown[1]? = some "数量".toList ∧ shown[2]? = some "名称".toList := by
  obtain ⟨shown, hquery, -, hcolumns⟩ :=
    LoadedWith.query_selectAll loadedWith_both sanitized_both (List.mem_pair.2 (.inr rfl))
  have hfirst : FirstNames [single, repeated] "_1".toList "品名".toList := by
    refine ⟨single, by simp, ⟨0, by decide, by decide⟩, fun other hother _ _ => ?_⟩
    rcases List.mem_pair.1 hother with rfl | rfl <;> decide
  refine ⟨shown, hquery, ?_, ?_, ?_⟩
  · exact ((hcolumns 0 _ _ rfl rfl).2 (by decide)).1 _ hfirst
  · exact (hcolumns 1 _ _ rfl rfl).1 (by decide)
  · exact (hcolumns 2 _ _ rfl rfl).1 (by decide)

theorem query_selectAll_foreign :
    both.LoadedWith [single, repeated] ∧ (∀ l ∈ [single, repeated], Identifier.forTable l.table = l.table) ∧
      repeated.headers[0]? = some "名称".toList ∧ Text.hasHan "名称".toList ∧
      (both.query ("SELECT * FROM ".toList ++ repeated.table)).answer =
        .ok (.rows ⟨["品名".toList, "数量".toList, "名称".toList], [[['1'], ['2'], ['3']]]⟩) := by
  have honly := onlyLoaded_database loadedWith_both
  have hstands := stands loadedWith_both (fun l hl => sanitized_both l hl ▸ word_forTable l.table) repeated
    (List.mem_pair.2 (.inr rfl))
  refine ⟨loadedWith_both, sanitized_both, rfl, by decide, (answer_selectAll honly hstands).trans ?_⟩
  rw [both_eq.2.1.1]
  rfl

/-! ### Columns by their headers -/

/-- The name of a position stands for a column. -/
private theorem columnName_forPosition (k : Nat) : Sql.Grammar.ColumnName (Identifier.forPosition k) := by
  refine ⟨⟨by decide, ?_⟩, ?_⟩
  · exact List.all_eq_true.2 fun c hc => Sql.isNameChar_of_wordChar (List.all_eq_true.1 (word_decimal k) c hc)
  · -- no keyword begins with an underscore
    have hkeywords : ∀ keyword ∈ "cast" :: "raise" :: Sql.reservedWords, keyword.toList.head? ≠ some '_' := by decide
    intro keyword hkeyword h
    exact hkeywords keyword hkeyword (by rw [← h]; rfl)

/-- Columns of a table in sight are read by their names. -/
private theorem run_selectColumns {store : Store Database} {table : Text} {names : List Text} {rows : List (List Text)}
    (h : store.database.catalog.HasTable table names rows) {places : List Nat} (hne : places ≠ []) {name : Nat → Text}
    (hplaces : ∀ k ∈ places, names[k]? = some (name k))
    (hnames : ∀ k ∈ places, Sql.Grammar.ColumnName (name k) ∧ (name k).all Identifier.isWordChar) :
    (store.run ("SELECT ".toList ++ Text.joinWith ", ".toList (places.map name) ++ " FROM ".toList ++ table)).2 =
      .ok (.rows ⟨places.map name, rows.map fun cells => places.map fun k => cells.getD k []⟩) := by
  obtain ⟨hprepare, hquery⟩ := Database.engineQuery_selectColumns h hne hplaces hnames
  rcases store.run_cases
    ("SELECT ".toList ++ Text.joinWith ", ".toList (places.map name) ++ " FROM ".toList ++ table) with
    ⟨e, he, -⟩ | ⟨hnone, -⟩ | ⟨headers, -, hheaders, hrun⟩
  · cases he.symm.trans hprepare
  · exact absurd (List.map_eq_nil_iff.1 (Except.ok.inj (hprepare.symm.trans hnone))) hne
  · obtain rfl : places.map name = headers := Except.ok.inj (hprepare.symm.trans hheaders)
    have htexts : (rows.map fun cells => places.map fun k => Sql.Value.text (cells.getD k [])).map
        (fun row => row.map (·.display)) = rows.map fun cells => places.map fun k => cells.getD k [] := by
      rw [List.map_map]
      refine List.map_congr_left fun cells _ => ?_
      rw [Function.comp_apply, List.map_map]
      rfl
    rw [hrun, hquery, Listing.ofAnswer_rows (by simp), htexts]
    rfl

/-- A query for columns of a table by their headers shows these headers as they were typed, and in each row, in the order
of the load, the cells of the columns that have them. -/
theorem LoadedWith.query_labels (hs : s.LoadedWith loads) (hl : l ∈ loads)
    (hvisible : s.store.database.catalog.temp.find? l.table = none) {tokens : List Token} (hne : tokens ≠ [])
    (hquotes : ∀ t ∈ tokens, ∀ q ∈ t.quote, q ∈ labelQuotes)
    (hmapped : ∀ t ∈ tokens, (s.mappings.resolve l.table t.label).isSome)
    (hlabels : ∀ e ∈ s.mappings.entries, ∀ c ∈ ' ' :: ',' :: labelQuotes, c ∉ e.label)
    (hcontext : tableContext (selectText tokens l.table) s.mappings.tables = some l.table) :
    ∃ places, List.Forall₂ (fun t k => s.mappings.resolve l.table t.label = some (Identifier.forPosition (k + 1)) ∧
        l.headers[k]? = some t.label) tokens places ∧
      (∀ cells ∈ l.rows, cells.length = l.headers.length) ∧
      (s.query (selectText tokens l.table)).answer = .ok (.rows
        ⟨tokens.map (·.label), l.rows.map fun cells => places.map fun k => cells.getD k []⟩) := by
  have honly := onlyLoaded_database hs
  have hword := word_of_tableContext hcontext
  have hstands : l.Stands Database.semantics s := honly.stands l hl hword (Database.not_hidden_of_none hvisible)
  have hplace : ∀ t ∈ tokens, ∃ k, KeptAt l.headers k t.label ∧
      s.mappings.resolve l.table t.label = some (Identifier.forPosition (k + 1)) := by
    intro t ht
    obtain ⟨identifier, hidentifier⟩ := Option.isSome_iff_exists.1 (hmapped t ht)
    obtain ⟨k, hk, rfl⟩ := (hstands.mapped t.label identifier).1 hidentifier
    exact ⟨k, hk, hidentifier⟩
  choose! place hkept hresolve using hplace
  let name : Nat → Text := fun k => Identifier.forPosition (k + 1)
  -- the statement that is run names the columns by their positions
  have hlabelled : ∀ t ∈ tokens, t.label ≠ [] ∧ ∃ e ∈ s.mappings.entries, e.label = t.label := by
    intro t ht
    refine ⟨fun hempty => ?_, _, HeaderMappings.resolve_eq_some.1 (hresolve t ht), rfl⟩
    have hhan := (hkept t ht).2.1
    rw [hempty] at hhan
    cases hhan
  have htext : s.mappings.substitute (selectText tokens l.table) =
      "SELECT ".toList ++ Text.joinWith ", ".toList ((tokens.map place).map name) ++ " FROM ".toList ++ l.table := by
    have hnamed : (tokens.map fun t => (s.mappings.labelIdentifier?
        (tableContext (selectText tokens l.table) s.mappings.tables) t.label).getD []) = (tokens.map place).map name := by
      rw [List.map_map]
      refine List.map_congr_left fun t ht => ?_
      rw [hcontext, HeaderMappings.labelIdentifier?, Option.bind_some, hresolve t ht]
      rfl
    rw [HeaderMappings.substitute_selectText honly.marked hne hword hlabelled hquotes hlabels, hnamed]
  have hplaces : ∀ k ∈ tokens.map place, l.plan.identifiers[k]? = some (name k) :=
    List.forall_mem_map.2 fun t ht => identifiers_getElem? (hkept t ht).1 (hkept t ht).2.1
  have hrun := run_selectColumns (hasTable hstands) (by simpa using hne) hplaces
    fun k _ => ⟨columnName_forPosition (k + 1), word_forPosition (k + 1)⟩
  refine ⟨tokens.map place, ?_, ?_, (query_rows htext hrun).trans ?_⟩
  · rw [List.forall₂_map_right_iff, List.forall₂_same]
    exact fun t ht => ⟨hresolve t ht, (hkept t ht).1⟩
  · rw [← length_columns l.table l.headers]
    exact hstands.widths
  · have hshown : s.mappings.columnLabels (some l.table) ((tokens.map place).map name) = tokens.map (·.label) := by
      rw [HeaderMappings.columnLabels, List.map_map, List.map_map]
      refine List.map_congr_left fun t ht => ?_
      exact HeaderMappings.columnLabel_of_reverse (HeaderMappings.reverse_eq_some.2 (hresolve t ht))
    rw [hcontext, hshown]

theorem query_labels_repeated : (both.query (selectText written ['b'])).answer =
    .ok (.rows ⟨["名称".toList, "数量".toList, "名称".toList], [[['3'], ['2'], ['3']]]⟩) := by
  obtain ⟨-, ⟨-, hvisible⟩, hmapped, hname, hcount, hlabels, hcontext⟩ := both_eq
  obtain ⟨places, hplaces, -, hquery⟩ := LoadedWith.query_labels loadedWith_both (List.mem_pair.2 (.inr rfl)) hvisible
    (by decide) (by simp [written, labelQuotes]) hmapped
    (fun e he => List.all_iff_forall_prop.1 (List.all_eq_true.1 hlabels e he)) hcontext
  -- a header has one position
  have hposition : ∀ {label : Text} {j k : Nat}, both.mappings.resolve ['b'] label = some (Identifier.forPosition j) →
      both.mappings.resolve ['b'] label = some (Identifier.forPosition (k + 1)) → k = j - 1 := by
    intro label j k hj hk
    rw [hj, Option.some.injEq] at hk
    rw [Identifier.forPosition_injective hk]
    rfl
  cases hplaces with
  | cons hfirst hplaces =>
    cases hplaces with
    | cons hsecond hplaces =>
      cases hplaces with
      | cons hthird hplaces =>
        cases hplaces
        rw [hposition hname hfirst.1, hposition hcount hsecond.1, hposition hname hthird.1] at hquery
        exact hquery

/-- A table with one header. -/
private def column : Load := ⟨['t'], ["名称".toList], [[['x']]]⟩

/-- A temporary table that hides it. -/
private def cover : Load := ⟨"temp.t".toList, [['b']], [[['y']]]⟩

/-- The session with both of these. -/
private def covered : Session Database := (cover.run (column.run inMemory).state).state

/-- What the loads answer, and what the session behind them has. -/
private theorem covered_eq :
    ((column.run inMemory).answer = .ok ⟨['t'], 1, 1⟩ ∧
      (cover.run (column.run inMemory).state).answer = .ok ⟨"temp.t".toList, 1, 0⟩) ∧
    (covered.mappings.resolve column.table "名称".toList = some "_1".toList ∧
      (covered.mappings.entries.all fun e => (' ' :: ',' :: labelQuotes).all (· ∉ e.label)) ∧
      tableContext (selectText [⟨"名称".toList, none⟩] column.table) covered.mappings.tables = some column.table ∧
      covered.mappings.labelIdentifier? (some column.table) "名称".toList = some "_1".toList) ∧
    (covered.store.run "SELECT _1 FROM t".toList).2 = .error
      ⟨"no such column: _1 in SELECT _1 FROM t at offset 7".toList, ["Error code 1: SQL error or missing database".toList]⟩ := by
  decide +kernel

private theorem loadedWith_covered : covered.LoadedWith [column, cover] :=
  (loadedWith_inMemory.load covered_eq.1.1).load covered_eq.1.2

/-- A temporary table is read in the place of the one that has the header. -/
theorem query_labels_hidden :
    covered.LoadedWith [column, cover] ∧ covered.mappings.resolve column.table "名称".toList = some "_1".toList ∧
      (∀ e ∈ covered.mappings.entries, ∀ c ∈ ' ' :: ',' :: labelQuotes, c ∉ e.label) ∧
      tableContext (selectText [⟨"名称".toList, none⟩] column.table) covered.mappings.tables = some column.table ∧
      (covered.query (selectText [⟨"名称".toList, none⟩] column.table)).answer = .error
        ⟨"no such column: _1 in SELECT _1 FROM t at offset 7".toList, ["Error code 1: SQL error or missing database".toList]⟩ := by
  obtain ⟨-, ⟨hresolve, hlabels, hcontext, hidentifier⟩, hfails⟩ := covered_eq
  have hlabels : ∀ e ∈ covered.mappings.entries, ∀ c ∈ ' ' :: ',' :: labelQuotes, c ∉ e.label := fun e he =>
    List.all_iff_forall_prop.1 (List.all_eq_true.1 hlabels e he)
  refine ⟨loadedWith_covered, hresolve, hlabels, hcontext, ?_⟩
  have htext : covered.mappings.substitute (selectText [⟨"名称".toList, none⟩] column.table) = "SELECT _1 FROM t".toList := by
    rw [HeaderMappings.substitute_selectText (onlyLoaded_database loadedWith_covered).marked (List.cons_ne_nil _ [])
      (by decide) (List.forall_mem_singleton.2 ⟨by decide, _, HeaderMappings.resolve_eq_some.1 hresolve, rfl⟩)
      (by simp) hlabels, hcontext, List.map_singleton, hidentifier]
    rfl
  rw [query_answer_eq_error, htext, hfails]

end Session

end SheetQuery
