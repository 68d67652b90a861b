import Mathlib.Data.Multiset.Filter
import SheetQuery.Proofs.Sql.Rows
import SheetQuery.Proofs.Sql.Statements
import SheetQuery.Proofs.Text.Sorted

/-!
# The table of header mappings

What the statements on the table of header mappings make of its rows.  They need not be those of a session's mappings: a
user can put in others, as long as they obey the table's own constraints.

* `Table.Valid`: rows that obey the constraints of their table.
* `Holds`: the table is as the program makes it, with valid rows, and in plain sight.
* `execute_dropMappings`, `execute_keepMapping`: rows that go, and rows that are put in.
* `prepare_mappingQuery`: the query has the rows in the order of tables and headers.
-/

namespace SheetQuery

open Sql (Catalog Database Row Table Value)

/-- No number and no key comes twice, and each row is as its columns keep it, with nothing missing. -/
structure Sql.Table.Valid (t : Table) : Prop where
  numbers : (t.rows.map (·.number)).Nodup
  fitting : ∀ r ∈ t.rows, r.values.length = t.columns.length ∧ t.stored r.values = r.values
  complete : ∀ r ∈ t.rows, t.missingColumn? r.values = none
  keys : t.rows.Pairwise fun a b => ¬ t.sameKey a.values b

namespace Store

/-- The table of header mappings without rows. -/
def mappingTable : Table :=
  let column (name : String) (position : Nat) : Sql.Column := ⟨name.toList, "TEXT".toList, true, none, position⟩
  ⟨mappingTableName, [column "table_name" 1, column "original" 2, column "identifier" 0], none, []⟩

/-- The table of header mappings with these rows. -/
def mappingTableWith (rows : List Row) : Table := { mappingTable with rows := rows }

/-- The rows obey the constraints of the table of header mappings. -/
abbrev ValidRows (rows : List Row) : Prop := (mappingTableWith rows).Valid

variable {rows : List Row}

namespace ValidRows

theorem empty : ValidRows [] := ⟨.nil, fun _ h => (nomatch h), fun _ h => (nomatch h), .nil⟩

theorem sublist (h : ValidRows rows) {less : List Row} (hless : less.Sublist rows) : ValidRows less where
  numbers := h.numbers.sublist (hless.map _)
  fitting r hr := h.fitting r (hless.subset hr)
  complete r hr := h.complete r (hless.subset hr)
  keys := h.keys.sublist hless

/-- The table and the header of a row are texts or blobs. -/
theorem members (h : ValidRows rows) {r : Row} (hr : r ∈ rows) :
    ∃ a b c, r.values = [a, b, c] ∧ a.IsWritten ∧ b.IsWritten := by
  have hwritten : ∀ v : Value, Value.store .text v = v → v ≠ .null → v.IsWritten := by
    intro v hstored hnull
    cases v with
    | null => exact absurd rfl hnull
    | integer i => cases hstored
    | real x => cases hstored
    | text s => trivial
    | blob b => trivial
  obtain ⟨hlength, hstored⟩ := h.fitting r hr
  have hcomplete := h.complete r hr
  obtain ⟨a, b, c, hvalues⟩ := List.length_eq_three.1 hlength
  rw [hvalues] at hstored hcomplete
  have hstored : [Value.store .text a, .store .text b, .store .text c] = [a, b, c] := hstored
  have hnull : a ≠ .null ∧ b ≠ .null := by
    constructor
    · rintro rfl
      cases hcomplete
    · rintro rfl
      cases a <;> cases hcomplete
  simp only [List.cons.injEq] at hstored
  exact ⟨a, b, c, hvalues, hwritten a hstored.1 hnull.1, hwritten b hstored.2.1 hnull.2⟩

end ValidRows

/-! ### Keys -/

private theorem ne_null {v : Value} (h : v.IsWritten) : v ≠ .null := by
  rintro rfl
  exact h

theorem sameKey_members {a b c : Value} (ha : a ≠ .null) (hb : b ≠ .null) {r : Row} :
    mappingTable.sameKey [a, b, c] r ↔ r.values.getD 0 .null = a ∧ r.values.getD 1 .null = b := by
  have hcolumns : mappingTable.keyColumns = [0, 1] := rfl
  have hkeyOf : ∀ v w u : Value, v ≠ .null → w ≠ .null → Table.keyOf [0, 1] [v, w, u] = some [v, w] := by
    intro v w u hv hw
    rw [Table.keyOf, if_neg]
    · rfl
    · simpa using ⟨hv.symm, hw.symm⟩
  rw [Table.sameKey, hcolumns, hkeyOf a b c ha hb]
  dsimp only
  rw [beq_iff_eq, Table.keyOf]
  constructor
  · intro h
    split at h
    · cases h
    · simpa using h
  · rintro ⟨rfl, rfl⟩
    exact hkeyOf _ _ .null ha hb

/-- The row has the key of the mapping. -/
def sameKey (new : Mapping) (r : Row) : Bool := mappingTable.sameKey (mappingRow new) r

namespace ValidRows

theorem sameKey_iff (h : ValidRows rows) {r : Row} (hr : r ∈ rows) (new : Mapping) :
    sameKey new r ↔ r.values.take 2 = [.text new.table, .text new.label] := by
  obtain ⟨a, b, c, hvalues, -, -⟩ := h.members hr
  have hsame := @sameKey_members (.text new.table) (.text new.label) (.text new.identifier) (fun h => nomatch h)
    (fun h => nomatch h) r
  rw [hvalues] at hsame ⊢
  simpa [sameKey, mappingRow] using hsame

/-- No two rows agree on the table and the header. -/
theorem eq_of_take (h : ValidRows rows) {r r' : Row} (hr : r ∈ rows) (hr' : r' ∈ rows)
    (htake : r.values.take 2 = r'.values.take 2) : r = r' := by
  have hkey : ∀ r ∈ rows, ∀ r' ∈ rows, r.values.take 2 = r'.values.take 2 → mappingTable.sameKey r.values r' := by
    intro r hr r' hr' htake
    obtain ⟨a, b, c, hvalues, ha, hb⟩ := h.members hr
    obtain ⟨a', b', c', hvalues', -, -⟩ := h.members hr'
    rw [hvalues, hvalues'] at htake
    rw [hvalues, sameKey_members (ne_null ha) (ne_null hb), hvalues']
    simp only [List.take_succ_cons, List.take_zero, List.cons.injEq, and_true] at htake
    exact ⟨htake.1.symm, htake.2.symm⟩
  have hnodup : (rows.map fun r => r.values.take 2).Nodup :=
    List.pairwise_map.2 (h.keys.imp_of_mem fun {r r'} hr hr' happart htake => happart (hkey r hr r' hr' htake))
  exact List.inj_on_of_nodup_map hnodup hr hr' htake

end ValidRows

/-! ### Rows that go -/

/-- The row is one of the table whose mappings are dropped. -/
def dropCondition : Sql.Term := .compare .equal (some .text) (.column 1) (.parameter 1)

/-- The rows without those of a table. -/
def droppedRows (rows : List Row) (table : Text) : List Row :=
  rows.filter fun r => !dropCondition.holds ⟨r.members, [.text table], []⟩

theorem dropCondition_holds {label : Text} {rest : List Value} {r : Row} (hr : r.values = .text label :: rest)
    (table : Text) : dropCondition.holds ⟨r.members, [.text table], []⟩ = (label == table) := by
  have heval : dropCondition.eval ⟨r.members, [.text table], []⟩ =
      .ofTruth (some (Value.order (.text label) (.text table) == .eq)) := by
    simp only [dropCondition, Sql.Term.eval, Row.members, hr]
    rfl
  rw [Sql.Term.holds, heval, Bool.eq_iff_iff, beq_iff_eq, beq_iff_eq, ← (Value.order_text label table).2]
  cases Value.order (.text label) (.text table) <;> decide

namespace ValidRows

theorem dropped (h : ValidRows rows) (table : Text) : ValidRows (droppedRows rows table) :=
  h.sublist (List.filter_sublist ..)

/-- The rows of other tables stay, in their order. -/
theorem droppedRows_eq (h : ValidRows rows) (table : Text) :
    droppedRows rows table = rows.filter fun r => decide (r.values.head? ≠ some (.text table)) := by
  refine List.filter_congr fun r hr => ?_
  obtain ⟨a, b, c, hvalues, ha, hb⟩ := h.members hr
  cases a with
  | text label =>
    rw [dropCondition_holds hvalues table, hvalues, List.head?_cons, Bool.eq_iff_iff]
    simp
  | blob bytes =>
    -- no blob is the same as a text
    have hholds : dropCondition.holds ⟨r.members, [.text table], []⟩ = false := by
      have heval : dropCondition.eval ⟨r.members, [.text table], []⟩ = .ofTruth (some false) := by
        simp only [dropCondition, Sql.Term.eval, Row.members, hvalues]
        rfl
      rw [Sql.Term.holds, heval]
      rfl
    rw [hholds, hvalues]
    simp
  | null | integer | real => exact ha.elim

theorem values_droppedRows (h : ValidRows rows) (table : Text) :
    (((droppedRows rows table).map (·.values) : List (List Value)) : Multiset (List Value)) =
      ((rows.map (·.values) : List (List Value)) : Multiset (List Value)).filter fun row =>
        row.head? ≠ some (.text table) := by
  rw [h.droppedRows_eq, Multiset.filter_coe, List.filter_map]
  rfl

end ValidRows

/-! ### Rows that are put in -/

/-- The rows with that of a mapping behind the others; the one with its key gives way. -/
def withRow (rows : List Row) (new : Mapping) : List Row :=
  (rows.filter fun r => !sameKey new r) ++ [⟨(mappingTableWith rows).nextNumber, mappingRow new⟩]

/-- A mapping is put in behind the others, and the row with its key gives way. -/
theorem insert_mappingRow (rows : List Row) (new : Mapping) :
    Sql.Progress.all (Sql.Progress.insert [] true) [mappingRow new] ⟨mappingTableWith rows, 0⟩ =
      .ok ⟨mappingTableWith (withRow rows new), 1⟩ := by
  have hstored : (mappingTableWith rows).stored (mappingRow new) = mappingRow new := rfl
  have hinsert := @Table.insertRow_replacing (mappingTableWith rows) (mappingRow new) rfl rfl
  have hlast : Table.insertByNumber ⟨(mappingTableWith rows).nextNumber, mappingRow new⟩
      ((mappingTableWith rows).rows.filter fun r => !(mappingTableWith rows).sameKey (mappingRow new) r) =
        withRow rows new :=
    Table.insertByNumber_last fun r hr =>
      @Table.lt_nextNumber (mappingTableWith rows) r (List.mem_filter.1 hr).1
  rw [hlast] at hinsert
  rw [Sql.Progress.all, Sql.Progress.insert]
  dsimp only
  rw [hstored, hinsert]
  rfl

namespace ValidRows

theorem put (h : ValidRows rows) (new : Mapping) : ValidRows (withRow rows new) := by
  have hless : ValidRows (rows.filter fun r => !sameKey new r) := h.sublist (List.filter_sublist ..)
  have hlast : ∀ p : Row → Prop, (∀ r ∈ rows.filter fun r => !sameKey new r, p r) → (∀ n, p ⟨n, mappingRow new⟩) →
      ∀ r ∈ withRow rows new, p r := by
    intro p hrows hnew r hr
    rcases List.mem_append.1 hr with hr | hr
    · exact hrows r hr
    · rw [List.mem_singleton.1 hr]
      exact hnew _
  constructor
  · change ((withRow rows new).map (·.number)).Nodup
    rw [withRow, List.map_append, List.map_singleton, List.nodup_append]
    refine ⟨hless.numbers, List.nodup_singleton _, ?_⟩
    rintro n hn _ hm rfl
    obtain ⟨r, hr, rfl⟩ := List.mem_map.1 hn
    have hlt := @Table.lt_nextNumber (mappingTableWith rows) r (List.mem_filter.1 hr).1
    have heq := List.mem_singleton.1 hm
    dsimp only at heq
    omega
  · exact hlast _ hless.fitting fun n => ⟨rfl, rfl⟩
  · exact hlast _ hless.complete fun n => rfl
  · change (withRow rows new).Pairwise _
    rw [withRow, List.pairwise_append]
    refine ⟨hless.keys, List.pairwise_singleton .., fun r hr r' hr' hkey => ?_⟩
    rw [List.mem_singleton.1 hr'] at hkey
    obtain ⟨hr, happart⟩ := List.mem_filter.1 hr
    obtain ⟨a, b, c, hvalues, ha, hb⟩ := h.members hr
    change mappingTable.sameKey r.values _ at hkey
    rw [hvalues, sameKey_members (ne_null ha) (ne_null hb)] at hkey
    have hsame : sameKey new r := by
      rw [h.sameKey_iff hr, hvalues]
      exact congrArg₂ (fun a b => [a, b]) hkey.1.symm hkey.2.symm
    rw [hsame] at happart
    cases happart

theorem values_withRow (h : ValidRows rows) (new : Mapping) :
    (((withRow rows new).map (·.values) : List (List Value)) : Multiset (List Value)) =
      mappingRow new ::ₘ ((rows.map (·.values) : List (List Value)) : Multiset (List Value)).filter fun row =>
        row.take 2 ≠ [.text new.table, .text new.label] := by
  have hkept : (rows.filter fun r => !sameKey new r) =
      rows.filter fun r => decide (r.values.take 2 ≠ [.text new.table, .text new.label]) := by
    refine List.filter_congr fun r hr => ?_
    rw [Bool.eq_iff_iff, Bool.not_eq_true', decide_eq_true_eq, Ne, ← h.sameKey_iff hr, Bool.not_eq_true]
  rw [withRow, hkept, List.map_append, List.map_singleton, Multiset.filter_coe, List.filter_map, Multiset.cons_coe,
    Multiset.coe_eq_coe]
  exact List.perm_append_singleton ..

end ValidRows

/-! ### The statements -/

/-- The table of header mappings is there as the program makes it, with valid rows, and in plain sight. -/
structure Holds (c : Catalog) (rows : List Row) : Prop where
  main : c.main.under mappingTableName = [mappingTableWith rows]
  temp : c.temp.under mappingTableName = []
  quiet : ∀ temporary, (c.schema temporary).Quiet mappingTableName
  valid : ValidRows rows

namespace Holds

variable {c c' : Catalog} (h : Holds c rows)

include h

theorem shows : c.Shows mappingTableName (mappingTableWith rows) where
  found := by
    rw [Sql.Schema.find?_eq_head?, h.main]
    rfl
  unhidden := Sql.Schema.under_eq_nil.1 h.temp
  quiet := h.quiet false

theorem beside {name : Text} (hname : ¬ Text.sameName mappingTableName name) (hc : c.AlikeBeside name c') :
    Holds c' rows :=
  ⟨(hc.under false _ hname).trans h.main, (hc.under true _ hname).trans h.temp, fun b => hc.quiet (h.quiet b), h.valid⟩

theorem replace {rows' : List Row} (hvalid : ValidRows rows') :
    Holds (c.modify false (·.replace (mappingTableWith rows'))) rows' := by
  refine ⟨?_, h.temp, fun b => ?_, hvalid⟩
  · change (c.main.replace _).under mappingTableName = _
    rw [Sql.Schema.under_replace, h.main]
    rfl
  · have hstep : c.StepAt mappingTableName (c.modify false (·.replace (mappingTableWith rows'))) :=
      .rows false (Text.sameName_iff.2 rfl)
    exact hstep.alikeBeside.quiet (h.quiet b)

theorem prepare_dropMappings :
    c.prepare dropMappings = .ok (.delete false mappingTableName (some dropCondition) []) := by
  have hcondition : Sql.Scope.resolveOptional ⟨[mappingTable.scope mappingTableName], []⟩
      (some (.binary .equal (.column none "table_name".toList false 42) (.parameter 1))) = .ok (some dropCondition) := by
    decide
  exact bind_eq_ok.2 ⟨(false, mappingTableWith rows), h.shows.find _ _, bind_eq_ok.2 ⟨[], h.shows.quiet.onEvent rfl _,
    bind_eq_ok.2 ⟨some dropCondition, hcondition, rfl⟩⟩⟩

theorem prepare_keepMapping : c.prepare keepMapping =
    .ok (.insert false mappingTableName true [0, 1, 2] [[.parameter 1, .parameter 2, .parameter 3]] []) := by
  have hplaces : Catalog.targetPlaces mappingTable (["table_name", "original", "identifier"].map String.toList) =
      .ok [0, 1, 2] := by decide
  have hrows : Catalog.insertedRows 3 [[.parameter 1, .parameter 2, .parameter 3]] =
      .ok [[.parameter 1, .parameter 2, .parameter 3]] := by decide
  exact bind_eq_ok.2 ⟨(false, mappingTableWith rows), h.shows.find _ _, bind_eq_ok.2 ⟨[], h.shows.quiet.onEvent rfl _,
    bind_eq_ok.2 ⟨[0, 1, 2], hplaces, bind_eq_ok.2 ⟨_, hrows, rfl⟩⟩⟩⟩

end Holds

section

variable {db : Database} (h : Holds db.catalog rows) (hwrite : db.readOnly = false)

include h hwrite

/-- A statement that changes the rows is carried out, unless there is no room. -/
private theorem execute_cases {sql : Text} {a : Sql.Action} (parameters : List Value)
    (hcompile : db.compile sql = .ok (some ⟨a, parameters.length⟩)) {change : Table → Except Sql.Stop Sql.Progress}
    (hperform : db.perform parameters a = db.modifyRows false mappingTableName change) {rows' : List Row} {n : Nat}
    (hchange : change (mappingTableWith rows) = .ok ⟨mappingTableWith rows', n⟩) (hvalid : ValidRows rows') :
    (∃ db' n, Engine.execute db sql parameters = (db', .ok n) ∧ Holds db'.catalog rows') ∨
      ∃ db', Engine.execute db sql parameters = (db', .error Sql.Fault.full.failure) := by
  have hfind : (db.catalog.schema false).find? mappingTableName = some (mappingTableWith rows) := h.shows.found
  rcases Database.modifyRows_cases hfind hwrite hchange with hdb | ⟨-, db', hdb⟩
  · exact .inl ⟨_, n, Database.engineExecute_of_perform hcompile rfl (hperform.trans hdb), h.replace hvalid⟩
  · exact .inr ⟨db', Database.engineExecute_of_fault hcompile rfl (hperform.trans hdb)⟩

theorem execute_dropMappings (table : Text) :
    (∃ db' n, Engine.execute db dropMappingsSql [.text table] = (db', .ok n) ∧
        Holds db'.catalog (droppedRows rows table)) ∨
      ∃ db', Engine.execute db dropMappingsSql [.text table] = (db', .error Sql.Fault.full.failure) := by
  have hcompile := Database.compile_of_read rfl readStatement_dropMappingsSql h.prepare_dropMappings
  let gone (r : Row) : Bool := dropCondition.holds ⟨r.members, [.text table], []⟩
  obtain ⟨n, hchange⟩ := Sql.Progress.all_delete_selected (t := mappingTableWith rows) h.valid.numbers gone
  exact execute_cases h hwrite [.text table] hcompile rfl hchange (h.valid.dropped table)

theorem execute_keepMapping (new : Mapping) :
    (∃ db' n, Engine.execute db keepMappingSql (mappingRow new) = (db', .ok n) ∧ Holds db'.catalog (withRow rows new)) ∨
      ∃ db', Engine.execute db keepMappingSql (mappingRow new) = (db', .error Sql.Fault.full.failure) := by
  have hcompile := Database.compile_of_read tableHead?_keepMappingSql readStatement_keepMappingSql
    h.prepare_keepMapping
  exact execute_cases h hwrite (mappingRow new) hcompile rfl (insert_mappingRow rows new) (h.valid.put new)

end

/-- Statements that change rows are carried out only where there may be written. -/
theorem writes_of_execute {sql : Text} (hsql : MappingStatement sql) {db db' : Database} {parameters : List Value}
    {n : Nat} (h : Engine.execute db sql parameters = (db', .ok n)) : db.readOnly = false := by
  obtain ⟨p, parsed, hread, -, hprepare, hperform⟩ := Database.exists_of_engineExecute h
  rcases hsql with rfl | rfl
  · cases readStatement_dropMappingsSql.symm.trans hread
    obtain ⟨temporary, u, term, triggers, -, haction⟩ := Catalog.eq_delete_of_prepare hprepare
    rw [haction] at hperform
    exact (Database.modifyRows_eq_ok hperform).1
  · cases readStatement_keepMappingSql.symm.trans hread
    obtain ⟨temporary, u, places, terms, triggers, -, haction⟩ := Catalog.eq_insert_of_prepare hprepare
    rw [haction] at hperform
    exact (Database.modifyRows_eq_ok hperform).1

/-! ### The query -/

/-- What the query makes of the members of a row: the row of the result, and what it is sorted by. -/
private def shown (members : List Value) : List Value × List (Value × Bool) :=
  ([members.getD 1 .null, members.getD 2 .null, members.getD 3 .null],
   [(members.getD 1 .null, false), (members.getD 2 .null, false)])

private def shownBefore (a b : List Value × List (Value × Bool)) : Bool := Sql.QueryBody.compareKeys a.2 b.2 != .gt

/-- The names of the columns of the result. -/
def queryHeaders : List Text := ["table_name", "original", "identifier"].map String.toList

private theorem prepare_readMappings {c : Catalog} (h : Holds c rows) :
    c.prepare readMappings = .ok (.rows ⟨queryHeaders.map fun name => ⟨name, some .text⟩,
      (((rows.map Row.members).map shown).mergeSort shownBefore).map (·.1)⟩) := by
  let tables := [mappingTable.scope mappingTableName]
  let outs : List Sql.Output :=
    [⟨"table_name".toList, false, ⟨.column 1, some .text⟩⟩, ⟨"original".toList, false, ⟨.column 2, some .text⟩⟩,
      ⟨"identifier".toList, false, ⟨.column 3, some .text⟩⟩]
  let keys : List (Sql.Term × Bool) := [(.column 1, false), (.column 2, false)]
  let column (name : String) (offset : Nat) : Sql.Expr := .column none name.toList false offset
  let items : List Sql.ResultItem :=
    [.expr (column "table_name" 7) none "table_name".toList, .expr (column "original" 19) none "original".toList,
      .expr (column "identifier" 29) none "identifier".toList]
  have houts : Sql.QueryBody.outputs tables items = .ok outs := by rfl
  have hkeys : Sql.QueryBody.orderKeys ⟨tables, []⟩ outs 1
      [⟨column "table_name" 78, false⟩, ⟨column "original" 90, false⟩] = .ok keys := by rfl
  have hjoin : (Sql.Sources.table (mappingName 45) none .none).join c = .ok ⟨tables, rows.map Row.members⟩ := by
    refine bind_eq_ok.2 ⟨(false, mappingTableWith rows), h.shows.find _ _, bind_eq_ok.2 ⟨⟨[], [[]]⟩, rfl, ?_⟩⟩
    refine pure_eq_ok.2 ?_
    have hrows : ((rows.map Row.members).flatMap fun row => [[]].map (row ++ ·)) = rows.map Row.members := by simp
    exact congrArg (Sql.Joined.mk tables) hrows
  have hquery : Sql.Query.run c ⟨⟨items, none, [⟨column "table_name" 78, false⟩, ⟨column "original" 90, false⟩],
      none, none⟩, .table (mappingName 45) none .none⟩ = .ok ⟨queryHeaders.map fun name => ⟨name, some .text⟩,
        (((rows.map Row.members).map shown).mergeSort shownBefore).map (·.1)⟩ := by
    refine bind_eq_ok.2 ⟨_, hjoin, bind_eq_ok.2 ⟨none, rfl, bind_eq_ok.2 ⟨none, rfl, ?_⟩⟩⟩
    refine bind_eq_ok.2 ⟨outs, houts, bind_eq_ok.2 ⟨none, rfl, bind_eq_ok.2 ⟨keys, hkeys, ?_⟩⟩⟩
    exact bind_eq_ok.2 ⟨none, rfl, bind_eq_ok.2 ⟨none, rfl, rfl⟩⟩
  exact congrArg (Except.map Sql.Action.rows) hquery

/-- The place of a member of a row. -/
private def placeAt (k : Nat) (v : List Value) : List Nat := (v.getD k .null).place

/-- Rows in the order of their tables, and then of their headers. -/
private def keyOrder : List Value → List Value → Ordering := compareLex (compareOn (placeAt 0)) (compareOn (placeAt 1))

private instance : Std.TransCmp keyOrder :=
  inferInstanceAs (Std.TransCmp (compareLex (compareOn (placeAt 0)) (compareOn (placeAt 1))))

/-- The row does not stand behind the other one. -/
def keyBefore (v w : List Value) : Bool := (keyOrder v w).isLE

/-- Texts and blobs are sorted by their places. -/
private theorem shownBefore_shown {a b c a' b' c' : Value} (ha : a.IsWritten) (hb : b.IsWritten) (ha' : a'.IsWritten)
    (hb' : b'.IsWritten) : shownBefore (shown [.null, a, b, c]) (shown [.null, a', b', c']) =
      ((compare a.place a'.place).then (compare b.place b'.place)).isLE := by
  have hcompare : shownBefore (shown [.null, a, b, c]) (shown [.null, a', b', c']) =
      ((Value.order a a').then ((Value.order b b').then .eq) != .gt) := rfl
  rw [hcompare, Value.order_written ha ha', Value.order_written hb hb']
  cases compare a.place a'.place <;> cases compare b.place b'.place <;> rfl

/-- The query sorts the rows by tables and headers. -/
theorem prepare_mappingQuery {c : Catalog} (h : Holds c rows) :
    c.prepare readMappings = .ok (.rows ⟨queryHeaders.map fun name => ⟨name, some .text⟩,
      (rows.map (·.values)).mergeSort keyBefore⟩) := by
  have hmembers : (rows.map Row.members).map shown = (rows.map (·.values)).map fun v => shown (.null :: v) := by
    rw [List.map_map, List.map_map]
    rfl
  have hwritten : ∀ v ∈ rows.map (·.values), ∃ a b c, v = [a, b, c] ∧ a.IsWritten ∧ b.IsWritten := by
    intro v hv
    obtain ⟨r, hr, rfl⟩ := List.mem_map.1 hv
    exact h.valid.members hr
  have hsorted : ((rows.map (·.values)).map fun v => shown (.null :: v)).mergeSort shownBefore =
      ((rows.map (·.values)).mergeSort keyBefore).map fun v => shown (.null :: v) := by
    refine (List.map_mergeSort fun v hv w hw => ?_).symm
    obtain ⟨a, b, c, rfl, ha, hb⟩ := hwritten v hv
    obtain ⟨a', b', c', rfl, ha', hb'⟩ := hwritten w hw
    exact (shownBefore_shown ha hb ha' hb').symm
  rw [prepare_readMappings h, hmembers, hsorted, List.map_map]
  refine congrArg _ (congrArg _ (congrArg _ ((List.map_congr_left fun v hv => ?_).trans (List.map_id _))))
  obtain ⟨a, b, c, rfl, -, -⟩ := hwritten v (List.mem_mergeSort.1 hv)
  rfl

/-- What is read of the rows does not depend on their order. -/
theorem mergeSort_eq_of_perm_values (h : ValidRows rows) {l : List (List Value)} (hperm : (rows.map (·.values)).Perm l) :
    (rows.map (·.values)).mergeSort keyBefore = l.mergeSort keyBefore := by
  have htotal : ∀ v w, keyBefore v w || keyBefore w v := by
    intro v w
    have hswap : keyOrder w v = (keyOrder v w).swap := Std.OrientedCmp.eq_swap
    rw [keyBefore, keyBefore, hswap]
    cases keyOrder v w <;> rfl
  refine mergeSort_eq_of_perm (fun u v w => Std.TransCmp.isLE_trans) htotal hperm fun v hv w hw hvw hwv => ?_
  obtain ⟨r, hr, rfl⟩ := List.mem_map.1 hv
  obtain ⟨r', hr', rfl⟩ := List.mem_map.1 hw
  obtain ⟨a, b, c, hvalues, ha, hb⟩ := h.members hr
  obtain ⟨a', b', c', hvalues', ha', hb'⟩ := h.members hr'
  -- rows that stand on the same place have the same table and the same header
  have heq : keyOrder r.values r'.values = .eq := Std.OrientedCmp.isLE_antisymm hvw hwv
  rw [hvalues, hvalues'] at heq
  obtain ⟨htable, hlabel⟩ := Ordering.then_eq_eq.1 heq
  have htake : r.values.take 2 = r'.values.take 2 := by
    rw [hvalues, hvalues', Value.eq_of_place_eq ha ha' (Std.compare_eq_iff_eq.1 htable),
      Value.eq_of_place_eq hb hb' (Std.compare_eq_iff_eq.1 hlabel)]
    rfl
  rw [h.eq_of_take hr hr' htake]

/-- Rows of mappings that stand in order are sorted. -/
theorem mergeSort_mappingRows {kept : List Mapping} (h : kept.Pairwise Mapping.Before) :
    (kept.map mappingRow).mergeSort keyBefore = kept.map mappingRow := by
  refine List.mergeSort_of_pairwise (List.pairwise_map.2 (h.imp fun {a b} hab => ?_))
  have hkey : keyOrder (mappingRow a) (mappingRow b) =
      (Value.order (.text a.table) (.text b.table)).then (Value.order (.text a.label) (.text b.label)) := by
    have horder : ∀ s t : Text, Value.order (.text s) (.text t) = compare (Value.text s).place (Value.text t).place :=
      fun s t => Value.order_written (v := .text s) (w := .text t) trivial trivial
    rw [horder, horder]
    rfl
  rw [keyBefore, hkey]
  rcases hab with htable | ⟨htable, hlabel⟩
  · rw [(Value.order_text _ _).1.2 htable]
    rfl
  · rw [(Value.order_text _ _).2.2 htable, (Value.order_text _ _).1.2 hlabel]
    rfl

end Store

end SheetQuery
