import SheetQuery.Proofs.Sql.Compiled
import SheetQuery.Proofs.Sql.Rows

/-!
# What a query of one table yields

The columns that a query names stand in its result as they are called in the table, and its rows are those of the
table, in their order.

* `run_columns`: items that are columns.
* `run_selectAll`, `run_selectColumns`: all columns, and columns by their names.
* `Database.compile_selectAll`, `Database.compile_selectColumns`: the statements.
-/

namespace SheetQuery.Sql

variable {c : Catalog} {t : Table} {name : TableName} {temporary : Bool}

private theorem join_table (h : c.find name = .ok (temporary, t)) :
    (Sources.table name none .none).join c = .ok ⟨[t.scope t.name], t.rows.map Row.members⟩ := by
  have hrows : ((t.rows.map Row.members).flatMap fun row => [[]].map (row ++ ·)) = t.rows.map Row.members := by simp
  refine bind_eq_ok.2 ⟨(temporary, t), h, bind_eq_ok.2 ⟨⟨[], [[]]⟩, rfl, ?_⟩⟩
  exact congrArg (fun rows => Except.ok (Joined.mk [t.scope t.name] rows)) hrows

/-- A query whose items are columns yields the members of the rows at their places. -/
theorem run_columns {items : List ResultItem} {outs : List Output} {places : List Nat}
    (hfind : c.find name = .ok (temporary, t)) (houts : QueryBody.outputs [t.scope t.name] items = .ok outs)
    (hplaces : outs.map (·.typed.term) = places.map fun k => .column (k + 1)) :
    (tableQuery items name).run c = .ok ⟨outs.map fun o => ⟨o.name, o.typed.affinity⟩,
      t.rows.map fun r => places.map fun k => r.values.getD k .null⟩ := by
  have hcounts : (outs.map (·.typed.term)).any Term.counts = false := by
    rw [hplaces, List.any_eq_false]
    intro term hterm
    obtain ⟨k, -, rfl⟩ := List.mem_map.1 hterm
    exact Bool.false_ne_true
  have hproject : (QueryBody.project (outs.map (·.typed.term)) [] [t.scope t.name] (t.rows.map Row.members)).map (·.1) =
      t.rows.map fun r => places.map fun k => r.values.getD k .null := by
    unfold QueryBody.project
    rw [if_neg (Bool.eq_false_iff.1 hcounts), List.map_map, List.map_map, hplaces]
    refine List.map_congr_left fun r _ => ?_
    change (places.map fun k => Term.column (k + 1)).map _ = _
    rw [List.map_map]
    rfl
  refine bind_eq_ok.2 ⟨_, join_table hfind, bind_eq_ok.2 ⟨none, rfl, bind_eq_ok.2 ⟨none, rfl, ?_⟩⟩⟩
  refine bind_eq_ok.2 ⟨outs, houts, bind_eq_ok.2 ⟨none, rfl, bind_eq_ok.2 ⟨[], rfl, ?_⟩⟩⟩
  refine bind_eq_ok.2 ⟨none, rfl, bind_eq_ok.2 ⟨none, rfl, ?_⟩⟩
  exact congrArg (fun rows => Except.ok (Relation.mk (outs.map fun o => ⟨o.name, o.typed.affinity⟩) rows)) hproject

/-- All columns of a table make its rows. -/
theorem run_selectAll (hfind : c.find name = .ok (temporary, t)) (hrows : ∀ r ∈ t.rows, r.values.length = t.columns.length) :
    ∃ columns, (tableQuery [.all] name).run c = .ok ⟨columns, t.rows.map (·.values)⟩ ∧
      columns.map (·.name) = t.columns.map (·.name) := by
  let outs : List Output := (t.scope t.name).columns.mapIdx fun k c =>
    ⟨c.1, true, ⟨.column (0 + 1 + k), some c.2⟩⟩
  have houts : QueryBody.outputs [t.scope t.name] [.all] = .ok outs := by
    refine bind_eq_ok.2 ⟨outs, ?_, bind_eq_ok.2 ⟨[], rfl, ?_⟩⟩
    · exact congrArg Except.ok (List.append_nil outs)
    · exact congrArg Except.ok (List.append_nil outs)
  have hplaces : outs.map (·.typed.term) = (List.range t.columns.length).map fun k => .column (k + 1) := by
    refine List.ext_getElem (by simp [outs, Table.scope]) fun k _ _ => ?_
    simp [outs, Nat.add_comm]
  have hvalues : (t.rows.map fun r => (List.range t.columns.length).map fun k => r.values.getD k .null) =
      t.rows.map (·.values) := by
    refine List.map_congr_left fun r hr => List.ext_getElem (by simp [hrows r hr]) fun k _ hk => ?_
    simp [List.getD_eq_getElem?_getD, hk]
  have hrun := run_columns hfind houts hplaces
  rw [hvalues] at hrun
  refine ⟨_, hrun, List.ext_getElem (by simp [outs, Table.scope]) fun k _ _ => ?_⟩
  simp [outs, Table.scope]

/-- The column of the name stands at the place, and is called just so. -/
def Table.HasColumn (t : Table) (w : Text) (k : Nat) : Prop :=
  t.columnIndex? w = some k ∧ (t.columns[k]?).map (·.name) = some w

private theorem itemOutputs_column {w : Text} {k : Nat} (h : t.HasColumn w k) {item : ResultItem} (hitem : IsColumn w item) :
    ∃ o : Output, QueryBody.itemOutputs [t.scope t.name] item = .ok [o] ∧ o.name = w ∧ o.typed.term = .column (k + 1) := by
  obtain ⟨offset, written, rfl⟩ := hitem
  obtain ⟨hindex, hname⟩ := h
  have hscope : (t.scope t.name).columns.findIdx? (fun c => Text.sameName c.1 w) = some k := by
    rw [Table.scope, List.findIdx?_map]
    exact hindex
  have hcandidates : Scope.candidates ⟨[t.scope t.name], []⟩ none w =
      [⟨.column (0 + 1 + k), ((t.scope t.name).columns[k]?).map (·.2)⟩] := by
    simp [Scope.candidates, Scope.placed, hscope]
  have hresolve : Scope.resolve ⟨[t.scope t.name], []⟩ (.column none w false offset) =
      .ok ⟨.column (0 + 1 + k), ((t.scope t.name).columns[k]?).map (·.2)⟩ := by
    simp only [Scope.resolve, Scope.resolveColumn, hcandidates]
  have hcolumn : QueryBody.columnName? (Scope.placed 0 [t.scope t.name]).reverse (0 + 1 + k) = some w := by
    have hplace : 0 + 1 + k - 0 - 1 = k := by omega
    have hname' : ((t.scope t.name).columns[k]?).map (·.1) = some w := by
      rw [← hname, Table.scope, List.getElem?_map, Option.map_map]
      rfl
    simp only [Scope.placed, List.reverse_singleton, QueryBody.columnName?, List.findSome?_cons, List.findSome?_nil]
    rw [if_neg (by omega), if_pos (by omega), hplace, hname']
  refine ⟨_, bind_eq_ok.2 ⟨_, hresolve, rfl⟩, ?_, ?_⟩
  · change (QueryBody.columnName? _ (0 + 1 + k)).getD written = w
    rw [hcolumn]
    rfl
  · exact congrArg Term.column (by omega)

private theorem outputs_columns {ws : List Text} {items : List ResultItem} (hitems : List.Forall₂ IsColumn ws items)
    {places : List Nat} (hplaces : List.Forall₂ t.HasColumn ws places) :
    ∃ outs, QueryBody.outputs [t.scope t.name] items = .ok outs ∧ outs.map (·.name) = ws ∧
      outs.map (·.typed.term) = places.map fun k => .column (k + 1) := by
  induction hitems generalizing places with
  | nil =>
    cases hplaces
    exact ⟨[], rfl, rfl, rfl⟩
  | cons hitem _ ih =>
    cases hplaces with
    | cons hplace hplaces =>
      obtain ⟨o, ho, hname, hterm⟩ := itemOutputs_column hplace hitem
      obtain ⟨outs, houts, hnames, hterms⟩ := ih hplaces
      refine ⟨o :: outs, bind_eq_ok.2 ⟨[o], ho, bind_eq_ok.2 ⟨outs, houts, rfl⟩⟩, ?_, ?_⟩
      · rw [List.map_cons, hname, hnames]
      · rw [List.map_cons, List.map_cons, hterm, hterms]

/-- Columns by their names make the members of the rows at their places. -/
theorem run_selectColumns (hfind : c.find name = .ok (temporary, t)) {ws : List Text} {items : List ResultItem}
    (hitems : List.Forall₂ IsColumn ws items) {places : List Nat} (hplaces : List.Forall₂ t.HasColumn ws places) :
    ∃ columns, (tableQuery items name).run c =
        .ok ⟨columns, t.rows.map fun r => places.map fun k => r.values.getD k .null⟩ ∧ columns.map (·.name) = ws := by
  obtain ⟨outs, houts, hnames, hterms⟩ := outputs_columns hitems hplaces
  refine ⟨_, run_columns hfind houts hterms, ?_⟩
  rw [List.map_map]
  exact hnames

namespace Database

variable {db : Database} {table : Text}

/-- A text that says a query is prepared to its result. -/
private theorem compile_of_said {sql : Text} {q : Query} (hsaid : Says sql (.select q) 0) {result : Relation}
    (hq : q.run db.catalog = .ok result) : db.compile sql = .ok (some ⟨.rows result, 0⟩) := by
  refine hsaid.compile ?_
  change (q.run db.catalog).map _ = _
  rw [hq]
  rfl

/-- All columns of a table that no temporary one hides. -/
theorem compile_selectAll (htable : TableWord table) (hmain : db.catalog.main.find? table = some t)
    (htemp : db.catalog.temp.find? table = none) (hrows : ∀ r ∈ t.rows, r.values.length = t.columns.length) :
    ∃ columns, db.compile ("SELECT * FROM ".toList ++ table) =
        .ok (some ⟨.rows ⟨columns, t.rows.map (·.values)⟩, 0⟩) ∧
      columns.map (·.name) = t.columns.map (·.name) := by
  obtain ⟨offset, hsaid⟩ := says_selectAll htable
  have hfind : db.catalog.find ⟨⟨table, table, offset⟩, none⟩ = .ok (false, t) := by
    simp [Catalog.find, Catalog.find?, hmain, htemp]
  obtain ⟨columns, hrun, hnames⟩ := run_selectAll hfind hrows
  exact ⟨columns, compile_of_said hsaid hrun, hnames⟩

/-- Columns of a table that no temporary one hides. -/
theorem compile_selectColumns (htable : TableWord table) (hmain : db.catalog.main.find? table = some t)
    (htemp : db.catalog.temp.find? table = none) {ws : List Text} (hne : ws ≠ [])
    (hws : ∀ w ∈ ws, Grammar.ColumnName w ∧ w.all Identifier.isWordChar) {places : List Nat}
    (hplaces : List.Forall₂ t.HasColumn ws places) :
    ∃ columns, db.compile ("SELECT ".toList ++ Text.joinWith ", ".toList ws ++ " FROM ".toList ++ table) =
        .ok (some ⟨.rows ⟨columns, t.rows.map fun r => places.map fun k => r.values.getD k .null⟩, 0⟩) ∧
      columns.map (·.name) = ws := by
  obtain ⟨items, offset, hitems, hsaid⟩ := says_selectColumns htable hne hws
  have hfind : db.catalog.find ⟨⟨table, table, offset⟩, none⟩ = .ok (false, t) := by
    simp [Catalog.find, Catalog.find?, hmain, htemp]
  obtain ⟨columns, hrun, hnames⟩ := run_selectColumns hfind hitems hplaces
  exact ⟨columns, compile_of_said hsaid hrun, hnames⟩

end Database

end SheetQuery.Sql
