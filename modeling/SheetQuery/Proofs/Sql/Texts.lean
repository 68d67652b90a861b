import SheetQuery.Proofs.Sql.Selection

/-!
# Tables of texts

A table whose columns all keep texts takes any row of as many texts, behind the rows that it has.

* `Table.OfTexts`: a table of such columns.
* `Table.append`: a row of texts behind the others; `insertRow_append` puts it there.
* `prepare_appendRow`: the statement that does so, prepared.
* `perform_appendRow`: so does the table when it gets a row.
-/

namespace SheetQuery.Sql

/-- A column of texts. -/
def textColumn (name : Text) : Column := ⟨name, "TEXT".toList, false, none, 0⟩

/-- The table is made of columns of texts. -/
structure Table.OfTexts (t : Table) : Prop where
  columns : ∀ c ∈ t.columns, c = textColumn c.name
  number : t.numberColumn = none

/-- A row of texts behind the others. -/
def Table.append (t : Table) (cells : List Text) : Table :=
  { t with rows := t.rows ++ [⟨t.nextNumber, cells.map .text⟩] }

/-- A table of texts is created without rows. -/
theorem table_textDefinitions (name : TableName) (ids : List Text) :
    TableDefinition.table ⟨name, false, ids.map Grammar.textDefinition, []⟩ = ⟨name.name, ids.map textColumn, none, []⟩ := by
  have hkey : ((ids.map Grammar.textDefinition).filter (·.primaryKey)).map (·.name) = [] := by
    rw [List.map_eq_nil_iff, List.filter_eq_nil_iff]
    intro d hd
    obtain ⟨w, -, rfl⟩ := List.mem_map.1 hd
    exact Bool.false_ne_true
  have htype : keptType "TEXT".toList = "TEXT".toList := by decide
  have hcolumns : (ids.map Grammar.textDefinition).map (ColumnDefinition.column []) = ids.map textColumn := by
    rw [List.map_map]
    refine List.map_congr_left fun w _ => ?_
    change Column.mk w (keptType "TEXT".toList) false none 0 = _
    rw [htype]
    rfl
  simp only [TableDefinition.table, List.isEmpty_nil, if_true, hkey, hcolumns]

namespace Table

variable {t : Table} {cells : List Text}

private theorem OfTexts.keyColumns (h : t.OfTexts) : t.keyColumns = [] := by
  unfold Table.keyColumns
  rw [List.filterMap_eq_nil_iff]
  intro k _
  rw [List.findIdx?_eq_none_iff]
  intro c hc
  rw [h.columns c hc]
  rfl

private theorem OfTexts.missingColumn? (h : t.OfTexts) (values : List Value) : t.missingColumn? values = none := by
  unfold Table.missingColumn?
  rw [List.findSome?_eq_none_iff]
  rintro ⟨c, v⟩ hc
  rw [h.columns c (List.of_mem_zip hc).1]
  rfl

/-- A column of texts keeps texts as they are. -/
private theorem OfTexts.stored (h : t.OfTexts) (hlength : cells.length = t.columns.length) :
    t.stored (cells.map .text) = cells.map .text := by
  have htext : ∀ (c : Column) (w : Text), c ∈ t.columns → Value.store c.affinity (.text w) = .text w := by
    intro c w hc
    rw [h.columns c hc]
    rfl
  unfold Table.stored
  refine List.ext_getElem (by simp [hlength]) fun k hk hk' => ?_
  rw [List.getElem_zipWith, List.getElem_map]
  exact htext _ _ (List.getElem_mem _)

/-- A row is put in behind the others, whatever it holds. -/
private theorem OfTexts.insertRow (h : t.OfTexts) (values : List Value) :
    t.insertRow false values = .ok ({ t with rows := t.rows ++ [⟨t.nextNumber, values⟩] }, ⟨t.nextNumber, values⟩) := by
  have hasked : t.askedNumber values = .ok none := by rw [askedNumber, h.number]
  have hvalues : t.withNumber t.nextNumber values = values := by rw [withNumber, h.number]
  have hnumber : t.rows.any (·.number == t.nextNumber) = false := by
    rw [List.any_eq_false]
    intro r hr
    have hlt := lt_nextNumber hr
    rw [beq_iff_eq]
    omega
  have hkey : t.rows.any (t.sameKey values) = false := by
    rw [List.any_eq_false]
    intro r _
    rw [sameKey, h.keyColumns]
    exact Bool.false_ne_true
  have hlast := @insertByNumber_last ⟨t.nextNumber, values⟩ t.rows fun r hr => lt_nextNumber hr
  simp only [Table.insertRow, hasked, bind, Except.bind, Option.getD_none, hvalues, h.missingColumn?, pure, Except.pure,
    Bool.false_eq_true, if_false, hnumber, hkey, hlast]

theorem OfTexts.insertRow_append (h : t.OfTexts) (hlength : cells.length = t.columns.length) :
    Progress.all (Progress.insert [] false) [cells.map .text] ⟨t, 0⟩ = .ok ⟨t.append cells, 1⟩ := by
  have hone : Progress.insert [] false ⟨t, 0⟩ (cells.map .text) = .ok ⟨t.append cells, 1⟩ := by
    rw [Progress.insert]
    dsimp only
    rw [h.stored hlength, h.insertRow]
    rfl
  rw [Progress.all, hone]
  rfl

end Table

/-! ### The statement that puts in a row -/

/-- A row of parameters goes behind the rows of a table. -/
def appendAction (table : Text) (width : Nat) : Action :=
  .insert false table false (List.range width) [(List.range' 1 width).map .parameter] []

theorem prepare_appendRow {c : Catalog} {name : Text} {t : Table} (h : c.Shows name t) (written : Text) (offset : Nat) :
    c.prepare (.insert ⟨⟨name, written, offset⟩, none⟩ false [] [(List.range' 1 t.columns.length).map .parameter]) =
      .ok (appendAction t.name t.columns.length) := by
  have hresolve : ∀ l : List Nat, Scope.nothing.resolveAll (l.map .parameter) = .ok (l.map fun n => ⟨.parameter n, none⟩) := by
    intro l
    induction l with
    | nil => rfl
    | cons n l ih => exact bind_eq_ok.2 ⟨_, rfl, bind_eq_ok.2 ⟨_, ih, rfl⟩⟩
  have hrows : Catalog.insertedRows ((List.range' 1 t.columns.length).map Expr.parameter).length
      [(List.range' 1 t.columns.length).map .parameter] = .ok [(List.range' 1 t.columns.length).map .parameter] := by
    rw [Catalog.insertedRows, if_neg (by simp)]
    refine bind_eq_ok.2 ⟨_, hresolve _, bind_eq_ok.2 ⟨[], rfl, ?_⟩⟩
    rw [List.map_map]
    rfl
  refine bind_eq_ok.2 ⟨(false, t), h.find _ _, bind_eq_ok.2 ⟨[], h.quiet.onEvent (Schema.sameName_of_find? h.found) _, ?_⟩⟩
  refine bind_eq_ok.2 ⟨[], rfl, bind_eq_ok.2 ⟨_, hrows, ?_⟩⟩
  have hgiven : ([(List.range' 1 t.columns.length).map Expr.parameter].headD []).length = t.columns.length := by simp
  dsimp only
  rw [hgiven, if_pos rfl]
  rfl

namespace Database

variable {db : Database} {name : Text} {t : Table}

private theorem map_parameter {cells : List Value} {width : Nat} (hlength : cells.length = width) :
    ((List.range' 1 width).map Term.parameter).map (·.eval ⟨[], cells, []⟩) = cells := by
  refine List.ext_getElem (by simp [hlength]) fun k _ hk => ?_
  simp [Term.eval, List.getD_eq_getElem?_getD, hk]

private theorem placeValues_range {values : List Value} (hlength : values.length = t.columns.length) :
    placeValues t (List.range t.columns.length) values = values := by
  unfold placeValues
  refine List.ext_getElem (by simp [hlength]) fun k hk hk' => ?_
  have hplace : (List.range t.columns.length).findIdx? (· == k) = some k := by
    rw [List.findIdx?_eq_some_iff_getElem]
    refine ⟨by simpa [hlength] using hk', by simp, fun j hj => ?_⟩
    simp
    omega
  rw [List.getElem_mapIdx, hplace]
  simp [List.getD_eq_getElem?_getD, hk']

/-- A table of texts gets a row, unless the database is full. -/
theorem perform_appendRow (h : db.catalog.Shows name t) (ht : t.OfTexts) (hwrite : db.readOnly = false)
    {cells : List Text} (hlength : cells.length = t.columns.length) :
    db.perform (cells.map .text) (appendAction t.name t.columns.length) =
        ({ db with catalog := db.catalog.modify false (·.replace (t.append cells)), changes := 1 }, .ok (.affected 1)) ∨
      ∃ db', db.perform (cells.map .text) (appendAction t.name t.columns.length) = (db', .error .full) := by
  have hfind : (db.catalog.schema false).find? t.name = some t := by
    rw [Schema.find?_congr (Schema.sameName_of_find? h.found)]
    exact h.found
  refine (modifyRows_cases (p := ⟨t.append cells, 1⟩) hfind hwrite ?_).imp_right And.right
  have hwidth : (cells.map Value.text).length = t.columns.length := by rw [List.length_map, hlength]
  change Progress.all _ [placeValues t _ (((List.range' 1 t.columns.length).map Term.parameter).map _)] _ = _
  rw [map_parameter hwidth, placeValues_range hwidth]
  exact ht.insertRow_append hlength

end Database

end SheetQuery.Sql
