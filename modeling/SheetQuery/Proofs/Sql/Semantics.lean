import SheetQuery.Proofs.Engine.Counting
import SheetQuery.Proofs.Sql.Counting
import SheetQuery.Proofs.Sql.MappingTable
import SheetQuery.Proofs.Sql.Texts

/-!
# What statements mean here

The database of this library in the vocabulary for engines.

* `filledTable`: a table of texts with rows.
* `Catalog.HasTable`: the table of a word is in sight, with its columns and rows.
* `Database.semantics`: what there is to say of a database; `Database.counter` of the rows that it counts.
-/

namespace SheetQuery.Sql

/-- The table of texts with these columns and rows. -/
def filledTable (name : Text) (columns : List Text) (rows : List (List Text)) : Table :=
  rows.foldl Table.append ⟨name, columns.map textColumn, none, []⟩

section

variable (name : Text) (columns : List Text) (rows : List (List Text))

private theorem foldl_append (t : Table) :
    (rows.foldl Table.append t).name = t.name ∧ (rows.foldl Table.append t).columns = t.columns ∧
      (rows.foldl Table.append t).numberColumn = t.numberColumn ∧
      (rows.foldl Table.append t).rows.map (·.values) = t.rows.map (·.values) ++ rows.map fun cells => cells.map .text := by
  induction rows generalizing t with
  | nil => exact ⟨rfl, rfl, rfl, (List.append_nil _).symm⟩
  | cons cells rows ih =>
    obtain ⟨hname, hcolumns, hnumber, hvalues⟩ := ih (t.append cells)
    refine ⟨hname, hcolumns, hnumber, hvalues.trans ?_⟩
    rw [Table.append, List.map_append, List.append_assoc]
    rfl

@[simp] theorem name_filledTable : (filledTable name columns rows).name = name := (foldl_append rows _).1

@[simp] theorem columns_filledTable : (filledTable name columns rows).columns = columns.map textColumn :=
  (foldl_append rows _).2.1

@[simp] theorem values_filledTable :
    (filledTable name columns rows).rows.map (·.values) = rows.map fun cells => cells.map .text :=
  (foldl_append rows _).2.2.2

theorem append_filledTable (cells : List Text) :
    (filledTable name columns rows).append cells = filledTable name columns (rows ++ [cells]) := by
  rw [filledTable, filledTable, List.foldl_append]
  rfl

theorem ofTexts_filledTable : (filledTable name columns rows).OfTexts := by
  refine ⟨fun c hc => ?_, (foldl_append rows _).2.2.1⟩
  rw [columns_filledTable] at hc
  obtain ⟨w, -, rfl⟩ := List.mem_map.1 hc
  rfl

end

/-- The table of texts is there under a word, and in sight. -/
structure Catalog.HasTable (c : Catalog) (table : Text) (names : List Text) (rows : List (List Text)) : Prop where
  word : TableWord table
  unreserved : isReservedName table = false
  nonempty : names ≠ []
  distinct : (names.map Text.lower).Nodup
  widths : ∀ cells ∈ rows, cells.length = names.length
  shows : c.Shows table (filledTable table names rows)

/-- The tables of a file have at most one table of header mappings.  It is as the program makes it, and no trigger is on
it.  These are its rows, none if there is no such table. -/
structure Schema.HasMappings (s : Schema) (rows : List Row) : Prop where
  table : s.under Store.mappingTableName = [] ∧ rows = [] ∨
    s.under Store.mappingTableName = [Store.mappingTableWith rows]
  quiet : s.Quiet Store.mappingTableName
  valid : Store.ValidRows rows

/-- A connection that shows the tables. -/
def Catalog.connection (c : Catalog) : Database := ⟨c, none, 0, false, Database.noPageLimit⟩

namespace Database

/-- The meaning of statements on the database of this library. -/
def semantics : Semantics Database where
  Version := Catalog
  Settings := Bool × Nat
  Under := List Table × List Table
  now db := db.catalog
  saved db := db.before.toList
  settings db := (db.readOnly, db.pageLimit)
  Writes settings := settings.1 = false
  Reads _ := True
  Full failure := failure = Fault.full.failure
  names c := c.main.tables.map (·.name)
  under c name := (c.main.under name, c.temp.under name)
  Hidden c name := (c.temp.find? name).isSome
  Clear c name := ∀ temporary, (c.schema temporary).Quiet name
  Stores := Catalog.HasTable
  Keeps c rows := ∃ stored, Store.Holds c stored ∧ (stored.map (·.values) : Multiset (List Value)) = rows
  Opens content rows := ∀ tables, schemaOf content = .ok tables →
    ∃ stored, tables.HasMappings stored ∧ (stored.map (·.values) : Multiset (List Value)) = rows
  Sound content := ∀ tables, schemaOf content = .ok tables → tables.Distinct ∧ ∀ t ∈ tables.tables, t.Numbered
  Taken c text := ∃ temporary name, Places text temporary name ∧ ((c.schema temporary).find? name).isSome

theorem clear_of_quiet {db : Database} {name : Text} (h : ∀ temporary, (db.catalog.schema temporary).Quiet name) :
    semantics.Clear (semantics.now db) name := h

theorem not_hidden_of_none {db : Database} {name : Text} (h : db.catalog.temp.find? name = none) :
    ¬ semantics.Hidden (semantics.now db) name := fun hhidden => by
  have hhidden : (db.catalog.temp.find? name).isSome := hhidden
  rw [h] at hhidden
  cases hhidden

/-- The rows that the database counts. -/
def counter : Counter semantics where
  changes db := db.changes
  Counts c sql := ∃ p, c.connection.compile sql = .ok (some p) ∧ p.action.Counts
  Changed c sql parameters c' n := ∃ p, c.connection.compile sql = .ok (some p) ∧ p.action.Changes parameters c c' n
  Determined _ _ := True

end Database

end SheetQuery.Sql
