import Mathlib.Data.List.Nodup
import SheetQuery.Proofs.Sql.Frame

/-!
# What statements about one table see

A statement that creates a table, or puts in or deletes rows of one, reads and changes what stands under its name, and
nothing else.  So it does the same in two databases that are alike under the name, until one of them is full.

* `Schema.Distinct`: no two tables have the same name.
* `Catalog.AlikeAt`: two catalogs have the same tables of a name, and no triggers on them.
* `AlikeAt.prepare_eq`: statements about the name are prepared alike.
* `Database.perform_alike`: they come to the same.
-/

namespace SheetQuery.Sql

/-! ### Distinct names -/

namespace Schema

variable {s : Schema} {t : Table}

/-- No two tables have the same name, ignoring case. -/
def Distinct (s : Schema) : Prop := (s.tables.map fun t => Text.lower t.name).Nodup

instance (s : Schema) : Decidable s.Distinct := by unfold Distinct; infer_instance

theorem Distinct.create (h : s.Distinct) (hnone : s.find? t.name = none) : (s.create t).Distinct := by
  unfold Distinct Schema.create
  rw [List.map_append, List.map_singleton, List.nodup_append]
  refine ⟨h, List.nodup_singleton _, ?_⟩
  rintro n hn _ hm rfl
  obtain ⟨t', ht', hlower⟩ := List.mem_map.1 hn
  have hsame : Text.sameName t'.name t.name := Text.sameName_iff.2 (hlower.trans (List.mem_singleton.1 hm))
  have hsome := isSome_find?.2 ⟨t', ht', hsame⟩
  rw [hnone] at hsome
  cases hsome

theorem Distinct.replace (h : s.Distinct) (t : Table) : (s.replace t).Distinct := by
  have hnames : ∀ s : Schema, (s.tables.map fun t => Text.lower t.name) = (s.tables.map (·.name)).map Text.lower := by
    intro s
    rw [List.map_map]
    rfl
  unfold Distinct at h ⊢
  rw [hnames, names_replace, ← hnames]
  exact h

end Schema

/-! ### Statements about the name -/

namespace Catalog

/-- Both have the same tables of the name, and no triggers on them. -/
structure AlikeAt (name : Text) (c c' : Catalog) : Prop where
  under : ∀ temporary, (c'.schema temporary).under name = (c.schema temporary).under name
  quiet : ∀ temporary, (c.schema temporary).Quiet name
  quiet' : ∀ temporary, (c'.schema temporary).Quiet name

namespace AlikeAt

variable {name other : Text} {c c' : Catalog} (h : c.AlikeAt name c')

include h

theorem find?_eq (hother : Text.sameName other name) (temporary : Bool) :
    (c'.schema temporary).find? other = (c.schema temporary).find? other := by
  rw [Schema.find?_congr hother, Schema.find?_congr hother, Schema.find?_eq_head?, Schema.find?_eq_head?, h.under]

private theorem find_eq {target : TableName} (htarget : target.name = name) : c'.find target = c.find target := by
  have hfind := h.find?_eq (Text.sameName_iff.2 (congrArg Text.lower htarget))
  have hmain : c'.main.find? target.name = c.main.find? target.name := hfind false
  have htemp : c'.temp.find? target.name = c.temp.find? target.name := hfind true
  unfold Catalog.find Catalog.find?
  rw [hmain, htemp]

private theorem onEvent_eq {target : TableName} (htarget : target.name = name) {temporary : Bool} {t : Table}
    (hfind : c.find target = .ok (temporary, t)) (event : Event) :
    ActiveTrigger.onEvent (c'.schema temporary) t event = ActiveTrigger.onEvent (c.schema temporary) t event := by
  have hname := sameName_of_find hfind
  rw [htarget] at hname
  rw [(h.quiet temporary).onEvent hname, (h.quiet' temporary).onEvent hname]

theorem checkNewTable_eq {target : TableName} (htarget : target.name = name) (ifNotExists : Bool) :
    c'.checkNewTable target ifNotExists = c.checkNewTable target ifNotExists := by
  simp only [checkNewTable, h.find?_eq (Text.sameName_iff.2 (congrArg Text.lower htarget))]

theorem prepare_eq {s : Statement} (hs : s.About name) : c'.prepare s = c.prepare s := by
  cases s with
  | insert target replace columns rows =>
    simp only [prepare, h.find_eq hs]
    cases hfind : c.find target with
    | error e => rfl
    | ok found => simp only [bind, Except.bind, h.onEvent_eq hs hfind]
  | delete target condition =>
    simp only [prepare, h.find_eq hs]
    cases hfind : c.find target with
    | error e => rfl
    | ok found => simp only [bind, Except.bind, h.onEvent_eq hs hfind]
  | createTable d => simp only [prepare, h.checkNewTable_eq hs]
  | select | update | dropTable | renameTable | createTrigger | dropTrigger | setting | begin | commit | rollback =>
    exact hs.elim

/-- What is under the name stays the same if both schemas change alike. -/
theorem under_modify (temporary : Bool) {f : Schema → Schema}
    (hf : ∀ s s' : Schema, s'.under name = s.under name → (f s').under name = (f s).under name) (b : Bool) :
    ((c'.modify temporary f).schema b).under name = ((c.modify temporary f).schema b).under name := by
  rw [schema_modify, schema_modify]
  split
  · exact hf _ _ (h.under b)
  · exact h.under b

end AlikeAt

end Catalog

namespace Database

variable {name : Text} {db db₁ db' : Database} {parameters : List Value} {outcome : Outcome}

/-- Rows of a table of the name that are changed in one database are changed in the other one as well, if it is not
full. -/
private theorem modifyRows_alike (h : db.catalog.AlikeAt name db'.catalog) (hreadOnly : db'.readOnly = db.readOnly)
    {temporary : Bool} {table : Text} (htable : Text.sameName table name) {change : Table → Except Stop Progress}
    (hdb : db.modifyRows temporary table change = (db₁, .ok outcome)) :
    (∃ db₁' n, db'.modifyRows temporary table change = (db₁', .ok (.affected n)) ∧
      ∀ b, (db₁'.catalog.schema b).under name = (db₁.catalog.schema b).under name) ∨
    ∃ db₁', db'.modifyRows temporary table change = (db₁', .error .full) := by
  obtain ⟨hwrite, t, p, hfind, hchange, rfl, -⟩ := modifyRows_eq_ok hdb
  rw [← h.find?_eq htable temporary] at hfind
  rcases modifyRows_cases hfind (hreadOnly.trans hwrite) hchange with hdb' | ⟨-, db₁', hdb'⟩
  · refine .inl ⟨_, _, hdb', h.under_modify temporary fun s s' hs => ?_⟩
    rw [Schema.under_replace, Schema.under_replace, hs]
  · exact .inr ⟨db₁', hdb'⟩

/-- What a statement about the name has done in one database it does in the other one as well, if it is not full. -/
theorem perform_alike (h : db.catalog.AlikeAt name db'.catalog) (hreadOnly : db'.readOnly = db.readOnly) {s : Statement}
    (hs : s.About name) {a : Action} (ha : db.catalog.prepare s = .ok a)
    (hdb : db.perform parameters a = (db₁, .ok outcome)) :
    (∃ db₁' n, db'.perform parameters a = (db₁', .ok (.affected n)) ∧
      ∀ b, (db₁'.catalog.schema b).under name = (db₁.catalog.schema b).under name) ∨
    ∃ db₁', db'.perform parameters a = (db₁', .error .full) := by
  cases s with
  | insert target replace columns rows =>
    obtain ⟨temporary, u, places, terms, triggers, hfind, rfl⟩ := Catalog.eq_insert_of_prepare ha
    exact modifyRows_alike h hreadOnly (hs ▸ Catalog.sameName_of_find hfind) hdb
  | delete target condition =>
    obtain ⟨temporary, u, term, triggers, hfind, rfl⟩ := Catalog.eq_delete_of_prepare ha
    exact modifyRows_alike h hreadOnly (hs ▸ Catalog.sameName_of_find hfind) hdb
  | createTable d =>
    rcases Catalog.prepare_createTable ha with ⟨rfl, -⟩ | ⟨temporary, -, -, -, rfl⟩
    · cases hdb
      exact .inl ⟨db', _, rfl, h.under⟩
    · obtain ⟨hwrite, rfl, -⟩ := define_eq_ok hdb
      rcases define_cases (hreadOnly.trans hwrite) (db'.catalog.modify temporary (·.create d.table)) with hdb' | ⟨-, hdb'⟩
      · refine .inl ⟨_, _, hdb', h.under_modify temporary fun s s' hs => ?_⟩
        rw [Schema.under_create, Schema.under_create, hs]
      · exact .inr ⟨db', hdb'⟩
  | select | update | dropTable | renameTable | createTrigger | dropTrigger | setting | begin | commit | rollback =>
    exact hs.elim

end Database

end SheetQuery.Sql
