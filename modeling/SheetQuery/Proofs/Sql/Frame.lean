import SheetQuery.Proofs.Sql.Perform

/-!
# Tables of a name

A statement that creates a table, or puts in or deletes rows of one, changes nothing but tables of one name, and takes
none of them away.

* `Schema.under`: the tables of a name, in any case.
* `Schema.Quiet`: no trigger is on a table of the name; `Catalog.Shows`: the table is there and in sight.
* `Statement.About`: the statement is on tables of the name.
* `Catalog.StepAt`: what such a statement makes of a catalog; `stepAt_of_yields` says that it does.
* `Catalog.AlikeBeside`: catalogs that differ in tables of one name only; `StepAt.alikeBeside`.
-/

namespace SheetQuery

namespace Sql

namespace Schema

variable {s : Schema} {name other : Text} {t : Table}

/-- The tables of the name, in any case. -/
def under (s : Schema) (name : Text) : List Table := s.tables.filter fun t => Text.sameName t.name name

theorem find?_eq_head? : s.find? name = (s.under name).head? := (List.head?_filter ..).symm

theorem sameName_of_find? (h : s.find? name = some t) : Text.sameName t.name name := by
  simpa using List.find?_some h

theorem under_congr (h : Text.sameName other name) : s.under other = s.under name :=
  List.filter_congr fun t _ => by rw [Text.sameName, Text.sameName, Text.sameName_iff.1 h]

theorem find?_congr (h : Text.sameName other name) : s.find? other = s.find? name := by
  rw [find?_eq_head?, find?_eq_head?, under_congr h]

theorem under_eq_nil : s.under name = [] ↔ s.find? name = none := by
  rw [find?_eq_head?, List.head?_eq_none_iff]

theorem isSome_find? : (s.find? name).isSome ↔ ∃ t ∈ s.tables, Text.sameName t.name name :=
  List.find?_isSome

/-- A table that takes the place of another one has its name. -/
theorem names_replace (s : Schema) (t : Table) : (s.replace t).tables.map (·.name) = s.tables.map (·.name) := by
  unfold replace
  rw [List.map_map]
  refine List.map_congr_left fun first _ => ?_
  rw [Function.comp_apply]
  split
  · exact (by assumption : first.name = t.name).symm
  · rfl

theorem under_replace (s : Schema) (t : Table) (name : Text) :
    (s.replace t).under name = (s.under name).map fun first => if first.name = t.name then t else first := by
  unfold under replace
  rw [List.filter_map]
  refine congrArg _ (List.filter_congr fun first _ => ?_)
  rw [Function.comp_apply]
  split
  · rw [(by assumption : first.name = t.name)]
  · rfl

theorem under_replace_of_ne (h : ¬ Text.sameName other t.name) : (s.replace t).under other = s.under other := by
  rw [under_replace]
  refine (List.map_congr_left fun first hfirst => if_neg fun hname => h ?_).trans (List.map_id _)
  rw [Text.sameName_comm, ← hname]
  exact (List.mem_filter.1 hfirst).2

theorem under_create (s : Schema) (t : Table) (name : Text) :
    (s.create t).under name = s.under name ++ if Text.sameName t.name name then [t] else [] := by
  unfold under create
  rw [List.filter_append, List.filter_singleton, Bool.cond_eq_ite]

theorem under_create_of_ne (h : ¬ Text.sameName other t.name) : (s.create t).under other = s.under other := by
  rw [under_create, if_neg fun hname => h (by rwa [Text.sameName_comm]), List.append_nil]

/-- No trigger of the schema is on a table of the name. -/
def Quiet (s : Schema) (name : Text) : Prop := ∀ d ∈ s.triggers, ¬ Text.sameName d.table.name name

instance (s : Schema) (name : Text) : Decidable (s.Quiet name) := by unfold Quiet; infer_instance

/-- Without triggers on a table no event of it has any. -/
theorem Quiet.onEvent (h : s.Quiet name) (ht : Text.sameName t.name name) (event : Event) :
    ActiveTrigger.onEvent s t event = .ok [] := by
  have hcollect : ∀ l : List TriggerDefinition, (∀ d ∈ l, ¬ Text.sameName d.table.name name) →
      ActiveTrigger.onEvent.collect t event l = .ok [] := by
    intro l hl
    induction l with
    | nil => rfl
    | cons d l ih =>
      have hd : ¬ (d.event = event ∧ Text.sameName d.table.name t.name) := fun h' =>
        hl d (List.mem_cons_self ..) ((Text.sameName_congr_left h'.2 name).trans ht)
      rw [ActiveTrigger.onEvent.collect, if_neg hd, ih fun d hd => hl d (List.mem_cons_of_mem _ hd)]
  exact hcollect _ h

end Schema

/-- The table of the name in the main schema is in sight: no temporary one hides it, and no trigger is on it. -/
structure Catalog.Shows (c : Catalog) (name : Text) (t : Table) : Prop where
  found : c.main.find? name = some t
  unhidden : c.temp.find? name = none
  quiet : c.main.Quiet name

namespace Catalog

variable {c c' : Catalog} {name : Text} {t : Table} {a : Action}

theorem find?_schema {target : TableName} {temporary : Bool} (h : c.find? target = some (temporary, t)) :
    (c.schema temporary).find? target.name = some t := by
  have hfind : ∀ b : Bool, ((c.schema b).find? target.name).map (b, ·) = some (temporary, t) →
      (c.schema temporary).find? target.name = some t := by
    intro b hb
    obtain ⟨t', ht', hpair⟩ := Option.map_eq_some_iff.1 hb
    cases hpair
    exact ht'
  unfold find? at h
  dsimp only at h
  split at h
  · cases htemp : (c.temp.find? target.name).map (true, ·) with
    | some first =>
      rw [htemp] at h
      exact hfind true (htemp.trans h)
    | none =>
      rw [htemp] at h
      exact hfind false h
  · split_ifs at h
    · exact hfind true h
    · exact hfind false h

theorem sameName_of_find {target : TableName} {temporary : Bool} (h : c.find target = .ok (temporary, t)) :
    Text.sameName t.name target.name := by
  unfold find at h
  split at h
  · rename_i found hfound
    cases h
    exact Schema.sameName_of_find? (find?_schema hfound)
  · cases h

/-- An insertion is one into the table that is found. -/
theorem eq_insert_of_prepare {target : TableName} {replace : Bool} {columns : List Text} {rows : List (List Expr)}
    (h : c.prepare (.insert target replace columns rows) = .ok a) :
    ∃ temporary u places terms triggers, c.find target = .ok (temporary, u) ∧
      a = .insert temporary u.name replace places terms triggers := by
  obtain ⟨⟨temporary, u⟩, hfind, h⟩ := bind_eq_ok.1 h
  obtain ⟨triggers, -, h⟩ := bind_eq_ok.1 h
  obtain ⟨places, -, h⟩ := bind_eq_ok.1 h
  obtain ⟨terms, -, h⟩ := bind_eq_ok.1 h
  dsimp only at h
  split_ifs at h
  · exact ⟨_, _, _, _, _, hfind, (pure_eq_ok.1 h).symm⟩
  · exact ⟨_, _, _, _, _, hfind, (pure_eq_ok.1 h).symm⟩

/-- A deletion is one from the table that is found. -/
theorem eq_delete_of_prepare {target : TableName} {condition : Option Expr}
    (h : c.prepare (.delete target condition) = .ok a) :
    ∃ temporary u term triggers, c.find target = .ok (temporary, u) ∧ a = .delete temporary u.name term triggers := by
  obtain ⟨⟨temporary, u⟩, hfind, h⟩ := bind_eq_ok.1 h
  obtain ⟨triggers, -, h⟩ := bind_eq_ok.1 h
  obtain ⟨term, -, h⟩ := bind_eq_ok.1 h
  exact ⟨_, _, _, _, hfind, (pure_eq_ok.1 h).symm⟩

private theorem nodup_of_checkColumns {table : Text} {earlier : List Text} {columns : List ColumnDefinition}
    (h : checkColumns table earlier columns = .ok ()) :
    (columns.map fun c => Text.lower c.name).Nodup ∧ ∀ c ∈ columns, Text.lower c.name ∉ earlier := by
  induction columns generalizing earlier with
  | nil => exact ⟨.nil, fun _ hc => nomatch hc⟩
  | cons column columns ih =>
    rw [checkColumns] at h
    split_ifs at h with hlimit hcontains
    obtain ⟨hnodup, hout⟩ := ih h
    simp only [List.mem_cons, not_or] at hout
    refine ⟨?_, List.forall_mem_cons.2 ⟨by simpa using hcontains, fun c hc => (hout c hc).2⟩⟩
    rw [List.map_cons, List.nodup_cons, List.mem_map]
    refine ⟨?_, hnodup⟩
    rintro ⟨c, hc, hsame⟩
    exact (hout c hc).1 hsame

/-- A table is created where there is none of its name, unless that is no fault, and with columns of different
names. -/
theorem prepare_createTable {d : TableDefinition} (h : c.prepare (.createTable d) = .ok a) :
    a = .nothing ∧ d.ifNotExists ∨ ∃ temporary, target d.name = .ok temporary ∧
      (c.schema temporary).find? d.name.name = none ∧ (d.columns.map fun c => Text.lower c.name).Nodup ∧
      a = .createTable temporary d.table := by
  obtain ⟨checked, hchecked, h⟩ := bind_eq_ok.1 h
  obtain ⟨temporary, htarget, hchecked⟩ := bind_eq_ok.1 hchecked
  split_ifs at hchecked with hreserved hsome hexists
  · rw [← pure_eq_ok.1 hchecked] at h
    exact .inl ⟨(pure_eq_ok.1 h).symm, hexists⟩
  · rw [← pure_eq_ok.1 hchecked] at h
    obtain ⟨⟨⟩, hcolumns, h⟩ := bind_eq_ok.1 h
    exact .inr ⟨temporary, htarget, by simpa using hsome, (nodup_of_checkColumns hcolumns).1, (pure_eq_ok.1 h).symm⟩

/-- No table is created under a name that is kept for the database. -/
theorem not_reserved_of_prepare {d : TableDefinition} (h : c.prepare (.createTable d) = .ok a) :
    isReservedName d.name.name = false := by
  obtain ⟨checked, hchecked, -⟩ := bind_eq_ok.1 h
  obtain ⟨temporary, -, hchecked⟩ := bind_eq_ok.1 hchecked
  split_ifs at hchecked with hreserved
  all_goals exact Bool.eq_false_iff.2 hreserved

end Catalog

/-! ### Statements on tables of one name -/

/-- The statement creates a table of the name, or puts in or deletes rows of one. -/
def Statement.About (name : Text) : Statement → Prop
  | insert target .. | delete target _ => target.name = name
  | createTable d => d.name.name = name
  | _ => False

theorem Statement.About.ordinary {s : Statement} {name : Text} (h : s.About name) : s.Ordinary := by
  cases s <;> trivial

namespace Catalog

/-- What such a statement makes of a catalog: nothing else, a new table, or another table in the place of one. -/
inductive StepAt (name : Text) (c : Catalog) : Catalog → Prop
  | refl : StepAt name c c
  | create (temporary : Bool) {t : Table} (hname : t.name = name) (hnone : (c.schema temporary).find? name = none) :
      StepAt name c (c.modify temporary (·.create t))
  | rows (temporary : Bool) {t : Table} (hname : Text.sameName t.name name) :
      StepAt name c (c.modify temporary (·.replace t))

/-- Triggers, and all tables that have not the name, are the same. -/
structure AlikeBeside (name : Text) (c c' : Catalog) : Prop where
  triggers : ∀ temporary, (c'.schema temporary).triggers = (c.schema temporary).triggers
  under : ∀ temporary other, ¬ Text.sameName other name → (c'.schema temporary).under other = (c.schema temporary).under other

variable {c c' c'' : Catalog} {name other : Text}

theorem stepAt_of_yields {s : Statement} (hs : s.About name) {a : Action} (h : c.prepare s = .ok a)
    (hc : a.Yields c c') : c.StepAt name c' := by
  have hfound : ∀ {target : TableName} {temporary : Bool} {t t' u : Table}, target.name = name →
      c.find target = .ok (temporary, u) → (c.schema temporary).find? u.name = some t → t.RowSteps t' →
      c.StepAt name (c.modify temporary (·.replace t')) := by
    rintro target temporary t t' u rfl hfind ht hrows
    obtain ⟨rows, rfl⟩ := hrows.eq
    refine .rows temporary ?_
    rw [Text.sameName_congr_left (Schema.sameName_of_find? ht)]
    exact sameName_of_find hfind
  cases s with
  | insert target replace columns rows =>
    obtain ⟨temporary, u, places, terms, triggers, hfind, rfl⟩ := eq_insert_of_prepare h
    obtain ⟨t, t', ht, hrows, rfl⟩ := hc
    exact hfound hs hfind ht hrows
  | delete target condition =>
    obtain ⟨temporary, u, term, triggers, hfind, rfl⟩ := eq_delete_of_prepare h
    obtain ⟨t, t', ht, hrows, rfl⟩ := hc
    exact hfound hs hfind ht hrows
  | createTable d =>
    rcases prepare_createTable h with ⟨rfl, -⟩ | ⟨temporary, -, hnone, -, rfl⟩
    · exact hc.elim
    · rw [show c' = _ from hc]
      rw [show d.name.name = name from hs] at hnone
      exact .create temporary hs hnone
  | select | update | dropTable | renameTable | createTrigger | dropTrigger | setting | begin | commit | rollback =>
    exact hs.elim

theorem AlikeBeside.refl (name : Text) (c : Catalog) : c.AlikeBeside name c := ⟨fun _ => rfl, fun _ _ _ => rfl⟩

theorem AlikeBeside.trans (h : c.AlikeBeside name c') (h' : c'.AlikeBeside name c'') : c.AlikeBeside name c'' :=
  ⟨fun b => (h'.triggers b).trans (h.triggers b),
    fun b other hother => (h'.under b other hother).trans (h.under b other hother)⟩

theorem AlikeBeside.find? (h : c.AlikeBeside name c') (hother : ¬ Text.sameName other name) (temporary : Bool) :
    (c'.schema temporary).find? other = (c.schema temporary).find? other := by
  rw [Schema.find?_eq_head?, Schema.find?_eq_head?, h.under temporary other hother]

theorem AlikeBeside.quiet (h : c.AlikeBeside name c') {temporary : Bool} (hquiet : (c.schema temporary).Quiet other) :
    (c'.schema temporary).Quiet other := by
  unfold Schema.Quiet
  rw [h.triggers]
  exact hquiet

/-- A table of another name stays in sight. -/
theorem AlikeBeside.shows (h : c.AlikeBeside name c') (hother : ¬ Text.sameName other name) {t : Table}
    (ht : c.Shows other t) : c'.Shows other t :=
  ⟨(h.find? hother false).trans ht.found, (h.find? hother true).trans ht.unhidden,
    h.quiet (show (c.schema false).Quiet other from ht.quiet)⟩

/-- A change of one schema that leaves triggers and the tables of other names alone. -/
private theorem alikeBeside_modify (temporary : Bool) {f : Schema → Schema} (htriggers : ∀ s, (f s).triggers = s.triggers)
    (hunder : ∀ s other, ¬ Text.sameName other name → (f s).under other = s.under other) :
    c.AlikeBeside name (c.modify temporary f) := by
  constructor
  · intro b
    rw [schema_modify]
    split
    · exact htriggers _
    · rfl
  · intro b other hother
    rw [schema_modify]
    split
    · exact hunder _ other hother
    · rfl

namespace StepAt

variable (h : c.StepAt name c')

include h

theorem alikeBeside : c.AlikeBeside name c' := by
  cases h with
  | refl => exact .refl _ _
  | create temporary hname =>
    refine alikeBeside_modify temporary (fun _ => rfl) fun s other hother => Schema.under_create_of_ne ?_
    rwa [hname]
  | rows temporary hname =>
    refine alikeBeside_modify temporary (fun _ => rfl) fun s other hother => Schema.under_replace_of_ne ?_
    rwa [Text.sameName_comm, Text.sameName_congr_left hname, Text.sameName_comm]

/-- No table is taken away. -/
theorem names_subset (temporary : Bool) :
    ((c.schema temporary).tables.map (·.name)) ⊆ (c'.schema temporary).tables.map (·.name) := by
  cases h with
  | refl => exact List.Subset.refl _
  | create b hname =>
    rw [schema_modify]
    split
    · rw [Schema.create, List.map_append]
      exact List.subset_append_left ..
    · exact List.Subset.refl _
  | rows b hname =>
    rw [schema_modify]
    split
    · rw [Schema.names_replace]
      exact List.Subset.refl _
    · exact List.Subset.refl _

theorem isSome_find? {temporary : Bool} (hother : ((c.schema temporary).find? other).isSome) :
    ((c'.schema temporary).find? other).isSome := by
  obtain ⟨t, ht, hsame⟩ := Schema.isSome_find?.1 hother
  obtain ⟨t', ht', hname⟩ := List.mem_map.1 (h.names_subset temporary (List.mem_map_of_mem ht))
  exact Schema.isSome_find?.2 ⟨t', ht', by rwa [hname]⟩

end StepAt

end Catalog

end Sql

end SheetQuery
