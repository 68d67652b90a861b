import SheetQuery.Proofs.Sql.Locality

/-!
# What statements keep

A table gets its name, when it is created or renamed, only if no table has it and it is not kept for the database.  So
names stay distinct, and what changes of rows keep of a table holds as long as the table is there.

* `Action.Named`: what a statement has found out about the names that its action gives; `named_of_prepare`.
* `Throughout.execute_of_yields`: what the action of a statement does not break holds behind the statement, also if that
  begins, ends or undoes a transaction.
* `KeptByStatements`: what no statement breaks; `Throughout.execute` follows it through any statement.
* `keptByStatements_schemas`: what no change of one schema breaks holds of both behind any statement.
* `keptByStatements_distinct`: the names of tables are distinct.
* `keptByStatements_all`: all tables are of a kind that changes of rows and other names keep.
-/

namespace SheetQuery.Sql

/-- A new table has no rows, and the name that an action gives is free and not kept for the database. -/
def Action.Named (c : Catalog) : Action → Prop
  | createTable temporary t =>
    t.rows = [] ∧ (c.schema temporary).find? t.name = none ∧ isReservedName t.name = false
  | renameTable temporary _ newName => (c.schema temporary).find? newName = none ∧ isReservedName newName = false
  | _ => True

theorem Catalog.named_of_prepare {c : Catalog} {s : Statement} {a : Action} (h : c.prepare s = .ok a) : a.Named c := by
  have hbecomes := becomes_of_prepare h
  cases s with
  | createTable d =>
    rcases prepare_createTable h with ⟨rfl, -⟩ | ⟨temporary, -, hnone, -, rfl⟩
    · trivial
    · exact ⟨rfl, hnone, not_reserved_of_prepare h⟩
  | renameTable name newName =>
    obtain ⟨⟨temporary, t⟩, -, h⟩ := bind_eq_ok.1 h
    dsimp only at h
    split_ifs at h with htaken hreserved
    rw [← pure_eq_ok.1 h]
    exact ⟨by simpa using htaken, Bool.eq_false_iff.2 hreserved⟩
  | select => obtain ⟨_, -, rfl⟩ := hbecomes; trivial
  | insert => obtain ⟨_, _, _, _, _, _, rfl⟩ := hbecomes; trivial
  | update => obtain ⟨_, _, _, _, _, rfl⟩ := hbecomes; trivial
  | delete => obtain ⟨_, _, _, _, rfl⟩ := hbecomes; trivial
  | dropTable => obtain rfl | ⟨_, _, rfl⟩ := hbecomes <;> trivial
  | createTrigger => obtain rfl | ⟨_, _, rfl⟩ := hbecomes <;> trivial
  | dropTrigger => obtain rfl | rfl := hbecomes <;> trivial
  | setting | begin | commit | rollback => cases hbecomes; trivial

namespace Database.Throughout

variable {p : Catalog → Prop} {db : Database}

/-- What the action of a statement does not break holds behind it, whatever becomes of the transaction. -/
theorem execute_of_yields (h : db.Throughout p) {sql : Text} (hp : ∀ prepared c, db.compile sql = .ok (some prepared) →
    prepared.action.Named db.catalog → prepared.action.Yields db.catalog c → p c) (parameters : List Value) :
    (db.execute sql parameters).1.Throughout p := by
  rcases db.execute_cases sql parameters with hdb | ⟨prepared, hcompile, hdb⟩
  · rw [hdb]
    exact h
  · rw [hdb]
    obtain ⟨parsed, -, hprepare, -⟩ := compile_eq_some hcompile
    exact h.perform parameters fun c => hp prepared c hcompile (Catalog.named_of_prepare hprepare)

end Database.Throughout

/-- No statement breaks the property. -/
def KeptByStatements (p : Catalog → Prop) : Prop :=
  ∀ ⦃c c' : Catalog⦄ ⦃a : Action⦄, p c → a.Named c → a.Yields c c' → p c'

theorem Database.Throughout.execute {p : Catalog → Prop} {db : Database} (hp : KeptByStatements p)
    (h : db.Throughout p) (sql : Text) (parameters : List Value) : (db.execute sql parameters).1.Throughout p :=
  h.execute_of_yields (fun _ _ _ hnamed hc => hp h.now hnamed hc) parameters

/-- No change that a statement makes of a schema breaks the property. -/
structure Schema.KeptByChanges (q : Schema → Prop) : Prop where
  rows : ∀ s t t', q s → t ∈ s.tables → t.RowSteps t' → q (s.replace t')
  create : ∀ s t, q s → t.rows = [] → s.find? t.name = none → isReservedName t.name = false → q (s.create t)
  drop : ∀ s name, q s → q (s.drop name)
  rename : ∀ s name newName, q s → s.find? newName = none → isReservedName newName = false → q (s.rename name newName)
  triggers : ∀ s triggers, q s → q { s with triggers := triggers }

/-- What no change breaks of a schema, no statement breaks of the two schemas. -/
theorem keptByStatements_schemas {q : Schema → Prop} (hq : Schema.KeptByChanges q) :
    KeptByStatements fun c => ∀ temporary, q (c.schema temporary) := by
  intro c c' a h hnamed hc
  cases a with
  | insert temporary name | update temporary name | delete temporary name =>
    obtain ⟨t, t', hfind, hsteps, rfl⟩ := hc
    exact Catalog.forall_schema_modify h temporary fun hs =>
      hq.rows _ t t' hs (List.mem_of_find?_eq_some hfind) hsteps
  | createTable temporary t =>
    rw [show c' = _ from hc]
    exact Catalog.forall_schema_modify h temporary fun hs => hq.create _ t hs hnamed.1 hnamed.2.1 hnamed.2.2
  | dropTable temporary name =>
    rw [show c' = _ from hc]
    exact Catalog.forall_schema_modify h temporary fun hs => hq.drop _ name hs
  | renameTable temporary name newName =>
    rw [show c' = _ from hc]
    exact Catalog.forall_schema_modify h temporary fun hs => hq.rename _ name newName hs hnamed.1 hnamed.2
  | createTrigger temporary d =>
    rw [show c' = _ from hc]
    exact Catalog.forall_schema_modify h temporary fun hs => hq.triggers _ _ hs
  | dropTrigger name =>
    rw [show c' = _ from hc]
    intro temporary
    cases temporary with
    | false => exact hq.triggers _ _ (h false)
    | true => exact hq.triggers _ _ (h true)
  | rows | setting | begin | commit | rollback | nothing => exact hc.elim

/-! ### Distinct names -/

namespace Schema

variable {s : Schema} {name newName : Text}

theorem Distinct.drop (h : s.Distinct) (name : Text) : (s.drop name).Distinct :=
  h.sublist (List.filter_sublist.map _)

theorem Distinct.rename (h : s.Distinct) (hnone : s.find? newName = none) : (s.rename name newName).Distinct := by
  have hfree : ∀ t ∈ s.tables, Text.lower t.name ≠ Text.lower newName := by
    intro t ht hsame
    have hsome := isSome_find?.2 ⟨t, ht, Text.sameName_iff.2 hsame⟩
    rw [hnone] at hsome
    cases hsome
  have hnames : (s.rename name newName).tables.map (fun t => Text.lower t.name) =
      (s.tables.map fun t => Text.lower t.name).map fun n => if n = Text.lower name then Text.lower newName else n := by
    unfold Schema.rename
    rw [List.map_map, List.map_map]
    refine List.map_congr_left fun t _ => ?_
    rw [Function.comp_apply, Function.comp_apply]
    by_cases hsame : Text.sameName t.name name
    · rw [if_pos hsame, if_pos (Text.sameName_iff.1 hsame)]
    · rw [if_neg hsame, if_neg fun hlower => hsame (Text.sameName_iff.2 hlower)]
  unfold Distinct
  rw [hnames]
  -- only one name turns into the new one, which was none of them
  refine List.Nodup.map_on ?_ h
  rintro m hm n hn hmn
  obtain ⟨t, ht, rfl⟩ := List.mem_map.1 hm
  obtain ⟨t', ht', rfl⟩ := List.mem_map.1 hn
  split_ifs at hmn with hold hold'
  · rw [hold, hold']
  · exact absurd hmn.symm (hfree t' ht')
  · exact absurd hmn (hfree t ht)
  · exact hmn

end Schema

/-- In neither schema two tables have the same name, ignoring case. -/
def Catalog.Distinct (c : Catalog) : Prop := ∀ temporary, (c.schema temporary).Distinct

theorem keptByStatements_distinct : KeptByStatements Catalog.Distinct :=
  keptByStatements_schemas
    { rows := fun _ _ t' h _ _ => h.replace t'
      create := fun _ _ h _ hnone _ => h.create hnone
      drop := fun _ name h => h.drop name
      rename := fun _ _ _ h hnone _ => h.rename hnone
      triggers := fun _ _ h => h }

/-! ### Tables of a kind -/

/-- All tables are of a kind. -/
def Catalog.All (q : Table → Prop) (c : Catalog) : Prop := ∀ temporary, ∀ t ∈ (c.schema temporary).tables, q t

/-- A kind that new tables are of stays if neither changes of rows nor other names break it. -/
theorem keptByStatements_all {q : Table → Prop} (hrows : ∀ t t', q t → t.RowStep t' → q t')
    (hnew : ∀ t, t.rows = [] → isReservedName t.name = false → q t)
    (hname : ∀ t newName, q t → isReservedName newName = false → q { t with name := newName }) :
    KeptByStatements (Catalog.All q) := by
  refine keptByStatements_schemas (q := fun s => ∀ t ∈ s.tables, q t)
    ⟨fun s t t' h ht hsteps => ?rows, fun s t h hempty _ hreserved other hother => ?create,
      fun s name h other hother => ?drop, fun s name newName h _ hreserved other hother => ?rename,
      fun s triggers h => h⟩
  case rows =>
    have ht' : q t' := by
      induction hsteps with
      | refl => exact h t ht
      | tail _ hstep ih => exact hrows _ _ ih hstep
    intro other hother
    obtain ⟨first, hfirst, rfl⟩ := List.mem_map.1 hother
    split
    · exact ht'
    · exact h first hfirst
  case create =>
    rcases List.mem_append.1 hother with hother | hother
    · exact h other hother
    · rw [List.mem_singleton.1 hother]
      exact hnew t hempty hreserved
  case drop => exact h other (List.mem_filter.1 hother).1
  case rename =>
    obtain ⟨first, hfirst, rfl⟩ := List.mem_map.1 hother
    split
    · exact hname first newName (h first hfirst) hreserved
    · exact h first hfirst

end SheetQuery.Sql
