import SheetQuery.Proofs.Engine.Mappings
import SheetQuery.Proofs.Engine.Tables

/-!
# What the transaction of a load comes to

Inside its transaction a load makes a table with the rows of the grid, or reports the first row that does not fit, or
finds no more room.

* `LoadError.IsFull`, `RowsStop`: the ways to fail once the table is there.
* `Store.insertRows_cases`, `createTable_cases`, `replaceMappings_cases`, `fillTable_cases`: which of them there are.
* `Store.createTable_stores`, `fillTable_stores`: the table behind a load that does not fail.
-/

namespace SheetQuery

variable {C : Type} {σ : Semantics C}

/-- A load fails because there is no room for more. -/
def LoadError.IsFull (σ : Semantics C) : LoadError → Prop
  | .schema _ source | .row _ _ source | .store source => σ.Full source
  | _ => False

/-- The rows from the given number on are not all put in: there is no room for one, or one has not as many cells as
there are columns. -/
def RowsStop (σ : Semantics C) (plan : TablePlan) (row : Nat) (rows : List (List Text)) (e : LoadError) : Prop :=
  e.IsFull σ ∨ ∃ (good : List (List Text)) (bad : List Text) (rest : List (List Text)), rows = good ++ bad :: rest ∧
    (∀ cells ∈ good, cells.length = plan.columns.length) ∧ bad.length ≠ plan.columns.length ∧
      e = .columnCount plan.table (row + good.length) plan.columns.length bad.length

theorem RowsStop.cons {plan : TablePlan} {row : Nat} {cells : List Text} {rows : List (List Text)} {e : LoadError}
    (hcells : cells.length = plan.columns.length) (h : RowsStop σ plan (row + 1) rows e) :
    RowsStop σ plan row (cells :: rows) e := by
  rcases h with hfull | ⟨good, bad, rest, rfl, hgood, hbad, rfl⟩
  · exact .inl hfull
  · refine .inr ⟨cells :: good, bad, rest, rfl, List.forall_mem_cons.2 ⟨hcells, hgood⟩, hbad, ?_⟩
    rw [List.length_cons, Nat.add_assoc, Nat.add_comm 1]

variable [Engine C]

namespace Semantics

/-- Under a word no other table is hidden by what a load creates and fills. -/
theorem LeavesOthers.visible (h : σ.LeavesOthers) {c c' : C} {table : Text} {headers : List Text}
    (hword : table.all Identifier.isWordChar) (hfilling : Filling (planTable table headers) c c') {name : Text}
    (hhidden : σ.Hidden (σ.now c') name) : σ.Hidden (σ.now c) name := by
  induction hfilling with
  | created hcreate => exact h.created_visible hword hcreate hhidden
  | inserted _ _ hinsert ih => exact ih (h.inserted_visible hinsert hhidden)

end Semantics

namespace Store

variable {c c' : C} {table : Text} {headers : List Text} {rows : List (List Text)}

section

variable (hmakes : σ.MakesTables)

include hmakes

/-! ### Rows -/

theorem insertRows_stores {row : Nat} {stored : List (List Text)}
    (h : σ.Stores (σ.now c) table (planTable table headers).identifiers stored)
    (hrows : insertRows (planTable table headers) c row rows = (c', .ok ())) :
    σ.Stores (σ.now c') table (planTable table headers).identifiers (stored ++ rows) := by
  induction rows generalizing c row stored with
  | nil =>
    cases hrows
    rwa [List.append_nil]
  | cons cells rows ih =>
    rw [insertRows] at hrows
    split_ifs at hrows with hcells
    · split at hrows
      · rename_i hinsert
        rw [List.append_cons]
        exact ih (hmakes.inserted h hcells hinsert) hrows
      · cases hrows
    · cases hrows

/-- Rows are put in as long as they fit and there is room. -/
theorem insertRows_cases (hcommits : σ.Commits) (hwrites : σ.Writes (σ.settings c)) {stored : List (List Text)}
    (h : σ.Stores (σ.now c) table (planTable table headers).identifiers stored) (row : Nat) {e : LoadError}
    (he : (insertRows (planTable table headers) c row rows).2 = .error e) :
    RowsStop σ (planTable table headers) row rows e := by
  induction rows generalizing c row stored with
  | nil => cases he
  | cons cells rows ih =>
    rw [insertRows] at he
    split_ifs at he with hcells
    · split at he
      · rename_i hinsert
        refine .cons hcells (ih ?_ (hmakes.inserted h hcells hinsert) _ he)
        rwa [hcommits.settings (.insert table headers) hinsert]
      · rename_i hinsert
        cases he
        exact .inl (hmakes.refused h hwrites hcells hinsert)
    · cases he
      exact .inr ⟨[], cells, rows, rfl, List.forall_mem_nil _, hcells, rfl⟩

/-! ### The table -/

variable (hleaves : σ.LeavesOthers) (hword : table.all Identifier.isWordChar) (hclear : σ.Clear (σ.now c) table)
  (hvisible : ¬ σ.Hidden (σ.now c) table)

include hleaves hword hclear hvisible

/-- A table that is created in plain sight and filled has its rows. -/
theorem createTable_stores (h : createTable c (planTable table headers) rows = (c', .ok ())) :
    σ.Stores (σ.now c') table (planTable table headers).identifiers rows := by
  unfold createTable at h
  split at h
  · cases h
  · rename_i c₁ n hcreate
    have hstores := hmakes.created hword hclear hcreate fun hhidden =>
      hvisible (hleaves.created_visible hword hcreate hhidden)
    split at h
    · cases h
    · exact insertRows_stores hmakes hstores h

/-- A table that is created is filled, as long as the rows fit and there is room. -/
theorem createTable_cases (hcommits : σ.Commits) (hwrites : σ.Writes (σ.settings c))
    (hcreate : ∃ c₁ n, Engine.execute c (planTable table headers).createSql [] = (c₁, .ok n)) {e : LoadError}
    (he : (createTable c (planTable table headers) rows).2 = .error e) :
    RowsStop σ (planTable table headers) firstRow rows e := by
  obtain ⟨c₁, n, hcreate⟩ := hcreate
  have hstores := hmakes.created hword hclear hcreate fun hhidden =>
    hvisible (hleaves.created_visible hword hcreate hhidden)
  obtain ⟨names, hprepare⟩ := hmakes.prepare hstores
  unfold createTable at he
  rw [hcreate] at he
  dsimp only at he
  rw [hprepare] at he
  refine insertRows_cases hmakes hcommits ?_ hstores _ he
  rwa [hcommits.settings (.create table headers) hcreate]

end

/-- A table is not created under a name that a table has. -/
theorem free_of_created (hnames : σ.NamesTables) (hword : table.all Identifier.isWordChar)
    (h : createTable c (planTable table headers) rows = (c', .ok ())) :
    ∀ name ∈ σ.names (σ.now c), ¬ Text.sameName name table := by
  unfold createTable at h
  split at h
  · cases h
  · rename_i hcreate
    exact hnames.free hword hcreate

theorem not_sameName_of_created (hnames : σ.NamesTables) (hword : table.all Identifier.isWordChar)
    {kept : Multiset (List Sql.Value)} (hkeeps : σ.Keeps (σ.now c) kept)
    (h : createTable c (planTable table headers) rows = (c', .ok ())) : ¬ Text.sameName table mappingTableName := by
  rw [Text.sameName_comm]
  exact free_of_created hnames hword h _ (hnames.mapping hkeeps)

/-! ### The mappings -/

section

variable (hmappings : σ.KeepsMappings) (hwritable : σ.WritesMappings) (hcommits : σ.Commits)

include hmappings hwritable hcommits

private theorem keepMappings_cases {kept : Multiset (List Sql.Value)} (hkeeps : σ.Keeps (σ.now c) kept)
    (hwrites : σ.Writes (σ.settings c)) {l : List Mapping} {e : LoadError} (he : (keepMappings c l).2 = .error e) :
    e.IsFull σ := by
  induction l generalizing c kept with
  | nil => cases he
  | cons new l ih =>
    rw [keepMappings] at he
    split at he
    · rename_i hkeep
      refine ih (hmappings.keep hkeeps hkeep) ?_ he
      rwa [hcommits.settings .keep hkeep]
    · rename_i hkeep
      cases he
      exact hwritable.keep hkeeps hwrites hkeep

/-- Mappings are replaced as long as there is room. -/
theorem replaceMappings_cases {kept : Multiset (List Sql.Value)} (hkeeps : σ.Keeps (σ.now c) kept)
    (hwrites : σ.Writes (σ.settings c)) {plan : TablePlan} {e : LoadError}
    (he : (replaceMappings c plan).answer = .error e) : e.IsFull σ := by
  unfold replaceMappings at he
  split at he
  · rename_i hdrop
    cases he
    exact hwritable.drop hkeeps hwrites hdrop
  · rename_i c₁ n hdrop
    have hdropped := hmappings.drop hkeeps hdrop
    obtain ⟨names, hprepare⟩ := hwritable.prepare hdropped
    dsimp only at he
    rw [hprepare] at he
    refine keepMappings_cases hmappings hwritable hcommits hdropped ?_ he
    rwa [hcommits.settings .drop hdrop]

end

/-! ### Both -/

theorem fillTable_eq_error {plan : TablePlan} {e : LoadError} (he : (fillTable c plan rows).answer = .error e) :
    (createTable c plan rows).2 = .error e ∨
      ∃ c₁, createTable c plan rows = (c₁, .ok ()) ∧ (replaceMappings c₁ plan).answer = .error e := by
  unfold fillTable at he
  split at he
  · rename_i hcreate
    rw [hcreate]
    exact .inl he
  · rename_i c₁ hcreate
    exact .inr ⟨c₁, hcreate, he⟩

section

variable (hmakes : σ.MakesTables) (hleaves : σ.LeavesOthers) (hclear : σ.Clear (σ.now c) table)

include hmakes hleaves hclear

/-- Once its table is created, all of a load is done as long as the rows fit and there is room. -/
theorem fillTable_cases (hmappings : σ.KeepsMappings) (hwritable : σ.WritesMappings) (hcommits : σ.Commits)
    (hword : table.all Identifier.isWordChar) {kept : Multiset (List Sql.Value)} (hkeeps : σ.Keeps (σ.now c) kept)
    (hvisible : ¬ σ.Hidden (σ.now c) table) (hwrites : σ.Writes (σ.settings c))
    (hcreate : ∃ c₁ n, Engine.execute c (planTable table headers).createSql [] = (c₁, .ok n)) {e : LoadError}
    (he : (fillTable c (planTable table headers) rows).answer = .error e) :
    RowsStop σ (planTable table headers) firstRow rows e := by
  rcases fillTable_eq_error he with he | ⟨c₁, hcreated, he⟩
  · exact createTable_cases hmakes hleaves hword hclear hvisible hcommits hwrites hcreate he
  · have hfilling := (createTable_eq_ok hcreated).1
    refine .inl (replaceMappings_cases hmappings hwritable hcommits
      (hmakes.keeps hword hfilling hclear hkeeps) ?_ he)
    exact hfilling.kept (p := fun c => σ.Writes (σ.settings c))
      (fun hsql _ _ _ _ h hc => by rwa [hcommits.settings hsql h]) hwrites

end

section

variable (hmakes : σ.MakesTables) (hmapping : σ.Clear (σ.now c) mappingTableName)
  (hok : (fillTable c (planTable table headers) rows).answer = .ok ())

include hmakes hmapping hok

/-- What the statements on the table of header mappings keep where nothing takes part in them. -/
private theorem fillTable_replaced {p : σ.Version → Prop}
    (hp : ∀ {sql}, MappingStatement sql → ∀ {c c' : C} {parameters n},
      Engine.execute c sql parameters = (c', .ok n) → σ.Clear (σ.now c) mappingTableName → p (σ.now c) → p (σ.now c'))
    (hcreated : ∀ c₁, Filling (planTable table headers) c c₁ →
      createTable c (planTable table headers) rows = (c₁, .ok ()) → p (σ.now c₁)) :
    p (σ.now (fillTable c (planTable table headers) rows).state) := by
  obtain ⟨c₁, hcreate, hreplaced, hstate⟩ := fillTable_eq_ok hok
  have hfilling := (createTable_eq_ok hcreate).1
  rw [hstate]
  refine (replaceMappings_kept (p := fun c => σ.Clear (σ.now c) mappingTableName ∧ p (σ.now c)) ?_ hreplaced
    ⟨?_, hcreated c₁ hfilling hcreate⟩).2
  · rintro sql hsql c c' parameters n hexecute ⟨hclear, hc⟩
    exact ⟨hmakes.clear hsql.load hexecute hclear, hp hsql hexecute hclear hc⟩
  · exact hfilling.kept (p := fun c => σ.Clear (σ.now c) mappingTableName)
      (fun hsql _ _ _ _ hexecute => hmakes.clear hsql hexecute) hmapping

variable (hleaves : σ.LeavesOthers)

include hleaves

/-- What is under the name of the table is what was made of it before the mappings are kept. -/
theorem fillTable_under (hother : ¬ Text.sameName table mappingTableName)
    (hcreated : createTable c (planTable table headers) rows = (c', .ok ())) :
    σ.under (σ.now (fillTable c (planTable table headers) rows).state) table = σ.under (σ.now c') table := by
  refine fillTable_replaced hmakes hmapping hok (p := fun v => σ.under v table = σ.under (σ.now c') table) ?_ ?_
  · exact fun hsql _ _ _ _ hexecute hclear hsame => (hleaves.mapped hsql hexecute hclear hother).trans hsame
  · intro c₁ _ hcreated'
    obtain rfl : c' = c₁ := congrArg Prod.fst (hcreated.symm.trans hcreated')
    rfl

variable (hclear : σ.Clear (σ.now c) table)

include hclear

/-- The table behind a load has the rows of the grid. -/
theorem fillTable_stores (hword : table.all Identifier.isWordChar) (hvisible : ¬ σ.Hidden (σ.now c) table)
    (hother : ¬ Text.sameName table mappingTableName) :
    σ.Stores (σ.now (fillTable c (planTable table headers) rows).state) table (planTable table headers).identifiers
      rows := by
  refine fillTable_replaced hmakes hmapping hok
    (p := fun v => σ.Stores v table (planTable table headers).identifiers rows) ?_ ?_
  · exact fun hsql _ _ _ _ hexecute hclear hstores => hmakes.mapped hsql hexecute hclear hother hstores
  · exact fun _ _ hcreated => createTable_stores hmakes hleaves hword hclear hvisible hcreated

/-- Other tables that are still in plain sight have the rows that they had. -/
theorem fillTable_stores_other {other : Text} {names : List Text} {stored : List (List Text)}
    (hother : ¬ Text.sameName other mappingTableName) (hstores : σ.Stores (σ.now c) other names stored)
    (hvisible : ¬ σ.Hidden (σ.now (fillTable c (planTable table headers) rows).state) other) :
    σ.Stores (σ.now (fillTable c (planTable table headers) rows).state) other names stored := by
  -- what is in plain sight at the end was so all along
  have hsight : ¬ σ.Hidden (σ.now (fillTable c (planTable table headers) rows).state) other →
      σ.Stores (σ.now (fillTable c (planTable table headers) rows).state) other names stored := by
    refine fillTable_replaced hmakes hmapping hok
      (p := fun v => ¬ σ.Hidden v other → σ.Stores v other names stored) ?_ ?_
    · exact fun hsql _ _ _ _ hexecute hclear hstores hvisible => hmakes.mapped hsql hexecute hclear hother
        (hstores fun hhidden => hvisible (hleaves.hidden hsql.load hexecute hhidden))
    · exact fun _ hfilling _ => hmakes.others hfilling hclear hstores
  exact hsight hvisible

/-- What is under other names is what was under them. -/
theorem fillTable_under_other (hword : table.all Identifier.isWordChar) {name : Text}
    (hname : ¬ Text.sameName name table) (hother : ¬ Text.sameName name mappingTableName) :
    σ.under (σ.now (fillTable c (planTable table headers) rows).state) name = σ.under (σ.now c) name := by
  refine fillTable_replaced hmakes hmapping hok (p := fun v => σ.under v name = σ.under (σ.now c) name) ?_ ?_
  · exact fun hsql _ _ _ _ hexecute hclear hsame => (hleaves.mapped hsql hexecute hclear hother).trans hsame
  · exact fun _ hfilling _ => hleaves.under hword hfilling hclear hname

end

/-! ### The whole transaction -/

section

variable (hcommits : σ.Commits) {s : Store C} (hok : (s.loadTable (planTable table headers) rows).answer = .ok ())

include hcommits hok

/-- A load that does not fail leaves what its statements make of the version that was there, committed. -/
theorem loadTable_committed :
    (σ.saved s.database = [] ∧ σ.saved (s.loadTable (planTable table headers) rows).state.database = []) ∧
    σ.settings (s.loadTable (planTable table headers) rows).state.database = σ.settings s.database ∧
    ∃ c, σ.now c = σ.now s.database ∧ (fillTable c (planTable table headers) rows).answer = .ok () ∧
      σ.now (s.loadTable (planTable table headers) rows).state.database =
        σ.now (fillTable c (planTable table headers) rows).state := by
  obtain ⟨c₁, c₂, hbegin, hfilled, hcommit, hstate⟩ := loadTable_eq_ok hok
  obtain ⟨hsaved, hnow, hsettings⟩ := hcommits.begin_ok hbegin
  obtain ⟨hcommitted, hsaved', hsettings'⟩ := hcommits.commit hcommit
  rw [hstate]
  refine ⟨⟨hsaved, hsaved'⟩, ?_, c₁, hnow, hfilled, hcommitted⟩
  rw [hsettings', ← hsettings]
  exact fillTable_kept (p := fun c => σ.settings c = σ.settings c₁)
    (fun hsql _ _ _ _ h hc => (hcommits.settings hsql h).trans hc) hfilled rfl

/-- What holds once the table is created, and what no statement of a load breaks, holds behind the load. -/
theorem loadTable_made {p : σ.Version → Prop} (hmade : ∀ {c c' : C} {n names}, σ.now c = σ.now s.database →
      Engine.execute c (planTable table headers).createSql [] = (c', .ok n) →
      Engine.prepare c' (planTable table headers).insertSql = .ok names → p (σ.now c'))
    (hp : ∀ {sql}, LoadStatement sql → ∀ {c c' : C} {parameters n},
      Engine.execute c sql parameters = (c', .ok n) → p (σ.now c) → p (σ.now c')) :
    p (σ.now (s.loadTable (planTable table headers) rows).state.database) := by
  obtain ⟨-, -, c, hnow, hfilled, hstate⟩ := loadTable_committed hcommits hok
  obtain ⟨c₁, hcreated, hreplaced, hfill⟩ := fillTable_eq_ok hfilled
  rw [hstate, hfill]
  refine replaceMappings_kept (p := fun c => p (σ.now c)) (fun hsql _ _ _ _ hexecute => hp hsql.load hexecute) hreplaced ?_
  exact (createTable_eq_ok hcreated).1.made (p := fun c => p (σ.now c)) (hmade hnow)
    fun hsql _ _ _ _ hexecute => hp hsql hexecute

/-- What no statement of a load breaks, a load does not break. -/
theorem loadTable_kept {p : σ.Version → Prop} (hp : ∀ {sql}, LoadStatement sql → ∀ {c c' : C} {parameters n},
      Engine.execute c sql parameters = (c', .ok n) → p (σ.now c) → p (σ.now c'))
    (h : p (σ.now s.database)) : p (σ.now (s.loadTable (planTable table headers) rows).state.database) :=
  loadTable_made hcommits hok
    (fun hnow hcreate _ => hp (.create table headers) hcreate (by rw [hnow]; exact h)) hp

theorem loadTable_free (hword : table.all Identifier.isWordChar) (hnames : σ.NamesTables) :
    ∀ name ∈ σ.names (σ.now s.database), ¬ Text.sameName name table := by
  obtain ⟨-, -, c, hnow, hfilled, -⟩ := loadTable_committed hcommits hok
  obtain ⟨c₁, hcreate, -, -⟩ := fillTable_eq_ok hfilled
  rw [← hnow]
  exact free_of_created hnames hword hcreate

theorem loadTable_other (hword : table.all Identifier.isWordChar) (hnames : σ.NamesTables)
    (hnamed : mappingTableName ∈ σ.names (σ.now s.database)) : ¬ Text.sameName table mappingTableName := by
  rw [Text.sameName_comm]
  exact loadTable_free hcommits hok hword hnames _ hnamed

/-- The load of a table whose name is a word hides nothing. -/
theorem loadTable_visible (hleaves : σ.LeavesOthers) (hword : table.all Identifier.isWordChar) {name : Text}
    (hvisible : ¬ σ.Hidden (σ.now s.database) name) :
    ¬ σ.Hidden (σ.now (s.loadTable (planTable table headers) rows).state.database) name := by
  obtain ⟨-, -, c, hnow, hfilled, hstate⟩ := loadTable_committed hcommits hok
  obtain ⟨c₁, hcreate, hreplace, hfill⟩ := fillTable_eq_ok hfilled
  rw [← hnow] at hvisible
  rw [hstate, hfill]
  refine replaceMappings_kept (p := fun c => ¬ σ.Hidden (σ.now c) name) ?_ hreplace ?_
  · exact fun hsql _ _ _ _ hexecute hbefore hhidden => hbefore (hleaves.mapped_visible hsql hexecute hhidden)
  · exact fun hhidden => hvisible (hleaves.visible hword (createTable_eq_ok hcreate).1 hhidden)

variable (hmakes : σ.MakesTables) (hclear : σ.Clear (σ.now s.database) table)

include hmakes hclear

/-- A load replaces the rows of the table of header mappings. -/
theorem loadTable_keeps (hword : table.all Identifier.isWordChar) {kept : Multiset (List Sql.Value)}
    (hkeeps : σ.Keeps (σ.now s.database) kept) (hmappings : σ.KeepsMappings) :
    σ.Keeps (σ.now (s.loadTable (planTable table headers) rows).state.database)
      (replacedRows kept (planTable table headers)) := by
  obtain ⟨-, -, c, hnow, hfilled, hstate⟩ := loadTable_committed hcommits hok
  obtain ⟨c₁, hcreate, hreplace, hfill⟩ := fillTable_eq_ok hfilled
  rw [← hnow] at hclear hkeeps
  rw [hstate, hfill]
  exact hmappings.replaced (hmakes.keeps hword (createTable_eq_ok hcreate).1 hclear hkeeps) hreplace

variable (hmapping : σ.Clear (σ.now s.database) mappingTableName) (hleaves : σ.LeavesOthers)

include hmapping hleaves

theorem loadTable_stores (hword : table.all Identifier.isWordChar) (hother : ¬ Text.sameName table mappingTableName)
    (hvisible : ¬ σ.Hidden (σ.now s.database) table) :
    σ.Stores (σ.now (s.loadTable (planTable table headers) rows).state.database) table
      (planTable table headers).identifiers rows := by
  obtain ⟨-, -, c, hnow, hfilled, hstate⟩ := loadTable_committed hcommits hok
  rw [← hnow] at hclear hmapping hvisible
  rw [hstate]
  exact fillTable_stores hmakes hmapping hfilled hleaves hclear hword hvisible hother

theorem loadTable_stores_other {other : Text} {names : List Text} {stored : List (List Text)}
    (hother : ¬ Text.sameName other mappingTableName) (hstores : σ.Stores (σ.now s.database) other names stored)
    (hvisible : ¬ σ.Hidden (σ.now (s.loadTable (planTable table headers) rows).state.database) other) :
    σ.Stores (σ.now (s.loadTable (planTable table headers) rows).state.database) other names stored := by
  obtain ⟨-, -, c, hnow, hfilled, hstate⟩ := loadTable_committed hcommits hok
  rw [← hnow] at hclear hmapping hstores
  rw [hstate] at hvisible ⊢
  exact fillTable_stores_other hmakes hmapping hfilled hleaves hclear hother hstores hvisible

theorem loadTable_under_other (hword : table.all Identifier.isWordChar) {name : Text}
    (hname : ¬ Text.sameName name table) (hother : ¬ Text.sameName name mappingTableName) :
    σ.under (σ.now (s.loadTable (planTable table headers) rows).state.database) name =
      σ.under (σ.now s.database) name := by
  obtain ⟨-, -, c, hnow, hfilled, hstate⟩ := loadTable_committed hcommits hok
  rw [← hnow] at hclear hmapping ⊢
  rw [hstate]
  exact fillTable_under_other hmakes hmapping hfilled hleaves hclear hword hname hother

end

end Store

end SheetQuery
