import SheetQuery.Proofs.Engine.Semantics

/-!
# How loads run

What a load does to a connection, step by step, whatever the engine answers: a transaction is begun, a table created
and filled, the mappings replaced, and all of that is committed or given up.

* `Store.fillTable_eq_ok`: all that goes on inside the transaction of a load that does not fail.
* `Store.loadTable_cases`: a load cannot begin, or it is given up, or it is committed.
* `Session.loadGrid_answer`, `loadGrid_store`, `loadGrid_mappings`, `loadFile_of_read`: what a load makes of a session.
* `Session.loadFiles_induction`: what no load of a file breaks, a run of loads does not break.
-/

namespace SheetQuery

variable {C : Type} [Engine C]

namespace Store

variable {c c₁ c₂ : C} {table : Text} {headers : List Text} {rows : List (List Text)}

/-! ### Inside the transaction -/

/-- Rows that are all put in have the width of the table. -/
theorem insertRows_eq_ok {plan : TablePlan} (h : Filling plan c c₁) {row : Nat}
    (hrows : insertRows plan c₁ row rows = (c₂, .ok ())) :
    Filling plan c c₂ ∧ ∀ cells ∈ rows, cells.length = plan.columns.length := by
  induction rows generalizing c₁ row with
  | nil =>
    cases hrows
    exact ⟨h, fun _ hcells => nomatch hcells⟩
  | cons cells rows ih =>
    rw [insertRows] at hrows
    split_ifs at hrows with hcells
    · split at hrows
      · rename_i hinsert
        obtain ⟨hfilling, hwidths⟩ := ih (h.inserted hcells hinsert) hrows
        exact ⟨hfilling, List.forall_mem_cons.2 ⟨hcells, hwidths⟩⟩
      · cases hrows
    · cases hrows

theorem createTable_eq_ok {plan : TablePlan} (h : createTable c plan rows = (c₁, .ok ())) :
    Filling plan c c₁ ∧ ∀ cells ∈ rows, cells.length = plan.columns.length := by
  unfold createTable at h
  split at h
  · cases h
  · rename_i hcreate
    split at h
    · cases h
    · rename_i hprepare
      exact insertRows_eq_ok (.created hcreate hprepare) h

theorem createTable_accepted {plan : TablePlan} (h : createTable c plan rows = (c₁, .ok ())) :
    ∃ c' n names, Engine.execute c plan.createSql [] = (c', .ok n) ∧ Engine.prepare c' plan.insertSql = .ok names := by
  unfold createTable at h
  split at h
  · cases h
  · rename_i hcreate
    split at h
    · cases h
    · rename_i hprepare
      exact ⟨_, _, _, hcreate, hprepare⟩

/-- The mappings of a table are dropped before others are kept. -/
theorem replaceMappings_eq_ok {plan : TablePlan} (h : (replaceMappings c plan).answer = .ok ()) :
    ∃ c₁ n, Engine.execute c dropMappingsSql [.text plan.table] = (c₁, .ok n) ∧
      keepMappings c₁ plan.mappings = ((replaceMappings c plan).state, .ok ()) := by
  unfold replaceMappings at h ⊢
  rcases hdrop : Engine.execute c dropMappingsSql [.text plan.table] with ⟨c₁, e | n⟩
  · rw [hdrop] at h
    cases h
  · rw [hdrop] at h
    dsimp only at h ⊢
    cases hprepare : Engine.prepare c₁ keepMappingSql with
    | error e =>
      rw [hprepare] at h
      cases h
    | ok names =>
      rw [hprepare] at h
      exact ⟨c₁, n, rfl, Prod.ext rfl h⟩

theorem fillTable_eq_ok {plan : TablePlan} (h : (fillTable c plan rows).answer = .ok ()) :
    ∃ c₁, createTable c plan rows = (c₁, .ok ()) ∧ (replaceMappings c₁ plan).answer = .ok () ∧
      (fillTable c plan rows).state = (replaceMappings c₁ plan).state := by
  unfold fillTable at h ⊢
  split at h
  · cases h
  · rename_i c₁ hcreate
    exact ⟨c₁, hcreate, h, rfl⟩

section

variable {p : C → Prop}

theorem keepMappings_kept (hp : ∀ {c c' : C} {e : Mapping} {n},
      Engine.execute c keepMappingSql (mappingRow e) = (c', .ok n) → p c → p c')
    {l : List Mapping} (h : keepMappings c l = (c₁, .ok ())) (hc : p c) : p c₁ := by
  induction l generalizing c with
  | nil =>
    cases h
    exact hc
  | cons e l ih =>
    rw [keepMappings] at h
    split at h
    · rename_i hkeep
      exact ih h (hp hkeep hc)
    · cases h

/-- What the statements on the table of header mappings keep. -/
theorem replaceMappings_kept (hp : ∀ {sql}, MappingStatement sql → ∀ {c c' : C} {parameters n},
      Engine.execute c sql parameters = (c', .ok n) → p c → p c')
    {plan : TablePlan} (h : (replaceMappings c plan).answer = .ok ()) (hc : p c) : p (replaceMappings c plan).state := by
  obtain ⟨c₁, n, hdrop, hkeep⟩ := replaceMappings_eq_ok h
  exact keepMappings_kept (hp (.inr rfl)) hkeep (hp (.inl rfl) hdrop hc)

/-- What the statements of a load keep. -/
theorem fillTable_kept (hp : ∀ {sql}, LoadStatement sql → ∀ {c c' : C} {parameters n},
      Engine.execute c sql parameters = (c', .ok n) → p c → p c')
    (h : (fillTable c (planTable table headers) rows).answer = .ok ()) (hc : p c) :
    p (fillTable c (planTable table headers) rows).state := by
  obtain ⟨c₁, hcreate, hreplace, hstate⟩ := fillTable_eq_ok h
  rw [hstate]
  exact replaceMappings_kept (fun hsql => hp hsql.load) hreplace ((createTable_eq_ok hcreate).1.kept hp hc)

end

/-! ### What can be given up -/

/-- Where a part of a transaction ends. -/
private def Ends (c : C) {α ε : Type} (c' : C) (answer : Except ε α) : Prop :=
  Dropped c c' ∧ ∀ a, answer = .ok a → Working c c'

private theorem ends_of_working {α ε : Type} {answer : Except ε α} (h : Working c c₁) : Ends c c₁ answer :=
  ⟨.working h, fun _ _ => h⟩

private theorem ends_of_failed {sql : Text} (h : Working c c₁) (hsql : LoadStatement sql)
    {parameters : List Sql.Value} {e : Failure} (hexecute : Engine.execute c₁ sql parameters = (c₂, .error e))
    {α ε : Type} (e' : ε) : Ends c c₂ (.error e' : Except ε α) :=
  ⟨.failed h hsql hexecute, fun _ h => nomatch h⟩

private theorem ends_insertRows (h : Working c c₁) (row : Nat) (rows : List (List Text)) :
    Ends c (insertRows (planTable table headers) c₁ row rows).1 (insertRows (planTable table headers) c₁ row rows).2 := by
  induction rows generalizing c₁ row with
  | nil => exact ends_of_working h
  | cons cells rows ih =>
    rw [insertRows]
    split
    · split
      · exact ih (h.executed (.insert table headers) ‹_›) _
      · exact ends_of_failed h (.insert table headers) ‹_› _
    · exact ends_of_working h

private theorem ends_createTable (h : Working c c₁) (table : Text) (headers : List Text) (rows : List (List Text)) :
    Ends c (createTable c₁ (planTable table headers) rows).1 (createTable c₁ (planTable table headers) rows).2 := by
  unfold createTable
  split
  · exact ends_of_failed h (.create table headers) ‹_› _
  · rename_i hcreate
    have hcreated := h.executed (.create table headers) hcreate
    split
    · exact ends_of_working hcreated
    · exact ends_insertRows hcreated _ rows

private theorem ends_keepMappings (h : Working c c₁) (l : List Mapping) :
    Ends c (keepMappings c₁ l).1 (keepMappings c₁ l).2 := by
  induction l generalizing c₁ with
  | nil => exact ends_of_working h
  | cons e l ih =>
    rw [keepMappings]
    split
    · exact ih (h.executed .keep ‹_›)
    · exact ends_of_failed h .keep ‹_› _

private theorem ends_replaceMappings (h : Working c c₁) (plan : TablePlan) :
    Ends c (replaceMappings c₁ plan).state (replaceMappings c₁ plan).answer := by
  unfold replaceMappings
  rcases hdrop : Engine.execute c₁ dropMappingsSql [.text plan.table] with ⟨c₂, e | n⟩
  · exact ends_of_failed h .drop hdrop _
  · have hdropped := h.executed .drop hdrop
    dsimp only
    cases Engine.prepare c₂ keepMappingSql with
    | error e => exact ends_of_working hdropped
    | ok names => exact ends_keepMappings hdropped plan.mappings

private theorem ends_fillTable (h : Working c c₁) (table : Text) (headers : List Text) (rows : List (List Text)) :
    Ends c (fillTable c₁ (planTable table headers) rows).state (fillTable c₁ (planTable table headers) rows).answer := by
  have hcreate := ends_createTable h table headers rows
  unfold fillTable
  dsimp only
  split
  · rename_i heq
    rw [heq] at hcreate
    exact ⟨hcreate.1, fun _ h => nomatch h⟩
  · rename_i heq
    rw [heq] at hcreate
    exact ends_replaceMappings (hcreate.2 () rfl) _

theorem working_of_fillTable (h : Working c c₁)
    (hok : (fillTable c₁ (planTable table headers) rows).answer = .ok ()) :
    Working c (fillTable c₁ (planTable table headers) rows).state :=
  (ends_fillTable h table headers rows).2 () hok

/-! ### The whole transaction -/

/-- A load cannot begin, or it fails and is given up, or what it made of the tables is committed. -/
theorem loadTable_cases (s : Store C) (table : Text) (headers : List Text) (rows : List (List Text)) :
    (∃ c e, Engine.begin s.database = (c, .error e) ∧
      (s.loadTable (planTable table headers) rows).answer = .error (.store e) ∧
      (s.loadTable (planTable table headers) rows).state = { s with database := c }) ∨
    (∃ c₁ c₂ e, Engine.begin s.database = (c₁, .ok ()) ∧ Dropped s.database c₂ ∧
      (s.loadTable (planTable table headers) rows).answer = .error e ∧
      (s.loadTable (planTable table headers) rows).state = { s with database := Engine.abandon c₂ } ∧
      ((fillTable c₁ (planTable table headers) rows).answer = .error e ∨
        (fillTable c₁ (planTable table headers) rows).answer = .ok () ∧
          ∃ f, Engine.commit (fillTable c₁ (planTable table headers) rows).state = (c₂, .error f) ∧ e = .store f)) ∨
    (∃ c₁ c₂, Engine.begin s.database = (c₁, .ok ()) ∧
      (fillTable c₁ (planTable table headers) rows).answer = .ok () ∧
      Engine.commit (fillTable c₁ (planTable table headers) rows).state = (c₂, .ok ()) ∧
      (s.loadTable (planTable table headers) rows).answer = .ok () ∧
      (s.loadTable (planTable table headers) rows).state = { s with database := c₂ }) := by
  unfold loadTable
  split
  · rename_i c e hbegin
    exact .inl ⟨c, e, hbegin, rfl, rfl⟩
  · rename_i c₁ hbegin
    have hends := ends_fillTable (.begun hbegin) table headers rows
    dsimp only
    cases hfilled : (fillTable c₁ (planTable table headers) rows).answer with
    | error e => exact .inr (.inl ⟨c₁, _, e, hbegin, hends.1, rfl, rfl, .inl hfilled⟩)
    | ok u =>
      dsimp only
      split
      · rename_i c₂ hcommit
        exact .inr (.inr ⟨c₁, c₂, hbegin, hfilled, hcommit, rfl, rfl⟩)
      · rename_i c₂ f hcommit
        exact .inr (.inl ⟨c₁, c₂, _, hbegin, .uncommitted (hends.2 () hfilled) hcommit, rfl, rfl,
          .inr ⟨hfilled, f, hcommit, rfl⟩⟩)

/-- A load that does not fail leaves what its statements made of the database, committed. -/
theorem loadTable_eq_ok {s : Store C} (h : (s.loadTable (planTable table headers) rows).answer = .ok ()) :
    ∃ c₁ c₂, Engine.begin s.database = (c₁, .ok ()) ∧
      (fillTable c₁ (planTable table headers) rows).answer = .ok () ∧
      Engine.commit (fillTable c₁ (planTable table headers) rows).state = (c₂, .ok ()) ∧
      (s.loadTable (planTable table headers) rows).state = { s with database := c₂ } := by
  rcases s.loadTable_cases table headers rows with
    ⟨_, _, -, hanswer, -⟩ | ⟨_, _, _, -, -, hanswer, -⟩ | ⟨c₁, c₂, hbegin, hfilled, hcommit, -, hstate⟩
  · cases h.symm.trans hanswer
  · cases h.symm.trans hanswer
  · exact ⟨c₁, c₂, hbegin, hfilled, hcommit, hstate⟩

theorem loadTable_location (s : Store C) (plan : TablePlan) (rows : List (List Text)) :
    (s.loadTable plan rows).state.location = s.location := by
  unfold loadTable
  split
  · rfl
  · dsimp only
    split
    · rfl
    · split <;> rfl

/-- All that a load does can be done on a connection. -/
theorem loadTable_reachable {q : Option Content → Prop} {s : Store C} (h : Reachable q s.database) (table : Text)
    (headers : List Text) (rows : List (List Text)) :
    Reachable q (s.loadTable (planTable table headers) rows).state.database := by
  rcases s.loadTable_cases table headers rows with
    ⟨c, e, hbegin, -, hstate⟩ | ⟨c₁, c₂, e, -, hdropped, -, hstate, -⟩ | ⟨c₁, c₂, hbegin, hfilled, hcommit, -, hstate⟩
  · rw [hstate]
    exact h.begin hbegin
  · rw [hstate]
    exact (hdropped.reachable h).abandon
  · rw [hstate]
    exact ((working_of_fillTable (.begun hbegin) hfilled).reachable h).commit hcommit

end Store

namespace Session

/-! ### Sessions -/

variable {s : Session C} {table : Text} {headers : List Text} {rows : List (List Text)}

theorem loadGrid_answer (s : Session C) (table : Text) (headers : List Text) (rows : List (List Text)) :
    (s.loadGrid table (headers :: rows)).answer = ((s.store.loadTable (planTable table headers) rows).answer.map fun _ =>
      ⟨table, rows.length, (planTable table headers).mappings.length⟩) := by
  rw [loadGrid, Step.after_answer, loadPlan]
  dsimp only
  split <;> rename_i hanswer <;> rw [hanswer] <;> rfl

theorem loadGrid_store (s : Session C) (table : Text) (headers : List Text) (rows : List (List Text)) :
    (s.loadGrid table (headers :: rows)).state.store = (s.store.loadTable (planTable table headers) rows).state := by
  rw [loadGrid, Step.after_state, loadPlan]
  dsimp only
  split <;> rfl

theorem loadGrid_mappings (h : (s.store.loadTable (planTable table headers) rows).answer = .ok ()) :
    (s.loadGrid table (headers :: rows)).state.mappings = adoptMappings s.mappings (planTable table headers) := by
  rw [loadGrid, Step.after_state, loadPlan]
  dsimp only
  rw [h]

/-- A load that fails leaves the mappings alone. -/
theorem loadGrid_mappings_of_error {e : LoadError}
    (h : (s.store.loadTable (planTable table headers) rows).answer = .error e) :
    (s.loadGrid table (headers :: rows)).state.mappings = s.mappings := by
  rw [loadGrid, Step.after_state, loadPlan]
  dsimp only
  rw [h]

/-- A load of a grid that does not fail is one of a table. -/
theorem loadTable_of_loadGrid {summary : LoadSummary} (h : (s.loadGrid table (headers :: rows)).answer = .ok summary) :
    (s.store.loadTable (planTable table headers) rows).answer = .ok () := by
  rw [loadGrid_answer] at h
  cases hanswer : (s.store.loadTable (planTable table headers) rows).answer with
  | error e =>
    rw [hanswer] at h
    cases h
  | ok u => rfl

theorem loadTable_of_loadGrid_error {e : LoadError} (h : (s.loadGrid table (headers :: rows)).answer = .error e) :
    (s.store.loadTable (planTable table headers) rows).answer = .error e := by
  rw [loadGrid_answer] at h
  cases hanswer : (s.store.loadTable (planTable table headers) rows).answer with
  | error e' =>
    rw [hanswer] at h
    exact congrArg _ (Except.error.inj h)
  | ok u =>
    rw [hanswer] at h
    cases h

theorem loadGrid_lastResult (s : Session C) (table : Text) (grid : Grid) :
    (s.loadGrid table grid).state.lastResult = s.lastResult := by
  cases grid with
  | nil => rfl
  | cons headers rows =>
    rw [loadGrid, Step.after_state, loadPlan]
    dsimp only
    split <;> rfl

theorem loadGrid_options (s : Session C) (table : Text) (grid : Grid) :
    (s.loadGrid table grid).state.options = s.options := by
  cases grid with
  | nil => rfl
  | cons headers rows =>
    rw [loadGrid, Step.after_state, loadPlan]
    dsimp only
    split <;> rfl

theorem loadGrid_location (s : Session C) (table : Text) (grid : Grid) :
    (s.loadGrid table grid).state.store.location = s.store.location := by
  cases grid with
  | nil => rfl
  | cons headers rows =>
    rw [loadGrid_store]
    exact s.store.loadTable_location _ rows

theorem loadGrid_reachable {q : Option Content → Prop} (h : Reachable q s.store.database) (table : Text) (grid : Grid) :
    Reachable q (s.loadGrid table grid).state.store.database := by
  cases grid with
  | nil => exact h
  | cons headers rows =>
    rw [loadGrid_store]
    exact Store.loadTable_reachable h table headers rows

/-- A file is loaded as the grid that is read of it. -/
theorem loadFile_of_read {disk : Disk} {path : Text} {grid : Grid} (h : readSource s.options disk path = .ok grid) :
    (s.loadFile disk path).state = (s.loadGrid (tableOfPath path) grid).state ∧
      (s.loadFile disk path).answer = (s.loadGrid (tableOfPath path) grid).answer := by
  unfold loadFile
  rw [h]
  dsimp only
  split <;> exact ⟨rfl, rfl⟩

/-- A file that cannot be read changes nothing. -/
theorem loadFile_of_read_error {disk : Disk} {path : Text} {e : LoadError}
    (h : readSource s.options disk path = .error e) : s.loadFile disk path = .pure s (.error e) := by
  unfold loadFile
  rw [h]

/-- What no load of a grid breaks, no load of a file breaks. -/
theorem loadFile_induction {p : Session C → Prop} (h : p s) {disk : Disk} {path : Text}
    (hgrid : ∀ grid, readSource s.options disk path = .ok grid → p (s.loadGrid (tableOfPath path) grid).state) :
    p (s.loadFile disk path).state := by
  cases hread : readSource s.options disk path with
  | error e =>
    rw [loadFile_of_read_error hread]
    exact h
  | ok grid =>
    rw [(loadFile_of_read hread).1]
    exact hgrid grid hread

theorem loadFile_options (s : Session C) (disk : Disk) (path : Text) :
    (s.loadFile disk path).state.options = s.options :=
  loadFile_induction (p := fun s' => s'.options = s.options) rfl fun grid _ => s.loadGrid_options _ grid

/-- What is read of a file that can be loaded has headers. -/
theorem readSource_ne_nil {options : LoadOptions} {disk : Disk} {path : Text} :
    readSource options disk path ≠ .ok [] := by
  intro h
  unfold readSource at h
  split at h
  · cases h
  · cases h
  · split at h
    · cases h
    · split at h
      · cases h
      · cases h
      · rename_i hnil _
        exact hnil (Except.ok.inj h)

/-- A file that is loaded is loaded as a table. -/
theorem loadFile_eq_ok {disk : Disk} {path : Text} {summary : LoadSummary}
    (h : (s.loadFile disk path).answer = .ok summary) :
    ∃ headers rows, readSource s.options disk path = .ok (headers :: rows) ∧
      (s.store.loadTable (planTable (tableOfPath path) headers) rows).answer = .ok () := by
  cases hread : readSource s.options disk path with
  | error e =>
    rw [loadFile_of_read_error hread] at h
    cases h
  | ok grid =>
    cases grid with
    | nil => exact absurd hread readSource_ne_nil
    | cons headers rows =>
      rw [(loadFile_of_read hread).2] at h
      exact ⟨headers, rows, rfl, loadTable_of_loadGrid h⟩

theorem state_loadFiles_cons (s : Session C) (disk : Disk) (path : Text) (paths : List Text) :
    (s.loadFiles disk (path :: paths)).state = ((s.loadFile disk path).state.loadFiles disk paths).state := by
  rw [loadFiles, Step.bind_state]
  split
  · rfl
  · rfl

/-- What no load of a file breaks, a run of loads does not break. -/
theorem loadFiles_induction {p : Session C → Prop} {disk : Disk}
    (hstep : ∀ s path, p s → p (s.loadFile disk path).state) {s : Session C} (h : p s) (paths : List Text) :
    p (s.loadFiles disk paths).state := by
  induction paths generalizing s with
  | nil => exact h
  | cons path paths ih =>
    rw [state_loadFiles_cons]
    exact ih (hstep s path h)

end Session

end SheetQuery
