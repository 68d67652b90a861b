import SheetQuery.Proofs.Session.Loads
import SheetQuery.Proofs.Sql.InMemory
import SheetQuery.Proofs.Sql.Laws.Transactions

/-!
# Loads that fail

A load is a transaction of its own.  If it fails, at whatever point, the tables, the header mappings that the store
keeps, and the session's own mappings and last result are what they were, as long as a transaction that is given up is
undone.

* `Store.AnswersAlike`: the queries of the store tell no difference.
* `RollsBack.loadTable`: a load that fails leaves all versions and settings as they were.
* `load_atomic`: a load that fails leaves the session untouched.
-/

namespace SheetQuery

variable {C : Type} [Engine C] {σ : Semantics C}

/-! ### The queries of the store -/

namespace Store

/-- The queries of the store are answered alike by both. -/
def AnswersAlike (s s' : Store C) : Prop :=
  ∀ {sql : Text} {parameters : List Sql.Value}, StoreQuery sql parameters →
    Engine.prepare s'.database sql = Engine.prepare s.database sql ∧
      (Engine.query s'.database sql parameters).2 = (Engine.query s.database sql parameters).2

namespace AnswersAlike

variable {s s' : Store C} (h : s.AnswersAlike s')

include h

theorem ask_eq {sql : Text} {parameters : List Sql.Value} (hsql : StoreQuery sql parameters) :
    s'.ask sql parameters = s.ask sql parameters := by
  obtain ⟨hprepare, hquery⟩ := h hsql
  unfold Store.ask
  rw [hprepare, hquery]

theorem tables_eq : s'.tables = s.tables := by
  unfold Store.tables
  rw [h.ask_eq .tables]

theorem tableInfo_eq : s'.tableInfo = s.tableInfo := by
  funext name
  unfold Store.tableInfo
  rw [h.ask_eq (.tableInfo name)]

theorem storedMappings_eq : s'.storedMappings = s.storedMappings := by
  unfold Store.storedMappings
  rw [h.ask_eq .mappings]

end AnswersAlike

end Store

namespace Semantics

/-- A load that fails leaves all as it was. -/
theorem RollsBack.loadTable (h : σ.RollsBack) {s : Store C} {table : Text} {headers : List Text}
    {rows : List (List Text)} {e : LoadError} (he : (s.loadTable (planTable table headers) rows).answer = .error e) :
    σ.Same s.database (s.loadTable (planTable table headers) rows).state.database := by
  rcases s.loadTable_cases table headers rows with
    ⟨c, f, hbegin, -, hstate⟩ | ⟨_, c, f, -, hdropped, -, hstate, -⟩ | ⟨_, _, -, -, -, hok, -⟩
  · rw [hstate]
    exact h.begin_error hbegin
  · rw [hstate]
    exact h.abandon hdropped
  · cases he.symm.trans hok

end Semantics

namespace Session

/-- Nothing that a session keeps or shows has changed: its tables with their rows, also those to go back to if a
transaction is open, what it says about them, and its mappings and last result. -/
structure Untouched (σ : Semantics C) (s s' : Session C) : Prop where
  same : σ.Same s.store.database s'.store.database
  tables : s'.store.tables = s.store.tables
  tableInfo : s'.store.tableInfo = s.store.tableInfo
  storedMappings : s'.store.storedMappings = s.store.storedMappings
  mappings : s'.mappings = s.mappings
  lastResult : s'.lastResult = s.lastResult

variable {s : Session C}

/-- A load of a grid that fails leaves the database and the mappings as they were. -/
theorem loadGrid_failed (hrolls : σ.RollsBack) {table : Text} {grid : Grid} {e : LoadError}
    (h : (s.loadGrid table grid).answer = .error e) :
    σ.Same s.store.database (s.loadGrid table grid).state.store.database ∧
      (s.loadGrid table grid).state.mappings = s.mappings := by
  cases grid with
  | nil => exact ⟨⟨rfl, rfl, rfl⟩, rfl⟩
  | cons headers rows =>
    have he := loadTable_of_loadGrid_error h
    rw [loadGrid_store]
    exact ⟨hrolls.loadTable he, loadGrid_mappings_of_error he⟩

theorem loadFile_failed (hrolls : σ.RollsBack) {disk : Disk} {path : Text} {e : LoadError}
    (h : (s.loadFile disk path).answer = .error e) :
    σ.Same s.store.database (s.loadFile disk path).state.store.database ∧
      (s.loadFile disk path).state.mappings = s.mappings := by
  cases hread : readSource s.options disk path with
  | error f =>
    rw [loadFile_of_read_error hread]
    exact ⟨⟨rfl, rfl, rfl⟩, rfl⟩
  | ok grid =>
    obtain ⟨hstate, hanswer⟩ := loadFile_of_read hread
    rw [hanswer] at h
    rw [hstate]
    exact loadGrid_failed hrolls h

theorem Untouched.of_same (hanswers : σ.Answers) {s' : Session C} (hsame : σ.Same s.store.database s'.store.database)
    (hmappings : s'.mappings = s.mappings) (hlast : s'.lastResult = s.lastResult) : s.Untouched σ s' := by
  have halike : s.store.AnswersAlike s'.store := hanswers.congr hsame.now hsame.settings
  exact ⟨hsame, halike.tables_eq, halike.tableInfo_eq, halike.storedMappings_eq, hmappings, hlast⟩

/-- A load that fails leaves the session untouched. -/
theorem load_atomic (hrolls : σ.RollsBack) (hanswers : σ.Answers) (s : Session C) :
    (∀ table grid e, (s.loadGrid table grid).answer = .error e → s.Untouched σ (s.loadGrid table grid).state) ∧
    (∀ disk path e, (s.loadFile disk path).answer = .error e → s.Untouched σ (s.loadFile disk path).state) := by
  refine ⟨fun table grid e he => ?_, fun disk path e he => ?_⟩
  · obtain ⟨hsame, hmappings⟩ := loadGrid_failed hrolls he
    exact .of_same hanswers hsame hmappings (s.loadGrid_lastResult table grid)
  · obtain ⟨hsame, hmappings⟩ := loadFile_failed hrolls he
    exact .of_same hanswers hsame hmappings (loadFile_induction (p := fun s' => s'.lastResult = s.lastResult) rfl
      fun grid _ => s.loadGrid_lastResult _ grid)

private def withNames : Session Sql.Database :=
  (inMemory.loadGrid "names".toList [["名称".toList], [['x']]]).state

theorem load_atomic_short_row :
    let grid := [["类型".toList], [['a']], []]
    (withNames.loadGrid "types".toList grid).answer = .error (.columnCount "types".toList 3 1 0) ∧
      withNames.Untouched Sql.Database.semantics (withNames.loadGrid "types".toList grid).state ∧
      (withNames.loadFile .empty "types.csv".toList).answer =
        .error (.read ⟨"Reading metadata for \"types.csv\"".toList, [DiskFault.notFound.text]⟩) ∧
      withNames.Untouched Sql.Database.semantics (withNames.loadFile .empty "types.csv".toList).state := by
  have hanswers : (withNames.loadGrid "types".toList [["类型".toList], [['a']], []]).answer =
        .error (.columnCount "types".toList 3 1 0) ∧
      (withNames.loadFile .empty "types.csv".toList).answer =
        .error (.read ⟨"Reading metadata for \"types.csv\"".toList, [DiskFault.notFound.text]⟩) := by
    decide +kernel
  obtain ⟨hgrid, hfile⟩ := load_atomic Sql.Database.rollsBack Sql.Database.answers withNames
  exact ⟨hanswers.1, hgrid _ _ _ hanswers.1, hanswers.2, hfile _ _ _ hanswers.2⟩

end Session

end SheetQuery
