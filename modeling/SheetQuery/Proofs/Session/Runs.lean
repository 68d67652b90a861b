import Mathlib.Data.List.Induction
import SheetQuery.Proofs.Session.Loads
import SheetQuery.Proofs.Session.Opening

/-!
# Runs

What can happen to a session and to the files around it, one operation after the other.

* `Operation`: a load, a command, or a change of the files by another program.
* `Workspace.afterAll`: what a run of operations leaves behind.
* `Workspace.afterAll_reachable`: all that a run does can be done on a connection.
-/

namespace SheetQuery

variable {C : Type} [Engine C]

/-- What can happen to a session and the files around it. -/
inductive Operation where
  | loadGrid (table : Text) (grid : Grid)
  | loadFile (path : Text)
  | loadFiles (paths : List Text)
  | execute (command : Command)
  /-- Other programs change the files. -/
  | changeFiles (disk : Disk)

namespace Operation

def apply (w : Workspace C) : Operation → Workspace C
  | loadGrid table grid => { w with session := (w.session.loadGrid table grid).state }
  | loadFile path => { w with session := (w.session.loadFile w.disk path).state }
  | loadFiles paths => { w with session := (w.session.loadFiles w.disk paths).state }
  | execute command => (w.execute command).state
  | changeFiles disk => { w with disk := disk }

end Operation

namespace Workspace

def afterAll (w : Workspace C) (ops : List Operation) : Workspace C := ops.foldl Operation.apply w

theorem afterAll_concat (w : Workspace C) (ops : List Operation) (op : Operation) :
    w.afterAll (ops ++ [op]) = op.apply (w.afterAll ops) := by
  simp [afterAll]

end Workspace

/-- What no load and no statement of the user breaks, no operation breaks. -/
theorem Operation.induction {p : Session C → Prop}
    (hload : ∀ s table grid, p s → p (Session.loadGrid s table grid).state)
    (hquery : ∀ s sql, p s → p (Session.query s sql).state) {w : Workspace C} (h : p w.session) (op : Operation) :
    p (op.apply w).session := by
  have hfile : ∀ s path, p s → p (Session.loadFile s w.disk path).state := fun s path hs =>
    Session.loadFile_induction hs fun grid _ => hload s _ grid hs
  cases op with
  | loadGrid table grid => exact hload _ table grid h
  | loadFile path => exact hfile _ path h
  | loadFiles paths => exact Session.loadFiles_induction hfile h paths
  | changeFiles disk => exact h
  | execute command =>
    rcases w.execute_state command with ⟨statement, -, hstate⟩ | ⟨_, _, -, -, hstate⟩ | hstate
    · rw [apply, hstate]
      exact hquery _ _ h
    · rw [apply, hstate]
      exact h
    · rw [apply, hstate]
      exact h

namespace Workspace

/-- All that a run does can be done on a connection. -/
theorem afterAll_reachable {q : Option Content → Prop} {w : Workspace C} (h : Reachable q w.session.store.database)
    (ops : List Operation) : Reachable q (w.afterAll ops).session.store.database := by
  induction ops using List.reverseRecOn with
  | nil => exact h
  | append_singleton ops op ih =>
    rw [afterAll_concat]
    refine Operation.induction (p := fun s => Reachable q s.store.database) ?_ ?_ ih op
    · exact fun s table grid hs => Session.loadGrid_reachable hs table grid
    · intro s sql hs
      rw [Session.query_state]
      exact Store.run_reachable hs _

end Workspace

end SheetQuery
