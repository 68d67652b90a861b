import SheetQuery.Disk
import SheetQuery.Failure

/-!
# Database engines

What the program asks of the database that it works on. A statement is a text; the engine compiles it
whenever it is run, so that a statement prepared before has no state of its own.
-/

namespace SheetQuery

/-- The rows that a query yields one after the other, and the failure that ended them, if one did. -/
structure Answer where
  rows : List (List Sql.Value)
  failure : Option Failure
deriving DecidableEq

/-- The rows as `read` takes them, up to the first that it cannot take or the failure behind them. -/
def Answer.collect {α : Type} (a : Answer) (read : List Sql.Value → Except Failure α) :
    Except Failure (List α) := do
  let taken ← a.rows.mapM read
  match a.failure with
  | none => return taken
  | some e => .error e

/-- A database engine whose connections have the states `C`. -/
class Engine (C : Type) where
  /-- A connection to what a file holds, or to a new database. -/
  connect : Option Content → Except Failure C
  /-- What the file of the connection holds: what has been committed. -/
  content : C → Content
  isDatabase : Content → Bool
  /-- The names of the columns of a statement's result; a statement without a result has none. What a
  statement already does when it is compiled counts as done when it is run. -/
  prepare : C → Text → Except Failure (List Text)
  /-- A statement without a result is run; the answer is the number of rows changed last. -/
  execute : C → Text → List Sql.Value → C × Except Failure Nat
  query : C → Text → List Sql.Value → C × Answer
  begin : C → C × Except Failure Unit
  commit : C → C × Except Failure Unit
  /-- A transaction is given up without being committed. -/
  abandon : C → C

end SheetQuery
