import SheetQuery.Text.Basic

/-!
# Failures

What a message says of something that went wrong: a sentence and, below it, the sentences of its causes
from the outermost to the innermost.
-/

namespace SheetQuery

/-- A sentence and the sentences of its causes, outermost first. -/
structure Failure where
  message : Text
  causes : List Text
deriving DecidableEq, Repr

namespace Failure

def ofMessage (message : Text) : Failure := ⟨message, []⟩

def within (f : Failure) (context : Text) : Failure := ⟨context, f.message :: f.causes⟩

def chain (f : Failure) : List Text := f.message :: f.causes

def line (f : Failure) : Text := Text.joinWith ": ".toList f.chain

end Failure

end SheetQuery
