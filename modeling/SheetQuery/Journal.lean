import SheetQuery.Text.Basic

/-!
# The journal

What the program notes while it works. An operation on a state is a `Step`: the state that it leaves
behind, its answer, and the notes made on the way, in order. `Step.bind` puts one step after the other.
-/

namespace SheetQuery

inductive Level where
  | error
  | warn
  | info
  | debug
  | trace
deriving DecidableEq, Repr

namespace Level

def name : Level → Text
  | error => "ERROR".toList
  | warn => "WARN".toList
  | info => "INFO".toList
  | debug => "DEBUG".toList
  | trace => "TRACE".toList

/-- Levels counted from the most urgent one. -/
def rank : Level → Nat
  | error => 1
  | warn => 2
  | info => 3
  | debug => 4
  | trace => 5

def ofName? (s : Text) : Option Level :=
  [error, warn, info, debug, trace].find? fun level => Text.sameName level.name s

end Level

inductive Topic where
  | program
  | load
  | store
  | session
  | substitution
deriving DecidableEq, Repr

def Topic.name : Topic → Text
  | program => "csvsql".toList
  | load => "csvsql::ingest".toList
  | store => "csvsql::store".toList
  | session => "csvsql::session".toList
  | substitution => "csvsql::translate".toList

structure Note where
  level : Level
  topic : Topic
  text : Text
deriving DecidableEq, Repr

/-- What an operation leaves behind: a state, an answer, and the notes that it made. -/
structure Step (σ α : Type) where
  state : σ
  answer : α
  notes : List Note

namespace Step

variable {σ τ α β : Type}

def pure (state : σ) (answer : α) : Step σ α := ⟨state, answer, []⟩

def note (state : σ) (level : Level) (topic : Topic) (text : Text) : Step σ Unit :=
  ⟨state, (), [⟨level, topic, text⟩]⟩

def bind (s : Step σ α) (next : σ → α → Step τ β) : Step τ β :=
  let t := next s.state s.answer
  ⟨t.state, t.answer, s.notes ++ t.notes⟩

/-- An operation after notes that have been made before. -/
def after (notes : List Note) (s : Step σ α) : Step σ α := { s with notes := notes ++ s.notes }

/-- The same operation seen as one on a larger state. -/
def onState (s : Step σ α) (put : σ → τ) : Step τ α := ⟨put s.state, s.answer, s.notes⟩

def map (s : Step σ α) (f : α → β) : Step σ β := ⟨s.state, f s.answer, s.notes⟩

@[simp] theorem after_state (notes : List Note) (s : Step σ α) : (s.after notes).state = s.state := rfl

@[simp] theorem after_answer (notes : List Note) (s : Step σ α) : (s.after notes).answer = s.answer := rfl

@[simp] theorem bind_state (s : Step σ α) (next : σ → α → Step τ β) :
    (s.bind next).state = (next s.state s.answer).state := rfl

@[simp] theorem bind_answer (s : Step σ α) (next : σ → α → Step τ β) :
    (s.bind next).answer = (next s.state s.answer).answer := rfl

@[simp] theorem onState_state (s : Step σ α) (put : σ → τ) : (s.onState put).state = put s.state := rfl

@[simp] theorem map_state (s : Step σ α) (f : α → β) : (s.map f).state = s.state := rfl

end Step

end SheetQuery
