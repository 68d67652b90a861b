import SheetQuery.Proofs.Sql.Reading

/-!
# Faults of reading

What is found before the tables are looked at is only that a text cannot go on as it does.

* `Grammar.Reads`: a reading that fails with faults of reading only.  It is a class, so that a reading has it as soon as
  its parts do.
* `readStatement_error`: a text that cannot be read has a fault of reading.
* `compileFirst_error`: where the fault of a text comes from that cannot be prepared.
-/

namespace SheetQuery.Sql

/-- The fault tells that a text goes on as no statement does. -/
def Fault.OfReading : Fault → Prop
  | .nearToken _ | .unrecognizedToken _ | .incompleteInput => True
  | _ => False

theorem bind_eq_error {ε α β : Type} {x : Except ε α} {f : α → Except ε β} {e : ε} :
    (x >>= f) = .error e ↔ x = .error e ∨ ∃ a, x = .ok a ∧ f a = .error e := by
  cases x with
  | error e' => simp [bind, Except.bind]
  | ok a => simp [bind, Except.bind]

theorem ofReading_unexpected (l : Lexeme) : l.unexpected.fault.OfReading := by
  unfold Lexeme.unexpected
  split <;> trivial

namespace Grammar

variable {α β : Type}

/-- The reading fails with faults of reading only. -/
class Reads (r : Reading α) : Prop where
  ofReading : ∀ ls e, r ls = .error e → e.fault.OfReading

-- the size that the search allows for is used up by the longest readings
set_option synthInstance.maxSize 1000000

/-! ### The parts of readings -/

section

variable {x y : Reading α} {f : α → Reading β}

instance (a : α) : Reads (pure a) := ⟨fun _ _ h => nomatch h⟩

instance reads_bind [hx : Reads x] [hf : ∀ a, Reads (f a)] : Reads (x >>= f) := by
  refine ⟨fun ls e h => ?_⟩
  change (x ls >>= fun p => f p.1 p.2) = _ at h
  rcases bind_eq_error.1 h with hread | ⟨p, -, h⟩
  · exact hx.ofReading ls e hread
  · exact (hf p.1).ofReading p.2 e h

instance {c : Prop} [Decidable c] [Reads x] [Reads y] : Reads (if c then x else y) := by
  split <;> infer_instance

instance : Reads (get : Reading (List Lexeme)) := ⟨fun _ _ h => nomatch h⟩

instance : Reads peek := ⟨fun _ _ h => nomatch h⟩

instance : Reads advance := ⟨fun _ _ h => nomatch h⟩

instance : Reads (unexpected : Reading α) := by
  refine ⟨fun _ _ h => ?_⟩
  cases h
  exact ofReading_unexpected _

theorem reads_refuse {located : Located} (h : located.fault.OfReading) : Reads (refuse located : Reading α) := by
  refine ⟨fun _ _ he => ?_⟩
  cases he
  exact h

instance (keyword : String) : Reads (acceptWord keyword) := by unfold acceptWord; infer_instance

instance (symbol : String) : Reads (acceptSymbol symbol) := by unfold acceptSymbol; infer_instance

instance (keyword : String) : Reads (expectWord keyword) := by unfold expectWord; infer_instance

instance (symbol : String) : Reads (expectSymbol symbol) := by unfold expectSymbol; infer_instance

instance : Reads name := by unfold name; infer_instance

instance [Reads x] (limit : Nat) : Reads (separated x limit) := by
  induction limit with
  | zero => unfold separated; infer_instance
  | succ limit ih => unfold separated; infer_instance

instance [Reads x] : Reads (withText x) := by unfold withText; infer_instance

instance [Reads x] (keyword : String) : Reads (clause keyword x) := by unfold clause; infer_instance

end

/-! ### Expressions -/

private instance (limit : Nat) : Reads (typeName.names limit) := by
  induction limit with
  | zero => unfold typeName.names; infer_instance
  | succ limit ih => unfold typeName.names; infer_instance

instance : Reads typeName := by
  unfold typeName
  dsimp only
  infer_instance

instance : Reads refusal := by unfold refusal; infer_instance

private theorem numberLiteral_error {l : Lexeme} {e : Located} (h : numberLiteral l = .error e) : e.fault.OfReading := by
  unfold numberLiteral at h
  dsimp only at h
  split_ifs at h
  all_goals first
    | cases h; trivial
    | split at h <;> cases h

private theorem reads_expressions (limit : Nat) : (∀ level, Reads (expressionFrom limit level)) ∧ Reads (operand limit) ∧
    (∀ function, Reads (callOf limit function)) ∧ ∀ level left, Reads (operators limit level left) := by
  induction limit with
  | zero =>
    refine ⟨fun level => ?_, ?_, fun function => ?_, fun level left => ?_⟩
    · unfold expressionFrom; infer_instance
    · unfold operand; infer_instance
    · unfold callOf; infer_instance
    · unfold operators; infer_instance
  | succ limit ih =>
    obtain ⟨hfrom, hoperand, hcall, hoperators⟩ := ih
    refine ⟨fun level => ?_, ?_, fun function => ?_, fun level left => ?_⟩
    · unfold expressionFrom; infer_instance
    · unfold operand
      refine @reads_bind _ _ _ _ inferInstance fun l => ?_
      split
      case h_1 | h_2 =>
        refine @reads_bind _ _ _ _ inferInstance fun _ => ?_
        split
        · infer_instance
        · rename_i herror
          exact reads_refuse (numberLiteral_error herror)
      all_goals infer_instance
    · unfold callOf
      dsimp only
      infer_instance
    · unfold operators
      refine @reads_bind _ _ _ _ inferInstance fun l => ?_
      split <;> infer_instance

private instance (limit level : Nat) : Reads (expressionFrom limit level) := (reads_expressions limit).1 level

private instance (limit : Nat) : Reads (operand limit) := (reads_expressions limit).2.1

instance : Reads expression := by unfold expression; infer_instance

instance : Reads expressions := by unfold expressions; infer_instance

/-! ### Queries -/

instance : Reads alias? := by unfold alias?; infer_instance

instance : Reads resultItem := by
  unfold resultItem
  refine @reads_bind _ _ _ _ inferInstance fun star => ?_
  dsimp only
  split
  · infer_instance
  · refine @reads_bind _ _ _ _ inferInstance fun ls => ?_
    split <;> infer_instance

instance : Reads tableName := by unfold tableName; infer_instance

instance : Reads orderTerm := by unfold orderTerm; infer_instance

instance (items : List ResultItem) : Reads (queryTail items) := by
  unfold queryTail
  dsimp only
  infer_instance

private theorem reads_queries (limit : Nat) : Reads (queryFrom limit) ∧ Reads (sourcesFrom limit) := by
  induction limit with
  | zero =>
    unfold queryFrom sourcesFrom
    exact ⟨inferInstance, inferInstance⟩
  | succ limit ih =>
    obtain ⟨hquery, hsources⟩ := ih
    constructor
    · unfold queryFrom
      dsimp only
      infer_instance
    · unfold sourcesFrom
      infer_instance

instance : Reads query := by
  have hquery := fun limit => (reads_queries limit).1
  unfold query
  infer_instance

/-! ### Tables and triggers -/

instance : Reads ifNotExists := by unfold ifNotExists; infer_instance

instance : Reads ifExists := by unfold ifExists; infer_instance

private instance : Reads defaultValue := by unfold defaultValue; infer_instance

private instance (limit : Nat) (column : ColumnDefinition) : Reads (columnConstraints limit column) := by
  induction limit generalizing column with
  | zero => unfold columnConstraints; infer_instance
  | succ limit ih =>
    unfold columnConstraints
    dsimp only
    infer_instance

instance : Reads columnDefinition := by unfold columnDefinition; infer_instance

private instance (limit : Nat) : Reads (columnDefinitions limit) := by
  induction limit with
  | zero => unfold columnDefinitions; infer_instance
  | succ limit ih => unfold columnDefinitions; infer_instance

instance : Reads tableHead := by unfold tableHead; infer_instance

instance : Reads tableDefinition := by unfold tableDefinition; infer_instance

private instance (limit : Nat) : Reads (triggerBody limit) := by
  induction limit with
  | zero => unfold triggerBody; infer_instance
  | succ limit ih => unfold triggerBody; infer_instance

instance : Reads triggerEvent := by unfold triggerEvent; infer_instance

instance : Reads triggerDefinition := by
  unfold triggerDefinition
  dsimp only
  infer_instance

/-! ### Statements -/

instance : Reads transactionKind := by unfold transactionKind; infer_instance

instance : Reads transactionName := by unfold transactionName; infer_instance

instance : Reads valueRows := by
  unfold valueRows
  dsimp only
  infer_instance

instance : Reads orReplace := by unfold orReplace; infer_instance

instance : Reads columnList := by unfold columnList; infer_instance

instance (replace : Bool) : Reads (insertion replace) := by unfold insertion; infer_instance

instance : Reads settingValue := by
  unfold settingValue
  dsimp only
  infer_instance

instance : Reads settingStatement := by
  unfold settingStatement
  dsimp only
  infer_instance

instance : Reads assignment := by unfold assignment; infer_instance

instance : Reads statement := by unfold statement; infer_instance

end Grammar

private theorem parseLexemes_error {ls : List Lexeme} {e : Located} (h : parseLexemes ls = .error e) :
    e.fault.OfReading := by
  rcases bind_eq_error.1 h with hstatement | ⟨⟨statement, rest⟩, -, h⟩
  · exact Grammar.Reads.ofReading _ _ hstatement
  · dsimp only at h
    split_ifs at h
    · cases h
    · cases h
    · cases h
      exact ofReading_unexpected _

/-- A text that cannot be read has a fault of reading. -/
theorem readStatement_error {sql : Text} {e : Located} (h : readStatement sql = .error e) : e.fault.OfReading := by
  unfold readStatement at h
  dsimp only at h
  split at h
  · cases h
  · rcases bind_eq_error.1 h with hparse | ⟨parsed, -, h⟩
    · exact parseLexemes_error hparse
    · cases h

/-- The fault of a statement is found in the name of the table to create, in reading or in preparing it. -/
theorem Database.compileFirst_error {db : Database} {sql : Text} {e : Error} (h : db.compileFirst sql = .error e) :
    ∃ located, e.fault = located.fault ∧ (db.checkHead sql = .error located ∨ readStatement sql = .error located ∨
      ∃ parsed, readStatement sql = .ok (some parsed) ∧ db.catalog.prepare parsed.statement = .error located) := by
  unfold compileFirst at h
  dsimp only at h
  split at h
  · cases h
  · rename_i located hcompiled
    cases h
    refine ⟨located, rfl, ?_⟩
    rcases bind_eq_error.1 hcompiled with hhead | ⟨_, -, hcompiled⟩
    · exact .inl hhead
    · rcases bind_eq_error.1 hcompiled with hread | ⟨parsed?, hread, hcompiled⟩
      · exact .inr (.inl hread)
      · cases parsed? with
        | none => cases hcompiled
        | some parsed =>
          rcases bind_eq_error.1 hcompiled with hprepare | ⟨action, -, hcompiled⟩
          · exact .inr (.inr ⟨parsed, hread, hprepare⟩)
          · cases hcompiled

/-- What stands behind the first statement of a text is what was left in reading it. -/
theorem Database.rest_of_compileFirst {db : Database} {sql rest : Text} {first : Option Prepared}
    (h : db.compileFirst sql = .ok (first, rest)) :
    rest = [] ∨ ∃ parsed, readStatement sql = .ok (some parsed) ∧ rest = parsed.rest := by
  unfold compileFirst at h
  dsimp only at h
  split at h
  · rename_i hcompiled
    cases h
    obtain ⟨_, -, hcompiled⟩ := bind_eq_ok.1 hcompiled
    obtain ⟨parsed?, hread, hcompiled⟩ := bind_eq_ok.1 hcompiled
    cases parsed? with
    | none =>
      cases hcompiled
      exact .inl rfl
    | some parsed =>
      obtain ⟨action, -, hcompiled⟩ := bind_eq_ok.1 hcompiled
      cases hcompiled
      exact .inr ⟨parsed, hread, rfl⟩
  · cases h

end SheetQuery.Sql
