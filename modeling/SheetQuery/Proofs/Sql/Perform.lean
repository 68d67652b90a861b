import SheetQuery.Proofs.Sql.Reading

/-!
# What an action can do

An action that neither begins nor ends a transaction leaves the tables as they are, changes them, or undoes the
transaction that it runs in.

* `Catalog.becomes_of_prepare`: which action a statement is prepared to.
* `Table.RowSteps`: what changing rows one after the other makes of a table.
* `Action.Yields`: how an action changes the tables, if it does.
* `Action.OnRows`: the actions that insert or delete rows.
* `modifyRows_cases`, `define_cases`: changes are made unless there is no room for them; `modifyRows_eq_ok` and
  `define_eq_ok` say what changes that have been made are.
* `perform_cases`: all that an action without transactions and settings can do to the database.
* `execute_cases`: behind a statement the database is as before, or as the action of the statement leaves it.
* `Throughout.perform`: what all tables that an action yields have in common holds behind it, also if a transaction is
  undone.
* `before_perform`: the tables that a transaction can go back to.
-/

namespace SheetQuery.Sql

/-! ### Rows -/

namespace Table

/-- A row is put in, gets other values, or is taken out. -/
inductive RowStep (t : Table) : Table → Prop
  | insert {replace : Bool} {values : List Value} {t' : Table} {row : Row}
      (h : t.insertRow replace values = .ok (t', row)) : RowStep t t'
  | update {old : Row} {values : List Value} {t' : Table} {row : Row}
      (h : t.updateRow old values = .ok (t', row)) : RowStep t t'
  | delete (number : Int) : RowStep t { t with rows := t.rows.filter (·.number != number) }

/-- Rows are changed one after the other. -/
inductive RowSteps (t : Table) : Table → Prop
  | refl : RowSteps t t
  | tail {t' t'' : Table} (h : RowSteps t t') (hstep : t'.RowStep t'') : RowSteps t t''

variable {t t' t'' : Table}

private theorem insertRow_eq_ok {replace : Bool} {values : List Value} {row : Row}
    (h : t.insertRow replace values = .ok (t', row)) : ∃ rows, t' = { t with rows := rows } := by
  obtain ⟨asked, -, h⟩ := bind_eq_ok.1 h
  dsimp only at h
  split at h
  · cases h
  · split at h
    · exact ⟨_, (congrArg Prod.fst (pure_eq_ok.1 h)).symm⟩
    · split at h
      · cases h
      · split at h
        · cases h
        · exact ⟨_, (congrArg Prod.fst (pure_eq_ok.1 h)).symm⟩

private theorem updateRow_eq_ok {old row : Row} {values : List Value}
    (h : t.updateRow old values = .ok (t', row)) : ∃ rows, t' = { t with rows := rows } := by
  obtain ⟨number, -, h⟩ := bind_eq_ok.1 h
  dsimp only at h
  split at h
  · cases h
  · split at h
    · cases h
    · split at h
      · cases h
      · split at h
        · exact ⟨_, (congrArg Prod.fst (pure_eq_ok.1 h)).symm⟩
        · exact ⟨_, (congrArg Prod.fst (pure_eq_ok.1 h)).symm⟩

/-- Changing rows leaves the name and the columns of the table as they are. -/
theorem RowStep.eq (h : t.RowStep t') : ∃ rows, t' = { t with rows := rows } := by
  cases h with
  | insert h => exact insertRow_eq_ok h
  | update h => exact updateRow_eq_ok h
  | delete number => exact ⟨_, rfl⟩

theorem RowSteps.eq (h : t.RowSteps t') : ∃ rows, t' = { t with rows := rows } := by
  induction h with
  | refl => exact ⟨_, rfl⟩
  | tail _ hstep ih =>
    obtain ⟨rows, rfl⟩ := ih
    obtain ⟨rows', rfl⟩ := hstep.eq
    exact ⟨rows', rfl⟩

theorem RowSteps.trans (h : t.RowSteps t') (h' : t'.RowSteps t'') : t.RowSteps t'' := by
  induction h' with
  | refl => exact h
  | tail _ hstep ih => exact ih.tail hstep

end Table

namespace Progress

/-- Where the changes of rows have come to, also if they stopped. -/
def reached : Except Stop Progress → Progress
  | .ok p => p
  | .error stop => stop.progress

private theorem reached_changeRow {triggers : List ActiveTrigger} {members : List Value}
    {change : Except Fault (Table × List Value)} {p : Progress}
    (h : ∀ t after, change = .ok (t, after) → p.table.RowStep t) :
    p.table.RowSteps (reached (p.changeRow triggers members change)).table := by
  unfold changeRow
  split
  · exact .refl
  · exact .refl
  · split
    · exact .refl
    · split
      · exact .tail .refl (h _ _ rfl)
      · exact .tail .refl (h _ _ rfl)
      · exact .refl

theorem reached_insert (triggers : List ActiveTrigger) (replace : Bool) (p : Progress) (values : List Value) :
    p.table.RowSteps (reached (insert triggers replace p values)).table := by
  refine reached_changeRow fun t after h => ?_
  obtain ⟨⟨t', row⟩, hrow, h⟩ := map_eq_ok h
  cases h
  exact .insert hrow

theorem reached_update (triggers : List ActiveTrigger) (p : Progress) (change : Row × List Value) :
    p.table.RowSteps (reached (update triggers p change)).table := by
  refine reached_changeRow fun t after h => ?_
  obtain ⟨⟨t', row⟩, hrow, h⟩ := map_eq_ok h
  cases h
  exact .update hrow

theorem reached_delete (triggers : List ActiveTrigger) (p : Progress) (old : Row) :
    p.table.RowSteps (reached (delete triggers p old)).table := by
  unfold delete
  refine reached_changeRow fun t after h => ?_
  cases h
  exact .delete old.number

theorem reached_all {α : Type} {one : Progress → α → Except Stop Progress}
    (h : ∀ (p : Progress) (a : α), p.table.RowSteps (reached (one p a)).table) (l : List α) (p : Progress) :
    p.table.RowSteps (reached (all one l p)).table := by
  induction l generalizing p with
  | nil => exact .refl
  | cons a l ih =>
    have hone := h p a
    rw [all]
    cases hp : one p a with
    | error stop =>
      -- the rest is not changed
      rw [hp] at hone
      exact hone
    | ok p' =>
      rw [hp] at hone
      exact hone.trans (ih p')

end Progress

/-! ### Schemas -/

namespace Catalog

variable {c : Catalog}

theorem schema_modify (c : Catalog) (b b' : Bool) (f : Schema → Schema) :
    (c.modify b f).schema b' = if b' = b then f (c.schema b') else c.schema b' := by
  cases b <;> cases b' <;> rfl

/-- What holds of both schemas holds behind a change of one of them that does not break it. -/
theorem forall_schema_modify {q : Schema → Prop} (h : ∀ b, q (c.schema b)) (temporary : Bool) {f : Schema → Schema}
    (hf : q (c.schema temporary) → q (f (c.schema temporary))) (b : Bool) : q ((c.modify temporary f).schema b) := by
  rw [schema_modify]
  split
  · rename_i hb
    rw [hb]
    exact hf (h temporary)
  · exact h b

end Catalog

/-! ### Actions -/

namespace Action

/-- The action begins and ends no transaction and is no setting. -/
def Ordinary : Action → Prop
  | setting .. | begin _ | commit | rollback => False
  | _ => True

/-- The action can turn the tables of `c` into those of `c'`. -/
def Yields (c c' : Catalog) : Action → Prop
  | insert temporary name .. | update temporary name .. | delete temporary name .. =>
    ∃ t t', (c.schema temporary).find? name = some t ∧ t.RowSteps t' ∧ c' = c.modify temporary (·.replace t')
  | createTable temporary t => c' = c.modify temporary (·.create t)
  | dropTable temporary name => c' = c.modify temporary (·.drop name)
  | renameTable temporary name newName => c' = c.modify temporary (·.rename name newName)
  | createTrigger temporary d => c' = c.modify temporary fun s => { s with triggers := s.triggers ++ [d] }
  | dropTrigger name =>
    c' = ⟨{ c.main with triggers := c.main.triggers.filter fun d => !Text.sameName d.name name },
      { c.temp with triggers := c.temp.triggers.filter fun d => !Text.sameName d.name name }⟩
  | _ => False

end Action

/-- The statement begins and ends no transaction and is no setting. -/
def Statement.Ordinary : Statement → Prop
  | setting .. | begin _ | commit | rollback => False
  | _ => True

/-- The actions that a statement can be prepared to. -/
def Statement.Becomes (c : Catalog) : Statement → Action → Prop
  | select q, a => ∃ result, q.run c = .ok result ∧ a = .rows result
  | insert .., a => ∃ temporary table replace places rows triggers,
    a = .insert temporary table replace places rows triggers
  | update .., a => ∃ temporary table changes condition triggers, a = .update temporary table changes condition triggers
  | delete .., a => ∃ temporary table condition triggers, a = .delete temporary table condition triggers
  | createTable d, a => a = .nothing ∨ ∃ temporary, a = .createTable temporary d.table
  | dropTable .., a => a = .nothing ∨ ∃ temporary table, a = .dropTable temporary table
  | renameTable _ newName, a => ∃ temporary table, a = .renameTable temporary table newName
  | createTrigger _, a => a = .nothing ∨ ∃ temporary d, a = .createTrigger temporary d
  | dropTrigger name _, a => a = .nothing ∨ a = .dropTrigger name
  | setting name value, a => a = .setting name value
  | begin immediate, a => a = .begin immediate
  | commit, a => a = .commit
  | rollback, a => a = .rollback

theorem Catalog.becomes_of_prepare {c : Catalog} {s : Statement} {a : Action} (h : c.prepare s = .ok a) :
    s.Becomes c a := by
  cases s with
  | select q =>
    obtain ⟨result, hq, h⟩ := map_eq_ok h
    exact ⟨result, hq, h.symm⟩
  | insert name replace columns rows =>
    obtain ⟨⟨temporary, t⟩, -, h⟩ := bind_eq_ok.1 h
    obtain ⟨triggers, -, h⟩ := bind_eq_ok.1 h
    obtain ⟨places, -, h⟩ := bind_eq_ok.1 h
    obtain ⟨terms, -, h⟩ := bind_eq_ok.1 h
    dsimp only at h
    split_ifs at h
    · exact ⟨_, _, _, _, _, _, (pure_eq_ok.1 h).symm⟩
    · exact ⟨_, _, _, _, _, _, (pure_eq_ok.1 h).symm⟩
  | update name changes condition =>
    obtain ⟨⟨temporary, t⟩, -, h⟩ := bind_eq_ok.1 h
    obtain ⟨triggers, -, h⟩ := bind_eq_ok.1 h
    obtain ⟨changes, -, h⟩ := bind_eq_ok.1 h
    obtain ⟨condition, -, h⟩ := bind_eq_ok.1 h
    exact ⟨_, _, _, _, _, (pure_eq_ok.1 h).symm⟩
  | delete name condition =>
    obtain ⟨⟨temporary, t⟩, -, h⟩ := bind_eq_ok.1 h
    obtain ⟨triggers, -, h⟩ := bind_eq_ok.1 h
    obtain ⟨condition, -, h⟩ := bind_eq_ok.1 h
    exact ⟨_, _, _, _, (pure_eq_ok.1 h).symm⟩
  | createTable d =>
    obtain ⟨temporary, -, h⟩ := bind_eq_ok.1 h
    cases temporary with
    | none => exact .inl (pure_eq_ok.1 h).symm
    | some temporary =>
      obtain ⟨-, -, h⟩ := bind_eq_ok.1 h
      exact .inr ⟨temporary, (pure_eq_ok.1 h).symm⟩
  | dropTable name ifExists =>
    simp only [prepare] at h
    split at h
    · exact .inr ⟨_, _, (Except.ok.inj h).symm⟩
    · split_ifs at h
      exact .inl (Except.ok.inj h).symm
  | renameTable name newName =>
    obtain ⟨⟨temporary, t⟩, -, h⟩ := bind_eq_ok.1 h
    dsimp only at h
    split_ifs at h
    exact ⟨_, _, (pure_eq_ok.1 h).symm⟩
  | createTrigger d =>
    obtain ⟨⟨temporary, t⟩, -, h⟩ := bind_eq_ok.1 h
    dsimp only at h
    split_ifs at h
    · exact .inl (pure_eq_ok.1 h).symm
    · obtain ⟨trigger, -, h⟩ := bind_eq_ok.1 h
      exact .inr ⟨_, _, (pure_eq_ok.1 h).symm⟩
  | dropTrigger name ifExists =>
    simp only [prepare] at h
    split_ifs at h
    · exact .inr (Except.ok.inj h).symm
    · exact .inl (Except.ok.inj h).symm
  | setting | begin | commit | rollback => exact (Except.ok.inj h).symm

/-- Preparing a statement keeps it away from transactions and settings. -/
theorem Catalog.ordinary_of_prepare {c : Catalog} {s : Statement} {a : Action} (h : c.prepare s = .ok a)
    (hs : s.Ordinary) : a.Ordinary := by
  have hbecomes := becomes_of_prepare h
  cases s with
  | select => obtain ⟨_, -, rfl⟩ := hbecomes; trivial
  | insert => obtain ⟨_, _, _, _, _, _, rfl⟩ := hbecomes; trivial
  | update => obtain ⟨_, _, _, _, _, rfl⟩ := hbecomes; trivial
  | delete => obtain ⟨_, _, _, _, rfl⟩ := hbecomes; trivial
  | createTable => obtain rfl | ⟨_, rfl⟩ := hbecomes <;> trivial
  | dropTable => obtain rfl | ⟨_, _, rfl⟩ := hbecomes <;> trivial
  | renameTable => obtain ⟨_, _, rfl⟩ := hbecomes; trivial
  | createTrigger => obtain rfl | ⟨_, _, rfl⟩ := hbecomes <;> trivial
  | dropTrigger => obtain rfl | rfl := hbecomes <;> trivial
  | setting | begin | commit | rollback => exact hs.elim

/-- The action inserts or deletes rows. -/
def Action.OnRows : Action → Prop
  | insert .. | delete .. => True
  | _ => False

/-- The statement inserts or deletes rows. -/
def Statement.OnRows : Statement → Prop
  | insert .. | delete .. => True
  | _ => False

theorem Action.OnRows.ordinary {a : Action} (h : a.OnRows) : a.Ordinary := by
  cases a <;> trivial

/-- Inserting and deleting rows puts a table in its place again. -/
theorem Action.OnRows.of_yields {a : Action} (h : a.OnRows) {c c' : Catalog} (hc : a.Yields c c') :
    ∃ temporary t, c' = c.modify temporary (·.replace t) := by
  cases a with
  | insert temporary table | delete temporary table =>
    obtain ⟨t, t', -, -, hc⟩ := hc
    exact ⟨temporary, t', hc⟩
  | rows | update | createTable | dropTable | renameTable | createTrigger | dropTrigger | setting | begin | commit
    | rollback | nothing => exact h.elim

theorem Catalog.onRows_of_prepare {c : Catalog} {s : Statement} {a : Action} (h : c.prepare s = .ok a)
    (hs : s.OnRows) : a.OnRows := by
  have hbecomes := becomes_of_prepare h
  cases s with
  | insert => obtain ⟨_, _, _, _, _, _, rfl⟩ := hbecomes; trivial
  | delete => obtain ⟨_, _, _, _, rfl⟩ := hbecomes; trivial
  | select | update | createTable | dropTable | renameTable | createTrigger | dropTrigger | setting | begin | commit
    | rollback => exact hs.elim

namespace Database

section

variable {db db' : Database} {temporary : Bool} {name : Text} {change : Table → Except Stop Progress} {c : Catalog}
  {outcome : Outcome}

/-- Without a limit there is room. -/
theorem ne_noPageLimit_of_fits (h : ¬ db.fits c) : db.pageLimit ≠ noPageLimit := fun hlimit =>
  h (by rw [fits, hlimit, beq_self_eq_true, Bool.true_or])

/-- Rows that can be changed are changed, unless the database has a limit and is full. -/
theorem modifyRows_cases {t : Table} (hfind : (db.catalog.schema temporary).find? name = some t)
    (hwrite : db.readOnly = false) {p : Progress} (hchange : change t = .ok p) :
    db.modifyRows temporary name change =
        ({ db with catalog := db.catalog.modify temporary (·.replace p.table), changes := p.changed },
          .ok (.affected p.changed)) ∨
      db.pageLimit ≠ noPageLimit ∧ ∃ db', db.modifyRows temporary name change = (db', .error .full) := by
  unfold modifyRows
  rw [if_neg (Bool.eq_false_iff.1 hwrite), hfind]
  dsimp only
  rw [hchange, settle]
  dsimp only
  split
  · exact .inl rfl
  · exact .inr ⟨ne_noPageLimit_of_fits ‹_›, _, rfl⟩

/-- Rows that have been changed are those of a table that was found, and are counted. -/
theorem modifyRows_eq_ok (h : db.modifyRows temporary name change = (db', .ok outcome)) :
    db.readOnly = false ∧ ∃ t p, (db.catalog.schema temporary).find? name = some t ∧ change t = .ok p ∧
      db' = { db with catalog := db.catalog.modify temporary (·.replace p.table), changes := p.changed } ∧
      outcome = .affected p.changed := by
  have hwrite : db.readOnly = false := by
    rw [← Bool.not_eq_true]
    intro hreadOnly
    rw [modifyRows, if_pos hreadOnly] at h
    cases h
  refine ⟨hwrite, ?_⟩
  cases hfind : (db.catalog.schema temporary).find? name with
  | none =>
    rw [modifyRows, if_neg (Bool.eq_false_iff.1 hwrite), hfind] at h
    cases h
  | some t =>
    cases hchange : change t with
    | ok p =>
      rcases modifyRows_cases hfind hwrite hchange with hdb | ⟨-, db₁, hdb⟩
      · cases hdb.symm.trans h
        exact ⟨t, p, rfl, hchange, rfl, rfl⟩
      · cases hdb.symm.trans h
    | error stop =>
      rw [modifyRows, if_neg (Bool.eq_false_iff.1 hwrite), hfind] at h
      dsimp only at h
      rw [hchange, settle] at h
      dsimp only at h
      split at h <;> cases h

/-- Tables are defined, unless the database has a limit and is full. -/
theorem define_cases (hwrite : db.readOnly = false) (c : Catalog) :
    db.define c = ({ db with catalog := c }, .ok (.affected db.changes)) ∨
      db.pageLimit ≠ noPageLimit ∧ db.define c = (db, .error .full) := by
  unfold define
  rw [if_neg (Bool.eq_false_iff.1 hwrite)]
  by_cases hfits : db.fits c
  · rw [hfits]
    exact .inl rfl
  · rw [Bool.eq_false_iff.2 hfits]
    exact .inr ⟨ne_noPageLimit_of_fits hfits, rfl⟩

theorem define_eq_ok (h : db.define c = (db', .ok outcome)) :
    db.readOnly = false ∧ db' = { db with catalog := c } ∧ outcome = .affected db.changes := by
  have hwrite : db.readOnly = false := by
    rw [← Bool.not_eq_true]
    intro hreadOnly
    rw [define, if_pos hreadOnly] at h
    cases h
  rcases define_cases hwrite c with hdb | ⟨-, hdb⟩
  · cases hdb.symm.trans h
    exact ⟨hwrite, rfl, rfl⟩
  · cases hdb.symm.trans h

end

/-- What a statement can do to a database: it leaves the tables as they are, turns them into other ones, or
fails and undoes the transaction. -/
def Moves (db : Database) (yields : Catalog → Prop) (r : Database × Except Fault Outcome) : Prop :=
  (∃ n, r.1 = { db with changes := n }) ∨
    (∃ c n, yields c ∧ r.1 = { db with catalog := c, changes := n }) ∨
    r.1 = db.undone ∧ ∃ fault, r.2 = .error fault

private theorem moves_settle (db : Database) (temporary : Bool) (result : Except Stop Progress) :
    db.Moves (fun c => c = db.catalog.modify temporary (·.replace (Progress.reached result).table))
      (db.settle temporary result) := by
  unfold settle
  cases result with
  | ok p =>
    dsimp only
    split
    · exact .inr (.inl ⟨_, _, rfl, rfl⟩)
    · exact .inr (.inr ⟨rfl, _, rfl⟩)
  | error stop =>
    dsimp only
    split
    · exact .inr (.inl ⟨_, _, rfl, rfl⟩)
    · exact .inr (.inr ⟨rfl, _, rfl⟩)
    · exact .inl ⟨_, rfl⟩

private theorem moves_modifyRows (db : Database) (temporary : Bool) (name : Text)
    {change : Table → Except Stop Progress}
    (h : ∀ t : Table, t.RowSteps (Progress.reached (change t)).table) :
    db.Moves (fun c => ∃ t t', (db.catalog.schema temporary).find? name = some t ∧ t.RowSteps t' ∧
      c = db.catalog.modify temporary (·.replace t'))
      (db.modifyRows temporary name change) := by
  unfold modifyRows
  split
  · exact .inl ⟨_, rfl⟩
  · cases ht : (db.catalog.schema temporary).find? name with
    | none => exact .inl ⟨db.changes, rfl⟩
    | some t =>
      rcases moves_settle db temporary (change t) with hdb | ⟨c, n, hc, hdb⟩ | hdb
      · exact .inl hdb
      · exact .inr (.inl ⟨c, n, ⟨t, _, rfl, h t, hc⟩, hdb⟩)
      · exact .inr (.inr hdb)

private theorem moves_define (db : Database) (c : Catalog) : db.Moves (· = c) (db.define c) := by
  unfold define
  split
  · exact .inl ⟨db.changes, rfl⟩
  · split
    · exact .inl ⟨db.changes, rfl⟩
    · exact .inr (.inl ⟨c, db.changes, rfl, rfl⟩)

/-- An action without transactions and settings leaves the tables as they are, yields other ones, or fails and
undoes the transaction. -/
theorem perform_cases (db : Database) (parameters : List Value) {a : Action} (h : a.Ordinary) :
    db.Moves (a.Yields db.catalog) (db.perform parameters a) := by
  cases a with
  | rows result => exact .inl ⟨db.changes, rfl⟩
  | nothing => exact .inl ⟨db.changes, rfl⟩
  | insert temporary name replace places rows triggers =>
    exact moves_modifyRows db temporary name fun t => Progress.reached_all (Progress.reached_insert triggers replace) _ ⟨t, 0⟩
  | update temporary name changes condition triggers =>
    exact moves_modifyRows db temporary name fun t => Progress.reached_all (Progress.reached_update triggers) _ ⟨t, 0⟩
  | delete temporary name condition triggers =>
    exact moves_modifyRows db temporary name fun t => Progress.reached_all (Progress.reached_delete triggers) _ ⟨t, 0⟩
  | createTable temporary t => exact moves_define db _
  | dropTable temporary name => exact moves_define db _
  | renameTable temporary name newName => exact moves_define db _
  | createTrigger temporary d => exact moves_define db _
  | dropTrigger name => exact moves_define db _
  | setting | begin | commit | rollback => exact h.elim

theorem performPrepared_eq_ok {db db' : Database} {p : Prepared} {parameters : List Value} {outcome : Outcome}
    (h : db.performPrepared p parameters = (db', .ok outcome)) :
    db.perform parameters p.action = (db', .ok outcome) := by
  obtain ⟨hstate, hanswer⟩ := Prod.ext_iff.1 h
  refine Prod.ext hstate ?_
  cases hresult : (db.perform parameters p.action).2 with
  | error fault =>
    simp only [performPrepared, hresult] at hanswer
    cases hanswer
  | ok outcome' =>
    simp only [performPrepared, hresult] at hanswer
    exact congrArg _ (Except.ok.inj hanswer)

/-- Behind a statement the database is as it was before, or as the action of the statement leaves it. -/
theorem execute_cases (db : Database) (sql : Text) (parameters : List Value) :
    (db.execute sql parameters).1 = db ∨ ∃ p, db.compile sql = .ok (some p) ∧
      (db.execute sql parameters).1 = (db.perform parameters p.action).1 := by
  unfold execute
  split
  · exact .inl rfl
  · exact .inl rfl
  · split
    · exact .inr ⟨_, ‹_›, rfl⟩
    · exact .inl rfl

/-- A statement that did not fail was read, prepared and performed. -/
theorem execute_eq_ok {db db' : Database} {sql : Text} {parameters : List Value} {outcome : Outcome}
    (h : db.execute sql parameters = (db', .ok outcome)) :
    ∃ p, db.compile sql = .ok (some p) ∧ p.parameters = parameters.length ∧
      db.perform parameters p.action = (db', .ok outcome) := by
  unfold execute at h
  split at h
  · cases h
  · cases h
  · split at h
    · exact ⟨_, ‹_›, ‹_›, performPrepared_eq_ok h⟩
    · cases h

/-- Behind an action that does not fail, the tables are those of before or such as it yields. -/
theorem kept_of_perform {p : Catalog → Prop} {db db' : Database} {parameters : List Value} {outcome : Outcome}
    {a : Action} (ha : a.Ordinary) (hp : ∀ c, a.Yields db.catalog c → p c) (h : p db.catalog)
    (hdb : db.perform parameters a = (db', .ok outcome)) : p db'.catalog := by
  rcases perform_cases db parameters ha with ⟨n, h'⟩ | ⟨c, n, hc, h'⟩ | ⟨-, fault, hfault⟩
  · rw [hdb] at h'
    cases h'
    exact h
  · rw [hdb] at h'
    cases h'
    exact hp c hc
  · rw [hdb] at hfault
    cases hfault

/-- The tables are of a kind, now and if the transaction is undone. -/
structure Throughout (p : Catalog → Prop) (db : Database) : Prop where
  now : p db.catalog
  before : ∀ c, db.before = some c → p c

namespace Throughout

variable {p : Catalog → Prop} {db : Database}

theorem undone (h : db.Throughout p) : db.undone.Throughout p := by
  refine ⟨?_, fun c hc => nomatch hc⟩
  cases hbefore : db.before with
  | none =>
    simp only [Database.undone, hbefore, Option.getD_none]
    exact h.now
  | some c =>
    simp only [Database.undone, hbefore, Option.getD_some]
    exact h.before c hbefore

/-- An action keeps the tables of the kind if those that it yields are, whatever becomes of the transaction. -/
theorem perform (h : db.Throughout p) (parameters : List Value) {a : Action} (ha : ∀ c, a.Yields db.catalog c → p c) :
    (db.perform parameters a).1.Throughout p := by
  by_cases hordinary : a.Ordinary
  · rcases perform_cases db parameters hordinary with ⟨n, hdb⟩ | ⟨c, n, hc, hdb⟩ | ⟨hdb, -⟩
    · rw [hdb]
      exact ⟨h.now, h.before⟩
    · rw [hdb]
      exact ⟨ha c hc, h.before⟩
    · rw [hdb]
      exact h.undone
  · cases a with
    | setting setting value =>
      have hlimit : (db.setPageLimit value).Throughout p := by
        unfold setPageLimit
        split
        · split
          · exact h
          · exact ⟨h.now, h.before⟩
        · exact h
      cases setting with
      | readOnly => cases value <;> exact ⟨h.now, h.before⟩
      | pageLimit => exact hlimit
      | unknown => exact h
    | begin immediate =>
      simp only [Database.perform]
      split_ifs
      · exact h
      · exact h
      · -- what the transaction would be undone to are the tables of now
        refine ⟨h.now, fun c hc => ?_⟩
        rw [← Option.some.inj hc]
        exact h.now
    | commit =>
      simp only [Database.perform]
      split_ifs
      · exact ⟨h.now, fun c hc => nomatch hc⟩
      · exact h
    | rollback =>
      simp only [Database.perform]
      split
      · rename_i c hbefore
        exact ⟨h.before c hbefore, fun c hc => nomatch hc⟩
      · exact h
    | rows | insert | update | delete | createTable | dropTable | renameTable | createTrigger | dropTrigger | nothing =>
      exact absurd trivial hordinary

end Throughout

/-- The tables to go back to are those of before, or those that a transaction begins with. -/
theorem before_perform (db : Database) (parameters : List Value) (a : Action) :
    (db.perform parameters a).1.before = none ∨ (db.perform parameters a).1.before = db.before ∨
      (db.perform parameters a).1.before = some db.catalog := by
  by_cases hordinary : a.Ordinary
  · rcases perform_cases db parameters hordinary with ⟨n, hdb⟩ | ⟨c, n, -, hdb⟩ | ⟨hdb, -⟩
    · exact .inr (.inl (by rw [hdb]))
    · exact .inr (.inl (by rw [hdb]))
    · exact .inl (by rw [hdb]; rfl)
  · cases a with
    | setting setting value =>
      right
      left
      cases setting with
      | readOnly => cases value <;> rfl
      | pageLimit =>
        simp only [Database.perform, setPageLimit]
        split
        · split <;> rfl
        · rfl
      | unknown => rfl
    | begin immediate =>
      simp only [Database.perform]
      split_ifs
      · exact .inr (.inl rfl)
      · exact .inr (.inl rfl)
      · exact .inr (.inr rfl)
    | commit =>
      simp only [Database.perform]
      split_ifs
      · exact .inl rfl
      · exact .inr (.inl rfl)
    | rollback =>
      simp only [Database.perform]
      split
      · exact .inl rfl
      · exact .inr (.inl rfl)
    | rows | insert | update | delete | createTable | dropTable | renameTable | createTrigger | dropTrigger | nothing =>
      exact absurd trivial hordinary

end Database

end SheetQuery.Sql
