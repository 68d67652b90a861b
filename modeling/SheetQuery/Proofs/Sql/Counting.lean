import Mathlib.Data.List.Forall2
import Mathlib.Data.List.Perm.Subperm
import SheetQuery.Proofs.Sql.Numbering

/-!
# How many rows a statement changes

A statement that changes rows counts those that it puts in, gives other values or takes out.  Rows that a trigger has
passed over are not among them.  Every other statement leaves the count of the last one as it is.

* `Table.admitsInsert`, `Table.admitsUpdate`, `Table.admitsDelete`: no trigger has the row passed over.
* `Progress.changeRow_eq_ok`: what becomes of one row.
* `Progress.all_insert`, `Progress.all_update`, `Progress.all_delete_ok`: the rows of a table when many are changed, and
  their count.
* `Action.Changes`: an action has changed that many rows; `Database.perform_counts`: it has, if it counts rows.
* `Database.perform_counts_unique`: equal tables are changed in equally many rows.
* `Database.perform_uncounted`: other actions leave the count of the last one, and say it again.
-/

namespace SheetQuery.Sql

open Database (placeValues selectedRows assigned)

/-! ### Rows that are passed over -/

/-- No trigger that fires before the change has the row passed over. -/
def ActiveTrigger.letsThrough (triggers : List ActiveTrigger) (members : List Value) : Bool :=
  (firstRefusal triggers true members).all (·.1 != .ignore)

namespace Table

/-- The row is put in, if no fault stops that. -/
def admitsInsert (t : Table) (triggers : List ActiveTrigger) (values : List Value) : Bool :=
  ActiveTrigger.letsThrough triggers ((Value.integer (-1) :: t.stored values) ++ Progress.noRow t)

/-- The row gets other values, if no fault stops that. -/
def admitsUpdate (t : Table) (triggers : List ActiveTrigger) (change : Row × List Value) : Bool :=
  ActiveTrigger.letsThrough triggers ((Value.integer change.1.number :: t.stored change.2) ++ change.1.members)

/-- The row is taken out. -/
def admitsDelete (t : Table) (triggers : List ActiveTrigger) (old : Row) : Bool :=
  ActiveTrigger.letsThrough triggers (Progress.noRow t ++ old.members)

end Table

namespace Progress

variable {triggers : List ActiveTrigger} {p p' : Progress}

/-- A row is passed over, or it is changed and counted. -/
theorem changeRow_eq_ok {members : List Value} {change : Except Fault (Table × List Value)}
    (h : p.changeRow triggers members change = .ok p') :
    ActiveTrigger.letsThrough triggers members = false ∧ p' = p ∨
      ActiveTrigger.letsThrough triggers members = true ∧ ∃ t after, change = .ok (t, after) ∧ p' = p.advance t := by
  unfold changeRow at h
  unfold ActiveTrigger.letsThrough
  split at h
  · rename_i hrefusal
    rw [hrefusal]
    exact .inl ⟨rfl, (Except.ok.inj h).symm⟩
  · cases h
  · rename_i hrefusal
    rw [hrefusal]
    refine .inr ⟨rfl, ?_⟩
    split at h
    · cases h
    · split at h
      · exact ⟨_, _, rfl, (Except.ok.inj h).symm⟩
      · exact ⟨_, _, rfl, (Except.ok.inj h).symm⟩
      · cases h

theorem all_cons_eq_ok {α : Type} {one : Progress → α → Except Stop Progress} {a : α} {l : List α}
    (h : all one (a :: l) p = .ok p') : ∃ mid, one p a = .ok mid ∧ all one l mid = .ok p' := by
  rw [all] at h
  split at h
  · exact ⟨_, ‹_›, h⟩
  · cases h

/-! ### Insertions -/

private theorem insert_eq_ok {replace : Bool} {values : List Value} (h : insert triggers replace p values = .ok p') :
    p.table.admitsInsert triggers values = false ∧ p' = p ∨
      p.table.admitsInsert triggers values = true ∧ ∃ row kept, kept.Sublist p.table.rows ∧
        (replace = false → kept = p.table.rows) ∧
        row.values = p.table.withNumber row.number (p.table.stored values) ∧
        p' = p.advance { p.table with rows := Table.insertByNumber row kept } := by
  rcases changeRow_eq_ok h with hskip | ⟨hthrough, t, after, hchange, hp⟩
  · exact .inl hskip
  · obtain ⟨⟨t', row⟩, hrow, hpair⟩ := map_eq_ok hchange
    obtain ⟨kept, hkept, hall, -, hvalues, rfl⟩ := Table.insertRow_eq hrow
    cases hpair
    exact .inr ⟨hthrough, row, kept, hkept, hall, hvalues, hp⟩

/-- The rows that are put in are those that no trigger has passed over, and they are counted.  Nothing else is put in, and
unless rows give way nothing is taken out. -/
theorem all_insert {replace : Bool} {l : List (List Value)} (h : all (insert triggers replace) l p = .ok p') :
    ∃ put, List.Forall₂ (fun values r => r.values = p.table.withNumber r.number (p.table.stored values))
        (l.filter (p.table.admitsInsert triggers)) put ∧ p'.changed = p.changed + put.length ∧
      p'.table.rows.Subperm (put ++ p.table.rows) ∧ (replace = false → p'.table.rows.Perm (put ++ p.table.rows)) := by
  induction l generalizing p with
  | nil =>
    cases h
    exact ⟨[], .nil, rfl, .refl _, fun _ => .refl _⟩
  | cons values l ih =>
    obtain ⟨mid, hone, hrest⟩ := all_cons_eq_ok h
    rcases insert_eq_ok hone with ⟨hskip, rfl⟩ | ⟨hthrough, row, kept, hkept, hall, hvalues, hmid⟩
    · rw [List.filter_cons_of_neg (Bool.eq_false_iff.1 hskip)]
      exact ih hrest
    · obtain ⟨put, hput, hcount, hsub, hperm⟩ := ih hrest
      have hinserted : (put ++ mid.table.rows).Perm (row :: (put ++ kept)) := by
        rw [hmid]
        exact ((Table.perm_insertByNumber row kept).append_left put).trans List.perm_middle
      have hmidCount : mid.changed = p.changed + 1 := congrArg Progress.changed hmid
      rw [hmid] at hput
      rw [List.filter_cons_of_pos hthrough]
      refine ⟨row :: put, .cons hvalues hput, ?_, ?_, fun hreplace => ?_⟩
      · rw [hcount, hmidCount, List.length_cons]
        omega
      · exact (hsub.trans hinserted.subperm).trans ((hkept.append_left put).cons_cons row).subperm
      · rw [hall hreplace] at hinserted
        exact (hperm hreplace).trans hinserted

/-! ### Updates -/

private theorem update_eq_ok {change : Row × List Value} (hnumbered : p.table.Numbered)
    (hold : change.1 ∈ p.table.rows) (h : update triggers p change = .ok p') :
    p.table.admitsUpdate triggers change = false ∧ p' = p ∨
      p.table.admitsUpdate triggers change = true ∧ ∃ row rows, row.values = p.table.stored change.2 ∧
        rows.Perm (row :: p.table.rows.filter (·.number != change.1.number)) ∧
        p.table.RowStep { p.table with rows := rows } ∧ p' = p.advance { p.table with rows := rows } := by
  rcases changeRow_eq_ok h with hskip | ⟨hthrough, t, after, hchange, hp⟩
  · exact .inl hskip
  · obtain ⟨⟨t', row⟩, hrow, hpair⟩ := map_eq_ok hchange
    have hperm := hnumbered.perm_updateRow hold hrow
    have hstep : p.table.RowStep t' := .update hrow
    obtain ⟨rows, rfl⟩ := hstep.eq
    cases hpair
    exact .inr ⟨hthrough, row, rows, (Table.updateRow_eq hrow).1, hperm, hstep, hp⟩

/-- The rows that get other values are those that no trigger has passed over, and they are counted.  All other rows stay
as they are. -/
theorem all_update {l : List (Row × List Value)} {rest : List Row} (hnumbered : p.table.Numbered)
    (hrows : p.table.rows.Perm (l.map (·.1) ++ rest)) (h : all (update triggers) l p = .ok p') :
    ∃ news, List.Forall₂ (fun change new => new.values = p.table.stored change.2)
        (l.filter (p.table.admitsUpdate triggers)) news ∧ p'.changed = p.changed + news.length ∧
      p'.table.rows.Perm (news ++ ((l.filter fun c => !p.table.admitsUpdate triggers c).map (·.1) ++ rest)) := by
  induction l generalizing p rest with
  | nil =>
    cases h
    exact ⟨[], .nil, rfl, hrows⟩
  | cons change l ih =>
    obtain ⟨mid, hone, hrest⟩ := all_cons_eq_ok h
    have hold : change.1 ∈ p.table.rows := hrows.symm.subset (List.mem_cons_self ..)
    rcases update_eq_ok hnumbered hold hone with ⟨hskip, rfl⟩ | ⟨hthrough, row, rows, hvalues, hperm, hstep, hmid⟩
    · -- the row joins those that stay
      obtain ⟨news, hnews, hcount, hperm⟩ := ih hnumbered (hrows.trans List.perm_middle.symm) hrest
      rw [List.filter_cons_of_neg (Bool.eq_false_iff.1 hskip), List.filter_cons_of_pos (by rw [hskip]; rfl)]
      exact ⟨news, hnews, hcount, hperm.trans (List.perm_middle.append_left news)⟩
    · have hothers : (p.table.rows.filter (·.number != change.1.number)).Perm (l.map (·.1) ++ rest) :=
        ((hnumbered.perm_others hold).symm.trans hrows).cons_inv
      have hmidRows : mid.table.rows.Perm (l.map (·.1) ++ row :: rest) := by
        rw [hmid]
        exact (hperm.trans (hothers.cons row)).trans List.perm_middle.symm
      have hmidNumbered : mid.table.Numbered := by
        rw [hmid]
        exact hnumbered.step hstep
      have hmidCount : mid.changed = p.changed + 1 := congrArg Progress.changed hmid
      obtain ⟨news, hnews, hcount, hperm'⟩ := ih hmidNumbered hmidRows hrest
      rw [hmid] at hnews hperm'
      rw [List.filter_cons_of_pos hthrough, List.filter_cons_of_neg (by rw [hthrough]; exact Bool.false_ne_true)]
      refine ⟨row :: news, .cons hvalues hnews, ?_, hperm'.trans ?_⟩
      · rw [hcount, hmidCount, List.length_cons]
        omega
      · exact (List.perm_middle.append_left news).trans List.perm_middle

/-! ### Deletions -/

private theorem delete_eq_ok {old : Row} (h : delete triggers p old = .ok p') :
    p.table.admitsDelete triggers old = false ∧ p' = p ∨
      p.table.admitsDelete triggers old = true ∧
        p' = p.advance { p.table with rows := p.table.rows.filter (·.number != old.number) } := by
  unfold delete at h
  rcases changeRow_eq_ok h with hskip | ⟨hthrough, t, after, hchange, hp⟩
  · exact .inl hskip
  · cases hchange
    exact .inr ⟨hthrough, hp⟩

/-- The rows that are taken out are those that no trigger has passed over, and they are counted.  All other rows stay. -/
theorem all_delete_ok {l rest : List Row} (hnumbered : p.table.Numbered) (hrows : p.table.rows.Perm (l ++ rest))
    (h : all (delete triggers) l p = .ok p') :
    p'.changed = p.changed + (l.filter (p.table.admitsDelete triggers)).length ∧
      p'.table.rows.Perm ((l.filter fun old => !p.table.admitsDelete triggers old) ++ rest) := by
  induction l generalizing p rest with
  | nil =>
    cases h
    exact ⟨rfl, hrows⟩
  | cons old l ih =>
    obtain ⟨mid, hone, hrest⟩ := all_cons_eq_ok h
    have hold : old ∈ p.table.rows := hrows.symm.subset (List.mem_cons_self ..)
    rcases delete_eq_ok hone with ⟨hskip, rfl⟩ | ⟨hthrough, hmid⟩
    · obtain ⟨hcount, hperm⟩ := ih hnumbered (hrows.trans List.perm_middle.symm) hrest
      rw [List.filter_cons_of_neg (Bool.eq_false_iff.1 hskip), List.filter_cons_of_pos (by rw [hskip]; rfl)]
      exact ⟨hcount, hperm.trans List.perm_middle⟩
    · have hothers : (p.table.rows.filter (·.number != old.number)).Perm (l ++ rest) :=
        ((hnumbered.perm_others hold).symm.trans hrows).cons_inv
      rw [hmid] at hrest
      obtain ⟨hcount, hperm⟩ := ih (hnumbered.step (.delete old.number)) hothers hrest
      rw [List.filter_cons_of_pos hthrough, List.filter_cons_of_neg (by rw [hthrough]; exact Bool.false_ne_true)]
      refine ⟨?_, hperm⟩
      rw [hcount, advance, List.length_cons]
      exact Nat.add_right_comm ..

end Progress

/-! ### Statements -/

/-- The action inserts, updates or deletes rows. -/
def Action.Counts : Action → Prop
  | insert .. | update .. | delete .. => True
  | _ => False

instance : (a : Action) → Decidable a.Counts
  | .insert .. | .update .. | .delete .. => .isTrue trivial
  | .rows _ | .createTable .. | .dropTable .. | .renameTable .. | .createTrigger .. | .dropTrigger _ | .setting ..
  | .begin _ | .commit | .rollback | .nothing => .isFalse id

/-- The action has put in, has given other values to, or has taken out `n` rows of its table, and has changed nothing else.
They are all rows that it gives, or that satisfy its condition, but for those that a trigger has passed over. -/
def Action.Changes (parameters : List Value) (c c' : Catalog) (n : Nat) : Action → Prop
  | insert temporary name replace places given triggers =>
    ∃ t rows' put, (c.schema temporary).find? name = some t ∧
      c' = c.modify temporary (·.replace { t with rows := rows' }) ∧ n = put.length ∧
      List.Forall₂ (fun values new => new.values = t.withNumber new.number (t.stored values))
        ((given.map fun terms => placeValues t places (terms.map (·.eval ⟨[], parameters, []⟩))).filter
          (t.admitsInsert triggers)) put ∧
      rows'.Subperm (put ++ t.rows) ∧ (replace = false → rows'.Perm (put ++ t.rows))
  | update temporary name changes condition triggers =>
    ∃ t rows' news kept, (c.schema temporary).find? name = some t ∧
      c' = c.modify temporary (·.replace { t with rows := rows' }) ∧ n = news.length ∧
      List.Forall₂ (fun (change : Row × List Value) new => new.values = t.stored change.2)
        (((selectedRows t parameters condition).map fun old => (old, assigned parameters changes old)).filter
          (t.admitsUpdate triggers)) news ∧
      t.rows.Perm (((selectedRows t parameters condition).filter fun old =>
        t.admitsUpdate triggers (old, assigned parameters changes old)) ++ kept) ∧ rows'.Perm (news ++ kept)
  | delete temporary name condition triggers =>
    ∃ t rows', (c.schema temporary).find? name = some t ∧
      c' = c.modify temporary (·.replace { t with rows := rows' }) ∧
      n = ((selectedRows t parameters condition).filter (t.admitsDelete triggers)).length ∧
      t.rows.Perm ((selectedRows t parameters condition).filter (t.admitsDelete triggers) ++ rows')
  | _ => False

namespace Database

variable {db db' : Database} {parameters : List Value}

private theorem table_of_all {α : Type} {one : Progress → α → Except Stop Progress} {l : List α} {t : Table} {p : Progress}
    (hone : ∀ (p : Progress) (a : α), p.table.RowSteps (Progress.reached (one p a)).table)
    (h : Progress.all one l ⟨t, 0⟩ = .ok p) : ∃ rows, p.table = { t with rows := rows } := by
  have hsteps := Progress.reached_all hone l ⟨t, 0⟩
  rw [h] at hsteps
  exact hsteps.eq

/-- The selected rows that are passed over stay with the others. -/
private theorem perm_selectedRows (t : Table) (parameters : List Value) (condition : Option Term) (admits : Row → Bool) :
    ∃ rest, t.rows.Perm (selectedRows t parameters condition ++ rest) ∧
      t.rows.Perm ((selectedRows t parameters condition).filter admits ++
        ((selectedRows t parameters condition).filter (fun old => !admits old) ++ rest)) := by
  have hselected : t.rows.Perm (selectedRows t parameters condition ++ _) := (List.filter_append_perm _ t.rows).symm
  refine ⟨_, hselected, hselected.trans ?_⟩
  rw [← List.append_assoc]
  exact (List.filter_append_perm admits _).symm.append_right _

/-- An action that counts rows and does not fail has changed as many as it says, and leaves their number behind. -/
theorem perform_counts (hnumbered : db.catalog.All Table.Numbered) {a : Action} (ha : a.Counts) {n : Nat}
    (h : db.perform parameters a = (db', .ok (.affected n))) :
    a.Changes parameters db.catalog db'.catalog n ∧ db'.changes = n := by
  have hfound : ∀ {temporary name t}, (db.catalog.schema temporary).find? name = some t → t.Numbered := fun hfind =>
    hnumbered _ _ (List.mem_of_find?_eq_some hfind)
  have hmodify : ∀ {temporary : Bool} {name : Text} {change : Table → Except Stop Progress},
      db.modifyRows temporary name change = (db', .ok (.affected n)) →
      ∃ t p, (db.catalog.schema temporary).find? name = some t ∧ change t = .ok p ∧
        db'.catalog = db.catalog.modify temporary (·.replace p.table) ∧ n = p.changed ∧ db'.changes = n := by
    intro temporary name change h
    obtain ⟨-, t, p, hfind, hchange, rfl, houtcome⟩ := modifyRows_eq_ok h
    cases houtcome
    exact ⟨t, p, hfind, hchange, rfl, rfl, rfl⟩
  cases a with
  | insert temporary name replace places rows triggers =>
    obtain ⟨t, p, hfind, hall, hcatalog, hcount, hchanges⟩ := hmodify h
    obtain ⟨rows', htable⟩ := table_of_all (Progress.reached_insert triggers replace) hall
    obtain ⟨put, hput, hlength, hsub, hperm⟩ := Progress.all_insert hall
    rw [htable] at hcatalog hsub hperm
    rw [Nat.zero_add] at hlength
    exact ⟨⟨t, rows', put, hfind, hcatalog, hcount.trans hlength, hput, hsub, hperm⟩, hchanges⟩
  | update temporary name changes condition triggers =>
    obtain ⟨t, p, hfind, hall, hcatalog, hcount, hchanges⟩ := hmodify h
    obtain ⟨rows', htable⟩ := table_of_all (Progress.reached_update triggers) hall
    obtain ⟨rest, hrows, hkept⟩ := perm_selectedRows t parameters condition fun old =>
      t.admitsUpdate triggers (old, assigned parameters changes old)
    have holds : ((selectedRows t parameters condition).map fun old => (old, assigned parameters changes old)).map (·.1) =
        selectedRows t parameters condition := by
      rw [List.map_map]
      exact List.map_id _
    rw [← holds] at hrows
    obtain ⟨news, hnews, hlength, hperm⟩ := Progress.all_update (hfound hfind) hrows hall
    have hpassed : ∀ selected : List Row, ((selected.map fun old => (old, assigned parameters changes old)).filter
        fun c => !t.admitsUpdate triggers c).map (·.1) =
          selected.filter fun old => !t.admitsUpdate triggers (old, assigned parameters changes old) := by
      intro selected
      rw [List.filter_map, List.map_map]
      exact List.map_id _
    rw [hpassed, htable] at hperm
    rw [htable] at hcatalog
    rw [Nat.zero_add] at hlength
    exact ⟨⟨t, rows', news, _, hfind, hcatalog, hcount.trans hlength, hnews, hkept, hperm⟩, hchanges⟩
  | delete temporary name condition triggers =>
    obtain ⟨t, p, hfind, hall, hcatalog, hcount, hchanges⟩ := hmodify h
    obtain ⟨rows', htable⟩ := table_of_all (Progress.reached_delete triggers) hall
    obtain ⟨rest, hrows, hkept⟩ := perm_selectedRows t parameters condition (t.admitsDelete triggers)
    obtain ⟨hlength, hperm⟩ := Progress.all_delete_ok (hfound hfind) hrows hall
    rw [htable] at hcatalog hperm
    rw [Nat.zero_add] at hlength
    exact ⟨⟨t, rows', hfind, hcatalog, hcount.trans hlength, hkept.trans (hperm.symm.append_left _)⟩, hchanges⟩
  | rows | createTable | dropTable | renameTable | createTrigger | dropTrigger | setting | begin | commit | rollback
    | nothing => exact ha.elim

/-- Equal tables are changed in equally many rows, whatever the databases have counted before. -/
theorem perform_counts_unique {db₁ db₁' db₂ db₂' : Database} (hcatalog : db₁.catalog = db₂.catalog) {a : Action}
    (ha : a.Counts) {m n : Nat} (h₁ : db₁.perform parameters a = (db₁', .ok (.affected m)))
    (h₂ : db₂.perform parameters a = (db₂', .ok (.affected n))) : m = n := by
  have hmodify : ∀ {temporary : Bool} {name : Text} {change : Table → Except Stop Progress},
      db₁.modifyRows temporary name change = (db₁', .ok (.affected m)) →
      db₂.modifyRows temporary name change = (db₂', .ok (.affected n)) → m = n := by
    intro temporary name change h₁ h₂
    obtain ⟨-, t, p, hfind, hp, -, hm⟩ := modifyRows_eq_ok h₁
    obtain ⟨-, t', p', hfind', hp', -, hn⟩ := modifyRows_eq_ok h₂
    rw [hcatalog, hfind', Option.some.injEq] at hfind
    rw [hfind, hp, Except.ok.injEq] at hp'
    cases hm
    cases hn
    rw [hp']
  cases a with
  | insert | update | delete => exact hmodify h₁ h₂
  | rows | createTable | dropTable | renameTable | createTrigger | dropTrigger | setting | begin | commit | rollback
    | nothing => exact ha.elim

/-- An action that counts no rows leaves the count of the last one as it is, also if it fails, and says it again if it
says one. -/
theorem perform_uncounted (db : Database) (parameters : List Value) {a : Action} (ha : ¬ a.Counts) :
    (db.perform parameters a).1.changes = db.changes ∧
      ∀ n, (db.perform parameters a).2 = .ok (.affected n) → n = db.changes := by
  have hsaid : ∀ n, (Except.ok (Outcome.affected db.changes) : Except Fault Outcome) = .ok (.affected n) →
      n = db.changes := by
    intro n h
    cases h
    rfl
  have hdefine : ∀ c, (db.define c).1.changes = db.changes ∧ ∀ n, (db.define c).2 = .ok (.affected n) → n = db.changes := by
    intro c
    unfold define
    split_ifs
    · exact ⟨rfl, fun _ h => h.elim⟩
    · exact ⟨rfl, fun _ h => h.elim⟩
    · exact ⟨rfl, hsaid⟩
  cases a with
  | insert | update | delete => exact absurd trivial ha
  | rows =>
    refine ⟨rfl, fun n h => ?_⟩
    cases h
  | nothing => exact ⟨rfl, hsaid⟩
  | createTable | dropTable | renameTable | createTrigger | dropTrigger => exact hdefine _
  | setting setting value =>
    cases setting with
    | readOnly =>
      cases value with
      | none =>
        refine ⟨rfl, fun n h => ?_⟩
        cases h
      | some value => exact ⟨rfl, hsaid⟩
    | unknown => exact ⟨rfl, hsaid⟩
    | pageLimit =>
      constructor
      · change (db.setPageLimit value).changes = db.changes
        unfold setPageLimit
        split
        · split <;> rfl
        · rfl
      · intro n h
        cases h
  | begin immediate =>
    simp only [perform]
    split_ifs
    · exact ⟨rfl, fun _ h => h.elim⟩
    · exact ⟨rfl, fun _ h => h.elim⟩
    · exact ⟨rfl, hsaid⟩
  | commit =>
    simp only [perform]
    split_ifs
    · exact ⟨rfl, hsaid⟩
    · exact ⟨rfl, fun _ h => h.elim⟩
  | rollback =>
    simp only [perform]
    split
    · exact ⟨rfl, hsaid⟩
    · refine ⟨rfl, fun n h => ?_⟩
      cases h

end Database

end SheetQuery.Sql
