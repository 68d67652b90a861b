import Mathlib.Data.Multiset.Filter
import SheetQuery.Proofs.Mapping.Entries
import SheetQuery.Proofs.Plan
import SheetQuery.Proofs.Session.Loads
import SheetQuery.Proofs.Session.Query

/-!
# The rows of the table of header mappings

A load changes these rows as it changes the mappings of a session: the rows of its table go, and those of its plan take
the place of the ones with their headers.

* `replacedRows`: what a load makes of the rows; `KeepsMappings.replaced` says that it does.
* `replacedRows_keptRows`: of rows that are those of mappings it makes those of the mappings behind the load.
* `filter_replacedRows`, `ofTable_replacedRows`: the rows of other tables, and those of the table of the plan.
* `KeepsMappings.storedMappings`: what is read of the rows of mappings.
-/

namespace SheetQuery

/-- The rows that keep mappings. -/
def keptRows (m : HeaderMappings) : Multiset (List Sql.Value) := ↑(m.entries.map mappingRow)

/-- The row keeps a mapping of the table. -/
def OfTable (table : Text) (row : List Sql.Value) : Prop := row.head? = some (.text table)

instance (table : Text) : DecidablePred (OfTable table) := fun row =>
  inferInstanceAs (Decidable (row.head? = some (.text table)))

/-- The rows with that of a mapping in the place of the one with its table and header. -/
def putRow (rows : Multiset (List Sql.Value)) (e : Mapping) : Multiset (List Sql.Value) :=
  mappingRow e ::ₘ rows.filter fun row => row.take 2 ≠ [.text e.table, .text e.label]

/-- The rows with those of a plan in the place of those of its table. -/
def replacedRows (rows : Multiset (List Sql.Value)) (plan : TablePlan) : Multiset (List Sql.Value) :=
  plan.mappings.foldl putRow (rows.filter fun row => ¬ OfTable plan.table row)

/-! ### The rows of mappings -/

section

variable {m : HeaderMappings}

@[simp] theorem keptRows_empty : keptRows .empty = 0 := rfl

theorem keptRows_congr {m' : HeaderMappings} (h : m.entries = m'.entries) : keptRows m = keptRows m' := by
  unfold keptRows
  rw [h]

private theorem filter_keptRows {keep : List Sql.Value → Prop} [DecidablePred keep] (m : HeaderMappings) :
    (keptRows m).filter keep = ↑((m.entries.filter fun e => keep (mappingRow e)).map mappingRow) := by
  unfold keptRows
  rw [Multiset.filter_coe, List.filter_map]
  rfl

theorem dropped_keptRows (m : HeaderMappings) (table : Text) :
    (keptRows m).filter (fun row => ¬ OfTable table row) = keptRows (m.removeTable table) := by
  rw [filter_keptRows, keptRows, Multiset.coe_eq_coe]
  refine (List.Perm.map _ ?_).symm
  refine (m.perm_entries_removeTable table).trans (.of_eq (List.filter_congr fun e _ => ?_))
  rw [Bool.eq_iff_iff]
  simp [OfTable, mappingRow]

/-- A mapping is put among the rows as it is added to mappings where its identifier is free. -/
theorem putRow_keptRows {new : Mapping}
    (hfree : ∀ e ∈ m.entries, e.table = new.table → e.identifier = new.identifier → e.label = new.label) :
    putRow (keptRows m) new = keptRows (m.add new) := by
  rw [putRow, filter_keptRows, keptRows, Multiset.cons_coe, Multiset.coe_eq_coe, ← List.map_cons]
  refine (List.Perm.map _ ?_).symm
  refine (m.perm_entries_add new).trans (.of_eq (congrArg _ (List.filter_congr fun e he => ?_)))
  rw [← decide_not, decide_eq_decide, not_iff_not]
  constructor
  · rintro ⟨htable, hlabel | hidentifier⟩
    · simp [mappingRow, htable, hlabel]
    · simp [mappingRow, htable, hfree e he htable.symm hidentifier.symm]
  · intro hkey
    simp only [mappingRow, List.take_succ_cons, List.take_zero, List.cons.injEq, Sql.Value.text.injEq, and_true] at hkey
    exact ⟨hkey.1.symm, .inl hkey.2.symm⟩

theorem foldl_putRow_keptRows {table : Text} {l : List Mapping} (htable : ∀ e ∈ l, e.table = table)
    (hl : l.Pairwise fun a b => a.identifier ≠ b.identifier)
    (hfree : ∀ e ∈ m.entries, e.table = table → ∀ new ∈ l, e.identifier ≠ new.identifier) :
    l.foldl putRow (keptRows m) = keptRows (m.extend l) := by
  induction l generalizing m with
  | nil => rfl
  | cons new l ih =>
    obtain ⟨hnew, hl⟩ := List.pairwise_cons.1 hl
    obtain ⟨hnewTable, htable⟩ := List.forall_mem_cons.1 htable
    rw [List.foldl_cons, putRow_keptRows fun e he het hid =>
      absurd hid (hfree e he (het.trans hnewTable) new (List.mem_cons_self ..))]
    -- the identifiers of the rest are still free, also next to the new one
    refine ih htable hl fun e he het new' hnew' => ?_
    rcases HeaderMappings.mem_entries_add.1 he with rfl | ⟨he, -⟩
    · exact hnew new' hnew'
    · exact hfree e he het new' (List.mem_cons_of_mem _ hnew')

/-- A load replaces the rows of mappings as it replaces the mappings. -/
theorem replacedRows_keptRows (m : HeaderMappings) {plan : TablePlan}
    (hl : plan.mappings.Pairwise fun a b => a.identifier ≠ b.identifier) :
    replacedRows (keptRows m) plan = keptRows (Session.adoptMappings m plan) := by
  rw [replacedRows, dropped_keptRows]
  refine foldl_putRow_keptRows (fun e => table_of_mem_mappings) hl fun e he htable => ?_
  -- no mapping of the table is left, so every identifier is free
  exact absurd htable.symm (HeaderMappings.mem_entries_removeTable.1 he).2

end

/-! ### The rows of one table and of all others -/

section

variable {table : Text}

private theorem filter_putRow {keep : List Sql.Value → Prop} [DecidablePred keep] {new : Mapping}
    (hkey : ∀ row, row.take 2 = [.text new.table, .text new.label] → ¬ keep row) (hnew : ¬ keep (mappingRow new))
    (rows : Multiset (List Sql.Value)) : (putRow rows new).filter keep = rows.filter keep := by
  rw [putRow, Multiset.filter_cons_of_neg _ hnew, Multiset.filter_filter]
  exact Multiset.filter_congr fun row _ => and_iff_left_of_imp fun hkeep hsame => hkey row hsame hkeep

private theorem filter_putRow_kept {keep : List Sql.Value → Prop} [DecidablePred keep] {new : Mapping}
    (hnew : keep (mappingRow new)) (rows : Multiset (List Sql.Value)) :
    (putRow rows new).filter keep = putRow (rows.filter keep) new := by
  rw [putRow, putRow, Multiset.filter_cons_of_pos _ hnew, Multiset.filter_filter, Multiset.filter_filter]
  exact congrArg _ (Multiset.filter_congr fun row _ => and_comm)

private theorem ofTable_of_take {row : List Sql.Value} {a b : Text} (h : row.take 2 = [.text a, .text b]) :
    OfTable a row := by
  cases row with
  | nil => cases h
  | cons v row =>
    rw [List.take_succ_cons, List.cons.injEq] at h
    exact congrArg some h.1

/-- A load leaves the rows of other tables as they are. -/
theorem filter_replacedRows (rows : Multiset (List Sql.Value)) (plan : TablePlan) :
    (replacedRows rows plan).filter (fun row => ¬ OfTable plan.table row) =
      rows.filter fun row => ¬ OfTable plan.table row := by
  have hputs : ∀ (l : List Mapping) (rows : Multiset (List Sql.Value)), (∀ e ∈ l, e.table = plan.table) →
      (l.foldl putRow rows).filter (fun row => ¬ OfTable plan.table row) =
        rows.filter fun row => ¬ OfTable plan.table row := by
    intro l
    induction l with
    | nil => exact fun _ _ => rfl
    | cons new l ih =>
      intro rows hl
      obtain ⟨hnew, hl⟩ := List.forall_mem_cons.1 hl
      rw [List.foldl_cons, ih _ hl]
      refine filter_putRow (fun row hrow => not_not.2 ?_) (not_not.2 ?_) rows
      · rw [← hnew]
        exact ofTable_of_take hrow
      · rw [← hnew]
        rfl
  rw [replacedRows, hputs _ _ fun e => table_of_mem_mappings, Multiset.filter_filter]
  exact Multiset.filter_congr fun row _ => and_self_iff

/-- What is filtered alike is filtered alike by a stronger condition. -/
theorem filter_eq_filter_of_imp {α : Type} {p q : α → Prop} [DecidablePred p] [DecidablePred q] {s t : Multiset α}
    (himp : ∀ a, q a → p a) (h : s.filter p = t.filter p) : s.filter q = t.filter q := by
  have hfilter : ∀ u : Multiset α, u.filter q = (u.filter p).filter q := by
    intro u
    rw [Multiset.filter_filter]
    exact Multiset.filter_congr fun a _ => (and_iff_left_of_imp (himp a)).symm
  rw [hfilter, h, ← hfilter]

theorem filter_replacedRows_of {keep : List Sql.Value → Prop} [DecidablePred keep] (rows : Multiset (List Sql.Value))
    {plan : TablePlan} (hkeep : ∀ row, keep row → ¬ OfTable plan.table row) :
    (replacedRows rows plan).filter keep = rows.filter keep :=
  filter_eq_filter_of_imp hkeep (filter_replacedRows rows plan)

/-- The rows of its table are those of its plan. -/
theorem ofTable_replacedRows (rows : Multiset (List Sql.Value)) {plan : TablePlan}
    (hl : plan.mappings.Pairwise fun a b => a.identifier ≠ b.identifier) :
    (replacedRows rows plan).filter (OfTable plan.table) = keptRows (HeaderMappings.empty.extend plan.mappings) := by
  have hputs : ∀ (l : List Mapping) (rows : Multiset (List Sql.Value)), (∀ e ∈ l, e.table = plan.table) →
      (l.foldl putRow rows).filter (OfTable plan.table) = l.foldl putRow (rows.filter (OfTable plan.table)) := by
    intro l
    induction l with
    | nil => exact fun _ _ => rfl
    | cons new l ih =>
      intro rows hl
      obtain ⟨hnew, hl⟩ := List.forall_mem_cons.1 hl
      rw [List.foldl_cons, ih _ hl, filter_putRow_kept (by rw [← hnew]; rfl), List.foldl_cons]
  have hnone : (rows.filter fun row => ¬ OfTable plan.table row).filter (OfTable plan.table) = keptRows .empty := by
    rw [Multiset.filter_filter, keptRows_empty, Multiset.filter_eq_nil]
    exact fun row _ h => h.2 h.1
  rw [replacedRows, hputs _ _ fun e => table_of_mem_mappings, hnone]
  exact foldl_putRow_keptRows (fun e => table_of_mem_mappings) hl fun e he => nomatch he

end

/-! ### On a connection -/

namespace Semantics.KeepsMappings

variable {C : Type} [Engine C] {σ : Semantics C} (h : σ.KeepsMappings)

include h

/-- A load replaces the rows of the table of header mappings. -/
theorem replaced {c : C} {rows : Multiset (List Sql.Value)} (hkeeps : σ.Keeps (σ.now c) rows) {plan : TablePlan}
    (hanswer : (Store.replaceMappings c plan).answer = .ok ()) :
    σ.Keeps (σ.now (Store.replaceMappings c plan).state) (replacedRows rows plan) := by
  have hputs : ∀ (l : List Mapping) {c c' : C} {rows : Multiset (List Sql.Value)}, σ.Keeps (σ.now c) rows →
      Store.keepMappings c l = (c', .ok ()) → σ.Keeps (σ.now c') (l.foldl putRow rows) := by
    intro l
    induction l with
    | nil =>
      intro c c' rows hkeeps hkept
      cases hkept
      exact hkeeps
    | cons e l ih =>
      intro c c' rows hkeeps hkept
      rw [Store.keepMappings] at hkept
      split at hkept
      · rename_i hkeep
        exact ih (h.keep hkeeps hkeep) hkept
      · cases hkept
  obtain ⟨c₁, n, hdrop, hkept⟩ := Store.replaceMappings_eq_ok hanswer
  exact hputs _ (h.drop hkeeps hdrop) hkept

/-- What the store has kept are the entries of the mappings, in order. -/
theorem storedMappings {s : Store C} {m : HeaderMappings} (hkeeps : σ.Keeps (σ.now s.database) (keptRows m)) :
    s.storedMappings = .ok m.entries := by
  obtain ⟨headers, hprepare, hquery⟩ := h.read hkeeps m.pairwise_entries
  have hrows : (m.entries.map mappingRow).mapM (Store.mappingOfRow headers) = .ok m.entries := by
    rw [mapM_eq_ok, List.forall₂_map_left_iff, List.forall₂_same]
    exact fun e _ => rfl
  unfold Store.storedMappings Store.ask
  rw [hprepare]
  simp only [bind, Except.bind, pure, Except.pure, hquery, Answer.collect, hrows]

end Semantics.KeepsMappings

end SheetQuery
