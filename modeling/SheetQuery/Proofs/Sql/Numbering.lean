import SheetQuery.Proofs.Sql.Invariants

/-!
# Numbers of rows

Each row of a table has a number of its own.  So a row that is put in is one more, a row that is taken out is one less,
and a row that gets other values is told by its number, also if that changes.

* `insertRow_eq`, `updateRow_eq`: what putting a row in and giving it other values makes of a table.
* `Table.Numbered`: no number comes twice, and changing rows keeps it so (`Numbered.step`).
* `Numbered.perm_others`, `Numbered.perm_updateRow`: the rows up to their order, before and after one gets other values.
* `keptByStatements_numbered`: no statement breaks that.
-/

namespace SheetQuery.Sql

namespace Table

variable {t t' : Table} {row old : Row} {values : List Value}

theorem perm_insertByNumber (new : Row) (rows : List Row) : (insertByNumber new rows).Perm (new :: rows) := by
  induction rows with
  | nil => exact .refl _
  | cons r rows ih =>
    rw [insertByNumber]
    split
    · exact .refl _
    · exact (ih.cons r).trans (.swap new r rows)

/-- A row is put among rows with other numbers: all that were there, or those that do not give way to it. -/
theorem insertRow_eq {replace : Bool} (h : t.insertRow replace values = .ok (t', row)) :
    ∃ kept, kept.Sublist t.rows ∧ (replace = false → kept = t.rows) ∧ (∀ r ∈ kept, r.number ≠ row.number) ∧
      row.values = t.withNumber row.number values ∧ t' = { t with rows := insertByNumber row kept } := by
  obtain ⟨asked, -, h⟩ := bind_eq_ok.1 h
  dsimp only at h
  split at h
  · cases h
  · split at h
    · rename_i hreplace
      obtain ⟨rfl, rfl⟩ := Prod.mk.inj (pure_eq_ok.1 h)
      refine ⟨_, List.filter_sublist, fun hnot => ?_, fun r hr => ?_, rfl, rfl⟩
      · exact absurd (hnot.symm.trans hreplace) Bool.false_ne_true
      · have hclash := (List.mem_filter.1 hr).2
        rw [Bool.not_eq_true', Bool.or_eq_false_iff] at hclash
        exact beq_eq_false_iff_ne.1 hclash.1
    · split at h
      · cases h
      · rename_i hnumber
        split at h
        · cases h
        · obtain ⟨rfl, rfl⟩ := Prod.mk.inj (pure_eq_ok.1 h)
          refine ⟨t.rows, .refl _, fun _ => rfl, fun r hr hsame => hnumber ?_, rfl, rfl⟩
          exact List.any_eq_true.2 ⟨r, hr, beq_iff_eq.2 hsame⟩

/-- A row gets other values in its place, or it goes and comes back among the others under a new number. -/
theorem updateRow_eq (h : t.updateRow old values = .ok (t', row)) : row.values = values ∧
    (row.number = old.number ∧ t' = { t with rows := t.rows.map fun r => if r.number == old.number then row else r } ∨
      (∀ r ∈ t.rows.filter (·.number != old.number), r.number ≠ row.number) ∧
        t' = { t with rows := insertByNumber row (t.rows.filter (·.number != old.number)) }) := by
  obtain ⟨number, -, h⟩ := bind_eq_ok.1 h
  dsimp only at h
  split at h
  · cases h
  · split at h
    · cases h
    · rename_i hothers
      split at h
      · cases h
      · split at h
        · rename_i hnumber
          obtain ⟨rfl, rfl⟩ := Prod.mk.inj (pure_eq_ok.1 h)
          rw [hnumber]
          exact ⟨rfl, .inl ⟨rfl, rfl⟩⟩
        · obtain ⟨rfl, rfl⟩ := Prod.mk.inj (pure_eq_ok.1 h)
          refine ⟨rfl, .inr ⟨fun r hr hsame => hothers ?_, rfl⟩⟩
          exact List.any_eq_true.2 ⟨r, hr, beq_iff_eq.2 hsame⟩

/-- No two rows have the same number. -/
def Numbered (t : Table) : Prop := (t.rows.map (·.number)).Nodup

instance (t : Table) : Decidable t.Numbered := by unfold Numbered; infer_instance

namespace Numbered

private theorem insertByNumber {rows : List Row} (h : (rows.map (·.number)).Nodup)
    (hnew : ∀ r ∈ rows, r.number ≠ row.number) : ((insertByNumber row rows).map (·.number)).Nodup := by
  refine ((perm_insertByNumber row rows).map _).nodup_iff.2 (List.nodup_cons.2 ⟨fun hmem => ?_, h⟩)
  obtain ⟨r, hr, hsame⟩ := List.mem_map.1 hmem
  exact hnew r hr hsame

/-- Changing rows keeps their numbers apart. -/
theorem step (h : t.Numbered) (hstep : t.RowStep t') : t'.Numbered := by
  cases hstep with
  | insert hrow =>
    obtain ⟨kept, hkept, -, hnew, -, rfl⟩ := insertRow_eq hrow
    exact insertByNumber (h.sublist (hkept.map _)) hnew
  | update hrow =>
    obtain ⟨-, ⟨hnumber, rfl⟩ | ⟨hnew, rfl⟩⟩ := updateRow_eq hrow
    · -- in its place, the row keeps its number
      refine (congrArg List.Nodup ?_).mpr h
      rw [List.map_map]
      refine List.map_congr_left fun r _ => ?_
      rw [Function.comp_apply]
      split
      · rename_i hsame
        rw [hnumber, beq_iff_eq.1 hsame]
      · rfl
    · exact insertByNumber (h.sublist (List.filter_sublist.map _)) hnew
  | delete number => exact h.sublist (List.filter_sublist.map _)

/-- All other rows have other numbers. -/
theorem perm_others (h : t.Numbered) (hold : old ∈ t.rows) :
    t.rows.Perm (old :: t.rows.filter (·.number != old.number)) := by
  obtain ⟨before, after, hrows⟩ := List.append_of_mem hold
  have hperm : t.rows.Perm (old :: (before ++ after)) := hrows ▸ List.perm_middle
  have hnumbers : ((old :: (before ++ after)).map (·.number)).Nodup := (hperm.map _).nodup_iff.1 h
  rw [List.map_cons, List.nodup_cons] at hnumbers
  have hself : (before ++ after).filter (·.number != old.number) = before ++ after :=
    List.filter_eq_self.2 fun r hr => bne_iff_ne.2 fun hsame => hnumbers.1 (List.mem_map.2 ⟨r, hr, hsame⟩)
  have hothers := hperm.filter (·.number != old.number)
  rw [List.filter_cons_of_neg (by simp), hself] at hothers
  exact hperm.trans (.cons old hothers.symm)

/-- A row that gets other values stands in the place of the old one. -/
theorem perm_updateRow (h : t.Numbered) (hold : old ∈ t.rows) (hrow : t.updateRow old values = .ok (t', row)) :
    t'.rows.Perm (row :: t.rows.filter (·.number != old.number)) := by
  obtain ⟨-, ⟨hnumber, rfl⟩ | ⟨-, rfl⟩⟩ := updateRow_eq hrow
  · have hperm := (h.perm_others hold).map fun r => if r.number == old.number then row else r
    rw [List.map_cons, if_pos (beq_self_eq_true _)] at hperm
    refine hperm.trans (.of_eq (congrArg _ ?_))
    refine (List.map_congr_left fun r hr => ?_).trans (List.map_id _)
    exact if_neg fun hsame => bne_iff_ne.1 (List.mem_filter.1 hr).2 (beq_iff_eq.1 hsame)
  · exact perm_insertByNumber row _

end Numbered

end Table

/-- No statement gives a number twice. -/
theorem keptByStatements_numbered : KeptByStatements (Catalog.All Table.Numbered) :=
  keptByStatements_all (fun _ _ h hstep => h.step hstep)
    (fun t hrows _ => by
      rw [Table.Numbered, hrows]
      exact List.nodup_nil)
    fun _ _ h _ => h

end SheetQuery.Sql
