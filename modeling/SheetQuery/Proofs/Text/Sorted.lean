import Mathlib.Data.List.Basic
import SheetQuery.Text.Basic

/-!
# Texts in order

Sorting texts lists them by their code points, whatever order they came in.

* `mergeSort_eq_of_perm`: lists with the same members are sorted to the same list; `Text.sorted_eq_of_perm` for texts.
* `Text.mem_sorted`: sorting keeps the members.
* `mem_eraseReps`, `pairwise_eraseReps`: without the repetitions next to each other, a list in order has every member once.
-/

namespace SheetQuery

/-- Lists with the same members are sorted to the same list, if no two members stand on the same place. -/
theorem mergeSort_eq_of_perm {α : Type} {le : α → α → Bool} (htrans : ∀ a b c, le a b → le b c → le a c)
    (htotal : ∀ a b, (le a b || le b a) = true) {l l' : List α} (h : l.Perm l')
    (hsame : ∀ a ∈ l, ∀ b ∈ l, le a b → le b a → a = b) : l.mergeSort le = l'.mergeSort le := by
  have hperm : (l.mergeSort le).Perm (l'.mergeSort le) :=
    (List.mergeSort_perm l le).trans (h.trans (List.mergeSort_perm l' le).symm)
  refine hperm.eq_of_pairwise (fun a b ha hb => ?_) (List.pairwise_mergeSort htrans htotal l)
    (List.pairwise_mergeSort htrans htotal l')
  exact hsame a (List.mem_mergeSort.1 ha) b (h.symm.subset (List.mem_mergeSort.1 hb))

/-! ### Repetitions -/

section

variable {α : Type} [BEq α] [LawfulBEq α]

private theorem eraseReps_cons_cons (a b : α) (l : List α) :
    (a :: b :: l).eraseReps = if a == b then (b :: l).eraseReps else a :: (b :: l).eraseReps := by
  -- what is kept already stands in front of what comes later
  have hloop : ∀ (l : List α) (a : α) (kept : List α),
      List.eraseRepsBy.loop (· == ·) a l kept = kept.reverse ++ List.eraseRepsBy.loop (· == ·) a l [] := by
    intro l
    induction l with
    | nil => simp [List.eraseRepsBy.loop]
    | cons b l ih =>
      intro a kept
      rw [List.eraseRepsBy.loop, List.eraseRepsBy.loop]
      split
      · exact ih a kept
      · rw [ih b (a :: kept), ih b [a], List.reverse_cons, List.append_assoc]
        rfl
  simp only [List.eraseReps, List.eraseRepsBy]
  rw [List.eraseRepsBy.loop]
  split
  · rename_i hsame
    rw [hsame, if_pos rfl, eq_of_beq hsame]
  · rename_i hdiffers
    rw [hdiffers, if_neg Bool.false_ne_true, hloop]
    rfl

theorem mem_eraseReps {a : α} {l : List α} : a ∈ l.eraseReps ↔ a ∈ l := by
  induction l with
  | nil => rfl
  | cons b l ih =>
    cases l with
    | nil => rfl
    | cons c l =>
      rw [eraseReps_cons_cons, List.mem_cons]
      split
      · rename_i hsame
        rw [ih, eq_of_beq hsame]
        simp
      · rw [List.mem_cons, ih]

/-- Without the repetitions next to each other, a list in order has every member once. -/
theorem pairwise_eraseReps {r : α → α → Prop} (htrans : ∀ a b c, r a b → r b c → r a c) {l : List α}
    (h : l.Pairwise fun a b => r a b ∨ a = b) : l.eraseReps.Pairwise r := by
  induction l with
  | nil => exact .nil
  | cons a l ih =>
    cases l with
    | nil => exact List.pairwise_singleton r a
    | cons b l =>
      obtain ⟨ha, hl⟩ := List.pairwise_cons.1 h
      rw [eraseReps_cons_cons]
      split
      · exact ih hl
      · rename_i hdiffers
        have hab : r a b := (ha b (List.mem_cons_self ..)).resolve_right fun hsame => hdiffers (beq_iff_eq.2 hsame)
        refine List.pairwise_cons.2 ⟨fun x hx => ?_, ih hl⟩
        -- what comes later is `b` or stands behind it
        rcases List.mem_cons.1 (mem_eraseReps.1 hx) with rfl | hx
        · exact hab
        · rcases (List.pairwise_cons.1 hl).1 x hx with hbx | rfl
          · exact htrans a b x hab hbx
          · exact hab

end

namespace Text

variable {l l' : List Text}

private theorem not_after_iff {a b : Text} : (!decide (b < a)) = true ↔ a < b ∨ a = b := by
  rw [Bool.not_eq_true', decide_eq_false_iff_not]
  constructor
  · intro h
    rcases lt_or_eq_or_lt a b with hab | hab | hba
    · exact .inl hab
    · exact .inr hab
    · exact absurd hba h
  · rintro (hab | rfl)
    · exact List.lt_asymm hab
    · exact List.lt_irrefl a

private theorem not_after_trans (a b c : Text) (hab : !decide (b < a)) (hbc : !decide (c < b)) : !decide (c < a) := by
  rw [not_after_iff] at hab hbc ⊢
  rcases hab with hab | rfl
  · rcases hbc with hbc | rfl
    · exact .inl (List.lt_trans hab hbc)
    · exact .inl hab
  · exact hbc

private theorem not_after_total (a b : Text) : (!decide (b < a) || !decide (a < b)) = true := by
  rw [Bool.or_eq_true, not_after_iff, not_after_iff]
  rcases lt_or_eq_or_lt a b with hab | hab | hba
  · exact .inl (.inl hab)
  · exact .inl (.inr hab)
  · exact .inr (.inl hba)

theorem sorted_eq_of_perm (h : l.Perm l') : sorted l = sorted l' := by
  refine mergeSort_eq_of_perm not_after_trans not_after_total h fun a _ b _ hab hba => ?_
  rw [not_after_iff] at hab hba
  rcases hab with hab | hab
  · rcases hba with hba | hba
    · exact absurd hba (List.lt_asymm hab)
    · exact hba.symm
  · exact hab

theorem mem_sorted {a : Text} : a ∈ sorted l ↔ a ∈ l := List.mem_mergeSort

theorem ordered_sorted (l : List Text) : (sorted l).Pairwise fun a b => a < b ∨ a = b :=
  (List.pairwise_mergeSort not_after_trans not_after_total l).imp not_after_iff.1

end Text

end SheetQuery
