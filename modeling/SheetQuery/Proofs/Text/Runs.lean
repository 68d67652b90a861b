import Mathlib.Data.List.Basic
import Mathlib.Tactic.Common
import SheetQuery.Text.Basic

/-!
# Runs of characters

The runs of a class of characters are the blocks of them that stand apart in a text.

* `Separated`: the cuts of a text into blocks of such characters and what stands between them.  `runs_eq_iff` says that
  there is one, and that `runs` finds it.
* `runs_append_cons`: a run ends at the first character that does not belong to it.
* `runs_map`: runs are found alike in a text whose characters are changed within their class.
* `mem_runs_iff`: the runs are the blocks that nothing around them belongs to.
* `all_of_lower`: a class that does not depend on the letter case.
-/

namespace SheetQuery.Text

variable {p : Char → Bool}

private theorem runsFrom_append {w : Text} (hw : ∀ c ∈ w, p c) (current s : Text) :
    runsFrom p current (w ++ s) = runsFrom p (w.reverse ++ current) s := by
  induction w generalizing current with
  | nil => rfl
  | cons c w ih =>
    obtain ⟨hc, hw⟩ := List.forall_mem_cons.1 hw
    rw [List.cons_append, runsFrom, if_pos hc, ih hw, List.reverse_cons, List.append_assoc]
    rfl

/-- A run ends at the first character that does not belong to it. -/
theorem runs_append_cons {w : Text} (hw : ∀ c ∈ w, p c) (hne : w ≠ []) {c : Char} (hc : p c = false) (s : Text) :
    runs p (w ++ c :: s) = w :: runs p s := by
  have hcurrent : (w.reverse ++ []).isEmpty = false := by simpa using hne
  rw [runs, runsFrom_append hw, runsFrom, hc, if_neg Bool.false_ne_true, hcurrent, if_neg Bool.false_ne_true,
    List.append_nil, List.reverse_reverse]
  rfl

theorem runs_of_all {w : Text} (hw : ∀ c ∈ w, p c) (hne : w ≠ []) : runs p w = [w] := by
  have hrun := runsFrom_append hw [] []
  have hcurrent : (w.reverse ++ []).isEmpty = false := by simpa using hne
  rw [List.append_nil, runsFrom, hcurrent, if_neg Bool.false_ne_true, List.append_nil, List.reverse_reverse] at hrun
  exact hrun

theorem runs_cons {c : Char} (hc : p c = false) (s : Text) : runs p (c :: s) = runs p s := by
  rw [runs, runsFrom, hc, if_neg Bool.false_ne_true]
  rfl

theorem runs_gap_append {gap : Text} (hgap : ∀ c ∈ gap, p c = false) (s : Text) : runs p (gap ++ s) = runs p s := by
  induction gap with
  | nil => rfl
  | cons c gap ih =>
    obtain ⟨hc, hgap⟩ := List.forall_mem_cons.1 hgap
    rw [List.cons_append, runs_cons hc, ih hgap]

/-- The texts of the list stand in this order in the text, each of them as far as its characters go. -/
inductive Separated (p : Char → Bool) : Text → List Text → Prop
  | nil {gap : Text} (hgap : ∀ c ∈ gap, p c = false) : Separated p gap []
  | cons {gap w behind : Text} {ws : List Text} (hgap : ∀ c ∈ gap, p c = false) (hne : w ≠ []) (hw : ∀ c ∈ w, p c)
      (hbehind : ∀ c ∈ behind.head?, p c = false) (hws : Separated p behind ws) :
      Separated p (gap ++ w ++ behind) (w :: ws)

namespace Separated

variable {s : Text} {ws : List Text}

theorem word_append {w : Text} (hne : w ≠ []) (hw : ∀ c ∈ w, p c) (hs : ∀ c ∈ s.head?, p c = false)
    (h : Separated p s ws) : Separated p (w ++ s) (w :: ws) :=
  .cons (List.forall_mem_nil _) hne hw hs h

theorem append_left {gap : Text} (hgap : ∀ c ∈ gap, p c = false) (h : Separated p s ws) : Separated p (gap ++ s) ws := by
  cases h with
  | nil hs => exact .nil (List.forall_mem_append.2 ⟨hgap, hs⟩)
  | cons hs hne hw hbehind hws =>
    rw [← List.append_assoc, ← List.append_assoc]
    exact .cons (List.forall_mem_append.2 ⟨hgap, hs⟩) hne hw hbehind hws

theorem append_right {gap : Text} (hgap : ∀ c ∈ gap, p c = false) (h : Separated p s ws) : Separated p (s ++ gap) ws := by
  induction h with
  | nil hs => exact .nil (List.forall_mem_append.2 ⟨hs, hgap⟩)
  | @cons front w behind ws hs hne hw hbehind _ ih =>
    rw [List.append_assoc]
    refine .cons hs hne hw ?_ ih
    cases behind with
    | nil => exact fun c hc => hgap c (List.mem_of_mem_head? hc)
    | cons d behind => exact hbehind

theorem append {c : Char} (hc : p c = false) {t : Text} {vs : List Text} (h : Separated p s ws) (ht : Separated p t vs) :
    Separated p (s ++ c :: t) (ws ++ vs) := by
  induction h with
  | @nil gap hgap =>
    have hfront : ∀ d ∈ gap ++ [c], p d = false := List.forall_mem_append.2 ⟨hgap, by simpa using hc⟩
    simpa using ht.append_left hfront
  | @cons front w behind ws hs hne hw hbehind _ ih =>
    rw [List.append_assoc]
    refine .cons hs hne hw ?_ ih
    cases behind with
    | nil => simpa using hc
    | cons d behind => exact hbehind

theorem map {f : Char → Char} (hf : ∀ c, p (f c) = p c) (h : Separated p s ws) :
    Separated p (s.map f) (ws.map (List.map f)) := by
  induction h with
  | nil hgap => exact .nil (by simpa [hf] using hgap)
  | cons hgap hne hw hbehind _ ih =>
    rw [List.map_append, List.map_append]
    exact .cons (by simpa [hf] using hgap) (by simpa using hne) (by simpa [hf] using hw) (by simpa [hf] using hbehind) ih

theorem runs_eq (h : Separated p s ws) : runs p s = ws := by
  induction h with
  | @nil gap hgap =>
    have hrun := runs_gap_append hgap []
    rwa [List.append_nil] at hrun
  | @cons front w behind ws hs hne hw hbehind _ ih =>
    rw [List.append_assoc, runs_gap_append hs]
    cases behind with
    | nil => rw [List.append_nil, runs_of_all hw hne, ← ih]; rfl
    | cons c behind =>
      have hc : p c = false := hbehind c rfl
      rw [runs_append_cons hw hne hc, ← ih, runs_cons hc]

end Separated

private theorem exists_separated (p : Char → Bool) (s : Text) : ∃ ws, Separated p s ws := by
  induction s with
  | nil => exact ⟨[], .nil (List.forall_mem_nil _)⟩
  | cons c s ih =>
    obtain ⟨ws, h⟩ := ih
    by_cases hc : p c
    · -- the character is a word of its own, or the first one of the word that follows at once
      have hone : ∀ d ∈ [c], p d := by simpa using hc
      have halone : (∀ d ∈ s.head?, p d = false) → Separated p (c :: s) ([c] :: ws) :=
        fun hs => h.word_append (List.cons_ne_nil _ _) hone hs
      cases h with
      | nil hgap => exact ⟨_, halone fun d hd => hgap d (List.mem_of_mem_head? hd)⟩
      | @cons gap w behind ws hgap hne hw hbehind hws =>
        cases gap with
        | nil =>
          exact ⟨_, hws.word_append (List.cons_ne_nil c w) (List.forall_mem_cons.2 ⟨hc, hw⟩) hbehind⟩
        | cons d gap => exact ⟨_, halone (by simpa using hgap d (List.mem_cons_self ..))⟩
    · have hgap : ∀ d ∈ [c], p d = false := by simpa using hc
      exact ⟨ws, h.append_left hgap⟩

/-- A text can be cut into its runs in one way only. -/
theorem runs_eq_iff {s : Text} {ws : List Text} : runs p s = ws ↔ Separated p s ws := by
  refine ⟨fun h => ?_, Separated.runs_eq⟩
  obtain ⟨vs, hvs⟩ := exists_separated p s
  rw [← h, hvs.runs_eq]
  exact hvs

theorem separated_runs (p : Char → Bool) (s : Text) : Separated p s (runs p s) := runs_eq_iff.1 rfl

/-- A character that belongs to no run keeps what is before it apart from what is behind. -/
theorem runs_append_of_not {c : Char} (hc : p c = false) (u v : Text) : runs p (u ++ c :: v) = runs p u ++ runs p v :=
  ((separated_runs p u).append hc (separated_runs p v)).runs_eq

/-- Runs are found alike in a text whose characters are changed within their class. -/
theorem runs_map {f : Char → Char} (hf : ∀ c, p (f c) = p c) (s : Text) : runs p (s.map f) = (runs p s).map (List.map f) :=
  ((separated_runs p s).map hf).runs_eq

private theorem exists_block_of_separated {s w : Text} {ws : List Text} (h : Separated p s ws) (hmem : w ∈ ws) :
    ∃ before behind, s = before ++ w ++ behind ∧ w ≠ [] ∧ (∀ c ∈ w, p c) ∧
      (∀ c ∈ before.getLast?, p c = false) ∧ ∀ c ∈ behind.head?, p c = false := by
  induction h with
  | nil => cases hmem
  | @cons gap v rest ws hgap hne hv hrest _ ih =>
    rcases List.mem_cons.1 hmem with rfl | hmem
    · exact ⟨gap, rest, rfl, hne, hv, fun c hc => hgap c (List.mem_of_getLast? hc), hrest⟩
    · obtain ⟨before, behind, rfl, hwne, hw, hbefore, hbehind⟩ := ih hmem
      refine ⟨gap ++ v ++ before, behind, by simp, hwne, hw, ?_, hbehind⟩
      -- the word is not the first thing behind the one before it
      have hbne : before ≠ [] := by
        rintro rfl
        obtain ⟨c, w, rfl⟩ := List.exists_cons_of_ne_nil hwne
        have hc : p c = false := hrest c rfl
        rw [hw c (List.mem_cons_self ..)] at hc
        cases hc
      rwa [List.getLast?_append_of_ne_nil _ hbne]

/-- The runs are the blocks that nothing around them belongs to. -/
theorem mem_runs_iff {s w : Text} : w ∈ runs p s ↔
    ∃ before behind, s = before ++ w ++ behind ∧ w ≠ [] ∧ (∀ c ∈ w, p c) ∧
      (∀ c ∈ before.getLast?, p c = false) ∧ ∀ c ∈ behind.head?, p c = false := by
  constructor
  · exact exists_block_of_separated (separated_runs p s)
  · rintro ⟨before, behind, rfl, hne, hall, hbefore, hbehind⟩
    have hfirst : w ∈ runs p (w ++ behind) := by
      rw [((separated_runs p behind).word_append hne hall hbehind).runs_eq]
      exact List.mem_cons_self ..
    rw [List.append_assoc]
    rcases List.eq_nil_or_concat before with rfl | ⟨front, c, rfl⟩
    · exact hfirst
    · have hc : p c = false := hbefore c (by simp)
      rw [List.concat_eq_append, List.append_assoc, List.singleton_append, runs_append_of_not hc]
      exact List.mem_append_right _ hfirst

/-! ### Letter case -/

/-- A character is its own lower case, or a letter with another one. -/
theorem toLower_cases (c : Char) : c.toLower = c ∨ c.isAlpha ∧ c.toLower.isAlpha := by
  by_cases hbounds : 'A'.val ≤ c.val ∧ c.val ≤ 'Z'.val
  · refine .inr ⟨Bool.or_eq_true_iff.2 (.inl (decide_eq_true hbounds)), Bool.or_eq_true_iff.2 (.inr ?_)⟩
    have hval : c.toLower.val = c.val + 32 := by
      unfold Char.toLower
      rw [dif_pos hbounds]
      rfl
    change (decide (c.toLower.val ≥ 'a'.val) && decide (c.toLower.val ≤ 'z'.val)) = true
    simp only [UInt32.le_iff_toNat_le] at hbounds
    simp only [hval, Bool.and_eq_true, decide_eq_true_eq, ge_iff_le, UInt32.le_iff_toNat_le, UInt32.toNat_add]
    simp at hbounds ⊢
    omega
  · left
    unfold Char.toLower
    rw [dif_neg hbounds]

/-- Two texts in different letter case belong to such a class alike. -/
theorem all_of_lower (hp : ∀ c : Char, p c.toLower = p c) {v w : Text} (h : lower v = lower w) : v.all p = w.all p := by
  have hlower : ∀ u : Text, (lower u).all p = u.all p := by
    intro u
    rw [lower, List.all_map]
    exact congrArg u.all (funext hp)
  rw [← hlower, h, hlower]

end SheetQuery.Text
