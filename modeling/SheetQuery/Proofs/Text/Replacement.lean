import Mathlib.Data.List.Infix
import SheetQuery.Text.Han

/-!
# Occurrences and their replacement

* `occursIn_iff` says that `occursIn` is the infix order of lists.
* `replaceAll_append` passes over a text in which the pattern begins nowhere, and `replaceAll_pattern_append`
  replaces a pattern at the front.  Between them they follow `replaceAll` through a text that is known piece by
  piece.
* `absent_of_getLast` and `absent_of_head` tell from single characters that a pattern begins nowhere in a piece:
  a character next to the piece that the pattern does not have keeps the pattern from crossing.  So does
  `absent_of_head_not_mem`, from the first character of the pattern.
-/

namespace SheetQuery.Text

/-- The pattern begins at no place of `u` when `v` stands behind it. -/
def Absent (pattern u v : Text) : Prop := ∀ front back, u = front ++ back → back ≠ [] → ¬ pattern <+: back ++ v

theorem occursIn_iff {needle s : Text} : occursIn needle s = true ↔ needle <:+: s := by
  induction s with
  | nil => simp [occursIn]
  | cons c s ih =>
    rw [occursIn, Bool.or_eq_true, List.isPrefixOf_iff_prefix, ih, List.infix_cons_iff]

/-! ### Replacement piece by piece -/

private theorem replaceFrom_skip (pattern replacement u v : Text) :
    replaceFrom pattern replacement u.length (u ++ v) = replaceFrom pattern replacement 0 v := by
  induction u with
  | nil => rfl
  | cons c u ih => exact ih

theorem replaceAll_append {pattern u v : Text} (h : Absent pattern u v) (replacement : Text) :
    replaceAll pattern replacement (u ++ v) = u ++ replaceAll pattern replacement v := by
  induction u with
  | nil => rfl
  | cons c u ih =>
    have hc : ¬ pattern <+: c :: (u ++ v) := h [] (c :: u) rfl (by simp)
    have hu : Absent pattern u v := fun front back hu hne => h (c :: front) back (by simp [hu]) hne
    unfold replaceAll at ih ⊢
    rw [List.cons_append, replaceFrom, if_neg (by simpa using hc), ih hu, List.cons_append]

theorem replaceAll_pattern_append {pattern : Text} (h : pattern ≠ []) (replacement v : Text) :
    replaceAll pattern replacement (pattern ++ v) = replacement ++ replaceAll pattern replacement v := by
  cases pattern with
  | nil => exact absurd rfl h
  | cons c rest =>
    unfold replaceAll
    rw [List.cons_append, replaceFrom, if_pos (by simp), List.length_cons, Nat.add_sub_cancel,
      replaceFrom_skip]

/-! ### Patterns that begin nowhere -/

theorem absent_of_getLast {pattern u v : Text} {x : Char} (hx : x ∈ pattern) (hu : x ∉ u)
    (hlast : v = [] ∨ ∀ c ∈ u.getLast?, c ∉ pattern) : Absent pattern u v := by
  -- the pattern would end inside `u`, which does not have `x`, or take the last character of `u`
  rintro front back rfl hback hpre
  have hnot : ¬ pattern <+: back := fun h => hu (List.mem_append_right _ (h.subset hx))
  rcases hlast with rfl | hlast
  · exact hnot (by simpa using hpre)
  · rcases List.prefix_or_prefix_of_prefix hpre (List.prefix_append back v) with h | h
    · exact hnot h
    · have hmem := List.getLast_mem hback
      refine hlast _ ?_ (h.subset hmem)
      rw [List.getLast?_append, List.getLast?_eq_some_getLast hback]
      rfl

/-- A prefix that has not the first character of the second text ends in the first one. -/
theorem prefix_of_prefix_append {pattern u v : Text} (h : pattern <+: u ++ v) (hhead : ∀ c ∈ v.head?, c ∉ pattern) :
    pattern <+: u := by
  rcases List.prefix_or_prefix_of_prefix h (List.prefix_append u v) with h' | ⟨rest, rfl⟩
  · exact h'
  · rw [List.prefix_append_right_inj] at h
    cases rest with
    | nil => exact (List.append_nil u).symm ▸ List.prefix_rfl
    | cons c rest =>
      obtain ⟨behind, rfl⟩ := h
      exact absurd (by simp) (hhead c rfl)

theorem absent_of_head {pattern u v : Text} (hu : ¬ pattern <:+: u) (hhead : ∀ c ∈ v.head?, c ∉ pattern) :
    Absent pattern u v := by
  rintro front back rfl - hpre
  exact hu ((prefix_of_prefix_append hpre hhead).isInfix.trans (List.suffix_append front back).isInfix)

theorem absent_of_head_not_mem {pattern u : Text} (hne : pattern ≠ []) (hhead : ∀ c ∈ pattern.head?, c ∉ u)
    (v : Text) : Absent pattern u v := by
  rintro front back rfl hback hpre
  obtain ⟨c, rest, rfl⟩ := List.exists_cons_of_ne_nil hne
  obtain ⟨d, back, rfl⟩ := List.exists_cons_of_ne_nil hback
  have hcd : c = d := (List.cons_prefix_cons.1 hpre).1
  exact hhead c rfl (by simp [hcd])

theorem not_infix_append {pattern u v : Text} (h : Absent pattern u v) (hv : ¬ pattern <:+: v) :
    ¬ pattern <:+: u ++ v := by
  induction u with
  | nil => exact hv
  | cons c u ih =>
    have hu : Absent pattern u v := fun front back hfront hne => h (c :: front) back (by simp [hfront]) hne
    rw [List.cons_append, List.infix_cons_iff, not_or]
    exact ⟨h [] (c :: u) rfl (by simp), ih hu⟩

/-! ### Quotes around a text -/

/-- What stands between two characters that it does not have stands inside them. -/
theorem infix_of_infix_quoted {q : Char} {s u : Text} (hq : q ∉ s) (h : s <:+: q :: (u ++ [q])) : s <:+: u := by
  rcases List.infix_cons_iff.1 h with h | h
  · rcases List.prefix_cons_iff.1 h with rfl | ⟨t, rfl, -⟩
    · exact List.nil_infix
    · exact absurd (List.mem_cons_self ..) hq
  · rcases List.infix_concat_iff.1 h with h | h
    · rcases List.suffix_concat_iff.1 h with rfl | ⟨t, rfl, -⟩
      · exact List.nil_infix
      · exact absurd (by simp) hq
    · exact h

end SheetQuery.Text
