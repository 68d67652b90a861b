import SheetQuery.Proofs.Text.Replacement

/-!
# Texts that a replacement can bring about

A replacement joins what it inserts to what it leaves.  A text can stand at such a joint only if it runs into what is
inserted, or the other way round.

* `RunsInto`: an end of one text can be where the other one begins.
* `replaceAll_cases`: one step of a replacement.
* `not_infix_replaceAll`: a text that neither runs into what is inserted nor is run into stands in the result nowhere,
  if wherever it stood before it gave way.
* `count_replaceAll`: a replacement that takes characters of a kind away and inserts none leaves fewer of them.
-/

namespace SheetQuery.Text

/-- The second text can begin at a place inside the first one, if the right text stands behind. -/
def RunsInto (u v : Text) : Prop := ∃ s ∈ u.tails, s ≠ [] ∧ (s <+: v ∨ v <+: s)

instance (u v : Text) : Decidable (RunsInto u v) := by unfold RunsInto; infer_instance

variable {label pattern replacement s : Text}

theorem absent_of_not_runsInto (h : ¬ RunsInto replacement label) (v : Text) : Absent label replacement v := by
  intro front back hcut hback hpre
  have hmem : back ∈ replacement.tails := (List.mem_tails ..).2 ⟨front, hcut.symm⟩
  rcases List.prefix_or_prefix_of_prefix hpre (List.prefix_append back v) with h' | h'
  · exact h ⟨back, hmem, hback, .inr h'⟩
  · exact h ⟨back, hmem, hback, .inl h'⟩

/-! ### One step of a replacement -/

theorem replaceAll_cases (hne : pattern ≠ []) (replacement s : Text) :
    s = [] ∧ replaceAll pattern replacement s = [] ∨
      (∃ rest, s = pattern ++ rest ∧ rest.length < s.length ∧
        replaceAll pattern replacement s = replacement ++ replaceAll pattern replacement rest) ∨
      ∃ c rest, s = c :: rest ∧ ¬ pattern <+: s ∧
        replaceAll pattern replacement s = c :: replaceAll pattern replacement rest := by
  cases s with
  | nil => exact .inl ⟨rfl, rfl⟩
  | cons c s =>
    right
    by_cases hpre : pattern <+: c :: s
    · left
      obtain ⟨rest, hrest⟩ := hpre
      refine ⟨rest, hrest.symm, ?_, ?_⟩
      · have hpos := List.length_pos_iff.2 hne
        rw [← hrest, List.length_append]
        omega
      · rw [← hrest]
        exact replaceAll_pattern_append hne replacement rest
    · right
      refine ⟨c, s, rfl, hpre, ?_⟩
      unfold replaceAll
      rw [replaceFrom, if_neg (by simpa using hpre)]

/-- An end of a text that what is inserted cannot go on begins nothing but what began with it before. -/
private theorem prefix_of_prefix_replaceAll (hne : pattern ≠ []) (h : ¬ RunsInto label replacement) {y s : Text}
    (hy : y <:+ label) (hpre : y <+: replaceAll pattern replacement s) : y <+: s := by
  rcases replaceAll_cases hne replacement s with ⟨rfl, hrun⟩ | ⟨rest, rfl, -, hrun⟩ | ⟨c, rest, rfl, -, hrun⟩
  · rwa [hrun] at hpre
  · -- a first character of what is inserted would have to be the text's
    rw [hrun] at hpre
    by_cases hnil : y = []
    · exact hnil ▸ List.nil_prefix
    · have hmem : y ∈ label.tails := (List.mem_tails ..).2 hy
      rcases List.prefix_or_prefix_of_prefix hpre (List.prefix_append replacement _) with h' | h'
      · exact absurd ⟨y, hmem, hnil, .inl h'⟩ h
      · exact absurd ⟨y, hmem, hnil, .inr h'⟩ h
  · rw [hrun] at hpre
    rcases List.prefix_cons_iff.1 hpre with rfl | ⟨y', rfl, hpre'⟩
    · exact List.nil_prefix
    · have hy' : y' <:+ label := (List.suffix_cons c y').trans hy
      exact List.cons_prefix_cons.2 ⟨rfl, prefix_of_prefix_replaceAll hne h hy' hpre'⟩
termination_by y.length
decreasing_by simp_all

theorem not_infix_replaceAll (hne : pattern ≠ []) (hlabel : label ≠ []) (h : ¬ RunsInto label replacement)
    (h' : ¬ RunsInto replacement label) (hs : ∀ t, t <:+ s → label <+: t → pattern <+: t) :
    ¬ label <:+: replaceAll pattern replacement s := by
  induction hn : s.length using Nat.strong_induction_on generalizing s with
  | _ n ih =>
    rcases replaceAll_cases hne replacement s with ⟨rfl, hrun⟩ | ⟨rest, hrest, hlength, hrun⟩ | ⟨c, rest, hrest, hpre, hrun⟩
    · rw [hrun]
      simpa using hlabel
    · have hsuffix : rest <:+ s := ⟨pattern, hrest.symm⟩
      have hrest' := ih rest.length (by omega) (fun t ht => hs t (ht.trans hsuffix)) rfl
      rw [hrun]
      exact not_infix_append (absent_of_not_runsInto h' _) hrest'
    · have hsuffix : rest <:+ s := hrest ▸ List.suffix_cons c rest
      have hrest' := ih rest.length (by simp [← hn, hrest]) (fun t ht => hs t (ht.trans hsuffix)) rfl
      rw [hrun, List.infix_cons_iff]
      rintro (hhere | hthere)
      · rw [← hrun] at hhere
        exact hpre (hs s List.suffix_rfl (prefix_of_prefix_replaceAll hne h List.suffix_rfl hhere))
      · exact hrest' hthere

/-! ### Characters of a kind -/

theorem replaceAll_eq_self (h : ¬ pattern <:+: s) : replaceAll pattern replacement s = s := by
  have hrun := replaceAll_append (absent_of_head (v := []) h (by simp)) replacement
  rwa [List.append_nil, show replaceAll pattern replacement [] = [] from rfl, List.append_nil] at hrun

/-- A replacement of a text with characters of a kind by one without them takes some away, or it does nothing. -/
theorem count_replaceAll {p : Char → Bool} (hpattern : pattern.any p) (hreplacement : replacement.any p = false)
    (s : Text) : (replaceAll pattern replacement s).countP p < s.countP p ∨
      replaceAll pattern replacement s = s ∧ ¬ pattern <:+: s := by
  have hne : pattern ≠ [] := by
    rintro rfl
    cases hpattern
  have hpos : 0 < pattern.countP p := List.countP_pos_iff.2 (by simpa using hpattern)
  have hzero : replacement.countP p = 0 := List.countP_eq_zero.2 (by simpa using hreplacement)
  have hle : ∀ s, (replaceAll pattern replacement s).countP p ≤ s.countP p := by
    intro s
    induction hn : s.length using Nat.strong_induction_on generalizing s with
    | _ n ih =>
      rcases replaceAll_cases hne replacement s with ⟨-, hrun⟩ | ⟨rest, hrest, hlength, hrun⟩ | ⟨c, rest, rfl, -, hrun⟩
      · simp [hrun]
      · have := ih rest.length (by omega) rest rfl
        rw [hrun, hrest, List.countP_append, List.countP_append]
        omega
      · have := ih rest.length (by simp [← hn]) rest rfl
        rw [hrun, List.countP_cons, List.countP_cons]
        omega
  by_cases hocc : pattern <:+: s
  · left
    induction s with
    | nil => exact absurd (List.eq_nil_of_infix_nil hocc) hne
    | cons c s ih =>
      rcases replaceAll_cases hne replacement (c :: s) with ⟨hnil, -⟩ | ⟨rest, hrest, -, hrun⟩ | ⟨d, rest, hcons, hpre, hrun⟩
      · cases hnil
      · have := hle rest
        rw [hrun, hrest, List.countP_append, List.countP_append]
        omega
      · obtain ⟨rfl, rfl⟩ := List.cons.inj hcons
        have := ih ((List.infix_cons_iff.1 hocc).resolve_left hpre)
        rw [hrun, List.countP_cons, List.countP_cons]
        omega
  · exact .inr ⟨replaceAll_eq_self hocc, hocc⟩

end SheetQuery.Text
