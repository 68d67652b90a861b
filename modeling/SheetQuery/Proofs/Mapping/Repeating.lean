import SheetQuery.Plan
import SheetQuery.Proofs.Mapping.Tokens
import SheetQuery.Proofs.Text.Overlap

/-!
# Substitution again

A statement that has gone through the substitution goes through it a second time.  That changes it if and only if a
header still stands in it: each replacement takes Han characters away and brings none.  A header that was replaced can
come back only if it meets an identifier that a later replacement brings.

* `substituteIn_eq_self_iff`: the statements that the substitution leaves alone.
* `Detached`: no header meets an identifier that can be brought after its turn.
* `not_infix_substitute`: then no header is left.
* `substitute_again`: when a second substitution changes nothing.
-/

namespace SheetQuery

open Text (RunsInto)

/-- One of the texts can begin at a place inside the other one. -/
def Text.Meets (u v : Text) : Prop := RunsInto u v ∨ RunsInto v u

instance (u v : Text) : Decidable (Text.Meets u v) := by unfold Text.Meets; infer_instance

theorem ne_nil_of_mem_surfaceForms {label form : Text} (hlabel : label ≠ []) (h : form ∈ surfaceForms label) :
    form ≠ [] := by
  simp only [surfaceForms, List.mem_cons, List.not_mem_nil, or_false] at h
  rcases h with rfl | rfl | rfl | rfl
  · simp
  · simp
  · simp
  · exact hlabel

theorem infix_of_mem_surfaceForms {label form : Text} (h : form ∈ surfaceForms label) : label <:+: form := by
  simp only [surfaceForms, List.mem_cons, List.not_mem_nil, or_false] at h
  rcases h with rfl | rfl | rfl | rfl
  · exact List.infix_append ..
  · exact List.infix_append ..
  · exact List.infix_append ..
  · exact List.infix_rfl

namespace HeaderMappings

/-! ### Statements that are left alone -/

section

variable {m : HeaderMappings}

/-- The replacements of a list of forms take Han characters away, or none of the forms is there. -/
private theorem count_foldl_forms {forms : List Text} (hforms : ∀ form ∈ forms, Text.hasHan form) {identifier : Text}
    (hid : Text.hasHan identifier = false) (s : Text) :
    let s' := forms.foldl (fun text form => Text.replaceAll form identifier text) s
    s'.countP Text.isHan < s.countP Text.isHan ∨ s' = s ∧ ∀ form ∈ forms, ¬ form <:+: s := by
  induction forms generalizing s with
  | nil => simp
  | cons form forms ih =>
    obtain ⟨hform, hforms⟩ := List.forall_mem_cons.1 hforms
    rw [List.foldl_cons]
    rcases Text.count_replaceAll hform hid s with hlt | ⟨hsame, hnone⟩
    · left
      rcases ih hforms (Text.replaceAll form identifier s) with hlt' | ⟨hsame', -⟩
      · exact hlt'.trans hlt
      · rwa [hsame']
    · rw [hsame]
      refine (ih hforms s).imp_right fun ⟨hsame', hnone'⟩ => ⟨hsame', ?_⟩
      exact List.forall_mem_cons.2 ⟨hnone, hnone'⟩

private theorem count_substituteLabel {label identifier : Text} (hlabel : Text.hasHan label)
    (hid : Text.hasHan identifier = false) (s : Text) :
    (substituteLabel s label identifier).countP Text.isHan < s.countP Text.isHan ∨
      substituteLabel s label identifier = s ∧ ¬ label <:+: s := by
  have hforms : ∀ form ∈ surfaceForms label, Text.hasHan form := by
    intro form hform
    obtain ⟨c, hc, hhan⟩ := List.any_eq_true.1 hlabel
    exact List.any_eq_true.2 ⟨c, (infix_of_mem_surfaceForms hform).subset hc, hhan⟩
  refine (count_foldl_forms hforms hid s).imp_right fun ⟨hsame, hnone⟩ => ⟨hsame, ?_⟩
  exact hnone label (by simp [surfaceForms])

private theorem count_foldl_entries (hm : m.Protected) {entries : List Mapping}
    (hentries : ∀ e ∈ entries, e ∈ m.entries ∧ e.label ≠ []) (s : Text) :
    let s' := entries.foldl (fun text e =>
      if Text.occursIn e.label text then substituteLabel text e.label e.identifier else text) s
    s'.countP Text.isHan < s.countP Text.isHan ∨ s' = s ∧ ∀ e ∈ entries, ¬ e.label <:+: s := by
  induction entries generalizing s with
  | nil => simp
  | cons e entries ih =>
    obtain ⟨⟨he, hne⟩, hentries⟩ := List.forall_mem_cons.1 hentries
    rw [List.foldl_cons]
    by_cases hocc : Text.occursIn e.label s
    · -- the header is there, so its turn takes Han characters away, and no later one brings any
      rw [if_pos hocc]
      left
      have hlt := (count_substituteLabel (hm.labels e he hne) (hm.identifiers e he) s).resolve_right fun h =>
        h.2 (Text.occursIn_iff.1 hocc)
      rcases ih hentries (substituteLabel s e.label e.identifier) with hlt' | ⟨hsame, -⟩
      · exact hlt'.trans hlt
      · rwa [hsame]
    · rw [if_neg hocc]
      refine (ih hentries s).imp_right fun ⟨hsame, hnone⟩ => ⟨hsame, ?_⟩
      exact List.forall_mem_cons.2 ⟨fun h => hocc (Text.occursIn_iff.2 h), hnone⟩

private theorem foldl_of_absent {entries : List Mapping} {s : Text}
    (h : ∀ e ∈ entries, Text.occursIn e.label s = false) : entries.foldl (fun text e =>
      if Text.occursIn e.label text then substituteLabel text e.label e.identifier else text) s = s := by
  induction entries with
  | nil => rfl
  | cons e entries ih =>
    obtain ⟨he, h⟩ := List.forall_mem_cons.1 h
    rw [List.foldl_cons, if_neg (by simp [he]), ih h]

/-- The substitution leaves a statement alone if and only if no header stands in it. -/
theorem substituteIn_eq_self_iff (hm : m.Protected) (order : SubstitutionOrder) (sql : Text) :
    m.substituteIn order sql = sql ↔ ∀ e ∈ m.entries, e.label ≠ [] → Text.occursIn e.label sql = false := by
  have hentries : ∀ e ∈ m.candidates sql order, e ∈ m.entries ∧ e.label ≠ [] := fun e he => mem_candidates.1 he
  have hcases := count_foldl_entries hm hentries sql
  change (m.substituteIn order sql).countP Text.isHan < _ ∨ m.substituteIn order sql = sql ∧ _ at hcases
  constructor
  · intro hsame
    obtain ⟨-, hnone⟩ := hcases.resolve_left fun hlt => by simp [hsame] at hlt
    intro e he hne
    have hnot := hnone e (mem_candidates.2 ⟨he, hne⟩)
    rwa [← Text.occursIn_iff, Bool.not_eq_true] at hnot
  · intro hnone
    refine foldl_of_absent fun e he => ?_
    obtain ⟨hmem, hne⟩ := mem_candidates.1 he
    exact hnone e hmem hne

end

/-! ### Headers that do not come back -/

/-- No header meets the identifier of a header that is not longer than it: that of a header whose turn comes before. -/
def Detached (m : HeaderMappings) : Prop :=
  ∀ e ∈ m.entries, ∀ later ∈ m.entries, e.label ≠ [] → later.label ≠ [] →
    later.label.length ≤ e.label.length → ¬ Text.Meets e.label later.identifier

instance (m : HeaderMappings) : Decidable m.Detached := by unfold Detached; infer_instance

section

variable {label other identifier s : Text}

private theorem not_infix_foldl_forms {forms : List Text} (hforms : ∀ form ∈ forms, form ≠ []) (hlabel : label ≠ [])
    (hmeets : ¬ Text.Meets label identifier) (hs : ¬ label <:+: s) :
    ¬ label <:+: forms.foldl (fun text form => Text.replaceAll form identifier text) s := by
  induction forms generalizing s with
  | nil => exact hs
  | cons form forms ih =>
    obtain ⟨hform, hforms⟩ := List.forall_mem_cons.1 hforms
    rw [List.foldl_cons]
    apply ih hforms
    apply Text.not_infix_replaceAll hform hlabel (fun h => hmeets (.inl h)) (fun h => hmeets (.inr h))
    exact fun t ht hpre => absurd (hpre.isInfix.trans ht.isInfix) hs

/-- The replacements of another header do not bring a header back that does not meet its identifier. -/
private theorem not_infix_substituteLabel (hother : other ≠ []) (hlabel : label ≠ [])
    (hmeets : ¬ Text.Meets label identifier) (hs : ¬ label <:+: s) :
    ¬ label <:+: substituteLabel s other identifier :=
  not_infix_foldl_forms (fun _ hform => ne_nil_of_mem_surfaceForms hother hform) hlabel hmeets hs

/-- Nor do those of the header itself: its bare form is replaced last. -/
private theorem not_infix_substituteLabel_self (hlabel : label ≠ []) (hmeets : ¬ Text.Meets label identifier) :
    ¬ label <:+: substituteLabel s label identifier := by
  unfold substituteLabel surfaceForms
  rw [List.foldl_cons, List.foldl_cons, List.foldl_cons, List.foldl_cons, List.foldl_nil]
  apply Text.not_infix_replaceAll hlabel hlabel (fun h => hmeets (.inl h)) (fun h => hmeets (.inr h))
  exact fun t _ hpre => hpre

/-- So it is with the turns of a list of entries. -/
private theorem not_infix_foldl {entries : List Mapping} (hlabel : label ≠ []) (hne : ∀ e ∈ entries, e.label ≠ [])
    (hmeets : ∀ e ∈ entries, ¬ Text.Meets label e.identifier) (hs : ¬ label <:+: s) :
    ¬ label <:+: entries.foldl (fun text e =>
      if Text.occursIn e.label text then substituteLabel text e.label e.identifier else text) s := by
  induction entries generalizing s with
  | nil => exact hs
  | cons e entries ih =>
    obtain ⟨he, hne⟩ := List.forall_mem_cons.1 hne
    obtain ⟨hmeet, hmeets⟩ := List.forall_mem_cons.1 hmeets
    rw [List.foldl_cons]
    apply ih hne hmeets
    split
    · exact not_infix_substituteLabel he hlabel hmeet hs
    · exact hs

private theorem not_infix_foldl_self {entries : List Mapping} (hne : ∀ e ∈ entries, e.label ≠ [])
    (hself : ∀ e ∈ entries, ¬ Text.Meets e.label e.identifier)
    (hlater : entries.Pairwise fun e later => ¬ Text.Meets e.label later.identifier) (s : Text) :
    ∀ e ∈ entries, ¬ e.label <:+: entries.foldl (fun text e =>
      if Text.occursIn e.label text then substituteLabel text e.label e.identifier else text) s := by
  induction entries generalizing s with
  | nil => simp
  | cons e entries ih =>
    obtain ⟨he, hne⟩ := List.forall_mem_cons.1 hne
    obtain ⟨hmeet, hself⟩ := List.forall_mem_cons.1 hself
    obtain ⟨hrest, hlater⟩ := List.pairwise_cons.1 hlater
    rw [List.foldl_cons]
    refine List.forall_mem_cons.2 ⟨?_, ih hne hself hlater _⟩
    -- behind its turn the header is gone, and no later turn brings it back
    apply not_infix_foldl he hne hrest
    split
    · exact not_infix_substituteLabel_self he hmeet
    · rename_i hocc
      exact fun h => hocc (Text.occursIn_iff.2 h)

end

variable {m : HeaderMappings}

/-- No header is left where none meets an identifier. -/
theorem not_infix_substitute (hm : m.Detached) (sql : Text) {e : Mapping} (he : e ∈ m.entries) (hne : e.label ≠ []) :
    ¬ e.label <:+: m.substitute sql := by
  have hmem : ∀ e ∈ m.candidates sql .longestFirst, e ∈ m.entries ∧ e.label ≠ [] := fun e he => mem_candidates.1 he
  have hlater : (m.candidates sql .longestFirst).Pairwise fun e later => ¬ Text.Meets e.label later.identifier := by
    refine (pairwise_candidates m sql).imp_of_mem fun {e later} he hlater hlength => ?_
    exact hm e (hmem e he).1 later (hmem later hlater).1 (hmem e he).2 (hmem later hlater).2 hlength
  refine not_infix_foldl_self (fun e he => (hmem e he).2) (fun e he => ?_) hlater sql e (mem_candidates.2 ⟨he, hne⟩)
  exact hm e (hmem e he).1 e (hmem e he).1 (hmem e he).2 (hmem e he).2 le_rfl

/-- A second substitution changes nothing if and only if the first one has left no header.  So it changes no statement at
all where no header meets the identifier of one that is not longer. -/
theorem substitute_again (hm : m.Protected) :
    (∀ sql, m.substitute (m.substitute sql) = m.substitute sql ↔
      ∀ e ∈ m.entries, e.label ≠ [] → Text.occursIn e.label (m.substitute sql) = false) ∧
    (m.Detached → ∀ sql, m.substitute (m.substitute sql) = m.substitute sql) := by
  have hiff : ∀ sql, m.substitute (m.substitute sql) = m.substitute sql ↔
      ∀ e ∈ m.entries, e.label ≠ [] → Text.occursIn e.label (m.substitute sql) = false := fun sql =>
    substituteIn_eq_self_iff hm .longestFirst (m.substitute sql)
  refine ⟨hiff, fun hdetached sql => (hiff sql).2 fun e he hne => ?_⟩
  have hnone := not_infix_substitute hdetached sql he hne
  rwa [← Text.occursIn_iff, Bool.not_eq_true] at hnone

/-- Headers with digits and underscores that meet no identifier. -/
private def dated : HeaderMappings :=
  HeaderMappings.empty.extend (planTable "t".toList ["3月".toList, "id".toList, "资源_ID".toList]).mappings

theorem substitute_again_dated :
    dated.Protected ∧ dated.Detached ∧
      dated.substitute "SELECT 3月, 13月 AS 资源_IDs, _3月 FROM t".toList = "SELECT _1, 1_1 AS _3s, __1 FROM t".toList ∧
      dated.substitute "SELECT _1, 1_1 AS _3s, __1 FROM t".toList = "SELECT _1, 1_1 AS _3s, __1 FROM t".toList := by
  have hm : dated.Protected := ⟨by decide +kernel, by decide +kernel⟩
  have hdetached : dated.Detached := by decide +kernel
  have hentries : dated.entries =
      [⟨"t".toList, "3月".toList, "_1".toList⟩, ⟨"t".toList, "资源_ID".toList, "_3".toList⟩] := by decide +kernel
  have hcandidates : dated.candidates "SELECT 3月, 13月 AS 资源_IDs, _3月 FROM t".toList .longestFirst =
      [⟨"t".toList, "资源_ID".toList, "_3".toList⟩, ⟨"t".toList, "3月".toList, "_1".toList⟩] := by
    simp [candidates, hentries, List.mergeSort, List.MergeSort.Internal.splitInTwo]
  have hrun : dated.substitute "SELECT 3月, 13月 AS 资源_IDs, _3月 FROM t".toList =
      "SELECT _1, 1_1 AS _3s, __1 FROM t".toList := by
    rw [substitute, substituteIn, hcandidates]
    decide +kernel
  have hagain := (substitute_again hm).2 hdetached "SELECT 3月, 13月 AS 资源_IDs, _3月 FROM t".toList
  rw [hrun] at hagain
  exact ⟨hm, hdetached, hrun, hagain⟩

/-- The headers of a table, one of which ends with the identifier of another one. -/
private def joined : HeaderMappings :=
  HeaderMappings.empty.extend (planTable "t".toList ["称".toList, "名_1".toList]).mappings

private theorem candidates_joined (sql : Text) :
    joined.candidates sql .longestFirst =
      [⟨"t".toList, "名_1".toList, "_2".toList⟩, ⟨"t".toList, "称".toList, "_1".toList⟩] := by
  have hentries : joined.entries =
      [⟨"t".toList, "名_1".toList, "_2".toList⟩, ⟨"t".toList, "称".toList, "_1".toList⟩] := by decide +kernel
  simp [candidates, hentries, List.mergeSort, List.MergeSort.Internal.splitInTwo]

/-- An identifier that is put in makes a header with the character before it, which a second substitution replaces. -/
theorem substitute_again_joined :
    joined.Protected ∧ joined.substitute "SELECT 名称 FROM t".toList = "SELECT 名_1 FROM t".toList ∧
      joined.substitute (joined.substitute "SELECT 名称 FROM t".toList) = "SELECT _2 FROM t".toList := by
  have hfirst : joined.substitute "SELECT 名称 FROM t".toList = "SELECT 名_1 FROM t".toList := by
    rw [substitute, substituteIn, candidates_joined]
    decide +kernel
  refine ⟨⟨by decide +kernel, by decide +kernel⟩, hfirst, ?_⟩
  rw [hfirst, substitute, substituteIn, candidates_joined]
  decide +kernel

end HeaderMappings

end SheetQuery
