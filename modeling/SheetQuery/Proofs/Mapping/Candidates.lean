import Mathlib.Data.List.Basic
import Mathlib.Tactic.Common
import SheetQuery.Mapping.Substitution

/-!
# The order of replacement

The entries whose headers are replaced stand in an order in which a longer header comes before a shorter one,
and among the entries of one header the one of the statement's table comes first.

* `label_eq_of_infix_before`: no header comes before one that it stands inside of.
* `find?_candidates`: in either order, the first entry of a header keeps it under `labelIdentifier?`, the
  identifier that the statement's table has for it or else the first table by name.
* `filter_candidates`: entries that are taken out of a store leave a gap in the order and change nothing else in it.
-/

namespace SheetQuery

/-- Sorting leaves the members that satisfy `p` in their order, if they were in order already. -/
theorem filter_mergeSort {α : Type} {le : α → α → Bool} (trans : ∀ a b c, le a b → le b c → le a c)
    (total : ∀ a b, le a b || le b a) {p : α → Bool} {l : List α} (h : (l.filter p).Pairwise (le · ·)) :
    (l.mergeSort le).filter p = l.filter p := by
  have hsub : (l.filter p).Sublist (l.mergeSort le) := List.sublist_mergeSort trans total h List.filter_sublist
  have hfilter : (l.filter p).Sublist ((l.mergeSort le).filter p) := by
    simpa only [List.filter_filter, Bool.and_self] using hsub.filter p
  exact (hfilter.eq_of_length ((List.mergeSort_perm l le).filter p).length_eq.symm).symm

theorem find?_mergeSort {α : Type} {le : α → α → Bool} (trans : ∀ a b c, le a b → le b c → le a c)
    (total : ∀ a b, le a b || le b a) {p : α → Bool} {l : List α} (h : (l.filter p).Pairwise (le · ·)) :
    (l.mergeSort le).find? p = l.find? p := by
  rw [← List.head?_filter, filter_mergeSort trans total h, List.head?_filter]

/-- Sorting leaves members that stand on the same place in the order that they were in. -/
theorem pairwise_mergeSort_of_pairwise {α : Type} {le : α → α → Bool} (trans : ∀ a b c, le a b → le b c → le a c)
    (total : ∀ a b, le a b || le b a) {r : α → α → Prop} {l : List α} (h : l.Pairwise r) :
    (l.mergeSort le).Pairwise fun a b => le a b ∧ (le b a → r a b) := by
  classical
  rw [List.pairwise_iff_forall_sublist]
  intro a b hsub
  have hle : le a b := List.pairwise_iff_forall_sublist.1 (List.pairwise_mergeSort trans total l) hsub
  refine ⟨hle, fun hback => ?_⟩
  have hself : ∀ x, le x x := fun x => by simpa using total x x
  -- among `a` and `b` alone there is nothing to sort
  have hpair : (l.filter fun x => x = a ∨ x = b).Pairwise (le · ·) := by
    refine (List.pairwise_of_forall fun _ _ => trivial).imp_of_mem fun {x y} hx hy _ => ?_
    have hx := of_decide_eq_true (List.mem_filter.1 hx).2
    have hy := of_decide_eq_true (List.mem_filter.1 hy).2
    rcases hx with rfl | rfl <;> rcases hy with rfl | rfl
    · exact hself _
    · exact hle
    · exact hback
    · exact hself _
  have hfilter := hsub.filter fun x => x = a ∨ x = b
  rw [filter_mergeSort trans total hpair] at hfilter
  have hboth : [a, b].Sublist l := by
    have hkeep : [a, b].filter (fun x => x = a ∨ x = b) = [a, b] := by simp
    exact (hkeep ▸ hfilter).trans List.filter_sublist
  exact List.pairwise_iff_forall_sublist.1 h hboth

/-- It makes no difference whether members are taken out before or after sorting. -/
theorem filter_mergeSort_comm {α : Type} {le : α → α → Bool} (trans : ∀ a b c, le a b → le b c → le a c)
    (total : ∀ a b, le a b || le b a) {r : α → α → Prop} {l : List α} (h : l.Pairwise r)
    (hr : ∀ a b, r a b → ¬ r b a) (p : α → Bool) : (l.mergeSort le).filter p = (l.filter p).mergeSort le := by
  have hperm : ((l.mergeSort le).filter p).Perm ((l.filter p).mergeSort le) :=
    ((List.mergeSort_perm l le).filter p).trans (List.mergeSort_perm (l.filter p) le).symm
  refine hperm.eq_of_pairwise (fun a b _ _ hab hba => ?_)
    ((pairwise_mergeSort_of_pairwise trans total h).filter p)
    (pairwise_mergeSort_of_pairwise trans total (h.filter p))
  exact absurd (hba.2 hab.1) (hr a b (hab.2 hba.1))

namespace HeaderMappings

/-- The identifier that a statement about the table `context` has for a header: that of the table, else that
of the first table which has the header. -/
def labelIdentifier? (m : HeaderMappings) (context : Option Text) (label : Text) : Option Text :=
  (context.bind fun table => m.resolve table label).or (m.tables.findSome? fun table => m.resolve table label)

private theorem find?_map_label (table label : Text) (l : List (Text × Text)) :
    ((l.map fun e => (⟨table, e.1, e.2⟩ : Mapping)).find? (·.label == label)).map (·.identifier) =
      l.lookup label := by
  induction l with
  | nil => rfl
  | cons e l ih =>
    rw [List.map_cons, List.find?_cons, List.lookup_cons]
    by_cases h : e.1 = label
    · simp [h]
    · rw [beq_false_of_ne h, beq_false_of_ne (Ne.symm h), ih]

/-- The first entry of a header is that of the first table which has it. -/
theorem find?_entries (m : HeaderMappings) (label : Text) :
    (m.entries.find? (·.label == label)).map (·.identifier) =
      m.tables.findSome? fun table => m.resolve table label := by
  have hresolve : ∀ t ∈ m.byTable.entries, m.resolve t.1 label = t.2.forward.get? label := by
    rintro ⟨table, headers⟩ ht
    rw [resolve, Dictionary.mem_entries.1 ht, Option.bind_some]
  rw [entries, List.find?_flatMap, List.map_findSome?, tables, Dictionary.keys, List.findSome?_map]
  generalize m.byTable.entries = l at hresolve
  induction l with
  | nil => rfl
  | cons t l ih =>
    have ht := hresolve t (List.mem_cons_self ..)
    rw [List.findSome?_cons, List.findSome?_cons, ih fun t' ht' => hresolve t' (List.mem_cons_of_mem _ ht')]
    simp only [Function.comp_apply, ht, find?_map_label, Dictionary.get?]

/-! ### Longer headers first -/

private theorem longerFirst_trans (a b c : Mapping) :
    decide (b.label.length ≤ a.label.length) → decide (c.label.length ≤ b.label.length) →
      decide (c.label.length ≤ a.label.length) := by
  simp only [decide_eq_true_eq]
  omega

private theorem longerFirst_total (a b : Mapping) :
    (decide (b.label.length ≤ a.label.length) || decide (a.label.length ≤ b.label.length)) = true := by
  simp only [Bool.or_eq_true, decide_eq_true_eq]
  omega

/-- No header comes before a longer one. -/
theorem pairwise_candidates (m : HeaderMappings) (sql : Text) :
    (m.candidates sql .longestFirst).Pairwise fun a b => b.label.length ≤ a.label.length :=
  (List.pairwise_mergeSort longerFirst_trans longerFirst_total _).imp fun h => by simpa using h

/-- A header that stands inside one that comes later is that one. -/
theorem label_eq_of_infix_before (m : HeaderMappings) (sql : Text) :
    (m.candidates sql .longestFirst).Pairwise fun a b => a.label <:+: b.label → a.label = b.label :=
  (pairwise_candidates m sql).imp fun h hab => hab.eq_of_length (Nat.le_antisymm hab.length_le h)

/-! ### The table of the statement first -/

section

variable (outside : Mapping → Bool)

private theorem insideFirst_trans (a b c : Mapping) :
    (!outside a || outside b) → (!outside b || outside c) → (!outside a || outside c) := by
  cases outside a <;> cases outside b <;> simp

private theorem insideFirst_total (a b : Mapping) :
    ((!outside a || outside b) || (!outside b || outside a)) = true := by
  cases outside a <;> cases outside b <;> rfl

/-- If an entry of a header lies inside, so does the first one after sorting. -/
private theorem inside_of_find?_eq_some {l : List Mapping} {p : Mapping → Bool} {x y : Mapping}
    (hx : (l.mergeSort fun a b => !outside a || outside b).find? p = some x) (hy : y ∈ l) (hpy : p y)
    (hin : outside y = false) : outside x = false := by
  have hsorted := List.pairwise_mergeSort (insideFirst_trans outside) (insideFirst_total outside) l
  rw [List.find?_eq_some_iff_append] at hx
  obtain ⟨-, before, after, h, hbefore⟩ := hx
  have hy' : y ∈ l.mergeSort fun a b => !outside a || outside b := List.mem_mergeSort.2 hy
  rw [h] at hy' hsorted
  -- `y` stands behind the first member `x`, so what comes before it in the order lies inside too
  rcases List.mem_append.1 hy' with hy' | hy'
  · exact absurd hpy (by simpa using hbefore y hy')
  · rcases List.mem_cons.1 hy' with rfl | hy'
    · exact hin
    · have hxy := (List.pairwise_cons.1 (List.pairwise_append.1 hsorted).2.1).1 y hy'
      simpa [hin] using hxy

end

theorem mem_candidates {m : HeaderMappings} {sql : Text} {order : SubstitutionOrder} {e : Mapping} :
    e ∈ m.candidates sql order ↔ e ∈ m.entries ∧ e.label ≠ [] := by
  cases order <;> simp [candidates]

/-- Stores that differ in some entries only have the others replaced in the same order. -/
theorem filter_candidates {m m' : HeaderMappings} {sql : Text} {p : Mapping → Bool}
    (hcontext : tableContext sql m'.tables = tableContext sql m.tables) (hentries : m'.entries.filter p = m.entries)
    (order : SubstitutionOrder) : (m'.candidates sql order).filter p = m.candidates sql order := by
  have hnamed : (m'.entries.filter (!·.label.isEmpty)).filter p = m.entries.filter (!·.label.isEmpty) := by
    rw [List.filter_comm, hentries]
  have hordered := m'.pairwise_entries.filter (!·.label.isEmpty)
  have hasymm : ∀ a b, Mapping.Before a b → ¬ Mapping.Before b a := fun a b h h' => Mapping.Before.irrefl a (h.trans h')
  let outside (e : Mapping) : Bool := tableContext sql m.tables != some e.table
  have hfirst := filter_mergeSort_comm (insideFirst_trans outside) (insideFirst_total outside) hordered hasymm p
  unfold candidates
  rw [hcontext]
  cases order with
  | storeOrder => exact hfirst.trans (by rw [hnamed])
  | longestFirst =>
    -- the first sorting leaves an order that the second one keeps among headers of one length
    have hpairwise := pairwise_mergeSort_of_pairwise (insideFirst_trans outside) (insideFirst_total outside) hordered
    refine (filter_mergeSort_comm longerFirst_trans longerFirst_total hpairwise (fun a b hab hba => ?_) p).trans ?_
    · exact hasymm a b (hab.2 hba.1) (hba.2 hab.1)
    · rw [hfirst, hnamed]

private theorem find?_candidates_eq (m : HeaderMappings) (sql label : Text) (order : SubstitutionOrder) :
    (m.candidates sql order).find? (·.label == label) =
      (m.candidates sql .storeOrder).find? (·.label == label) := by
  cases order with
  | storeOrder => rfl
  | longestFirst =>
    refine find?_mergeSort longerFirst_trans longerFirst_total ?_
    -- the entries of one header are of one length, so sorting by length leaves them in order
    refine List.Pairwise.imp_of_mem ?_ (List.pairwise_of_forall fun _ _ => trivial)
    intro a b ha hb _
    simp only [List.mem_filter, beq_iff_eq] at ha hb
    simp [ha.2, hb.2]

private theorem find?_named (m : HeaderMappings) {label : Text} (hlabel : label ≠ []) :
    (m.entries.filter (!·.label.isEmpty)).find? (·.label == label) = m.entries.find? (·.label == label) := by
  rw [List.find?_filter]
  congr 1
  funext e
  by_cases h : e.label = label
  · simp [h, hlabel]
  · simp [h]

/-- The first candidate of a header has the identifier that the statement has for it. -/
theorem find?_candidates (m : HeaderMappings) (sql : Text) (order : SubstitutionOrder) {label : Text}
    (hlabel : label ≠ []) :
    ((m.candidates sql order).find? (·.label == label)).map (·.identifier) =
      m.labelIdentifier? (tableContext sql m.tables) label := by
  rw [find?_candidates_eq]
  unfold candidates labelIdentifier?
  generalize tableContext sql m.tables = context
  simp only
  by_cases hin : ∃ y ∈ m.entries, y.label = label ∧ context = some y.table
  · -- the table of the statement has the header: the first candidate is its entry
    obtain ⟨y, hy, rfl, rfl⟩ := hin
    have hyn : y ∈ m.entries.filter (!·.label.isEmpty) := by simp [hy, hlabel]
    obtain ⟨x, hx⟩ : ∃ x, ((m.entries.filter (!·.label.isEmpty)).mergeSort fun a b =>
        !(some y.table != some a.table) || some y.table != some b.table).find? (·.label == y.label) = some x := by
      rw [← Option.isSome_iff_exists, List.find?_isSome]
      exact ⟨y, List.mem_mergeSort.2 hyn, by simp⟩
    have hinside := inside_of_find?_eq_some _ hx hyn (by simp) (by simp)
    have hxm : x ∈ m.entries := (List.mem_filter.1 (List.mem_mergeSort.1 (List.mem_of_find?_eq_some hx))).1
    have hxl : x.label = y.label := by simpa using List.find?_some hx
    have hxt : y.table = x.table := by simpa using hinside
    rw [hx, Option.map_some, Option.bind_some, hxt, ← hxl, mem_entries.1 hxm, Option.some_or]
  · -- no entry of the header is preferred: sorting leaves them in the order of the tables
    have hout : ∀ e ∈ m.entries, e.label = label → context ≠ some e.table := fun e he hl hc =>
      hin ⟨e, he, hl, hc⟩
    have hnone : (context.bind fun table => m.resolve table label) = none := by
      rw [Option.bind_eq_none_iff]
      intro table hc
      cases hr : m.resolve table label with
      | none => rfl
      | some identifier => exact absurd hc (hout _ (resolve_eq_some.1 hr) rfl)
    rw [hnone, Option.none_or, ← find?_entries, ← find?_named m hlabel, find?_mergeSort]
    · exact insideFirst_trans fun e => context != some e.table
    · exact insideFirst_total fun e => context != some e.table
    · refine List.Pairwise.imp_of_mem ?_ (List.pairwise_of_forall fun _ _ => trivial)
      intro a b _ hb _
      simp only [List.mem_filter, beq_iff_eq] at hb
      simp [hout b hb.1.1 hb.2]

theorem identifier_of_find?_candidates {m : HeaderMappings} {sql label : Text} {order : SubstitutionOrder} {e : Mapping}
    (h : (m.candidates sql order).find? (·.label == label) = some e) :
    e.identifier = (m.labelIdentifier? (tableContext sql m.tables) label).getD [] := by
  have hlabel : e.label = label := by simpa using List.find?_some h
  have hne : label ≠ [] := hlabel ▸ (mem_candidates.1 (List.mem_of_find?_eq_some h)).2
  rw [← find?_candidates m sql order hne, h, Option.map_some, Option.getD_some]

end HeaderMappings

end SheetQuery
