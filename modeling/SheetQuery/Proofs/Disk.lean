import SheetQuery.Disk
import SheetQuery.Proofs.Outcome

/-!
# Files that are put down and found again

* `lookup_put`: what is put where a file can be written is found there.
* `lookup_put_of_ne`: a file is found again whatever is written elsewhere.
* `writable_of_lookup`: a file that is found can be written.
-/

namespace SheetQuery.Disk

variable {d : Disk} {path : Text} {content : Content}

theorem reach_eq_ok {place : List Text} :
    d.reach place = .ok () ↔ ∀ outer ∈ above place, d.node? outer = some .directory := by
  unfold reach
  constructor
  · intro h outer houter
    split at h
    · cases h
    · rename_i hnone
      have hthis := List.findSome?_eq_none_iff.1 hnone outer houter
      split at hthis
      · assumption
      · cases hthis
      · cases hthis
  · intro h
    split
    · rename_i fault hfault
      obtain ⟨outer, houter, hthis⟩ := List.exists_of_findSome?_eq_some hfault
      rw [h outer houter] at hthis
      cases hthis
    · rfl

theorem writable_eq_ok : d.writable path = .ok () ↔
    path.isEmpty = false ∧ d.reach (Path.normalized path) = .ok () ∧ namesDirectory path = false ∧
      d.node? (Path.normalized path) ≠ some .directory := by
  unfold writable
  cases path.isEmpty with
  | true => simp
  | false =>
    cases hreach : d.reach (Path.normalized path) with
    | error fault => simp [bind, Except.bind]
    | ok u => cases namesDirectory path <;> simp [bind, Except.bind, pure, Except.pure]

theorem lookup_eq_file : d.lookup path = .ok (.file content) ↔
    path.isEmpty = false ∧ d.reach (Path.normalized path) = .ok () ∧ namesDirectory path = false ∧
      d.node? (Path.normalized path) = some (.file content) := by
  unfold lookup
  cases path.isEmpty with
  | true => simp
  | false =>
    cases hreach : d.reach (Path.normalized path) with
    | error fault => simp [bind, Except.bind, hreach]
    | ok u =>
      cases hnode : d.node? (Path.normalized path) with
      | none => simp [bind, Except.bind, hreach, hnode]
      | some node =>
        cases node with
        | directory => simp [bind, Except.bind, pure, Except.pure, hreach, hnode]
        | file c => cases namesDirectory path <;> simp [bind, Except.bind, pure, Except.pure, hreach, hnode]

theorem writable_of_lookup (h : d.lookup path = .ok (.file content)) : d.writable path = .ok () := by
  obtain ⟨hempty, hreach, hdirectory, hnode⟩ := lookup_eq_file.1 h
  exact writable_eq_ok.2 ⟨hempty, hreach, hdirectory, by simp [hnode]⟩

theorem read_eq_ok : d.read path = .ok content ↔ d.lookup path = .ok (.file content) := by
  unfold read
  cases hlookup : d.lookup path with
  | error fault => simp [bind, Except.bind]
  | ok node => cases node <;> simp [bind, Except.bind, pure, Except.pure]

theorem node?_put_self (node : Node) : (d.put path node).node? (Path.normalized path) = some node := by
  simp [put, node?]

private theorem lookup_filter {place other : List Text} (hne : other ≠ place) (nodes : List (List Text × Node)) :
    (nodes.filter (·.1 != place)).lookup other = nodes.lookup other := by
  induction nodes with
  | nil => rfl
  | cons n nodes ih =>
    by_cases hn : n.1 = place
    · have hother : (other == n.1) = false := beq_eq_false_iff_ne.2 (hn ▸ hne)
      rw [List.filter_cons_of_neg (by simp [hn]), ih, List.lookup_cons, hother]
    · rw [List.filter_cons_of_pos (by simp [hn]), List.lookup_cons, List.lookup_cons, ih]

/-- Whatever stands at another place stays there. -/
theorem node?_put_of_ne {place : List Text} {node old : Node} (h : d.node? place = some old)
    (hne : place ≠ Path.normalized path) : (d.put path node).node? place = some old := by
  have hlookup : (d.put path node).nodes.lookup place = d.nodes.lookup place := by
    rw [put, List.lookup_cons, beq_eq_false_iff_ne.2 hne]
    exact lookup_filter hne d.nodes
  unfold node? at h ⊢
  rw [hlookup]
  split at h
  · assumption
  · split at h
    · -- the directory is above what was put, or above what else stands there
      rename_i habove
      rw [if_pos, h]
      rw [Bool.or_eq_true, List.any_eq_true] at habove ⊢
      refine habove.imp_right ?_
      rintro ⟨n, hn, hprefix⟩
      by_cases hplace : n.1 = Path.normalized path
      · exact ⟨_, List.mem_cons_self .., by rw [← hplace]; exact hprefix⟩
      · exact ⟨n, List.mem_cons_of_mem _ (List.mem_filter.2 ⟨hn, by simpa using hplace⟩), hprefix⟩
    · cases h

private theorem ne_of_mem_above {place outer : List Text} (h : outer ∈ above place) : outer ≠ place := by
  obtain ⟨k, hk, rfl⟩ := List.mem_map.1 h
  intro heq
  have hlength := congrArg List.length heq
  rw [List.length_take] at hlength
  have hlt := List.mem_range.1 hk
  omega

/-- What is put where a file can be written is found there. -/
theorem lookup_put (h : d.writable path = .ok ()) :
    (d.put path (.file content)).lookup path = .ok (.file content) := by
  obtain ⟨hempty, hreach, hdirectory, -⟩ := writable_eq_ok.1 h
  refine lookup_eq_file.2 ⟨hempty, reach_eq_ok.2 fun outer houter => ?_, hdirectory, node?_put_self _⟩
  exact node?_put_of_ne (reach_eq_ok.1 hreach outer houter) (ne_of_mem_above houter)

/-- A file is found again whatever is written elsewhere. -/
theorem lookup_put_of_ne {other : Text} {new : Node} (h : d.lookup path = .ok (.file content))
    (hother : d.writable other = .ok ()) (hne : Path.normalized other ≠ Path.normalized path) :
    (d.put other new).lookup path = .ok (.file content) := by
  obtain ⟨hempty, hreach, hdirectory, hnode⟩ := lookup_eq_file.1 h
  obtain ⟨-, -, -, hplace⟩ := writable_eq_ok.1 hother
  refine lookup_eq_file.2 ⟨hempty, reach_eq_ok.2 fun outer houter => ?_, hdirectory, node?_put_of_ne hnode hne.symm⟩
  have hupper := reach_eq_ok.1 hreach outer houter
  exact node?_put_of_ne hupper fun heq => hplace (heq ▸ hupper)

end SheetQuery.Disk
