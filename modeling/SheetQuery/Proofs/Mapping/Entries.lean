import Mathlib.Data.List.Sort
import SheetQuery.Proofs.Mapping.History
import SheetQuery.Proofs.Text.Sorted

/-!
# The entries of a store as a set

The entries are listed in an order that the entries alone decide, so two stores with the same entries list them alike.

* `entries_eq_of_perm`: a list in order with the same entries is the list of the entries.
* `perm_entries_add` and `perm_entries_removeTable`: what a write makes of the list.
* `entries_extend_empty`: a store is made again from its entries.
* `resolve_extend`: of entries of one table that are put in, the last one of a header stays.
* `filter_entries_extend` and `filter_tables_extend`: the other tables are listed as before.
-/

namespace SheetQuery

theorem Mapping.Before.trichotomy (a b : Mapping) :
    Before a b ∨ a.table = b.table ∧ a.label = b.label ∨ Before b a := by
  rcases Text.lt_or_eq_or_lt a.table b.table with ht | ht | ht
  · exact .inl (.inl ht)
  · rcases Text.lt_or_eq_or_lt a.label b.label with hl | hl | hl
    · exact .inl (.inr ⟨ht, hl⟩)
    · exact .inr (.inl ⟨ht, hl⟩)
    · exact .inr (.inr (.inr ⟨ht.symm, hl⟩))
  · exact .inr (.inr (.inl ht))

namespace HeaderMappings

variable {m m' : HeaderMappings}

/-- A header of a table is listed once. -/
theorem eq_of_mem_entries {a b : Mapping} (ha : a ∈ m.entries) (hb : b ∈ m.entries) (htable : a.table = b.table)
    (hlabel : a.label = b.label) : a = b := by
  rw [mem_entries] at ha hb
  rw [htable, hlabel, hb] at ha
  cases a
  cases b
  simp_all

/-- An identifier of a table is listed once. -/
theorem eq_of_mem_entries_identifier {a b : Mapping} (ha : a ∈ m.entries) (hb : b ∈ m.entries)
    (htable : a.table = b.table) (hidentifier : a.identifier = b.identifier) : a = b := by
  have hlabel : a.label = b.label := by
    have ha' := reverse_eq_some.2 (mem_entries.1 ha)
    have hb' := reverse_eq_some.2 (mem_entries.1 hb)
    rw [htable, hidentifier, hb'] at ha'
    exact (Option.some.inj ha').symm
  exact eq_of_mem_entries ha hb htable hlabel

private theorem ordered_entries (m : HeaderMappings) : m.entries.Pairwise fun a b => ¬ Mapping.Before b a := by
  refine m.pairwise_entries.imp fun {a b} hab hba => ?_
  exact Mapping.Before.irrefl a (hab.trans hba)

/-- A list in order with the same entries is the list of the entries. -/
theorem entries_eq_of_perm {l : List Mapping} (hl : l.Pairwise fun a b => ¬ Mapping.Before b a)
    (h : l.Perm m.entries) : l = m.entries := by
  refine List.Perm.eq_of_pairwise (fun a b ha hb hab hba => ?_) hl m.ordered_entries h
  rcases Mapping.Before.trichotomy a b with hbefore | ⟨ht, hl⟩ | hbehind
  · exact absurd hbefore hba
  · exact eq_of_mem_entries (h.subset ha) hb ht hl
  · exact absurd hbehind hab

theorem entries_congr (h : ∀ e, e ∈ m.entries ↔ e ∈ m'.entries) : m.entries = m'.entries :=
  entries_eq_of_perm m.ordered_entries ((List.perm_ext_iff_of_nodup m.nodup_entries m'.nodup_entries).2 h)

/-- An entry that is put in goes before those that it does not displace. -/
theorem perm_entries_add (m : HeaderMappings) (new : Mapping) :
    (m.add new).entries.Perm (new :: m.entries.filter fun e => !decide ((MappingWrite.add new).Displaces e)) := by
  have hnew : new ∉ m.entries.filter fun e => !decide ((MappingWrite.add new).Displaces e) := by
    intro h
    have hkept := (List.mem_filter.1 h).2
    simp [MappingWrite.Displaces] at hkept
  refine (List.perm_ext_iff_of_nodup (nodup_entries _)
    (List.nodup_cons.2 ⟨hnew, m.nodup_entries.filter _⟩)).2 fun e => ?_
  rw [mem_entries_add, List.mem_cons, List.mem_filter, Bool.not_eq_true', decide_eq_false_iff_not]

theorem perm_entries_removeTable (m : HeaderMappings) (table : Text) :
    (m.removeTable table).entries.Perm (m.entries.filter fun e => e.table != table) := by
  refine (List.perm_ext_iff_of_nodup (nodup_entries _) (m.nodup_entries.filter _)).2 fun e => ?_
  rw [mem_entries_removeTable, List.mem_filter, bne_iff_ne]
  exact and_congr_right fun _ => not_congr eq_comm

/-- Entries none of which displaces a later one are all put in. -/
private theorem mem_entries_extend {l : List Mapping}
    (hl : l.Pairwise fun a b => ¬ (MappingWrite.add b).Displaces a)
    (hm : ∀ e ∈ m.entries, ∀ new ∈ l, ¬ (MappingWrite.add new).Displaces e) {e : Mapping} :
    e ∈ (m.extend l).entries ↔ e ∈ m.entries ∨ e ∈ l := by
  -- by induction on what is put in: no entry of the store after the first one is displaced by the rest
  induction l generalizing m with
  | nil => simp [extend]
  | cons new l ih =>
    obtain ⟨hnew, hl⟩ := List.pairwise_cons.1 hl
    have hstep : m.extend (new :: l) = (m.add new).extend l := rfl
    rw [hstep, ih hl]
    · rw [mem_entries_add, List.mem_cons]
      constructor
      · rintro ((rfl | ⟨he, -⟩) | he)
        · exact .inr (.inl rfl)
        · exact .inl he
        · exact .inr (.inr he)
      · rintro (he | rfl | he)
        · exact .inl (.inr ⟨he, hm e he new (List.mem_cons_self ..)⟩)
        · exact .inl (.inl rfl)
        · exact .inr he
    · intro e he other hother
      rcases mem_entries_add.1 he with rfl | ⟨he, -⟩
      · exact hnew other hother
      · exact hm e he other (List.mem_cons_of_mem _ hother)

/-- A store is made again from its entries. -/
theorem entries_extend_empty (m : HeaderMappings) : (empty.extend m.entries).entries = m.entries := by
  have hnone : ∀ e, e ∉ empty.entries := fun e he => by simp [mem_entries] at he
  have hapart : m.entries.Pairwise fun a b => ¬ (MappingWrite.add b).Displaces a := by
    refine (m.nodup_entries).imp_of_mem fun {a b} ha hb hne hdisplaces => hne ?_
    rcases hdisplaces with ⟨htable, hlabel | hidentifier⟩
    · exact eq_of_mem_entries ha hb htable.symm hlabel.symm
    · exact eq_of_mem_entries_identifier ha hb htable.symm hidentifier.symm
  refine entries_congr fun e => ?_
  rw [mem_entries_extend hapart fun e he => absurd he (hnone e)]
  simp [hnone]

/-- Entries of a table that has none, under different identifiers: the last one of a header stays. -/
theorem resolve_extend {l : List Mapping} {table : Text} (htable : ∀ e ∈ l, e.table = table)
    (hl : l.Pairwise fun a b => a.identifier ≠ b.identifier) (hm : ∀ label, m.resolve table label = none) (label : Text) :
    (m.extend l).resolve table label = (l.reverse.find? (·.label == label)).map (·.identifier) := by
  -- by induction from the end: the last entry takes its header from an earlier one
  induction l using List.reverseRecOn with
  | nil => exact hm label
  | append_singleton l new ih =>
    have hstep : m.extend (l ++ [new]) = (m.extend l).add new := by
      rw [extend, List.foldl_append]
      rfl
    obtain ⟨hl, -, hnew⟩ := List.pairwise_append.1 hl
    have ih := ih (fun e he => htable e (List.mem_append_left _ he)) hl
    have hother : (m.extend l).resolve table label ≠ some new.identifier := by
      intro h
      rw [ih] at h
      obtain ⟨e, he, hidentifier⟩ := Option.map_eq_some_iff.1 h
      have hmem := List.mem_reverse.1 (List.mem_of_find?_eq_some he)
      exact hnew e hmem new (List.mem_singleton_self _) hidentifier
    rw [hstep, resolve_add, if_pos (htable new (by simp)).symm, if_neg hother, ih, List.reverse_append,
      List.reverse_singleton, List.singleton_append, List.find?_cons]
    by_cases hlabel : label = new.label
    · rw [if_pos hlabel, hlabel, beq_self_eq_true]
      rfl
    · rw [if_neg hlabel, beq_false_of_ne (Ne.symm hlabel)]

theorem resolve_extend_of_ne {l : List Mapping} {table : Text} (htable : ∀ e ∈ l, e.table ≠ table) (label : Text) :
    (m.extend l).resolve table label = m.resolve table label := by
  induction l generalizing m with
  | nil => rfl
  | cons new l ih =>
    have hstep : m.extend (new :: l) = (m.add new).extend l := rfl
    rw [hstep, ih fun e he => htable e (List.mem_cons_of_mem _ he), resolve_add,
      if_neg (htable new (List.mem_cons_self ..)).symm]

/-! ### Entries of a new table -/

section

variable {l : List Mapping} {table : Text}

theorem mem_entries_extend_of_ne (hl : ∀ e ∈ l, e.table = table) {e : Mapping} (he : e.table ≠ table) :
    e ∈ (m.extend l).entries ↔ e ∈ m.entries := by
  have hother : ∀ new ∈ l, new.table ≠ e.table := fun new hnew h => he ((hl new hnew ▸ h).symm)
  rw [mem_entries, mem_entries, resolve_extend_of_ne hother]

/-- Without the entries of the new table, the entries are listed as before. -/
theorem filter_entries_extend (htable : table ∉ m.tables) (hl : ∀ e ∈ l, e.table = table) :
    (m.extend l).entries.filter (·.table != table) = m.entries := by
  have hne : ∀ e ∈ m.entries, e.table ≠ table := by
    rintro e he rfl
    exact htable (mem_tables.2 ⟨e, he, rfl⟩)
  refine entries_eq_of_perm ((ordered_entries _).filter _) ?_
  refine (List.perm_ext_iff_of_nodup ((nodup_entries _).filter _) m.nodup_entries).2 fun e => ?_
  rw [List.mem_filter, bne_iff_ne]
  constructor
  · rintro ⟨he, hother⟩
    exact (mem_entries_extend_of_ne hl hother).1 he
  · intro he
    exact ⟨(mem_entries_extend_of_ne hl (hne e he)).2 he, hne e he⟩

theorem nodup_tables (m : HeaderMappings) : m.tables.Nodup := by
  refine m.pairwise_tables.imp ?_
  rintro a b hab rfl
  exact List.lt_irrefl _ hab

theorem filter_tables_extend (htable : table ∉ m.tables) (hl : ∀ e ∈ l, e.table = table) :
    (m.extend l).tables.filter (· != table) = m.tables := by
  refine ((pairwise_tables _).filter _).eq_of_mem_iff m.pairwise_tables fun t => ?_
  rw [List.mem_filter, bne_iff_ne, mem_tables, mem_tables]
  constructor
  · rintro ⟨⟨e, he, rfl⟩, hother⟩
    exact ⟨e, (mem_entries_extend_of_ne hl hother).1 he, rfl⟩
  · rintro ⟨e, he, rfl⟩
    have hother : e.table ≠ table := by
      rintro rfl
      exact htable (mem_tables.2 ⟨e, he, rfl⟩)
    exact ⟨⟨e, (mem_entries_extend_of_ne hl hother).2 he, rfl⟩, hother⟩

end

end HeaderMappings

end SheetQuery
