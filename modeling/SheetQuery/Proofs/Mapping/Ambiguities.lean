import Mathlib.Data.List.Sort
import SheetQuery.Mapping.Ambiguity
import SheetQuery.Proofs.Mapping.Entries
import SheetQuery.Proofs.Text.Replacement

/-!
# Which ambiguities there are

The ambiguities of a store are relations between its entries, listed in an order that the entries decide too.

* `Ambiguity.Before`: the order of the list.
* `mem_sharedLabels` and `mem_nestedLabels`: the entries that make an ambiguity.
* `mem_ambiguities_of_not_involves`: an ambiguity that does not involve a table is there without its entries too.
* `Ambiguous`: what an ambiguity says of a store; `ambiguities_exact` finds in the list just the ambiguities that say
  something true, each of them once.
-/

namespace SheetQuery

/-! ### The order of a report -/

/-- The order of headers: by table, then by header. -/
def MappedLabel.Before (a b : MappedLabel) : Prop := a.table < b.table ∨ a.table = b.table ∧ a.label < b.label

theorem MappedLabel.Before.asymm {a b : MappedLabel} (h : Before a b) : ¬ Before b a := by
  intro h'
  have hself : Mapping.Before ⟨a.table, a.label, []⟩ ⟨a.table, a.label, []⟩ :=
    Mapping.Before.trans (b := ⟨b.table, b.label, []⟩) h h'
  exact Mapping.Before.irrefl _ hself

namespace Ambiguity

/-- The order of ambiguities: the shared headers, by header, and then the nested ones, by the inner header and then by
the outer one. -/
def Before : Ambiguity → Ambiguity → Prop
  | .sharedLabel label _, .sharedLabel label' _ => label < label'
  | .sharedLabel .., .nested .. => True
  | .nested .., .sharedLabel .. => False
  | .nested shorter longer, .nested shorter' longer' =>
    shorter.Before shorter' ∨ shorter = shorter' ∧ longer.Before longer'

theorem Before.asymm {a b : Ambiguity} (h : Before a b) : ¬ Before b a := by
  intro h'
  cases a with
  | sharedLabel label tables =>
    cases b with
    | sharedLabel label' tables' => exact List.lt_asymm h h'
    | nested shorter longer => exact h'
  | nested shorter longer =>
    cases b with
    | sharedLabel label tables => exact h
    | nested shorter' longer' =>
      rcases h with h | ⟨rfl, h⟩
      · rcases h' with h' | ⟨rfl, -⟩
        · exact h.asymm h'
        · exact h.asymm h
      · rcases h' with h' | ⟨-, h'⟩
        · exact h'.asymm h'
        · exact h.asymm h'

instance : Std.Asymm Before := ⟨fun _ _ => Before.asymm⟩

end Ambiguity

namespace HeaderMappings

variable {m : HeaderMappings} {a : Ambiguity}

theorem mem_labels {label : Text} : label ∈ m.labels ↔ ∃ e ∈ m.entries, e.label = label := by
  rw [labels, mem_eraseReps, Text.mem_sorted, List.mem_map]

theorem mem_owners {label : Text} {e : Mapping} : e ∈ m.owners label ↔ e ∈ m.entries ∧ e.label = label := by
  rw [owners, List.mem_filter, beq_iff_eq]

/-- A header is shared if two entries keep it under different identifiers. -/
theorem mem_sharedLabels : a ∈ m.sharedLabels ↔
    ∃ label, (∃ e ∈ m.owners label, ∃ e' ∈ m.owners label, e.identifier ≠ e'.identifier) ∧
      a = .sharedLabel label ((m.owners label).map (·.table)) := by
  simp only [sharedLabels, List.mem_filterMap]
  constructor
  · rintro ⟨label, -, ha⟩
    split at ha
    · cases ha
    · rename_i first others howners
      split at ha
      · rename_i hother
        obtain ⟨e, he, hne⟩ := List.any_eq_true.1 hother
        rw [bne_iff_ne] at hne
        refine ⟨label, ⟨e, ?_, first, ?_, hne⟩, (Option.some.inj ha).symm⟩
        · rw [howners]
          exact List.mem_cons_of_mem _ he
        · rw [howners]
          exact List.mem_cons_self ..
      · cases ha
  · rintro ⟨label, ⟨e, he, e', he', hne⟩, rfl⟩
    refine ⟨label, mem_labels.2 ⟨e, (mem_owners.1 he).1, (mem_owners.1 he).2⟩, ?_⟩
    split
    · rename_i hnone
      rw [hnone] at he
      cases he
    · rename_i first others howners
      rw [if_pos]
      -- one of the two entries differs from the first one, so it is behind it
      have hbehind : ∀ e ∈ m.owners label, e.identifier ≠ first.identifier →
          others.any (·.identifier != first.identifier) := by
        intro e he hdiffers
        rw [howners] at he
        rcases List.mem_cons.1 he with rfl | he
        · exact absurd rfl hdiffers
        · exact List.any_eq_true.2 ⟨e, he, bne_iff_ne.2 hdiffers⟩
      by_cases hfirst : e.identifier = first.identifier
      · exact hbehind e' he' fun h => hne (hfirst.trans h.symm)
      · exact hbehind e he hfirst

theorem mem_named {e : Mapping} : e ∈ m.named ↔ e ∈ m.entries ∧ e.label ≠ [] := by
  simp [named]

/-- A header is nested if it is not empty and stands inside another one. -/
theorem mem_nestedLabels : a ∈ m.nestedLabels ↔
    ∃ shorter ∈ m.named, ∃ longer ∈ m.named, shorter.label ≠ longer.label ∧ Text.occursIn shorter.label longer.label ∧
      a = .nested ⟨shorter.table, shorter.label⟩ ⟨longer.table, longer.label⟩ := by
  simp only [nestedLabels, List.mem_flatMap, List.mem_map, List.mem_filter, Bool.and_eq_true, decide_eq_true_eq]
  constructor
  · rintro ⟨shorter, hshorter, longer, ⟨hlonger, hless, hin⟩, rfl⟩
    have hne := (Utf8.size_lt_iff_of_infix (Text.occursIn_iff.1 hin)).1 hless
    exact ⟨shorter, hshorter, longer, hlonger, hne, hin, rfl⟩
  · rintro ⟨shorter, hshorter, longer, hlonger, hne, hin, rfl⟩
    have hless := (Utf8.size_lt_iff_of_infix (Text.occursIn_iff.1 hin)).2 hne
    exact ⟨shorter, hshorter, longer, ⟨hlonger, hless, hin⟩, rfl⟩

theorem ambiguities_eq_nil (h : m.entries = []) : m.ambiguities = [] := by
  refine List.eq_nil_iff_forall_not_mem.2 fun a ha => ?_
  rcases List.mem_append.1 ha with ha | ha
  · obtain ⟨label, ⟨e, he, -⟩, -⟩ := mem_sharedLabels.1 ha
    exact absurd (mem_owners.1 he).1 (by simp [h])
  · obtain ⟨e, he, -⟩ := mem_nestedLabels.1 ha
    exact absurd (mem_named.1 he).1 (by simp [h])

/-- An ambiguity that does not involve a table is one of the other entries. -/
theorem mem_ambiguities_of_not_involves {m' : HeaderMappings} {table : Text}
    (hentries : m'.entries.filter (·.table != table) = m.entries) (ha : a ∈ m'.ambiguities)
    (hinvolves : a.involves table = false) : a ∈ m.ambiguities := by
  have hmem : ∀ e ∈ m'.entries, e.table ≠ table → e ∈ m.entries := by
    intro e he hne
    rw [← hentries]
    exact List.mem_filter.2 ⟨he, bne_iff_ne.2 hne⟩
  rw [ambiguities, List.mem_append] at ha ⊢
  refine ha.imp (fun ha => ?_) fun ha => ?_
  · -- none of the owners is the table, so all of them are owners without it
    obtain ⟨label, hdiffer, rfl⟩ := mem_sharedLabels.1 ha
    have hnot : table ∉ (m'.owners label).map (·.table) := by
      simpa [Ambiguity.involves] using hinvolves
    have howners : m'.owners label = m.owners label := by
      have hkept : (m'.owners label).filter (·.table != table) = m'.owners label := by
        refine List.filter_eq_self.2 fun e he => bne_iff_ne.2 ?_
        rintro rfl
        exact hnot (List.mem_map_of_mem he)
      rw [← hkept, owners, List.filter_comm, hentries, owners]
    rw [howners] at hdiffer ⊢
    exact mem_sharedLabels.2 ⟨label, hdiffer, rfl⟩
  · obtain ⟨shorter, hshorter, longer, hlonger, hne, hin, rfl⟩ := mem_nestedLabels.1 ha
    rw [Ambiguity.involves, Bool.or_eq_false_iff, beq_eq_false_iff_ne, beq_eq_false_iff_ne] at hinvolves
    have hnamed : ∀ e ∈ m'.named, e.table ≠ table → e ∈ m.named := fun e he hother =>
      mem_named.2 ⟨hmem e (mem_named.1 he).1 hother, (mem_named.1 he).2⟩
    exact mem_nestedLabels.2 ⟨shorter, hnamed shorter hshorter hinvolves.1, longer, hnamed longer hlonger hinvolves.2,
      hne, hin, rfl⟩

/-! ### A report of what is ambiguous -/

/-- What an ambiguity says of a store: a header that several tables keep, and not all of them under one identifier, with
its tables in order; or two headers that are kept, of which the first is not empty and a proper part of the second. -/
def Ambiguous (m : HeaderMappings) : Ambiguity → Prop
  | .sharedLabel label tables =>
    (∀ table, table ∈ tables ↔ ∃ e ∈ m.entries, e.table = table ∧ e.label = label) ∧ tables.Pairwise (· < ·) ∧
      2 ≤ tables.length ∧ ¬ ∃ identifier, ∀ e ∈ m.entries, e.label = label → e.identifier = identifier
  | .nested shorter longer =>
    (∃ e ∈ m.entries, shorter = ⟨e.table, e.label⟩) ∧ (∃ e ∈ m.entries, longer = ⟨e.table, e.label⟩) ∧
      shorter.label ≠ [] ∧ shorter.label ≠ longer.label ∧ shorter.label <:+: longer.label

private theorem pairwise_owners (m : HeaderMappings) (label : Text) :
    ((m.owners label).map (·.table)).Pairwise (· < ·) := by
  rw [List.pairwise_map]
  refine (m.pairwise_entries.filter (·.label == label)).imp_of_mem fun {a b} ha hb hab => ?_
  rcases hab with htable | ⟨-, hlabel⟩
  · exact htable
  · -- two entries of the header cannot be in the order of their headers
    rw [(mem_owners.1 ha).2, (mem_owners.1 hb).2] at hlabel
    exact absurd hlabel (List.lt_irrefl label)

private theorem mem_tables_owners {label table : Text} :
    table ∈ (m.owners label).map (·.table) ↔ ∃ e ∈ m.entries, e.table = table ∧ e.label = label := by
  rw [List.mem_map]
  constructor
  · rintro ⟨e, he, rfl⟩
    exact ⟨e, (mem_owners.1 he).1, rfl, (mem_owners.1 he).2⟩
  · rintro ⟨e, he, rfl, hlabel⟩
    exact ⟨e, mem_owners.2 ⟨he, hlabel⟩, rfl⟩

private theorem two_le_length_owners {label : Text} {e e' : Mapping} (he : e ∈ m.owners label)
    (he' : e' ∈ m.owners label) (hne : e.identifier ≠ e'.identifier) : 2 ≤ (m.owners label).length := by
  cases howners : m.owners label with
  | nil => simp [howners] at he
  | cons first others =>
    cases others with
    | nil =>
      rw [howners, List.mem_singleton] at he he'
      exact absurd (he ▸ he' ▸ rfl) hne
    | cons second others => simp

private theorem sharedLabel_mem_iff {label : Text} {tables : List Text} :
    .sharedLabel label tables ∈ m.sharedLabels ↔ m.Ambiguous (.sharedLabel label tables) := by
  rw [mem_sharedLabels]
  constructor
  · rintro ⟨_, ⟨e, he, e', he', hne⟩, hsame⟩
    cases hsame
    refine ⟨fun table => mem_tables_owners, pairwise_owners m label, ?_, ?_⟩
    · rw [List.length_map]
      exact two_le_length_owners he he' hne
    · rintro ⟨identifier, hall⟩
      have hone : ∀ e ∈ m.owners label, e.identifier = identifier := fun e he =>
        hall e (mem_owners.1 he).1 (mem_owners.1 he).2
      exact hne ((hone e he).trans (hone e' he').symm)
  · rintro ⟨htables, hordered, hlength, hdiffer⟩
    have hlist : tables = (m.owners label).map (·.table) :=
      hordered.eq_of_mem_iff (pairwise_owners m label) fun table => (htables table).trans mem_tables_owners.symm
    obtain ⟨table, htable⟩ := List.exists_mem_of_length_pos (Nat.lt_of_lt_of_le Nat.zero_lt_two hlength)
    obtain ⟨e, he, -, hlabel⟩ := (htables table).1 htable
    -- the identifier of one entry is not that of all
    have hother : ∃ e' ∈ m.owners label, e'.identifier ≠ e.identifier := by
      by_contra hnone
      refine hdiffer ⟨e.identifier, fun e' he' hlabel' => ?_⟩
      by_contra hne
      exact hnone ⟨e', mem_owners.2 ⟨he', hlabel'⟩, hne⟩
    obtain ⟨e', he', hne⟩ := hother
    exact ⟨label, ⟨e', he', e, mem_owners.2 ⟨he, hlabel⟩, hne⟩, by rw [hlist]⟩

private theorem nested_mem_iff {shorter longer : MappedLabel} :
    .nested shorter longer ∈ m.nestedLabels ↔ m.Ambiguous (.nested shorter longer) := by
  rw [mem_nestedLabels]
  constructor
  · rintro ⟨s, hs, l, hl, hne, hin, hsame⟩
    cases hsame
    exact ⟨⟨s, (mem_named.1 hs).1, rfl⟩, ⟨l, (mem_named.1 hl).1, rfl⟩, (mem_named.1 hs).2, hne, Text.occursIn_iff.1 hin⟩
  · rintro ⟨⟨s, hs, rfl⟩, ⟨l, hl, rfl⟩, hnil, hne, hin⟩
    -- what has a part that is not empty is not empty
    have hlonger : l.label ≠ [] := by
      intro hempty
      rw [hempty] at hin
      exact hnil (List.eq_nil_of_infix_nil hin)
    exact ⟨s, mem_named.2 ⟨hs, hnil⟩, l, mem_named.2 ⟨hl, hlonger⟩, hne, Text.occursIn_iff.2 hin, rfl⟩

/-- The ambiguities are those that say something true of the store. -/
theorem mem_ambiguities_iff : a ∈ m.ambiguities ↔ m.Ambiguous a := by
  rw [ambiguities, List.mem_append]
  cases a with
  | sharedLabel label tables =>
    have hnested : .sharedLabel label tables ∉ m.nestedLabels := by
      intro h
      obtain ⟨_, -, _, -, -, -, hsame⟩ := mem_nestedLabels.1 h
      cases hsame
    rw [← sharedLabel_mem_iff, or_iff_left hnested]
  | nested shorter longer =>
    have hshared : .nested shorter longer ∉ m.sharedLabels := by
      intro h
      obtain ⟨_, -, hsame⟩ := mem_sharedLabels.1 h
      cases hsame
    rw [← nested_mem_iff, or_iff_right hshared]

/-- The headers are listed in order, each of them once. -/
theorem pairwise_labels (m : HeaderMappings) : m.labels.Pairwise (· < ·) :=
  pairwise_eraseReps (r := (· < ·)) (fun _ _ _ => List.lt_trans) (Text.ordered_sorted _)

private theorem pairwise_sharedLabels (m : HeaderMappings) : m.sharedLabels.Pairwise Ambiguity.Before := by
  refine List.Pairwise.filterMap _ (fun label label' hless b hb b' hb' => ?_) m.pairwise_labels
  dsimp only at hb hb'
  split at hb
  · cases hb
  · split at hb
    · cases hb
      split at hb'
      · cases hb'
      · split at hb'
        · cases hb'
          exact hless
        · cases hb'
    · cases hb

private theorem pairwise_nestedLabels (m : HeaderMappings) : m.nestedLabels.Pairwise Ambiguity.Before := by
  have hnamed : m.named.Pairwise Mapping.Before := m.pairwise_entries.filter _
  rw [nestedLabels, List.pairwise_flatMap]
  constructor
  · intro shorter _
    rw [List.pairwise_map]
    exact (hnamed.filter _).imp fun h => .inr ⟨rfl, h⟩
  · refine hnamed.imp fun h => ?_
    simp only [List.mem_map]
    rintro _ ⟨_, -, rfl⟩ _ ⟨_, -, rfl⟩
    exact .inl h

/-- The ambiguities are listed in order, each of them once. -/
theorem pairwise_ambiguities (m : HeaderMappings) : m.ambiguities.Pairwise Ambiguity.Before := by
  refine List.pairwise_append.2 ⟨m.pairwise_sharedLabels, m.pairwise_nestedLabels, fun a ha b hb => ?_⟩
  obtain ⟨_, -, rfl⟩ := mem_sharedLabels.1 ha
  obtain ⟨_, -, _, -, -, -, rfl⟩ := mem_nestedLabels.1 hb
  trivial

/-- The ambiguities of a store are exactly what is ambiguous about its entries, in order and without repeats, and stores
with the same entries have the same ones. -/
theorem ambiguities_exact (m : HeaderMappings) :
    (∀ a, a ∈ m.ambiguities ↔ m.Ambiguous a) ∧ m.ambiguities.Pairwise Ambiguity.Before ∧
      ∀ m' : HeaderMappings, (∀ e, e ∈ m'.entries ↔ e ∈ m.entries) → m'.ambiguities = m.ambiguities := by
  refine ⟨fun a => mem_ambiguities_iff, m.pairwise_ambiguities, fun m' hentries => ?_⟩
  have hsame : ∀ a, m'.Ambiguous a ↔ m.Ambiguous a := by
    intro a
    cases a <;> simp only [Ambiguous, hentries]
  refine m'.pairwise_ambiguities.eq_of_mem_iff m.pairwise_ambiguities fun a => ?_
  rw [mem_ambiguities_iff, mem_ambiguities_iff, hsame]

/-- Two tables share a header, which also stands inside a longer one. -/
private def partNames : List Mapping :=
  [⟨['a'], "产品名称".toList, "_2".toList⟩, ⟨['a'], "名称".toList, "_1".toList⟩, ⟨['b'], "名称".toList, "_3".toList⟩]

/-- It makes no difference in which order the headers were put in. -/
theorem ambiguities_exact_reordered :
    (∀ e, e ∈ (empty.extend partNames.reverse).entries ↔ e ∈ (empty.extend partNames).entries) ∧
      (empty.extend partNames.reverse).ambiguities = (empty.extend partNames).ambiguities ∧
      (empty.extend partNames).ambiguities = [.sharedLabel "名称".toList [['a'], ['b']],
        .nested ⟨['a'], "名称".toList⟩ ⟨['a'], "产品名称".toList⟩, .nested ⟨['b'], "名称".toList⟩ ⟨['a'], "产品名称".toList⟩] := by
  have hentries : (empty.extend partNames).entries = partNames := by decide +kernel
  have hreversed : (empty.extend partNames.reverse).entries = partNames := by decide +kernel
  have hsame : ∀ e, e ∈ (empty.extend partNames.reverse).entries ↔ e ∈ (empty.extend partNames).entries := fun e => by
    rw [hentries, hreversed]
  have hlabels : (empty.extend partNames).labels = ["产品名称".toList, "名称".toList] := by
    rw [labels, hentries, Text.sorted, List.mergeSort_of_pairwise (by decide)]
    decide
  refine ⟨hsame, (ambiguities_exact _).2.2 _ hsame, ?_⟩
  simp only [ambiguities, sharedLabels, nestedLabels, owners, named, hlabels, hentries]
  decide +kernel

end HeaderMappings

end SheetQuery
