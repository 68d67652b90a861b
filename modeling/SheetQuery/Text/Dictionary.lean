import SheetQuery.Text.Basic

/-!
# Dictionaries

Values by texts, listed in the order of the texts. No text occurs twice; the order and the uniqueness are
part of the type.

* `insert` puts a value at a text, in the place of the one that stood there.
* `erase` takes out the value at a text.
* `get?` is the value at a text; `get?_insert` and `get?_erase` say what the operations make of it.
-/

namespace SheetQuery

/-- Values by texts, in the order of the texts. -/
structure Dictionary (α : Type) where
  entries : List (Text × α)
  ordered : entries.Pairwise fun a b => a.1 < b.1

namespace Dictionary

variable {α : Type}

def empty : Dictionary α := ⟨[], .nil⟩

def get? (d : Dictionary α) (key : Text) : Option α := d.entries.lookup key

def keys (d : Dictionary α) : List Text := d.entries.map (·.1)

def insertEntry (key : Text) (value : α) : List (Text × α) → List (Text × α)
  | [] => [(key, value)]
  | old :: rest =>
    if key < old.1 then (key, value) :: old :: rest
    else if key = old.1 then (key, value) :: rest
    else old :: insertEntry key value rest

private theorem key_of_mem_insertEntry {key : Text} {value : α} {e : Text × α} {l : List (Text × α)}
    (h : e ∈ insertEntry key value l) : e.1 = key ∨ e ∈ l := by
  induction l with
  | nil => simp_all [insertEntry]
  | cons old rest ih =>
    unfold insertEntry at h
    split at h
    · rcases List.mem_cons.1 h with rfl | h
      · exact .inl rfl
      · exact .inr h
    · split at h
      · rcases List.mem_cons.1 h with rfl | h
        · exact .inl rfl
        · exact .inr (List.mem_cons_of_mem _ h)
      · rcases List.mem_cons.1 h with rfl | h
        · exact .inr (List.mem_cons_self ..)
        · exact (ih h).imp_right (List.mem_cons_of_mem _)

private theorem pairwise_insertEntry {key : Text} {value : α} {l : List (Text × α)}
    (h : l.Pairwise fun a b => a.1 < b.1) : (insertEntry key value l).Pairwise fun a b => a.1 < b.1 := by
  induction l with
  | nil => simp [insertEntry]
  | cons old rest ih =>
    have hcons := h
    rw [List.pairwise_cons] at h
    unfold insertEntry
    split
    · rename_i hlt
      refine List.pairwise_cons.2 ⟨fun e he => ?_, hcons⟩
      rcases List.mem_cons.1 he with rfl | he
      · exact hlt
      · exact List.lt_trans hlt (h.1 e he)
    · split
      · rename_i heq
        exact List.pairwise_cons.2 ⟨fun e he => heq ▸ h.1 e he, h.2⟩
      · rename_i hlt hne
        refine List.pairwise_cons.2 ⟨fun e he => ?_, ih h.2⟩
        rcases key_of_mem_insertEntry he with he | he
        · rcases Text.lt_or_eq_or_lt key old.1 with h' | h' | h'
          · exact absurd h' hlt
          · exact absurd h' hne
          · exact he ▸ h'
        · exact h.1 e he

/-- A value is put at a text, in the place of the one that stood there. -/
def insert (d : Dictionary α) (key : Text) (value : α) : Dictionary α :=
  ⟨insertEntry key value d.entries, pairwise_insertEntry d.ordered⟩

def erase (d : Dictionary α) (key : Text) : Dictionary α :=
  ⟨d.entries.filter (·.1 != key), d.ordered.filter _⟩

private theorem lookup_cons_eq (key other : Text) (value : α) (l : List (Text × α)) :
    ((key, value) :: l).lookup other = if other = key then some value else l.lookup other := by
  by_cases h : other = key
  · simp [h]
  · have hb : (other == key) = false := by simpa using h
    rw [List.lookup_cons, hb, if_neg h]

private theorem lookup_insertEntry (key other : Text) (value : α) (l : List (Text × α)) :
    (insertEntry key value l).lookup other = if other = key then some value else l.lookup other := by
  induction l with
  | nil => simp [insertEntry, lookup_cons_eq]
  | cons old rest ih =>
    obtain ⟨k, v⟩ := old
    unfold insertEntry
    split
    · simp only [lookup_cons_eq]
    · split
      · rename_i hk
        simp only at hk
        subst hk
        by_cases ho : other = key <;> simp [lookup_cons_eq, ho]
      · rename_i hne
        simp only at hne
        simp only [lookup_cons_eq, ih]
        by_cases hk : other = k
        · simp [hk, Ne.symm hne]
        · simp [hk]

theorem mem_entries {d : Dictionary α} {key : Text} {value : α} :
    (key, value) ∈ d.entries ↔ d.get? key = some value := by
  obtain ⟨l, h⟩ := d
  unfold get?
  induction l with
  | nil => simp
  | cons old rest ih =>
    obtain ⟨k, v⟩ := old
    rw [List.pairwise_cons] at h
    simp only [List.mem_cons, Prod.mk.injEq, lookup_cons_eq]
    by_cases hk : key = k
    · subst hk
      have hnot : (key, value) ∉ rest := fun hm => List.lt_irrefl key (h.1 _ hm)
      simp [hnot, eq_comm]
    · simpa [hk] using ih h.2

theorem mem_keys {d : Dictionary α} {key : Text} : key ∈ d.keys ↔ ∃ value, d.get? key = some value := by
  simp only [keys, List.mem_map, ← mem_entries]
  exact ⟨fun ⟨e, he, hk⟩ => ⟨e.2, hk ▸ he⟩, fun ⟨v, hv⟩ => ⟨_, hv, rfl⟩⟩

@[simp] theorem get?_empty (key : Text) : (empty : Dictionary α).get? key = none := rfl

theorem get?_insert (d : Dictionary α) (key other : Text) (value : α) :
    (d.insert key value).get? other = if other = key then some value else d.get? other :=
  lookup_insertEntry key other value d.entries

theorem get?_erase (d : Dictionary α) (key other : Text) :
    (d.erase key).get? other = if other = key then none else d.get? other := by
  ext value
  rw [← mem_entries]
  by_cases ho : other = key
  · simp [erase, ho]
  · simp [erase, ho, mem_entries]

end Dictionary

end SheetQuery
