import SheetQuery.Text.Dictionary

/-!
# Header mappings

Which header of a table is kept under which identifier. A table has two dictionaries, one that leads from
headers to identifiers and one that leads back, and every change is made in both. That they agree is part
of the type, so within a table no header and no identifier occurs twice. Tables do not touch each other.

* `add` puts a header in under an identifier. An identifier that the header had before loses it, and a
  header that had the identifier before goes.
* `removeTable` takes out all headers of a table.
* `resolve` leads from a header to its identifier, `reverse` back, and `entries` lists everything in order.
-/

namespace SheetQuery

/-- A header of a table and the identifier that it is kept under. -/
structure Mapping where
  table : Text
  label : Text
  identifier : Text
deriving DecidableEq, Repr

namespace Mapping

def Before (a b : Mapping) : Prop := a.table < b.table ∨ (a.table = b.table ∧ a.label < b.label)

instance (a b : Mapping) : Decidable (Before a b) := by unfold Before; infer_instance

theorem Before.trans {a b c : Mapping} (h : Before a b) (h' : Before b c) : Before a c := by
  rcases h with h | ⟨h, hl⟩ <;> rcases h' with h' | ⟨h', hl'⟩
  · exact .inl (List.lt_trans h h')
  · exact .inl (h' ▸ h)
  · exact .inl (h ▸ h')
  · exact .inr ⟨h.trans h', List.lt_trans hl hl'⟩

theorem Before.irrefl (a : Mapping) : ¬ Before a a := by
  rintro (h | ⟨-, h⟩) <;> exact List.lt_irrefl _ h

end Mapping

/-- The headers of a table: which identifier each is kept under, and which header an identifier keeps. -/
structure TableHeaders where
  forward : Dictionary Text
  inverse : Dictionary Text
  agree : ∀ label identifier, forward.get? label = some identifier ↔ inverse.get? identifier = some label

namespace TableHeaders

def empty : TableHeaders := ⟨.empty, .empty, by simp⟩

/-- The inverse dictionary when `label` is about to be kept under `identifier`: another identifier that it
was kept under is taken out. -/
def freed (t : TableHeaders) (label identifier : Text) : Dictionary Text :=
  match t.forward.get? label with
  | some previous =>
    if previous ≠ identifier ∧ t.inverse.get? previous = some label then t.inverse.erase previous
    else t.inverse
  | none => t.inverse

/-- The forward dictionary when `identifier` keeps `label`: another header that it kept is taken out. -/
def displaced (t : TableHeaders) (label identifier : Text) : Dictionary Text :=
  let forward := t.forward.insert label identifier
  match (t.freed label identifier).get? identifier with
  | some other => if other ≠ label then forward.erase other else forward
  | none => forward

theorem get?_freed (t : TableHeaders) (label identifier i : Text) :
    (t.freed label identifier).get? i =
      if i ≠ identifier ∧ t.inverse.get? i = some label then none else t.inverse.get? i := by
  have hi := t.agree label i
  unfold freed
  split
  · rename_i previous hp
    have hback := (t.agree label previous).1 hp
    by_cases hne : previous = identifier
    · rw [if_neg (by simp [hne])]
      by_cases h : i ≠ identifier ∧ t.inverse.get? i = some label
      · exact absurd (Option.some.inj (hp.symm.trans (hi.2 h.2))) (hne ▸ Ne.symm h.1)
      · rw [if_neg h]
    · rw [if_pos ⟨hne, hback⟩, Dictionary.get?_erase]
      by_cases hip : i = previous
      · subst hip
        simp [hne, hback]
      · rw [if_neg hip, if_neg]
        rintro ⟨-, h⟩
        exact hip (Option.some.inj ((hi.2 h).symm.trans hp))
  · rename_i hp
    rw [if_neg]
    rintro ⟨-, h⟩
    simp [hp] at hi
    exact hi h

theorem get?_displaced (t : TableHeaders) (label identifier l : Text) :
    (t.displaced label identifier).get? l =
      if l = label then some identifier
      else if t.forward.get? l = some identifier then none else t.forward.get? l := by
  have hl := t.agree l identifier
  unfold displaced
  rw [get?_freed, if_neg (by simp)]
  split
  · rename_i other ho
    have hother := (t.agree other identifier).2 ho
    split
    · rename_i hne
      rw [Dictionary.get?_erase, Dictionary.get?_insert]
      by_cases h : l = other
      · subst h
        simp [hne, hother]
      · by_cases h' : l = label
        · simp [h', Ne.symm hne]
        · have hnot : t.forward.get? l ≠ some identifier := fun hf =>
            h (Option.some.inj ((hl.1 hf).symm.trans ho))
          simp [h, h', hnot]
    · rename_i heq
      rw [Dictionary.get?_insert]
      by_cases h' : l = label
      · simp [h']
      · have hnot : t.forward.get? l ≠ some identifier := fun hf =>
          h' ((Option.some.inj ((hl.1 hf).symm.trans ho)).trans (Decidable.not_not.1 heq))
        simp [h', hnot]
  · rename_i ho
    rw [Dictionary.get?_insert]
    have hnot : t.forward.get? l ≠ some identifier := fun hf => by simp [ho] at hl; exact hl hf
    simp [hnot]

/-- A header is kept under an identifier from now on. -/
def add (t : TableHeaders) (label identifier : Text) : TableHeaders where
  forward := t.displaced label identifier
  inverse := (t.freed label identifier).insert identifier label
  agree l i := by
    rw [get?_displaced, Dictionary.get?_insert, get?_freed]
    have h := t.agree l i
    by_cases hl : l = label
    · by_cases hi : i = identifier
      · simp [hl, hi]
      · subst hl
        simp [hi, Ne.symm hi]
    · by_cases hi : i = identifier
      · subst hi
        simp [hl, Ne.symm hl]
      · grind

end TableHeaders

/-- A store of header mappings: the headers of the tables that have some. -/
structure HeaderMappings where
  byTable : Dictionary TableHeaders
  inhabited : ∀ table headers, byTable.get? table = some headers → headers.forward.entries ≠ []

namespace HeaderMappings

def empty : HeaderMappings := ⟨.empty, by simp⟩

instance : Inhabited HeaderMappings := ⟨empty⟩

def ofTable (m : HeaderMappings) (table : Text) : TableHeaders := (m.byTable.get? table).getD .empty

def add (m : HeaderMappings) (new : Mapping) : HeaderMappings where
  byTable := m.byTable.insert new.table ((m.ofTable new.table).add new.label new.identifier)
  inhabited table headers h := by
    rw [Dictionary.get?_insert] at h
    split at h
    · have hmem : (new.label, new.identifier) ∈ headers.forward.entries := by
        rw [Dictionary.mem_entries, ← Option.some.inj h]
        simp [TableHeaders.add, TableHeaders.get?_displaced]
      exact List.ne_nil_of_mem hmem
    · exact m.inhabited table headers h

def extend (m : HeaderMappings) (entries : List Mapping) : HeaderMappings := entries.foldl add m

def removeTable (m : HeaderMappings) (table : Text) : HeaderMappings where
  byTable := m.byTable.erase table
  inhabited other headers h := by
    rw [Dictionary.get?_erase] at h
    split at h
    · cases h
    · exact m.inhabited other headers h

def resolve (m : HeaderMappings) (table label : Text) : Option Text :=
  (m.byTable.get? table).bind fun headers => headers.forward.get? label

def reverse (m : HeaderMappings) (table identifier : Text) : Option Text :=
  (m.byTable.get? table).bind fun headers => headers.inverse.get? identifier

/-- The headers of a table with their identifiers, ordered by header, if it has any. -/
def tableMappings? (m : HeaderMappings) (table : Text) : Option (List (Text × Text)) :=
  (m.byTable.get? table).map fun headers => headers.forward.entries

def tables (m : HeaderMappings) : List Text := m.byTable.keys

/-- All entries, ordered by table and then by header. -/
def entries (m : HeaderMappings) : List Mapping :=
  m.byTable.entries.flatMap fun (table, headers) =>
    headers.forward.entries.map fun (label, identifier) => ⟨table, label, identifier⟩

def snapshot (m : HeaderMappings) : List (Text × List (Text × Text)) :=
  m.byTable.entries.map fun (table, headers) => (table, headers.forward.entries)

def size (m : HeaderMappings) : Nat :=
  sumOf (fun (_, headers) => headers.forward.entries.length) m.byTable.entries

theorem resolve_eq_ofTable (m : HeaderMappings) (table label : Text) :
    m.resolve table label = (m.ofTable table).forward.get? label := by
  unfold resolve ofTable
  cases m.byTable.get? table <;> rfl

theorem reverse_eq_ofTable (m : HeaderMappings) (table identifier : Text) :
    m.reverse table identifier = (m.ofTable table).inverse.get? identifier := by
  unfold reverse ofTable
  cases m.byTable.get? table <;> rfl

theorem reverse_eq_some {m : HeaderMappings} {table identifier label : Text} :
    m.reverse table identifier = some label ↔ m.resolve table label = some identifier := by
  rw [reverse_eq_ofTable, resolve_eq_ofTable, (m.ofTable table).agree]

theorem mem_entries {m : HeaderMappings} {e : Mapping} :
    e ∈ m.entries ↔ m.resolve e.table e.label = some e.identifier := by
  simp only [entries, resolve, List.mem_flatMap, List.mem_map, Option.bind_eq_some_iff]
  constructor
  · rintro ⟨⟨table, headers⟩, ht, ⟨label, identifier⟩, hl, rfl⟩
    exact ⟨headers, Dictionary.mem_entries.1 ht, Dictionary.mem_entries.1 hl⟩
  · rintro ⟨headers, ht, hl⟩
    exact ⟨(e.table, headers), Dictionary.mem_entries.2 ht, (e.label, e.identifier),
      Dictionary.mem_entries.2 hl, rfl⟩

theorem resolve_eq_some {m : HeaderMappings} {table label identifier : Text} :
    m.resolve table label = some identifier ↔ ⟨table, label, identifier⟩ ∈ m.entries :=
  (mem_entries (e := ⟨table, label, identifier⟩)).symm

theorem mem_tables {m : HeaderMappings} {table : Text} :
    table ∈ m.tables ↔ ∃ e ∈ m.entries, e.table = table := by
  simp only [tables, Dictionary.mem_keys, entries, List.mem_flatMap, List.mem_map]
  constructor
  · rintro ⟨headers, ht⟩
    obtain ⟨e, he⟩ := List.exists_mem_of_ne_nil _ (m.inhabited table headers ht)
    exact ⟨_, ⟨_, Dictionary.mem_entries.2 ht, e, he, rfl⟩, rfl⟩
  · rintro ⟨-, ⟨⟨t, headers⟩, ht, -, -, rfl⟩, rfl⟩
    exact ⟨headers, Dictionary.mem_entries.1 ht⟩

theorem pairwise_tables (m : HeaderMappings) : m.tables.Pairwise (· < ·) :=
  List.pairwise_map.2 m.byTable.ordered

theorem pairwise_entries (m : HeaderMappings) : m.entries.Pairwise Mapping.Before := by
  rw [entries, List.pairwise_flatMap]
  constructor
  · intro t _
    rw [List.pairwise_map]
    exact t.2.forward.ordered.imp fun h => .inr ⟨rfl, h⟩
  · refine m.byTable.ordered.imp fun h => ?_
    simp only [List.mem_map]
    rintro _ ⟨_, _, rfl⟩ _ ⟨_, _, rfl⟩
    exact .inl h

theorem size_eq_length_entries (m : HeaderMappings) : m.size = m.entries.length := by
  unfold size entries sumOf
  induction m.byTable.entries with
  | nil => rfl
  | cons t rest ih => simp [ih]

@[simp] theorem resolve_empty (table label : Text) : empty.resolve table label = none := rfl

theorem resolve_add (m : HeaderMappings) (new : Mapping) (table label : Text) :
    (m.add new).resolve table label =
      if table = new.table then
        if label = new.label then some new.identifier
        else if m.resolve table label = some new.identifier then none else m.resolve table label
      else m.resolve table label := by
  simp only [resolve_eq_ofTable]
  by_cases ht : table = new.table
  · subst ht
    have hof : (m.add new).ofTable new.table = (m.ofTable new.table).add new.label new.identifier := by
      simp [ofTable, add, Dictionary.get?_insert]
    rw [hof, if_pos rfl]
    exact TableHeaders.get?_displaced _ _ _ _
  · have hof : (m.add new).ofTable table = m.ofTable table := by
      simp [ofTable, add, Dictionary.get?_insert, ht]
    rw [hof, if_neg ht]

theorem resolve_removeTable (m : HeaderMappings) (table other label : Text) :
    (m.removeTable table).resolve other label = if other = table then none else m.resolve other label := by
  unfold resolve removeTable
  rw [Dictionary.get?_erase]
  split <;> rfl

end HeaderMappings

end SheetQuery
