import Mathlib.Data.List.Induction
import SheetQuery.Mapping.Store

/-!
# The history of a store of mappings

What a store holds after a run of calls depends on the last write that concerns an entry: an entry is there
if it was put in and nothing put it out later.

* `mem_entries_add` and `mem_entries_removeTable` say what one write makes of the entries.
* `mem_entries_ofWrites` follows a run of writes, by induction from its end.
* `history_law` adds that all ways to read the store agree, and that a call on some tables changes no answer
  for another.
-/

namespace SheetQuery

/-- A write to a store of mappings. -/
inductive MappingWrite where
  | add (new : Mapping)
  | removeTable (table : Text)
deriving DecidableEq

namespace MappingWrite

def table : MappingWrite → Text
  | add new => new.table
  | removeTable table => table

/-- The write puts the entry out, unless it is the one that puts it in. -/
def Displaces (e : Mapping) : MappingWrite → Prop
  | add new => new.table = e.table ∧ (new.label = e.label ∨ new.identifier = e.identifier)
  | removeTable table => table = e.table

instance (e : Mapping) (w : MappingWrite) : Decidable (Displaces e w) := by
  cases w <;> unfold Displaces <;> infer_instance

def apply (m : HeaderMappings) : MappingWrite → HeaderMappings
  | add new => m.add new
  | removeTable table => m.removeTable table

end MappingWrite

/-- A call that changes a store of mappings. -/
inductive MappingCall where
  | add (new : Mapping)
  | extend (entries : List Mapping)
  | removeTable (table : Text)

namespace MappingCall

def writes : MappingCall → List MappingWrite
  | add new => [.add new]
  | extend entries => entries.map .add
  | removeTable table => [.removeTable table]

def apply (m : HeaderMappings) : MappingCall → HeaderMappings
  | add new => m.add new
  | extend entries => m.extend entries
  | removeTable table => m.removeTable table

theorem apply_eq_writes (m : HeaderMappings) (c : MappingCall) :
    c.apply m = c.writes.foldl MappingWrite.apply m := by
  cases c with
  | add new => rfl
  | extend entries =>
    unfold apply writes HeaderMappings.extend
    rw [List.foldl_map]
    rfl
  | removeTable table => rfl

end MappingCall

namespace HeaderMappings

/-- The store after calls on the empty one. -/
def ofCalls (calls : List MappingCall) : HeaderMappings := calls.foldl MappingCall.apply empty

def ofWrites (writes : List MappingWrite) : HeaderMappings := writes.foldl MappingWrite.apply empty

theorem ofCalls_eq_ofWrites (calls : List MappingCall) :
    ofCalls calls = ofWrites (calls.flatMap MappingCall.writes) := by
  unfold ofCalls ofWrites
  generalize empty = m
  induction calls generalizing m with
  | nil => rfl
  | cons c calls ih => rw [List.foldl_cons, ih, List.flatMap_cons, List.foldl_append, c.apply_eq_writes]

/-! ### One write -/

theorem mem_entries_add {m : HeaderMappings} {new e : Mapping} :
    e ∈ (m.add new).entries ↔ e = new ∨ e ∈ m.entries ∧ ¬ (MappingWrite.add new).Displaces e := by
  obtain ⟨table, label, identifier⟩ := new
  obtain ⟨t, l, i⟩ := e
  simp only [mem_entries, resolve_add, MappingWrite.Displaces, Mapping.mk.injEq]
  by_cases ht : t = table
  · subst ht
    by_cases hl : l = label
    · -- the header that is written again
      simp [hl, eq_comm]
    · by_cases hi : i = identifier
      · -- another header, which the new one displaces
        subst hi
        simp [hl]
      · -- neither the header nor the identifier is the new one
        have hne : ∀ x, x = some i → x ≠ some identifier := by rintro _ rfl h; exact hi (Option.some.inj h)
        simp only [hl, hi, Ne.symm hl, Ne.symm hi, if_true, if_false, and_false, or_self, not_false_eq_true,
          and_true, false_or]
        split
        · rename_i h
          simpa using fun h' => hne _ h' h
        · rfl
  · -- an entry of another table
    simp [ht, Ne.symm ht]

theorem mem_entries_removeTable {m : HeaderMappings} {table : Text} {e : Mapping} :
    e ∈ (m.removeTable table).entries ↔ e ∈ m.entries ∧ ¬ (MappingWrite.removeTable table).Displaces e := by
  simp only [mem_entries, resolve_removeTable, MappingWrite.Displaces]
  by_cases h : e.table = table
  · simp [h]
  · simp [h, Ne.symm h]

theorem mem_entries_apply {m : HeaderMappings} {w : MappingWrite} {e : Mapping} :
    e ∈ (w.apply m).entries ↔ w = .add e ∨ e ∈ m.entries ∧ ¬ w.Displaces e := by
  cases w with
  | add new =>
    rw [MappingWrite.apply, mem_entries_add, MappingWrite.add.injEq]
    exact or_congr_left eq_comm
  | removeTable table =>
    rw [MappingWrite.apply, mem_entries_removeTable]
    simp

/-! ### A run of writes -/

/-- An entry is put in by one of the writes and none of the later ones puts it out. -/
def LastWritten (writes : List MappingWrite) (e : Mapping) : Prop :=
  ∃ earlier later, writes = earlier ++ .add e :: later ∧ ∀ w ∈ later, ¬ w.Displaces e

private theorem lastWritten_concat {writes : List MappingWrite} {w : MappingWrite} {e : Mapping} :
    LastWritten (writes ++ [w]) e ↔ w = .add e ∨ LastWritten writes e ∧ ¬ w.Displaces e := by
  constructor
  · rintro ⟨earlier, later, h, hlater⟩
    induction later using List.reverseRecOn with
    | nil =>
      have hw := (List.append_inj' h rfl).2
      exact .inl (List.cons.inj hw).1
    | append_singleton later last _ =>
      rw [← List.cons_append, ← List.append_assoc] at h
      obtain ⟨hwrites, hlast⟩ := List.append_inj' h rfl
      cases hlast
      exact .inr ⟨⟨earlier, later, hwrites, fun w' hw' => hlater w' (by simp [hw'])⟩, hlater w (by simp)⟩
  · rintro (rfl | ⟨⟨earlier, later, rfl, hlater⟩, hw⟩)
    · exact ⟨writes, [], rfl, by simp⟩
    · refine ⟨earlier, later ++ [w], by simp, fun w' hw' => ?_⟩
      rcases List.mem_append.1 hw' with h | h
      · exact hlater w' h
      · exact List.mem_singleton.1 h ▸ hw

theorem mem_entries_ofWrites {writes : List MappingWrite} {e : Mapping} :
    e ∈ (ofWrites writes).entries ↔ LastWritten writes e := by
  -- by induction from the end: the last write decides, or else the writes before it
  induction writes using List.reverseRecOn with
  | nil =>
    constructor
    · intro he
      simp [ofWrites, mem_entries] at he
    · rintro ⟨earlier, later, h, -⟩
      simp at h
  | append_singleton writes w ih =>
    have hlast : ofWrites (writes ++ [w]) = w.apply (ofWrites writes) := by simp [ofWrites]
    rw [hlast, mem_entries_apply, lastWritten_concat, ih]

/-! ### Tables apart -/

private theorem byTable_apply {m : HeaderMappings} {w : MappingWrite} {table : Text} (h : w.table ≠ table) :
    (w.apply m).byTable.get? table = m.byTable.get? table := by
  cases w with
  | add new => exact (Dictionary.get?_insert ..).trans (if_neg (Ne.symm h))
  | removeTable t => exact (Dictionary.get?_erase ..).trans (if_neg (Ne.symm h))

/-- What a store has for a table is not touched by calls that write to others. -/
theorem byTable_call {m : HeaderMappings} {c : MappingCall} {table : Text}
    (h : ∀ w ∈ c.writes, w.table ≠ table) : (c.apply m).byTable.get? table = m.byTable.get? table := by
  rw [c.apply_eq_writes]
  generalize c.writes = writes at h
  induction writes generalizing m with
  | nil => rfl
  | cons w writes ih =>
    rw [List.foldl_cons, ih fun w' hw' => h w' (List.mem_cons_of_mem _ hw'),
      byTable_apply (h w (List.mem_cons_self ..))]

theorem nodup_entries (m : HeaderMappings) : m.entries.Nodup := by
  refine m.pairwise_entries.imp ?_
  rintro a b h rfl
  exact Mapping.Before.irrefl a h

/-- The store after calls on the empty one has an entry exactly if one of the writes put it in and no later
one put it out. All ways to read it agree with its entries, which are listed in order and without repeats.
A call that writes to some tables changes no answer for any other. -/
theorem history_law (calls : List MappingCall) :
    (∀ e, e ∈ (ofCalls calls).entries ↔ LastWritten (calls.flatMap MappingCall.writes) e) ∧
    (∀ table label identifier,
      ((ofCalls calls).resolve table label = some identifier ↔
        ⟨table, label, identifier⟩ ∈ (ofCalls calls).entries) ∧
      ((ofCalls calls).reverse table identifier = some label ↔
        ⟨table, label, identifier⟩ ∈ (ofCalls calls).entries)) ∧
    (ofCalls calls).entries.Pairwise Mapping.Before ∧
    (ofCalls calls).entries.Nodup ∧
    (ofCalls calls).size = (ofCalls calls).entries.length ∧
    (ofCalls calls).tables.Pairwise (· < ·) ∧
    (∀ table, table ∈ (ofCalls calls).tables ↔ ∃ e ∈ (ofCalls calls).entries, e.table = table) ∧
    (∀ (c : MappingCall) (table : Text), (∀ w ∈ c.writes, w.table ≠ table) →
      (∀ label, (c.apply (ofCalls calls)).resolve table label = (ofCalls calls).resolve table label) ∧
      (∀ identifier,
        (c.apply (ofCalls calls)).reverse table identifier = (ofCalls calls).reverse table identifier) ∧
      (c.apply (ofCalls calls)).tableMappings? table = (ofCalls calls).tableMappings? table ∧
      (table ∈ (c.apply (ofCalls calls)).tables ↔ table ∈ (ofCalls calls).tables)) := by
  refine ⟨fun e => ?_, fun table label identifier => ⟨?_, ?_⟩, pairwise_entries _, nodup_entries _,
    size_eq_length_entries _, pairwise_tables _, fun table => mem_tables, fun c table h => ?_⟩
  · rw [ofCalls_eq_ofWrites, mem_entries_ofWrites]
  · exact resolve_eq_some
  · exact reverse_eq_some.trans resolve_eq_some
  · have hsame := byTable_call (m := ofCalls calls) h
    refine ⟨fun label => ?_, fun identifier => ?_, ?_, ?_⟩
    · rw [resolve, hsame, resolve]
    · rw [reverse, hsame, reverse]
    · rw [tableMappings?, hsame, tableMappings?]
    · rw [tables, Dictionary.mem_keys, hsame, tables, Dictionary.mem_keys]

/-- A header that takes over an identifier puts the header before it out. -/
example : (ofCalls [.add ⟨['t'], ['a'], ['1']⟩, .extend [⟨['t'], ['a'], ['2']⟩, ⟨['t'], ['b'], ['2']⟩]]).entries =
    [⟨['t'], ['b'], ['2']⟩] := by decide

end HeaderMappings

end SheetQuery
