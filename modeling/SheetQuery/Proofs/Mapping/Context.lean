import SheetQuery.Proofs.Mapping.Words

/-!
# Which table a statement is about

The table of a statement is found by a scan for words and a filter of the names, which stops at the second hit.  What
comes of it does not depend on how either of them goes about it.

* `tableContext_lower`, `tableContext_perm`: the letter case of a statement and the order of the names make no difference.
* `SpokenAt`: the position of a name that is a word of the statement; `tableContext_exact` says that the table is the one
  of the only such position, whatever the order of the names and the letter case of the statement.
-/

namespace SheetQuery

/-! ### Words in any letter case -/

theorem statementWords_eq (sql : Text) : statementWords sql = Text.runs Identifier.isWordChar (Text.lower sql) :=
  (Text.runs_map isWordChar_toLower sql).symm

theorem tableContext_lower {sql sql' : Text} (h : Text.lower sql' = Text.lower sql) (tables : List Text) :
    tableContext sql' tables = tableContext sql tables := by
  have hspoken : spoken sql' = spoken sql := by
    funext name
    rw [spoken, spoken, statementWords_eq, statementWords_eq, h]
  exact Option.ext fun table => by rw [tableContext_eq_some_iff, tableContext_eq_some_iff, hspoken]

/-! ### Another order of the names -/

theorem tableContext_perm {tables tables' : List Text} (h : tables'.Perm tables) (sql : Text) :
    tableContext sql tables' = tableContext sql tables := by
  refine Option.ext fun table => ?_
  have hfilter := h.filter (spoken sql)
  rw [tableContext_eq_some_iff, tableContext_eq_some_iff]
  constructor
  · intro hone
    rw [hone] at hfilter
    exact (List.singleton_perm.1 hfilter).symm
  · intro hone
    rw [hone] at hfilter
    exact List.perm_singleton.1 hfilter

/-- One member is let through exactly if it stands at the only position whose member is. -/
private theorem filter_eq_singleton_iff {α : Type} {p : α → Bool} {l : List α} {a : α} :
    l.filter p = [a] ↔ ∃ k, l[k]? = some a ∧ p a ∧ ∀ (j : Nat) (b : α), l[j]? = some b → p b → j = k := by
  rw [List.filter_eq_cons_iff]
  constructor
  · rintro ⟨before, behind, rfl, hbefore, ha, hbehind⟩
    refine ⟨before.length, by simp, ha, fun j b hj hb => ?_⟩
    rcases Nat.lt_trichotomy j before.length with hlt | hsame | hgt
    · rw [List.getElem?_append_left hlt] at hj
      exact absurd hb (hbefore b (List.mem_of_getElem? hj))
    · exact hsame
    · obtain ⟨i, rfl⟩ := Nat.exists_eq_add_of_lt hgt
      rw [List.getElem?_append_right (by omega), show before.length + i + 1 - before.length = i + 1 by omega,
        List.getElem?_cons_succ] at hj
      exact absurd hb (List.filter_eq_nil_iff.1 hbehind b (List.mem_of_getElem? hj))
  · rintro ⟨k, hk, ha, honly⟩
    obtain ⟨hlt, hget⟩ := List.getElem?_eq_some_iff.1 hk
    refine ⟨l.take k, l.drop (k + 1), ?_, fun b hb hpb => ?_, ha, List.filter_eq_nil_iff.2 fun b hb hpb => ?_⟩
    · rw [← hget, ← List.drop_eq_getElem_cons hlt, List.take_append_drop]
    · obtain ⟨j, hj⟩ := List.mem_iff_getElem?.1 hb
      rw [List.getElem?_take] at hj
      split at hj
      · have hsame := honly j b hj hpb
        omega
      · cases hj
    · obtain ⟨j, hj⟩ := List.mem_iff_getElem?.1 hb
      rw [List.getElem?_drop] at hj
      have hsame := honly _ b hj hpb
      omega

/-! ### The only position -/

/-- The position of the list holds a name that is not empty and a word of the statement. -/
def SpokenAt (sql : Text) (tables : List Text) (k : Nat) (name : Text) : Prop :=
  tables[k]? = some name ∧ name ≠ [] ∧ WholeWord name sql

private theorem tableContext_eq_some_iff_spokenAt {sql : Text} {tables : List Text} {table : Text} :
    tableContext sql tables = some table ↔
      ∃ k, SpokenAt sql tables k table ∧ ∀ j name, SpokenAt sql tables j name → j = k := by
  rw [tableContext_eq_some_iff, filter_eq_singleton_iff]
  simp only [spoken_iff, SpokenAt, and_imp, and_assoc]

/-- The table of a statement is the name at the only position that holds a word of it; there is none if no position does, or
several.  The order of the names and the letter case of the statement make no difference. -/
theorem tableContext_exact (sql : Text) (tables : List Text) :
    (∀ table, tableContext sql tables = some table ↔
      ∃ k, SpokenAt sql tables k table ∧ ∀ j name, SpokenAt sql tables j name → j = k) ∧
    (tableContext sql tables = none ↔
      ∀ k table, SpokenAt sql tables k table → ∃ j name, SpokenAt sql tables j name ∧ j ≠ k) ∧
    (∀ tables' : List Text, tables'.Perm tables → tableContext sql tables' = tableContext sql tables) ∧
    ∀ sql' : Text, Text.lower sql' = Text.lower sql → tableContext sql' tables = tableContext sql tables := by
  refine ⟨fun table => tableContext_eq_some_iff_spokenAt, ?_, fun tables' h => tableContext_perm h sql,
    fun sql' h => tableContext_lower h tables⟩
  constructor
  · intro hnone k table hk
    by_contra honly
    have hsome : tableContext sql tables = some table := by
      refine tableContext_eq_some_iff_spokenAt.2 ⟨k, hk, fun j name hj => ?_⟩
      by_contra hne
      exact honly ⟨j, name, hj, hne⟩
    rw [hnone] at hsome
    cases hsome
  · intro hmany
    refine Option.eq_none_iff_forall_ne_some.2 fun table hsome => ?_
    obtain ⟨k, hk, honly⟩ := tableContext_eq_some_iff_spokenAt.1 hsome
    obtain ⟨j, name, hj, hne⟩ := hmany k table hk
    exact hne (honly j name hj)

/-- A word ends at a Han character, so it can stand inside a header; a name with other characters is no word at all. -/
example : tableContext "SELECT 名a称 FROM orders".toList [['a'], "orders".toList] = none ∧
    tableContext "SELECT 名a称 FROM orders-2".toList ["orders-2".toList, ['a']] = some ['a'] := by decide

/-- Another order of the names, and other letter case. -/
theorem tableContext_exact_respelled :
    tableContext "select * from order_items".toList ["orders".toList, "staff".toList, "order_items".toList] =
        some "order_items".toList ∧
      ["order_items".toList, "staff".toList, "orders".toList].Perm ["orders".toList, "staff".toList, "order_items".toList] ∧
      tableContext "select * from order_items".toList ["order_items".toList, "staff".toList, "orders".toList] =
        some "order_items".toList ∧
      Text.lower "SELECT * FROM Order_Items".toList = Text.lower "select * from order_items".toList ∧
      tableContext "SELECT * FROM Order_Items".toList ["orders".toList, "staff".toList, "order_items".toList] =
        some "order_items".toList := by
  obtain ⟨-, -, hperm, hlower⟩ :=
    tableContext_exact "select * from order_items".toList ["orders".toList, "staff".toList, "order_items".toList]
  have hsome : tableContext "select * from order_items".toList ["orders".toList, "staff".toList, "order_items".toList] =
      some "order_items".toList := by decide
  have hnames : ["order_items".toList, "staff".toList, "orders".toList].Perm
      ["orders".toList, "staff".toList, "order_items".toList] := by decide
  have hcase : Text.lower "SELECT * FROM Order_Items".toList = Text.lower "select * from order_items".toList := by decide
  exact ⟨hsome, hnames, (hperm _ hnames).trans hsome, hcase, (hlower _ hcase).trans hsome⟩

end SheetQuery
