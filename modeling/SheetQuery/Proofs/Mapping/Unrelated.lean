import SheetQuery.Proofs.Mapping.Entries
import SheetQuery.Proofs.Mapping.Rewriting
import SheetQuery.Proofs.Mapping.Words

/-!
# Tables that a statement has nothing to do with

A statement comes out the same whether a further table has headers or not, if it neither names the table nor has one
of the headers.  The table takes no part in the choice of the statement's own table, and the other entries have their
turns in the same order.  In between come the turns of the further table: what they look for could stand in what the
user wrote only, where it does not.

* `tableContext_extend`: the table of the statement is the same.
* `candidates_extend`: the other entries have their turns in the same order.
* `substituteIn_extend`: the statement comes out the same.
-/

namespace SheetQuery

theorem tableContext_filter {sql : Text} {tables : List Text} {p : Text → Bool}
    (hp : ∀ t ∈ tables, p t = false → Text.lower t ∉ statementWords sql) :
    tableContext sql (tables.filter p) = tableContext sql tables := by
  refine tableContext_congr ?_
  rw [List.filter_filter]
  refine List.filter_congr fun t ht => ?_
  by_cases hpt : p t
  · rw [hpt, Bool.and_true]
  · have hunspoken : spoken sql t = false := Bool.eq_false_iff.2 fun hspoken =>
      hp t ht (Bool.eq_false_iff.2 hpt) (lower_mem_statementWords.2 (spoken_iff.1 hspoken).2)
    rw [hunspoken, Bool.false_and]

namespace HeaderMappings

variable {m : HeaderMappings} {l : List Mapping} {table sql : Text}

theorem tableContext_extend (htable : table ∉ m.tables) (hl : ∀ e ∈ l, e.table = table) (hword : ¬ WholeWord table sql) :
    tableContext sql (m.extend l).tables = tableContext sql m.tables := by
  rw [← filter_tables_extend htable hl, tableContext_filter]
  intro t _ ht
  rw [bne_eq_false_iff_eq] at ht
  rwa [ht, lower_mem_statementWords]

theorem candidates_extend (htable : table ∉ m.tables) (hl : ∀ e ∈ l, e.table = table) (hword : ¬ WholeWord table sql)
    (order : SubstitutionOrder) :
    ((m.extend l).candidates sql order).filter (·.table != table) = m.candidates sql order :=
  filter_candidates (tableContext_extend htable hl hword) (filter_entries_extend htable hl) order

/-- A statement that does not name a new table and has none of its headers comes out as before. -/
theorem substituteIn_extend (htable : table ∉ m.tables) (hl : ∀ e ∈ l, e.table = table) (hm : (m.extend l).Numbered)
    (hword : ¬ WholeWord table sql)
    (habsent : ∀ e ∈ (m.extend l).entries, e.table = table → e.label ≠ [] → Text.occursIn e.label sql = false)
    (order : SubstitutionOrder) : (m.extend l).substituteIn order sql = m.substituteIn order sql := by
  let m' := m.extend l
  let identifier : Text → Text := fun label => (m'.labelIdentifier? (tableContext sql m'.tables) label).getD []
  have hfree : ∀ e ∈ m'.candidates sql order, (e.table != table) = false → (⟨sql, []⟩ : TokenText).Free e.label := by
    intro e he htable gap hgap
    obtain ⟨he, hne⟩ := mem_candidates.1 he
    rw [bne_eq_false_iff_eq] at htable
    have hocc := habsent e he htable hne
    rw [List.mem_singleton.1 hgap, ← Text.occursIn_iff, hocc]
    exact Bool.false_ne_true
  have hfirst : ∀ label e, (m'.candidates sql order).find? (·.label == label) = some e →
      (⟨sql, []⟩ : TokenText).Free label ∨ e.identifier = identifier label := fun label e he =>
    .inr (identifier_of_find?_candidates he)
  have hfold := TokenText.foldl_filter_entries hm (fun e he => mem_candidates.1 he) (by simp) hfirst hfree
  rw [candidates_extend htable hl hword] at hfold
  exact hfold

private def goods : HeaderMappings :=
  HeaderMappings.empty.extend [⟨"goods".toList, "名".toList, "_1".toList⟩, ⟨"goods".toList, "称".toList, "_2".toList⟩]

/-- The headers of another table, which would come between those of the first one and are longer. -/
private def orders : List Mapping :=
  [⟨"Orders".toList, "名称".toList, "_1".toList⟩, ⟨"Orders".toList, "称1".toList, "_2".toList⟩]

/-- The pieces of a header of the other table stand in the statement, but not next to each other. -/
private def goodsText : Text := "SELECT 名, `称`1 FROM goods_orders".toList

theorem substituteIn_extend_goods :
    "Orders".toList ∉ goods.tables ∧ (goods.extend orders).Numbered ∧ ¬ WholeWord "Orders".toList goodsText ∧
      ∀ order, (goods.extend orders).substituteIn order goodsText = goods.substituteIn order goodsText := by
  have htable : "Orders".toList ∉ goods.tables := by decide +kernel
  have hl : ∀ e ∈ orders, e.table = "Orders".toList := by decide
  have hentries : (goods.extend orders).entries =
      [⟨"Orders".toList, "名称".toList, "_1".toList⟩, ⟨"Orders".toList, "称1".toList, "_2".toList⟩,
        ⟨"goods".toList, "名".toList, "_1".toList⟩, ⟨"goods".toList, "称".toList, "_2".toList⟩] := by decide +kernel
  have hids : ∀ e ∈ (goods.extend orders).entries, e.identifier.head? = some '_' ∧ e.identifier.tail.all Char.isDigit := by
    rw [hentries]
    decide
  have hlabels : ∀ e ∈ (goods.extend orders).entries, '_' ∉ e.label ∧ e.label.head?.all fun c => !c.isDigit := by
    rw [hentries]
    decide
  have hm : (goods.extend orders).Numbered := by
    constructor
    · intro e he
      obtain ⟨hhead, hdigits⟩ := hids e he
      exact ⟨e.identifier.tail, (List.cons_head?_tail hhead).symm, List.all_eq_true.1 hdigits⟩
    · intro e he
      obtain ⟨hunder, hdigit⟩ := hlabels e he
      refine ⟨hunder, fun c hc => ?_⟩
      rw [Option.mem_def.1 hc, Option.all_some] at hdigit
      simpa using hdigit
  have hword : ¬ WholeWord "Orders".toList goodsText := by
    rw [← lower_mem_statementWords]
    decide +kernel
  have habsent : ∀ e ∈ (goods.extend orders).entries, e.table = "Orders".toList → e.label ≠ [] →
      Text.occursIn e.label goodsText = false := by
    rw [hentries]
    decide +kernel
  exact ⟨htable, hm, hword, fun order => substituteIn_extend htable hl hm hword habsent order⟩

end HeaderMappings

end SheetQuery
