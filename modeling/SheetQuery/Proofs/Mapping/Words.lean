import SheetQuery.Mapping.Context
import SheetQuery.Proofs.Text.Runs

/-!
# The words of a statement

A statement that has no word of another table is about its own table, and its columns get their headers from there
first.

* `WholeWord`: a name is a word of a statement, whatever its case.
* `tableContext_eq_some_iff`: the table of a statement is the only name that is a word of it.  Later proofs know of
  `tableContext` by this equivalence.
* `word_of_tableContext`: the table that a statement speaks of has a word for its name.
* `tableContext_eq`: a statement with the word of one table only.
* `columnLabel_of_reverse`, `columnLabel_eq`: where a column gets its header from.
-/

namespace SheetQuery

/-! ### The table of a statement -/

/-- The name stands in the text, in any case of its ASCII letters, with no further character of a word next to it. -/
def WholeWord (name sql : Text) : Prop :=
  ∃ before word behind, sql = before ++ word ++ behind ∧ Text.lower word = Text.lower name ∧ word ≠ [] ∧
    (∀ c ∈ word, Identifier.isWordChar c) ∧ (∀ c ∈ before.getLast?, Identifier.isWordChar c = false) ∧
    ∀ c ∈ behind.head?, Identifier.isWordChar c = false

theorem lower_mem_statementWords {name sql : Text} : Text.lower name ∈ statementWords sql ↔ WholeWord name sql := by
  rw [statementWords, List.mem_map]
  constructor
  · rintro ⟨word, hword, hlower⟩
    obtain ⟨before, behind, hcut, hne, hall, hbefore, hbehind⟩ := Text.mem_runs_iff.1 hword
    exact ⟨before, word, behind, hcut, hlower, hne, hall, hbefore, hbehind⟩
  · rintro ⟨before, word, behind, hcut, hlower, hne, hall, hbefore, hbehind⟩
    exact ⟨word, Text.mem_runs_iff.2 ⟨before, behind, hcut, hne, hall, hbefore, hbehind⟩, hlower⟩

theorem statementWords_selectAll {table : Text} (hword : table.all Identifier.isWordChar) (hne : table ≠ []) :
    statementWords ("SELECT * FROM ".toList ++ table) = ["select".toList, "from".toList, Text.lower table] := by
  have htext : "SELECT * FROM ".toList ++ table =
      "SELECT".toList ++ ' ' :: '*' :: ' ' :: ("FROM".toList ++ ' ' :: table) := rfl
  have hspace : Identifier.isWordChar ' ' = false := by decide
  rw [statementWords, htext, Text.runs_append_cons (List.all_eq_true.1 (by decide)) (by decide) hspace, Text.runs_cons (by decide),
    Text.runs_cons hspace, Text.runs_append_cons (List.all_eq_true.1 (by decide)) (by decide) hspace,
    Text.runs_of_all (List.all_eq_true.1 hword) hne]
  rfl

theorem isWordChar_toLower (c : Char) : Identifier.isWordChar c.toLower = Identifier.isWordChar c := by
  rcases Text.toLower_cases c with hsame | ⟨halpha, halpha'⟩
  · rw [hsame]
  · simp [Identifier.isWordChar, Char.isAlphanum, halpha, halpha']

/-- Whether a text is a word does not depend on the case of its letters. -/
theorem word_of_lower {v w : Text} (h : Text.lower v = Text.lower w) (hw : w.all Identifier.isWordChar) :
    v.all Identifier.isWordChar := by
  rw [Text.all_of_lower isWordChar_toLower h]
  exact hw

/-- The name is not empty and a word of the statement. -/
def spoken (sql name : Text) : Bool := !name.isEmpty && (statementWords sql).contains (Text.lower name)

theorem spoken_iff {sql name : Text} : spoken sql name = true ↔ name ≠ [] ∧ WholeWord name sql := by
  rw [spoken, Bool.and_eq_true, List.contains_iff_mem, lower_mem_statementWords]
  simp

/-- The table of a statement is the only name that is a word of it. -/
theorem tableContext_eq_some_iff {sql : Text} {tables : List Text} {table : Text} :
    tableContext sql tables = some table ↔ tables.filter (spoken sql) = [table] := by
  have hspoken : spoken sql = fun name => !name.isEmpty && (statementWords sql).contains (Text.lower name) := rfl
  rw [hspoken]
  unfold tableContext
  dsimp only
  split
  · rename_i other hfilter
    rw [hfilter, Option.some.injEq, List.cons.injEq, and_iff_left rfl]
  · rename_i hmany
    exact iff_of_false (by simp) (hmany table)

/-- Names that are no words of a statement make no difference to its table. -/
theorem tableContext_congr {sql : Text} {tables tables' : List Text}
    (h : tables'.filter (spoken sql) = tables.filter (spoken sql)) : tableContext sql tables' = tableContext sql tables :=
  Option.ext fun table => by rw [tableContext_eq_some_iff, tableContext_eq_some_iff, h]

/-- The table that a statement speaks of has a word for its name. -/
theorem word_of_tableContext {sql : Text} {tables : List Text} {table : Text}
    (h : tableContext sql tables = some table) : table.all Identifier.isWordChar := by
  have hmem : table ∈ tables.filter (spoken sql) := by
    rw [tableContext_eq_some_iff.1 h]
    exact List.mem_singleton_self _
  obtain ⟨-, -, word, -, -, hlower, -, hall, -⟩ := spoken_iff.1 (List.mem_filter.1 hmem).2
  exact word_of_lower hlower.symm (List.all_eq_true.2 hall)

/-- A statement speaks of a table with a name that is one of its words, if no other table has. -/
theorem tableContext_eq {sql : Text} {tables : List Text} {table : Text} (hnodup : tables.Nodup) (hne : table ≠ [])
    (hword : Text.lower table ∈ statementWords sql)
    (hothers : ∀ other ∈ tables, Text.lower other ∈ statementWords sql → other = table) :
    tableContext sql tables = if table ∈ tables then some table else none := by
  have hfilter : tables.filter (spoken sql) = if table ∈ tables then [table] else [] := by
    have hspoken : ∀ other ∈ tables, spoken sql other = decide (other = table) := by
      intro other hother
      rw [Bool.eq_iff_iff, spoken_iff, decide_eq_true_eq, ← lower_mem_statementWords]
      constructor
      · exact fun h => hothers other hother h.2
      · rintro rfl
        exact ⟨hne, hword⟩
    rw [List.filter_congr hspoken, List.filter_eq, hnodup.count]
    split <;> rfl
  refine Option.ext fun other => ?_
  rw [tableContext_eq_some_iff, hfilter]
  split_ifs <;> simp

namespace HeaderMappings

variable {m : HeaderMappings} {context : Option Text} {table column label : Text}

theorem columnLabel_of_reverse (h : m.reverse table column = some label) : m.columnLabel (some table) column = label := by
  rw [columnLabel, Option.bind_some, h]

/-- A column gets its header from the table of the statement, or else from the first one that has its identifier. -/
theorem columnLabel_eq (h : context = if table ∈ m.tables then some table else none) :
    m.columnLabel context column =
      ((m.reverse table column).or (m.tables.findSome? fun t => m.reverse t column)).getD column := by
  have hbind : (context.bind fun t => m.reverse t column) = m.reverse table column := by
    rw [h]
    split
    · rfl
    · rename_i hnone
      cases hreverse : m.reverse table column with
      | none => rfl
      | some label =>
        have hentry := resolve_eq_some.1 (reverse_eq_some.1 hreverse)
        exact absurd (mem_tables.2 ⟨_, hentry, rfl⟩) hnone
  rw [columnLabel, hbind]
  cases m.reverse table column <;> rfl

end HeaderMappings

end SheetQuery
