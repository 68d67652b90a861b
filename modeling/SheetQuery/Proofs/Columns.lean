import Mathlib.Tactic.SplitIfs
import SheetQuery.Plan

/-!
# Planned columns

The columns of a plan are made in one pass that counts the forms it meets.  What becomes of a header is a matter of the
header and of those before it alone.

* `Identifier.numbered`: the name of a form behind so many equal ones.
* `describedColumn`: the column of a header behind others, without the pass.
* `columns_eq`: the columns of a plan are the described ones.  Later proofs know of the pass by this equation only.
* `pairwise_mapped`, `word_columns`, `prefix_columns`: mapped headers have different identifiers, all identifiers are words,
  and more headers leave the columns of those before them as they are.
* `columns_exact` puts this together.
-/

namespace SheetQuery

theorem Text.decimal_injective : Function.Injective Text.decimal := by
  intro m n h
  have hvalue := congrArg (Nat.ofDigitChars 10 · 0) h
  simpa only [Text.decimal, Nat.ofDigitChars_ten_toDigits] using hvalue

theorem Identifier.forPosition_injective : Function.Injective Identifier.forPosition := fun _ _ h =>
  Text.decimal_injective (List.cons.inj h).2

theorem word_decimal (n : Nat) : (Text.decimal n).all Identifier.isWordChar := by
  rw [List.all_eq_true]
  intro c hc
  have hdigit := Nat.isDigit_of_mem_toDigits (by decide) (by decide) hc
  simp [Identifier.isWordChar, Char.isAlphanum, hdigit]

theorem word_forPosition (k : Nat) : (Identifier.forPosition k).all Identifier.isWordChar :=
  word_decimal k

/-- The name of a column whose form comes after so many equal ones. -/
def Identifier.numbered (form : Text) (earlier : Nat) : Text :=
  if earlier = 0 then form else form ++ '_' :: Text.decimal earlier

theorem word_numbered {form : Text} (h : form.all Identifier.isWordChar) (n : Nat) :
    (Identifier.numbered form n).all Identifier.isWordChar := by
  unfold Identifier.numbered
  split
  · exact h
  · rw [List.all_append, h]
    exact word_decimal n

/-! ### A column by its header and those before it -/

/-- How many of the headers have no Han characters and the form. -/
def countForm (headers : List Text) (form : Text) : Nat :=
  headers.countP fun header => !Text.hasHan header && Identifier.forColumn header == form

/-- The column of a header behind others: one with Han characters is mapped to its position, any other one is named by its
form, numbered with the equal ones before it, or by its position if nothing is left of it. -/
def describedColumn (earlier : List Text) (header : Text) : PlannedColumn :=
  if Text.hasHan header then ⟨header, Identifier.forPosition (earlier.length + 1), true⟩
  else if Identifier.forColumn header = [] then ⟨header, Identifier.forPosition (earlier.length + 1), false⟩
  else
    ⟨header, Identifier.numbered (Identifier.forColumn header) (countForm earlier (Identifier.forColumn header)), false⟩

section

variable (earlier : List Text) (header : Text)

@[simp] theorem header_describedColumn : (describedColumn earlier header).header = header := by
  unfold describedColumn
  split_ifs <;> rfl

@[simp] theorem mapped_describedColumn : (describedColumn earlier header).mapped = Text.hasHan header := by
  unfold describedColumn
  split_ifs with hhan
  · exact hhan.symm
  · exact (Bool.eq_false_iff.2 hhan).symm
  · exact (Bool.eq_false_iff.2 hhan).symm

theorem identifier_describedColumn_of_han (h : Text.hasHan header) :
    (describedColumn earlier header).identifier = Identifier.forPosition (earlier.length + 1) := by
  rw [describedColumn, if_pos h]

theorem word_describedColumn :
    (describedColumn earlier header).identifier ≠ [] ∧
      (describedColumn earlier header).identifier.all Identifier.isWordChar := by
  have hform : (Identifier.forColumn header).all Identifier.isWordChar :=
    List.all_eq_true.2 fun c hc => (List.mem_filter.1 hc).2
  unfold describedColumn
  split_ifs with hhan hempty
  · exact ⟨List.cons_ne_nil _ _, word_forPosition _⟩
  · exact ⟨List.cons_ne_nil _ _, word_forPosition _⟩
  · refine ⟨?_, word_numbered hform _⟩
    dsimp only [Identifier.numbered]
    split
    · exact hempty
    · simp

end

/-! ### The pass over the headers -/

namespace FormCounts

private theorem count_cons (other : Text) (n : Nat) (seen : FormCounts) (f : Text) :
    count ((other, n) :: seen) f = if f = other then n else seen.count f := by
  unfold count
  by_cases hf : f = other
  · rw [if_pos hf, hf, List.lookup_cons_self]
    rfl
  · rw [if_neg hf, List.lookup_cons, beq_eq_false_iff_ne.2 hf]

private theorem count_increment (seen : FormCounts) (form f : Text) :
    (seen.increment form).count f = if f = form then seen.count f + 1 else seen.count f := by
  induction seen with
  | nil => rw [increment, count_cons, count, List.lookup_nil, Option.getD_none]
  | cons entry seen ih =>
    obtain ⟨other, n⟩ := entry
    rw [increment]
    by_cases hsame : other = form
    · rw [if_pos (beq_iff_eq.2 hsame), count_cons, count_cons, hsame]
      split_ifs <;> rfl
    · rw [if_neg (by simpa using hsame), count_cons, count_cons, ih]
      by_cases hf : f = other
      · rw [if_pos hf, if_pos hf, if_neg fun h => hsame (hf.symm.trans h)]
      · rw [if_neg hf, if_neg hf]

/-- The forms have been counted in the headers; nothing is said of the empty one. -/
def Counts (seen : FormCounts) (headers : List Text) : Prop := ∀ form, form ≠ [] → seen.count form = countForm headers form

end FormCounts

private theorem countForm_concat (headers : List Text) (header form : Text) : countForm (headers ++ [header]) form =
    if Text.hasHan header = false ∧ Identifier.forColumn header = form then countForm headers form + 1
    else countForm headers form := by
  simp only [countForm, List.countP_append, List.countP_singleton, Bool.and_eq_true, Bool.not_eq_true', beq_iff_eq]
  split_ifs <;> rfl

/-- One header: its column is the described one, and it has been counted. -/
private theorem planColumn_eq {seen : FormCounts} {earlier : List Text} (h : seen.Counts earlier) (header : Text) :
    (planColumn seen (earlier.length + 1) header).1 = describedColumn earlier header ∧
      (planColumn seen (earlier.length + 1) header).2.Counts (earlier ++ [header]) := by
  unfold planColumn describedColumn
  by_cases hhan : Text.hasHan header
  · rw [if_pos hhan, if_pos hhan]
    refine ⟨rfl, fun form hne => ?_⟩
    rw [countForm_concat, if_neg fun hplain => by simp [hhan] at hplain]
    exact h form hne
  · rw [if_neg hhan, if_neg hhan]
    by_cases hempty : Identifier.forColumn header = []
    · simp only [hempty, List.isEmpty_nil, if_true]
      refine ⟨trivial, fun form hne => ?_⟩
      rw [countForm_concat, if_neg fun hplain => hne (hplain.2.symm.trans hempty)]
      exact h form hne
    · simp only [List.isEmpty_iff, hempty, if_false, h _ hempty]
      refine ⟨rfl, fun form hne => ?_⟩
      rw [FormCounts.count_increment, countForm_concat, h form hne]
      simp [hhan, eq_comm]

/-- All headers, behind those that have been counted. -/
private theorem planColumns_eq {seen : FormCounts} {earlier : List Text} (h : seen.Counts earlier) (headers : List Text) :
    planColumns seen (earlier.length + 1) headers =
      headers.mapIdx fun k header => describedColumn (earlier ++ headers.take k) header := by
  induction headers generalizing seen earlier with
  | nil => rfl
  | cons header headers ih =>
    obtain ⟨hcolumn, hcounts⟩ := planColumn_eq h header
    have hrest := ih hcounts
    rw [List.length_append, List.length_singleton] at hrest
    rw [planColumns, hcolumn, hrest, List.mapIdx_cons, List.take_zero, List.append_nil]
    simp only [List.take_succ_cons, List.append_assoc, List.singleton_append]

variable {table : Text} {headers : List Text}

/-- The columns of a plan are the described ones. -/
theorem columns_eq (table : Text) (headers : List Text) :
    (planTable table headers).columns = headers.mapIdx fun k header => describedColumn (headers.take k) header := by
  have hcounts : FormCounts.Counts [] [] := fun _ _ => rfl
  exact planColumns_eq hcounts headers

theorem length_columns (table : Text) (headers : List Text) :
    (planTable table headers).columns.length = headers.length := by
  rw [columns_eq, List.length_mapIdx]

theorem length_identifiers (table : Text) (headers : List Text) :
    (planTable table headers).identifiers.length = headers.length := by
  rw [TablePlan.identifiers, List.length_map, length_columns]

theorem columns_getElem? (table : Text) (headers : List Text) (k : Nat) :
    (planTable table headers).columns[k]? = headers[k]?.map (describedColumn (headers.take k)) := by
  rw [columns_eq, List.getElem?_mapIdx]

/-- Mapped headers have different identifiers. -/
theorem pairwise_mapped (table : Text) (headers : List Text) :
    ((planTable table headers).columns.filter (·.mapped)).Pairwise fun a b => a.identifier ≠ b.identifier := by
  rw [columns_eq, List.pairwise_filter, List.pairwise_iff_getElem]
  intro i j hi hj hij hmapped hmapped' hsame
  rw [List.length_mapIdx] at hi hj
  simp only [List.getElem_mapIdx, mapped_describedColumn] at hmapped hmapped' hsame
  rw [identifier_describedColumn_of_han _ _ hmapped, identifier_describedColumn_of_han _ _ hmapped'] at hsame
  have hposition := Identifier.forPosition_injective hsame
  rw [List.length_take, List.length_take] at hposition
  omega

theorem word_columns : ∀ c ∈ (planTable table headers).columns,
    c.identifier ≠ [] ∧ c.identifier.all Identifier.isWordChar := by
  intro c hc
  rw [columns_eq, List.mem_mapIdx] at hc
  obtain ⟨k, hk, rfl⟩ := hc
  exact word_describedColumn _ _

/-- More headers leave the columns of those before them as they are. -/
theorem prefix_columns (table : Text) (headers more : List Text) :
    (planTable table headers).columns <+: (planTable table (headers ++ more)).columns := by
  rw [List.prefix_iff_getElem?]
  intro k hk
  rw [length_columns] at hk
  rw [columns_getElem?, List.getElem?_append_left hk, List.take_append_of_le_length (Nat.le_of_lt hk), ← columns_getElem?]
  exact List.getElem?_eq_getElem _

/-- The columns of a plan are those of its headers in order, each described by its header and those before it.  Mapped
headers have different identifiers, all identifiers are words, and the plan of a longer row begins with that of a shorter
one. -/
theorem columns_exact (table : Text) (headers : List Text) :
    ((planTable table headers).table = table ∧
      (planTable table headers).columns = headers.mapIdx fun k header => describedColumn (headers.take k) header) ∧
    ((planTable table headers).columns.filter (·.mapped)).Pairwise (fun a b => a.identifier ≠ b.identifier) ∧
    (∀ identifier ∈ (planTable table headers).identifiers,
      identifier ≠ [] ∧ identifier.all Identifier.isWordChar) ∧
    ∀ more, (planTable table headers).columns <+: (planTable table (headers ++ more)).columns :=
  ⟨⟨rfl, columns_eq table headers⟩, pairwise_mapped table headers, List.forall_mem_map.2 word_columns,
    prefix_columns table headers⟩

/-- A mapped header is not counted, whatever it keeps, and a header of which nothing is kept has the name of its position. -/
example : (planTable ['t'] ["名a".toList, ['a'], ['?'], "a!".toList, "名".toList]).identifiers =
    ["_1".toList, ['a'], "_3".toList, "a_1".toList, "_5".toList] := by decide

end SheetQuery
