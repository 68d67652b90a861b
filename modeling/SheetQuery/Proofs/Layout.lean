import Mathlib.Data.List.Forall2
import SheetQuery.Layout
import SheetQuery.Proofs.Text.Joining

/-!
# Tables are aligned

Every line of a table has its cells in columns: a column is as wide as its widest cell, and the cells of a line
are filled up to the widths of their columns.  What is wider than its column does not exist, so nothing is cut.

* `columnWidths_eq`: the widths, which are found in one pass over the rows, are those of the widest cells.
* `Shows`: a line shows a row in columns of given widths; `shows_line` and `shows_rule` say it of the rows and of
  the line of dashes.
* `table_aligned`: the lines of a table.
-/

namespace SheetQuery.Layout

/-! ### Widths -/

/-- The width of the widest cell, or one. -/
def widest : List Text → Nat
  | [] => 1
  | cell :: cells => max (cellWidth cell) (widest cells)

theorem one_le_widest (cells : List Text) : 1 ≤ widest cells := by
  induction cells with
  | nil => exact Nat.le_refl 1
  | cons cell cells ih => exact Nat.le_trans ih (Nat.le_max_right _ _)

theorem cellWidth_le_widest {cell : Text} {cells : List Text} (h : cell ∈ cells) : cellWidth cell ≤ widest cells := by
  induction cells with
  | nil => cases h
  | cons first cells ih =>
    rcases List.mem_cons.1 h with rfl | h
    · exact Nat.le_max_left _ _
    · exact Nat.le_trans (ih h) (Nat.le_max_right _ _)

/-- The cells of the rows at a place; rows that are too short have none. -/
def column (rows : List (List Text)) (j : Nat) : List Text := rows.filterMap (·[j]?)

theorem mem_column {rows : List (List Text)} {row : List Text} {j : Nat} {cell : Text} (hrow : row ∈ rows)
    (hcell : row[j]? = some cell) : cell ∈ column rows j :=
  List.mem_filterMap.2 ⟨row, hrow, hcell⟩

private theorem getElem?_widen (widths : List Nat) (row : List Text) (j : Nat) :
    (widen widths row)[j]? = widths[j]?.map fun w => (row[j]?.map cellWidth).elim w (max w) := by
  induction widths generalizing row j with
  | nil => cases row <;> rfl
  | cons w widths ih =>
    cases row with
    | nil => simp [widen]
    | cons cell row =>
      cases j with
      | zero => rfl
      | succ j => exact ih row j

private theorem getElem?_foldl_widen (widths : List Nat) (rows : List (List Text)) (j : Nat) :
    ((rows.foldl widen widths).map (max 1))[j]? = widths[j]?.map fun w => max w (widest (column rows j)) := by
  induction rows generalizing widths with
  | nil =>
    rw [List.foldl_nil, List.getElem?_map]
    exact congrArg (Option.map · _) (funext fun w => Nat.max_comm 1 w)
  | cons row rows ih =>
    rw [List.foldl_cons, ih, getElem?_widen, Option.map_map]
    congr 1
    funext w
    cases hcell : row[j]? with
    | none => simp [column, hcell]
    | some cell => simp [column, hcell, widest, Nat.max_assoc]

/-- The width of a column is that of its widest cell, the header among them. -/
theorem columnWidths_eq (headers : List Text) (rows : List (List Text)) :
    columnWidths headers rows = (List.range headers.length).map fun j => widest (column (headers :: rows) j) := by
  refine List.ext_getElem? fun j => ?_
  rw [columnWidths, getElem?_foldl_widen, List.getElem?_map, List.getElem?_map]
  by_cases hj : j < headers.length
  · rw [List.getElem?_eq_getElem hj, List.getElem?_range hj]
    simp [column, hj, widest]
  · rw [List.getElem?_eq_none (by omega), List.getElem?_eq_none (by simpa using Nat.le_of_not_lt hj)]
    rfl

/-! ### Lines -/

/-- A piece of a line fills a column of width `w` with a cell: the cell on one line, and a space for each place
that it leaves. -/
def Fills (w : Nat) (cell piece : Text) : Prop :=
  ∃ n, piece = flatten cell ++ List.replicate n ' ' ∧ cellWidth cell + n = w

/-- A line shows a row: its pieces fill the columns with the row's cells, two spaces stand between them, and the
spaces at the end are left out. -/
structure Shows (widths : List Nat) (row : List Text) (line : Text) : Prop where
  pieces : ∃ pieces, List.Forall₂ (fun placed piece => Fills placed.1 placed.2 piece) (widths.zip row) pieces ∧
    ∃ n, line ++ List.replicate n ' ' = Text.joinWith [' ', ' '] pieces
  trimmed : line.getLast? ≠ some ' '
  single : '\n' ∉ line

private theorem lineFeed_not_mem_flatten (cell : Text) : '\n' ∉ flatten cell := by
  intro h
  obtain ⟨c, -, hc⟩ := List.mem_map.1 h
  split at hc
  · cases hc
  · rename_i hplain
    exact hplain (.inl hc)

private theorem fills_pad {w : Nat} {cell : Text} (h : cellWidth cell ≤ w) : Fills w cell (pad w cell) :=
  ⟨w - cellWidth cell, rfl, Nat.add_sub_of_le h⟩

private def pieces (widths : List Nat) (row : List Text) : List Text :=
  (widths.zip row).map fun placed => pad placed.1 placed.2

private theorem line_eq (widths : List Nat) (row : List Text) :
    line widths row = Text.dropRightWhile (· == ' ') (Text.joinWith [' ', ' '] (pieces widths row)) := rfl

private theorem lineFeed_not_mem_pieces (widths : List Nat) (row : List Text) :
    ∀ c ∈ Text.joinWith [' ', ' '] (pieces widths row), c ≠ '\n' := by
  refine forall_mem_intercalate (by simp) (List.forall_mem_map.2 fun placed _ => ?_)
  rintro c hc rfl
  rcases List.mem_append.1 hc with hc | hc
  · exact lineFeed_not_mem_flatten _ hc
  · cases (List.mem_replicate.1 hc).2

/-- A line whose cells are no wider than their columns shows its row. -/
theorem shows_line {widths : List Nat} {row : List Text} (h : ∀ placed ∈ widths.zip row, cellWidth placed.2 ≤ placed.1) :
    Shows widths row (line widths row) := by
  obtain ⟨v, hspaces, hline⟩ := Text.exists_dropRightWhile_append (· == ' ')
    (Text.joinWith [' ', ' '] (pieces widths row))
  rw [← line_eq] at hline
  refine ⟨⟨pieces widths row, ?_, v.length, ?_⟩, ?_, fun hfeed => ?_⟩
  · rw [pieces, List.forall₂_map_right_iff, List.forall₂_same]
    exact fun placed hplaced => fills_pad (h placed hplaced)
  · rw [← List.eq_replicate_of_mem fun c hc => by simpa using hspaces c hc]
    exact hline
  · intro hlast
    simpa using Text.getLast?_dropRightWhile (· == ' ') _ ' ' hlast
  · exact lineFeed_not_mem_pieces widths row _ (hline ▸ List.mem_append_left v hfeed) rfl

/-! ### The line of dashes -/

private theorem flatten_dashes (n : Nat) : flatten (List.replicate n '-') = List.replicate n '-' := by
  rw [flatten, List.map_replicate]
  rfl

private theorem dropColours_dashes (n : Nat) : Text.dropColours (List.replicate n '-') = List.replicate n '-' := by
  induction n with
  | zero => rfl
  | succ n ih => exact congrArg ('-' :: ·) ih

private theorem measure_dashes (n : Nat) : Text.measure (List.replicate n '-') = ((n : Int), Text.Right.plain) := by
  induction n with
  | zero => rfl
  | succ n ih =>
    have hplace : Text.place '-' Text.Right.plain = (1, Text.Right.plain) := rfl
    rw [List.replicate_succ, Text.measure, ih]
    simp only [hplace, Int.natCast_add, Int.add_comm]
    rfl

/-- A run of dashes takes as many places as it has dashes. -/
theorem cellWidth_dashes (n : Nat) : cellWidth (List.replicate n '-') = n := by
  rw [cellWidth, flatten_dashes, Text.visibleWidth, dropColours_dashes, Text.width, measure_dashes, Int.toNat_natCast]

private theorem pieces_rule (widths : List Nat) : pieces widths (rule widths) = rule widths := by
  have hpad : ∀ w, pad w (List.replicate w '-') = List.replicate w '-' := by
    intro w
    rw [pad, flatten_dashes, cellWidth_dashes, Nat.sub_self]
    exact List.append_nil _
  induction widths with
  | nil => rfl
  | cons w widths ih => exact congrArg₂ List.cons (hpad w) ih

private theorem cellWidth_le_rule (widths : List Nat) :
    ∀ placed ∈ widths.zip (rule widths), cellWidth placed.2 ≤ placed.1 := by
  induction widths with
  | nil => exact List.forall_mem_nil _
  | cons w widths ih => exact List.forall_mem_cons.2 ⟨Nat.le_of_eq (cellWidth_dashes w), ih⟩

private theorem getLast?_rule {w : Nat} {widths : List Nat} (h : ∀ v ∈ w :: widths, 1 ≤ v) :
    (Text.joinWith [' ', ' '] (rule (w :: widths))).getLast? = some '-' := by
  induction widths generalizing w with
  | nil =>
    obtain ⟨n, rfl⟩ := Nat.exists_eq_add_of_le' (h w (List.mem_cons_self ..))
    rw [rule, List.map_singleton, Text.joinWith, List.intercalate_singleton, List.replicate_succ', List.getLast?_concat]
  | cons v widths ih =>
    have hrest := ih fun u hu => h u (List.mem_cons_of_mem _ hu)
    rw [rule, List.map_cons] at hrest ⊢
    rw [List.map_cons, Text.joinWith, List.intercalate_cons_cons, List.getLast?_append, ← Text.joinWith, hrest]
    rfl

/-- The line of dashes is written whole. -/
theorem line_rule {widths : List Nat} (h : ∀ w ∈ widths, 1 ≤ w) :
    line widths (rule widths) = Text.joinWith [' ', ' '] (rule widths) := by
  have hlast : ∀ c ∈ (Text.joinWith [' ', ' '] (rule widths)).getLast?, (c == ' ') = false := by
    intro c hc
    cases widths with
    | nil => cases hc
    | cons w widths =>
      rw [getLast?_rule h, Option.mem_some_iff] at hc
      rw [← hc]
      rfl
  rw [line_eq, pieces_rule]
  simpa using Text.dropRightWhile_append (v := []) (by simp) hlast

/-! ### Tables -/

variable {headers : List Text} {rows : List (List Text)}

/-- No cell of a table is wider than its column. -/
theorem cellWidth_le_columnWidths {row : List Text} (hrow : row ∈ headers :: rows) :
    ∀ placed ∈ (columnWidths headers rows).zip row, cellWidth placed.2 ≤ placed.1 := by
  rintro ⟨w, cell⟩ hplaced
  obtain ⟨j, hj⟩ := List.mem_iff_getElem?.1 hplaced
  obtain ⟨hw, hcell⟩ := List.getElem?_zip_eq_some.1 hj
  rw [columnWidths_eq, List.getElem?_map, Option.map_eq_some_iff] at hw
  obtain ⟨j', hj', rfl⟩ := hw
  obtain ⟨_, rfl⟩ := List.getElem?_eq_some_iff.1 hj'
  rw [List.getElem_range]
  exact cellWidth_le_widest (mem_column hrow hcell)

theorem one_le_columnWidths : ∀ w ∈ columnWidths headers rows, 1 ≤ w := by
  rw [columnWidths_eq]
  exact List.forall_mem_map.2 fun j _ => one_le_widest _

private def tableLines (headers : List Text) (rows : List (List Text)) : List Text :=
  (headers :: rule (columnWidths headers rows) :: rows).map (line (columnWidths headers rows))

private theorem table_eq (headers : List Text) (rows : List (List Text)) :
    table headers rows = (tableLines headers rows).flatMap (· ++ ['\n']) := by
  rw [tableLines, List.flatMap_map]
  rfl

private theorem shows_tableLines : List.Forall₂ (Shows (columnWidths headers rows))
    (headers :: rule (columnWidths headers rows) :: rows) (tableLines headers rows) := by
  rw [tableLines, List.forall₂_map_right_iff, List.forall₂_same]
  intro row hrow
  refine shows_line ?_
  rcases List.mem_cons.1 hrow with rfl | hrow
  · exact cellWidth_le_columnWidths (List.mem_cons_self ..)
  rcases List.mem_cons.1 hrow with rfl | hrow
  · exact cellWidth_le_rule _
  · exact cellWidth_le_columnWidths (List.mem_cons_of_mem _ hrow)

/-- Lines that show rows have as many line feeds as there are rows, those behind them. -/
private theorem count_lineFeed {widths : List Nat} {lines : List Text} (h : List.Forall₂ (Shows widths) rows lines) :
    (lines.flatMap (· ++ ['\n'])).count '\n' = rows.length := by
  induction h with
  | nil => rfl
  | cons hline _ ih =>
    rw [List.flatMap_cons, List.count_append, List.count_append, ih, List.count_eq_zero_of_not_mem hline.single,
      List.count_singleton_self, List.length_cons]
    omega

/-- A table has a line for its headers, one of dashes and one for each row, each with its cells in columns that are
as wide as their widest cells. -/
theorem table_aligned (headers : List Text) (rows : List (List Text)) :
    let widths := (List.range headers.length).map fun j => widest (column (headers :: rows) j)
    let dashes := widths.map fun w => List.replicate w '-'
    ∃ lines, table headers rows = lines.flatMap (· ++ ['\n']) ∧ lines.length = rows.length + 2 ∧
      (table headers rows).count '\n' = rows.length + 2 ∧
      List.Forall₂ (Shows widths) (headers :: dashes :: rows) lines ∧
      lines[1]? = some (Text.joinWith [' ', ' '] dashes) := by
  rw [← columnWidths_eq]
  refine ⟨tableLines headers rows, table_eq headers rows, List.length_map _, ?_, shows_tableLines,
    congrArg some (line_rule one_le_columnWidths)⟩
  rw [table_eq, count_lineFeed shows_tableLines]
  rfl

/-- A wide character takes two places, a line break is a space, and cells without a column are left out. -/
example : table ["名".toList, ['b']] [["x\ny".toList], [[], ['c'], ['d']]] = "名   b\n---  -\nx y\n     c\n".toList := by
  decide +kernel

end SheetQuery.Layout
