import SheetQuery.Proofs.Columns

/-!
# Planned identifiers

A mapped header is kept under the name of its position, so no two mapped headers share an identifier.

* `mappings_identifiers`: the identifiers of a plan's mappings differ.
* `forTable_eq_self`: a word that begins with no digit is a table name already.
* `word_identifiers`: identifiers hold letters, digits and underscores only.
* `KeptAt`: the positions whose headers a plan keeps; `keptAt_iff` says that its mappings are those of these positions.
-/

namespace SheetQuery

theorem mappings_identifiers (table : Text) (headers : List Text) :
    (planTable table headers).mappings.Pairwise fun a b => a.identifier ≠ b.identifier :=
  List.pairwise_map.2 (pairwise_mapped table headers)

/-- What a table name keeps of a name holds letters, digits and underscores only. -/
theorem word_forTable (raw : Text) : (Identifier.forTable raw).all Identifier.isWordChar := by
  have hfilter : (raw.filter Identifier.isWordChar).all Identifier.isWordChar :=
    List.all_eq_true.2 fun c hc => (List.mem_filter.1 hc).2
  unfold Identifier.forTable
  split
  · rfl
  · rename_i c s hraw
    rw [hraw] at hfilter
    split
    · exact hfilter
    · exact hfilter

/-- A table name begins with no digit. -/
theorem digit_forTable (raw : Text) : ∀ c ∈ (Identifier.forTable raw).head?, c.isDigit = false := by
  intro first hfirst
  unfold Identifier.forTable at hfirst
  split at hfirst
  · cases hfirst
  · split at hfirst
    · cases hfirst
      rfl
    · rename_i hdigit
      cases hfirst
      exact Bool.eq_false_iff.2 hdigit

/-- A word that begins with no digit is a table name already. -/
theorem forTable_eq_self {w : Text} (hw : w.all Identifier.isWordChar) (hdigit : ∀ c ∈ w.head?, c.isDigit = false) :
    Identifier.forTable w = w := by
  rw [Identifier.forTable, List.filter_eq_self.2 (List.all_eq_true.1 hw)]
  cases w with
  | nil => rfl
  | cons c w =>
    dsimp only
    rw [hdigit c rfl, if_neg Bool.false_ne_true]

theorem word_identifiers (table : Text) (headers : List Text) :
    ∀ w ∈ (planTable table headers).identifiers, w.all Identifier.isWordChar :=
  List.forall_mem_map.2 fun c hc => (word_columns c hc).2

/-! ### Positions -/

/-- The header stands at the position, counted from zero, and at no later one, and has Han characters. -/
def KeptAt (headers : List Text) (k : Nat) (label : Text) : Prop :=
  headers[k]? = some label ∧ Text.hasHan label ∧ label ∉ headers.drop (k + 1)

instance (headers : List Text) (k : Nat) (label : Text) : Decidable (KeptAt headers k label) := by
  unfold KeptAt; infer_instance

private theorem keptAt_zero {header label : Text} {headers : List Text} :
    KeptAt (header :: headers) 0 label ↔ header = label ∧ Text.hasHan label ∧ label ∉ headers := by
  simp [KeptAt]

private theorem keptAt_succ {header label : Text} {headers : List Text} {k : Nat} :
    KeptAt (header :: headers) (k + 1) label ↔ KeptAt headers k label := by
  simp [KeptAt]

private theorem not_keptAt_of_lt {headers : List Text} {j k : Nat} {label : Text} (hj : headers[j]? = some label)
    (h : k < j) : ¬ KeptAt headers k label := by
  rintro ⟨-, -, hlater⟩
  refine hlater (List.mem_of_getElem? (i := j - (k + 1)) ?_)
  rw [List.getElem?_drop, ← hj]
  congr 1
  omega

/-- A header is kept at one position only. -/
theorem keptAt_unique {headers : List Text} {j k : Nat} {label : Text} (hj : KeptAt headers j label)
    (hk : KeptAt headers k label) : j = k := by
  rcases Nat.lt_trichotomy j k with h | h | h
  · exact absurd hj (not_keptAt_of_lt hk.1 h)
  · exact h
  · exact absurd hk (not_keptAt_of_lt hj.1 h)

/-- Where no header with Han characters comes twice, each one is kept. -/
theorem keptAt_of_nodup {headers : List Text} {k : Nat} {header : Text} (hnodup : (headers.filter Text.hasHan).Nodup)
    (h : headers[k]? = some header) (hhan : Text.hasHan header) : KeptAt headers k header := by
  induction headers generalizing k with
  | nil => cases h
  | cons first headers ih =>
    cases k with
    | zero =>
      rw [List.getElem?_cons_zero, Option.some.injEq] at h
      rw [h, List.filter_cons_of_pos hhan, List.nodup_cons] at hnodup
      exact keptAt_zero.2 ⟨h, hhan, fun hlater => hnodup.1 (List.mem_filter.2 ⟨hlater, hhan⟩)⟩
    | succ k =>
      rw [List.getElem?_cons_succ] at h
      exact keptAt_succ.2 (ih (hnodup.sublist ((List.sublist_cons_self ..).filter _)) h)

/-- A header with Han characters is kept at one of its positions. -/
theorem exists_keptAt {headers : List Text} {label : Text} (hhan : Text.hasHan label) (h : label ∈ headers) :
    ∃ k, KeptAt headers k label := by
  induction headers with
  | nil => cases h
  | cons header headers ih =>
    by_cases hlater : label ∈ headers
    · obtain ⟨k, hk⟩ := ih hlater
      exact ⟨k + 1, keptAt_succ.2 hk⟩
    · rcases List.mem_cons.1 h with rfl | h
      · exact ⟨0, keptAt_zero.2 ⟨rfl, hhan, hlater⟩⟩
      · exact absurd h hlater

/-- The mappings of a plan are those of the headers with Han characters, each with its position. -/
theorem mappings_eq (table : Text) (headers : List Text) : (planTable table headers).mappings =
    ((headers.zipIdx 1).filter (Text.hasHan ·.1)).map fun h => ⟨table, h.1, Identifier.forPosition h.2⟩ := by
  rw [TablePlan.mappings, columns_eq, List.mapIdx_eq_zipIdx_map, List.filter_map, List.map_map, List.zipIdx_succ,
    List.filter_map, List.map_map]
  simp only [Function.comp_def, mapped_describedColumn]
  refine List.map_congr_left fun h hmem => ?_
  obtain ⟨hmem, hhan⟩ := List.mem_filter.1 hmem
  have hposition : h.2 < headers.length := by simpa using List.snd_lt_add_of_mem_zipIdx hmem
  rw [header_describedColumn, identifier_describedColumn_of_han _ _ hhan, List.length_take, Nat.min_eq_left (by omega)]
  rfl

/-- The last position of a header with Han characters: one that comes later goes first. -/
private theorem find?_zipIdx_cons (header : Text) (headers : List Text) (position : Nat) (label : Text) :
    ((((header :: headers).zipIdx position).filter (Text.hasHan ·.1)).reverse.find? (·.1 == label)).map (·.2) =
      ((((headers.zipIdx (position + 1)).filter (Text.hasHan ·.1)).reverse.find? (·.1 == label)).map (·.2)).or
        (if header = label ∧ Text.hasHan label then some position else none) := by
  rw [List.zipIdx_cons, List.filter_cons]
  by_cases hsame : header = label
  · by_cases hhan : Text.hasHan header
    · rw [if_pos hhan, if_pos ⟨hsame, hsame ▸ hhan⟩, List.reverse_cons, List.find?_append, Option.map_or]
      simp [hsame]
    · rw [if_neg hhan, if_neg fun h => hhan (hsame ▸ h.2), Option.or_none]
  · split
    · simp [hsame, List.find?_append]
    · simp [hsame]

private theorem find?_zipIdx {headers : List Text} {position i : Nat} {label : Text} :
    (((headers.zipIdx position).filter (Text.hasHan ·.1)).reverse.find? (·.1 == label)).map (·.2) = some i ↔
      ∃ k, KeptAt headers k label ∧ i = position + k := by
  induction headers generalizing position i with
  | nil =>
    constructor
    · intro h
      cases h
    · rintro ⟨k, ⟨hk, -⟩, -⟩
      cases hk
  | cons header headers ih =>
    rw [find?_zipIdx_cons]
    cases hlater : (((headers.zipIdx (position + 1)).filter (Text.hasHan ·.1)).reverse.find? (·.1 == label)).map (·.2) with
    | some later =>
      obtain ⟨j, hj, hlater⟩ := ih.1 hlater
      rw [Option.some_or, Option.some.injEq, hlater]
      constructor
      · intro hi
        exact ⟨j + 1, keptAt_succ.2 hj, by omega⟩
      · rintro ⟨k, hk, rfl⟩
        cases k with
        | zero => exact absurd (List.mem_of_getElem? hj.1) (keptAt_zero.1 hk).2.2
        | succ k =>
          have hsame := keptAt_unique (keptAt_succ.1 hk) hj
          omega
    | none =>
      have hnone : Text.hasHan label → label ∉ headers := by
        intro hhan hmem
        obtain ⟨k, hk⟩ := exists_keptAt hhan hmem
        cases hlater.symm.trans (ih.2 ⟨k, hk, rfl⟩)
      rw [Option.none_or]
      constructor
      · intro h
        split at h
        · rename_i hhead
          cases h
          exact ⟨0, keptAt_zero.2 ⟨hhead.1, hhead.2, hnone hhead.2⟩, rfl⟩
        · cases h
      · rintro ⟨k, hk, rfl⟩
        cases k with
        | zero =>
          obtain ⟨hsame, hhan, -⟩ := keptAt_zero.1 hk
          rw [if_pos ⟨hsame, hhan⟩]
          rfl
        | succ k =>
          obtain ⟨hk, hhan, -⟩ := keptAt_succ.1 hk
          exact absurd (List.mem_of_getElem? hk) (hnone hhan)

/-- The last mapping of a header leads to the name of the position that it is kept at. -/
theorem keptAt_iff {table : Text} {headers : List Text} {label identifier : Text} :
    ((planTable table headers).mappings.reverse.find? (·.label == label)).map (·.identifier) = some identifier ↔
      ∃ k, KeptAt headers k label ∧ identifier = Identifier.forPosition (k + 1) := by
  have hfind : ((planTable table headers).mappings.reverse.find? (·.label == label)).map (·.identifier) =
      ((((headers.zipIdx 1).filter (Text.hasHan ·.1)).reverse.find? (·.1 == label)).map (·.2)).map
        Identifier.forPosition := by
    rw [mappings_eq, ← List.map_reverse, List.find?_map, Option.map_map, Option.map_map]
    rfl
  rw [hfind, Option.map_eq_some_iff]
  constructor
  · rintro ⟨i, hi, rfl⟩
    obtain ⟨k, hk, rfl⟩ := find?_zipIdx.1 hi
    exact ⟨k, hk, by rw [Nat.add_comm]⟩
  · rintro ⟨k, hk, rfl⟩
    exact ⟨1 + k, find?_zipIdx.2 ⟨k, hk, rfl⟩, by rw [Nat.add_comm]⟩

/-- A column whose header has Han characters is named by its position. -/
theorem identifiers_getElem? {table : Text} {headers : List Text} {k : Nat} {header : Text}
    (h : headers[k]? = some header) (hhan : Text.hasHan header) :
    (planTable table headers).identifiers[k]? = some (Identifier.forPosition (k + 1)) := by
  have hposition : k ≤ headers.length := Nat.le_of_lt (List.getElem?_eq_some_iff.1 h).1
  rw [TablePlan.identifiers, List.getElem?_map, columns_getElem?, h, Option.map_some, Option.map_some,
    identifier_describedColumn_of_han _ _ hhan, List.length_take, Nat.min_eq_left hposition]

private theorem le_of_isWordChar {c : Char} (h : Identifier.isWordChar c) : c.val ≤ 'z'.val := by
  rcases Bool.or_eq_true_iff.1 h with h | h
  · rcases Bool.or_eq_true_iff.1 h with h | hdigit
    · rcases Bool.or_eq_true_iff.1 h with hupper | hlower
      · exact UInt32.le_trans (of_decide_eq_true hupper).2 (by decide)
      · exact of_decide_eq_true (Bool.and_eq_true_iff.1 hlower).2
    · exact UInt32.le_trans (of_decide_eq_true (Bool.and_eq_true_iff.1 hdigit).2) (by decide)
  · rw [of_decide_eq_true h]
    decide

/-- The characters of identifiers are no Han characters. -/
theorem hasHan_of_word {w : Text} (h : w.all Identifier.isWordChar) : Text.hasHan w = false := by
  rw [Text.hasHan, List.any_eq_false]
  intro c hc
  have hascii : c.toNat < 0x2E80 :=
    Nat.lt_of_le_of_lt (le_of_isWordChar (List.all_eq_true.1 h c hc)) (by decide)
  have hlow : ∀ r ∈ Text.hanRanges, 0x2E80 ≤ r.1 := by decide
  rw [Text.isHan, Text.inRanges, Bool.not_eq_true, List.any_eq_false]
  intro r hr
  have hfirst := hlow r hr
  simp only [Bool.and_eq_true, decide_eq_true_eq, not_and]
  omega

/-- A plan keeps every header with Han characters, also one that comes again. -/
theorem length_mappings (table : Text) (headers : List Text) :
    (planTable table headers).mappings.length = headers.countP Text.hasHan := by
  have hheaders : headers.countP Text.hasHan = ((headers.zipIdx 1).map (·.1)).countP Text.hasHan := by
    rw [List.zipIdx_map_fst]
  rw [mappings_eq, List.length_map, ← List.countP_eq_length_filter, hheaders, List.countP_map]
  rfl

/-- The mappings of a plan are those of its table. -/
theorem table_of_mem_mappings {plan : TablePlan} {e : Mapping} (h : e ∈ plan.mappings) : e.table = plan.table := by
  obtain ⟨c, -, rfl⟩ := List.mem_map.1 h
  rfl

end SheetQuery
