import Mathlib.Data.List.Nodup
import SheetQuery.Proofs.Sql.Frame

/-!
# Rows that come and go

What deleting and replacing rows makes of the rows of a table that no trigger watches.

* `order_text`: texts are compared character by character; `order_written`: so are blobs, behind all texts.
* `Progress.all_delete`: the rows that are left when some are deleted.
* `Table.insertRow_replacing`: the rows when one is put in and those with its key give way.
* `Catalog.Shows.replace_rows`: a table in sight stays there when its rows change.
-/

namespace SheetQuery.Sql

/-! ### Texts -/

theorem Value.order_text (s t : Text) :
    (order (.text s) (.text t) = .lt ↔ s < t) ∧ (order (.text s) (.text t) = .eq ↔ s = t) := by
  change (orderLists Char.toNat s t = .lt ↔ s < t) ∧ (orderLists Char.toNat s t = .eq ↔ s = t)
  induction s generalizing t with
  | nil => cases t <;> simp [orderLists]
  | cons c s ih =>
    cases t with
    | nil => simp [orderLists]
    | cons d t =>
      obtain ⟨hlt, heq⟩ := ih t
      rw [orderLists, List.cons_lt_cons_iff, List.cons.injEq]
      have hchar : c = d ↔ c.toNat = d.toNat := ⟨congrArg _, fun h => Char.ext (UInt32.toNat_inj.1 h)⟩
      have hcharlt : c < d ↔ c.toNat < d.toNat := by
        rw [Char.lt_def, UInt32.lt_iff_toNat_lt]
        rfl
      rw [hchar, hcharlt]
      rcases Nat.lt_trichotomy c.toNat d.toNat with h | h | h
      · simp [Nat.compare_eq_lt.2 h, h, Nat.ne_of_lt h]
      · simp [h, hlt, heq]
      · simp [Nat.compare_eq_gt.2 h, Nat.lt_asymm h, Nat.ne_of_gt h]

/-! ### Texts and blobs -/

namespace Value

/-- A text or a blob. -/
def IsWritten : Value → Prop
  | text _ | blob _ => True
  | _ => False

/-- The place of a text or a blob in the order of sorting: texts stand before blobs. -/
def place : Value → List Nat
  | text s => 0 :: s.map Char.toNat
  | blob b => 1 :: b.map UInt8.toNat
  | _ => []

private theorem orderLists_eq {α : Type} (toNat : α → Nat) (s t : List α) :
    orderLists toNat s t = compare (s.map toNat) (t.map toNat) := by
  induction s generalizing t with
  | nil => cases t <;> rfl
  | cons a s ih =>
    cases t with
    | nil => rfl
    | cons b t => rw [orderLists, ih, List.map_cons, List.map_cons, List.compare_cons_cons]

theorem order_written {v w : Value} (hv : v.IsWritten) (hw : w.IsWritten) : order v w = compare v.place w.place := by
  cases v with
  | text s =>
    cases w with
    | text t => exact orderLists_eq Char.toNat s t
    | blob c => rfl
    | null | integer | real => exact hw.elim
  | blob b =>
    cases w with
    | text t => rfl
    | blob c => exact orderLists_eq UInt8.toNat b c
    | null | integer | real => exact hw.elim
  | null | integer | real => exact hv.elim

theorem eq_of_place_eq {v w : Value} (hv : v.IsWritten) (hw : w.IsWritten) (h : v.place = w.place) : v = w := by
  have hchar : Function.Injective Char.toNat := fun c d h => Char.ext (UInt32.toNat_inj.1 h)
  have hbyte : Function.Injective UInt8.toNat := fun c d h => UInt8.toNat_inj.1 h
  cases v with
  | text s =>
    cases w with
    | text t => rw [List.map_injective_iff.2 hchar (List.cons.inj h).2]
    | blob c => exact absurd (List.cons.inj h).1 Nat.zero_ne_one
    | null | integer | real => exact hw.elim
  | blob b =>
    cases w with
    | text t => exact absurd (List.cons.inj h).1 Nat.one_ne_zero
    | blob c => rw [List.map_injective_iff.2 hbyte (List.cons.inj h).2]
    | null | integer | real => exact hw.elim
  | null | integer | real => exact hv.elim

end Value

/-! ### Rows of a table -/

namespace Table

theorem insertByNumber_last {new : Row} {rows : List Row} (h : ∀ r ∈ rows, r.number < new.number) :
    insertByNumber new rows = rows ++ [new] := by
  induction rows with
  | nil => rfl
  | cons r rows ih =>
    have hr := h r (List.mem_cons_self ..)
    rw [insertByNumber, if_neg (by omega), ih fun r' hr' => h r' (List.mem_cons_of_mem _ hr'), List.cons_append]

private theorem le_foldl_max (rows : List Row) (n : Int) :
    n ≤ rows.foldl (fun n r => max n (r.number + 1)) n ∧
      ∀ r ∈ rows, r.number < rows.foldl (fun n r => max n (r.number + 1)) n := by
  induction rows generalizing n with
  | nil => exact ⟨Int.le_refl _, by simp⟩
  | cons r rest ih =>
    obtain ⟨hle, hlt⟩ := ih (max n (r.number + 1))
    rw [List.foldl_cons]
    refine ⟨by omega, fun r' hr' => ?_⟩
    rcases List.mem_cons.1 hr' with rfl | hr'
    · omega
    · exact hlt r' hr'

/-- The number of the next row is above those of all rows. -/
theorem lt_nextNumber {t : Table} {r : Row} (h : r ∈ t.rows) : r.number < t.nextNumber := (le_foldl_max t.rows 1).2 r h

/-- A row that asks for no number is put in with the next one, and the rows with its key give way. -/
theorem insertRow_replacing {t : Table} {values : List Value} (hnumber : t.numberColumn = none)
    (hmissing : t.missingColumn? values = none) :
    t.insertRow true values =
      .ok ({ t with
        rows := insertByNumber ⟨t.nextNumber, values⟩ (t.rows.filter fun r => !t.sameKey values r) },
        ⟨t.nextNumber, values⟩) := by
  have hasked : t.askedNumber values = .ok none := by rw [askedNumber, hnumber]
  have hvalues : t.withNumber t.nextNumber values = values := by rw [withNumber, hnumber]
  have hclash : ∀ r ∈ t.rows, (r.number == t.nextNumber || t.sameKey values r) = t.sameKey values r := by
    intro r hr
    have hlt := lt_nextNumber hr
    have hne : (r.number == t.nextNumber) = false := beq_eq_false_iff_ne.2 (by omega)
    rw [hne, Bool.false_or]
  have hrows : (t.rows.filter fun r => !(r.number == t.nextNumber || t.sameKey values r)) =
      t.rows.filter fun r => !t.sameKey values r := List.filter_congr fun r hr => by rw [hclash r hr]
  simp only [insertRow, hasked, bind, Except.bind, Option.getD_none, hvalues, hmissing, if_true, pure, Except.pure, hrows]

end Table

namespace Progress

private theorem delete_quiet (p : Progress) (old : Row) :
    delete [] p old =
      .ok (p.advance { p.table with rows := p.table.rows.filter (·.number != old.number) }) := rfl

/-- Deleting rows leaves those with other numbers. -/
theorem all_delete (l : List Row) (p : Progress) :
    ∃ n, all (delete []) l p =
      .ok ⟨{ p.table with rows := p.table.rows.filter fun r => l.all fun old => r.number != old.number }, n⟩ := by
  induction l generalizing p with
  | nil =>
    refine ⟨p.changed, ?_⟩
    have hself : p.table.rows.filter (fun _ => true) = p.table.rows := List.filter_eq_self.2 fun _ _ => rfl
    simp only [all, List.all_nil, hself]
  | cons old l ih =>
    obtain ⟨n, h⟩ := ih (p.advance { p.table with rows := p.table.rows.filter (·.number != old.number) })
    refine ⟨n, ?_⟩
    rw [all, delete_quiet]
    dsimp only
    rw [h]
    simp only [advance, List.filter_filter, List.all_cons, Bool.and_comm]

/-- Deleting the rows that are selected leaves the others, if numbers do not repeat. -/
theorem all_delete_selected {t : Table} (hnodup : (t.rows.map (·.number)).Nodup) (selected : Row → Bool) :
    ∃ n, all (delete []) (t.rows.filter selected) ⟨t, 0⟩ =
      .ok ⟨{ t with rows := t.rows.filter fun r => !selected r }, n⟩ := by
  obtain ⟨n, h⟩ := all_delete (t.rows.filter selected) ⟨t, 0⟩
  refine ⟨n, h.trans ?_⟩
  have hrows : (t.rows.filter fun r => (t.rows.filter selected).all fun old => r.number != old.number) =
      t.rows.filter fun r => !selected r := by
    refine List.filter_congr fun r hr => ?_
    rw [Bool.eq_iff_iff, List.all_eq_true, Bool.not_eq_true']
    constructor
    · -- a row that is selected has its own number
      intro hall
      by_contra hselected
      have hself := hall r (List.mem_filter.2 ⟨hr, by simpa using hselected⟩)
      simp at hself
    · -- two rows of one number are the same row
      intro hselected old hold
      obtain ⟨hold, hselected'⟩ := List.mem_filter.1 hold
      rw [bne_iff_ne]
      intro hnumber
      rw [List.inj_on_of_nodup_map hnodup hr hold hnumber, hselected'] at hselected
      cases hselected
  rw [hrows]

end Progress

/-! ### The table in sight -/

namespace Schema

variable {s : Schema} {name : Text} {t t' : Table}

theorem find?_replace_self (h : s.find? name = some t) (ht : t'.name = t.name) :
    (s.replace t').find? name = some t' := by
  have hname : Text.sameName t'.name name := by
    rw [ht]
    exact sameName_of_find? h
  unfold find? at h
  unfold find? replace
  generalize s.tables = tables at h
  induction tables with
  | nil => cases h
  | cons first rest ih =>
    rw [List.find?_cons] at h
    rw [List.map_cons, List.find?_cons]
    by_cases hfirst : first.name = t'.name
    · rw [if_pos hfirst, hname]
    · -- the table that is found is another one, so this one is not of the name
      rw [if_neg hfirst]
      cases hsame : Text.sameName first.name name with
      | true =>
        rw [hsame] at h
        cases h
        exact absurd ht.symm hfirst
      | false =>
        rw [hsame] at h
        exact ih h

end Schema

variable {name : Text} {t : Table}

theorem Catalog.Shows.replace_rows {c : Catalog} (h : c.Shows name t) (rows : List Row) :
    (c.modify false (·.replace { t with rows := rows })).Shows name { t with rows := rows } :=
  ⟨Schema.find?_replace_self h.found rfl, h.unhidden, h.quiet⟩

theorem Catalog.Shows.find {c : Catalog} (h : c.Shows name t) (written : Text) (offset : Nat) :
    c.find ⟨⟨name, written, offset⟩, none⟩ = .ok (false, t) := by
  simp [Catalog.find, Catalog.find?, h.found, h.unhidden]

end SheetQuery.Sql
