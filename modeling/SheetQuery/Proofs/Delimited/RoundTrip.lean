import Mathlib.Data.List.TakeWhile
import SheetQuery.Proofs.Disk
import SheetQuery.Proofs.Text.Utf8
import SheetQuery.Readers
import SheetQuery.Session.Query

/-!
# A result that is written is read back

The reader is followed through the bytes of a file piece by piece, a quoted character, a field, a record and the
list of all records, each time from any state that can stand in front of the piece.

* `records_write` gives the records of a file that was written whole.
* `readGrid_writeListing` is the round trip: a byte order mark at the front of a cell is lost, since every field is
  decoded by itself, and nothing else changes.
-/

namespace SheetQuery.Delimited

variable {fields : List Field} {read : List Record}

/-- The state behind some bytes. -/
private def pass (s : State) (bytes : Bytes) : State := bytes.foldl (State.step commaByte) s

private theorem pass_append (s : State) (u v : Bytes) : pass s (u ++ v) = pass (pass s u) v :=
  List.foldl_append

/-! ### Inside the quotes -/

private theorem pass_bytes (field : Field) {bytes : Bytes} (h : quoteByte ∉ bytes) :
    pass ⟨.quoted, field, fields, read⟩ bytes = ⟨.quoted, bytes.reverse ++ field, fields, read⟩ := by
  induction bytes generalizing field with
  | nil => rfl
  | cons b bytes ih =>
    rw [List.mem_cons, not_or] at h
    have hb : (b == quoteByte) = false := beq_eq_false_iff_ne.2 fun heq => h.1 heq.symm
    have hstep : State.step commaByte ⟨.quoted, field, fields, read⟩ b
        = ⟨.quoted, b :: field, fields, read⟩ := by
      simp only [State.step, hb, State.keep]
      rfl
    rw [pass, List.foldl_cons, hstep, ← pass, ih (b :: field) h.2]
    simp

private theorem quoteByte_not_mem {c : Char} (h : c ≠ '"') : quoteByte ∉ Utf8.encodeChar c := by
  intro hmem
  rcases Utf8.mem_encodeChar hmem with ⟨hc, -⟩ | hlarge
  · have hquote : c.toNat = '"'.toNat := hc
    exact h (Char.toNat_inj.1 hquote)
  · have hsmall : quoteByte.toNat = 0x22 := rfl
    omega

private theorem pass_char (field : Field) (c : Char) :
    pass ⟨.quoted, field, fields, read⟩ (Utf8.encode (if c = '"' then ['"', '"'] else [c]))
      = ⟨.quoted, (Utf8.encodeChar c).reverse ++ field, fields, read⟩ := by
  by_cases hc : c = '"'
  · -- the first quote only opens the question that the second one answers
    rw [hc, if_pos rfl]
    rfl
  · rw [if_neg hc, Utf8.encode_cons, Utf8.encode_nil, List.append_nil]
    exact pass_bytes field (quoteByte_not_mem hc)

private theorem pass_quoted (field : Field) (text : Text) :
    pass ⟨.quoted, field, fields, read⟩ (Utf8.encode (text.flatMap fun c => if c = '"' then ['"', '"'] else [c]))
      = ⟨.quoted, (Utf8.encode text).reverse ++ field, fields, read⟩ := by
  induction text generalizing field with
  | nil => rfl
  | cons c text ih =>
    rw [List.flatMap_cons, Utf8.encode_append, pass_append, pass_char, ih, Utf8.encode_cons]
    simp

/-! ### Fields and records -/

private def Ready (mode : Mode) : Prop := mode = .recordStart ∨ mode = .fieldStart

private theorem pass_field {mode : Mode} (hmode : Ready mode) (text : Text) :
    pass ⟨mode, [], fields, read⟩ (Utf8.encode (writeField text))
      = ⟨.quoteSeen, (Utf8.encode text).reverse, fields, read⟩ := by
  have hopen : pass ⟨mode, [], fields, read⟩ (Utf8.encode ['"']) = ⟨.quoted, [], fields, read⟩ := by
    rcases hmode with rfl | rfl <;> rfl
  have hclose (field : Field) :
      pass ⟨.quoted, field, fields, read⟩ (Utf8.encode ['"']) = ⟨.quoteSeen, field, fields, read⟩ := rfl
  have hwrite : writeField text
      = ['"'] ++ (text.flatMap fun c => if c = '"' then ['"', '"'] else [c]) ++ ['"'] := rfl
  rw [hwrite, Utf8.encode_append, Utf8.encode_append, pass_append, pass_append, hopen, pass_quoted, hclose,
    List.append_nil]

private theorem pass_comma (field : Field) :
    pass ⟨.quoteSeen, field, fields, read⟩ (Utf8.encode [',']) = ⟨.fieldStart, [], field.reverse :: fields, read⟩ :=
  rfl

private theorem pass_lineFeed (field : Field) :
    pass ⟨.quoteSeen, field, fields, read⟩ (Utf8.encode ['\n'])
      = ⟨.recordStart, [], [], (field.reverse :: fields).reverse :: read⟩ := rfl

private theorem pass_fields {mode : Mode} (hmode : Ready mode) (texts : List Text) (hne : texts ≠ []) :
    pass ⟨mode, [], fields, read⟩ (Utf8.encode (Text.joinWith [','] (texts.map writeField) ++ ['\n']))
      = ⟨.recordStart, [], [], (fields.reverse ++ texts.map Utf8.encode) :: read⟩ := by
  induction texts generalizing mode fields with
  | nil => exact absurd rfl hne
  | cons text texts ih =>
    cases texts with
    | nil =>
      rw [List.map_cons, List.map_nil, Text.joinWith, List.intercalate_singleton, Utf8.encode_append, pass_append,
        pass_field hmode, pass_lineFeed]
      simp
    | cons next texts =>
      have hjoin : Text.joinWith [','] ((text :: next :: texts).map writeField) ++ ['\n']
          = writeField text ++ ([','] ++ (Text.joinWith [','] ((next :: texts).map writeField) ++ ['\n'])) := by
        simp [Text.joinWith, List.intercalate]
      rw [hjoin, Utf8.encode_append, pass_append, pass_field hmode, Utf8.encode_append, pass_append, pass_comma,
        ih (.inr rfl) (by simp)]
      simp

private theorem pass_record (texts : List Text) (hne : texts ≠ []) :
    pass ⟨.recordStart, [], [], read⟩ (Utf8.encode (writeRecord texts))
      = ⟨.recordStart, [], [], texts.map Utf8.encode :: read⟩ := by
  have hwrite : writeFields texts = Text.joinWith [','] (texts.map writeField) := by
    rw [writeFields, if_neg (by simpa using hne)]
  rw [writeRecord, hwrite, pass_fields (.inl rfl) texts hne]
  rfl

private theorem pass_records {rows : List (List Text)} (hne : ∀ row ∈ rows, row ≠ []) :
    pass ⟨.recordStart, [], [], read⟩ (Utf8.encode (rows.flatMap writeRecord))
      = ⟨.recordStart, [], [], (rows.map (·.map Utf8.encode)).reverse ++ read⟩ := by
  induction rows generalizing read with
  | nil => rfl
  | cons row rows ih =>
    rw [List.flatMap_cons, Utf8.encode_append, pass_append, pass_record row (hne row (List.mem_cons_self ..)),
      ih fun r hr => hne r (List.mem_cons_of_mem _ hr)]
    simp

/-! ### Whole files -/

theorem firstUneven_eq_none {width : Nat} {rows : List (List Text)} (h : ∀ row ∈ rows, row.length = width) :
    firstUneven width rows = none := by
  have hall : rows.takeWhile (·.length == width) = rows :=
    List.takeWhile_eq_self_iff.2 fun row hrow => by simpa using h row hrow
  simp [firstUneven, hall]

/-- A grid whose rows are as long as its headers is written whole. -/
theorem write_eq {headers : List Text} {rows : List (List Text)} (h : ∀ row ∈ rows, row.length = headers.length) :
    write headers rows = ((headers :: rows).flatMap writeRecord, none) := by
  rw [write, firstUneven_eq_none h, List.flatMap_cons]

/-- A mark at the front of a file is dropped. -/
theorem dropMark_encode (s : Text) : dropMark (Utf8.encode s) = Utf8.encode s.withoutMark := by
  unfold dropMark
  split
  · rename_i hmark
    obtain ⟨rest, hrest⟩ := List.isPrefixOf_iff_prefix.1 hmark
    obtain ⟨t, rfl, rfl⟩ := Utf8.encode_eq_mark hrest.symm
    rfl
  · rename_i hmark
    rw [Text.withoutMark_eq_self]
    intro hhead
    obtain ⟨t, rfl⟩ := List.head?_eq_some_iff.1 hhead
    exact hmark rfl

/-- The first character of a file is a quote, so no mark is taken for one of the file. -/
private theorem withoutMark_write {headers : List Text} (hne : headers ≠ []) (rest : Text) :
    (writeRecord headers ++ rest).withoutMark = writeRecord headers ++ rest := by
  cases headers with
  | nil => exact absurd rfl hne
  | cons header headers =>
    have hfirst : ∃ tail, writeRecord (header :: headers) ++ rest = '"' :: tail := by
      cases headers <;> simp [writeRecord, writeFields, Text.joinWith, List.intercalate, writeField]
    obtain ⟨tail, htail⟩ := hfirst
    exact Text.withoutMark_eq_self (by simp [htail])

/-- The records of a file that was written whole are the bytes of its cells. -/
theorem records_write {headers : List Text} {rows : List (List Text)} (hne : headers ≠ [])
    (h : ∀ row ∈ rows, row.length = headers.length) :
    records commaByte (Utf8.encode (write headers rows).1) = (headers :: rows).map (·.map Utf8.encode) := by
  have hrows : ∀ row ∈ headers :: rows, row ≠ [] := by
    intro row hrow
    rcases List.mem_cons.1 hrow with rfl | hrow
    · exact hne
    · exact List.ne_nil_of_length_pos (h row hrow ▸ List.length_pos_iff.2 hne)
  have hpass := @pass_records [] (headers :: rows) hrows
  rw [write_eq h, records]
  simp only [List.flatMap_cons] at hpass ⊢
  rw [dropMark_encode, withoutMark_write hne]
  unfold pass at hpass
  rw [State.start, hpass, State.finish]
  simp

private theorem allSome_decode (other : Encoding → Bytes → Option Text) (cells : List Text) :
    Utf8.allSome ((cells.map Utf8.encode).map (Encoding.utf8.decode other)) = some (cells.map Text.withoutMark) := by
  have hcells : (cells.map Utf8.encode).map (Encoding.utf8.decode other) = (cells.map Text.withoutMark).map some := by
    simp [Encoding.decode_encode]
  rw [hcells, Utf8.allSome_map_some]

theorem decodeRecords_encode (readers : Readers) (row : Nat) (grid : Grid) :
    decodeRecords readers .utf8 row (grid.map (·.map Utf8.encode)) = .ok (grid.map (·.map Text.withoutMark)) := by
  induction grid generalizing row with
  | nil => rfl
  | cons cells grid ih => simp only [List.map_cons, decodeRecords, allSome_decode, ih]; rfl

private theorem map_withoutMark_eq_self {grid : Grid} (h : ∀ row ∈ grid, ∀ cell ∈ row, cell.head? ≠ some '\uFEFF') :
    grid.map (·.map Text.withoutMark) = grid := by
  rw [List.map_congr_left fun row hrow => ?_, List.map_id]
  exact (List.map_congr_left fun cell hcell => Text.withoutMark_eq_self (h row hrow cell hcell)).trans (List.map_id row)

end SheetQuery.Delimited

namespace SheetQuery

open Delimited

/-- A result of at least one column, written to any path that can be written and read as comma separated UTF-8,
comes back whole: its headers, then its rows, where only a byte order mark at the front of a cell is lost. -/
theorem readGrid_writeListing (readers : Readers) {disk : Disk} {path : Text} {headers : List Text} {rows : List (List Text)}
    (hwritable : disk.writable path = .ok ()) (hheaders : headers ≠ [])
    (hrows : ∀ row ∈ rows, row.length = headers.length) :
    ∃ disk', Workspace.writeListing disk path ⟨headers, rows⟩ = (disk', .ok ()) ∧
      readGrid readers disk' path .delimited (some commaByte) .utf8
        = .ok ((headers :: rows).map (·.map Text.withoutMark)) ∧
      ((∀ row ∈ headers :: rows, ∀ cell ∈ row, cell.head? ≠ some '\uFEFF') →
        readGrid readers disk' path .delimited (some commaByte) .utf8 = .ok (headers :: rows)) := by
  have hwrite := write_eq hrows
  have hcreate : disk.create path (.bytes (Utf8.encode (write headers rows).1))
      = .ok (disk.put path (.file (.bytes (Utf8.encode (write headers rows).1)))) := by
    simp [Disk.create, hwritable, bind, Except.bind, pure, Except.pure]
  have hread : readGrid readers (disk.put path (.file (.bytes (Utf8.encode (write headers rows).1)))) path
      .delimited (some commaByte) .utf8 = .ok ((headers :: rows).map (·.map Text.withoutMark)) := by
    simp only [readGrid, Disk.lookup_put hwritable, readDelimited, sourceDelimiter, Option.getD_some,
      Content.asBytes, records_write hheaders hrows, decodeRecords_encode]
    rfl
  refine ⟨_, ?_, hread, fun hmarks => ?_⟩
  · simp only [Workspace.writeListing, hcreate]
    rw [hwrite]
  · rw [hread, map_withoutMark_eq_self hmarks]

/-- Quotes, commas, line ends and empty cells come back, and of two byte order marks the first is lost. -/
theorem readGrid_writeListing_mark :
    let headers := ["名,称".toList, "\"x\"".toList]
    let rows := [[[], "a\r\n\"b\"".toList], ["\uFEFF\uFEFFc".toList, []]]
    Disk.empty.writable "out.csv".toList = .ok () ∧ headers ≠ [] ∧ (∀ row ∈ rows, row.length = headers.length) ∧
      ∃ disk', Workspace.writeListing .empty "out.csv".toList ⟨headers, rows⟩ = (disk', .ok ()) ∧
        readGrid .standard disk' "out.csv".toList .delimited (some commaByte) .utf8
          = .ok [headers, [[], "a\r\n\"b\"".toList], ["\uFEFFc".toList, []]] := by
  intro headers rows
  have hwritable : Disk.empty.writable "out.csv".toList = .ok () := by decide
  have hheaders : headers ≠ [] := by decide
  have hrows : ∀ row ∈ rows, row.length = headers.length := by decide
  obtain ⟨disk', hwrite, hread, -⟩ := readGrid_writeListing .standard hwritable hheaders hrows
  exact ⟨hwritable, hheaders, hrows, disk', hwrite, hread⟩

end SheetQuery
