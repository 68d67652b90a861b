import SheetQuery.Proofs.Delimited.RoundTrip

/-!
# Characters of delimited text

The reader of delimited text looks at single bytes, and the fields are decoded afterwards.  It cuts at ASCII
characters only and takes no others away, so a text in UTF-8 falls into fields that are texts again.

* `State.Effect`: what a byte can do to the state; `State.effect_step` says that it does no more.
* `Holds`: the fields that have been read are texts, and of the text in front only ASCII characters are missing;
  `Holds.char` and `Holds.text` follow this through a character and a text.
* `records_encode`: the records of a text.
* `readGrid_characters`: delimited text in UTF-8 can always be read, and no other characters are lost but byte order
  marks at the front of the file and of cells.
-/

namespace SheetQuery

/-- The characters of a text that are no ASCII characters. -/
def Text.nonAscii (s : Text) : Text := s.filter (0x80 ≤ ·.toNat)

theorem Text.nonAscii_append (s t : Text) : Text.nonAscii (s ++ t) = Text.nonAscii s ++ Text.nonAscii t :=
  List.filter_append ..

namespace Delimited

variable {delimiter : UInt8}

/-! ### One byte -/

namespace State

/-- What a byte can do to the state: it belongs to the field, or it is an ASCII character and ends the field or the
record, or only tells how to read on. -/
inductive Effect (s : State) (b : UInt8) : State → Prop where
  | keep (mode : Mode) (hmode : mode ≠ .recordStart) : Effect s b (s.keep mode b)
  | endField (hb : b.toNat < 0x80) : Effect s b s.endField
  | endRecord (hb : b.toNat < 0x80) : Effect s b s.endRecord
  | turn (mode : Mode) (hb : b.toNat < 0x80) (hmode : mode = .recordStart → s.mode = .recordStart) :
    Effect s b { s with mode := mode }

private theorem ascii_of_quote {b : UInt8} (h : (b == quoteByte) = true) : b.toNat < 0x80 := by
  rw [beq_iff_eq.1 h]
  decide

private theorem ascii_of_isLineEnd {b : UInt8} (h : isLineEnd b = true) : b.toNat < 0x80 := by
  rw [isLineEnd, Bool.or_eq_true, beq_iff_eq, beq_iff_eq] at h
  rcases h with rfl | rfl <;> decide

private theorem effect_plainStep (hdelimiter : delimiter.toNat < 0x80) (s : State) (b : UInt8) :
    Effect s b (s.plainStep delimiter b) := by
  unfold plainStep
  split
  · rename_i hb
    exact .endField (beq_iff_eq.1 hb ▸ hdelimiter)
  split
  · rename_i hb
    exact .endRecord (ascii_of_isLineEnd hb)
  · exact .keep .plain (by decide)

private theorem effect_fieldStep (hdelimiter : delimiter.toNat < 0x80) (s : State) (b : UInt8) :
    Effect s b (s.fieldStep delimiter b) := by
  unfold fieldStep
  split
  · rename_i hb
    exact .endField (beq_iff_eq.1 hb ▸ hdelimiter)
  split
  · rename_i hb
    exact .turn .quoted (ascii_of_quote hb) nofun
  · exact effect_plainStep hdelimiter s b

/-- If the delimiter is an ASCII character, a byte does no more than that. -/
theorem effect_step (hdelimiter : delimiter.toNat < 0x80) (s : State) (b : UInt8) :
    Effect s b (s.step delimiter b) := by
  unfold step
  split
  · split
    · rename_i hb
      exact .turn s.mode (ascii_of_isLineEnd hb) id
    · exact effect_fieldStep hdelimiter s b
  · exact effect_fieldStep hdelimiter s b
  · exact effect_plainStep hdelimiter s b
  · split
    · rename_i hb
      exact .turn .quoteSeen (ascii_of_quote hb) nofun
    · exact .keep .quoted (by decide)
  · split
    · exact .keep .quoted (by decide)
    · exact effect_plainStep hdelimiter s b

/-- Bytes that are no ASCII characters all belong to the field. -/
private theorem foldl_step_high (hdelimiter : delimiter.toNat < 0x80) {bytes : Bytes} (hne : bytes ≠ [])
    (hhigh : ∀ b ∈ bytes, 0x80 ≤ b.toNat) (s : State) :
    ∃ mode, mode ≠ .recordStart ∧
      bytes.foldl (step delimiter) s = ⟨mode, bytes.reverse ++ s.field, s.fields, s.records⟩ := by
  induction bytes generalizing s with
  | nil => exact absurd rfl hne
  | cons b bytes ih =>
    have hb := hhigh b (List.mem_cons_self ..)
    obtain ⟨mode, hmode, hstep⟩ : ∃ mode, mode ≠ .recordStart ∧ s.step delimiter b = s.keep mode b := by
      generalize hs' : s.step delimiter b = s'
      cases hs' ▸ effect_step hdelimiter s b with
      | keep mode hmode => exact ⟨mode, hmode, rfl⟩
      | endField hlow | endRecord hlow | turn _ hlow => omega
    rw [List.foldl_cons, hstep]
    by_cases hbytes : bytes = []
    · exact ⟨mode, hmode, by rw [hbytes]; rfl⟩
    · obtain ⟨mode', hmode', hrest⟩ := ih hbytes (fun c hc => hhigh c (List.mem_cons_of_mem _ hc)) (s.keep mode b)
      refine ⟨mode', hmode', hrest.trans ?_⟩
      simp [keep]

end State

/-! ### The fields of a state -/

/-- The fields of the state are texts: the cell under way, those before it in its row, and the finished rows. -/
structure Parts (s : State) (cell : Text) (cells : List Text) (rows : Grid) : Prop where
  field : s.field.reverse = Utf8.encode cell
  fields : s.fields.reverse = cells.map Utf8.encode
  records : s.records.reverse = rows.map (·.map Utf8.encode)
  recordStart : s.mode = .recordStart → cell = [] ∧ cells = []

namespace Parts

variable {s : State} {cell : Text} {cells : List Text} {rows : Grid}

theorem endField (h : Parts s cell cells rows) : Parts s.endField [] (cells ++ [cell]) rows :=
  ⟨rfl, by simp [State.endField, h.field, h.fields], h.records, nofun⟩

theorem endRecord (h : Parts s cell cells rows) : Parts s.endRecord [] [] (rows ++ [cells ++ [cell]]) :=
  ⟨rfl, rfl, by simp [State.endRecord, h.field, h.fields, h.records], fun _ => ⟨rfl, rfl⟩⟩

theorem turn (h : Parts s cell cells rows) {mode : Mode} (hmode : mode = .recordStart → s.mode = .recordStart) :
    Parts { s with mode := mode } cell cells rows :=
  ⟨h.field, h.fields, h.records, fun hstart => h.recordStart (hmode hstart)⟩

/-- The bytes of a character belong to the cell. -/
theorem keep (h : Parts s cell cells rows) {mode : Mode} (hmode : mode ≠ .recordStart) (c : Char) :
    Parts ⟨mode, (Utf8.encodeChar c).reverse ++ s.field, s.fields, s.records⟩ (cell ++ [c]) cells rows :=
  ⟨by simp [h.field], h.fields, h.records, fun hstart => absurd hstart hmode⟩

theorem finish (h : Parts s cell cells rows) :
    ∃ grid : Grid, s.finish = grid.map (·.map Utf8.encode) ∧
      grid.flatten.flatten = rows.flatten.flatten ++ cells.flatten ++ cell := by
  unfold State.finish
  split
  · rename_i hmode
    obtain ⟨rfl, rfl⟩ := h.recordStart hmode
    exact ⟨rows, h.records, by simp⟩
  · exact ⟨_, h.endRecord.records, by simp⟩

end Parts

/-- The fields of the state are texts, and together they have all characters of the text that has been read but for
ASCII characters. -/
def Holds (s : State) (read : Text) : Prop :=
  ∃ cell cells rows, Parts s cell cells rows ∧
    Text.nonAscii (rows.flatten.flatten ++ cells.flatten ++ cell) = Text.nonAscii read

namespace Holds

variable {s : State} {read : Text}

theorem start : Holds .start [] := ⟨[], [], [], ⟨rfl, rfl, rfl, fun _ => ⟨rfl, rfl⟩⟩, rfl⟩

theorem char (hdelimiter : delimiter.toNat < 0x80) (h : Holds s read) (c : Char) :
    Holds ((Utf8.encodeChar c).foldl (State.step delimiter) s) (read ++ [c]) := by
  obtain ⟨cell, cells, rows, hparts, hread⟩ := h
  have hkept :
      Text.nonAscii (rows.flatten.flatten ++ cells.flatten ++ (cell ++ [c])) = Text.nonAscii (read ++ [c]) := by
    rw [← List.append_assoc, Text.nonAscii_append, hread, ← Text.nonAscii_append]
  rcases Utf8.encodeChar_cases c with ⟨b, hbytes, hb⟩ | ⟨hne, hhigh⟩
  · -- an ASCII character may be dropped, and not a byte of any other one
    have hdropped : b.toNat < 0x80 →
        Text.nonAscii (rows.flatten.flatten ++ cells.flatten ++ cell) = Text.nonAscii (read ++ [c]) := by
      intro hlow
      have hnone : Text.nonAscii [c] = [] := by simp [Text.nonAscii, hb, hlow]
      rw [Text.nonAscii_append read, hnone, List.append_nil, hread]
    rw [hbytes, List.foldl_cons, List.foldl_nil]
    generalize hs' : s.step delimiter b = s'
    cases hs' ▸ State.effect_step hdelimiter s b with
    | keep mode hmode =>
      have hkeep := hparts.keep hmode c
      rw [hbytes] at hkeep
      exact ⟨_, _, _, hkeep, hkept⟩
    | endField hlow => exact ⟨_, _, _, hparts.endField, by simpa using hdropped hlow⟩
    | endRecord hlow => exact ⟨_, _, _, hparts.endRecord, by simpa using hdropped hlow⟩
    | turn mode hlow hmode => exact ⟨_, _, _, hparts.turn hmode, hdropped hlow⟩
  · obtain ⟨mode, hmode, hfold⟩ := State.foldl_step_high hdelimiter hne hhigh s
    rw [hfold]
    exact ⟨_, _, _, hparts.keep hmode c, hkept⟩

theorem text (hdelimiter : delimiter.toNat < 0x80) (h : Holds s read) (more : Text) :
    Holds ((Utf8.encode more).foldl (State.step delimiter) s) (read ++ more) := by
  induction more generalizing s read with
  | nil => rwa [List.append_nil]
  | cons c more ih =>
    rw [Utf8.encode_cons, List.foldl_append, List.append_cons]
    exact ih (h.char hdelimiter c)

end Holds

/-! ### Whole files -/

/-- The records of a text are texts, and have all its characters but for ASCII characters and a mark at its front. -/
theorem records_encode (hdelimiter : delimiter.toNat < 0x80) (s : Text) :
    ∃ cells : Grid, records delimiter (Utf8.encode s) = cells.map (·.map Utf8.encode) ∧
      Text.nonAscii cells.flatten.flatten = Text.nonAscii s.withoutMark := by
  obtain ⟨cell, cells, rows, hparts, hread⟩ := Holds.start.text hdelimiter s.withoutMark
  obtain ⟨grid, hfinish, hgrid⟩ := hparts.finish
  refine ⟨grid, ?_, ?_⟩
  · rw [records, dropMark_encode, hfinish]
  · rw [hgrid, hread, List.nil_append]

end Delimited

open Delimited

/-- A file of delimited text in UTF-8 can be read at any ASCII delimiter.  Its fields are texts, of which each cell is one
without a mark at its front; and what the fields have beside ASCII characters is, row by row, what the file has, without a
mark at its front. -/
theorem readGrid_characters (readers : Readers) {disk : Disk} {path : Text} {bytes : Bytes} {s : Text} {delimiter : UInt8}
    (hlookup : disk.lookup path = .ok (.file (.bytes bytes))) (hvalid : Utf8.decode bytes = some s)
    (hdelimiter : delimiter.toNat < 0x80) :
    ∃ cells : Grid, records delimiter bytes = cells.map (·.map Utf8.encode) ∧
      readGrid readers disk path .delimited (some delimiter) .utf8 = .ok (cells.map (·.map Text.withoutMark)) ∧
      Text.nonAscii cells.flatten.flatten = Text.nonAscii s.withoutMark := by
  have hbytes := Utf8.encode_of_decode hvalid
  obtain ⟨cells, hrecords, hcells⟩ := records_encode hdelimiter s
  rw [← hbytes] at hrecords
  refine ⟨cells, hrecords, ?_, hcells⟩
  simp only [readGrid, hlookup, readDelimited, sourceDelimiter, Option.getD_some, Content.asBytes, hrecords,
    decodeRecords_encode]
  rfl

/-- Of two marks in front of the first cell neither is left, and none in front of a quoted one; delimiters inside quotes,
line ends and a last cell without a line end lose nothing. -/
theorem readGrid_characters_marked :
    let content := "\uFEFF\uFEFF名;\"\uFEFF称;\"\r\n\n;\u00E9".toList
    let disk : Disk := ⟨[(["a.csv".toList], .file (.bytes (Utf8.encode content)))]⟩
    disk.lookup "a.csv".toList = .ok (.file (.bytes (Utf8.encode content))) ∧
      Utf8.decode (Utf8.encode content) = some content ∧ (0x3B : UInt8).toNat < 0x80 ∧
      ∃ cells : Grid, readGrid .standard disk "a.csv".toList .delimited (some 0x3B) .utf8 =
        .ok (cells.map (·.map Text.withoutMark)) ∧
        Text.nonAscii cells.flatten.flatten = "\uFEFF名\uFEFF称\u00E9".toList := by
  intro content disk
  have hlookup : disk.lookup "a.csv".toList = .ok (.file (.bytes (Utf8.encode content))) := by decide +kernel
  have hvalid : Utf8.decode (Utf8.encode content) = some content := Utf8.decode_encode content
  have hdelimiter : (0x3B : UInt8).toNat < 0x80 := by decide
  obtain ⟨cells, -, hgrid, hcells⟩ := readGrid_characters .standard hlookup hvalid hdelimiter
  refine ⟨hlookup, hvalid, hdelimiter, cells, hgrid, hcells.trans ?_⟩
  decide +kernel

end SheetQuery
