import SheetQuery.Sql.Catalog

/-!
# Pages

How many pages of 4096 bytes a schema takes on disk. Every table and every primary key begins with a
page of its own; rows are packed into pages one after another, and what does not fit into a page goes to
pages of its own.
-/

namespace SheetQuery.Sql

def pageSize : Nat := 4096

/-- The bytes that a length takes, seven bits each. -/
def lengthBytes (n : Nat) : Nat := if n < 128 then 1 else if n < 16384 then 2 else if n < 2097152 then 3 else 4

/-- The bytes of a value, and of the note on its kind. -/
def Value.storedBytes : Value → Nat × Nat
  | .null => (0, 1)
  | .integer i =>
    if i = 0 ∨ i = 1 then (0, 1)
    else if -128 ≤ i ∧ i < 128 then (1, 1)
    else if -32768 ≤ i ∧ i < 32768 then (2, 1)
    else if -8388608 ≤ i ∧ i < 8388608 then (3, 1)
    else if -2147483648 ≤ i ∧ i < 2147483648 then (4, 1)
    else if -140737488355328 ≤ i ∧ i < 140737488355328 then (6, 1)
    else (8, 1)
  | .real _ => (8, 1)
  | .text s => (Utf8.size s, lengthBytes (2 * Utf8.size s + 13))
  | .blob b => (b.length, lengthBytes (2 * b.length + 12))

def recordBytes (values : List Value) : Nat :=
  let sizes := values.map Value.storedBytes
  let kinds := sumOf Prod.snd sizes
  sumOf Prod.fst sizes + kinds + lengthBytes (kinds + 1)

/-- The bytes of a record inside a page, where at most `most` fit, and the pages that hold the rest. -/
def spill (most bytes : Nat) : Nat × Nat :=
  if bytes ≤ most then (bytes, 0)
  else
    let least := 489
    let kept := least + (bytes - least) % (pageSize - 4)
    let local' := if kept ≤ most then kept else least
    (local' + 4, (bytes - local' + (pageSize - 4) - 1) / (pageSize - 4))

/-- The pages of records that are packed one after another into pages with `room` bytes. -/
def packedPages (room most : Nat) (records : List Nat) : Nat :=
  let packed := records.foldl (fun (state : Nat × Nat × Nat) bytes =>
      let (leaves, free, extra) := state
      let (inside, outside) := spill most bytes
      let cell := inside + lengthBytes bytes + 3
      if cell ≤ free then (leaves, free - cell, extra + outside)
      else (leaves + 1, room - cell, extra + outside)) (1, room, 0)
  packed.1 + packed.2.2 + (if packed.1 > 1 then 1 else 0)

def Table.pages (t : Table) : Nat :=
  let rows := packedPages (pageSize - 8) (pageSize - 35) (t.rows.map fun r => recordBytes r.values)
  let key := t.keyColumns
  let keys :=
    if key.isEmpty || t.numberColumn.isSome then 0
    else
      packedPages (pageSize - 8) 1002
        (t.rows.map fun r => recordBytes (key.map (r.values.getD · .null) ++ [.integer r.number]))
  rows + keys

/-- The pages of a schema, the one that lists its tables included. -/
def Schema.pages (s : Schema) : Nat := 1 + sumOf Table.pages s.tables

end SheetQuery.Sql
