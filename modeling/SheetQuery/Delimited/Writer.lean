import SheetQuery.Text.Utf8

/-!
# Writing delimited text

Every field is put between quotes and its own quotes are doubled; commas separate the fields and a line
feed ends each record. All records of a file have the same number of fields as the first one.
-/

namespace SheetQuery.Delimited

def writeField (field : Text) : Text :=
  '"' :: (field.flatMap fun c => if c = '"' then ['"', '"'] else [c]) ++ ['"']

/-- A record without the line feed. A record of no fields is written like one of a single empty
field. -/
def writeFields (fields : List Text) : Text :=
  if fields.isEmpty then writeField [] else Text.joinWith [','] (fields.map writeField)

def writeRecord (fields : List Text) : Text := writeFields fields ++ ['\n']

/-- What is left behind of a record whose length differs from the first one: everything but its last
closing quote and its line feed. -/
def writeBroken (fields : List Text) : Text :=
  if fields.isEmpty then [] else (writeFields fields).dropLast

def firstUneven (width : Nat) (rows : List (List Text)) : Option (Nat × List Text) :=
  let good := rows.takeWhile (·.length == width)
  (rows[good.length]?).map fun row => (good.length, row)

/-- A row whose length differs from that of the header record. -/
structure UnevenRow where
  /-- The position of the row behind the header. -/
  position : Nat
  found : Nat
  expected : Nat
deriving DecidableEq

/-- The text of a file of a header record and rows, as far as it can be written, and the row at which
writing stopped. -/
def write (headers : List Text) (rows : List (List Text)) : Text × Option UnevenRow :=
  match firstUneven headers.length rows with
  | none => (writeRecord headers ++ rows.flatMap writeRecord, none)
  | some (k, row) =>
    (writeRecord headers ++ (rows.take k).flatMap writeRecord ++ writeBroken row,
     some ⟨k, row.length, headers.length⟩)

end SheetQuery.Delimited
