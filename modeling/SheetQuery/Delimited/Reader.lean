import SheetQuery.Text.Utf8

/-!
# Reading delimited text

A file of delimited text is a list of records, a record a list of fields, a field a list of bytes.
Records end at a line feed or a carriage return, and empty lines are no records. A quote opens a quoted
stretch only at the start of a field; inside it a doubled quote stands for a quote, and what comes
after the closing quote belongs to the field as it is. The bytes are read one after another by `step`.
-/

namespace SheetQuery.Delimited

abbrev Field := Bytes

abbrev Record := List Field

def quoteByte : UInt8 := 0x22

def isLineEnd (b : UInt8) : Bool := b == 0x0A || b == 0x0D

inductive Mode where
  /-- Before the first byte of a record. -/
  | recordStart
  /-- Before the first byte of a field. -/
  | fieldStart
  /-- Inside a field, outside quotes. -/
  | plain
  /-- Inside a quoted stretch. -/
  | quoted
  /-- Behind a quote inside a quoted stretch: it closes the stretch unless it is doubled. -/
  | quoteSeen
deriving DecidableEq

/-- What has been read: the bytes of the field under way, the fields of the record under way and the
finished records, each list with its last member first. -/
structure State where
  mode : Mode
  field : Field
  fields : List Field
  records : List Record
deriving DecidableEq

namespace State

def start : State := ⟨.recordStart, [], [], []⟩

def keep (s : State) (mode : Mode) (b : UInt8) : State := { s with mode := mode, field := b :: s.field }

def endField (s : State) : State :=
  { s with mode := .fieldStart, field := [], fields := s.field.reverse :: s.fields }

def endRecord (s : State) : State :=
  ⟨.recordStart, [], [], (s.field.reverse :: s.fields).reverse :: s.records⟩

/-- A byte outside quotes that opens none. -/
def plainStep (delimiter : UInt8) (s : State) (b : UInt8) : State :=
  if b == delimiter then s.endField
  else if isLineEnd b then s.endRecord
  else s.keep .plain b

def fieldStep (delimiter : UInt8) (s : State) (b : UInt8) : State :=
  if b == delimiter then s.endField
  -- Only here does a quote open a stretch; in `plainStep` it is a byte like others.
  else if b == quoteByte then { s with mode := .quoted }
  else s.plainStep delimiter b

def step (delimiter : UInt8) (s : State) (b : UInt8) : State :=
  match s.mode with
  -- The line feed behind a carriage return ends no record of its own.
  | .recordStart => if isLineEnd b then s else s.fieldStep delimiter b
  | .fieldStart => s.fieldStep delimiter b
  | .plain => s.plainStep delimiter b
  | .quoted => if b == quoteByte then { s with mode := .quoteSeen } else s.keep .quoted b
  | .quoteSeen => if b == quoteByte then s.keep .quoted b else s.plainStep delimiter b

/-- The records at the end of the file; a record under way ends there. -/
def finish (s : State) : List Record :=
  match s.mode with
  | .recordStart => s.records.reverse
  | _ => s.endRecord.records.reverse

end State

/-- The bytes that mark a file as UTF-8. -/
def utf8Mark : Bytes := [0xEF, 0xBB, 0xBF]

def dropMark (bytes : Bytes) : Bytes :=
  if utf8Mark.isPrefixOf bytes then bytes.drop 3 else bytes

def records (delimiter : UInt8) (bytes : Bytes) : List Record :=
  ((dropMark bytes).foldl (State.step delimiter) State.start).finish

end SheetQuery.Delimited
