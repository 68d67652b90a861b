import SheetQuery.Delimited.Reader
import SheetQuery.Disk
import SheetQuery.Encoding.Decode
import SheetQuery.Failure
import SheetQuery.Text.Quoted

/-!
# Sources

Files that tables are loaded from: delimited text, whose fields are decoded one by one, and the first
sheet of a workbook. A source is read into a grid of texts, its headers first. The extension of the path
decides on the kind of the source and on the delimiter.
-/

namespace SheetQuery

inductive SourceKind where
  | delimited
  | spreadsheet
deriving DecidableEq, Repr

namespace SourceKind

def delimitedExtensions : List String := ["csv", "tsv", "txt"]

def spreadsheetExtensions : List String := ["xlsx", "xlsm", "xls", "ods"]

def ofPath? (path : Text) : Option SourceKind :=
  match Path.extension? path with
  | none => none
  | some extension =>
    let extension := String.ofList (Text.lower extension)
    if delimitedExtensions.contains extension then some delimited
    else if spreadsheetExtensions.contains extension then some spreadsheet
    else none

end SourceKind

def commaByte : UInt8 := 0x2C

def tabByte : UInt8 := 0x09

/-- The delimiter of a file, by its extension if none is given. -/
def sourceDelimiter (path : Text) (given : Option UInt8) : UInt8 :=
  given.getD <|
    match Path.extension? path with
    | some extension => if Text.sameName extension "tsv".toList then tabByte else commaByte
    | none => commaByte

/-- Rows of texts; the first one holds the headers. -/
abbrev Grid := List (List Text)

/-- An opened workbook: the names of its sheets, and the grid of the sheet of a name or what is wrong
with it. -/
structure OpenedWorkbook where
  sheets : List Text
  grid : Text → Except Text Grid

/-- What other libraries read of the sources. -/
structure Readers where
  /-- The text of bytes in an encoding that needs a table of characters. -/
  decode : Encoding → Bytes → Option Text
  /-- The workbook at a path, opened as the extension says, or what is wrong with what stands there. -/
  openWorkbook : Text → Except DiskFault Node → Except Text OpenedWorkbook

inductive SourceFault where
  | openInput (path : Text) (fault : DiskFault)
  | readRow (path : Text) (row : Nat) (fault : DiskFault)
  | decodeRow (path : Text) (row : Nat) (encoding : Encoding)
  | openWorkbook (path reason : Text)
  | noSheets (path : Text)
  | readSheet (path sheet reason : Text)
deriving DecidableEq

def Encoding.failureText (encoding : Encoding) : Text :=
  "Failed to decode text with encoding ".toList ++ encoding.name.toList

def SourceFault.failure : SourceFault → Failure
  | openInput path fault => ⟨"Opening input file ".toList ++ Text.quoted path, [fault.text]⟩
  | readRow path row fault =>
    ⟨"Reading row ".toList ++ Text.decimal row ++ " in ".toList ++ Text.quoted path, [fault.text]⟩
  | decodeRow path row encoding =>
    ⟨"Decoding row ".toList ++ Text.decimal row ++ " in ".toList ++ Text.quoted path,
     [encoding.failureText]⟩
  | openWorkbook path reason =>
    .ofMessage ("Opening workbook ".toList ++ Text.quoted path ++ ": ".toList ++ reason)
  | noSheets path => .ofMessage ("No sheets found in workbook ".toList ++ Text.quoted path)
  | readSheet path sheet reason =>
    .ofMessage ("Reading sheet '".toList ++ sheet ++ "' in ".toList ++ Text.quoted path ++ ": ".toList ++ reason)

/-- The rows of records in an encoding, the first of which has the number `row`; otherwise the number of
the first row with a field that cannot be decoded. -/
def decodeRecords (readers : Readers) (encoding : Encoding) (row : Nat) : List Delimited.Record → Except Nat Grid
  | [] => .ok []
  | record :: rest => do
    match Utf8.allSome (record.map (encoding.decode readers.decode)) with
    | none => .error row
    | some fields => return fields :: (← decodeRecords readers encoding (row + 1) rest)

def readDelimited (readers : Readers) (path : Text) (delimiter : UInt8) (encoding : Encoding) (bytes : Bytes) :
    Except SourceFault Grid :=
  (decodeRecords readers encoding 1 (Delimited.records delimiter bytes)).mapError
    (.decodeRow path · encoding)

def readWorkbook (path : Text) (w : OpenedWorkbook) : Except SourceFault Grid :=
  match w.sheets with
  | [] => .error (.noSheets path)
  | sheet :: _ => (w.grid sheet).mapError (.readSheet path sheet)

def readGrid (readers : Readers) (disk : Disk) (path : Text) (kind : SourceKind) (given : Option UInt8)
    (encoding : Encoding) : Except SourceFault Grid :=
  match kind, disk.lookup path with
  | .delimited, .error fault => .error (.openInput path fault)
  | .delimited, .ok .directory => .error (.readRow path 1 .isDirectory)
  | .delimited, .ok (.file content) =>
    readDelimited readers path (sourceDelimiter path given) encoding content.asBytes
  | .spreadsheet, found => do
    let w ← (readers.openWorkbook path found).mapError (.openWorkbook path)
    readWorkbook path w

end SheetQuery
