import SheetQuery.Encoding.Tabled
import SheetQuery.Source

/-!
# The readers of this library

Of the encodings with tables those of `Encoding.tabled?`, and of workbooks those that come with what is in
them. Every other file is refused as the kind that its extension stands for.
-/

namespace SheetQuery

inductive WorkbookFault where
  /-- No archive in a file that should be a workbook of the XML kind. -/
  | xmlArchive
  /-- A file that is too short to be a workbook of the binary kind. -/
  | binaryShort
  /-- Another kind of file where a workbook of the binary kind should be. -/
  | binarySignature
  /-- No archive in a file that should be an open document. -/
  | openArchive
  /-- An archive that is no open document. -/
  | openKind
  /-- Neither the extension nor the content tells a kind. -/
  | unknownKind
  /-- The path names no file. -/
  | noFile (fault : DiskFault)
deriving DecidableEq, Repr

def WorkbookFault.text : WorkbookFault → Text
  | xmlArchive => "Xlsx error: Zip error: invalid Zip archive: No valid central directory found".toList
  | binaryShort => "Xls error: Cfb error: I/O error: failed to fill whole buffer".toList
  | binarySignature => "Xls error: Cfb error: Invalid OLE signature (not an office document?)".toList
  | openArchive => "Ods error: Zip error: InvalidArchive(\"No valid central directory found\")".toList
  | openKind => "Ods error: 'mimetype' file not found in archive".toList
  | unknownKind => "Cannot detect file format".toList
  | noFile fault => "Xlsx error: Zip error: i/o error: ".toList ++ fault.text

def binaryHeaderSize : Nat := 512

/-- The workbook at a path, opened as the extension says. -/
def workbookAt (path : Text) (found : Except DiskFault Node) : Except WorkbookFault Workbook :=
  match found with
  | .error fault => .error (.noFile fault)
  | .ok .directory => .error (.noFile .isDirectory)
  | .ok (.file content) =>
    match content, (Path.extension? path).map String.ofList with
    | .bytes b, some "xls" => .error (if b.length < binaryHeaderSize then .binaryShort else .binarySignature)
    | _, some "xls" => .error .binarySignature
    | .workbook _ _, some "ods" => .error .openKind
    | _, some "ods" => .error .openArchive
    | .workbook _ w, _ => .ok w
    | _, some "xlsx" | _, some "xlsm" => .error .xmlArchive
    | _, _ => .error .unknownKind

def Workbook.sheetGrid (w : Workbook) (name : Text) : Except Text Grid :=
  match w.sheets.find? (·.name == name) with
  | none => .error ("Xlsx error: Worksheet '".toList ++ name ++ "' not found".toList)
  | some sheet =>
    sheet.grid.mapError fun cell => "Xlsx error: Unsupported cell error value '".toList ++ cell ++ "'".toList

/-- The readers of this library. -/
def Readers.standard : Readers where
  decode := Encoding.tabled?
  openWorkbook path found :=
    ((workbookAt path found).mapError WorkbookFault.text).map fun w => ⟨w.sheets.map (·.name), w.sheetGrid⟩

end SheetQuery
