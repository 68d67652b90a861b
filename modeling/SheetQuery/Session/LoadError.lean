import SheetQuery.Failure
import SheetQuery.Text.Quoted

/-!
# Load errors

Why a table cannot be loaded.
-/

namespace SheetQuery

inductive LoadError where
  | unsupportedFile (path : Text)
  | fileTooLarge (path : Text) (size limit : Nat)
  /-- There are not even headers. -/
  | emptyGrid (place : Text)
  | schema (table : Text) (source : Failure)
  /-- A row has not as many values as there are columns; rows are counted with the headers. -/
  | columnCount (table : Text) (number expected found : Nat)
  | row (table : Text) (number : Nat) (source : Failure)
  /-- The store fails otherwise. -/
  | store (source : Failure)
  | read (source : Failure)
deriving DecidableEq

def LoadError.failure : LoadError → Failure
  | unsupportedFile path => .ofMessage ("unsupported file type: ".toList ++ Text.quoted path)
  | fileTooLarge path size limit =>
    .ofMessage ("file ".toList ++ Text.quoted path ++ " is ".toList ++ Text.decimal size ++
      " bytes, above the ".toList ++ Text.decimal limit ++ " byte limit".toList)
  | emptyGrid place => .ofMessage ("no data found in ".toList ++ place)
  | schema table source =>
    source.within ("create table ".toList ++ table ++ " failed: ".toList ++ source.message)
  | columnCount table number expected found =>
    .ofMessage ("row ".toList ++ Text.decimal number ++ " has ".toList ++ Text.decimal found ++
      " value(s) but table ".toList ++ table ++ " has ".toList ++ Text.decimal expected ++
      " column(s)".toList)
  | row table number source =>
    source.within ("insert of row ".toList ++ Text.decimal number ++ " into ".toList ++ table ++
      " failed: ".toList ++ source.message)
  | store source => source
  | read source => source

end SheetQuery
