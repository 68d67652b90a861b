import SheetQuery.Text.Han

/-!
# Identifiers

The names that tables and columns get in the database: ASCII letters, digits and underscores. What a
header or a file name holds besides is dropped, and a table name never starts with a digit.
-/

namespace SheetQuery.Identifier

def isWordChar (c : Char) : Bool := c.isAlphanum || c = '_'

/-- The name of a table: the characters that can stand in it, behind an underscore if the first one is a
digit. -/
def forTable (raw : Text) : Text :=
  match raw.filter isWordChar with
  | [] => []
  | c :: s => if c.isDigit then '_' :: c :: s else c :: s

/-- The name of a column: spaces turn into underscores, other characters that cannot stand in it are
dropped. -/
def forColumn (raw : Text) : Text :=
  (raw.map fun c => if c = ' ' then '_' else c).filter isWordChar

/-- The name of a column by its position, counted from one. -/
def forPosition (position : Nat) : Text := '_' :: Text.decimal position

end SheetQuery.Identifier
