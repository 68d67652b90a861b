import SheetQuery.Text.Basic

/-!
# Faults of the database

What can go wrong when a statement is prepared or run, with its wording, its code and the meaning of the
code. A fault found at a place of a statement also tells the statement and the place.
-/

namespace SheetQuery.Sql

inductive Fault where
  | nearToken (token : Text)
  | unrecognizedToken (token : Text)
  | incompleteInput
  | noSuchTable (name : Text)
  | noSuchColumn (name : Text)
  | noSuchFunction (name : Text)
  | notFunction (name : Text)
  | ambiguousColumn (name : Text)
  | tableExists (name : Text)
  | nameTaken (name : Text)
  | triggerExists (name : Text)
  | noSuchTrigger (name : Text)
  | unknownDatabase (name : Text)
  | duplicateColumn (name : Text)
  | tooManyColumns (table : Text)
  | reservedName (name : Text)
  | protectedTable (name : Text)
  | valueCount (table : Text) (columns values : Nat)
  | columnListCount (values columns : Nat)
  | noTargetColumn (table column : Text)
  | unequalValues
  | noTables
  | raiseOutside
  | orderTermRange (term count : Nat)
  | hexTooBig (literal : Text)
  | nestedBegin
  | commitOutside
  | rollbackOutside
  | raised (message : Text)
  | notNull (table column : Text)
  | primaryKey (columns : List Text)
  | mismatch
  | readOnly
  | full
  | cannotOpen (path : Text)
  | notDatabase
  | misuse
  | multipleStatements
  | parameterCount (given needed : Nat)
  | columnClass (index : Nat) (name className : Text)
  | columnIndex (index : Nat)
  | returnedRows
deriving DecidableEq

namespace Fault

/-- A position in words: `1st`, `2nd`, `3rd`, `4th` and so on. -/
def ordinal (n : Nat) : Text :=
  let suffix : String :=
    if n / 10 % 10 = 1 then "th"
    else if n % 10 = 1 then "st"
    else if n % 10 = 2 then "nd"
    else if n % 10 = 3 then "rd"
    else "th"
  Text.decimal n ++ suffix.toList

def message : Fault → Text
  | nearToken token => "near \"".toList ++ token ++ "\": syntax error".toList
  | unrecognizedToken token => "unrecognized token: \"".toList ++ token ++ "\"".toList
  | incompleteInput => "incomplete input".toList
  | noSuchTable name => "no such table: ".toList ++ name
  | noSuchColumn name => "no such column: ".toList ++ name
  | noSuchFunction name => "no such function: ".toList ++ name
  | notFunction name => '\'' :: name ++ "' is not a function".toList
  | ambiguousColumn name => "ambiguous column name: ".toList ++ name
  | tableExists name => "table ".toList ++ name ++ " already exists".toList
  | nameTaken name => "there is already another table or index with this name: ".toList ++ name
  | triggerExists name => "trigger ".toList ++ name ++ " already exists".toList
  | noSuchTrigger name => "no such trigger: ".toList ++ name
  | unknownDatabase name => "unknown database ".toList ++ name
  | duplicateColumn name => "duplicate column name: ".toList ++ name
  | tooManyColumns table => "too many columns on ".toList ++ table
  | reservedName name => "object name reserved for internal use: ".toList ++ name
  | protectedTable name => "table ".toList ++ name ++ " may not be dropped".toList
  | valueCount table columns values =>
    "table ".toList ++ table ++ " has ".toList ++ Text.decimal columns ++ " columns but ".toList ++
      Text.decimal values ++ " values were supplied".toList
  | columnListCount values columns =>
    Text.decimal values ++ " values for ".toList ++ Text.decimal columns ++ " columns".toList
  | noTargetColumn table column =>
    "table ".toList ++ table ++ " has no column named ".toList ++ column
  | unequalValues => "all VALUES must have the same number of terms".toList
  | noTables => "no tables specified".toList
  | raiseOutside => "RAISE() may only be used within a trigger-program".toList
  | orderTermRange term count =>
    ordinal term ++ " ORDER BY term out of range - should be between 1 and ".toList ++ Text.decimal count
  | hexTooBig literal => "hex literal too big: ".toList ++ literal
  | nestedBegin => "cannot start a transaction within a transaction".toList
  | commitOutside => "cannot commit - no transaction is active".toList
  | rollbackOutside => "cannot rollback - no transaction is active".toList
  | raised message => message
  | notNull table column => "NOT NULL constraint failed: ".toList ++ table ++ ['.'] ++ column
  | primaryKey columns => "UNIQUE constraint failed: ".toList ++ Text.joinWith ", ".toList columns
  | mismatch => "datatype mismatch".toList
  | readOnly => "attempt to write a readonly database".toList
  | full => "database or disk is full".toList
  | cannotOpen path => "unable to open database file: ".toList ++ path
  | notDatabase => "file is not a database".toList
  | misuse => "bad parameter or other API misuse".toList
  | multipleStatements => "Multiple statements provided".toList
  | parameterCount given needed =>
    "Wrong number of parameters passed to query. Got ".toList ++ Text.decimal given ++ ", needed ".toList ++
      Text.decimal needed
  | columnClass index name className =>
    "Invalid column type ".toList ++ className ++ " at index: ".toList ++ Text.decimal index ++
      ", name: ".toList ++ name
  | columnIndex index => "Invalid column index: ".toList ++ Text.decimal index
  | returnedRows => "Execute returned results - did you mean to call query?".toList

/-- The code of a fault; a misused call has none. -/
def code? : Fault → Option Nat
  | multipleStatements | parameterCount .. | columnClass .. | columnIndex _ | returnedRows => none
  | readOnly => some 8
  | full => some 13
  | cannotOpen _ => some 14
  | mismatch => some 20
  | misuse => some 21
  | notDatabase => some 26
  | notNull .. => some 1299
  | primaryKey _ => some 1555
  | raised _ => some 1811
  | _ => some 1

def meaning (code : Nat) : String :=
  match code with
  | 8 => "Attempt to write a readonly database"
  | 13 => "Insertion failed because database is full"
  | 14 => "Unable to open the database file"
  | 20 => "Data type mismatch"
  | 21 => "Library used incorrectly"
  | 26 => "File opened that is not a database file"
  | 1299 => "A NOT NULL constraint failed"
  | 1555 => "A PRIMARY KEY constraint failed"
  | 1811 => "A RAISE function within a trigger fired"
  | _ => "SQL error or missing database"

end Fault

/-- A fault, with the place in bytes where the statement shows it, if it is found at one. -/
structure Located where
  fault : Fault
  offset : Option Nat
deriving DecidableEq

def Fault.anywhere (fault : Fault) : Located := ⟨fault, none⟩

def Fault.at (fault : Fault) (offset : Nat) : Located := ⟨fault, some offset⟩

/-- An error of the database: a fault, and the statement and the place where it was found. -/
structure Error where
  fault : Fault
  place : Option (Text × Nat)
deriving DecidableEq

namespace Error

def ofFault (fault : Fault) : Error := ⟨fault, none⟩

def ofLocated (sql : Text) (located : Located) : Error :=
  ⟨located.fault, located.offset.map fun offset => (sql, offset)⟩

def message (e : Error) : Text :=
  match e.place with
  | none => e.fault.message
  | some (sql, offset) =>
    e.fault.message ++ " in ".toList ++ sql ++ " at offset ".toList ++ Text.decimal offset

def cause? (e : Error) : Option Text :=
  e.fault.code?.map fun code =>
    "Error code ".toList ++ Text.decimal code ++ ": ".toList ++ (Fault.meaning code).toList

end Error

end SheetQuery.Sql
