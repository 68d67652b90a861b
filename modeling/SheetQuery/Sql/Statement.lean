import SheetQuery.Sql.Value

/-!
# Statements

The statements of the query language as data. Names stand as they are written, quotes removed; a
reference to a column keeps its place for error messages.
-/

namespace SheetQuery.Sql

inductive BinaryOp where
  | or
  | and
  | equal
  | notEqual
  | is
  | isNot
  | like
  | notLike
  | less
  | lessEqual
  | greater
  | greaterEqual
  | add
  | subtract
  | multiply
  | divide
  | remainder
  | concat
deriving DecidableEq, Repr

inductive UnaryOp where
  | not
  | negate
  | plus
deriving DecidableEq, Repr

inductive Refusal where
  /-- The row is passed over. -/
  | ignore
  /-- The statement is undone. -/
  | abort
  /-- The statement ends and keeps what it has done. -/
  | fail
  /-- The transaction is undone. -/
  | rollback
deriving DecidableEq, Repr

inductive Expr where
  | literal (v : Value)
  | natural (n : Nat) (offset : Nat)
  /-- A hexadecimal integer as it is written. -/
  | hexadecimal (written : Text) (offset : Nat)
  /-- A column, with its table if that is written; `quoted` tells that double quotes surround it. -/
  | column (table : Option Text) (name : Text) (quoted : Bool) (offset : Nat)
  | parameter (number : Nat)
  | unary (op : UnaryOp) (operand : Expr)
  | binary (op : BinaryOp) (left right : Expr)
  | isNull (operand : Expr) (negated : Bool)
  | cast (operand : Expr) (affinity : Affinity)
  | countRows
  /-- The number of rows in which the operand is not null. -/
  | count (operand : Expr)
  /-- A function that the language does not have. -/
  | unknownCall (name : Text) (offset : Nat)
  | raise (refusal : Refusal) (message : Text)
deriving DecidableEq

structure WrittenName where
  name : Text
  written : Text
  offset : Nat
deriving DecidableEq

/-- A table as it is named, with the database that holds it if that is written. -/
structure TableName extends WrittenName where
  database : Option WrittenName
deriving DecidableEq

def TableName.display (t : TableName) : Text :=
  match t.database with
  | some database => database.name ++ '.' :: t.name
  | none => t.name

inductive ResultItem where
  | all
  | allOf (table : Text)
  /-- An expression, the name given to it, and the text that it is written as. -/
  | expr (e : Expr) (alias? : Option Text) (written : Text)
deriving DecidableEq

structure OrderTerm where
  expr : Expr
  descending : Bool
deriving DecidableEq

structure QueryBody where
  items : List ResultItem
  condition : Option Expr
  order : List OrderTerm
  limit : Option Expr
  offset : Option Expr
deriving DecidableEq

/-- The tables of a query, from left to right: named ones and queries in parentheses. -/
inductive Sources where
  | none
  | table (name : TableName) (alias? : Option Text) (rest : Sources)
  | query (body : QueryBody) (inner : Sources) (alias? : Option Text) (rest : Sources)
deriving DecidableEq

structure Query where
  body : QueryBody
  sources : Sources
deriving DecidableEq

structure ColumnDefinition where
  name : Text
  /-- The type as it is written, empty if there is none. -/
  type : Text
  notNull : Bool
  primaryKey : Bool
  /-- The default as it is written, and its value. -/
  default : Option (Text × Expr)
deriving DecidableEq

structure TableDefinition where
  name : TableName
  ifNotExists : Bool
  columns : List ColumnDefinition
  /-- The columns of a primary key that stands behind the columns. -/
  primaryKey : List Text
deriving DecidableEq

inductive Event where
  | insert
  | update
  | delete
deriving DecidableEq, Repr

/-- A trigger to create: before or after each row that is changed, it evaluates expressions. -/
structure TriggerDefinition where
  name : Text
  ifNotExists : Bool
  table : TableName
  before : Bool
  event : Event
  condition : Option Expr
  /-- The queries of its body: expressions and a condition. -/
  body : List (List Expr × Option Expr)
deriving DecidableEq

inductive Setting where
  | readOnly
  | pageLimit
  /-- A setting that does nothing here. -/
  | unknown
deriving DecidableEq, Repr

inductive Statement where
  | select (q : Query)
  | insert (table : TableName) (replace : Bool) (columns : List Text) (rows : List (List Expr))
  | update (table : TableName) (changes : List (Text × Expr)) (condition : Option Expr)
  | delete (table : TableName) (condition : Option Expr)
  | createTable (definition : TableDefinition)
  | dropTable (table : TableName) (ifExists : Bool)
  | renameTable (table : TableName) (newName : Text)
  | createTrigger (definition : TriggerDefinition)
  | dropTrigger (name : Text) (ifExists : Bool)
  | setting (setting : Setting) (value : Option Text)
  | begin (immediate : Bool)
  | commit
  | rollback
deriving DecidableEq

end SheetQuery.Sql
