import SheetQuery.Sql.Lexeme
import SheetQuery.Sql.Statement
import SheetQuery.Sql.Fault

/-!
# Grammar

Statements are read from their lexemes by recursive descent. A reading takes lexemes from the front of
the list and fails at the first lexeme that cannot continue a statement: with `incompleteInput` at the
end of the text, else with the lexeme and its place.

* `Grammar.expression` reads an expression; operators of higher levels bind more tightly.
* `Grammar.statement` reads a statement.
* `readStatement` reads the first statement of a text, if there is one.
-/

namespace SheetQuery.Sql

/-- A reading takes lexemes from the front of a list, or fails. -/
abbrev Reading := StateT (List Lexeme) (Except Located)

def Lexeme.unexpected (l : Lexeme) : Located :=
  match l.kind with
  | .finish => Fault.incompleteInput.anywhere
  | .illegal => (Fault.unrecognizedToken l.text).at l.offset
  | _ => (Fault.nearToken l.text).at l.offset

def reservedWords : List String :=
  ["add", "all", "alter", "and", "as", "autoincrement", "between", "case", "check", "collate", "commit",
   "constraint", "create", "default", "deferrable", "delete", "distinct", "drop", "else", "escape",
   "except", "exists", "foreign", "from", "group", "having", "in", "index", "insert", "intersect", "into",
   "is", "isnull", "join", "limit", "not", "nothing", "notnull", "null", "on", "or", "order", "primary",
   "references", "returning", "select", "set", "table", "then", "to", "transaction", "union", "unique",
   "update", "using", "values", "when", "where"]

/-- The keywords that are names of tables and columns but not of anything that may be left out. -/
def joinWords : List String :=
  ["cross", "full", "indexed", "inner", "left", "natural", "outer", "right"]

namespace Lexeme

def isWordOf (l : Lexeme) (keywords : List String) : Bool := keywords.any l.isWord

/-- The lexeme can be a name: a bare word that is not reserved, or a quoted piece. -/
def isName (l : Lexeme) : Bool :=
  match l.kind with
  | .word => !l.isWordOf reservedWords
  | .quotedName | .string => true
  | _ => false

def writtenName (l : Lexeme) : WrittenName := ⟨l.unquoted, l.text, l.offset⟩

/-- The lexeme can be a name where one may be left out. -/
def isPlainName (l : Lexeme) : Bool := l.isName && !l.isWordOf joinWords

end Lexeme

namespace Grammar

def finish : Lexeme := ⟨.finish, [], [], 0, 0⟩

def peek : Reading Lexeme := fun ls => .ok (ls.headD finish, ls)

def advance : Reading Lexeme := fun ls => .ok (ls.headD finish, ls.drop 1)

def refuse {α : Type} (located : Located) : Reading α := fun _ => .error located

def unexpected {α : Type} : Reading α := fun ls => .error (ls.headD finish).unexpected

def acceptWord (keyword : String) : Reading Bool := do
  if (← peek).isWord keyword then
    let _ ← advance
    return true
  else return false

def acceptSymbol (symbol : String) : Reading Bool := do
  if (← peek).isSymbol symbol then
    let _ ← advance
    return true
  else return false

def expectWord (keyword : String) : Reading Unit := do
  if ← acceptWord keyword then return () else unexpected

def expectSymbol (symbol : String) : Reading Unit := do
  if ← acceptSymbol symbol then return () else unexpected

def name : Reading Lexeme := do
  if (← peek).isName then advance else unexpected

/-- One or more parts with commas between them, at most `limit` more after the first. -/
def separated {α : Type} (part : Reading α) : Nat → Reading (List α)
  | 0 => do return [← part]
  | limit + 1 => do
    let first ← part
    if ← acceptSymbol "," then return first :: (← separated part limit) else return [first]

/-- The text of lexemes, with the blanks between them, up to the lexeme behind them. -/
def written (taken : List Lexeme) (next : Lexeme) : Text :=
  let whole := (taken.drop 1).foldl (fun s l => s ++ l.lead ++ l.text) ((taken.head?.map (·.text)).getD [])
  Text.dropRightWhile isSpace (whole ++ next.lead)

/-- What a reading reads, and the text that it takes, up to the next lexeme. -/
def withText {α : Type} (reading : Reading α) : Reading (α × Text) := do
  let before ← get
  let a ← reading
  let after ← get
  return (a, written (before.take (before.length - after.length)) (after.headD finish))

/-- The separators in the digits of a number stand between digits. -/
def separatorsFit (isDigit : Char → Bool) : Text → Bool
  | a :: '_' :: b :: s => isDigit a && isDigit b && separatorsFit isDigit (b :: s)
  | _ :: s => separatorsFit isDigit s
  | [] => true

def numberLiteral (l : Lexeme) : Except Located Expr :=
  let digits := l.text.filter (· != '_')
  let isHex : Bool :=
    match l.text with
    | '0' :: x :: _ => x = 'x' || x = 'X'
    | _ => false
  let fits : Bool :=
    if isHex then separatorsFit isHexDigit l.text
    else separatorsFit Char.isDigit l.text
  if !fits || l.text.getLast? = some '_' then .error (Fault.unrecognizedToken l.text).anywhere
  else if isHex then .ok (.hexadecimal digits l.offset)
  else if l.kind = .integer then .ok (.natural (Text.digitsValue digits) l.offset)
  else
    match Numeral.read digits with
    | some (n, _) => .ok (.literal (.ofNumeral n))
    | none => .ok (.literal .null)

def blobBytes : Text → Bytes
  | a :: b :: s => (16 * (Text.hexValue? a).getD 0 + (Text.hexValue? b).getD 0).toUInt8 :: blobBytes s
  | _ => []

def typeName : Reading Text := do
  let rec names : Nat → Reading Unit
    | 0 => return ()
    | limit + 1 => do
      if (← peek).isPlainName then
        let _ ← advance
        names limit
      else return ()
  let signed : Reading Unit := do
    let _ ← acceptSymbol "-"
    let _ ← acceptSymbol "+"
    let l ← peek
    if l.kind = .integer ∨ l.kind = .float then
      let _ ← advance
      return ()
    else unexpected
  let whole : Reading Unit := do
    if (← peek).isPlainName then
      names (← get).length
      if ← acceptSymbol "(" then
        signed
        if ← acceptSymbol "," then signed
        expectSymbol ")"
  let (_, text) ← withText whole
  return text

/-- The operator that a symbol or keyword stands for between two operands, and its level. -/
def operator? (l : Lexeme) : Option (BinaryOp × Nat) :=
  match l.kind with
  | .symbol =>
    match String.ofList l.text with
    | "=" | "==" => some (.equal, 4)
    | "!=" | "<>" => some (.notEqual, 4)
    | "<" => some (.less, 5)
    | "<=" => some (.lessEqual, 5)
    | ">" => some (.greater, 5)
    | ">=" => some (.greaterEqual, 5)
    | "+" => some (.add, 8)
    | "-" => some (.subtract, 8)
    | "*" => some (.multiply, 9)
    | "/" => some (.divide, 9)
    | "%" => some (.remainder, 9)
    | "||" => some (.concat, 10)
    | _ => none
  | .word =>
    match String.ofList (Text.lower l.text) with
    | "or" => some (.or, 1)
    | "and" => some (.and, 2)
    | "like" => some (.like, 4)
    | _ => none
  | _ => none

def refusal : Reading Refusal := do
  if ← acceptWord "rollback" then return .rollback
  else if ← acceptWord "abort" then return .abort
  else if ← acceptWord "fail" then return .fail
  else unexpected

mutual

/-- An expression of operators of at least a level. -/
def expressionFrom : Nat → Nat → Reading Expr
  | 0, _ => unexpected
  | limit + 1, level => do
    let left ← operand limit
    operators limit level left

/-- An operand: a literal, a name, a call, an expression in parentheses, or an operator in front of an
operand. -/
def operand : Nat → Reading Expr
  | 0 => unexpected
  | limit + 1 => do
    let l ← peek
    match l.kind with
    | .integer | .float =>
      let _ ← advance
      match numberLiteral l with
      | .ok e => return e
      | .error located => refuse located
    | .string =>
      let _ ← advance
      return .literal (.text l.unquoted)
    | .blob =>
      let _ ← advance
      return .literal (.blob (blobBytes (l.text.drop 2)))
    | .variable =>
      let _ ← advance
      return .parameter l.number
    | .symbol =>
      if l.isSymbol "(" then
        let _ ← advance
        let e ← expressionFrom limit 0
        expectSymbol ")"
        return e
      else if l.isSymbol "-" then
        let _ ← advance
        return .unary .negate (← operand limit)
      else if l.isSymbol "+" then
        let _ ← advance
        return .unary .plus (← operand limit)
      else unexpected
    | .word | .quotedName =>
      if l.isWord "null" then
        let _ ← advance
        return .literal .null
      else if l.isWord "not" then
        let _ ← advance
        return .unary .not (← expressionFrom limit 4)
      else if l.isWord "cast" then
        let _ ← advance
        expectSymbol "("
        let e ← expressionFrom limit 0
        expectWord "as"
        let type ← typeName
        expectSymbol ")"
        return .cast e (if type.isEmpty then .numeric else Affinity.ofType type)
      else if l.isWord "raise" then
        let _ ← advance
        expectSymbol "("
        if ← acceptWord "ignore" then
          expectSymbol ")"
          return .raise .ignore []
        else
          let kind ← refusal
          expectSymbol ","
          let text ← peek
          if text.kind = .string then
            let _ ← advance
            expectSymbol ")"
            return .raise kind text.unquoted
          else unexpected
      else if l.isName then
        let _ ← advance
        if ← acceptSymbol "(" then
          callOf limit l
        else if ← acceptSymbol "." then
          let column ← name
          return .column (some l.unquoted) column.unquoted false l.offset
        else return .column none l.unquoted (l.text.head? == some '"') l.offset
      else unexpected
    | _ => unexpected

def callOf : Nat → Lexeme → Reading Expr
  | 0, _ => unexpected
  | limit + 1, function => do
    let isCount := Text.lower function.unquoted == "count".toList
    let other : Expr := .unknownCall function.unquoted function.offset
    if ← acceptSymbol ")" then
      return if isCount then .countRows else other
    else if ← acceptSymbol "*" then
      expectSymbol ")"
      return if isCount then .countRows else other
    else
      let e ← expressionFrom limit 0
      if ← acceptSymbol "," then
        let _ ← callOf limit function
        return other
      else
        expectSymbol ")"
        return if isCount then .count e else other

/-- The operators of at least a level and their operands, behind a first operand. -/
def operators : Nat → Nat → Expr → Reading Expr
  | 0, _, left => return left
  | limit + 1, level, left => do
    let l ← peek
    match operator? l with
    | some (op, own) =>
      if own < level then return left
      else
        let _ ← advance
        -- Operators of one level group to the left.
        let right ← expressionFrom limit (own + 1)
        operators limit level (.binary op left right)
    | none =>
      if level > 4 then return left
      else if l.isWord "is" then
        let _ ← advance
        let negated ← acceptWord "not"
        let right ← expressionFrom limit 5
        operators limit level (.binary (if negated then .isNot else .is) left right)
      else if l.isWord "isnull" then
        let _ ← advance
        operators limit level (.isNull left false)
      else if l.isWord "notnull" then
        let _ ← advance
        operators limit level (.isNull left true)
      else if l.isWord "not" then
        let _ ← advance
        if ← acceptWord "null" then operators limit level (.isNull left true)
        else
          expectWord "like"
          let right ← expressionFrom limit 5
          operators limit level (.binary .notLike left right)
      else return left

end

def expression : Reading Expr := do
  expressionFrom (4 * (← get).length + 8) 0

def expressions : Reading (List Expr) := do
  separated expression (← get).length

/-- A name behind `AS`, or directly where it may be left out. -/
def alias? : Reading (Option Text) := do
  if ← acceptWord "as" then return some (← name).unquoted
  else if (← peek).isPlainName then return some (← advance).unquoted
  else return none

def resultItem : Reading ResultItem := do
  if ← acceptSymbol "*" then return .all
  let ls ← get
  match ls with
  | l :: dot :: star :: _ =>
    if l.isName && dot.isSymbol "." && star.isSymbol "*" then
      let _ ← advance
      let _ ← advance
      let _ ← advance
      return .allOf l.unquoted
  | _ => pure ()
  let (e, text) ← withText expression
  return .expr e (← alias?) text

def tableName : Reading TableName := do
  let first ← name
  if ← acceptSymbol "." then
    let second ← name
    return ⟨second.writtenName, some first.writtenName⟩
  else return ⟨first.writtenName, none⟩

/-- The keyword and what stands behind it, or nothing. -/
def clause {α : Type} (keyword : String) (reading : Reading α) : Reading (Option α) := do
  if ← acceptWord keyword then return some (← reading) else return none

def orderTerm : Reading OrderTerm := do
  let e ← expression
  if ← acceptWord "desc" then return ⟨e, true⟩
  let _ ← acceptWord "asc"
  return ⟨e, false⟩

def queryTail (items : List ResultItem) : Reading QueryBody := do
  let condition ← clause "where" expression
  let order ←
    if ← acceptWord "order" then
      expectWord "by"
      separated orderTerm (← get).length
    else pure []
  if ← acceptWord "limit" then
    let first ← expression
    if ← acceptWord "offset" then
      let offset ← expression
      return ⟨items, condition, order, some first, some offset⟩
    else if ← acceptSymbol "," then
      let second ← expression
      return ⟨items, condition, order, some second, some first⟩
    else return ⟨items, condition, order, some first, none⟩
  else return ⟨items, condition, order, none, none⟩

mutual

def queryFrom : Nat → Reading Query
  | 0 => unexpected
  | limit + 1 => do
    let _ ← acceptWord "all"
    let items ← separated resultItem (← get).length
    let sources ← if ← acceptWord "from" then sourcesFrom limit else pure .none
    return ⟨← queryTail items, sources⟩

def sourcesFrom : Nat → Reading Sources
  | 0 => unexpected
  | limit + 1 => do
    if ← acceptSymbol "(" then
      expectWord "select"
      let inner ← queryFrom limit
      expectSymbol ")"
      let alias? ← alias?
      if ← acceptSymbol "," then return .query inner.body inner.sources alias? (← sourcesFrom limit)
      else return .query inner.body inner.sources alias? .none
    else
      let table ← tableName
      let alias? ← alias?
      if ← acceptSymbol "," then return .table table alias? (← sourcesFrom limit)
      else return .table table alias? .none

end

def query : Reading Query := do
  queryFrom (2 * (← get).length + 4)

def ifNotExists : Reading Bool := do
  if ← acceptWord "if" then
    expectWord "not"
    expectWord "exists"
    return true
  else return false

def ifExists : Reading Bool := do
  if ← acceptWord "if" then
    expectWord "exists"
    return true
  else return false

/-- The value behind `DEFAULT`: an expression in parentheses, a literal or a name. -/
def defaultValue : Reading Expr := do
  let l ← peek
  if l.isSymbol "(" then
    let _ ← advance
    let e ← expression
    expectSymbol ")"
    return e
  else if l.kind = .word ∧ !l.isWord "null" then
    if l.isPlainName then
      let _ ← advance
      return .literal (.text l.text)
    else unexpected
  else operand 4

def columnConstraints : Nat → ColumnDefinition → Reading ColumnDefinition
  | 0, column => return column
  | limit + 1, column => do
    if ← acceptWord "not" then
      expectWord "null"
      columnConstraints limit { column with notNull := true }
    else if ← acceptWord "null" then columnConstraints limit column
    else if ← acceptWord "primary" then
      expectWord "key"
      if !(← acceptWord "asc") then let _ ← acceptWord "desc"
      columnConstraints limit { column with primaryKey := true }
    else if ← acceptWord "default" then
      let (value, text) ← withText defaultValue
      columnConstraints limit { column with default := some (text, value) }
    else return column

def columnDefinition : Reading ColumnDefinition := do
  let column ← name
  let type ← typeName
  columnConstraints (← get).length ⟨column.unquoted, type, false, false, none⟩

def columnDefinitions : Nat → Reading (List ColumnDefinition × List Text)
  | 0 => unexpected
  | limit + 1 => do
    let column ← columnDefinition
    if ← acceptSymbol "," then
      if ← acceptWord "primary" then
        expectWord "key"
        expectSymbol "("
        let names ← separated name (← get).length
        expectSymbol ")"
        return ([column], names.map (·.unquoted))
      else
        let (columns, key) ← columnDefinitions limit
        return (column :: columns, key)
    else return ([column], [])

/-- What stands in front of the columns of a table to create, behind `CREATE`. -/
def tableHead : Reading (TableName × Bool) := do
  let temporary ← if ← acceptWord "temp" then pure true else acceptWord "temporary"
  expectWord "table"
  let ifNotExists ← ifNotExists
  let table ← tableName
  let inTemp : TableName := { table with database := some ⟨"temp".toList, "temp".toList, 0⟩ }
  return (if temporary && table.database.isNone then inTemp else table, ifNotExists)

def tableDefinition : Reading TableDefinition := do
  let (table, ifNotExists) ← tableHead
  expectSymbol "("
  let (columns, key) ← columnDefinitions (← get).length
  expectSymbol ")"
  return ⟨table, ifNotExists, columns, key⟩

/-- The queries of a trigger's body, each with a semicolon behind it. -/
def triggerBody : Nat → Reading (List (List Expr × Option Expr))
  | 0 => unexpected
  | limit + 1 => do
    expectWord "select"
    let items ← expressions
    let condition ← clause "where" expression
    expectSymbol ";"
    if ← acceptWord "end" then return [(items, condition)]
    else return (items, condition) :: (← triggerBody limit)

def triggerEvent : Reading Event := do
  if ← acceptWord "insert" then return .insert
  else if ← acceptWord "update" then return .update
  else if ← acceptWord "delete" then return .delete
  else unexpected

def triggerDefinition : Reading TriggerDefinition := do
  let ifNotExists ← ifNotExists
  let trigger ← tableName
  let before ←
    if ← acceptWord "after" then pure false
    else
      let _ ← acceptWord "before"
      pure true
  let event ← triggerEvent
  expectWord "on"
  let table ← tableName
  if ← acceptWord "for" then
    expectWord "each"
    expectWord "row"
  let condition ← clause "when" expression
  expectWord "begin"
  let body ← triggerBody (← get).length
  return ⟨trigger.name, ifNotExists, table, before, event, condition, body⟩

/-- The kind of a transaction to begin: whether it wants to write at once. -/
def transactionKind : Reading Bool := do
  if ← acceptWord "immediate" then return true
  else if ← acceptWord "exclusive" then return true
  else
    let _ ← acceptWord "deferred"
    return false

/-- The name of a transaction, which means nothing. -/
def transactionName : Reading Unit := do
  if ← acceptWord "transaction" then
    if (← peek).isName then
      let _ ← advance

def valueRows : Reading (List (List Expr)) := do
  let row : Reading (List Expr) := do
    expectSymbol "("
    let row ← expressions
    expectSymbol ")"
    return row
  separated row (← get).length

def orReplace : Reading Bool := do
  if ← acceptWord "or" then
    expectWord "replace"
    return true
  else return false

/-- The columns that inserted rows are for, none if they are not listed. -/
def columnList : Reading (List Text) := do
  if ← acceptSymbol "(" then
    let names ← separated name (← get).length
    expectSymbol ")"
    return names.map (·.unquoted)
  else return []

def insertion (replace : Bool) : Reading Statement := do
  let table ← tableName
  let columns ← columnList
  expectWord "values"
  return .insert table replace columns (← valueRows)

/-- The value of a setting, a sign in front of a number included. -/
def settingValue : Reading Text := do
  let sign : Text ← if ← acceptSymbol "-" then pure ['-'] else
    let _ ← acceptSymbol "+"
    pure []
  let l ← peek
  if l.kind = .integer ∨ l.kind = .float ∨ l.isWord "on" ∨ l.isName then
    return sign ++ (← advance).unquoted
  else unexpected

/-- Settings that are not part of this fragment of the language. -/
def otherSettings : List String :=
  ["analysis_limit", "application_id", "auto_vacuum", "automatic_index", "busy_timeout", "cache_size",
   "cache_spill", "case_sensitive_like", "cell_size_check", "checkpoint_fullfsync", "collation_list",
   "compile_options", "count_changes", "data_store_directory", "data_version", "database_list",
   "default_cache_size", "defer_foreign_keys", "empty_result_callbacks", "encoding",
   "foreign_key_check", "foreign_key_list", "foreign_keys", "freelist_count", "full_column_names",
   "fullfsync", "function_list", "hard_heap_limit", "ignore_check_constraints", "incremental_vacuum",
   "index_info", "index_list", "index_xinfo", "integrity_check", "journal_mode", "journal_size_limit",
   "legacy_alter_table", "locking_mode", "mmap_size", "module_list", "optimize", "page_count",
   "page_size", "pragma_list", "quick_check", "read_uncommitted", "recursive_triggers",
   "reverse_unordered_selects", "schema_version", "secure_delete", "short_column_names",
   "shrink_memory", "soft_heap_limit", "stats", "synchronous", "table_info", "table_list",
   "table_xinfo", "temp_store", "temp_store_directory", "threads", "trusted_schema", "user_version",
   "vdbe_addoptrace", "vdbe_debug", "vdbe_listing", "vdbe_trace", "wal_autocheckpoint",
   "wal_checkpoint", "writable_schema"]

def settingStatement : Reading Statement := do
  let named ← tableName
  let word := String.ofList (Text.lower named.name)
  -- a name of no setting at all is passed over, whatever value it is given
  let kind : Setting :=
    match word with
    | "query_only" => .readOnly
    | "max_page_count" => .pageLimit
    | _ => .unknown
  if otherSettings.contains word then unexpected
  else if ← acceptSymbol "=" then return .setting kind (some (← settingValue))
  else if ← acceptSymbol "(" then
    let value ← settingValue
    expectSymbol ")"
    return .setting kind (some value)
  else return .setting kind none

def assignment : Reading (Text × Expr) := do
  let column ← name
  expectSymbol "="
  return (column.unquoted, ← expression)

def statement : Reading Statement := do
  if ← acceptWord "select" then return .select (← query)
  else if ← acceptWord "insert" then
    let replace ← orReplace
    expectWord "into"
    insertion replace
  else if ← acceptWord "replace" then
    expectWord "into"
    insertion true
  else if ← acceptWord "update" then
    let table ← tableName
    expectWord "set"
    let changes ← separated assignment (← get).length
    return .update table changes (← clause "where" expression)
  else if ← acceptWord "delete" then
    expectWord "from"
    let table ← tableName
    return .delete table (← clause "where" expression)
  else if ← acceptWord "create" then
    if ← acceptWord "trigger" then return .createTrigger (← triggerDefinition)
    else return .createTable (← tableDefinition)
  else if ← acceptWord "drop" then
    if ← acceptWord "trigger" then
      let ifExists ← ifExists
      return .dropTrigger (← tableName).name ifExists
    else
      expectWord "table"
      let ifExists ← ifExists
      return .dropTable (← tableName) ifExists
  else if ← acceptWord "alter" then
    expectWord "table"
    let table ← tableName
    expectWord "rename"
    expectWord "to"
    return .renameTable table (← name).unquoted
  else if ← acceptWord "pragma" then settingStatement
  else if ← acceptWord "begin" then
    let immediate ← transactionKind
    transactionName
    return .begin immediate
  else if ← acceptWord "commit" then
    transactionName
    return .commit
  else if ← acceptWord "end" then
    transactionName
    return .commit
  else if ← acceptWord "rollback" then
    transactionName
    return .rollback
  else unexpected

def skipSemicolons (ls : List Lexeme) : List Lexeme := ls.dropWhile (·.isSymbol ";")

end Grammar

structure Parsed where
  statement : Statement
  parameters : Nat
  /-- The text behind its semicolon. -/
  rest : Text
deriving DecidableEq

def dropBytes : Nat → Text → Text
  | _, [] => []
  | n, c :: s => if n < c.utf8Size then c :: s else dropBytes (n - c.utf8Size) s

/-- The statement at the front of lexemes, its parameters and the place behind its semicolon. -/
def parseLexemes (ls : List Lexeme) : Except Located (Statement × Nat × Option Nat) := do
  let (statement, rest) ← Grammar.statement ls
  let taken := ls.take (ls.length - rest.length)
  let parameters := (taken.map (·.number)).foldl max 0
  let next := rest.headD Grammar.finish
  if next.kind = .finish then return (statement, parameters, none)
  else if next.isSymbol ";" then return (statement, parameters, some (next.offset + 1))
  else .error next.unexpected

/-- The first statement of a text, if the text is more than blanks, comments and semicolons. -/
def readStatement (sql : Text) : Except Located (Option Parsed) := do
  let ls := Grammar.skipSemicolons (lexemes sql)
  if (ls.headD Grammar.finish).kind = .finish then return none
  let (statement, parameters, stop) ← parseLexemes ls
  return some ⟨statement, parameters, (stop.map fun n => dropBytes n sql).getD []⟩

/-- The table that the text sets out to create: its name is read as far as the opening parenthesis. -/
def tableHead? (sql : Text) : Option (TableName × Bool) :=
  let reading : Reading (TableName × Bool) := do
    Grammar.expectWord "create"
    let head ← Grammar.tableHead
    Grammar.expectSymbol "("
    return head
  match reading (Grammar.skipSemicolons (lexemes sql)) with
  | .ok (head, _) => some head
  | .error _ => none

end SheetQuery.Sql
