import SheetQuery.Sql.Database

/-!
# Scripts

A schema as a text of statements that create its tables and fill them, and back. Numbers of rows and
triggers are not part of a script.
-/

namespace SheetQuery.Sql

def quotedWith (quote : Char) (s : Text) : Text :=
  quote :: (s.flatMap fun c => if c = quote then [c, c] else [c]) ++ [quote]

def hexPairs (bytes : Bytes) : Text :=
  bytes.flatMap fun b =>
    let digits := Text.hexadecimal b.toNat
    List.replicate (2 - digits.length) '0' ++ digits

def blobLiteral (bytes : Bytes) : Text := "x'".toList ++ hexPairs bytes ++ ['\'']

def Value.literal : Value → Text
  | .null => "NULL".toList
  | .integer i => Text.ofInt i
  | .real x =>
    if x.isInfinite then (if x.isNegative then "-9e999" else "9e999").toList
    else if x.shortest.contains '.' then x.shortest
    else x.shortest ++ ".0".toList
  | .text s =>
    if s.any (·.toNat = 0) then "CAST(".toList ++ blobLiteral (Utf8.encode s) ++ " AS TEXT)".toList
    else quotedWith '\'' s
  | .blob b => blobLiteral b

def Column.script (c : Column) : Text :=
  quotedWith '"' c.name ++ (if c.type.isEmpty then [] else ' ' :: c.type) ++
    (if c.notNull then " NOT NULL".toList else []) ++
    match c.default with
    | some (written, _) => " DEFAULT ".toList ++ written
    | none => []

namespace Table

def createScript (t : Table) : Text :=
  let names := t.keyColumns.filterMap fun k => (t.columns[k]?).map fun c => quotedWith '"' c.name
  let key : List Text :=
    if names.isEmpty then []
    else ["PRIMARY KEY (".toList ++ Text.joinWith ", ".toList names ++ [')']]
  "CREATE TABLE ".toList ++ quotedWith '"' t.name ++ " (".toList ++
    Text.joinWith ", ".toList (t.columns.map Column.script ++ key) ++ [')']

def insertScript (t : Table) (r : Row) : Text :=
  "INSERT INTO ".toList ++ quotedWith '"' t.name ++ " VALUES (".toList ++
    Text.joinWith ", ".toList (r.values.map Value.literal) ++ [')']

def script (t : Table) : List Text := t.createScript :: t.rows.map t.insertScript

end Table

def scriptMark : Text := "-- csvsql store\n".toList

/-- The statements that make the tables of a schema, each on a line of its own. -/
def Schema.script (s : Schema) : Text :=
  scriptMark ++ (s.tables.flatMap Table.script).flatMap fun statement => statement ++ ";\n".toList

/-- The statements of a text are run, at most `limit` of them; none if one of them fails. -/
def Database.runAll (db : Database) : Nat → Text → Option Database
  | 0, _ => some db
  | limit + 1, sql =>
    match db.compileFirst sql with
    | .error _ => none
    | .ok (none, _) => some db
    | .ok (some statement, rest) =>
      match db.performPrepared statement [] with
      | (_, .error _) => none
      | (db, .ok _) => db.runAll limit rest

/-- The schema that a script makes, if the text is one. -/
def Schema.ofScript? (text : Text) : Option Schema :=
  if scriptMark.isPrefixOf text then
    ((Database.ofSchema .empty).runAll (text.length + 1) text).map fun db => db.catalog.main
  else none

end SheetQuery.Sql
