import SheetQuery.Text.Blank

/-!
# Commands

A line of the user is a command: a directive if its first word says so, in any case of its ASCII letters,
and otherwise a statement, which is kept as it is but for the blank characters at its ends.
-/

namespace SheetQuery

inductive Command where
  | exit
  | help
  | empty
  | tables
  | schema (table : Text)
  | mappings
  | exportTo (path : Text)
  | sql (statement : Text)
deriving DecidableEq, Repr

/-- A directive with the wrong number of words. -/
inductive CommandFault where
  | schemaUsage
  | exportUsage
deriving DecidableEq, Repr

def CommandFault.text : CommandFault → Text
  | schemaUsage => "Usage: .schema <table>".toList
  | exportUsage => "Invalid EXPORT command. Usage: EXPORT <file.csv>".toList

namespace Command

/-- The words that end the session when they stand alone. -/
def exitWords : List String := ["exit", "quit", ".exit", ".quit"]

/-- The command of a trimmed line with this first word, in lower case, and these words behind it. -/
def ofWords (line : Text) (keyword : String) (rest : List Text) : Except CommandFault Command :=
  -- `.help`, `.tables` and `.mappings` ignore further words; the other directives count them.
  if exitWords.contains keyword && rest.isEmpty then .ok exit
  else if keyword = ".help" then .ok help
  else if keyword = ".tables" then .ok tables
  else if keyword = ".mappings" then .ok mappings
  else if keyword = ".schema" then
    match rest with
    | [table] => .ok (schema table)
    | _ => .error .schemaUsage
  else if keyword = "export" then
    match rest with
    | [path] => .ok (exportTo path)
    | _ => .error .exportUsage
  else .ok (sql line)

def parse (line : Text) : Except CommandFault Command :=
  match Text.words line with
  | [] => .ok empty
  | keyword :: rest => ofWords (Text.trim line) (String.ofList (Text.lower keyword)) rest

end Command

end SheetQuery
