import SheetQuery.Number.Count
import SheetQuery.Settings

/-!
# Arguments

The command line: files, options with values, and flags. Arguments are read from left to right. The
value of an option stands behind an equals sign or in the next argument, and it is taken over
(`settle`) as soon as the next option or flag is read, or at the end; so an earlier value that is wrong
is found before a later one, but after a later argument that is unknown.
-/

namespace SheetQuery

inductive DelimiterFault where
  | empty
  | severalCharacters
  | notAscii
deriving DecidableEq, Repr

def DelimiterFault.text : DelimiterFault → Text
  | empty => "Delimiter cannot be empty".toList
  | severalCharacters => "Delimiter must be a single character".toList
  | notAscii => "Delimiter must be ASCII".toList

def namedDelimiters : List (String × UInt8) :=
  [("tab", 0x09), ("comma", 0x2C), ("pipe", 0x7C), ("semicolon", 0x3B)]

def readDelimiter (s : Text) : Except DelimiterFault UInt8 :=
  match namedDelimiters.lookup (String.ofList s), s with
  | some b, _ => .ok b
  | none, [] => .error .empty
  | none, [c] => if c.toNat < 0x80 then .ok c.toNat.toUInt8 else .error .notAscii
  | none, _ => .error .severalCharacters

inductive ValueOption where
  | database
  | maxFileSize
  | delimiter
  | inputEncoding
deriving DecidableEq, Repr

namespace ValueOption

def flag : ValueOption → String
  | database => "--db"
  | maxFileSize => "--max-file-size"
  | delimiter => "--delimiter"
  | inputEncoding => "--input-encoding"

def usage : ValueOption → Text
  | database => "--db <DATABASE>".toList
  | maxFileSize => "--max-file-size <MAX_FILE_SIZE>".toList
  | delimiter => "--delimiter <DELIMITER>".toList
  | inputEncoding => "--input-encoding <INPUT_ENCODING>".toList

def ofFlag? (s : Text) : Option ValueOption :=
  [database, maxFileSize, delimiter, inputEncoding].find? fun o => o.flag == String.ofList s

end ValueOption

inductive Flag where
  | verbose
  | help
  | version
deriving DecidableEq, Repr

namespace Flag

def written : Flag → Text
  | verbose => "--verbose".toList
  | help => "--help".toList
  | version => "--version".toList

def ofWritten? (s : Text) : Option Flag := [verbose, help, version].find? fun f => f.written == s

def ofLetter? : Char → Option Flag
  | 'v' => some verbose
  | 'h' => some help
  | 'V' => some version
  | _ => none

end Flag

/-- What the command line asks for. -/
structure Arguments where
  files : List Text
  database : Option Text
  maxFileSize : Option Nat
  verbose : Bool
  delimiter : Option UInt8
  inputEncoding : Option Text
deriving DecidableEq, Repr

inductive ArgumentFault where
  | missingFiles
  | unexpectedArgument (argument : Text)
  | invalidValue (value usage reason : Text)
  | missingValue (usage : Text)
  | repeated (usage : Text)
  | unexpectedValue (value flag : Text)
  | help
  | version
deriving DecidableEq, Repr

def ArgumentFault.text : ArgumentFault → Text
  | missingFiles => "error: the following required arguments were not provided:".toList
  | unexpectedArgument argument =>
    "error: unexpected argument '".toList ++ argument ++ "' found".toList
  | invalidValue value usage reason =>
    "error: invalid value '".toList ++ value ++ "' for '".toList ++ usage ++ "': ".toList ++ reason
  | missingValue usage =>
    "error: a value is required for '".toList ++ usage ++ "' but none was supplied".toList
  | repeated usage => "error: the argument '".toList ++ usage ++ "' cannot be used multiple times".toList
  | unexpectedValue value flag =>
    "error: unexpected value '".toList ++ value ++ "' for '".toList ++ flag ++
      "' found; no more were expected".toList
  | help | version => []

namespace Arguments

def empty : Arguments := ⟨[], none, none, false, none, none⟩

def filesUsage : Text := "<FILES>...".toList

/-- What has been read but not taken over. -/
inductive Pending where
  | nothing
  | files (paths : List Text)
  | value (option : ValueOption) (value : Option Text)
deriving DecidableEq

structure State where
  arguments : Arguments
  pending : Pending
  /-- Every further argument is a file. -/
  filesOnly : Bool
deriving DecidableEq

/-- The value of an option is taken over; an option is given at most once. -/
def set (a : Arguments) (option : ValueOption) (value : Text) : Except ArgumentFault Arguments :=
  match option with
  | .database =>
    if a.database.isSome then .error (.repeated option.usage) else .ok { a with database := value }
  | .inputEncoding =>
    if a.inputEncoding.isSome then .error (.repeated option.usage)
    else .ok { a with inputEncoding := value }
  | .maxFileSize =>
    if a.maxFileSize.isSome then .error (.repeated option.usage)
    else
      match Count.read value with
      | .ok n => .ok { a with maxFileSize := n }
      | .error fault => .error (.invalidValue value option.usage fault.text)
  | .delimiter =>
    if a.delimiter.isSome then .error (.repeated option.usage)
    else
      match readDelimiter value with
      | .ok b => .ok { a with delimiter := b }
      | .error fault => .error (.invalidValue value option.usage fault.text)

namespace State

def start : State := ⟨empty, .nothing, false⟩

def settle (s : State) : Except ArgumentFault State :=
  match s.pending with
  | .nothing => .ok s
  | .files paths =>
    if paths.contains [] then .error (.missingValue filesUsage)
    else .ok { s with arguments := { s.arguments with files := s.arguments.files ++ paths }, pending := .nothing }
  | .value option none => .error (.missingValue option.usage)
  | .value option (some value) => do
    return { s with arguments := ← s.arguments.set option value, pending := .nothing }

def readFlag (s : State) (flag : Flag) : Except ArgumentFault State := do
  let s ← s.settle
  match flag with
  | .help => .error .help
  | .version => .error .version
  | .verbose =>
    if s.arguments.verbose then .error (.repeated flag.written)
    else return { s with arguments := { s.arguments with verbose := true } }

/-- An argument that begins with two dashes: a flag or an option, with a value behind an equals sign or
without one. -/
def readLong (s : State) (name : Text) (value : Option Text) : Except ArgumentFault State :=
  match Flag.ofWritten? name, ValueOption.ofFlag? name, value with
  | some flag, _, none => s.readFlag flag
  | some flag, _, some value => .error (.unexpectedValue value flag.written)
  | none, some option, value => do
    let s ← s.settle
    match value with
    | some value => return { s with arguments := ← s.arguments.set option value }
    | none => return { s with pending := .value option none }
  | none, none, _ => .error (.unexpectedArgument name)

def readLetters (s : State) : Text → Except ArgumentFault State
  | [] => .ok s
  | c :: rest =>
    match Flag.ofLetter? c with
    | some flag => do readLetters (← s.readFlag flag) rest
    | none => .error (.unexpectedArgument ['-', c])

def readFile (s : State) (path : Text) : Except ArgumentFault State :=
  match s.pending with
  | .files paths => .ok { s with pending := .files (paths ++ [path]) }
  | _ => do return { ← s.settle with pending := .files [path] }

/-- An argument that is neither a flag nor an option: the value of the option before it, or a file. -/
def readPlain (s : State) (argument : Text) : Except ArgumentFault State :=
  match s.pending with
  | .value option none => .ok { s with pending := .value option (some argument) }
  | _ => s.readFile argument

def step (s : State) (argument : Text) : Except ArgumentFault State :=
  if s.filesOnly then s.readFile argument
  else
    match argument with
    | ['-', '-'] => .ok { s with filesOnly := true }
    | '-' :: '-' :: body =>
      let name := '-' :: '-' :: body.takeWhile (· != '=')
      match body.dropWhile (· != '=') with
      | [] => s.readLong name none
      | _ :: value => s.readLong name (some value)
    | '-' :: c :: letters => s.readLetters (c :: letters)
    | _ => s.readPlain argument

end State

def parse (arguments : List Text) : Except ArgumentFault Arguments := do
  let s ← arguments.foldlM State.step State.start
  let s ← s.settle
  if s.arguments.files.isEmpty then .error .missingFiles
  else return s.arguments

end Arguments

/-- What the command line gives overrides the settings; it can only ask for more detail. -/
def Settings.override (s : Settings) (a : Arguments) : Settings :=
  ⟨a.database.getD s.location, a.maxFileSize.getD s.maxFileSize, s.verbose || a.verbose⟩

end SheetQuery
