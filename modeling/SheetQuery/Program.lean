import SheetQuery.Arguments
import SheetQuery.Console
import SheetQuery.Session.Load

/-!
# The program

A run of the program from its arguments, its environment, the files and the input to what it writes and
the files that it leaves. The journal is written to the error output as far as a filter lets it through.
-/

namespace SheetQuery

/-- A rule for notes: those on topics whose name begins with `topic` pass up to a level, or not at all. -/
structure FilterRule where
  topic : Text
  level : Option Level
deriving DecidableEq

abbrev NoteFilter := List FilterRule

namespace NoteFilter

/-- The rule of the longest topic that fits; of equally long ones the last. -/
def rule? (filter : NoteFilter) (topic : Text) : Option FilterRule :=
  (filter.filter fun r => r.topic.isPrefixOf topic).foldl (fun best r =>
    match best with
    | some b => if b.topic.length ≤ r.topic.length then some r else some b
    | none => some r) none

def passes (filter : NoteFilter) (note : Note) : Bool :=
  match (filter.rule? note.topic.name).bind (·.level) with
  | some level => note.level.rank ≤ level.rank
  | none => false

def partsAt (separator : Char) (s : Text) : List Text := Text.runs (· != separator) s

def level? (s : Text) : Option (Option Level) :=
  if Text.sameName s "off".toList then some none else (Level.ofName? s).map some

/-- A rule as it is written: a level, a topic, or both around an equals sign. -/
def ruleOfText? (s : Text) : Option FilterRule :=
  match partsAt '=' s with
  | [word] =>
    match level? (Text.trim word) with
    | some level => some ⟨[], level⟩
    | none => some ⟨Text.trim word, some .trace⟩
  | [topic, word] => (level? (Text.trim word)).map fun level => ⟨Text.trim topic, level⟩
  | _ => none

/-- The filter of a text of rules between commas; without any rule, errors pass. -/
def ofText (s : Text) : NoteFilter :=
  match (partsAt ',' s).filterMap ruleOfText? with
  | [] => [⟨[], some .error⟩]
  | rules => rules

/-- The filter of a program that is told nothing else: what a user should know, or all details. -/
def ofVerbose (verbose : Bool) : NoteFilter :=
  [⟨Topic.program.name, some (if verbose then .debug else .info)⟩]

def rulesVariable : Text := "RUST_LOG".toList

def ofLookup (lookup : Text → Option Text) (verbose : Bool) : NoteFilter :=
  match lookup rulesVariable with
  | some rules => ofText rules
  | none => ofVerbose verbose

end NoteFilter

/-- A note as a line of the journal: its level in five columns, its topic and its text, of which further
lines are indented. -/
def Note.render (n : Note) : Text :=
  let level := n.level.name
  let text := n.text.flatMap fun c => if c = '\n' then "\n    ".toList else [c]
  level ++ List.replicate (5 - level.length) ' ' ++ ' ' :: n.topic.name ++ "] ".toList ++ text

structure Invocation where
  arguments : List Text
  environment : List (Text × Text)
  disk : Disk
deriving DecidableEq

structure Completion where
  exitCode : Nat
  output : Text
  /-- The lines of the journal and of the failure. -/
  errors : List Text
  disk : Disk
deriving DecidableEq

structure Started (C : Type) where
  workspace : Workspace C
  filter : NoteFilter
  notes : List Note

def NoteFilter.shown (filter : NoteFilter) (notes : List Note) : List Text :=
  (notes.filter filter.passes).map Note.render

namespace Program

def versionText : Text := "csvsql 0.3.0".toList

def usageText : Text :=
  ("Load CSV and spreadsheet files into SQLite and query them with SQL\n\n" ++
   "Usage: csvsql [OPTIONS] <FILES>...").toList

def refuse (disk : Disk) : ArgumentFault → Completion
  | .help => ⟨0, usageText ++ ['\n'], [], disk⟩
  | .version => ⟨0, versionText ++ ['\n'], [], disk⟩
  | fault => ⟨2, [], [fault.text], disk⟩

def failureLine (f : Failure) : Text := "error: ".toList ++ f.line

def loadedNote (loaded total : Nat) : Note :=
  ⟨.info, .program, "Loaded ".toList ++ Text.decimal loaded ++ " of ".toList ++ Text.decimal total ++
    " file(s)".toList⟩

variable {C : Type} [Engine C]

/-- The store is opened, a session begins on it and the files are loaded. The failure to open the store
comes under a sentence with its location. -/
def prepare (readers : Readers) (settings : Settings) (arguments : Arguments) (disk : Disk) :
    Except Failure (Step (Workspace C) Unit) := do
  let encoding ← (Encoding.resolve arguments.inputEncoding).mapError fun unknown =>
    Failure.ofMessage unknown.message
  let (store, disk) ← (Store.openAt (C := C) disk settings.location).mapError
    (·.within ("Opening store ".toList ++ settings.location))
  let started ← Session.start store ⟨arguments.delimiter, encoding, settings.maxFileSize, readers⟩
  let loaded := started.bind fun session _ => session.loadFiles disk arguments.files
  let notes := loaded.notes ++ [loadedNote loaded.answer arguments.files.length]
  return ⟨⟨loaded.state, disk⟩, (), notes⟩

/-- The paths that a run reads before its conversation: its files and the location of its store. -/
def sources (arguments : List Text) (environment : List (Text × Text)) : List Text :=
  match Arguments.parse arguments with
  | .error _ => []
  | .ok a =>
    let settings := (Settings.ofLookup fun name => environment.lookup name).1.override a
    if Store.isFile settings.location then settings.location :: a.files else a.files

/-- A run up to its conversation, or how it ends without one. -/
def start (readers : Readers) (i : Invocation) : Except Completion (Started C) :=
  match Arguments.parse i.arguments with
  | .error fault => .error (refuse i.disk fault)
  | .ok arguments =>
    let lookup (name : Text) : Option Text := i.environment.lookup name
    let (settings, ignored) := Settings.ofLookup lookup
    let settings := settings.override arguments
    let filter := NoteFilter.ofLookup lookup settings.verbose
    let notes : List Note := ignored.map fun message => ⟨.warn, .program, message⟩
    match prepare readers settings arguments i.disk with
    | .error f => .error ⟨1, [], filter.shown notes ++ [failureLine f], i.disk⟩
    | .ok prepared => .ok ⟨prepared.state, filter, notes ++ prepared.notes⟩

def finish (s : Started C) (talk : Step (Workspace C) Console.Transcript) : Completion :=
  let journal := s.filter.shown (s.notes ++ talk.notes)
  let disk := talk.state.close
  match talk.answer.failure with
  | some f => ⟨1, talk.answer.output, journal ++ [failureLine f], disk⟩
  | none => ⟨0, talk.answer.output, journal, disk⟩

/-- A run of the program on an input, with connections of the states `C`. -/
def run (C : Type) [Engine C] (readers : Readers) (i : Invocation) (input : Bytes) : Completion :=
  match start (C := C) readers i with
  | .error done => done
  | .ok started => finish started (Console.run started.workspace input)

end Program

end SheetQuery
