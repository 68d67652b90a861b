import SheetQuery.Program
import SheetQuery.Readers
import SheetQuery.Sql.Connection

/-!
# The command line

The program between its user and the library: the arguments, the environment and the files that a run
needs are gathered, the lines of the input are answered one by one, and the files that have changed are
written. The database of a store is kept in its file as a script.
-/

namespace SheetQuery

def ofString (s : String) : Text := s.toList

/-- The bytes of a file; a script stands for its database. -/
def contentOfBytes (bytes : Bytes) : Content :=
  match (Utf8.decode bytes).bind Sql.Schema.ofScript? with
  | some tables => .database tables
  | none => .bytes bytes

/-- What stands at a path below directories. -/
def observe (path : Text) : IO (Option Node) := do
  try
    let bytes ← IO.FS.readBinFile (String.ofList path)
    return some (.file (contentOfBytes bytes.toList))
  catch
    | .inappropriateType .. => return some .directory
    | _ => return none

def leadingPaths (path : Text) : List Text :=
  let root : Text := if path.head? = some '/' then ['/'] else []
  let parts := Path.components path
  (List.range parts.length).map fun k => root ++ Text.joinWith ['/'] (parts.take (k + 1))

/-- The files with what stands at a path and above it. -/
def look (disk : Disk) (path : Text) : IO Disk := do
  let mut disk := disk
  for leading in leadingPaths path do
    match ← observe leading with
    | some .directory => disk := disk.put leading .directory
    | some file => return disk.put leading file
    | none => return disk
  return disk

def pathOfPlace (place : List Text) : Text :=
  match place with
  | ['/'] :: rest => '/' :: Text.joinWith ['/'] rest
  | _ => Text.joinWith ['/'] place

/-- The files that differ from those before are written. -/
def writeChanges (before after : Disk) : IO Unit := do
  for (place, node) in after.nodes do
    match node with
    | .directory => pure ()
    | .file content =>
      if before.node? place != some node then
        IO.FS.writeBinFile (String.ofList (pathOfPlace place)) ⟨(content.asBytes).toArray⟩

def readEnvironment : IO (List (Text × Text)) := do
  let names := [Settings.locationVariable, Settings.maxFileSizeVariable, Settings.verboseVariable,
    NoteFilter.rulesVariable]
  let mut environment : List (Text × Text) := []
  for name in names do
    match ← IO.getEnv (String.ofList name) with
    | some value => environment := environment ++ [(name, ofString value)]
    | none => pure ()
  return environment

def writeErrors (lines : List Text) : IO Unit := do
  for line in lines do
    IO.eprintln (String.ofList line)

def writeJournal (lines : List Text) : IO Unit := writeErrors (lines.map ('[' :: ·))

/-- The files that a command needs beside those of the run. -/
def lookFor (disk : Disk) (line : Text) : IO Disk :=
  match Command.parse line with
  | .ok (.exportTo path) => look disk path
  | _ => return disk

/-- The bytes of the next line of the input with its line feed; none are left at the end. -/
def readLine : IO Bytes := do
  let input ← IO.getStdin
  let mut line : List UInt8 := []
  while true do
    match (← input.read 1).toList with
    | [] => return line.reverse
    | b :: _ =>
      line := b :: line
      if b = 0x0A then return line.reverse
  return line.reverse

def converse (started : Started Sql.Database) : IO UInt32 := do
  let output ← IO.getStdout
  output.putStr (String.ofList Console.greeting)
  output.flush
  let mut workspace := started.workspace
  while true do
    let bytes ← readLine
    match Utf8.decode bytes with
    | none =>
      writeErrors [Program.failureLine Console.invalidInput]
      return 1
    | some [] =>
      output.putStr "\n"
      return 0
    | some line =>
      let disk ← lookFor workspace.disk line
      let step := Console.answer { workspace with disk := disk } line
      let saved := step.state.close
      writeJournal (started.filter.shown step.notes)
      writeChanges disk saved
      workspace := { step.state with disk := saved }
      match step.answer with
      | .ok .exit => return 0
      | .ok reply => output.putStr (String.ofList (Console.render reply ++ Console.prompt))
      | .error failure => output.putStr (String.ofList (Console.renderFailure failure ++ Console.prompt))
      output.flush
  return 0

def runProgram (arguments : List Text) : IO UInt32 := do
  let environment ← readEnvironment
  let mut disk := Disk.empty
  for path in Program.sources arguments environment do
    disk ← look disk path
  match Program.start Readers.standard ⟨arguments, environment, disk⟩ with
  | .error done =>
    IO.print (String.ofList done.output)
    writeErrors done.errors
    return done.exitCode.toUInt32
  | .ok started =>
    writeJournal (started.filter.shown started.notes)
    let saved := started.workspace.close
    writeChanges disk saved
    converse { started with workspace := { started.workspace with disk := saved } }

end SheetQuery

def main (arguments : List String) : IO UInt32 :=
  SheetQuery.runProgram (arguments.map SheetQuery.ofString)
