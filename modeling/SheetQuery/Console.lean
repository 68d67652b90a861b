import SheetQuery.Layout
import SheetQuery.Session.Query

/-!
# The console

The conversation with the user: a greeting, and for every line of input the text of its reply and a
prompt. A command that fails is answered with its failure; only an exit directive, the end of the input
or a line that is no text ends the conversation.
-/

namespace SheetQuery.Console

variable {C : Type} [Engine C]

def prompt : Text := "sql> ".toList

def helpText : Text :=
  ("Commands:\n" ++
   "  .help              Show this help message.\n" ++
   "  .tables            List available tables.\n" ++
   "  .schema <table>    Show the columns of a table and their original headers.\n" ++
   "  .mappings          Show header to column name mappings.\n" ++
   "  exit, quit         Exit the application (.exit and .quit also work).\n" ++
   "  EXPORT <file.csv>  Export the last query result to a CSV file.\n" ++
   "  Any other text is run as SQL. Chinese column headers may be used as written.").toList

def line (s : Text) : Text := s ++ ['\n']

def tableBlock (table : Text) (entries : List (Text × Text)) : Text :=
  line ("Table: ".toList ++ table) ++ line "-------------------".toList ++
    entries.flatMap fun (label, identifier) =>
      line ("  ".toList ++ label ++ " -> ".toList ++ identifier)

def mappingsText (snapshot : List (Text × List (Text × Text))) (ambiguities : List Ambiguity) : Text :=
  let filled := snapshot.filter (!·.2.isEmpty)
  if filled.isEmpty then line "No header mappings found.".toList
  else
    line "Header Mappings:".toList ++ line "================".toList ++
      (filled.flatMap fun (table, entries) => tableBlock table entries) ++
      if ambiguities.isEmpty then []
      else line "Warnings:".toList ++ ambiguities.flatMap fun a => line ("  ".toList ++ a.text)

def render : Reply → Text
  | .exit | .nothing => []
  | .help => line helpText
  | .tables names => Layout.result ["name".toList] (names.map ([·]))
  | .schema listing | .rows listing => Layout.result listing.headers listing.rows
  | .mappings snapshot ambiguities => mappingsText snapshot ambiguities
  | .affected count => line ("Query OK, ".toList ++ Text.decimal count ++ " rows affected.".toList)
  | .exported path rows =>
    line ("Exported ".toList ++ Text.decimal rows ++ " rows to ".toList ++ path ++ ".".toList)

def greeting : Text := line [] ++ line "Enter SQL commands or type .help for help.".toList ++ prompt

def renderFailure (f : Failure) : Text := line ("Error: ".toList ++ f.line)

/-- The lines of the input; a line feed ends a line, and the last one need not have any. -/
def lines : Bytes → List Bytes
  | [] => []
  | b :: rest =>
    if b = 0x0A then [] :: lines rest
    else
      match lines rest with
      | [] => [[b]]
      | first :: others => (b :: first) :: others

/-- A line of the user is run; the answer is the reply, or the failure of the line. -/
def answer (w : Workspace C) (text : Text) : Step (Workspace C) (Except Failure Reply) :=
  match Command.parse text with
  | .error fault => .pure w (.error (.ofMessage fault.text))
  | .ok command => w.execute command

/-- The input holds a line that is no text. -/
def invalidInput : Failure := .ofMessage "stream did not contain valid UTF-8".toList

structure Transcript where
  output : Text
  failure : Option Failure
deriving DecidableEq

def Transcript.behind (t : Transcript) (output : Text) : Transcript := { t with output := output ++ t.output }

/-- The lines of the input are answered one after the other. -/
def converse (w : Workspace C) : List Bytes → Step (Workspace C) Transcript
  | [] => .pure w ⟨['\n'], none⟩
  | bytes :: rest =>
    match Utf8.decode bytes with
    | none => .pure w ⟨[], some invalidInput⟩
    | some text =>
      (answer w text).bind fun w reply =>
        match reply with
        | .ok .exit => .pure w ⟨[], none⟩
        | .ok reply => (converse w rest).map (·.behind (render reply ++ prompt))
        | .error failure => (converse w rest).map (·.behind (renderFailure failure ++ prompt))

def run (w : Workspace C) (input : Bytes) : Step (Workspace C) Transcript :=
  (converse w (lines input)).map (·.behind greeting)

end SheetQuery.Console
