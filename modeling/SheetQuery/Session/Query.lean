import SheetQuery.Command
import SheetQuery.Delimited.Writer
import SheetQuery.Mapping.Ambiguity
import SheetQuery.Mapping.Substitution
import SheetQuery.Session.Basic
import SheetQuery.Text.Quoted

/-!
# Running commands

A statement is run with identifiers in the place of headers, and its result gets the headers back. The
last result can be written to a file.

* `Session.query` runs a statement of the user.
* `Session.schema` describes the columns of a table with their headers.
* `Workspace.exportTo` writes the last result.
* `Workspace.execute` runs a command.
-/

namespace SheetQuery

inductive Reply where
  | exit
  | help
  | nothing
  | tables (names : List Text)
  | schema (listing : Listing)
  | mappings (snapshot : List (Text × List (Text × Text))) (ambiguities : List Ambiguity)
  | rows (listing : Listing)
  | affected (count : Nat)
  | exported (path : Text) (rows : Nat)
deriving DecidableEq

def Reply.ofOutcome : QueryOutcome → Reply
  | .rows listing => .rows listing
  | .affected count => .affected count

namespace Session

variable {C : Type} [Engine C]

/-- The statement with identifiers in the place of headers, noted if that changes it. -/
def substituted (s : Session C) (sql : Text) : Text × List Note :=
  let text := s.mappings.substitute sql
  (text, if text = sql then [] else [⟨.debug, .substitution, "Translated query: ".toList ++ text⟩])

def contextText : Option Text → Text
  | some table => "Some(".toList ++ Text.quoted table ++ ")".toList
  | none => "None".toList

/-- A statement of the user is run; its result is the last one from then on. -/
def query (s : Session C) (sql : Text) : Step (Session C) (Except Failure QueryOutcome) :=
  let (text, notes) := s.substituted sql
  match s.store.run text with
  | (store, .error e) => ⟨{ s with store := store }, .error e, notes⟩
  | (store, .ok (.affected count)) => ⟨{ s with store := store }, .ok (.affected count), notes⟩
  | (store, .ok (.rows listing)) =>
    -- The table is looked for in the statement as the user wrote it.
    let context := tableContext sql s.mappings.tables
    let shown : Listing := { listing with headers := s.mappings.columnLabels context listing.headers }
    ⟨{ s with store := store, lastResult := some shown }, .ok (.rows shown),
     notes ++
       [⟨.debug, .session, "Restoring result headers with table context ".toList ++ contextText context⟩]⟩

def labelHeader : Text := "original".toList

/-- The columns of a table, each with the header that is kept for it. -/
def schema (s : Session C) (table : Text) : Except Failure Listing := do
  let info ← s.store.tableInfo table
  let label (row : List Text) : Text := ((row[1]?).bind (s.mappings.reverse table)).getD []
  return ⟨info.headers ++ [labelHeader], info.rows.map fun row => row ++ [label row]⟩

end Session

namespace Workspace

variable {C : Type} [Engine C]

def nothingToExport : Failure := .ofMessage "No results to export. Run a SELECT query first.".toList

/-- A result is written to a file. The file holds what could be written, also if that is not all. -/
def writeListing (disk : Disk) (path : Text) (listing : Listing) : Disk × Except Failure Unit :=
  let (text, uneven) := Delimited.write listing.headers listing.rows
  match disk.create path (.bytes (Utf8.encode text)) with
  | .error fault =>
    (disk, .error ⟨"Creating output file ".toList ++ Text.quoted path, [fault.text]⟩)
  | .ok disk =>
    match uneven with
    | none => (disk, .ok ())
    | some row =>
      (disk, .error
        ⟨"Writing row ".toList ++ Text.decimal (row.position + 2) ++ " to ".toList ++ Text.quoted path,
         ["CSV error: found record with ".toList ++ Text.decimal row.found ++
           " fields, but the previous record has ".toList ++ Text.decimal row.expected ++
           " fields".toList]⟩)

/-- The last result is written to a file, if there is one and it has rows. -/
def exportTo (w : Workspace C) (path : Text) : Step (Workspace C) (Except Failure Reply) :=
  match w.session.lastResult.filter (!·.rows.isEmpty) with
  | none => .pure w (.error nothingToExport)
  | some listing =>
    match writeListing w.disk path listing with
    | (disk, .error failure) => .pure { w with disk := disk } (.error failure)
    | (disk, .ok ()) =>
      ⟨{ w with disk := disk }, .ok (.exported path listing.rows.length),
       [⟨.info, .session, "Exported ".toList ++ Text.decimal listing.rows.length ++ " row(s) to ".toList ++
         Text.quoted path⟩]⟩

def execute (w : Workspace C) : Command → Step (Workspace C) (Except Failure Reply)
  | .exit => .pure w (.ok .exit)
  | .help => .pure w (.ok .help)
  | .empty => .pure w (.ok .nothing)
  | .tables => .pure w (w.session.store.tables.map .tables)
  | .schema table => .pure w ((w.session.schema table).map .schema)
  | .mappings => .pure w (.ok (.mappings w.session.mappings.snapshot w.session.mappings.ambiguities))
  | .exportTo path => w.exportTo path
  | .sql statement =>
    ((w.session.query statement).map (·.map Reply.ofOutcome)).onState fun session =>
      { w with session := session }

end Workspace

end SheetQuery
