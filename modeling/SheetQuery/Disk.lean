import SheetQuery.Path
import SheetQuery.Sql.Script
import SheetQuery.Workbook

/-!
# Files

The files that the program reads and writes, by their paths from the directory that it runs in. A file
holds bytes, a workbook or a database. Every directory above a file exists.

* `Disk.lookup` finds what a path names.
* `Disk.create` makes a file or replaces its content.
-/

namespace SheetQuery

inductive Content where
  | bytes (b : Bytes)
  /-- The bytes of a workbook, with what is in it. -/
  | workbook (b : Bytes) (w : Workbook)
  | database (tables : Sql.Schema)
deriving DecidableEq

/-- The bytes of a file; those of a database are its script. -/
def Content.asBytes : Content → Bytes
  | .bytes b => b
  | .workbook b _ => b
  | .database tables => Utf8.encode tables.script

def Content.size (c : Content) : Nat := c.asBytes.length

inductive Node where
  | directory
  | file (content : Content)
deriving DecidableEq

inductive DiskFault where
  | notFound
  | notDirectory
  | isDirectory
deriving DecidableEq, Repr

def DiskFault.text : DiskFault → Text
  | .notFound => "No such file or directory (os error 2)".toList
  | .notDirectory => "Not a directory (os error 20)".toList
  | .isDirectory => "Is a directory (os error 21)".toList

/-- The files and directories by the components of their paths. -/
structure Disk where
  nodes : List (List Text × Node)
deriving DecidableEq

namespace Disk

def empty : Disk := ⟨[]⟩

instance : Inhabited Disk := ⟨empty⟩

/-- What stands at a place: what was put there, or a directory above something. -/
def node? (d : Disk) (place : List Text) : Option Node :=
  match d.nodes.lookup place with
  | some node => some node
  | none =>
    if place.isEmpty || d.nodes.any fun n => place.isPrefixOf n.1 then some .directory else none

def put (d : Disk) (path : Text) (node : Node) : Disk :=
  let place := Path.normalized path
  ⟨(place, node) :: d.nodes.filter (·.1 != place)⟩

def above (place : List Text) : List (List Text) := (List.range place.length).map (place.take ·)

/-- A place can be reached if directories stand above it. -/
def reach (d : Disk) (place : List Text) : Except DiskFault Unit :=
  match (above place).findSome? fun outer =>
      match d.node? outer with
      | some .directory => none
      | some (.file _) => some DiskFault.notDirectory
      | none => some DiskFault.notFound with
  | some fault => .error fault
  | none => .ok ()

/-- The path can only name a directory. -/
def namesDirectory (path : Text) : Bool := path.getLast? == some '/'

def lookup (d : Disk) (path : Text) : Except DiskFault Node := do
  let place := Path.normalized path
  if path.isEmpty then .error .notFound
  else
    d.reach place
    match d.node? place with
    | some .directory => return .directory
    | some (.file content) => if namesDirectory path then .error .notDirectory else return .file content
    | none => .error .notFound

def read (d : Disk) (path : Text) : Except DiskFault Content := do
  match ← d.lookup path with
  | .directory => .error .isDirectory
  | .file content => return content

/-- A file can be made or replaced at a path. -/
def writable (d : Disk) (path : Text) : Except DiskFault Unit := do
  if path.isEmpty then .error .notFound
  else
    d.reach (Path.normalized path)
    if namesDirectory path || d.node? (Path.normalized path) == some .directory then .error .isDirectory

def create (d : Disk) (path : Text) (content : Content) : Except DiskFault Disk := do
  d.writable path
  return d.put path (.file content)

end Disk

def Node.size : Node → Nat
  | .directory => 0
  | .file content => content.size

end SheetQuery
