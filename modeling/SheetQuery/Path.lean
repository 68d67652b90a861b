import SheetQuery.Text.Basic

/-!
# Paths

Paths are texts whose components are separated by slashes. The last component is the file name unless
it points to a parent; the part behind its last dot is the extension, and what stands before is the
stem. A name whose only dot comes first has no extension.
-/

namespace SheetQuery.Path

/-- The components of a path; empty ones and those that name the directory itself do not count. -/
def components (path : Text) : List Text :=
  (Text.runs (· != '/') path).filter (· != ['.'])

/-- The last component, unless it points to the parent directory. -/
def fileName? (path : Text) : Option Text :=
  (components path).getLast?.filter (· != ['.', '.'])

/-- The part of a file name before its last dot and the part behind it. -/
def splitName (name : Text) : Text × Option Text :=
  let extension := (name.reverse.takeWhile (· != '.')).reverse
  let stem := name.take (name.length - extension.length - 1)
  if stem.isEmpty then (name, none) else (stem, some extension)

def stem? (path : Text) : Option Text := (fileName? path).map fun name => (splitName name).1

def extension? (path : Text) : Option Text := (fileName? path).bind fun name => (splitName name).2

/-- The components after following the steps to parent directories. -/
def normalized (path : Text) : List Text :=
  let root : List Text := if path.head? = some '/' then [['/']] else []
  root ++ (components path).foldl
    (fun above name => if name = ['.', '.'] then above.dropLast else above ++ [name]) []

end SheetQuery.Path
