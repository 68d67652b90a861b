import SheetQuery.Journal
import SheetQuery.Source
import SheetQuery.Store

/-!
# Sessions

A session has a store, the header mappings of its tables, the options for loading, and the last result.
It starts with the header mappings that the store keeps.
-/

namespace SheetQuery

structure LoadOptions where
  delimiter : Option UInt8
  encoding : Encoding
  maxFileSize : Nat
  readers : Readers

/-- A hundred mebibytes. -/
def defaultMaxFileSize : Nat := 104857600

structure Session (C : Type) where
  store : Store C
  mappings : HeaderMappings
  options : LoadOptions
  /-- The result that was shown last. -/
  lastResult : Option Listing

variable {C : Type} [Engine C]

/-- The session begins on a store with the mappings that it keeps. -/
def Session.start (store : Store C) (options : LoadOptions) : Except Failure (Step (Session C) Unit) :=
  match store.storedMappings with
  | .error e => .error (e.within ("Reading stored header mappings from ".toList ++ store.location))
  | .ok stored =>
    let session : Session C := ⟨store, HeaderMappings.empty.extend stored, options, none⟩
    if stored.isEmpty then .ok (.pure session ())
    else
      .ok (.note session .info .session ("Restored ".toList ++ Text.decimal stored.length ++
        " header mapping(s) from ".toList ++ store.location))

structure Workspace (C : Type) where
  session : Session C
  disk : Disk

/-- A store is opened and a session begins on it. -/
def Workspace.openAt (disk : Disk) (location : Text) (options : LoadOptions) :
    Except Failure (Step (Workspace C) Unit) := do
  let (store, disk) ← Store.openAt disk location
  let started ← Session.start store options
  return started.onState fun session => ⟨session, disk⟩

def Workspace.close (w : Workspace C) : Disk := w.session.store.save w.disk

end SheetQuery
