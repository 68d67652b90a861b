import SheetQuery.Number.Count
import SheetQuery.Session.Basic
import SheetQuery.Text.Blank

/-!
# Settings

The location of the store, the greatest size of a source and the detail of the journal. They have
defaults; the environment overrides these, and the command line overrides the environment.
-/

namespace SheetQuery

structure Settings where
  location : Text
  maxFileSize : Nat
  verbose : Bool
deriving DecidableEq, Repr

namespace Settings

/-- A store in memory, sources up to the default size, and no details. -/
def default : Settings := ⟨Store.memoryLocation, defaultMaxFileSize, false⟩

def locationVariable : Text := "CSVSQL_DB_PATH".toList

def maxFileSizeVariable : Text := "CSVSQL_MAX_FILE_SIZE".toList

def verboseVariable : Text := "CSVSQL_VERBOSE".toList

def ignoredSize (raw : Text) : Text :=
  "Ignoring ".toList ++ maxFileSizeVariable ++ "='".toList ++ raw ++ "': expected a byte count".toList

def isYes (raw : Text) : Bool :=
  let word := String.ofList (Text.lower (Text.trim raw))
  word == "true" || word == "1"

/-- The settings of an environment, and the messages on values that are ignored. A blank location
counts as none. -/
def ofLookup (lookup : Text → Option Text) : Settings × List Text :=
  let location := ((lookup locationVariable).filter fun p => !(Text.trim p).isEmpty).getD default.location
  let size :=
    match lookup maxFileSizeVariable with
    | none => (default.maxFileSize, [])
    | some raw =>
      match Count.read (Text.trim raw) with
      | .ok n => (n, [])
      | .error _ => (default.maxFileSize, [ignoredSize raw])
  let verbose := ((lookup verboseVariable).map isYes).getD default.verbose
  (⟨location, size.1, verbose⟩, size.2)

end Settings

end SheetQuery
