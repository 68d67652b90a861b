import SheetQuery.Proofs.Session.Opening
import SheetQuery.Proofs.Sql.Semantics
import SheetQuery.Readers

/-!
# New stores

A new store of the database of this library, and the session that begins on it.

* `Store.newAt`, `Session.newAt`: at any location; `Store.keeps_newAt`, `Store.connect_newAt`, `Session.start_newAt`.
* `Session.inMemory`, `Workspace.inMemory`: in memory.
-/

namespace SheetQuery

open Sql (Database)

/-- The options of a program that is told nothing else. -/
def LoadOptions.standard : LoadOptions := ⟨none, .utf8, defaultMaxFileSize, .standard⟩

def Store.newAt (location : Text) : Store Database := ⟨location, Database.ofSchema ⟨[mappingTable], []⟩⟩

theorem Store.keeps_newAt (location : Text) :
    Database.semantics.Keeps (Database.semantics.now (newAt location).database) 0 := by
  refine ⟨[], ⟨rfl, rfl, fun temporary => ?_, .empty⟩, rfl⟩
  cases temporary with
  | false => exact fun _ hd => nomatch hd
  | true => exact fun _ hd => nomatch hd

theorem Sql.Database.sound_none : Database.semantics.Sound none := by
  rintro tables ⟨⟩
  exact ⟨.nil, fun _ ht => nomatch ht⟩

/-- The session that begins on a new store. -/
def Session.newAt (location : Text) : Session Database := ⟨.newAt location, .empty, .standard, none⟩

def Session.inMemory : Session Database := .newAt Store.memoryLocation

/-- A session in memory without any files. -/
def Workspace.inMemory : Workspace Database := ⟨.inMemory, .empty⟩

theorem Store.connect_newAt (location : Text) : connect location none = .ok (newAt location) := by
  have hcreated : Engine.execute (Database.ofSchema .empty) mappingTableSql [] =
      (Database.ofSchema ⟨[mappingTable], []⟩, .ok 0) := by
    decide +kernel
  exact connect_of_execute rfl hcreated

theorem Session.start_newAt (location : Text) :
    ∃ notes, start (.newAt location) .standard = .ok ⟨newAt location, (), notes⟩ := by
  have hstored : (Store.newAt Store.memoryLocation).storedMappings = .ok [] := by decide +kernel
  -- the mappings are read from the database alone
  exact start_of_stored (show (Store.newAt location).storedMappings = .ok [] from hstored) .standard

theorem Workspace.openAt_inMemory :
    ∃ notes, openAt .empty Store.memoryLocation .standard = .ok ⟨inMemory, (), notes⟩ := by
  obtain ⟨notes, hstart⟩ := Session.start_newAt Store.memoryLocation
  have hopen : Store.openAt .empty Store.memoryLocation = .ok (Store.newAt Store.memoryLocation, .empty) := by
    have hfile : Store.isFile Store.memoryLocation = false := rfl
    rw [Store.openAt, hfile, Store.connect_newAt]
    rfl
  exact ⟨notes, openAt_of_start hopen hstart⟩

end SheetQuery
