import SheetQuery.Proofs.Engine.Mappings
import SheetQuery.Proofs.Engine.Tables
import SheetQuery.Proofs.Session.Atomicity
import SheetQuery.Proofs.Session.Opening
import SheetQuery.Proofs.Sql.Laws.Mappings
import SheetQuery.Proofs.Sql.Laws.Tables

/-!
# A session and its store agree

The mappings of a session are those that its store has kept: now, if a transaction is undone, and when the store is
opened again, as long as nothing but the loads changes the table of header mappings.

* `Semantics.LeavesMappings`: a load that leaves the table of header mappings to the statements for it.
* `Session.Agrees`: all versions of the database keep the mappings of the session.
* `Workspace.Reached`: what loads, commands and opening the store again can come to.
* `Workspace.storedMappings_eq_entries`: in all that is reached, the store has kept the entries of the session.
* `Workspace.SparesTable`: statements on the database of this library that leave the table of header mappings alone.
-/

namespace SheetQuery

variable {C : Type} [Engine C] {σ : Semantics C}

namespace Semantics

/-- The statements that create the table of the plan and fill it leave the table of header mappings as it is. -/
def LeavesMappings (σ : Semantics C) (c : C) (plan : TablePlan) : Prop :=
  ∀ c₁ c₂, Engine.begin c = (c₁, .ok ()) → Filling plan c₁ c₂ → ∀ rows,
    σ.Keeps (σ.now c₁) rows → σ.Keeps (σ.now c₂) rows

/-- From the first connection to the second, the table of header mappings stays as it is, whatever becomes of a
transaction. -/
def Spares (σ : Semantics C) (c c' : C) : Prop :=
  ∀ rows, σ.Throughout (σ.Keeps · rows) c → σ.Throughout (σ.Keeps · rows) c'

/-- Under a word whose table is clear, a load leaves the table of header mappings alone. -/
theorem MakesTables.leavesMappings (hmakes : σ.MakesTables) (hcommits : σ.Commits) {c : C} {table : Text}
    (hword : table.all Identifier.isWordChar) (hclear : σ.Clear (σ.now c) table) (headers : List Text) :
    σ.LeavesMappings c (planTable table headers) := by
  intro c₁ c₂ hbegin hfilling rows hkeeps
  refine hmakes.keeps hword hfilling ?_ hkeeps
  rw [(hcommits.begin_ok hbegin).2.1]
  exact hclear

end Semantics

/-! ### Loads -/

namespace Session

/-- All versions of the database keep the mappings of the session. -/
def Agrees (σ : Semantics C) (s : Session C) : Prop :=
  σ.Throughout (σ.Keeps · (keptRows s.mappings)) s.store.database

variable {s : Session C}

theorem Agrees.storedMappings (hmappings : σ.KeepsMappings) (h : s.Agrees σ) :
    s.store.storedMappings = .ok s.mappings.entries := hmappings.storedMappings h.1

theorem Agrees.loadGrid (hrolls : σ.RollsBack) (hcommits : σ.Commits) (hmappings : σ.KeepsMappings) (h : s.Agrees σ)
    {table : Text} {grid : Grid}
    (hleaves : ∀ headers rows, grid = headers :: rows →
      σ.LeavesMappings s.store.database (planTable table headers)) : (s.loadGrid table grid).state.Agrees σ := by
  cases grid with
  | nil => exact h
  | cons headers rows =>
    unfold Agrees
    rw [loadGrid_store]
    cases hanswer : (s.store.loadTable (planTable table headers) rows).answer with
    | error e =>
      rw [loadGrid_mappings_of_error hanswer]
      exact (hrolls.loadTable hanswer).throughout h
    | ok u =>
      obtain ⟨c₁, c₃, hbegin, hfilled, hcommit, hstate⟩ := Store.loadTable_eq_ok hanswer
      obtain ⟨c₂, hcreate, hreplace, hreplaced⟩ := Store.fillTable_eq_ok hfilled
      have hkeeps : σ.Keeps (σ.now c₁) (keptRows s.mappings) := by
        rw [(hcommits.begin_ok hbegin).2.1]
        exact h.1
      have hkept := hmappings.replaced
        (hleaves headers rows rfl c₁ c₂ hbegin (Store.createTable_eq_ok hcreate).1 _ hkeeps) hreplace
      rw [← hreplaced, replacedRows_keptRows _ (mappings_identifiers table headers), ← (hcommits.commit hcommit).1] at hkept
      rw [hstate, loadGrid_mappings hanswer]
      exact Semantics.throughout_of_saved hkept (hcommits.commit hcommit).2.1

/-- The load of the file leaves the table of header mappings to the statements for it. -/
def FileLeaves (σ : Semantics C) (s : Session C) (disk : Disk) (path : Text) : Prop :=
  ∀ headers rows, readSource s.options disk path = .ok (headers :: rows) →
    σ.LeavesMappings s.store.database (planTable (tableOfPath path) headers)

theorem Agrees.loadFile (hrolls : σ.RollsBack) (hcommits : σ.Commits) (hmappings : σ.KeepsMappings) (h : s.Agrees σ)
    {disk : Disk} {path : Text} (hleaves : s.FileLeaves σ disk path) : (s.loadFile disk path).state.Agrees σ :=
  loadFile_induction h fun _ hread => h.loadGrid hrolls hcommits hmappings fun headers rows hgrid =>
    hleaves headers rows (hread.trans (congrArg _ hgrid))

/-- Each of the loads, one after the other, leaves the table of header mappings to the statements for it. -/
def FilesLeave (σ : Semantics C) (disk : Disk) : Session C → List Text → Prop
  | _, [] => True
  | s, path :: paths => s.FileLeaves σ disk path ∧ FilesLeave σ disk (s.loadFile disk path).state paths

theorem Agrees.query (h : s.Agrees σ) {sql : Text}
    (hspares : σ.Spares s.store.database (s.store.run (s.mappings.substitute sql)).1.database) :
    (s.query sql).state.Agrees σ := by
  rw [query_state]
  exact hspares _ h

end Session

/-! ### Runs -/

namespace Workspace

/-- The session agrees with its store, and the file of the store is there. -/
structure Agrees (σ : Semantics C) (w : Workspace C) : Prop where
  session : w.session.Agrees σ
  file : Store.isFile w.session.store.location →
    ∃ content, w.disk.lookup w.session.store.location = .ok (.file content) ∧ Engine.isDatabase C content

/-- The command leaves the table of header mappings as it is, and the file of the store. -/
def Spares (σ : Semantics C) (w : Workspace C) : Command → Prop
  | .sql statement =>
    σ.Spares w.session.store.database (w.session.store.run (w.session.mappings.substitute statement)).1.database
  | .exportTo path =>
    Store.isFile w.session.store.location → Path.normalized path ≠ Path.normalized w.session.store.location
  | _ => True

/-- What can be reached by loads that leave the table of header mappings to the statements for it, by commands that leave
it as it is, and by opening stores: a new one, or one with the table of header mappings that an earlier session left. -/
inductive Reached (σ : Semantics C) : Workspace C → Prop
  | opened {disk : Disk} {location : Text} {options : LoadOptions} {started : Step (Workspace C) Unit}
      (h : openAt disk location options = .ok started) (hnew : σ.Opens (Store.contentAt disk location) 0) :
      Reached σ started.state
  | reopened {w : Workspace C} (hw : Reached σ w) {disk : Disk} {location : Text} {options : LoadOptions}
      {started : Step (Workspace C) Unit} (h : openAt disk location options = .ok started)
      (hleft : ∀ rows, σ.Keeps (σ.committed w.session.store.database) rows →
        σ.Opens (Store.contentAt disk location) rows) : Reached σ started.state
  | filesChanged {w : Workspace C} (hw : Reached σ w) {disk : Disk}
      (h : disk.lookup w.session.store.location = w.disk.lookup w.session.store.location) :
      Reached σ { w with disk := disk }
  | loadGrid {w : Workspace C} (hw : Reached σ w) {table : Text} {grid : Grid}
      (h : ∀ headers rows, grid = headers :: rows →
        σ.LeavesMappings w.session.store.database (planTable table headers)) :
      Reached σ { w with session := (w.session.loadGrid table grid).state }
  | loadFile {w : Workspace C} (hw : Reached σ w) {path : Text} (h : w.session.FileLeaves σ w.disk path) :
      Reached σ { w with session := (w.session.loadFile w.disk path).state }
  | loadFiles {w : Workspace C} (hw : Reached σ w) {paths : List Text}
      (h : Session.FilesLeave σ w.disk w.session paths) :
      Reached σ { w with session := (w.session.loadFiles w.disk paths).state }
  | execute {w : Workspace C} (hw : Reached σ w) {command : Command} (h : w.Spares σ command) :
      Reached σ (w.execute command).state

variable {w : Workspace C}

theorem Agrees.execute (h : w.Agrees σ) {command : Command} (hc : w.Spares σ command) :
    (w.execute command).state.Agrees σ := by
  rcases w.execute_state command with ⟨statement, rfl, hstate⟩ | ⟨path, content, rfl, hwritable, hstate⟩ | hstate
  · rw [hstate]
    refine ⟨h.session.query hc, ?_⟩
    dsimp only
    rw [Session.query_state, Store.run_location]
    exact h.file
  · -- the result is written elsewhere than to the file of the store
    rw [hstate]
    refine ⟨h.session, fun hfile => ?_⟩
    obtain ⟨kept, hkept, hdatabase⟩ := h.file hfile
    exact ⟨kept, Disk.lookup_put_of_ne hkept hwritable (hc hfile), hdatabase⟩
  · rw [hstate]
    exact h

/-- The file of an open store may be left as it is by changes of its session. -/
private theorem Agrees.withSession (h : w.Agrees σ) {s : Session C} (hs : s.Agrees σ)
    (hlocation : s.store.location = w.session.store.location) : Agrees σ { w with session := s } := by
  refine ⟨hs, ?_⟩
  dsimp only
  rw [hlocation]
  exact h.file

section

variable (hopens : σ.OpensStores) (hmappings : σ.KeepsMappings)

include hopens hmappings

/-- A store is opened in agreement if what its file holds are the rows of mappings. -/
theorem agrees_of_openAt {disk : Disk} {location : Text} {options : LoadOptions} {started : Step (Workspace C) Unit}
    (h : openAt disk location options = .ok started) {m : HeaderMappings}
    (hm : σ.Opens (Store.contentAt disk location) (keptRows m)) :
    started.state.Agrees σ ∧ started.state.session.mappings.entries = m.entries := by
  obtain ⟨hconnect, hlocation, hfile, stored, hstored, hsession, -⟩ := openAt_session h
  obtain ⟨c, c', n, hconnected, hexecute, hstore⟩ := Store.connect_eq_ok hconnect
  obtain ⟨hkeeps, hsaved⟩ := hopens.opened hm hconnected hexecute
  have hdatabase : started.state.session.store.database = c' := by rw [hstore]
  rw [← hdatabase] at hkeeps hsaved
  have hentries : started.state.session.mappings.entries = m.entries := by
    rw [hsession, ← HeaderMappings.entries_extend_empty m]
    rw [hmappings.storedMappings hkeeps] at hstored
    rw [Except.ok.inj hstored]
  refine ⟨⟨?_, ?_⟩, hentries⟩
  · rw [← keptRows_congr hentries] at hkeeps
    exact Semantics.throughout_of_saved hkeeps hsaved
  · rw [hlocation]
    exact fun hf => ⟨_, hfile hf, hopens.isDatabase _⟩

/-- The file of a store has what was committed when the store is closed, and it is opened on that again. -/
theorem Agrees.reopen (hw : w.Agrees σ) (hfile : Store.isFile w.session.store.location) (options : LoadOptions) :
    Store.contentAt w.close w.session.store.location = some (Engine.content w.session.store.database) ∧
      ∃ started : Step (Workspace C) Unit, openAt w.close w.session.store.location options = .ok started ∧
        started.state.Agrees σ ∧ started.state.session.mappings.entries = w.session.mappings.entries := by
  obtain ⟨kept, hkept, hdatabase⟩ := hw.file hfile
  have hput : w.close.lookup w.session.store.location =
      .ok (.file (Engine.content w.session.store.database)) := by
    rw [close, Store.save, if_pos hfile, hkept]
    dsimp only
    rw [if_pos hdatabase]
    exact Disk.lookup_put (Disk.writable_of_lookup hkept)
  have hcontent : Store.contentAt w.close w.session.store.location =
      some (Engine.content w.session.store.database) := by
    rw [Store.contentAt, if_pos hfile, Disk.read_eq_ok.2 hput]
    rfl
  have hcommitted := hw.session.committed
  obtain ⟨c₁, c₂, n, hconnect, hexecute⟩ := hopens.connects hcommitted
  rw [← hcontent] at hconnect
  have hconnected : Store.connect w.session.store.location (Store.contentAt w.close w.session.store.location) =
      .ok ⟨_, c₂⟩ := Store.connect_of_execute hconnect hexecute
  obtain ⟨disk, hstore⟩ := Store.openAt_of_connect (fun _ => Disk.writable_of_lookup hput) hconnected
  have hm := hopens.content hcommitted
  rw [← hcontent] at hm
  have hkeeps := (hopens.opened hm hconnect hexecute).1
  obtain ⟨notes, hstart⟩ := Session.start_of_stored (hmappings.storedMappings
    (s := ⟨w.session.store.location, c₂⟩) hkeeps) options
  have hopen := openAt_of_start hstore hstart
  exact ⟨hcontent, _, hopen, agrees_of_openAt hopens hmappings hopen hm⟩

variable (hrolls : σ.RollsBack) (hcommits : σ.Commits)

include hrolls hcommits

/-- Whatever is reached, the session agrees with its store. -/
theorem Reached.agrees (h : Reached σ w) : w.Agrees σ := by
  induction h with
  | opened h hnew => exact (agrees_of_openAt hopens hmappings h (keptRows_empty ▸ hnew)).1
  | reopened hw h hleft ih =>
    exact (agrees_of_openAt hopens hmappings h (hleft _ ih.session.committed)).1
  | @filesChanged w hw disk h ih =>
    refine ⟨ih.session, fun hfile => ?_⟩
    dsimp only
    rw [h]
    exact ih.file hfile
  | @loadGrid w hw table grid h ih =>
    exact ih.withSession (ih.session.loadGrid hrolls hcommits hmappings h) (Session.loadGrid_location _ _ _)
  | @loadFile w hw path h ih =>
    refine ih.withSession (ih.session.loadFile hrolls hcommits hmappings h) ?_
    exact Session.loadFile_induction (p := fun s => s.store.location = _) rfl fun _ _ =>
      Session.loadGrid_location _ _ _
  | @loadFiles w hw paths h ih =>
    -- by induction on the paths, from any session on the store
    have hall : ∀ (paths : List Text) {s : Session C}, s.Agrees σ →
        s.store.location = w.session.store.location → Session.FilesLeave σ w.disk s paths →
        (s.loadFiles w.disk paths).state.Agrees σ ∧
          (s.loadFiles w.disk paths).state.store.location = w.session.store.location := by
      intro paths
      induction paths with
      | nil => exact fun hs hlocation _ => ⟨hs, hlocation⟩
      | cons path paths ihp =>
        intro s hs hlocation hleave
        rw [Session.state_loadFiles_cons]
        refine ihp (hs.loadFile hrolls hcommits hmappings hleave.1) ?_ hleave.2
        exact Session.loadFile_induction (p := fun s => s.store.location = _) hlocation fun _ _ =>
          (Session.loadGrid_location _ _ _).trans hlocation
    obtain ⟨hs, hlocation⟩ := hall paths ih.session rfl h
    exact ih.withSession hs hlocation
  | execute hw h ih => exact ih.execute h

/-- In all that is reached, what the store has kept are the entries of the session, and a store in a file that is closed
and opened again gives a session with the same entries. -/
theorem storedMappings_eq_entries (h : Reached σ w) :
    w.session.store.storedMappings = .ok w.session.mappings.entries ∧
    (Store.isFile w.session.store.location → ∀ options, ∃ started : Step (Workspace C) Unit,
      openAt w.close w.session.store.location options = .ok started ∧
        started.state.session.mappings.entries = w.session.mappings.entries) := by
  have hagrees := h.agrees hopens hmappings hrolls hcommits
  refine ⟨hagrees.session.storedMappings hmappings, fun hfile options => ?_⟩
  obtain ⟨-, started, hopen, -, hentries⟩ := hagrees.reopen hopens hmappings hfile options
  exact ⟨started, hopen, hentries⟩

end

/-! ### Statements that leave the table of header mappings alone -/

open Sql (Database)

/-- The tables under the name of the table of header mappings stay as they are, and no trigger is put on it.  A transaction
goes back to what was there. -/
structure SparesTable (db db' : Database) : Prop where
  under : ∀ temporary, (db'.catalog.schema temporary).under Store.mappingTableName =
    (db.catalog.schema temporary).under Store.mappingTableName
  quiet : ∀ temporary, (db.catalog.schema temporary).Quiet Store.mappingTableName →
    (db'.catalog.schema temporary).Quiet Store.mappingTableName
  before : ∀ c ∈ db'.before, c = db.catalog ∨ c ∈ db.before

instance (db db' : Database) : Decidable (SparesTable db db') :=
  decidable_of_iff (_ ∧ _ ∧ _) ⟨fun h => ⟨h.1, h.2.1, h.2.2⟩, fun h => ⟨h.under, h.quiet, h.before⟩⟩

theorem SparesTable.spares {db db' : Database} (h : SparesTable db db') : Database.semantics.Spares db db' := by
  rintro rows ⟨hnow, hsaved⟩
  refine ⟨?_, fun c hc => ?_⟩
  · obtain ⟨stored, hholds, hrows⟩ := hnow
    exact ⟨stored, ⟨(h.under false).trans hholds.main, (h.under true).trans hholds.temp,
      fun temporary => h.quiet temporary (hholds.quiet temporary), hholds.valid⟩, hrows⟩
  · rcases h.before c (Option.mem_toList.1 hc) with rfl | hc
    · exact hnow
    · exact hsaved c (Option.mem_toList.2 hc)

/-- A file whose table no trigger is on leaves the table of header mappings to the statements for it. -/
theorem fileLeaves_of_quiet {s : Session Database} {path : Text}
    (h : ∀ temporary, (s.store.database.catalog.schema temporary).Quiet (Session.tableOfPath path)) (disk : Disk) :
    s.FileLeaves Database.semantics disk path := fun headers _ _ =>
  Database.makesTables.leavesMappings Database.commits (word_forTable _) (Database.clear_of_quiet h) headers

theorem reached_inMemory : Reached Database.semantics inMemory := by
  obtain ⟨notes, hopen⟩ := openAt_inMemory
  exact .opened hopen Database.opensStores.new

/-- A new store in a file. -/
private def begun : Workspace Database :=
  ⟨.newAt "s.db".toList, Disk.empty.put "s.db".toList (.file (Engine.content (Store.newAt "s.db".toList).database))⟩

private theorem reached_begun : Reached Database.semantics begun := by
  have hempty : Store.isFile "s.db".toList ∧ Disk.empty.writable "s.db".toList = .ok () ∧
      (Disk.empty.read "s.db".toList).toOption = none := by
    decide
  have hopen : Store.openAt .empty "s.db".toList = .ok (Store.newAt "s.db".toList, begun.disk) := by
    rw [Store.openAt, if_pos hempty.1, hempty.2.1, hempty.2.2, Store.connect_newAt]
    rfl
  obtain ⟨notes, hstart⟩ := Session.start_newAt "s.db".toList
  refine .opened (openAt_of_start hopen hstart) ?_
  rw [Store.contentAt, if_pos hempty.1, hempty.2.2]
  exact Database.opensStores.new

/-- A table with a mapped header is loaded. -/
private def named : Workspace Database :=
  { begun with session := (begun.session.loadGrid ['t'] [["名称".toList], [['x']]]).state }

private def inTransaction : Workspace Database := (named.execute (.sql "BEGIN".toList)).state

private def openStore : Store Database := (named.session.store.run (named.session.mappings.substitute "BEGIN".toList)).1

private theorem inTransaction_eq :
    (∀ temporary, (begun.session.store.database.catalog.schema temporary).Quiet ['t']) ∧
    SparesTable named.session.store.database openStore.database ∧
    inTransaction.session.mappings.entries = [⟨['t'], "名称".toList, "_1".toList⟩] ∧
      inTransaction.session.store.location = "s.db".toList := by
  decide +kernel

private theorem reached_inTransaction : Reached Database.semantics inTransaction := by
  obtain ⟨hclear, hspares, -⟩ := inTransaction_eq
  have hword : List.all ['t'] Identifier.isWordChar := by decide
  have hloaded : Reached Database.semantics named := .loadGrid reached_begun fun headers _ _ =>
    Database.makesTables.leavesMappings Database.commits hword (Database.clear_of_quiet hclear) headers
  exact .execute hloaded hspares.spares

theorem storedMappings_eq_entries_inTransaction :
    Reached Database.semantics inTransaction ∧
      inTransaction.session.store.storedMappings = .ok [⟨['t'], "名称".toList, "_1".toList⟩] ∧
      ∃ started : Step (Workspace Database) Unit, openAt inTransaction.close "s.db".toList .standard = .ok started ∧
        started.state.session.mappings.entries = [⟨['t'], "名称".toList, "_1".toList⟩] := by
  obtain ⟨hstored, hreopened⟩ := storedMappings_eq_entries Database.opensStores Database.keepsMappings
    Database.rollsBack Database.commits reached_inTransaction
  rw [inTransaction_eq.2.2.1] at hstored hreopened
  rw [inTransaction_eq.2.2.2] at hreopened
  exact ⟨reached_inTransaction, hstored, hreopened (by decide) .standard⟩

/-- The mappings of a session, and those that its store keeps. -/
private def bothMappings (s : Session Database) : List Mapping × Except Failure (List Mapping) :=
  (s.mappings.entries, s.store.storedMappings)

/-- What hides the table of header mappings, watches it or takes the place of the store's file parts the two: a table
that is loaded or created under its name among the temporary ones, a trigger on it, and a result that is written to the
file. -/
theorem storedMappings_ne_entries :
    let grid : Grid := [["名称".toList], [['x']]]
    let names := ["table_name", "original", "identifier"].map String.toList
    let loaded := (Session.inMemory.loadGrid ['t'] grid).state
    let hidden := (loaded.loadGrid "temp._csvsql_header_mappings".toList [names]).state
    let shadowed := (loaded.query
      "CREATE TEMP TABLE _csvsql_header_mappings (table_name, original, identifier)".toList).state
    let watched := (Session.inMemory.query
      "CREATE TRIGGER keep BEFORE INSERT ON _csvsql_header_mappings BEGIN SELECT RAISE(IGNORE); END".toList).state
    let shown := (named.execute (.sql "SELECT * FROM t".toList)).state
    let exported := (shown.execute (.exportTo "s.db".toList)).state
    bothMappings hidden = ([⟨['t'], "名称".toList, "_1".toList⟩], .ok []) ∧
      bothMappings shadowed = ([⟨['t'], "名称".toList, "_1".toList⟩], .ok []) ∧
      bothMappings (watched.loadGrid ['t'] grid).state = ([⟨['t'], "名称".toList, "_1".toList⟩], .ok []) ∧
      exported.session.mappings.entries = [⟨['t'], "名称".toList, "_1".toList⟩] ∧
      !(openAt exported.close "s.db".toList .standard : Except Failure (Step (Workspace Database) Unit)).isOk := by
  decide +kernel

end Workspace

end SheetQuery
