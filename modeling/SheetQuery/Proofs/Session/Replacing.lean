import SheetQuery.Proofs.Mapping.Entries
import SheetQuery.Proofs.Plan
import SheetQuery.Proofs.Session.Agreement

/-!
# A load replaces the mappings of one table

Behind a load that succeeds the mappings of its table are those of the headers that it was loaded with, whatever was
kept for the table's name before, and those of all other tables are as they were.  The store keeps the same.

* `mem_entries_adopted`: what adopting a plan makes of the entries of a session.
* `Workspace.Loads`: a load of a grid or a file; `Loads.eq_loadGrid` reads the second as the first.
* `Workspace.load_replaces`: both copies of the mappings behind a load.
-/

namespace SheetQuery

variable {C : Type} [Engine C] {σ : Semantics C}

namespace Session

/-! ### What a plan makes of the mappings -/

section

variable (m : HeaderMappings) (table : Text) (headers : List Text)

theorem resolve_adopted (label : Text) :
    (adoptMappings m (planTable table headers)).resolve table label =
      ((planTable table headers).mappings.reverse.find? (·.label == label)).map (·.identifier) := by
  refine HeaderMappings.resolve_extend (fun e he => table_of_mem_mappings he) (mappings_identifiers table headers)
    (fun label => ?_) label
  rw [HeaderMappings.resolve_removeTable]
  exact if_pos rfl

/-- The mappings of the table are those of its headers alone. -/
theorem resolve_adopted_eq : (adoptMappings m (planTable table headers)).resolve table =
    (HeaderMappings.extend .empty (planTable table headers).mappings).resolve table := by
  funext label
  rw [resolve_adopted]
  exact (HeaderMappings.resolve_extend (fun e he => table_of_mem_mappings he) (mappings_identifiers table headers)
    (fun _ => rfl) label).symm

theorem resolve_adopted_of_ne {other : Text} (h : other ≠ table) (label : Text) :
    (adoptMappings m (planTable table headers)).resolve other label = m.resolve other label := by
  rw [adoptMappings, HeaderMappings.resolve_extend_of_ne, HeaderMappings.resolve_removeTable]
  · exact if_neg h
  · intro e he hsame
    exact h (hsame.symm.trans (table_of_mem_mappings he))

/-- The entries of the table are those of the headers that are kept, and no other entry changes. -/
theorem mem_entries_adopted {e : Mapping} :
    e ∈ (adoptMappings m (planTable table headers)).entries ↔
      (e.table = table ∧ ∃ k, KeptAt headers k e.label ∧ e.identifier = Identifier.forPosition (k + 1)) ∨
        e.table ≠ table ∧ e ∈ m.entries := by
  by_cases htable : e.table = table
  · have hkept : e ∈ (adoptMappings m (planTable table headers)).entries ↔
        ∃ k, KeptAt headers k e.label ∧ e.identifier = Identifier.forPosition (k + 1) := by
      rw [HeaderMappings.mem_entries, htable, resolve_adopted]
      exact keptAt_iff
    rw [hkept]
    constructor
    · intro h
      exact .inl ⟨htable, h⟩
    · rintro (⟨-, h⟩ | ⟨hne, -⟩)
      · exact h
      · exact absurd htable hne
  · rw [HeaderMappings.mem_entries, resolve_adopted_of_ne m table headers htable, ← HeaderMappings.mem_entries]
    constructor
    · intro h
      exact .inr ⟨htable, h⟩
    · rintro (⟨h, -⟩ | ⟨-, h⟩)
      · exact absurd h htable
      · exact h

end

/-! ### What a load answers -/

variable {s : Session C} {table : Text} {headers : List Text} {rows : List (List Text)} {summary : LoadSummary}

theorem loadGrid_eq_ok (h : (s.loadGrid table (headers :: rows)).answer = .ok summary) :
    (s.store.loadTable (planTable table headers) rows).answer = .ok () ∧
      summary = ⟨table, rows.length, headers.countP Text.hasHan⟩ := by
  have hloaded := loadTable_of_loadGrid h
  refine ⟨hloaded, ?_⟩
  rw [loadGrid_answer, hloaded] at h
  exact length_mappings table headers ▸ (Except.ok.inj h).symm

end Session

namespace Workspace

/-- The step is a load of the table with these headers and rows: of a grid, or of a file that has them. -/
def Loads (w : Workspace C) (table : Text) (headers : List Text) (rows : List (List Text))
    (loaded : Step (Session C) (Except LoadError LoadSummary)) : Prop :=
  loaded = w.session.loadGrid table (headers :: rows) ∨
    ∃ path, loaded = w.session.loadFile w.disk path ∧ table = Session.tableOfPath path ∧
      Session.readSource w.session.options w.disk path = .ok (headers :: rows)

variable {w : Workspace C} {table : Text} {headers : List Text} {rows : List (List Text)}
  {loaded : Step (Session C) (Except LoadError LoadSummary)}

/-- A file is loaded as its grid is. -/
theorem Loads.eq_loadGrid (h : w.Loads table headers rows loaded) :
    loaded.state = (w.session.loadGrid table (headers :: rows)).state ∧
      loaded.answer = (w.session.loadGrid table (headers :: rows)).answer := by
  rcases h with rfl | ⟨path, rfl, rfl, hread⟩
  · exact ⟨rfl, rfl⟩
  · exact Session.loadFile_of_read hread

/-- A load that succeeds replaces the mappings of its table, both in the session and in the store: of each header with
Han characters, the last position is kept.  The mappings of all other tables are unchanged, and the answer counts the
headers with Han characters, repeated ones too. -/
theorem load_replaces (hopens : σ.OpensStores) (hmappings : σ.KeepsMappings) (hrolls : σ.RollsBack)
    (hcommits : σ.Commits) (hw : Reached σ w) (hload : w.Loads table headers rows loaded)
    (hleaves : σ.LeavesMappings w.session.store.database (planTable table headers)) {summary : LoadSummary}
    (hok : loaded.answer = .ok summary) :
    summary = ⟨table, rows.length, headers.countP Text.hasHan⟩ ∧
    ∃ before after, w.session.mappings.entries = before ∧ w.session.store.storedMappings = .ok before ∧
      loaded.state.mappings.entries = after ∧ loaded.state.store.storedMappings = .ok after ∧
      ∀ e, e ∈ after ↔
        (e.table = table ∧ ∃ k, KeptAt headers k e.label ∧ e.identifier = Identifier.forPosition (k + 1)) ∨
          e.table ≠ table ∧ e ∈ before := by
  obtain ⟨hstate, hanswer⟩ := hload.eq_loadGrid
  obtain ⟨hloaded, hsummary⟩ := Session.loadGrid_eq_ok (hanswer.symm.trans hok)
  have hbefore := (hw.agrees hopens hmappings hrolls hcommits).session
  have hafter : loaded.state.Agrees σ := by
    rw [hstate]
    refine hbefore.loadGrid hrolls hcommits hmappings fun headers' rows' hgrid => ?_
    obtain ⟨rfl, -⟩ := List.cons.inj hgrid
    exact hleaves
  refine ⟨hsummary, _, _, rfl, hbefore.storedMappings hmappings, rfl, hafter.storedMappings hmappings, fun e => ?_⟩
  rw [hstate, Session.loadGrid_mappings hloaded]
  exact Session.mem_entries_adopted w.session.mappings table headers

open Sql (Database)

/-- A table is loaded, with a header that comes again. -/
private def repeatedTable : Workspace Database :=
  { inMemory with session := (inMemory.session.loadGrid ['t'] [["名".toList, "名".toList]]).state }

private def droppedTable : Workspace Database := (repeatedTable.execute (.sql "DROP TABLE t".toList)).state

private def loadAgain : Step (Session Database) (Except LoadError LoadSummary) :=
  droppedTable.session.loadGrid ['t'] [["数".toList, ['n']], [['x'], ['y']]]

private theorem droppedTable_eq :
    ((∀ temporary, (inMemory.session.store.database.catalog.schema temporary).Quiet ['t']) ∧
      SparesTable repeatedTable.session.store.database
        (repeatedTable.session.store.run (repeatedTable.session.mappings.substitute "DROP TABLE t".toList)).1.database ∧
      ∀ temporary, (droppedTable.session.store.database.catalog.schema temporary).Quiet ['t']) ∧
    droppedTable.session.mappings.entries = [⟨['t'], "名".toList, "_2".toList⟩] ∧
      loadAgain.answer = .ok ⟨['t'], 1, 1⟩ ∧ loadAgain.state.mappings.entries = [⟨['t'], "数".toList, "_1".toList⟩] := by
  decide +kernel

/-- What was kept for the table that was dropped is gone when its name is loaded again. -/
theorem load_replaces_dropped :
    Reached Database.semantics droppedTable ∧
      droppedTable.session.store.storedMappings = .ok [⟨['t'], "名".toList, "_2".toList⟩] ∧
      loadAgain.answer = .ok ⟨['t'], 1, 1⟩ ∧
      loadAgain.state.store.storedMappings = .ok [⟨['t'], "数".toList, "_1".toList⟩] := by
  obtain ⟨⟨hclear, hspares, hclear'⟩, hentries, hanswer, hentries'⟩ := droppedTable_eq
  have hword : List.all ['t'] Identifier.isWordChar := by decide
  have hloaded : Reached Database.semantics repeatedTable := .loadGrid reached_inMemory fun headers _ _ =>
    Database.makesTables.leavesMappings Database.commits hword (Database.clear_of_quiet hclear) headers
  have hreached : Reached Database.semantics droppedTable := .execute hloaded hspares.spares
  have hload : droppedTable.Loads ['t'] ["数".toList, ['n']] [[['x'], ['y']]] loadAgain := .inl rfl
  have hleaves := Database.makesTables.leavesMappings Database.commits hword (Database.clear_of_quiet hclear')
    ["数".toList, ['n']]
  obtain ⟨-, before, after, hbefore, hstored, hafter, hstored', -⟩ := load_replaces Database.opensStores
    Database.keepsMappings Database.rollsBack Database.commits hreached hload hleaves hanswer
  rw [← hbefore, hentries] at hstored
  rw [← hafter, hentries'] at hstored'
  exact ⟨hreached, hstored, hanswer, hstored'⟩

/-- A load under the name of the table of header mappings, among the temporary ones, hides it: what the store has
kept for another table is out of sight. -/
theorem load_replaces_hidden :
    let loaded := (inMemory.session.loadGrid ['t'] [["名".toList]]).state
    let covering := loaded.loadGrid "temp._csvsql_header_mappings".toList
      [["table_name".toList, "original".toList, "identifier".toList]]
    loaded.store.storedMappings = .ok [⟨['t'], "名".toList, "_1".toList⟩] ∧
      covering.answer = .ok ⟨"temp._csvsql_header_mappings".toList, 0, 0⟩ ∧ covering.state.store.storedMappings = .ok [] := by
  decide +kernel

end Workspace

end SheetQuery
