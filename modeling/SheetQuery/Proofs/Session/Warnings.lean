import SheetQuery.Proofs.Mapping.Ambiguities
import SheetQuery.Proofs.Session.Footprint
import SheetQuery.Proofs.Session.Replacing
import SheetQuery.Proofs.Sql.InMemory
import SheetQuery.Proofs.Sql.Laws.Tables

/-!
# Warnings about ambiguities

A load warns about the ambiguities that its own table takes part in.  That is enough: as long as no table is taken away,
a table that has mappings is not loaded again, so a load only adds entries of a new table, and an ambiguity that is not
new was there before.

* `Ambiguity.Warning`, `Ambiguity.Concerns`: how an ambiguity is warned of, and which tables it is about.
* `warnings_loadGrid`, `warnings_loadFile`: the warnings of a load.
* `Attempted`: what attempts to load and statements in between can come to, with the notes of each attempt.
* `ambiguities_warned`: every ambiguity has been warned of.
-/

namespace SheetQuery

/-! ### Warnings -/

namespace Ambiguity

/-- The warning about an ambiguity, word for word. -/
inductive Warning : Ambiguity → Note → Prop
  | sharedLabel (label : Text) (tables : List Text) : Warning (.sharedLabel label tables)
      ⟨.warn, .load, "Ambiguous header mapping: label '".toList ++ label ++
        "' is mapped differently in tables ".toList ++ Text.joinWith ", ".toList tables⟩
  | nested (shorter longer : MappedLabel) : Warning (.nested shorter longer)
      ⟨.warn, .load, "Ambiguous header mapping: label '".toList ++ shorter.label ++ "' (".toList ++ shorter.table ++
        ") is contained in label '".toList ++ longer.label ++ "' (".toList ++ longer.table ++ ")".toList⟩

/-- The ambiguity is about a header of the table. -/
def Concerns (table : Text) : Ambiguity → Prop
  | sharedLabel _ tables => table ∈ tables
  | nested shorter longer => shorter.table = table ∨ longer.table = table

theorem involves_iff {table : Text} {a : Ambiguity} : a.involves table ↔ a.Concerns table := by
  cases a with
  | sharedLabel label tables => simp [involves, Concerns]
  | nested shorter longer => simp [involves, Concerns]

instance (table : Text) : DecidablePred (Concerns table) := fun a => decidable_of_iff (a.involves table) involves_iff

/-- The note about an ambiguity is its warning. -/
theorem warning_note (a : Ambiguity) : a.Warning ⟨.warn, .load, "Ambiguous header mapping: ".toList ++ a.text⟩ := by
  cases a with
  | sharedLabel label tables => exact .sharedLabel label tables
  | nested shorter longer => exact .nested shorter longer

end Ambiguity

def warnings (notes : List Note) : List Note := notes.filter (·.level = .warn)

theorem warnings_append (notes more : List Note) : warnings (notes ++ more) = warnings notes ++ warnings more :=
  List.filter_append ..

/-! ### What has been warned of -/

variable {C : Type} {σ : Semantics C}

namespace Session

/-- The text names a table that is there, now and if a transaction is undone. -/
def Takes (σ : Semantics C) (s : Session C) (table : Text) : Prop := σ.Throughout (σ.Taken · table) s.store.database

/-- The tables with mappings are there, and each ambiguity has been warned of. -/
structure Warned (σ : Semantics C) (s : Session C) (logs : List (List Note)) : Prop where
  taken : ∀ table ∈ s.mappings.tables, s.Takes σ table
  warned : ∀ a ∈ s.mappings.ambiguities, ∃ notes ∈ logs, ∃ note ∈ notes, a.Warning note

/-- An attempt that fails changes neither tables nor mappings. -/
private theorem Warned.failed {s s' : Session C} {logs : List (List Note)}
    (hs : s.Warned σ logs) (h : σ.Same s.store.database s'.store.database ∧ s'.mappings = s.mappings)
    (notes : List Note) :
    s'.Warned σ (logs ++ [notes]) := by
  obtain ⟨hsame, hmappings⟩ := h
  constructor
  · intro table htable
    rw [hmappings] at htable
    exact hsame.throughout (hs.taken table htable)
  · rw [hmappings]
    intro a ha
    obtain ⟨notes', hnotes', hwarned⟩ := hs.warned a ha
    exact ⟨notes', List.mem_append_left _ hnotes', hwarned⟩

end Session

/-! ### The warnings of a load -/

variable [Engine C]

namespace Store

theorem warnings_replaceMappings (c : C) (plan : TablePlan) : warnings (replaceMappings c plan).notes = [] := by
  unfold replaceMappings
  rcases Engine.execute c dropMappingsSql [.text plan.table] with ⟨c', e | (_ | k)⟩
  · rfl
  · dsimp only
    split <;> rfl
  · dsimp only
    split <;> rfl

theorem warnings_fillTable (c : C) (plan : TablePlan) (rows : List (List Text)) :
    warnings (fillTable c plan rows).notes = [] := by
  have hcreating : warnings [⟨.debug, .store, plan.createSql⟩] = [] := rfl
  unfold fillTable
  split
  · exact hcreating
  · exact (warnings_append _ _).trans (by rw [hcreating, warnings_replaceMappings, List.append_nil])

theorem warnings_loadTable (s : Store C) (plan : TablePlan) (rows : List (List Text)) :
    warnings (s.loadTable plan rows).notes = [] := by
  unfold loadTable
  split
  · rfl
  · rename_i c hbegin
    have hfilled := warnings_fillTable c plan rows
    dsimp only
    split
    · exact hfilled
    · split
      · exact hfilled
      · exact hfilled

end Store

namespace Session

variable {s : Session C} {disk : Disk} {path : Text}

/-- The ambiguities that a load of the table has to warn of: those behind it that are about the table, and none if it
fails. -/
def owed (table : Text) (loaded : Step (Session C) (Except LoadError LoadSummary)) : List Ambiguity :=
  match loaded.answer with
  | .ok _ => loaded.state.mappings.ambiguities.filter fun a => a.Concerns table
  | .error _ => []

/-- The notes about ambiguities are their warnings, and nothing but warnings. -/
private theorem warnings_ambiguityNotes (m : HeaderMappings) (table : Text) :
    List.Forall₂ Ambiguity.Warning (m.ambiguities.filter fun a => a.Concerns table)
      (warnings (ambiguityNotes m table)) := by
  have hfilter : m.ambiguities.filter (·.involves table) = m.ambiguities.filter fun a => a.Concerns table :=
    List.filter_congr fun a _ => Bool.eq_iff_iff.2 (by rw [Ambiguity.involves_iff, decide_eq_true_iff])
  have hwarn : warnings (ambiguityNotes m table) = ambiguityNotes m table := by
    refine List.filter_eq_self.2 fun note hnote => ?_
    obtain ⟨a, -, rfl⟩ := List.mem_map.1 hnote
    rfl
  rw [hwarn, ambiguityNotes, hfilter, List.forall₂_map_right_iff, List.forall₂_same]
  exact fun a _ => a.warning_note

/-- A load warns of what it has to warn of, in order, and of nothing else. -/
theorem warnings_loadGrid (s : Session C) (table : Text) (grid : Grid) :
    List.Forall₂ Ambiguity.Warning (owed table (s.loadGrid table grid)) (warnings (s.loadGrid table grid).notes) := by
  have hstale : ∀ m : HeaderMappings, warnings (staleNotes m table) = [] := by
    intro m
    unfold staleNotes
    split <;> rfl
  cases grid with
  | nil => exact .nil
  | cons headers rows =>
    have hload := s.store.warnings_loadTable (planTable table headers) rows
    have hplan : List.Forall₂ Ambiguity.Warning (owed table (s.loadPlan (planTable table headers) rows))
        (warnings (s.loadPlan (planTable table headers) rows).notes) := by
      unfold loadPlan owed
      dsimp only
      cases hanswer : (s.store.loadTable (planTable table headers) rows).answer with
      | error e =>
        dsimp only
        rw [hload]
        exact .nil
      | ok u =>
        dsimp only
        rw [warnings_append, warnings_append, hload, show (planTable table headers).table = table from rfl, hstale]
        exact warnings_ambiguityNotes _ table
    exact (warnings_append _ _).symm ▸ hplan

theorem warnings_loadFile (s : Session C) (disk : Disk) (path : Text) :
    List.Forall₂ Ambiguity.Warning (owed (tableOfPath path) (s.loadFile disk path))
      (warnings (s.loadFile disk path).notes) := by
  unfold loadFile
  split
  · exact .nil
  · rename_i grid _
    have hgrid := s.warnings_loadGrid (tableOfPath path) grid
    dsimp only
    split
    · exact hgrid
    · rename_i summary hanswer
      rw [warnings_append]
      exact (List.append_nil _).symm ▸ hgrid

/-! ### A table is loaded once -/

/-- What attempts to load can come to on a new store, with statements in between that take away no table that has
mappings.  The notes of each attempt are kept. -/
inductive Attempted (σ : Semantics C) : Session C → List (List Note) → Prop
  | start {location : Text} {store : Store C} (hstore : Store.connect location none = .ok store) {options : LoadOptions}
      {started : Step (Session C) Unit} (h : start store options = .ok started) : Attempted σ started.state []
  | loadGrid {s : Session C} {logs : List (List Note)} (hs : Attempted σ s logs) (table : Text) (grid : Grid) :
      Attempted σ (s.loadGrid table grid).state (logs ++ [(s.loadGrid table grid).notes])
  | loadFile {s : Session C} {logs : List (List Note)} (hs : Attempted σ s logs) (disk : Disk) (path : Text) :
      Attempted σ (s.loadFile disk path).state (logs ++ [(s.loadFile disk path).notes])
  | query {s : Session C} {logs : List (List Note)} (hs : Attempted σ s logs) {sql : Text}
      (h : ∀ table ∈ s.mappings.tables, s.Takes σ table → (s.query sql).state.Takes σ table) :
      Attempted σ (s.query sql).state logs

variable {logs : List (List Note)}

/-- A run of loads is one attempt after the other, and its notes have those of each attempt. -/
theorem Attempted.loadFiles (hs : s.Attempted σ logs) (disk : Disk) (paths : List Text) :
    ∃ more, (s.loadFiles disk paths).state.Attempted σ (logs ++ more) ∧
      ∀ notes ∈ more, notes.Sublist (s.loadFiles disk paths).notes := by
  induction paths generalizing s logs with
  | nil => exact ⟨[], by rwa [List.append_nil], fun _ hnotes => nomatch hnotes⟩
  | cons path paths ih =>
    obtain ⟨more, hrest, hmore⟩ := ih (hs.loadFile disk path)
    rw [List.append_assoc] at hrest
    have hlog : ∃ between, (s.loadFiles disk (path :: paths)).notes =
        (s.loadFile disk path).notes ++ (between ++ ((s.loadFile disk path).state.loadFiles disk paths).notes) := by
      rw [Session.loadFiles, Step.bind]
      dsimp only
      split
      · exact ⟨[], rfl⟩
      · exact ⟨_, rfl⟩
    obtain ⟨between, hlog⟩ := hlog
    refine ⟨_, state_loadFiles_cons s disk path paths ▸ hrest, fun notes hnotes => ?_⟩
    rw [hlog]
    rcases List.mem_append.1 hnotes with hnotes | hnotes
    · rw [List.mem_singleton.1 hnotes]
      exact List.sublist_append_left ..
    · refine (hmore notes hnotes).trans ?_
      exact (List.sublist_append_right ..).trans (List.sublist_append_right ..)

/-! ### One attempt -/

/-- Without the entries of a new table the entries are those of before. -/
private theorem filter_entries_adopted {m : HeaderMappings} {table : Text} (hnew : table ∉ m.tables) (headers : List Text) :
    (adoptMappings m (planTable table headers)).entries.filter (·.table != table) = m.entries := by
  have hremoved : (m.removeTable table).entries = m.entries := by
    refine HeaderMappings.entries_congr fun e => ?_
    rw [HeaderMappings.mem_entries_removeTable, and_iff_left_iff_imp]
    rintro he rfl
    exact hnew (HeaderMappings.mem_tables.2 ⟨e, he, rfl⟩)
  have hnone : table ∉ (m.removeTable table).tables := by
    intro htable
    obtain ⟨e, he, rfl⟩ := HeaderMappings.mem_tables.1 htable
    exact (HeaderMappings.mem_entries_removeTable.1 he).2 rfl
  rw [← hremoved]
  exact HeaderMappings.filter_entries_extend hnone fun e he => table_of_mem_mappings he

section

variable (hcommits : σ.Commits) (htakes : σ.TakesNames)

include hcommits htakes

/-- A load that succeeds is one of a new table, which is there from then on. -/
private theorem Warned.new (hs : s.Warned σ logs) {table : Text} {headers : List Text} {rows : List (List Text)}
    (hloaded : (s.store.loadTable (planTable table headers) rows).answer = .ok ()) :
    table ∉ s.mappings.tables ∧
      σ.Throughout (σ.Taken · table) (s.store.loadTable (planTable table headers) rows).state.database := by
  obtain ⟨⟨-, hsaved⟩, -, c, hnow, hfilled, -⟩ := Store.loadTable_committed hcommits hloaded
  constructor
  · intro htable
    obtain ⟨c₁, hcreated, -, -⟩ := Store.fillTable_eq_ok hfilled
    obtain ⟨c₂, n, names, hcreate, hprepare⟩ := Store.createTable_accepted hcreated
    have hthere := (hs.taken table htable).1
    rw [← hnow] at hthere
    exact htakes.free hcreate hprepare hthere
  · exact Semantics.throughout_of_saved (Store.loadTable_made hcommits hloaded (p := fun v => σ.Taken v table)
      (fun _ hcreate hprepare => htakes.created hcreate hprepare) fun hsql _ _ _ _ hexecute => htakes.kept hsql hexecute)
      hsaved

/-- An attempt that succeeds warns of what is new. -/
private theorem Warned.succeeded (hs : s.Warned σ logs) {table : Text} {headers : List Text} {rows : List (List Text)}
    (hloaded : (s.store.loadTable (planTable table headers) rows).answer = .ok ())
    {loaded : Step (Session C) (Except LoadError LoadSummary)} {summary : LoadSummary}
    (hanswer : loaded.answer = .ok summary)
    (hstore : loaded.state.store = (s.store.loadTable (planTable table headers) rows).state)
    (hmappings : loaded.state.mappings = adoptMappings s.mappings (planTable table headers))
    (hwarnings : List.Forall₂ Ambiguity.Warning (owed table loaded) (warnings loaded.notes)) :
    loaded.state.Warned σ (logs ++ [loaded.notes]) := by
  obtain ⟨hnew, htaken⟩ := hs.new hcommits htakes hloaded
  rw [owed, hanswer] at hwarnings
  constructor
  · intro other hother
    rw [hmappings] at hother
    unfold Takes
    rw [hstore]
    obtain ⟨e, he, rfl⟩ := HeaderMappings.mem_tables.1 hother
    rcases (mem_entries_adopted s.mappings table headers).1 he with ⟨htable, -⟩ | ⟨-, he⟩
    · rwa [htable]
    · have hthere := hs.taken e.table (HeaderMappings.mem_tables.2 ⟨e, he, rfl⟩)
      exact Semantics.throughout_of_saved (Store.loadTable_kept hcommits hloaded (p := fun v => σ.Taken v e.table)
        (fun hsql _ _ _ _ hexecute => htakes.kept hsql hexecute) hthere.1)
        (Store.loadTable_committed hcommits hloaded).1.2
  · intro a ha
    by_cases hconcerns : a.Concerns table
    · refine ⟨loaded.notes, by simp, ?_⟩
      have howed : a ∈ loaded.state.mappings.ambiguities.filter fun a => a.Concerns table :=
        List.mem_filter.2 ⟨ha, decide_eq_true hconcerns⟩
      obtain ⟨k, hk, rfl⟩ := List.getElem_of_mem howed
      have hnote := List.getElem_mem (hwarnings.length_eq ▸ hk)
      exact ⟨_, (List.mem_filter.1 hnote).1, (List.forall₂_iff_get.1 hwarnings).2 k hk (hwarnings.length_eq ▸ hk)⟩
    · -- the ambiguity was there before, and so was its warning
      rw [hmappings] at ha
      have hbefore := HeaderMappings.mem_ambiguities_of_not_involves (filter_entries_adopted hnew headers) ha
        (Bool.eq_false_iff.2 fun hinvolves => hconcerns (Ambiguity.involves_iff.1 hinvolves))
      obtain ⟨notes, hnotes, hwarned⟩ := hs.warned a hbefore
      exact ⟨notes, List.mem_append_left _ hnotes, hwarned⟩

end

section

variable (hrolls : σ.RollsBack) (hcommits : σ.Commits) (htakes : σ.TakesNames)

include hrolls hcommits htakes

theorem Warned.loadGrid (hs : s.Warned σ logs) (table : Text) (grid : Grid) :
    (s.loadGrid table grid).state.Warned σ (logs ++ [(s.loadGrid table grid).notes]) := by
  cases hanswer : (s.loadGrid table grid).answer with
  | error e => exact hs.failed (loadGrid_failed hrolls hanswer) _
  | ok summary =>
    cases grid with
    | nil => cases hanswer
    | cons headers rows =>
      have hloaded := loadTable_of_loadGrid hanswer
      exact hs.succeeded hcommits htakes hloaded hanswer (loadGrid_store s table headers rows) (loadGrid_mappings hloaded)
        (s.warnings_loadGrid table (headers :: rows))

theorem Warned.loadFile (hs : s.Warned σ logs) (disk : Disk) (path : Text) :
    (s.loadFile disk path).state.Warned σ (logs ++ [(s.loadFile disk path).notes]) := by
  cases hanswer : (s.loadFile disk path).answer with
  | error e => exact hs.failed (loadFile_failed hrolls hanswer) _
  | ok summary =>
    obtain ⟨headers, rows, -, hloaded, hstore, hmappings⟩ := loadFile_loaded hanswer
    exact hs.succeeded hcommits htakes hloaded hanswer hstore hmappings (s.warnings_loadFile disk path)

/-! ### All attempts -/

variable (hopens : σ.OpensStores) (hmappings : σ.KeepsMappings)

include hopens hmappings

theorem Attempted.warned (h : s.Attempted σ logs) : s.Warned σ logs := by
  induction h with
  | @start location store hstore options started h =>
    -- a new store has no mappings
    obtain ⟨c, c', n, hconnect, hexecute, rfl⟩ := Store.connect_eq_ok hstore
    obtain ⟨stored, notes, hstored, rfl⟩ := start_eq_ok h
    have hkeeps := (hopens.opened hopens.new hconnect hexecute).1
    rw [← keptRows_empty] at hkeeps
    rw [hmappings.storedMappings (s := ⟨location, c'⟩) hkeeps] at hstored
    obtain rfl := Except.ok.inj hstored
    refine ⟨fun table htable => ?_, fun a ha => ?_⟩
    · obtain ⟨e, he, -⟩ := HeaderMappings.mem_tables.1 htable
      cases he
    · rw [HeaderMappings.ambiguities_eq_nil rfl] at ha
      cases ha
  | loadGrid _ table grid ih => exact ih.loadGrid hrolls hcommits htakes table grid
  | loadFile _ disk path ih => exact ih.loadFile hrolls hcommits htakes disk path
  | @query s logs hs sql h ih =>
    have hsame : (s.query sql).state.mappings = s.mappings := by rw [query_state]
    refine ⟨fun table htable => ?_, ?_⟩
    · rw [hsame] at htable
      exact h table htable (ih.taken table htable)
    · rw [hsame]
      exact ih.warned

/-- Every ambiguity has been warned of by one of the attempts.  The next attempt warns of those that its table takes
part in, and of nothing if it fails. -/
theorem ambiguities_warned (h : s.Attempted σ logs) :
    (∀ a ∈ s.mappings.ambiguities, ∃ notes ∈ logs, ∃ note ∈ notes, a.Warning note) ∧
    (∀ table grid, List.Forall₂ Ambiguity.Warning (owed table (s.loadGrid table grid))
      (warnings (s.loadGrid table grid).notes)) ∧
    ∀ disk path, List.Forall₂ Ambiguity.Warning (owed (tableOfPath path) (s.loadFile disk path))
      (warnings (s.loadFile disk path).notes) :=
  ⟨(h.warned hrolls hcommits htakes hopens hmappings).warned, s.warnings_loadGrid, s.warnings_loadFile⟩

end

open Sql (Database)

/-- A statement that takes no table away leaves the texts that name one. -/
private theorem takes_of_tables {s s' : Session Database}
    (htables : ∀ temporary, ∀ t ∈ (s.store.database.catalog.schema temporary).tables,
      t ∈ (s'.store.database.catalog.schema temporary).tables)
    (hbefore : s'.store.database.before = none) {table : Text} (h : s.Takes Database.semantics table) :
    s'.Takes Database.semantics table := by
  obtain ⟨⟨temporary, name, hplaces, hsome⟩, -⟩ := h
  refine Semantics.throughout_of_saved ⟨temporary, name, hplaces, ?_⟩ (congrArg Option.toList hbefore)
  obtain ⟨t, ht, hname⟩ := List.find?_isSome.1 hsome
  exact List.find?_isSome.2 ⟨t, htables temporary t ht, hname⟩

private def goodsLoaded : Session Database := (inMemory.loadGrid "goods".toList [["id".toList, "名称".toList]]).state

private def notesCreated : Session Database := (goodsLoaded.query "CREATE TABLE notes (k)".toList).state

private def shopsLoaded : Session Database := (notesCreated.loadGrid "shops".toList [["名称".toList]]).state

private def goodsRefused : Session Database := (shopsLoaded.loadGrid "GOODS".toList [["称".toList]]).state

private def partsFile : Disk := ⟨[(["parts.csv".toList], .file (.bytes (Utf8.encode "名\n".toList)))]⟩

private def partsLoaded : Session Database := (goodsRefused.loadFile partsFile "parts.csv".toList).state

private theorem partsLoaded_eq :
    (∀ temporary, ∀ t ∈ (goodsLoaded.store.database.catalog.schema temporary).tables,
      t ∈ (notesCreated.store.database.catalog.schema temporary).tables) ∧
    notesCreated.store.database.before = none ∧
    partsLoaded.mappings.entries =
      [⟨"goods".toList, "名称".toList, "_2".toList⟩, ⟨"parts".toList, "名".toList, "_1".toList⟩,
        ⟨"shops".toList, "名称".toList, "_1".toList⟩] := by
  decide +kernel

private theorem attempted_partsLoaded : ∃ logs, partsLoaded.Attempted Database.semantics logs := by
  obtain ⟨htables, hbefore, -⟩ := partsLoaded_eq
  obtain ⟨notes, hstart⟩ := start_newAt Store.memoryLocation
  have hbegun : inMemory.Attempted Database.semantics [] := .start (Store.connect_newAt _) hstart
  have hgoods : goodsLoaded.Attempted Database.semantics _ := hbegun.loadGrid ..
  have hnotes : notesCreated.Attempted Database.semantics _ := hgoods.query fun _ _ => takes_of_tables htables hbefore
  have hshops : shopsLoaded.Attempted Database.semantics _ := hnotes.loadGrid ..
  have hrefused : goodsRefused.Attempted Database.semantics _ := hshops.loadGrid ..
  exact ⟨_, hrefused.loadFile ..⟩

theorem ambiguities_warned_parts :
    ∃ logs, partsLoaded.Attempted Database.semantics logs ∧
      (∃ notes ∈ logs, ⟨.warn, .load,
        "Ambiguous header mapping: label '名称' is mapped differently in tables goods, shops".toList⟩ ∈ notes) ∧
      ∃ notes ∈ logs, ⟨.warn, .load,
        "Ambiguous header mapping: label '名' (parts) is contained in label '名称' (goods)".toList⟩ ∈ notes := by
  obtain ⟨logs, hattempted⟩ := attempted_partsLoaded
  obtain ⟨-, -, hentries⟩ := partsLoaded_eq
  obtain ⟨hwarned, -⟩ := ambiguities_warned Database.rollsBack Database.commits Database.takesNames
    Database.opensStores Database.keepsMappings hattempted
  have hshared : .sharedLabel "名称".toList ["goods".toList, "shops".toList] ∈ partsLoaded.mappings.ambiguities := by
    refine List.mem_append_left _ (HeaderMappings.mem_sharedLabels.2 ⟨"名称".toList, ?_, ?_⟩)
    · exact ⟨⟨"goods".toList, "名称".toList, "_2".toList⟩, by rw [HeaderMappings.owners, hentries]; decide,
        ⟨"shops".toList, "名称".toList, "_1".toList⟩, by rw [HeaderMappings.owners, hentries]; decide, by decide⟩
    · rw [HeaderMappings.owners, hentries]
      decide
  have hnested : .nested ⟨"parts".toList, "名".toList⟩ ⟨"goods".toList, "名称".toList⟩ ∈
      partsLoaded.mappings.ambiguities := by
    refine List.mem_append_right _ (HeaderMappings.mem_nestedLabels.2 ?_)
    rw [HeaderMappings.named, hentries]
    decide
  refine ⟨logs, hattempted, ?_, ?_⟩
  · obtain ⟨notes, hnotes, note, hnote, ⟨⟩⟩ := hwarned _ hshared
    exact ⟨notes, hnotes, hnote⟩
  · obtain ⟨notes, hnotes, note, hnote, ⟨⟩⟩ := hwarned _ hnested
    exact ⟨notes, hnotes, hnote⟩

end Session

end SheetQuery
