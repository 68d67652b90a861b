import SheetQuery.Proofs.Mapping.Tokens
import SheetQuery.Proofs.Mapping.Words
import SheetQuery.Proofs.Session.Filling
import SheetQuery.Proofs.Session.Replacing
import SheetQuery.Proofs.Sql.InMemory

/-!
# Sessions that only load

What loads alone make of a new store.  A table that no temporary one hides has all rows that it was loaded with, and the
session has its headers, each under the name of its last position.

* `Session.LoadedWith`: the sessions that loads lead to, each with the loads that did not fail.
* `Load.Stands`: the table of a load and its headers are as they were loaded.
* `Session.OnlyLoaded`: what loads keep; `LoadedWith.onlyLoaded` follows it through all of them.
-/

namespace SheetQuery

/-- A grid that is loaded as a table: its headers and its rows. -/
structure Load where
  table : Text
  headers : List Text
  rows : List (List Text)

variable {C : Type}

namespace Load

/-- The plan of the table. -/
def plan (l : Load) : TablePlan := planTable l.table l.headers

/-- The table keeps the header under the identifier, which is that of its position. -/
def Names (l : Load) (identifier label : Text) : Prop :=
  ∃ k, KeptAt l.headers k label ∧ identifier = Identifier.forPosition (k + 1)

/-- The table is in sight with the rows that it was loaded with, and the session has its headers. -/
structure Stands (l : Load) (σ : Semantics C) (s : Session C) : Prop where
  named : ¬ Text.sameName l.table Store.mappingTableName
  widths : ∀ cells ∈ l.rows, cells.length = l.plan.columns.length
  stored : σ.Stores (σ.now s.store.database) l.table l.plan.identifiers l.rows
  mapped : ∀ label identifier, s.mappings.resolve l.table label = some identifier ↔ l.Names identifier label

end Load

namespace Load.Stands

variable {σ : Semantics C} {s : Session C} {l : Load} (hl : l.Stands σ s) {k : Nat} {header identifier : Text}
  (hheader : l.headers[k]? = some header) (hidentifier : l.plan.identifiers[k]? = some identifier)

include hl hheader hidentifier

/-- A header that is kept at a column is kept under its identifier. -/
theorem reverse_eq_some (hkept : KeptAt l.headers k header) :
    s.mappings.reverse l.table identifier = some header := by
  have hname : identifier = Identifier.forPosition (k + 1) :=
    Option.some.inj (hidentifier.symm.trans (identifiers_getElem? hheader hkept.2.1))
  exact HeaderMappings.reverse_eq_some.2 ((hl.mapped header identifier).2 ⟨k, hkept, hname⟩)

/-- If the header of a column is not kept there, none is kept under its identifier. -/
theorem reverse_eq_none (hnodup : l.plan.identifiers.Nodup) (hkept : ¬ KeptAt l.headers k header) :
    s.mappings.reverse l.table identifier = none := by
  rw [Option.eq_none_iff_forall_not_mem]
  intro label hlabel
  rw [Option.mem_def, HeaderMappings.reverse_eq_some, hl.mapped] at hlabel
  obtain ⟨j, hj, hname⟩ := hlabel
  have hcolumn : l.plan.identifiers[j]? = some identifier := by
    rw [hname]
    exact identifiers_getElem? hj.1 hj.2.1
  -- no two columns have the same identifier
  have hsame : j = k := by
    obtain ⟨_, hj'⟩ := List.getElem?_eq_some_iff.1 hcolumn
    obtain ⟨_, hk'⟩ := List.getElem?_eq_some_iff.1 hidentifier
    exact hnodup.getElem_inj_iff.1 (hj'.trans hk'.symm)
  rw [hsame] at hj
  rw [hj.1, Option.some.injEq] at hheader
  exact hkept (hheader ▸ hj)

end Load.Stands

variable [Engine C]

/-- The session with the grid, if it can be loaded. -/
def Load.run (l : Load) (s : Session C) : Step (Session C) (Except LoadError LoadSummary) :=
  s.loadGrid l.table (l.headers :: l.rows)

namespace Session

/-- What loads make of a session on a new store, with the loads that did not fail, in their order. -/
inductive LoadedWith : Session C → List Load → Prop
  | start {location : Text} {store : Store C} (hconnect : Store.connect location none = .ok store)
      {options : LoadOptions} {started : Step (Session C) Unit} (h : start store options = .ok started) :
      LoadedWith started.state []
  | load {s : Session C} {loads : List Load} (hs : LoadedWith s loads) {l : Load} {summary : LoadSummary}
      (h : (l.run s).answer = .ok summary) : LoadedWith (l.run s).state (loads ++ [l])
  | fail {s : Session C} {loads : List Load} (hs : LoadedWith s loads) {table : Text} {grid : Grid} {e : LoadError}
      (h : (s.loadGrid table grid).answer = .error e) : LoadedWith (s.loadGrid table grid).state loads

namespace LoadedWith

variable {s : Session C} {loads : List Load}

theorem loadGrid (hs : s.LoadedWith loads) (table : Text) (grid : Grid) :
    ∃ more, (s.loadGrid table grid).state.LoadedWith (loads ++ more) := by
  cases hanswer : (s.loadGrid table grid).answer with
  | error e => exact ⟨[], by rw [List.append_nil]; exact .fail hs hanswer⟩
  | ok summary =>
    cases grid with
    | nil => cases hanswer
    | cons headers rows => exact ⟨[⟨table, headers, rows⟩], hs.load (l := ⟨table, headers, rows⟩) hanswer⟩

theorem loadFile (hs : s.LoadedWith loads) (disk : Disk) (path : Text) :
    ∃ more, (s.loadFile disk path).state.LoadedWith (loads ++ more) :=
  loadFile_induction (p := fun s => ∃ more, s.LoadedWith (loads ++ more)) ⟨[], by rwa [List.append_nil]⟩
    fun _ _ => hs.loadGrid _ _

theorem loadFiles (hs : s.LoadedWith loads) (disk : Disk) (paths : List Text) :
    ∃ more, (s.loadFiles disk paths).state.LoadedWith (loads ++ more) := by
  refine loadFiles_induction (p := fun s => ∃ more, s.LoadedWith (loads ++ more)) (fun s path h => ?_) ?_ paths
  · obtain ⟨first, hs⟩ := h
    obtain ⟨more, hfile⟩ := hs.loadFile disk path
    rw [List.append_assoc] at hfile
    exact ⟨first ++ more, hfile⟩
  · exact ⟨[], by rwa [List.append_nil]⟩

end LoadedWith

/-- The session that begins on a new store has loaded nothing. -/
theorem loadedWith_inMemory : inMemory.LoadedWith [] := by
  obtain ⟨notes, hstart⟩ := start_newAt Store.memoryLocation
  exact .start (Store.connect_newAt _) hstart

/-- What loads keep: no transaction is open, statements are carried out and nothing else takes part in them, the table
of header mappings is there, each table with a word for its name stands unless it is hidden, no two of them have the same
name in any case, and all headers are of loaded tables and can be told from identifiers. -/
structure OnlyLoaded (σ : Semantics C) (s : Session C) (loads : List Load) : Prop where
  saved : σ.saved s.store.database = []
  writes : σ.Writes (σ.settings s.store.database)
  reads : σ.Reads (σ.settings s.store.database)
  clear : ∀ name, σ.Clear (σ.now s.store.database) name
  mappingTable : Store.mappingTableName ∈ σ.names (σ.now s.store.database)
  stands : ∀ l ∈ loads, l.table.all Identifier.isWordChar → ¬ σ.Hidden (σ.now s.store.database) l.table → l.Stands σ s
  named : ∀ l ∈ loads, l.table.all Identifier.isWordChar → l.table ∈ σ.names (σ.now s.store.database)
  spelled : ∀ l ∈ loads, ∀ other ∈ loads, l.table.all Identifier.isWordChar → Text.sameName other.table l.table →
    other.table = l.table
  marked : s.mappings.Protected
  tables : ∀ e ∈ s.mappings.entries, ∃ l ∈ loads, l.table = e.table

variable {σ : Semantics C}

/-! ### What a load makes of the tables -/

section

variable {s : Session C} {loads : List Load} {l : Load} {summary : LoadSummary}

private theorem run_store (h : (l.run s).answer = .ok summary) :
    (s.store.loadTable l.plan l.rows).answer = .ok () ∧ (l.run s).state.store = (s.store.loadTable l.plan l.rows).state ∧
      (l.run s).state.mappings = adoptMappings s.mappings l.plan := by
  have hloaded : (s.store.loadTable l.plan l.rows).answer = .ok () := loadTable_of_loadGrid h
  exact ⟨hloaded, loadGrid_store s l.table l.headers l.rows, loadGrid_mappings hloaded⟩

private theorem mem_entries_run (h : (l.run s).answer = .ok summary) {e : Mapping}
    (he : e ∈ (l.run s).state.mappings.entries) :
    e.table = l.table ∧ l.Names e.identifier e.label ∨ e ∈ s.mappings.entries := by
  rw [(run_store h).2.2] at he
  exact ((mem_entries_adopted s.mappings l.table l.headers).1 he).imp_right (·.2)

variable (hcommits : σ.Commits)

include hcommits

/-- What no statement of a load breaks, a load does not break. -/
private theorem run_kept (h : (l.run s).answer = .ok summary) {p : σ.Version → Prop}
    (hp : ∀ {sql}, LoadStatement sql → ∀ {c c' : C} {parameters n},
      Engine.execute c sql parameters = (c', .ok n) → p (σ.now c) → p (σ.now c'))
    (hs : p (σ.now s.store.database)) : p (σ.now (l.run s).state.store.database) := by
  obtain ⟨hloaded, hstore, -⟩ := run_store h
  rw [hstore]
  exact Store.loadTable_kept hcommits hloaded hp hs

/-- A name that is in sight behind a load was so before. -/
private theorem visible_before (hleaves : σ.LeavesOthers) (h : (l.run s).answer = .ok summary) {name : Text}
    (hvisible : ¬ σ.Hidden (σ.now (l.run s).state.store.database) name) :
    ¬ σ.Hidden (σ.now s.store.database) name := fun hhidden =>
  hvisible (run_kept hcommits h (p := (σ.Hidden · name)) (fun hsql _ _ _ _ hexecute => hleaves.hidden hsql hexecute) hhidden)

variable (hmakes : σ.MakesTables) (hleaves : σ.LeavesOthers) (hwritable : σ.WritesMappings) (hnames : σ.NamesTables)

include hnames

/-- Of the tables that were loaded before, none has the name of one that is loaded. -/
private theorem new_name (hs : s.OnlyLoaded σ loads) (h : (l.run s).answer = .ok summary)
    (hword : l.table.all Identifier.isWordChar) : ∀ other ∈ loads, ¬ Text.sameName other.table l.table := by
  intro other hother hsame
  have hotherWord := word_of_lower (Text.sameName_iff.1 hsame) hword
  exact Store.loadTable_free hcommits (run_store h).1 hword hnames _ (hs.named other hother hotherWord) hsame

include hmakes hleaves

/-- A table that is loaded stands if it is not hidden. -/
private theorem stands_run (hs : s.OnlyLoaded σ loads) (h : (l.run s).answer = .ok summary)
    (hword : l.table.all Identifier.isWordChar)
    (hvisible : ¬ σ.Hidden (σ.now (l.run s).state.store.database) l.table) : l.Stands σ (l.run s).state := by
  have hbefore := visible_before hcommits hleaves h hvisible
  obtain ⟨hloaded, hstore, hmappings⟩ := run_store h
  obtain ⟨-, -, c, -, hfilled, -⟩ := Store.loadTable_committed hcommits hloaded
  obtain ⟨c₁, hcreated, -, -⟩ := Store.fillTable_eq_ok hfilled
  have hother := Store.loadTable_other hcommits hloaded hword hnames hs.mappingTable
  refine ⟨hother, (Store.createTable_eq_ok hcreated).2, ?_, fun label identifier => ?_⟩
  · rw [hstore]
    exact Store.loadTable_stores hcommits hloaded hmakes (hs.clear _) (hs.clear _) hleaves hword hother hbefore
  · rw [hmappings, Load.plan, resolve_adopted]
    exact keptAt_iff

/-- A table that stands goes on to stand if the next one does not hide it. -/
private theorem stands_run_other (hs : s.OnlyLoaded σ loads) {other : Load} (hother : other ∈ loads)
    (hword : other.table.all Identifier.isWordChar) (h : (l.run s).answer = .ok summary)
    (hvisible : ¬ σ.Hidden (σ.now (l.run s).state.store.database) other.table) : other.Stands σ (l.run s).state := by
  obtain ⟨hnamed, hwidths, hstored, hmapped⟩ :=
    hs.stands other hother hword (visible_before hcommits hleaves h hvisible)
  have hne : other.table ≠ l.table := fun hsame =>
    new_name hcommits hnames hs h (hsame ▸ hword) other hother (Text.sameName_iff.2 (congrArg Text.lower hsame))
  obtain ⟨hloaded, hstore, hmappings⟩ := run_store h
  refine ⟨hnamed, hwidths, ?_, fun label identifier => ?_⟩
  · rw [hstore] at hvisible ⊢
    exact Store.loadTable_stores_other hcommits hloaded hmakes (hs.clear _) (hs.clear _) hleaves hnamed hstored hvisible
  · rw [hmappings, Load.plan, resolve_adopted_of_ne s.mappings l.table l.headers hne]
    exact hmapped label identifier

/-- A load that succeeds keeps what loads keep. -/
private theorem OnlyLoaded.load (hs : s.OnlyLoaded σ loads) (h : (l.run s).answer = .ok summary) :
    (l.run s).state.OnlyLoaded σ (loads ++ [l]) := by
  obtain ⟨hloaded, hstore, -⟩ := run_store h
  rw [Load.plan] at hloaded
  obtain ⟨⟨-, hsaved⟩, hsettings, -⟩ := Store.loadTable_committed hcommits hloaded
  rw [← Load.plan, ← hstore] at hsaved hsettings
  have hkept : ∀ name ∈ σ.names (σ.now s.store.database), name ∈ σ.names (σ.now (l.run s).state.store.database) :=
    fun name hname => run_kept hcommits h (p := (name ∈ σ.names ·)) (fun hsql _ _ _ _ hexecute => hnames.kept hsql hexecute) hname
  refine ⟨hsaved, hsettings ▸ hs.writes, hsettings ▸ hs.reads, fun name => ?_, hkept _ hs.mappingTable, ?_, ?_, ?_,
    ⟨?_, ?_⟩, ?_⟩
  · exact run_kept hcommits h (p := (σ.Clear · name)) (fun hsql _ _ _ _ hexecute => hmakes.clear hsql hexecute) (hs.clear name)
  · refine List.forall_mem_append.2 ⟨fun other hother hword hvisible => ?_, List.forall_mem_singleton.2 ?_⟩
    · exact stands_run_other hcommits hmakes hleaves hnames hs hother hword h hvisible
    · exact stands_run hcommits hmakes hleaves hnames hs h
  · refine List.forall_mem_append.2 ⟨fun other hother hword => ?_, List.forall_mem_singleton.2 fun hword => ?_⟩
    · exact hkept _ (hs.named other hother hword)
    · rw [hstore]
      exact Store.loadTable_made hcommits hloaded (p := (l.table ∈ σ.names ·))
        (fun _ hcreate _ => hnames.created hword hcreate) fun hsql _ _ _ _ hexecute => hnames.kept hsql hexecute
  · have hnew := new_name hcommits hnames hs h
    refine List.forall_mem_append.2 ⟨fun first hfirst => ?_, List.forall_mem_singleton.2 ?_⟩
    · refine List.forall_mem_append.2 ⟨hs.spelled first hfirst, List.forall_mem_singleton.2 fun hword hsame => ?_⟩
      refine absurd ?_ (hnew (word_of_lower (Text.sameName_iff.1 hsame) hword) first hfirst)
      rwa [Text.sameName_comm]
    · refine List.forall_mem_append.2 ⟨fun other hother hword hsame => ?_, List.forall_mem_singleton.2 fun _ _ => rfl⟩
      exact absurd hsame (hnew hword other hother)
  · intro e he hne
    rcases mem_entries_run h he with ⟨-, k, hk, -⟩ | he
    · exact hk.2.1
    · exact hs.marked.labels e he hne
  · intro e he
    rcases mem_entries_run h he with ⟨-, k, -, hidentifier⟩ | he
    · rw [hidentifier]
      exact hasHan_of_word (word_forPosition (k + 1))
    · exact hs.marked.identifiers e he
  · intro e he
    rcases mem_entries_run h he with ⟨htable, -⟩ | he
    · exact ⟨l, by simp, htable.symm⟩
    · obtain ⟨other, hother, htable⟩ := hs.tables e he
      exact ⟨other, List.mem_append_left _ hother, htable⟩

end

/-! ### All loads -/

variable {s : Session C} {loads : List Load}

/-- A load that fails changes neither tables nor mappings. -/
private theorem OnlyLoaded.fail (hrolls : σ.RollsBack) (hs : s.OnlyLoaded σ loads) {table : Text} {grid : Grid}
    {e : LoadError} (h : (s.loadGrid table grid).answer = .error e) :
    (s.loadGrid table grid).state.OnlyLoaded σ loads := by
  obtain ⟨hsame, hmappings⟩ := loadGrid_failed hrolls h
  obtain ⟨hsaved, hwrites, hreads, hclear, hmappingTable, hstands, hnamed, hspelled, hmarked, htables⟩ := hs
  rw [← hsame.settings] at hwrites hreads
  rw [← hsame.now] at hclear hmappingTable hstands hnamed
  rw [← hmappings] at hmarked htables
  refine ⟨hsame.saved.trans hsaved, hwrites, hreads, hclear, hmappingTable, fun l hl hword hvisible => ?_, hnamed,
    hspelled, hmarked, htables⟩
  obtain ⟨hother, hwidths, hstored, hmapped⟩ := hstands l hl hword hvisible
  rw [← hsame.now] at hstored
  rw [← hmappings] at hmapped
  exact ⟨hother, hwidths, hstored, hmapped⟩

/-- What loads keep holds of a session on a new store. -/
private theorem onlyLoaded_start (hopens : σ.OpensStores) (hmappings : σ.KeepsMappings) (hnames : σ.NamesTables)
    (hbegins : σ.BeginsEmpty) {location : Text} {store : Store C} (hconnect : Store.connect location none = .ok store)
    {options : LoadOptions} {started : Step (Session C) Unit} (h : start store options = .ok started) :
    started.state.OnlyLoaded σ [] := by
  obtain ⟨stored, notes, hstored, rfl⟩ := start_eq_ok h
  obtain ⟨c, c', n, hempty, hexecute, rfl⟩ := Store.connect_eq_ok hconnect
  obtain ⟨hkeeps, hsaved⟩ := hopens.opened hopens.new hempty hexecute
  obtain ⟨hwrites, hreads⟩ := hbegins.settings hempty
  obtain ⟨hsettings, hfresh⟩ := hbegins.opened hempty hexecute
  rw [← hsettings] at hwrites hreads
  have hmapping := hnames.mapping hkeeps
  rw [← keptRows_empty] at hkeeps
  obtain rfl : HeaderMappings.empty.entries = stored :=
    Except.ok.inj ((hmappings.storedMappings (s := ⟨location, c'⟩) hkeeps).symm.trans hstored)
  exact ⟨hsaved, hwrites, hreads, fun name => (hfresh name).1, hmapping, nofun, nofun, nofun, ⟨nofun, nofun⟩, nofun⟩

/-- What loads keep holds of any session that only loads. -/
theorem LoadedWith.onlyLoaded (hopens : σ.OpensStores) (hmappings : σ.KeepsMappings) (hrolls : σ.RollsBack)
    (hcommits : σ.Commits) (hmakes : σ.MakesTables) (hleaves : σ.LeavesOthers) (hnames : σ.NamesTables)
    (hbegins : σ.BeginsEmpty) (hs : s.LoadedWith loads) : s.OnlyLoaded σ loads := by
  induction hs with
  | start hconnect h => exact onlyLoaded_start hopens hmappings hnames hbegins hconnect h
  | load _ h ih => exact ih.load hcommits hmakes hleaves hnames h
  | fail _ h ih => exact ih.fail hrolls h

/-- Loads of tables whose names are words hide nothing. -/
theorem LoadedWith.visible (hrolls : σ.RollsBack) (hcommits : σ.Commits) (hleaves : σ.LeavesOthers)
    (hbegins : σ.BeginsEmpty) (hs : s.LoadedWith loads) (hwords : ∀ l ∈ loads, l.table.all Identifier.isWordChar)
    (name : Text) : ¬ σ.Hidden (σ.now s.store.database) name := by
  induction hs with
  | start hconnect h =>
    obtain ⟨stored, notes, -, rfl⟩ := start_eq_ok h
    obtain ⟨c, c', n, hempty, hexecute, rfl⟩ := Store.connect_eq_ok hconnect
    exact ((hbegins.opened hempty hexecute).2 name).2
  | load _ h ih =>
    obtain ⟨hwords, hword⟩ := List.forall_mem_append.1 hwords
    obtain ⟨hloaded, hstore, -⟩ := run_store h
    rw [hstore]
    exact Store.loadTable_visible hcommits hloaded hleaves (hword _ (List.mem_singleton_self _)) (ih hwords)
  | fail _ h ih =>
    rw [(loadGrid_failed hrolls h).1.now]
    exact ih hwords

end Session

end SheetQuery
