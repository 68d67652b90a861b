import SheetQuery.Proofs.Mapping.Words
import SheetQuery.Proofs.Session.Footprint
import SheetQuery.Proofs.Session.Replacing
import SheetQuery.Proofs.Sql.Laws.Reachable

/-!
# Mapped tables are different tables

The database does not tell names by the case of ASCII letters, but the mappings do.  A file is loaded only where no
table has its name, so two mapped tables with one name for the database come about in one way: a mapped table goes, its
mappings are left over, and a file brings the name back in another spelling.

* `TableEvent`: tables that are loaded and tables that go; `SpelledAlike`: none comes back in another spelling.
* `Workspace.ReachedBy`: what loads of files, statements and opening the store again can come to, with the events.
* `Workspace.Accounted`: a mapped table is there, or it has gone; `ReachedBy.accounted` follows that through a run.
* `Workspace.mapped_tables_distinct`: the mapped tables are different tables for the database.
-/

namespace SheetQuery

/-- What becomes of the tables that have mappings. -/
inductive TableEvent where
  /-- A file is loaded as the table. -/
  | loaded (table : Text)
  /-- The table is gone, and its mappings are left over. -/
  | gone (table : Text)
deriving DecidableEq

/-- If the first event takes a table away and the second one brings its name back, then in the same spelling. -/
def TableEvent.Alike : TableEvent → TableEvent → Prop
  | gone old, loaded new => Text.sameName old new → old = new
  | _, _ => True

instance (a b : TableEvent) : Decidable (a.Alike b) := by
  cases a <;> cases b <;> unfold TableEvent.Alike <;> infer_instance

/-- No name of a table that has gone comes back in another spelling. -/
def SpelledAlike (events : List TableEvent) : Prop := events.Pairwise TableEvent.Alike

instance (events : List TableEvent) : Decidable (SpelledAlike events) := by unfold SpelledAlike; infer_instance

variable {C : Type} {σ : Semantics C}

/-! ### What a load and a statement make of the tables -/

namespace Semantics

theorem has_congr {a b : Text} (h : Text.sameName a b) (v : σ.Version) : σ.Has a v = σ.Has b v := by
  unfold Has
  refine congrArg _ (funext fun name => ?_)
  rw [Text.sameName_comm, Text.sameName_congr_left h, Text.sameName_comm]

theorem has_of_mem {table : Text} {v : σ.Version} (h : table ∈ σ.names v) : σ.Has table v :=
  List.any_eq_true.2 ⟨table, h, Text.sameName_iff.2 rfl⟩

variable [Engine C]

theorem NamesTables.has_kept (hnames : σ.NamesTables) {c c' : C} {sql : Text} (hsql : LoadStatement sql)
    {parameters : List Sql.Value} {n : Nat} (hexecute : Engine.execute c sql parameters = (c', .ok n)) {table : Text}
    (h : σ.Has table (σ.now c)) : σ.Has table (σ.now c') := by
  obtain ⟨name, hname, hsame⟩ := List.any_eq_true.1 h
  exact List.any_eq_true.2 ⟨name, hnames.kept hsql hexecute hname, hsame⟩

/-- A table stays there throughout, unless it is missing behind the statement. -/
theorem SavesTables.run (hsaves : σ.SavesTables) {s : Store C} {sql : Text} {p : σ.Version → Prop}
    (h : σ.Throughout p s.database) (hnow : p (σ.now (s.run sql).1.database)) :
    σ.Throughout p (s.run sql).1.database := by
  refine ⟨hnow, fun v hv => ?_⟩
  have hsaved : v = σ.now s.database ∨ v ∈ σ.saved s.database := by
    rcases s.run_cases sql with ⟨_, -, hrun⟩ | ⟨-, hrun⟩ | ⟨_, -, -, hrun⟩
    · rw [hrun] at hv
      exact .inr hv
    · rw [hrun] at hv
      exact hsaves.executed rfl hv
    · rw [hrun] at hv
      exact hsaves.queried hv
  rcases hsaved with rfl | hv
  · exact h.1
  · exact h.2 v hv

end Semantics

namespace Workspace

/-- A mapped table is there or has gone, and no two of them have one name, unless one came back in another spelling. -/
structure Accounted (σ : Semantics C) (w : Workspace C) (events : List TableEvent) : Prop where
  there : ∀ table ∈ w.session.mappings.tables,
    .gone table ∈ events ∨ σ.Throughout (σ.Has table ·) w.session.store.database
  distinct : SpelledAlike events → ∀ a ∈ w.session.mappings.tables, ∀ b ∈ w.session.mappings.tables,
    Text.sameName a b → a = b

/-- What has no mappings is accounted for. -/
private theorem accounted_of_entries {w : Workspace C} {events : List TableEvent}
    (h : w.session.mappings.entries = []) : w.Accounted σ events := by
  have hnone : ∀ table, table ∉ w.session.mappings.tables := by
    intro table htable
    obtain ⟨e, he, -⟩ := HeaderMappings.mem_tables.1 htable
    rw [h] at he
    cases he
  exact ⟨fun table htable => absurd htable (hnone table), fun _ a ha => absurd ha (hnone a)⟩

end Workspace

variable [Engine C]

namespace Session

variable {s : Session C} {disk : Disk} {path : Text}

/-- Before a file is loaded its name is free, and behind it has a table. -/
private theorem loadFile_has (hcommits : σ.Commits) (hnames : σ.NamesTables) {summary : LoadSummary}
    (h : (s.loadFile disk path).answer = .ok summary) :
    ¬ σ.Has (tableOfPath path) (σ.now s.store.database) ∧
      σ.Throughout (σ.Has (tableOfPath path) ·) (s.loadFile disk path).state.store.database := by
  obtain ⟨headers, rows, -, hloaded, hstore, -⟩ := loadFile_loaded h
  have hword := word_forTable ((Path.stem? path).getD [])
  obtain ⟨⟨-, hsaved⟩, -, c, hnow, hfilled, -⟩ := Store.loadTable_committed hcommits hloaded
  obtain ⟨c₁, hcreated, -, -⟩ := Store.fillTable_eq_ok hfilled
  rw [hstore, ← hnow]
  refine ⟨fun hhas => ?_, Semantics.throughout_of_saved ?_ hsaved⟩
  · obtain ⟨name, hname, hsame⟩ := List.any_eq_true.1 hhas
    exact Store.free_of_created hnames hword hcreated name hname hsame
  · exact Store.loadTable_made hcommits hloaded (p := fun v => σ.Has (tableOfPath path) v)
      (fun _ hcreate _ => Semantics.has_of_mem (hnames.created hword hcreate))
      fun hsql _ _ _ _ hexecute => hnames.has_kept hsql hexecute

/-- A load takes no table away. -/
private theorem loadFile_keeps_has (hcommits : σ.Commits) (hnames : σ.NamesTables) (hrolls : σ.RollsBack) {table : Text}
    (h : σ.Throughout (σ.Has table ·) s.store.database) (disk : Disk) (path : Text) :
    σ.Throughout (σ.Has table ·) (s.loadFile disk path).state.store.database := by
  cases hanswer : (s.loadFile disk path).answer with
  | error e => exact (loadFile_failed hrolls hanswer).1.throughout h
  | ok summary =>
    obtain ⟨headers, rows, -, hloaded, hstore, -⟩ := loadFile_loaded hanswer
    rw [hstore]
    exact Semantics.throughout_of_saved
      (Store.loadTable_kept hcommits hloaded (p := fun v => σ.Has table v)
        (fun hsql _ _ _ _ hexecute => hnames.has_kept hsql hexecute) h.1)
      (Store.loadTable_committed hcommits hloaded).1.2

private theorem mem_tables_adopted {m : HeaderMappings} {table other : Text} {headers : List Text}
    (h : other ∈ (adoptMappings m (planTable table headers)).tables) : other = table ∨ other ∈ m.tables := by
  obtain ⟨e, he, rfl⟩ := HeaderMappings.mem_tables.1 h
  rcases (mem_entries_adopted m table headers).1 he with ⟨htable, -⟩ | ⟨-, he⟩
  · exact .inl htable
  · exact .inr (HeaderMappings.mem_tables.2 ⟨e, he, rfl⟩)

end Session

/-! ### Runs -/

namespace Workspace

/-- The mapped tables that are there in the first workspace and not in the second. -/
def gone (σ : Semantics C) (w w' : Workspace C) : List TableEvent :=
  (w.session.mappings.tables.filter fun table =>
    σ.Has table (σ.now w.session.store.database) && !σ.Has table (σ.now w'.session.store.database)).map .gone

/-- What can be reached by loads of files and commands that leave the table of header mappings to the statements for it,
and by opening the store again, with what has become of the tables.  A store that is not in a file is a new one when it
is opened again. -/
inductive ReachedBy (σ : Semantics C) : Workspace C → List TableEvent → Prop
  | opened {disk : Disk} {location : Text} {options : LoadOptions} {started : Step (Workspace C) Unit}
      (h : openAt disk location options = .ok started) (hnew : σ.Opens (Store.contentAt disk location) 0) :
      ReachedBy σ started.state []
  | reopened {w : Workspace C} {events : List TableEvent} (hw : ReachedBy σ w events) {options : LoadOptions}
      {started : Step (Workspace C) Unit} (h : openAt w.close w.session.store.location options = .ok started) :
      ReachedBy σ started.state (if Store.isFile w.session.store.location then events else [])
  | filesChanged {w : Workspace C} {events : List TableEvent} (hw : ReachedBy σ w events) {disk : Disk}
      (h : disk.lookup w.session.store.location = w.disk.lookup w.session.store.location) :
      ReachedBy σ { w with disk := disk } events
  | loaded {w : Workspace C} {events : List TableEvent} (hw : ReachedBy σ w events) {path : Text}
      (hleaves : w.session.FileLeaves σ w.disk path) {summary : LoadSummary}
      (h : (w.session.loadFile w.disk path).answer = .ok summary) :
      ReachedBy σ { w with session := (w.session.loadFile w.disk path).state }
        (events ++ [.loaded (Session.tableOfPath path)])
  | failed {w : Workspace C} {events : List TableEvent} (hw : ReachedBy σ w events) {path : Text}
      (hleaves : w.session.FileLeaves σ w.disk path) {e : LoadError}
      (h : (w.session.loadFile w.disk path).answer = .error e) :
      ReachedBy σ { w with session := (w.session.loadFile w.disk path).state } events
  | executed {w : Workspace C} {events : List TableEvent} (hw : ReachedBy σ w events) {command : Command}
      (h : w.Spares σ command) : ReachedBy σ (w.execute command).state (events ++ w.gone σ (w.execute command).state)

variable {w : Workspace C} {events : List TableEvent}

/-- A run of loads is one load after the other. -/
theorem ReachedBy.loadFiles {paths : List Text} (hw : w.ReachedBy σ events)
    (hleave : Session.FilesLeave σ w.disk w.session paths) :
    ∃ more, ReachedBy σ { w with session := (w.session.loadFiles w.disk paths).state } (events ++ more) := by
  have hall : ∀ (paths : List Text) {s : Session C} {events : List TableEvent}, ReachedBy σ { w with session := s } events →
      Session.FilesLeave σ w.disk s paths →
      ∃ more, ReachedBy σ { w with session := (s.loadFiles w.disk paths).state } (events ++ more) := by
    intro paths
    induction paths with
    | nil => exact fun hs _ => ⟨[], by rwa [List.append_nil]⟩
    | cons path paths ih =>
      intro s events hs hleave
      rw [Session.state_loadFiles_cons]
      cases hanswer : (s.loadFile w.disk path).answer with
      | ok summary =>
        obtain ⟨more, hmore⟩ := ih (hs.loaded hleave.1 hanswer) hleave.2
        rw [List.append_assoc] at hmore
        exact ⟨_, hmore⟩
      | error e => exact ih (hs.failed hleave.1 hanswer) hleave.2
  exact hall paths hw hleave

section

variable (hopens : σ.OpensStores) (hmappings : σ.KeepsMappings) (hrolls : σ.RollsBack) (hcommits : σ.Commits)

include hopens hmappings hrolls hcommits

/-- Whatever is reached is reached by loads and commands that leave the table of header mappings alone. -/
theorem ReachedBy.reached (h : w.ReachedBy σ events) : Reached σ w := by
  induction h with
  | opened h hnew => exact .opened h hnew
  | @reopened w events hw options started h ih =>
    have hagrees := ih.agrees hopens hmappings hrolls hcommits
    by_cases hfile : Store.isFile w.session.store.location
    · refine .reopened ih h fun rows hkeeps => ?_
      rw [(hagrees.reopen hopens hmappings hfile options).1]
      exact hopens.content hkeeps
    · refine .opened h ?_
      rw [Store.contentAt, if_neg hfile]
      exact hopens.new
  | filesChanged hw h ih => exact .filesChanged ih h
  | loaded hw hleaves h ih => exact .loadFile ih hleaves
  | failed hw hleaves h ih => exact .loadFile ih hleaves
  | executed hw h ih => exact .execute ih h

end

/-! ### Mapped tables are accounted for -/

section

variable (hcommits : σ.Commits) (hnames : σ.NamesTables)

include hcommits hnames

/-- A mapped table that has the name of a new one has gone, so the new one has its spelling. -/
private theorem Accounted.eq_of_sameName (hw : w.Accounted σ events) {path : Text} {summary : LoadSummary}
    (h : (w.session.loadFile w.disk path).answer = .ok summary)
    (hspelled : SpelledAlike (events ++ [.loaded (Session.tableOfPath path)])) {table : Text}
    (htable : table ∈ w.session.mappings.tables) (hsame : Text.sameName table (Session.tableOfPath path)) :
    table = Session.tableOfPath path := by
  rcases hw.there table htable with hgone | hthere
  · exact (List.pairwise_append.1 hspelled).2.2 _ hgone _ (List.mem_singleton_self _) hsame
  · have hnow : σ.Has table (σ.now w.session.store.database) := hthere.1
    rw [Semantics.has_congr hsame] at hnow
    exact absurd hnow (Session.loadFile_has hcommits hnames h).1

private theorem Accounted.loaded (hrolls : σ.RollsBack) (hw : w.Accounted σ events) {path : Text}
    {summary : LoadSummary} (h : (w.session.loadFile w.disk path).answer = .ok summary) :
    Accounted σ { w with session := (w.session.loadFile w.disk path).state }
      (events ++ [.loaded (Session.tableOfPath path)]) := by
  obtain ⟨headers, rows, -, -, -, hmappings⟩ := Session.loadFile_loaded h
  have htables : ∀ table ∈ (w.session.loadFile w.disk path).state.mappings.tables,
      table = Session.tableOfPath path ∨ table ∈ w.session.mappings.tables := by
    intro table htable
    rw [hmappings] at htable
    exact Session.mem_tables_adopted htable
  constructor
  · intro table htable
    rcases htables table htable with rfl | hold
    · exact .inr (Session.loadFile_has hcommits hnames h).2
    · exact (hw.there table hold).imp (List.mem_append_left _) fun hthere =>
        Session.loadFile_keeps_has hcommits hnames hrolls hthere w.disk path
  · intro hspelled a ha b hb hsame
    have hbefore : SpelledAlike events := (List.pairwise_append.1 hspelled).1
    rcases htables a ha with rfl | ha <;> rcases htables b hb with rfl | hb
    · rfl
    · rw [Text.sameName_comm] at hsame
      exact (hw.eq_of_sameName hcommits hnames h hspelled hb hsame).symm
    · exact hw.eq_of_sameName hcommits hnames h hspelled ha hsame
    · exact hw.distinct hbefore a ha b hb hsame

end

private theorem Accounted.failed (hrolls : σ.RollsBack) (hw : w.Accounted σ events) {path : Text} {e : LoadError}
    (h : (w.session.loadFile w.disk path).answer = .error e) :
    Accounted σ { w with session := (w.session.loadFile w.disk path).state } events := by
  obtain ⟨hsame, hmappings⟩ := Session.loadFile_failed hrolls h
  constructor
  · intro table htable
    rw [hmappings] at htable
    exact (hw.there table htable).imp_right hsame.throughout
  · rw [hmappings]
    exact hw.distinct

private theorem Accounted.executed (hsaves : σ.SavesTables) (hw : w.Accounted σ events) (command : Command) :
    Accounted σ (w.execute command).state (events ++ w.gone σ (w.execute command).state) := by
  have hdistinct : ∀ w' : Workspace C, w'.session.mappings = w.session.mappings → SpelledAlike (events ++ w.gone σ w') →
      ∀ a ∈ w'.session.mappings.tables, ∀ b ∈ w'.session.mappings.tables, Text.sameName a b → a = b := by
    intro w' hsame hspelled
    rw [hsame]
    exact hw.distinct (List.pairwise_append.1 hspelled).1
  have hquiet : ∀ w' : Workspace C, w'.session = w.session → w'.Accounted σ (events ++ w.gone σ w') := by
    intro w' hsame
    refine ⟨fun table htable => ?_, hdistinct w' (by rw [hsame])⟩
    rw [hsame] at htable ⊢
    exact (hw.there table htable).imp_left (List.mem_append_left _)
  rcases w.execute_state command with ⟨statement, -, hstate⟩ | ⟨_, _, -, -, hstate⟩ | hstate
  · rw [hstate]
    refine ⟨fun table htable => ?_, hdistinct _ (by rw [Session.query_state])⟩
    rw [Session.query_state] at htable ⊢
    rcases hw.there table htable with hgone | hthere
    · exact .inl (List.mem_append_left _ hgone)
    · cases hnow : σ.Has table (σ.now (w.session.store.run (w.session.mappings.substitute statement)).1.database) with
      | true => exact .inr (hsaves.run (p := fun v => σ.Has table v) hthere hnow)
      | false =>
        refine .inl (List.mem_append_right _ (List.mem_map_of_mem (List.mem_filter.2 ⟨htable, ?_⟩)))
        rw [hthere.1, hnow]
        rfl
  · rw [hstate]
    exact hquiet _ rfl
  · rw [hstate]
    exact hquiet _ rfl

section

variable (hopens : σ.OpensStores) (hmappings : σ.KeepsMappings)

include hopens hmappings

/-- Opening the store again brings back what was committed, and nothing that was mapped is missing there. -/
private theorem Accounted.reopened (hsaves : σ.SavesTables) (hw : w.Accounted σ events) (hagrees : w.Agrees σ)
    (hfile : Store.isFile w.session.store.location) {options : LoadOptions} {started : Step (Workspace C) Unit}
    (h : openAt w.close w.session.store.location options = .ok started) : started.state.Accounted σ events := by
  obtain ⟨hcontent, reopened, hreopened, -, hentries⟩ := hagrees.reopen hopens hmappings hfile options
  obtain rfl : reopened = started := Except.ok.inj (hreopened.symm.trans h)
  have htables : ∀ table, table ∈ reopened.state.session.mappings.tables ↔ table ∈ w.session.mappings.tables := by
    intro table
    rw [HeaderMappings.mem_tables, HeaderMappings.mem_tables, hentries]
  constructor
  · intro table htable
    refine (hw.there table ((htables table).1 htable)).imp_right fun hthere => ?_
    obtain ⟨c, c', n, hconnect, hexecute, hstore⟩ := Store.connect_eq_ok (openAt_session h).1
    rw [hcontent] at hconnect
    obtain ⟨name, hname, hsame⟩ := List.any_eq_true.1 hthere.committed
    have hkept : σ.Has table (σ.now c') :=
      List.any_eq_true.2 ⟨name, hsaves.reopened hconnect hexecute hname, hsame⟩
    have hopened := hopens.opened (hopens.content hagrees.session.committed) hconnect hexecute
    rw [hstore]
    exact Semantics.throughout_of_saved hkept hopened.2
  · intro hspelled a ha b hb
    exact hw.distinct hspelled a ((htables a).1 ha) b ((htables b).1 hb)

variable (hrolls : σ.RollsBack) (hcommits : σ.Commits) (hnames : σ.NamesTables) (hsaves : σ.SavesTables)

include hrolls hcommits hnames hsaves

/-- Whatever is reached, the mapped tables are accounted for. -/
theorem ReachedBy.accounted (h : w.ReachedBy σ events) : w.Accounted σ events := by
  have hnew : ∀ {disk : Disk} {location : Text} {options : LoadOptions} {started : Step (Workspace C) Unit}
      {events : List TableEvent}, openAt disk location options = .ok started →
      σ.Opens (Store.contentAt disk location) 0 → started.state.Accounted σ events := fun h hnew =>
    accounted_of_entries (agrees_of_openAt hopens hmappings h (m := .empty) (keptRows_empty ▸ hnew)).2
  induction h with
  | opened h hnone => exact hnew h hnone
  | @reopened w events hw options started h ih =>
    by_cases hfile : Store.isFile w.session.store.location
    · rw [if_pos hfile]
      have hreached := hw.reached hopens hmappings hrolls hcommits
      exact ih.reopened hopens hmappings hsaves (hreached.agrees hopens hmappings hrolls hcommits) hfile h
    · refine hnew h ?_
      rw [Store.contentAt, if_neg hfile]
      exact hopens.new
  | filesChanged hw h ih => exact ⟨ih.there, ih.distinct⟩
  | loaded hw hleaves h ih => exact ih.loaded hcommits hnames hrolls h
  | failed hw hleaves h ih => exact ih.failed hrolls h
  | executed hw h ih => exact ih.executed hsaves _

/-- If no name of a mapped table that has gone comes back in another spelling, then no two mapped tables have one name
for the database.  A statement that speaks of one table then has that table for its context, and behind a load of a file
all entries under its name are those of the file's headers. -/
theorem mapped_tables_distinct (h : w.ReachedBy σ events) (hspelled : SpelledAlike events) :
    (∀ a ∈ w.session.mappings.tables, ∀ b ∈ w.session.mappings.tables, Text.sameName a b → a = b) ∧
    (∀ table ∈ w.session.mappings.tables, ∀ sql, WholeWord table sql →
      (∀ other ∈ w.session.mappings.tables, WholeWord other sql → Text.sameName other table) →
        tableContext sql w.session.mappings.tables = some table) ∧
    (∀ path headers rows summary, Session.readSource w.session.options w.disk path = .ok (headers :: rows) →
      (w.session.loadFile w.disk path).answer = .ok summary →
      SpelledAlike (events ++ [.loaded (Session.tableOfPath path)]) →
        ∀ e ∈ (w.session.loadFile w.disk path).state.mappings.entries, Text.sameName e.table (Session.tableOfPath path) →
          e.table = Session.tableOfPath path ∧
            ∃ k, KeptAt headers k e.label ∧ e.identifier = Identifier.forPosition (k + 1)) := by
  have haccounted := h.accounted hopens hmappings hrolls hcommits hnames hsaves
  have hdistinct := haccounted.distinct hspelled
  refine ⟨hdistinct, fun table htable sql hword hothers => ?_, fun path headers rows summary hread hok hspelled' e he hsame => ?_⟩
  · have hne : table ≠ [] := by
      rintro rfl
      obtain ⟨-, word, -, -, hlower, hne, -⟩ := hword
      exact hne (List.map_eq_nil_iff.1 hlower)
    rw [tableContext_eq (HeaderMappings.nodup_tables _) hne (lower_mem_statementWords.2 hword), if_pos htable]
    intro other hother hspoken
    exact hdistinct other hother table htable (hothers other hother (lower_mem_statementWords.1 hspoken))
  · obtain ⟨headers', rows', hread', -, -, hadopted⟩ := Session.loadFile_loaded hok
    cases hread.symm.trans hread'
    rw [hadopted] at he
    rcases (Session.mem_entries_adopted _ _ _).1 he with hnew | ⟨hne, hold⟩
    · exact hnew
    · have htable := HeaderMappings.mem_tables.2 ⟨e, hold, rfl⟩
      exact absurd (haccounted.eq_of_sameName hcommits hnames hok hspelled' htable hsame) hne

end

open Sql (Database)

private def salesFiles : Disk :=
  let csv (text : String) : Node := .file (.bytes (Utf8.encode text.toList))
  ⟨[(["Sales.csv".toList], csv "名称\nx\n"), (["sales.csv".toList], csv "名称,数量\ny,z\n")]⟩

private def salesLoaded : Workspace Database :=
  ⟨(inMemory.session.loadFile salesFiles "Sales.csv".toList).state, salesFiles⟩

private def salesDropped : Workspace Database := (salesLoaded.execute (.sql "DROP TABLE Sales".toList)).state

private def salesBack (path : String) : Workspace Database :=
  { salesDropped with session := (salesDropped.session.loadFile salesDropped.disk path.toList).state }

private theorem salesDropped_eq :
    salesFiles.lookup Store.memoryLocation = Disk.empty.lookup Store.memoryLocation ∧
      (∀ temporary, (inMemory.session.store.database.catalog.schema temporary).Quiet "Sales".toList) ∧
      (inMemory.session.loadFile salesFiles "Sales.csv".toList).answer = .ok ⟨"Sales".toList, 1, 1⟩ ∧
      SparesTable salesLoaded.session.store.database
        (salesLoaded.session.store.run (salesLoaded.session.mappings.substitute "DROP TABLE Sales".toList)).1.database ∧
      salesLoaded.gone Database.semantics salesDropped = [.gone "Sales".toList] := by
  decide +kernel

private theorem reachedBy_salesDropped :
    salesDropped.ReachedBy Database.semantics [.loaded "Sales".toList, .gone "Sales".toList] := by
  obtain ⟨hlookup, hquiet, hload, hspares, hgone⟩ := salesDropped_eq
  obtain ⟨notes, hopen⟩ := openAt_inMemory
  have hbegun : ReachedBy Database.semantics inMemory [] := .opened hopen Database.opensStores.new
  have hfiles : ReachedBy Database.semantics { inMemory with disk := salesFiles } [] := hbegun.filesChanged hlookup
  have hloaded : ReachedBy Database.semantics salesLoaded [.loaded "Sales".toList] :=
    hfiles.loaded (fileLeaves_of_quiet hquiet salesFiles) hload
  have hdropped : ReachedBy Database.semantics (salesLoaded.execute (.sql "DROP TABLE Sales".toList)).state _ :=
    hloaded.executed hspares.spares
  rwa [show (salesLoaded.execute _).state = salesDropped from rfl, hgone] at hdropped

theorem mapped_tables_distinct_sales :
    (salesBack "Sales.csv").ReachedBy Database.semantics
        [.loaded "Sales".toList, .gone "Sales".toList, .loaded "Sales".toList] ∧
      SpelledAlike [.loaded "Sales".toList, .gone "Sales".toList, .loaded "Sales".toList] ∧
      (salesBack "Sales.csv").session.mappings.tables = ["Sales".toList] ∧
      tableContext "SELECT 名称 FROM SALES".toList (salesBack "Sales.csv").session.mappings.tables = some "Sales".toList := by
  have hfacts : ((∀ temporary, (salesDropped.session.store.database.catalog.schema temporary).Quiet "Sales".toList) ∧
        (salesDropped.session.loadFile salesDropped.disk "Sales.csv".toList).answer = .ok ⟨"Sales".toList, 1, 1⟩ ∧
        (salesBack "Sales.csv").session.mappings.tables = ["Sales".toList]) ∧
      SpelledAlike [.loaded "Sales".toList, .gone "Sales".toList, .loaded "Sales".toList] ∧
      Text.lower "Sales".toList ∈ statementWords "SELECT 名称 FROM SALES".toList := by
    decide +kernel
  obtain ⟨⟨hquiet, hload, htables⟩, hspelled, hword⟩ := hfacts
  have hreached := reachedBy_salesDropped.loaded (fileLeaves_of_quiet hquiet _) hload
  refine ⟨hreached, hspelled, htables, ?_⟩
  refine (mapped_tables_distinct Database.opensStores Database.keepsMappings Database.rollsBack Database.commits
    Database.namesTables Database.savesTables hreached hspelled).2.1 _ (htables ▸ List.mem_singleton_self _) _
    (lower_mem_statementWords.1 hword) fun other hother _ => ?_
  have hmem : other ∈ (salesBack "Sales.csv").session.mappings.tables := hother
  rw [htables, List.mem_singleton] at hmem
  rw [hmem]
  decide

/-- A name that comes back in another spelling leaves the mappings of the table that has gone beside those of the new
one, and a statement that speaks of the new one has no table for its context. -/
theorem mapped_tables_respelled :
    (salesBack "sales.csv").ReachedBy Database.semantics
        [.loaded "Sales".toList, .gone "Sales".toList, .loaded "sales".toList] ∧
      (salesBack "sales.csv").session.store.tables = .ok ["sales".toList] ∧
      (salesBack "sales.csv").session.mappings.entries =
        [⟨"Sales".toList, "名称".toList, "_1".toList⟩, ⟨"sales".toList, "名称".toList, "_1".toList⟩,
          ⟨"sales".toList, "数量".toList, "_2".toList⟩] ∧
      tableContext "SELECT 名称 FROM sales".toList (salesBack "sales.csv").session.mappings.tables = none := by
  have hfacts : ((∀ temporary, (salesDropped.session.store.database.catalog.schema temporary).Quiet "sales".toList) ∧
        (salesDropped.session.loadFile salesDropped.disk "sales.csv".toList).answer = .ok ⟨"sales".toList, 1, 2⟩) ∧
      (salesBack "sales.csv").session.store.tables = .ok ["sales".toList] ∧
      (salesBack "sales.csv").session.mappings.entries =
        [⟨"Sales".toList, "名称".toList, "_1".toList⟩, ⟨"sales".toList, "名称".toList, "_1".toList⟩,
          ⟨"sales".toList, "数量".toList, "_2".toList⟩] ∧
      tableContext "SELECT 名称 FROM sales".toList (salesBack "sales.csv").session.mappings.tables = none := by
    decide +kernel
  obtain ⟨⟨hquiet, hload⟩, htables⟩ := hfacts
  exact ⟨reachedBy_salesDropped.loaded (fileLeaves_of_quiet hquiet _) hload, htables⟩

end Workspace

end SheetQuery
