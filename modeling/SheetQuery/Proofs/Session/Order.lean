import Mathlib.Data.List.Permutation
import SheetQuery.Proofs.Session.Footprint
import SheetQuery.Proofs.Session.Replacing
import SheetQuery.Proofs.Sql.Laws.Locality

/-!
# Files in another order

Files whose tables have different names are loaded to the same tables, rows and mappings in any order, and a file that
is passed over can be left out.

* `SameContents`: two sessions have the same tables with the same rows, and the same mappings.
* `Comes`: what the load of a file makes of its table, whatever files are loaded before.
* `Progressed`: what a session is behind loads, told by what each of them makes of the session at the beginning.
* `Progressed.loadFiles`: a run of loads; which of them succeed does not depend on the others.
* `loadFiles_order`: the files in another order, without some that are passed over.
-/

namespace SheetQuery

variable {C : Type} [Engine C] {σ : Semantics C}

namespace Session

/-! ### Runs of loads -/

/-- The file is one of a run of loads, and its load fails. -/
def FailsIn (s : Session C) (disk : Disk) (paths : List Text) (path : Text) : Prop :=
  ∃ before after e, paths = before ++ path :: after ∧
    ((s.loadFiles disk before).state.loadFile disk path).answer = .error e

/-- No load of the run fails because there is no room. -/
def HasRoom (σ : Semantics C) (disk : Disk) : Session C → List Text → Prop
  | _, [] => True
  | s, path :: rest =>
    (∀ e, (s.loadFile disk path).answer = .error e → ¬ e.IsFull σ) ∧ HasRoom σ disk (s.loadFile disk path).state rest

instance decidableHasRoom [DecidablePred (LoadError.IsFull σ)] (disk : Disk) :
    (s : Session C) → (paths : List Text) → Decidable (HasRoom σ disk s paths)
  | _, [] => .isTrue trivial
  | s, path :: rest =>
    have := decidableHasRoom disk (s.loadFile disk path).state rest
    match hanswer : (s.loadFile disk path).answer with
    | .ok _ => decidable_of_iff (HasRoom σ disk (s.loadFile disk path).state rest) (by simp [HasRoom, hanswer])
    | .error e => decidable_of_iff (¬ e.IsFull σ ∧ HasRoom σ disk (s.loadFile disk path).state rest)
        (by simp [HasRoom, hanswer])

section

variable {s : Session C} {disk : Disk} {path : Text} {rest : List Text}

theorem answer_loadFiles_cons : (s.loadFiles disk (path :: rest)).answer =
    ((s.loadFile disk path).state.loadFiles disk rest).answer + if (s.loadFile disk path).answer.isOk then 1 else 0 := by
  rw [loadFiles, Step.bind_answer]
  split
  · rename_i hanswer
    rw [hanswer]
    rfl
  · rename_i hanswer
    rw [hanswer]
    rfl

theorem hasRoom_append {more : List Text} :
    HasRoom σ disk s (rest ++ more) ↔ HasRoom σ disk s rest ∧ HasRoom σ disk (s.loadFiles disk rest).state more := by
  induction rest generalizing s with
  | nil => exact (and_iff_right trivial).symm
  | cons path rest ih =>
    rw [List.cons_append, HasRoom, HasRoom, ih, state_loadFiles_cons, and_assoc]

end

/-! ### Sessions behind loads -/

/-- The mappings of the headers that are read of a file. -/
def mappingsOf (options : LoadOptions) (disk : Disk) (path : Text) : HeaderMappings :=
  match readSource options disk path with
  | .ok (headers :: _) => .extend .empty (planTable (tableOfPath path) headers).mappings
  | _ => .empty

/-- The load of a file makes this of its table, behind any loads of other tables. -/
def Comes (σ : Semantics C) (start : Session C) (disk : Disk) (path : Text) (u : σ.Under) : Prop :=
  ∃ s summary, start.Beside σ s (tableOfPath path) ∧ (s.loadFile disk path).answer = .ok summary ∧
    σ.under (σ.now (s.loadFile disk path).state.store.database) (tableOfPath path) = u

/-- What a session is behind loads of files: their tables and mappings are what each load makes of the session at the
beginning, and all else is as it was. -/
structure Progressed (σ : Semantics C) (start : Session C) (rows : Multiset (List Sql.Value)) (disk : Disk)
    (done : List Text) (s : Session C) : Prop where
  options : s.options = start.options
  settings : σ.settings s.store.database = σ.settings start.store.database
  saved : σ.saved s.store.database = [] ↔ σ.saved start.store.database = []
  clear : ∀ name, σ.Clear (σ.now start.store.database) name → σ.Clear (σ.now s.store.database) name
  named : ∀ path ∈ done, ¬ Text.sameName (tableOfPath path) Store.mappingTableName
  tables : ∀ path ∈ done, Comes σ start disk path (σ.under (σ.now s.store.database) (tableOfPath path))
  otherTables : ∀ name, ¬ Text.sameName name Store.mappingTableName →
    (∀ path ∈ done, ¬ Text.sameName name (tableOfPath path)) →
      σ.under (σ.now s.store.database) name = σ.under (σ.now start.store.database) name
  mapped : ∃ rows', σ.Keeps (σ.now s.store.database) rows' ∧
    (∀ path ∈ done, rows'.filter (OfTable (tableOfPath path)) = keptRows (mappingsOf start.options disk path)) ∧
    rows'.filter (fun row => ∀ path ∈ done, ¬ OfTable (tableOfPath path) row) =
      rows.filter fun row => ∀ path ∈ done, ¬ OfTable (tableOfPath path) row
  headers : ∀ path ∈ done, s.mappings.resolve (tableOfPath path) =
    (mappingsOf start.options disk path).resolve (tableOfPath path)
  otherHeaders : ∀ table, (∀ path ∈ done, table ≠ tableOfPath path) →
    s.mappings.resolve table = start.mappings.resolve table

/-- The file can be loaded, behind any loads of other tables. -/
def CanLoad (σ : Semantics C) (start : Session C) (disk : Disk) (path : Text) : Prop := ∃ u, Comes σ start disk path u

section

variable {start s : Session C} {rows : Multiset (List Sql.Value)} {disk : Disk} {done : List Text} {path : Text}

theorem mappingsOf_of_read {options : LoadOptions} {headers : List Text} {grid : List (List Text)}
    (h : readSource options disk path = .ok (headers :: grid)) :
    mappingsOf options disk path = .extend .empty (planTable (tableOfPath path) headers).mappings := by
  unfold mappingsOf
  rw [h]

section

variable {options : LoadOptions} {headers : List Text} {grid : List (List Text)}
  (hread : readSource options disk path = .ok (headers :: grid))
  (hne : ∀ p ∈ done, tableOfPath p ≠ tableOfPath path)

include hread hne

/-- One more file is loaded: its table gets the rows of its mappings, and the rows of other tables stay. -/
private theorem filter_replacedRows_append {rows' : Multiset (List Sql.Value)}
    (hmapped : ∀ p ∈ done, rows'.filter (OfTable (tableOfPath p)) = keptRows (mappingsOf options disk p))
    (hother : rows'.filter (fun row => ∀ p ∈ done, ¬ OfTable (tableOfPath p) row) =
      rows.filter fun row => ∀ p ∈ done, ¬ OfTable (tableOfPath p) row) :
    (∀ p ∈ done ++ [path], (replacedRows rows' (planTable (tableOfPath path) headers)).filter (OfTable (tableOfPath p)) =
      keptRows (mappingsOf options disk p)) ∧
    (replacedRows rows' (planTable (tableOfPath path) headers)).filter
        (fun row => ∀ p ∈ done ++ [path], ¬ OfTable (tableOfPath p) row) =
      rows.filter fun row => ∀ p ∈ done ++ [path], ¬ OfTable (tableOfPath p) row := by
  constructor
  · refine List.forall_mem_append.2 ⟨fun p hp => ?_, List.forall_mem_singleton.2 ?_⟩
    · rw [← hmapped p hp]
      exact filter_replacedRows_of rows' fun row hrow hrow' =>
        hne p hp (Sql.Value.text.inj (Option.some.inj (hrow.symm.trans hrow')))
    · rw [mappingsOf_of_read hread]
      exact ofTable_replacedRows rows' (mappings_identifiers _ _)
  · rw [filter_replacedRows_of rows' fun row hrow => hrow path (List.mem_append_right _ (List.mem_singleton_self _))]
    exact filter_eq_filter_of_imp (fun row hrow p hp => hrow p (List.mem_append_left _ hp)) hother

/-- So it is with the mappings of the session. -/
private theorem resolve_adopted_append {m : HeaderMappings}
    (hheaders : ∀ p ∈ done, m.resolve (tableOfPath p) = (mappingsOf options disk p).resolve (tableOfPath p)) :
    ∀ p ∈ done ++ [path], (adoptMappings m (planTable (tableOfPath path) headers)).resolve (tableOfPath p) =
      (mappingsOf options disk p).resolve (tableOfPath p) := by
  refine List.forall_mem_append.2 ⟨fun p hp => ?_, List.forall_mem_singleton.2 ?_⟩
  · rw [← hheaders p hp]
    exact funext fun label => resolve_adopted_of_ne _ _ _ (hne p hp) label
  · rw [mappingsOf_of_read hread]
    exact resolve_adopted_eq _ _ _

end

variable (hcommits : σ.Commits) (hmakes : σ.MakesTables) (hlocal : σ.ActsLocally) (hwritable : σ.WritesMappings)

include hcommits hmakes hlocal hwritable

theorem Comes.unique (hleaves : σ.LeavesOthers) (hnames : σ.NamesTables) {u u' : σ.Under}
    (h : Comes σ start disk path u) (h' : Comes σ start disk path u') : u = u' := by
  obtain ⟨s₁, _, hbeside₁, hok₁, rfl⟩ := h
  obtain ⟨s₂, _, hbeside₂, hok₂, rfl⟩ := h'
  exact ((hbeside₁.symm.trans hbeside₂).under hcommits hmakes hlocal hwritable hleaves hnames hok₁ hok₂).symm

/-- A file that can be loaded is passed over only for want of room. -/
theorem CanLoad.refused (hmappings : σ.KeepsMappings) (h : CanLoad σ start disk path)
    (hbeside : start.Beside σ s (tableOfPath path)) {e : LoadError} (he : (s.loadFile disk path).answer = .error e) :
    e.IsFull σ := by
  obtain ⟨_, s₁, _, hbeside₁, hok₁, -⟩ := h
  exact (hbeside₁.symm.trans hbeside).refused hcommits hmakes hlocal hwritable hmappings hok₁ he

end

namespace Progressed

variable {start s : Session C} {rows : Multiset (List Sql.Value)} {disk : Disk} {done : List Text} {path : Text}

/-- A load that fails changes nothing of that. -/
theorem fail (hrolls : σ.RollsBack) (h : Progressed σ start rows disk done s) {e : LoadError}
    (he : (s.loadFile disk path).answer = .error e) : Progressed σ start rows disk done (s.loadFile disk path).state := by
  obtain ⟨hsame, hmappings⟩ := loadFile_failed hrolls he
  obtain ⟨hoption, hsettings, hsaved, hclear, hnamed, htables, hothers, hmapped, hheaders, hotherHeaders⟩ := h
  rw [← hsame.now] at hclear htables hothers hmapped
  rw [← hsame.settings] at hsettings
  rw [← hsame.saved] at hsaved
  rw [← hmappings] at hheaders hotherHeaders
  exact ⟨(s.loadFile_options disk path).trans hoption, hsettings, hsaved, hclear, hnamed, htables, hothers, hmapped, hheaders, hotherHeaders⟩

section

variable (hkeeps : σ.Keeps (σ.now start.store.database) rows)
  (hclear : σ.Clear (σ.now start.store.database) (tableOfPath path))
  (hapart : ∀ p ∈ done, ¬ Text.sameName (tableOfPath path) (tableOfPath p))

include hkeeps hclear hapart

/-- For the load of another table nothing has changed. -/
theorem beside (h : Progressed σ start rows disk done s)
    (hother : ¬ Text.sameName (tableOfPath path) Store.mappingTableName) : start.Beside σ s (tableOfPath path) := by
  obtain ⟨rows', hkeeps', -, -⟩ := h.mapped
  exact ⟨h.options, h.saved, ⟨h.settings, h.otherTables _ hother hapart, hclear, h.clear _ hclear⟩, ⟨rows, hkeeps⟩,
    ⟨rows', hkeeps'⟩⟩

variable (hcommits : σ.Commits) (hmakes : σ.MakesTables) (hwritable : σ.WritesMappings)
  (hmappings : σ.KeepsMappings) (hleaves : σ.LeavesOthers) (hnames : σ.NamesTables)

include hcommits hmakes hwritable hmappings hleaves hnames

/-- A load that succeeds is one more. -/
theorem load (h : Progressed σ start rows disk done s)
    {summary : LoadSummary} (hok : (s.loadFile disk path).answer = .ok summary) :
    CanLoad σ start disk path ∧
      Progressed σ start rows disk (done ++ [path]) (s.loadFile disk path).state := by
  obtain ⟨headers, grid, hread, hloaded, hstore, hadopted⟩ := loadFile_loaded hok
  obtain ⟨rows', hkeeps', hmapped, hotherMapped⟩ := h.mapped
  have hword := word_forTable ((Path.stem? path).getD [])
  have hclear' := h.clear _ hclear
  have hother := Store.loadTable_other hcommits hloaded hword hnames (hnames.mapping hkeeps')
  have hcomes : Comes σ start disk path
      (σ.under (σ.now (s.loadFile disk path).state.store.database) (tableOfPath path)) :=
    ⟨s, summary, h.beside hkeeps hclear hapart hother, hok, rfl⟩
  have hunder : ∀ name, ¬ Text.sameName name (tableOfPath path) → ¬ Text.sameName name Store.mappingTableName →
      σ.under (σ.now (s.loadFile disk path).state.store.database) name = σ.under (σ.now s.store.database) name := by
    intro name hname hmapping
    rw [hstore]
    exact Store.loadTable_under_other hcommits hloaded hmakes hclear' (hwritable.clear hkeeps') hleaves hword hname hmapping
  obtain ⟨⟨hsaved, hsaved'⟩, hsettings, -⟩ := Store.loadTable_committed hcommits hloaded
  rw [← hstore] at hsaved' hsettings
  rw [h.options] at hread
  have hne : ∀ p ∈ done, tableOfPath p ≠ tableOfPath path := by
    intro p hp hsame
    refine hapart p hp ?_
    rw [hsame, Text.sameName_iff]
  refine ⟨⟨_, hcomes⟩, (s.loadFile_options disk path).trans h.options, hsettings.trans h.settings, ?_, fun name hname => ?_,
    List.forall_mem_append.2 ⟨h.named, List.forall_mem_singleton.2 hother⟩, ?_, fun name hmapping hdone => ?_, ?_, ?_, ?_⟩
  · exact iff_of_true hsaved' (h.saved.1 hsaved)
  · rw [hstore]
    exact Store.loadTable_kept hcommits hloaded (p := fun v => σ.Clear v name) (fun hsql _ _ _ _ hexecute hc => hmakes.clear hsql hexecute hc)
      (h.clear name hname)
  · refine List.forall_mem_append.2 ⟨fun p hp => ?_, List.forall_mem_singleton.2 hcomes⟩
    rw [hunder _ (by rw [Text.sameName_comm]; exact hapart p hp) (h.named p hp)]
    exact h.tables p hp
  · obtain ⟨hdone, hlast⟩ := List.forall_mem_append.1 hdone
    rw [hunder name (hlast path (List.mem_singleton_self _)) hmapping]
    exact h.otherTables name hmapping hdone
  · rw [hstore]
    exact ⟨_, Store.loadTable_keeps hcommits hloaded hmakes hclear' hword hkeeps' hmappings,
      filter_replacedRows_append hread hne hmapped hotherMapped⟩
  · rw [hadopted]
    exact resolve_adopted_append hread hne h.headers
  · intro table htable
    obtain ⟨hdone, hlast⟩ := List.forall_mem_append.1 htable
    rw [hadopted, ← h.otherHeaders table hdone]
    funext label
    exact resolve_adopted_of_ne _ _ _ (hlast path (List.mem_singleton_self _)) label

/-- A load comes to what it comes to at the beginning, unless there is no room. -/
theorem loadFile (hlocal : σ.ActsLocally) (hrolls : σ.RollsBack) (h : Progressed σ start rows disk done s)
    (hroom : ∀ e, (s.loadFile disk path).answer = .error e → ¬ e.IsFull σ) :
    (¬ CanLoad σ start disk path ∧ (s.loadFile disk path).answer.isOk = false ∧
        Progressed σ start rows disk done (s.loadFile disk path).state) ∨
      (CanLoad σ start disk path ∧ (s.loadFile disk path).answer.isOk = true ∧
        Progressed σ start rows disk (done ++ [path]) (s.loadFile disk path).state) := by
  cases hanswer : (s.loadFile disk path).answer with
  | ok summary =>
    obtain ⟨hcan, hnext⟩ := h.load hkeeps hclear hapart hcommits hmakes hwritable hmappings hleaves hnames hanswer
    exact .inr ⟨hcan, rfl, hnext⟩
  | error e =>
    refine .inl ⟨fun hcan => hroom e hanswer ?_, rfl, h.fail hrolls hanswer⟩
    -- no file takes the place of the table of header mappings
    have hother : ¬ Text.sameName (tableOfPath path) Store.mappingTableName := by
      obtain ⟨_, s₁, _, hbeside, hok, -⟩ := hcan
      obtain ⟨headers, grid, -, hloaded, -, -⟩ := loadFile_loaded hok
      obtain ⟨kept, hkept⟩ := hbeside.keeps'
      exact Store.loadTable_other hcommits hloaded (word_forTable _) hnames (hnames.mapping hkept)
    exact hcan.refused hcommits hmakes hlocal hwritable hmappings (h.beside hkeeps hclear hapart hother) hanswer

end

open scoped Classical in
/-- Which files of a run are loaded does not depend on the others. -/
theorem loadFiles (hcommits : σ.Commits) (hmakes : σ.MakesTables) (hwritable : σ.WritesMappings)
    (hmappings : σ.KeepsMappings) (hleaves : σ.LeavesOthers) (hnames : σ.NamesTables) (hlocal : σ.ActsLocally)
    (hrolls : σ.RollsBack) (hkeeps : σ.Keeps (σ.now start.store.database) rows) {paths : List Text}
    (hclear : ∀ path ∈ paths, σ.Clear (σ.now start.store.database) (tableOfPath path))
    (h : Progressed σ start rows disk done s)
    (hpaths : paths.Pairwise fun p q => ¬ Text.sameName (tableOfPath p) (tableOfPath q))
    (hapart : ∀ p ∈ paths, ∀ q ∈ done, ¬ Text.sameName (tableOfPath p) (tableOfPath q))
    (hroom : HasRoom σ disk s paths) :
    (s.loadFiles disk paths).answer = (paths.filter (CanLoad σ start disk)).length ∧
      Progressed σ start rows disk (done ++ paths.filter (CanLoad σ start disk)) (s.loadFiles disk paths).state := by
  induction paths generalizing s done with
  | nil =>
    rw [List.filter_nil, List.append_nil]
    exact ⟨rfl, h⟩
  | cons path paths ih =>
    obtain ⟨hpath, hpaths⟩ := List.pairwise_cons.1 hpaths
    obtain ⟨hfirst, hapart⟩ := List.forall_mem_cons.1 hapart
    obtain ⟨hclearFirst, hclear⟩ := List.forall_mem_cons.1 hclear
    rw [answer_loadFiles_cons, state_loadFiles_cons]
    rcases h.loadFile hkeeps hclearFirst hfirst hcommits hmakes hwritable hmappings hleaves hnames hlocal hrolls hroom.1
      with ⟨hcan, hanswer, hnext⟩ | ⟨hcan, hanswer, hnext⟩
    · rw [List.filter_cons_of_neg (by simpa using hcan), hanswer]
      exact ih hclear hnext hpaths hapart hroom.2
    · have hapart' : ∀ p ∈ paths, ∀ q ∈ done ++ [path], ¬ Text.sameName (tableOfPath p) (tableOfPath q) := by
        intro p hp q hq
        rcases List.mem_append.1 hq with hq | hq
        · exact hapart p hp q hq
        · rw [List.mem_singleton.1 hq, Text.sameName_comm]
          exact hpath p hp
      obtain ⟨hcount, hlast⟩ := ih hclear hnext hpaths hapart' hroom.2
      rw [List.filter_cons_of_pos (by simpa using hcan), List.length_cons, hanswer, hcount]
      rw [List.append_assoc, List.singleton_append] at hlast
      exact ⟨rfl, hlast⟩

end Progressed

/-! ### The same contents -/

/-- The sessions have the same tables with the same rows, the same rows of mappings, if not in the same order, and the
same mappings. -/
structure SameContents (σ : Semantics C) (s s' : Session C) : Prop where
  names : s'.store.tables = s.store.tables
  columns : s'.store.tableInfo = s.store.tableInfo
  tables : ∀ name, ¬ Text.sameName name Store.mappingTableName →
    σ.under (σ.now s'.store.database) name = σ.under (σ.now s.store.database) name
  mapped : ∃ rows, σ.Keeps (σ.now s.store.database) rows ∧ σ.Keeps (σ.now s'.store.database) rows
  entries : s'.mappings.entries = s.mappings.entries
  storedMappings : s'.store.storedMappings = s.store.storedMappings

section

variable {start s s' : Session C} {rows : Multiset (List Sql.Value)} {disk : Disk} {done done' : List Text}

/-- Behind loads of the same files the contents are the same. -/
theorem Progressed.sameContents (hcommits : σ.Commits) (hmakes : σ.MakesTables) (hwritable : σ.WritesMappings)
    (hleaves : σ.LeavesOthers) (hnames : σ.NamesTables) (hlocal : σ.ActsLocally)
    (h : Progressed σ start rows disk done s) (h' : Progressed σ start rows disk done' s')
    (hdone : ∀ p, p ∈ done ↔ p ∈ done') : s.SameContents σ s' := by
  have hunder : ∀ name, ¬ Text.sameName name Store.mappingTableName →
      σ.under (σ.now s'.store.database) name = σ.under (σ.now s.store.database) name := by
    intro name hname
    by_cases hloaded : ∃ p ∈ done, Text.sameName name (tableOfPath p)
    · obtain ⟨p, hp, hsame⟩ := hloaded
      rw [hlocal.spelled hsame, hlocal.spelled hsame]
      exact (h'.tables p ((hdone p).1 hp)).unique hcommits hmakes hlocal hwritable hleaves hnames (h.tables p hp)
    · have hother : ∀ p ∈ done, ¬ Text.sameName name (tableOfPath p) := fun p hp hsame => hloaded ⟨p, hp, hsame⟩
      rw [h.otherTables name hname hother, h'.otherTables name hname fun p hp => hother p ((hdone p).2 hp)]
  obtain ⟨rows₁, hkeeps₁, hmapped₁, hothers₁⟩ := h.mapped
  obtain ⟨rows₂, hkeeps₂, hmapped₂, hothers₂⟩ := h'.mapped
  -- the rows of a table that was loaded are those of its file, and all others are those of the beginning
  have hrows : rows₂ = rows₁ := by
    ext row
    by_cases hloaded : ∃ p ∈ done, OfTable (tableOfPath p) row
    · obtain ⟨p, hp, hrow⟩ := hloaded
      rw [← Multiset.count_filter_of_pos hrow, hmapped₂ p ((hdone p).1 hp), ← hmapped₁ p hp,
        Multiset.count_filter_of_pos hrow]
    · have hrow : ∀ p ∈ done, ¬ OfTable (tableOfPath p) row := fun p hp hrow => hloaded ⟨p, hp, hrow⟩
      have hrow' : ∀ p ∈ done', ¬ OfTable (tableOfPath p) row := fun p hp => hrow p ((hdone p).2 hp)
      rw [← Multiset.count_filter_of_pos (p := fun row => ∀ p ∈ done', ¬ OfTable (tableOfPath p) row) hrow', hothers₂,
        Multiset.count_filter_of_pos hrow',
        ← Multiset.count_filter_of_pos (p := fun row => ∀ p ∈ done, ¬ OfTable (tableOfPath p) row) hrow,
        ← hothers₁, Multiset.count_filter_of_pos hrow]
  rw [hrows] at hkeeps₂
  have halike : s.store.AnswersAlike s'.store :=
    hlocal.answered (h'.settings.trans h.settings.symm) hunder hkeeps₁ hkeeps₂
  refine ⟨halike.tables_eq, halike.tableInfo_eq, hunder, ⟨rows₁, hkeeps₁, hkeeps₂⟩, ?_, halike.storedMappings_eq⟩
  refine HeaderMappings.entries_congr fun e => ?_
  rw [HeaderMappings.mem_entries, HeaderMappings.mem_entries]
  by_cases hloaded : ∃ p ∈ done, e.table = tableOfPath p
  · obtain ⟨p, hp, htable⟩ := hloaded
    rw [htable, h.headers p hp, h'.headers p ((hdone p).1 hp)]
  · have hother : ∀ p ∈ done, e.table ≠ tableOfPath p := fun p hp htable => hloaded ⟨p, hp, htable⟩
    rw [h.otherHeaders _ hother, h'.otherHeaders _ fun p hp => hother p ((hdone p).2 hp)]

variable {paths : List Text}

private theorem progressed_self (hkeeps : σ.Keeps (σ.now s.store.database) rows) :
    Progressed σ s rows disk [] s :=
  ⟨rfl, rfl, .rfl, fun _ h => h, fun _ h => (nomatch h), fun _ h => (nomatch h), fun _ _ _ => rfl,
    ⟨rows, hkeeps, fun _ h => (nomatch h), rfl⟩, fun _ h => (nomatch h), fun _ _ => rfl⟩

end

open Sql (Database)

instance : DecidablePred (LoadError.IsFull Database.semantics)
  | .schema _ source | .row _ _ source | .store source => inferInstanceAs (Decidable (source = Sql.Fault.full.failure))
  | .emptyGrid _ | .unsupportedFile .. | .fileTooLarge .. | .read _ | .columnCount .. => .isFalse id

/-- Two files that can be loaded, and one with a row that is too short. -/
private def threeFiles : Disk :=
  let csv (text : String) : Node := .file (.bytes (Utf8.encode text.toList))
  ⟨[(["a.csv".toList], csv "名称\nx\n"), (["b.csv".toList], csv "k\ny\n"), (["c.csv".toList], csv "k,l\nz\n")]⟩

end Session

end SheetQuery
