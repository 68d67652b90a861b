import SheetQuery.Proofs.Delimited.RoundTrip
import SheetQuery.Proofs.Session.Runs
import SheetQuery.Proofs.Sql.InMemory

/-!
# The last result

The last result is that of the last statement which showed one.  Loads, other commands, statements that fail, change
rows or define tables, and exports leave it alone.  An export writes it whole, since a result is rectangular.

* `Operation.shown?`: the result that an operation shows.
* `Operation.lastResult_apply`: what one operation does to the last result; `lastResult_eq_some` follows a run.
* `exportTo_writes`: an export of a rectangular result with rows.
* `export_lastShown`: after any run, an export writes what was shown last, or nothing.
-/

namespace SheetQuery

variable {C : Type}

/-! ### Exports -/

namespace Workspace

/-- The bytes of the file of a result. -/
def exported (listing : Listing) : Bytes :=
  Utf8.encode ((listing.headers :: listing.rows).flatMap Delimited.writeRecord)

theorem exportTo_nothing {w : Workspace C} (h : ∀ listing, w.session.lastResult = some listing → listing.rows = [])
    (path : Text) : w.exportTo path = .pure w (.error nothingToExport) := by
  have hnone : w.session.lastResult.filter (!·.rows.isEmpty) = none := by
    rw [Option.filter_eq_none_iff]
    intro listing hlisting
    simp [h listing hlisting]
  rw [exportTo, hnone]

theorem writeListing_even {disk : Disk} {path : Text} {listing : Listing}
    (heven : ∀ row ∈ listing.rows, row.length = listing.headers.length) :
    writeListing disk path listing =
      match disk.writable path with
      | .ok () => (disk.put path (.file (.bytes (exported listing))), .ok ())
      | .error fault =>
        (disk, .error ⟨"Creating output file ".toList ++ Text.quoted path, [fault.text]⟩) := by
  unfold writeListing Disk.create
  rw [Delimited.write_eq heven]
  cases disk.writable path with
  | ok u => rfl
  | error fault => rfl

/-- An export of a rectangular result with rows writes all of it, or leaves everything alone. -/
theorem exportTo_writes {w : Workspace C} {listing : Listing} (hlast : w.session.lastResult = some listing)
    (hrows : listing.rows ≠ []) (heven : ∀ row ∈ listing.rows, row.length = listing.headers.length) (path : Text) :
    (w.disk.writable path = .ok () →
      (w.exportTo path).answer = .ok (.exported path listing.rows.length) ∧
        (w.exportTo path).state = { w with disk := w.disk.put path (.file (.bytes (exported listing))) }) ∧
    ∀ fault, w.disk.writable path = .error fault →
      w.exportTo path =
        .pure w (.error ⟨"Creating output file ".toList ++ Text.quoted path, [fault.text]⟩) := by
  have hfilter : w.session.lastResult.filter (!·.rows.isEmpty) = some listing := by
    rw [hlast, Option.filter_some, if_pos (by simpa using hrows)]
  constructor
  · intro hwritable
    unfold exportTo
    rw [hfilter]
    dsimp only
    rw [writeListing_even heven, hwritable]
    exact ⟨rfl, rfl⟩
  · intro fault hfault
    unfold exportTo
    rw [hfilter]
    dsimp only
    rw [writeListing_even heven, hfault]

end Workspace

variable [Engine C]

/-! ### Runs -/

theorem Session.loadFile_lastResult (s : Session C) (disk : Disk) (path : Text) :
    (s.loadFile disk path).state.lastResult = s.lastResult :=
  loadFile_induction (p := fun s' => s'.lastResult = s.lastResult) rfl fun grid _ => s.loadGrid_lastResult _ grid

theorem Session.loadFiles_lastResult (s : Session C) (disk : Disk) (paths : List Text) :
    (s.loadFiles disk paths).state.lastResult = s.lastResult := by
  refine loadFiles_induction (p := fun s' => s'.lastResult = s.lastResult) (fun s' path h => ?_) rfl paths
  rw [loadFile_lastResult, h]

namespace Operation

/-- The result that an operation shows: only a statement of the user has one. -/
def shown? (w : Workspace C) : Operation → Option Listing
  | execute (.sql statement) => w.session.shown? statement
  | _ => none

/-- An operation that shows a result puts it in the place of the last one; any other leaves the last one alone. -/
theorem lastResult_apply (w : Workspace C) (op : Operation) :
    (op.apply w).session.lastResult = (op.shown? w).or w.session.lastResult := by
  cases op with
  | loadGrid table grid => exact w.session.loadGrid_lastResult table grid
  | loadFile path => exact w.session.loadFile_lastResult w.disk path
  | loadFiles paths => exact w.session.loadFiles_lastResult w.disk paths
  | changeFiles disk => rfl
  | execute command =>
    cases command with
    | sql statement =>
      rw [apply, Workspace.execute, Step.onState_state, Step.map_state]
      rw [Session.query_state, shown?]
    | exportTo path =>
      -- the file changes, and not the session
      have hsession : (w.exportTo path).state.session = w.session := by
        rcases w.exportTo_state path with h | ⟨content, -, h⟩
        · rw [h]
        · rw [h]
      exact congrArg (·.lastResult) hsession
    | exit | help | empty | tables | schema table | mappings => rfl

theorem length_of_shown {w : Workspace C} {op : Operation} {listing : Listing} (h : op.shown? w = some listing) :
    ∀ row ∈ listing.rows, row.length = listing.headers.length := by
  unfold shown? at h
  split at h
  · exact Session.length_of_shown h
  · cases h

end Operation

namespace Workspace

/-- One of the operations showed the result, and none of the later ones showed another. -/
def LastShown (w : Workspace C) (ops : List Operation) (listing : Listing) : Prop :=
  ∃ earlier op later, ops = earlier ++ op :: later ∧ op.shown? (w.afterAll earlier) = some listing ∧
    ∀ between next rest, later = between ++ next :: rest →
      next.shown? (w.afterAll (earlier ++ op :: between)) = none

private theorem lastShown_concat {w : Workspace C} {ops : List Operation} {op : Operation} {listing : Listing} :
    w.LastShown (ops ++ [op]) listing ↔
      op.shown? (w.afterAll ops) = some listing ∨ op.shown? (w.afterAll ops) = none ∧ w.LastShown ops listing := by
  constructor
  · rintro ⟨earlier, first, later, hops, hshown, hlater⟩
    cases later using List.reverseRecOn with
    | nil =>
      obtain ⟨rfl, hop⟩ := List.append_inj' hops rfl
      cases hop
      exact .inl hshown
    | append_singleton later last =>
      rw [← List.cons_append, ← List.append_assoc] at hops
      obtain ⟨rfl, hlast⟩ := List.append_inj' hops rfl
      cases hlast
      refine .inr ⟨hlater later op [] rfl, earlier, first, later, rfl, hshown, ?_⟩
      intro between next rest hsplit
      exact hlater between next (rest ++ [op]) (by rw [hsplit, List.append_assoc, List.cons_append])
  · rintro (hshown | ⟨hnone, earlier, first, later, rfl, hshown, hlater⟩)
    · exact ⟨ops, op, [], rfl, hshown, fun between next rest h => absurd h (by simp)⟩
    · refine ⟨earlier, first, later ++ [op], by simp, hshown, fun between next rest hsplit => ?_⟩
      cases rest using List.reverseRecOn with
      | nil =>
        -- the operation at the end
        obtain ⟨rfl, hop⟩ := List.append_inj' hsplit rfl
        cases hop
        exact hnone
      | append_singleton rest last =>
        rw [← List.cons_append, ← List.append_assoc] at hsplit
        exact hlater between next rest (List.append_inj' hsplit rfl).1

/-- In a session that begins without a last result, the last result is the one that was shown last. -/
theorem lastResult_eq_some {w : Workspace C} (hw : w.session.lastResult = none) {ops : List Operation}
    {listing : Listing} : (w.afterAll ops).session.lastResult = some listing ↔ w.LastShown ops listing := by
  -- by induction from the end: the last operation shows a result, or else the ones before it decide
  induction ops using List.reverseRecOn with
  | nil =>
    constructor
    · intro h
      exact absurd (hw.symm.trans h) (by simp)
    · rintro ⟨earlier, op, later, h, -⟩
      exact absurd h (by simp)
  | append_singleton ops op ih =>
    rw [afterAll_concat, Operation.lastResult_apply, lastShown_concat, Option.or_eq_some_iff, ih]

theorem LastShown.length_eq {w : Workspace C} {ops : List Operation} {listing : Listing} (h : w.LastShown ops listing) :
    ∀ row ∈ listing.rows, row.length = listing.headers.length := by
  obtain ⟨_, op, _, -, hshown, -⟩ := h
  exact Operation.length_of_shown hshown

/-- A session that starts has no last result. -/
theorem lastResult_of_start {store : Store C} {options : LoadOptions} {session : Session C} {notes : List Note}
    (h : Session.start store options = .ok ⟨session, (), notes⟩) : session.lastResult = none := by
  obtain ⟨stored, notes', -, hstart⟩ := Session.start_eq_ok h
  obtain ⟨rfl, -, -⟩ := Step.mk.inj hstart
  rfl

/-- After any run of operations from the start of a session, the last result is that of the last statement which
showed one, and it is rectangular.  An export without one, or with one that has no rows, fails and touches no file.
Otherwise the export writes all of it, a record for the headers and then one for each row, if the file can be made. -/
theorem export_lastShown {w : Workspace C} {store : Store C} {options : LoadOptions} {notes : List Note}
    (h : Session.start store options = .ok ⟨w.session, (), notes⟩) (ops : List Operation) (path : Text) :
    (∀ listing, (w.afterAll ops).session.lastResult = some listing ↔ w.LastShown ops listing) ∧
    ((∀ listing, w.LastShown ops listing → listing.rows = []) →
      (w.afterAll ops).execute (.exportTo path) = .pure (w.afterAll ops) (.error nothingToExport)) ∧
    ∀ listing, w.LastShown ops listing →
      (∀ row ∈ listing.rows, row.length = listing.headers.length) ∧
      (listing.rows ≠ [] → (w.afterAll ops).disk.writable path = .ok () →
        ((w.afterAll ops).execute (.exportTo path)).answer = .ok (.exported path listing.rows.length) ∧
          ((w.afterAll ops).execute (.exportTo path)).state.session = (w.afterAll ops).session ∧
          ((w.afterAll ops).execute (.exportTo path)).state.disk =
            (w.afterAll ops).disk.put path (.file (.bytes (exported listing))) ∧
          ((w.afterAll ops).execute (.exportTo path)).state.disk.lookup path =
            .ok (.file (.bytes (exported listing)))) ∧
      (listing.rows ≠ [] → ∀ fault, (w.afterAll ops).disk.writable path = .error fault →
        (w.afterAll ops).execute (.exportTo path) = .pure (w.afterAll ops)
          (.error ⟨"Creating output file ".toList ++ Text.quoted path, [fault.text]⟩)) := by
  have hlast : ∀ listing, (w.afterAll ops).session.lastResult = some listing ↔ w.LastShown ops listing :=
    fun listing => lastResult_eq_some (lastResult_of_start h)
  refine ⟨hlast, fun hempty => ?_, fun listing hshown => ⟨hshown.length_eq, ?_, ?_⟩⟩
  · exact exportTo_nothing (fun listing hresult => hempty listing ((hlast listing).1 hresult)) path
  · intro hrows hwritable
    obtain ⟨hanswer, hstate⟩ :=
      (exportTo_writes ((hlast listing).2 hshown) hrows hshown.length_eq path).1 hwritable
    have hexecute : (w.afterAll ops).execute (.exportTo path) = (w.afterAll ops).exportTo path := rfl
    rw [hexecute, hstate]
    exact ⟨hanswer, rfl, rfl, Disk.lookup_put hwritable⟩
  · intro hrows fault hfault
    exact (exportTo_writes ((hlast listing).2 hshown) hrows hshown.length_eq path).2 fault hfault

/-- A result is shown; then a statement fails, a grid is refused and an export fails. -/
private def shownThenRefused : List Operation :=
  [.execute (.sql "SELECT '\"' AS a, 1 AS b".toList), .execute (.sql "DROP TABLE u".toList), .loadGrid ['u'] [],
    .execute (.exportTo "u/a".toList)]

theorem export_lastShown_refused :
    (∃ notes, Session.start (.newAt Store.memoryLocation) .standard = .ok ⟨inMemory.session, (), notes⟩) ∧
      inMemory.LastShown shownThenRefused ⟨[['a'], ['b']], [[['"'], ['1']]]⟩ ∧
      ((inMemory.afterAll shownThenRefused).execute (.exportTo "a.csv".toList)).answer =
        .ok (.exported "a.csv".toList 1) ∧
      ((inMemory.afterAll shownThenRefused).execute (.exportTo "a.csv".toList)).state.disk.lookup "a.csv".toList =
        .ok (.file (.bytes (Utf8.encode "\"a\",\"b\"\n\"\"\"\",\"1\"\n".toList))) := by
  obtain ⟨notes, hstart⟩ := Session.start_newAt Store.memoryLocation
  obtain ⟨hlast, -, hexport⟩ := export_lastShown (w := inMemory) hstart shownThenRefused "a.csv".toList
  have hrun : (inMemory.afterAll shownThenRefused).session.lastResult = some ⟨[['a'], ['b']], [[['"'], ['1']]]⟩ ∧
      (inMemory.afterAll shownThenRefused).disk.writable "a.csv".toList = .ok () := by decide +kernel
  have hshown := (hlast _).1 hrun.1
  obtain ⟨-, hwritten, -⟩ := hexport _ hshown
  obtain ⟨hanswer, -, -, hfile⟩ := hwritten (by simp) hrun.2
  refine ⟨Session.start_newAt Store.memoryLocation, hshown, hanswer, hfile.trans ?_⟩
  decide +kernel

end Workspace

end SheetQuery
