import SheetQuery.Proofs.Engine.Semantics
import SheetQuery.Proofs.Outcome
import SheetQuery.Session.Query

/-!
# Statements of the user

What a statement does to a session, whatever it is: the store goes on as it does for the translated statement, and the
last result changes if the statement shows one.

* `Listing.length_of_ofAnswer`: rows are collected as wide as the headers.
* `Session.shown?`: the result that a statement shows; `Session.length_of_shown`: it is rectangular.
* `Session.query_state`, `Session.query_answer_eq_rows`, `Session.query_answer_eq_error`: the session behind a
  statement, and the reply.
-/

namespace SheetQuery

/-- The rows that are collected are those that the query yields, each as it is read. -/
theorem Answer.forall₂_of_collect {α : Type} {a : Answer} {read : List Sql.Value → Except Failure α} {taken : List α}
    (h : a.collect read = .ok taken) :
    List.Forall₂ (fun row b => read row = .ok b) a.rows taken ∧ a.failure = none := by
  unfold Answer.collect at h
  cases hrows : a.rows.mapM read with
  | error e =>
    rw [hrows] at h
    cases h
  | ok rows =>
    cases hfailure : a.failure with
    | some e =>
      rw [hrows, hfailure] at h
      cases h
    | none =>
      rw [hrows, hfailure] at h
      cases h
      exact ⟨mapM_eq_ok.1 hrows, rfl⟩

/-- A result has its headers, and in each row a member for each of them. -/
theorem Listing.length_of_ofAnswer {headers : List Text} {a : Answer} {listing : Listing}
    (h : Listing.ofAnswer headers a = .ok listing) :
    listing.headers = headers ∧ ∀ row ∈ listing.rows, row.length = headers.length := by
  unfold Listing.ofAnswer at h
  cases hrows : a.collect fun row => (List.range headers.length).mapM fun k => (memberAt row k).map (·.display) with
  | error e =>
    rw [hrows] at h
    cases h
  | ok rows =>
    rw [hrows] at h
    cases h
    refine ⟨rfl, fun row hrow => ?_⟩
    obtain ⟨hcollected, -⟩ := Answer.forall₂_of_collect hrows
    obtain ⟨k, hk, rfl⟩ := List.getElem_of_mem hrow
    have hmembers := (List.forall₂_iff_get.1 hcollected).2 k (hcollected.length_eq ▸ hk) hk
    have hlength := (mapM_eq_ok.1 hmembers).length_eq
    rwa [List.length_range, eq_comm] at hlength

/-- Rows with a member for each header are shown member by member. -/
theorem Listing.ofAnswer_rows {headers : List Text} {rows : List (List Sql.Value)}
    (h : ∀ row ∈ rows, row.length = headers.length) :
    Listing.ofAnswer headers ⟨rows, none⟩ = .ok ⟨headers, rows.map fun row => row.map (·.display)⟩ := by
  have hrows : rows.mapM (fun row => (List.range headers.length).mapM fun k => (memberAt row k).map (·.display)) =
      .ok (rows.map fun row => row.map (·.display)) := by
    rw [mapM_eq_ok, List.forall₂_map_right_iff, List.forall₂_same]
    intro row hrow
    rw [mapM_eq_ok, List.forall₂_iff_get]
    refine ⟨by rw [List.length_range, List.length_map, h row hrow], fun k hk hk' => ?_⟩
    rw [List.length_map] at hk'
    rw [List.get_eq_getElem, List.get_eq_getElem, List.getElem_range, List.getElem_map, memberAt,
      List.getElem?_eq_getElem hk']
    rfl
  unfold Listing.ofAnswer Answer.collect
  simp only [bind, Except.bind, hrows, pure, Except.pure]

namespace Session

variable {C : Type} [Engine C]

/-- The result that a statement of the user shows: the rows that the database has for it, and its columns with their
headers back. -/
def shown? (s : Session C) (sql : Text) : Option Listing :=
  match (s.store.run (s.mappings.substitute sql)).2 with
  | .ok (.rows listing) =>
    some { listing with headers := s.mappings.columnLabels (tableContext sql s.mappings.tables) listing.headers }
  | _ => none

/-- A statement changes the store, and the last result if it shows one. -/
theorem query_state (s : Session C) (sql : Text) :
    (s.query sql).state =
      { s with
        store := (s.store.run (s.mappings.substitute sql)).1
        lastResult := (s.shown? sql).or s.lastResult } := by
  unfold query substituted shown?
  dsimp only
  rcases s.store.run (s.mappings.substitute sql) with ⟨store, e | listing | count⟩
  · rfl
  · rfl
  · rfl

/-- The reply to a statement is the result that it shows, if it shows one. -/
theorem query_answer_eq_rows {s : Session C} {sql : Text} {listing : Listing} :
    (s.query sql).answer = .ok (.rows listing) ↔ s.shown? sql = some listing := by
  unfold query substituted shown?
  dsimp only
  rcases s.store.run (s.mappings.substitute sql) with ⟨store, e | shown | count⟩
  · simp only [reduceCtorEq]
  · simp only [Except.ok.injEq, QueryOutcome.rows.injEq, Option.some.injEq]
  · simp only [Except.ok.injEq, reduceCtorEq]

/-- A statement fails as it fails on the database of the store. -/
theorem query_answer_eq_error {s : Session C} {sql : Text} {e : Failure} :
    (s.query sql).answer = .error e ↔ (s.store.run (s.mappings.substitute sql)).2 = .error e := by
  unfold query substituted
  dsimp only
  rcases s.store.run (s.mappings.substitute sql) with ⟨store, e | shown | count⟩
  · rfl
  · simp only [reduceCtorEq]
  · simp only [reduceCtorEq]

end Session

namespace Store

variable {C : Type} [Engine C]

/-- A statement is run on the database of the store, as one without columns or as a query. -/
theorem run_cases (s : Store C) (sql : Text) :
    (∃ e, Engine.prepare s.database sql = .error e ∧ s.run sql = (s, .error e)) ∨
    (Engine.prepare s.database sql = .ok [] ∧
      s.run sql = ({ s with database := (Engine.execute s.database sql []).1 },
        (Engine.execute s.database sql []).2.map .affected)) ∨
    ∃ headers, headers ≠ [] ∧ Engine.prepare s.database sql = .ok headers ∧
      s.run sql = ({ s with database := (Engine.query s.database sql []).1 },
        (Listing.ofAnswer headers (Engine.query s.database sql []).2).map .rows) := by
  unfold run
  cases hprepare : Engine.prepare s.database sql with
  | error e => exact .inl ⟨e, rfl, rfl⟩
  | ok headers =>
    cases headers with
    | nil => exact .inr (.inl ⟨rfl, rfl⟩)
    | cons header headers => exact .inr (.inr ⟨_, List.cons_ne_nil _ _, rfl, rfl⟩)

theorem run_location (s : Store C) (sql : Text) : (s.run sql).1.location = s.location := by
  rcases s.run_cases sql with ⟨_, -, h⟩ | ⟨-, h⟩ | ⟨_, -, -, h⟩
  · rw [h]
  · rw [h]
  · rw [h]

theorem run_reachable {q : Option Content → Prop} {s : Store C} (h : Reachable q s.database) (sql : Text) :
    Reachable q (s.run sql).1.database := by
  rcases s.run_cases sql with ⟨_, -, hrun⟩ | ⟨-, hrun⟩ | ⟨_, -, -, hrun⟩
  · rw [hrun]
    exact h
  · rw [hrun]
    exact h.execute rfl
  · rw [hrun]
    exact h.query sql []

/-- The rows of a result are as wide as its headers. -/
theorem length_of_run {s : Store C} {sql : Text} {listing : Listing} (h : (s.run sql).2 = .ok (.rows listing)) :
    ∀ row ∈ listing.rows, row.length = listing.headers.length := by
  rcases s.run_cases sql with ⟨_, -, hrun⟩ | ⟨-, hrun⟩ | ⟨headers, -, -, hrun⟩
  · rw [hrun] at h
    cases h
  · rw [hrun] at h
    cases hanswer : (Engine.execute s.database sql []).2 with
    | error e =>
      rw [hanswer] at h
      cases h
    | ok count =>
      rw [hanswer] at h
      cases h
  · rw [hrun] at h
    cases hlisting : Listing.ofAnswer headers (Engine.query s.database sql []).2 with
    | error e =>
      rw [hlisting] at h
      cases h
    | ok shown =>
      rw [hlisting] at h
      cases h
      obtain ⟨hheaders, hrows⟩ := Listing.length_of_ofAnswer hlisting
      rw [hheaders]
      exact hrows

end Store

/-- What is shown is rectangular. -/
theorem Session.length_of_shown {C : Type} [Engine C] {s : Session C} {sql : Text} {listing : Listing}
    (h : s.shown? sql = some listing) : ∀ row ∈ listing.rows, row.length = listing.headers.length := by
  unfold shown? at h
  split at h
  · rename_i result hrun
    obtain rfl := Option.some.inj h
    intro row hrow
    rw [Store.length_of_run hrun row hrow, HeaderMappings.columnLabels, List.length_map]
  · cases h

end SheetQuery
