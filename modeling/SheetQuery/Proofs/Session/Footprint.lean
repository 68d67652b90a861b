import SheetQuery.Proofs.Session.Atomicity
import SheetQuery.Proofs.Session.GridLoads

/-!
# What a load depends on

Whether a load succeeds, and what it makes of its table, depends on what is under the name of the table, and on nothing
else that other loads change.  So two sessions that agree there come to the same with the same file, as long as there
is room.

* `Session.Beside`: the sessions differ in what loads of other tables may change.
* `Store.loadTable_under`, `Session.loadFile_under`: what they make of the table.
* `Store.loadTable_refused`, `Session.loadFile_refused`: a load that succeeds in one fails in the other only for want of
  room.
-/

namespace SheetQuery

variable {C : Type} {σ : Semantics C}

namespace Session

/-- What loads of other tables leave alone for the load of a table: the session reads files in the same way, a
transaction can be begun as before, and the same is under the name of the table. -/
structure Beside (σ : Semantics C) (s₁ s₂ : Session C) (table : Text) : Prop where
  options : s₂.options = s₁.options
  saved : σ.saved s₂.store.database = [] ↔ σ.saved s₁.store.database = []
  alike : σ.Alike table s₁.store.database s₂.store.database
  keeps : ∃ kept, σ.Keeps (σ.now s₁.store.database) kept
  keeps' : ∃ kept, σ.Keeps (σ.now s₂.store.database) kept

theorem Beside.symm {s₁ s₂ : Session C} {table : Text} (h : s₁.Beside σ s₂ table) : s₂.Beside σ s₁ table :=
  ⟨h.options.symm, h.saved.symm, h.alike.symm, h.keeps', h.keeps⟩

theorem Beside.trans {s₁ s₂ s₃ : Session C} {table : Text} (h : s₁.Beside σ s₂ table) (h' : s₂.Beside σ s₃ table) :
    s₁.Beside σ s₃ table :=
  ⟨h'.options.trans h.options, h'.saved.trans h.saved, h.alike.trans h'.alike, h.keeps, h'.keeps'⟩

end Session

variable [Engine C]

/-- The two runs come to the same with what is under the name, unless the second is out of room. -/
private def Together (σ : Semantics C) (name : Text) (c₁ c₂ : C) (answer : Except LoadError Unit) : Prop :=
  (answer = .ok () → σ.Alike name c₁ c₂) ∧ ∀ e, answer = .error e → e.IsFull σ

namespace Store

variable {c₁ c₁' c₂ c₂' : C} {table : Text} {headers : List Text} {rows : List (List Text)}

private theorem alike_begun (hcommits : σ.Commits) (h : σ.Alike table c₁ c₂) (h₁ : Engine.begin c₁ = (c₁', .ok ()))
    (h₂ : Engine.begin c₂ = (c₂', .ok ())) : σ.Alike table c₁' c₂' := by
  obtain ⟨-, hnow₁, hsettings₁⟩ := hcommits.begin_ok h₁
  obtain ⟨-, hnow₂, hsettings₂⟩ := hcommits.begin_ok h₂
  obtain ⟨hsettings, hunder, hclear, hclear'⟩ := h
  refine ⟨?_, ?_, ?_, ?_⟩
  · rw [hsettings₁, hsettings₂, hsettings]
  · rw [hnow₁, hnow₂, hunder]
  · rwa [hnow₁]
  · rwa [hnow₂]

section

variable (hcommits : σ.Commits) (hmakes : σ.MakesTables) (hlocal : σ.ActsLocally)

include hcommits hmakes hlocal

private theorem alike_executed (h : σ.Alike table c₁ c₂) (hword : table.all Identifier.isWordChar) {sql : Text}
    (hsql : sql = (planTable table headers).createSql ∨ sql = (planTable table headers).insertSql)
    {parameters : List Sql.Value} {n₁ n₂ : Nat} (h₁ : Engine.execute c₁ sql parameters = (c₁', .ok n₁))
    (h₂ : Engine.execute c₂ sql parameters = (c₂', .ok n₂)) : σ.Alike table c₁' c₂' := by
  have hload : LoadStatement sql := by
    rcases hsql with rfl | rfl
    · exact .create table headers
    · exact .insert table headers
  refine ⟨?_, hlocal.executed h hword hsql h₁ h₂, hmakes.clear hload h₁ h.clear, hmakes.clear hload h₂ h.clear'⟩
  rw [hcommits.settings hload h₁, hcommits.settings hload h₂, h.settings]

private theorem insertRows_together (h : σ.Alike table c₁ c₂) (hword : table.all Identifier.isWordChar) (row : Nat)
    (h₁ : insertRows (planTable table headers) c₁ row rows = (c₁', .ok ())) :
    Together σ table c₁' (insertRows (planTable table headers) c₂ row rows).1
      (insertRows (planTable table headers) c₂ row rows).2 := by
  induction rows generalizing c₁ c₂ row with
  | nil =>
    cases h₁
    refine ⟨fun _ => h, fun _ he => ?_⟩
    cases he
  | cons cells rows ih =>
    rw [insertRows] at h₁ ⊢
    split_ifs at h₁ ⊢ with hcells
    · split at h₁
      · rename_i hinsert₁
        split
        · rename_i hinsert₂
          exact ih (alike_executed hcommits hmakes hlocal h hword (.inr rfl) hinsert₁ hinsert₂) _ h₁
        · rename_i hinsert₂
          refine ⟨fun hok => ?_, fun e he => ?_⟩
          · cases hok
          · obtain rfl := Except.error.inj he
            exact hlocal.refused h hword (.inr rfl) hinsert₁ hinsert₂
      · cases h₁
    · cases h₁

private theorem createTable_together (h : σ.Alike table c₁ c₂) (hword : table.all Identifier.isWordChar)
    (h₁ : createTable c₁ (planTable table headers) rows = (c₁', .ok ())) :
    Together σ table c₁' (createTable c₂ (planTable table headers) rows).1
      (createTable c₂ (planTable table headers) rows).2 := by
  unfold createTable at h₁ ⊢
  split at h₁
  · cases h₁
  · rename_i hcreate₁
    split
    · rename_i hcreate₂
      refine ⟨fun hok => (nomatch hok), fun e he => ?_⟩
      obtain rfl := Except.error.inj he
      exact hlocal.refused h hword (.inl rfl) hcreate₁ hcreate₂
    · rename_i hcreate₂
      have hcreated := alike_executed hcommits hmakes hlocal h hword (.inl rfl) hcreate₁ hcreate₂
      split at h₁
      · cases h₁
      · rename_i hprepare₁
        obtain ⟨names, hprepare₂⟩ := hlocal.prepared hcreated hword hprepare₁
        rw [hprepare₂]
        exact insertRows_together hcommits hmakes hlocal hcreated hword _ h₁

variable (hwritable : σ.WritesMappings)

include hwritable

private theorem fillTable_refused (hmappings : σ.KeepsMappings) (h : σ.Alike table c₁ c₂)
    (hword : table.all Identifier.isWordChar) {kept₂ : Multiset (List Sql.Value)} (hkeeps₂ : σ.Keeps (σ.now c₂) kept₂)
    (h₁ : (fillTable c₁ (planTable table headers) rows).answer = .ok ()) {e : LoadError}
    (h₂ : (fillTable c₂ (planTable table headers) rows).answer = .error e) : e.IsFull σ := by
  obtain ⟨c₁', hcreate₁, hreplace₁, -⟩ := fillTable_eq_ok h₁
  have htogether := createTable_together hcommits hmakes hlocal h hword hcreate₁
  rcases fillTable_eq_error h₂ with h₂ | ⟨c₂', hcreate₂, h₂⟩
  · exact htogether.2 e h₂
  · rw [hcreate₂] at htogether
    obtain ⟨c₃, n, hdrop, -⟩ := replaceMappings_eq_ok hreplace₁
    refine replaceMappings_cases hmappings hwritable hcommits
      (hmakes.keeps hword (createTable_eq_ok hcreate₂).1 h.clear' hkeeps₂) ?_ h₂
    rw [(htogether.1 rfl).settings]
    exact hwritable.writes (.inl rfl) hdrop

/-- A load that succeeds in one store fails in the other only for want of room. -/
theorem loadTable_refused (hmappings : σ.KeepsMappings) {s₁ s₂ : Store C}
    (h : σ.Alike table s₁.database s₂.database) (hword : table.all Identifier.isWordChar)
    (hsaved : σ.saved s₂.database = []) {kept₂ : Multiset (List Sql.Value)}
    (hkeeps₂ : σ.Keeps (σ.now s₂.database) kept₂)
    (h₁ : (s₁.loadTable (planTable table headers) rows).answer = .ok ()) {e : LoadError}
    (h₂ : (s₂.loadTable (planTable table headers) rows).answer = .error e) : e.IsFull σ := by
  obtain ⟨c₁, c₁', hbegin₁, hfilled₁, -, -⟩ := loadTable_eq_ok h₁
  obtain ⟨c₂, hbegin₂⟩ := hcommits.begins hsaved
  have hbegun := alike_begun hcommits h hbegin₁ hbegin₂
  rcases s₂.loadTable_cases table headers rows with
    ⟨_, _, hrefused, -⟩ | ⟨c₂', c₃, f, hbegin, -, hanswer, -, hfilled | ⟨hfilled, g, hcommit, rfl⟩⟩ |
      ⟨_, _, -, -, -, hanswer, -⟩
  · cases hrefused.symm.trans hbegin₂
  · obtain rfl : c₂ = c₂' := congrArg Prod.fst (hbegin₂.symm.trans hbegin)
    obtain rfl : f = e := Except.error.inj (hanswer.symm.trans h₂)
    rw [← (hcommits.begin_ok hbegin₂).2.1] at hkeeps₂
    exact fillTable_refused hcommits hmakes hlocal hwritable hmappings hbegun hword hkeeps₂ hfilled₁ hfilled
  · obtain rfl : _ = e := Except.error.inj (hanswer.symm.trans h₂)
    exact hwritable.commit hbegin h.clear' hkeeps₂ hfilled hcommit
  · cases hanswer.symm.trans h₂

variable (hleaves : σ.LeavesOthers) (hnames : σ.NamesTables)

include hleaves hnames

private theorem fillTable_under_eq (h : σ.Alike table c₁ c₂) (hword : table.all Identifier.isWordChar)
    {kept₁ kept₂ : Multiset (List Sql.Value)} (hkeeps₁ : σ.Keeps (σ.now c₁) kept₁) (hkeeps₂ : σ.Keeps (σ.now c₂) kept₂)
    (h₁ : (fillTable c₁ (planTable table headers) rows).answer = .ok ())
    (h₂ : (fillTable c₂ (planTable table headers) rows).answer = .ok ()) :
    σ.under (σ.now (fillTable c₂ (planTable table headers) rows).state) table =
      σ.under (σ.now (fillTable c₁ (planTable table headers) rows).state) table := by
  obtain ⟨c₁', hcreate₁, -, -⟩ := fillTable_eq_ok h₁
  obtain ⟨c₂', hcreate₂, -, -⟩ := fillTable_eq_ok h₂
  have hother := not_sameName_of_created hnames hword hkeeps₁ hcreate₁
  have htogether := createTable_together hcommits hmakes hlocal h hword hcreate₁
  rw [hcreate₂] at htogether
  rw [fillTable_under hmakes (hwritable.clear hkeeps₁) h₁ hleaves hother hcreate₁,
    fillTable_under hmakes (hwritable.clear hkeeps₂) h₂ hleaves hother hcreate₂, (htogether.1 rfl).under]

/-- Loads that succeed in both stores make the same of the table. -/
theorem loadTable_under {s₁ s₂ : Store C} (h : σ.Alike table s₁.database s₂.database)
    (hword : table.all Identifier.isWordChar) {kept₁ kept₂ : Multiset (List Sql.Value)}
    (hkeeps₁ : σ.Keeps (σ.now s₁.database) kept₁) (hkeeps₂ : σ.Keeps (σ.now s₂.database) kept₂)
    (h₁ : (s₁.loadTable (planTable table headers) rows).answer = .ok ())
    (h₂ : (s₂.loadTable (planTable table headers) rows).answer = .ok ()) :
    σ.under (σ.now (s₂.loadTable (planTable table headers) rows).state.database) table =
      σ.under (σ.now (s₁.loadTable (planTable table headers) rows).state.database) table := by
  obtain ⟨c₁, c₁', hbegin₁, hfilled₁, hcommit₁, hstate₁⟩ := loadTable_eq_ok h₁
  obtain ⟨c₂, c₂', hbegin₂, hfilled₂, hcommit₂, hstate₂⟩ := loadTable_eq_ok h₂
  rw [hstate₁, hstate₂, (hcommits.commit hcommit₁).1, (hcommits.commit hcommit₂).1]
  have hbegun := alike_begun hcommits h hbegin₁ hbegin₂
  rw [← (hcommits.begin_ok hbegin₁).2.1] at hkeeps₁
  rw [← (hcommits.begin_ok hbegin₂).2.1] at hkeeps₂
  exact fillTable_under_eq hcommits hmakes hlocal hwritable hleaves hnames hbegun hword hkeeps₁ hkeeps₂ hfilled₁ hfilled₂

end

end Store

namespace Session

variable {s s₁ s₂ : Session C} {disk : Disk} {path : Text}

/-- A file that is loaded as a table, with all that the load leaves. -/
theorem loadFile_loaded {summary : LoadSummary} (h : (s.loadFile disk path).answer = .ok summary) :
    ∃ headers rows, readSource s.options disk path = .ok (headers :: rows) ∧
      (s.store.loadTable (planTable (tableOfPath path) headers) rows).answer = .ok () ∧
      (s.loadFile disk path).state.store = (s.store.loadTable (planTable (tableOfPath path) headers) rows).state ∧
      (s.loadFile disk path).state.mappings = adoptMappings s.mappings (planTable (tableOfPath path) headers) := by
  obtain ⟨headers, rows, hread, hanswer⟩ := loadFile_eq_ok h
  refine ⟨headers, rows, hread, hanswer, ?_, ?_⟩
  · rw [(loadFile_of_read hread).1, loadGrid_store]
  · rw [(loadFile_of_read hread).1, loadGrid_mappings hanswer]

variable (hcommits : σ.Commits) (hmakes : σ.MakesTables) (hlocal : σ.ActsLocally) (hwritable : σ.WritesMappings)
  (h : s₁.Beside σ s₂ (tableOfPath path))

include hcommits hmakes hlocal hwritable h

/-- A file that is loaded in one session is passed over in the other only for want of room. -/
theorem Beside.refused (hmappings : σ.KeepsMappings) {summary : LoadSummary}
    (h₁ : (s₁.loadFile disk path).answer = .ok summary) {e : LoadError} (h₂ : (s₂.loadFile disk path).answer = .error e) :
    e.IsFull σ := by
  obtain ⟨headers, rows, hread, hloaded, -, -⟩ := loadFile_loaded h₁
  obtain ⟨kept, hkeeps⟩ := h.keeps'
  obtain ⟨c, c', hbegin, -, -, -⟩ := Store.loadTable_eq_ok hloaded
  rw [← h.options] at hread
  rw [(loadFile_of_read hread).2] at h₂
  exact Store.loadTable_refused hcommits hmakes hlocal hwritable hmappings h.alike (word_forTable _)
    (h.saved.2 (hcommits.begin_ok hbegin).1) hkeeps hloaded (loadTable_of_loadGrid_error h₂)

/-- A file that is loaded in both is loaded to the same table. -/
theorem Beside.under (hleaves : σ.LeavesOthers) (hnames : σ.NamesTables) {summary₁ summary₂ : LoadSummary}
    (h₁ : (s₁.loadFile disk path).answer = .ok summary₁) (h₂ : (s₂.loadFile disk path).answer = .ok summary₂) :
    σ.under (σ.now (s₂.loadFile disk path).state.store.database) (tableOfPath path) =
      σ.under (σ.now (s₁.loadFile disk path).state.store.database) (tableOfPath path) := by
  obtain ⟨headers, rows, hread, hloaded₁, hstore₁, -⟩ := loadFile_loaded h₁
  obtain ⟨headers', rows', hread', hloaded₂, hstore₂, -⟩ := loadFile_loaded h₂
  rw [h.options, hread] at hread'
  obtain ⟨rfl, rfl⟩ := List.cons.inj (Except.ok.inj hread')
  obtain ⟨kept₁, hkeeps₁⟩ := h.keeps
  obtain ⟨kept₂, hkeeps₂⟩ := h.keeps'
  rw [hstore₁, hstore₂]
  exact Store.loadTable_under hcommits hmakes hlocal hwritable hleaves hnames h.alike (word_forTable _) hkeeps₁ hkeeps₂
    hloaded₁ hloaded₂

end Session

end SheetQuery
