import Mathlib.Data.List.Nodup
import SheetQuery.Proofs.Plan
import SheetQuery.Proofs.Sql.Compiled
import SheetQuery.Proofs.Sql.Frame
import SheetQuery.Proofs.Sql.ReadingFaults

/-!
# Headers with equal forms

Headers without Han characters get their sanitized forms as identifiers.  A form that has come before is numbered with
the number of times that it has, exactly as it is spelled, whatever the other identifiers are.

* `identifier_of_plain`: the name that such a header gets, numbered with the equal forms before it.
* `Unmixed`: forms among which neither letter case nor numbers get in the way.
* `distinct_iff_unmixed`: exactly these forms have different identifiers, and exactly then the statement that creates the
  table has no duplicate column.
-/

namespace SheetQuery

/-- No form is another one in other letter case, or a numbered name that another one gets. -/
structure Unmixed (forms : List Text) : Prop where
  spelled : ∀ f ∈ forms, ∀ g ∈ forms, Text.sameName f g → f = g
  unnumbered : ∀ f ∈ forms, ∀ g ∈ forms, ∀ n < forms.count g, n ≠ 0 → ¬ Text.sameName f (Identifier.numbered g n)

instance (forms : List Text) : Decidable (Unmixed forms) :=
  decidable_of_iff ((∀ f ∈ forms, ∀ g ∈ forms, Text.sameName f g → f = g) ∧
      ∀ f ∈ forms, ∀ g ∈ forms, ∀ n < forms.count g, n ≠ 0 → ¬ Text.sameName f (Identifier.numbered g n))
    ⟨fun h => ⟨h.1, h.2⟩, fun h => ⟨h.1, h.2⟩⟩

/-! ### Numbered names -/

namespace Identifier

variable {f g : Text} {m n : Nat}

private theorem underscore_notMem_decimal (n : Nat) : '_' ∉ Text.decimal n := by
  intro h
  have hdigit := Nat.isDigit_of_mem_toDigits (by decide) (by decide) h
  exact absurd hdigit (by decide)

private theorem lower_decimal (n : Nat) : Text.lower (Text.decimal n) = Text.decimal n := by
  refine (List.map_congr_left fun c hc => ?_).trans (List.map_id _)
  have hdigit := Nat.isDigit_of_mem_toDigits (by decide) (by decide) hc
  have hnine : c.val ≤ '9'.val := of_decide_eq_true (Bool.and_eq_true_iff.1 hdigit).2
  unfold Char.toLower
  rw [dif_neg fun hupper => absurd (UInt32.le_trans hupper.1 hnine) (by decide)]
  rfl

theorem lower_numbered (f : Text) (n : Nat) : Text.lower (numbered f n) = numbered (Text.lower f) n := by
  unfold numbered
  split
  · rfl
  · rw [Text.lower, List.map_append, List.map_cons]
    change Text.lower f ++ '_' :: Text.lower (Text.decimal n) = _
    rw [lower_decimal]

/-- The last underscore tells the form from the number. -/
theorem numbered_inj (hm : m ≠ 0) (hn : n ≠ 0) (h : numbered f m = numbered g n) : f = g ∧ m = n := by
  rw [numbered, numbered, if_neg hm, if_neg hn] at h
  rcases List.append_eq_append_iff.1 h with ⟨a, rfl, ha⟩ | ⟨a, rfl, ha⟩
  · cases a with
    | nil => exact ⟨(List.append_nil _).symm, Text.decimal_injective (List.cons.inj ha).2⟩
    | cons c a =>
      refine absurd ?_ (underscore_notMem_decimal m)
      rw [(List.cons.inj ha).2]
      simp
  · cases a with
    | nil => exact ⟨List.append_nil _, (Text.decimal_injective (List.cons.inj ha).2).symm⟩
    | cons c a =>
      refine absurd ?_ (underscore_notMem_decimal n)
      rw [(List.cons.inj ha).2]
      simp

end Identifier

/-! ### The identifiers of a plan -/

private theorem countForm_of_plain {headers : List Text} (hplain : ∀ h ∈ headers, Text.hasHan h = false) (form : Text) :
    countForm headers form = (headers.map Identifier.forColumn).count form := by
  rw [countForm, List.count, List.countP_map]
  refine List.countP_congr fun h hh => ?_
  simp [hplain h hh]

/-- The identifier of a header without Han characters is its form, numbered with the equal ones before it. -/
theorem identifier_of_plain {table : Text} {headers : List Text} {k : Nat} {header : Text}
    (hplain : ∀ h ∈ headers, Text.hasHan h = false ∧ Identifier.forColumn h ≠ []) (hk : headers[k]? = some header) :
    (planTable table headers).identifiers[k]? = some (Identifier.numbered (Identifier.forColumn header)
      (((headers.map Identifier.forColumn).take k).count (Identifier.forColumn header))) := by
  obtain ⟨hhan, hform⟩ := hplain header (List.mem_of_getElem? hk)
  have hearlier : ∀ h ∈ headers.take k, Text.hasHan h = false := fun h hh => (hplain h (List.mem_of_mem_take hh)).1
  rw [TablePlan.identifiers, List.getElem?_map, columns_getElem?, hk, Option.map_some, Option.map_some, describedColumn,
    if_neg (Bool.eq_false_iff.1 hhan), if_neg hform, countForm_of_plain hearlier, List.map_take]

/-! ### Which forms have different identifiers -/

private theorem exists_occurrence {l : List Text} {f : Text} {n : Nat} (h : n < l.count f) :
    ∃ k, l[k]? = some f ∧ (l.take k).count f = n := by
  induction l generalizing n with
  | nil => cases h
  | cons g l ih =>
    by_cases hg : g = f
    · subst hg
      rw [List.count_cons_self] at h
      cases n with
      | zero => exact ⟨0, rfl, rfl⟩
      | succ n =>
        obtain ⟨k, hk, hcount⟩ := ih (Nat.lt_of_succ_lt_succ h)
        exact ⟨k + 1, hk, by rw [List.take_succ_cons, List.count_cons_self, hcount]⟩
    · rw [List.count_cons_of_ne hg] at h
      obtain ⟨k, hk, hcount⟩ := ih h
      exact ⟨k + 1, hk, by rw [List.take_succ_cons, List.count_cons_of_ne hg, hcount]⟩

private theorem count_take_lt {l : List Text} {f : Text} {i j : Nat} (hij : i < j) (hi : l[i]? = some f) :
    (l.take i).count f < (l.take j).count f := by
  have hsucc : (l.take (i + 1)).count f = (l.take i).count f + 1 := by
    rw [List.take_add_one, hi, List.count_append]
    simp
  have hle : (l.take (i + 1)).count f ≤ (l.take j).count f :=
    (List.take_sublist_take_left hij).count_le f
  omega

/-- Unmixed forms get each name for one form and one number only. -/
theorem Unmixed.numbered_inj {forms : List Text} (h : Unmixed forms) {f g : Text} {m n : Nat} (hm : m < forms.count f)
    (hn : n < forms.count g) (hsame : Text.sameName (Identifier.numbered f m) (Identifier.numbered g n)) :
    f = g ∧ m = n := by
  have hf : f ∈ forms := List.count_pos_iff.1 (by omega)
  have hg : g ∈ forms := List.count_pos_iff.1 (by omega)
  by_cases hm0 : m = 0
  · subst hm0
    by_cases hn0 : n = 0
    · subst hn0
      exact ⟨h.spelled f hf g hg hsame, rfl⟩
    · exact absurd hsame (h.unnumbered f hf g hg n hn hn0)
  · by_cases hn0 : n = 0
    · subst hn0
      rw [Text.sameName_comm] at hsame
      exact absurd hsame (h.unnumbered g hg f hf m hm hm0)
    · rw [Text.sameName_iff, Identifier.lower_numbered, Identifier.lower_numbered] at hsame
      obtain ⟨hlower, hnumber⟩ := Identifier.numbered_inj hm0 hn0 hsame
      exact ⟨h.spelled f hf g hg (Text.sameName_iff.2 hlower), hnumber⟩

private theorem nodup_iff_unmixed {ids forms : List Text} (hlength : ids.length = forms.length)
    (hids : ∀ k f, forms[k]? = some f → ids[k]? = some (Identifier.numbered f ((forms.take k).count f))) :
    (ids.map Text.lower).Nodup ↔ Unmixed forms := by
  constructor
  · intro hnodup
    -- two names that are the same stand at one position
    have hinj : ∀ f g m n, m < forms.count f → n < forms.count g →
        Text.sameName (Identifier.numbered f m) (Identifier.numbered g n) → f = g ∧ m = n := by
      intro f g m n hm hn hsame
      obtain ⟨i, hi, rfl⟩ := exists_occurrence hm
      obtain ⟨j, hj, rfl⟩ := exists_occurrence hn
      have hlt : i < (ids.map Text.lower).length := by
        rw [List.length_map, hlength]
        exact (List.getElem?_eq_some_iff.1 hi).1
      have hij : i = j := by
        refine (List.getElem?_inj hlt hnodup).1 ?_
        rw [List.getElem?_map, List.getElem?_map, hids i f hi, hids j g hj, Option.map_some, Option.map_some,
          Text.sameName_iff.1 hsame]
      subst hij
      cases hi.symm.trans hj
      exact ⟨rfl, rfl⟩
    refine ⟨fun f hf g hg hsame => ?_, fun f hf g hg n hn hn0 hsame => ?_⟩
    · exact (hinj f g 0 0 (List.count_pos_iff.2 hf) (List.count_pos_iff.2 hg) hsame).1
    · exact hn0 (hinj f g 0 n (List.count_pos_iff.2 hf) hn hsame).2.symm
  · intro h
    rw [List.nodup_iff_getElem?_ne_getElem?]
    intro i j hij hj hsame
    rw [List.length_map, hlength] at hj
    have hi : forms[i]? = some forms[i] := List.getElem?_eq_getElem (Nat.lt_trans hij hj)
    have hj : forms[j]? = some forms[j] := List.getElem?_eq_getElem hj
    rw [List.getElem?_map, List.getElem?_map, hids i _ hi, hids j _ hj, Option.map_some, Option.map_some,
      Option.some.injEq] at hsame
    have hlt : ∀ k f, forms[k]? = some f → (forms.take k).count f < forms.count f := by
      intro k f hk
      have hend := count_take_lt (List.getElem?_eq_some_iff.1 hk).1 hk
      rwa [List.take_length] at hend
    obtain ⟨hform, hcount⟩ := h.numbered_inj (hlt i _ hi) (hlt j _ hj) (Text.sameName_iff.2 hsame)
    have hless := count_take_lt hij hi
    rw [hform] at hless hcount
    omega

/-! ### The statement that creates the table -/

section

open Sql (Catalog Database Fault Located)

variable {c : Catalog} {db : Database} {column : Text}

private theorem checkColumns_error {table : Text} {earlier : List Text} {columns : List Sql.ColumnDefinition} {e : Located}
    (h : Sql.checkColumns table earlier columns = .error e) (he : e.fault = .duplicateColumn column)
    (hout : ∀ d ∈ columns, Text.lower d.name ∉ earlier) : ¬ (columns.map fun d => Text.lower d.name).Nodup := by
  induction columns generalizing earlier with
  | nil => cases h
  | cons d columns ih =>
    obtain ⟨hd, hout⟩ := List.forall_mem_cons.1 hout
    rw [Sql.checkColumns] at h
    split_ifs at h with hlimit hcontains
    · cases h
      cases he
    · exact absurd (List.contains_iff_mem.1 hcontains) hd
    · rw [List.map_cons, List.nodup_cons]
      rintro ⟨hnew, hnodup⟩
      refine ih h (fun d' hd' hmem => ?_) hnodup
      rcases List.mem_cons.1 hmem with hsame | hmem
      · exact hnew (List.mem_map.2 ⟨d', hd', hsame⟩)
      · exact hout d' hd' hmem

private theorem checkNewTable_error {name : Sql.TableName} {ifNotExists : Bool} {e : Located}
    (h : c.checkNewTable name ifNotExists = .error e) : e.fault ≠ .duplicateColumn column := by
  rcases Sql.bind_eq_error.1 h with htarget | ⟨temporary, -, h⟩
  · unfold Catalog.target at htarget
    split at htarget
    · cases htarget
    · split_ifs at htarget
      cases htarget
      exact Fault.noConfusion
  · split_ifs at h
    · cases h
      exact Fault.noConfusion
    · cases h
    · cases h
      exact Fault.noConfusion
    · cases h

private theorem checkHead_error {sql : Text} {e : Located} (h : db.checkHead sql = .error e) :
    e.fault ≠ .duplicateColumn column := by
  unfold Database.checkHead at h
  split at h
  · rcases Sql.bind_eq_error.1 h with hcheck | ⟨_, -, h⟩
    · exact checkNewTable_error hcheck
    · cases h
  · cases h

private theorem prepare_createTable_error {d : Sql.TableDefinition} {e : Located}
    (h : c.prepare (.createTable d) = .error e) (he : e.fault = .duplicateColumn column) :
    ¬ (d.columns.map fun d => Text.lower d.name).Nodup := by
  rcases Sql.bind_eq_error.1 h with hcheck | ⟨checked, -, h⟩
  · exact absurd he (checkNewTable_error hcheck)
  · cases checked with
    | none => cases h
    | some temporary =>
      rcases Sql.bind_eq_error.1 h with hcolumns | ⟨_, -, h⟩
      · exact checkColumns_error hcolumns he fun _ _ => List.not_mem_nil
      · cases h

/-- The statement that creates a table has a duplicate column only if two identifiers are the same. -/
private theorem compile_createSql_error {plan : TablePlan} (htable : plan.table.all Identifier.isWordChar)
    (hids : ∀ w ∈ plan.identifiers, w.all Identifier.isWordChar) {e : Sql.Error}
    (h : db.compile plan.createSql = .error e) (he : e.fault = .duplicateColumn column) :
    ¬ (plan.identifiers.map Text.lower).Nodup := by
  have hfirst : db.compileFirst plan.createSql = .error e := by
    rcases Sql.bind_eq_error.1 h with hfirst | ⟨⟨first, rest⟩, hfirst, h⟩
    · exact hfirst
    · -- nothing stands behind the statement
      have hrest : rest = [] := by
        rcases Database.rest_of_compileFirst hfirst with hrest | ⟨parsed, hread, rfl⟩
        · exact hrest
        · exact (Sql.readStatement_createSql htable hids hread).2.2.1
      subst hrest
      cases h
  obtain ⟨located, hfault, hhead | hread | ⟨parsed, hread, hprepare⟩⟩ := Database.compileFirst_error hfirst
  · exact absurd (hfault.symm.trans he) (checkHead_error hhead)
  · have hreading := Sql.readStatement_error hread
    rw [← hfault, he] at hreading
    exact hreading.elim
  · obtain ⟨-, -, -, offset, -, hstatement⟩ := Sql.readStatement_createSql htable hids hread
    rw [hstatement] at hprepare
    have hnodup := prepare_createTable_error hprepare (hfault.symm.trans he)
    rwa [List.map_map] at hnodup

private theorem performPrepared_createTable_error {p : Sql.Prepared} {temporary : Bool} {t : Sql.Table}
    (haction : p.action = .createTable temporary t) {parameters : List Sql.Value} {e : Sql.Error}
    (h : (db.performPrepared p parameters).2 = .error e) : e.fault ≠ .duplicateColumn column := by
  unfold Database.performPrepared at h
  rw [haction] at h
  simp only [Database.perform, Database.define] at h
  split_ifs at h
  · cases h
    exact Fault.noConfusion
  · cases h
    exact Fault.noConfusion
  · cases h

/-- The statement that creates a table is compiled only if all identifiers are different. -/
private theorem compile_createSql_eq_some {plan : TablePlan} (htable : plan.table.all Identifier.isWordChar)
    (hids : ∀ w ∈ plan.identifiers, w.all Identifier.isWordChar) {p : Sql.Prepared}
    (h : db.compile plan.createSql = .ok (some p)) :
    (plan.identifiers.map Text.lower).Nodup ∧ ∃ temporary t, p.action = .createTable temporary t := by
  obtain ⟨parsed, hread, hprepare, -⟩ := Database.compile_eq_some h
  obtain ⟨-, -, -, offset, -, hstatement⟩ := Sql.readStatement_createSql htable hids hread
  rw [hstatement] at hprepare
  rcases Catalog.prepare_createTable hprepare with ⟨-, hexists⟩ | ⟨temporary, -, -, hnodup, haction⟩
  · cases hexists
  · rw [List.map_map] at hnodup
    exact ⟨hnodup, temporary, _, haction⟩

/-- The statement that creates a table reports a duplicate column only if two identifiers are the same. -/
theorem execute_createSql_error {plan : TablePlan} (htable : plan.table.all Identifier.isWordChar)
    (hids : ∀ w ∈ plan.identifiers, w.all Identifier.isWordChar) {place : Option (Text × Nat)}
    (h : (db.execute plan.createSql []).2 = .error ⟨.duplicateColumn column, place⟩) :
    ¬ (plan.identifiers.map Text.lower).Nodup := by
  unfold Database.execute at h
  cases hcompile : db.compile plan.createSql with
  | error e =>
    rw [hcompile] at h
    cases h
    exact compile_createSql_error htable hids hcompile rfl
  | ok prepared? =>
    rw [hcompile] at h
    cases prepared? with
    | none => cases h
    | some p =>
      dsimp only at h
      split_ifs at h
      · obtain ⟨-, temporary, t, haction⟩ := compile_createSql_eq_some htable hids hcompile
        exact absurd rfl (performPrepared_createTable_error haction h)
      · cases h

/-- Headers without Han characters, of which some characters are kept, have different identifiers exactly if their
forms are unmixed.  Then the statement that creates the table never reports a duplicate column, and otherwise it never
succeeds. -/
theorem distinct_iff_unmixed {headers : List Text}
    (hplain : ∀ h ∈ headers, Text.hasHan h = false ∧ Identifier.forColumn h ≠ []) (table : Text) :
    (((planTable table headers).identifiers.map Text.lower).Nodup ↔ Unmixed (headers.map Identifier.forColumn)) ∧
      (table.all Identifier.isWordChar →
        (Unmixed (headers.map Identifier.forColumn) → ∀ (db : Database) (column : Text) (place : Option (Text × Nat)),
          (db.execute (planTable table headers).createSql []).2 ≠ .error ⟨.duplicateColumn column, place⟩) ∧
        (¬ Unmixed (headers.map Identifier.forColumn) → ∀ (db : Database) (outcome : Sql.Outcome),
          (db.execute (planTable table headers).createSql []).2 ≠ .ok outcome)) := by
  have hdistinct : ((planTable table headers).identifiers.map Text.lower).Nodup ↔
      Unmixed (headers.map Identifier.forColumn) := by
    refine nodup_iff_unmixed ?_ fun k f hk => ?_
    · rw [TablePlan.identifiers, List.length_map, length_columns, List.length_map]
    · rw [List.getElem?_map, Option.map_eq_some_iff] at hk
      obtain ⟨header, hk, rfl⟩ := hk
      exact identifier_of_plain hplain hk
  refine ⟨hdistinct, fun htable => ⟨fun hunmixed db column place hanswer => ?_, fun hmixed db outcome hanswer => ?_⟩⟩
  · exact execute_createSql_error htable (word_identifiers table headers) hanswer (hdistinct.2 hunmixed)
  · obtain ⟨p, hcompile, -, -⟩ := Database.execute_eq_ok (Prod.ext rfl hanswer)
    exact hmixed (hdistinct.1 (compile_createSql_eq_some htable (word_identifiers table headers) hcompile).1)

/-- The same header three times, and another one. -/
private def repeated : List Text := [['a'], ['b'], ['a'], ['a']]

theorem distinct_iff_unmixed_repeated :
    (∀ h ∈ repeated, Text.hasHan h = false ∧ Identifier.forColumn h ≠ []) ∧
      (planTable ['t'] repeated).identifiers = [['a'], ['b'], "a_1".toList, "a_2".toList] ∧
      ((planTable ['t'] repeated).identifiers.map Text.lower).Nodup ∧
      ∀ (db : Database) (column : Text) (place : Option (Text × Nat)),
        (db.execute (planTable ['t'] repeated).createSql []).2 ≠ .error ⟨.duplicateColumn column, place⟩ := by
  have hplain : ∀ h ∈ repeated, Text.hasHan h = false ∧ Identifier.forColumn h ≠ [] := by decide
  have hunmixed : Unmixed (repeated.map Identifier.forColumn) := by decide
  obtain ⟨hdistinct, hcreate⟩ := distinct_iff_unmixed hplain ['t']
  exact ⟨hplain, by decide, hdistinct.2 hunmixed, (hcreate rfl).1 hunmixed⟩

/-- Headers that are all named after what they keep, and of which the database finds two names to be the same column. -/
def NamedTwice (headers : List Text) : Prop :=
  (∀ h ∈ headers, Text.hasHan h = false ∧ Identifier.forColumn h ≠ []) ∧
    ¬ ((planTable ['t'] headers).identifiers.map Text.lower).Nodup ∧
    ∃ column, ((Database.ofSchema .empty).execute (planTable ['t'] headers).createSql []).2 =
      .error ⟨.duplicateColumn column, none⟩

/-- The number of a repeated header makes the name of another one; so it does where the headers differ in letter case. -/
theorem numbered_twice :
    NamedTwice [['a'], ['a'], "a_1".toList] ∧ NamedTwice [['a'], "a_1".toList, ['A']] :=
  ⟨⟨by decide, by decide, "a_1".toList, by decide +kernel⟩, ⟨by decide, by decide, ['A'], by decide +kernel⟩⟩

end

end SheetQuery
