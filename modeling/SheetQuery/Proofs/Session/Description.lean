import SheetQuery.Proofs.Session.Loaded
import SheetQuery.Proofs.Session.Query
import SheetQuery.Proofs.Sql.Laws.Queries

/-!
# Descriptions of tables

The columns of a loaded table are described in their order, each with the header that the table keeps for it.  The
database finds the table in any spelling of its name, but the headers are looked up under the name as it is typed.

* `Store.tableInfo_eq`, `tableInfo_of_none`: the description of a table, and that of a name without one.
* `Session.LoadedWith.schema_eq`: the same with the headers.
-/

namespace SheetQuery

variable {C : Type} [Engine C] {σ : Semantics C}

namespace Store

variable {s : Store C} {name : Text} {headers : List Text}

/-- What is shown of the description of a column. -/
def infoTexts (k : Nat) (identifier : Text) : List Text :=
  [Text.decimal k, identifier, "TEXT".toList, ['0'], "NULL".toList, ['0']]

private theorem display_columnRow (k : Nat) (identifier : Text) :
    (Semantics.columnRow k identifier).map (·.display) = infoTexts k identifier := by
  have hzero : Sql.Value.display (.integer 0) = ['0'] := by decide
  unfold Semantics.columnRow infoTexts
  rw [List.map_cons, List.map_cons, List.map_cons, List.map_cons, List.map_cons, List.map_cons, hzero]
  rfl

/-- A table is described under any spelling of its name. -/
theorem tableInfo_eq (hdescribes : σ.DescribesTables) {table : Text} {names : List Text} {rows : List (List Text)}
    (h : σ.Stores (σ.now s.database) table names rows) (hreads : σ.Reads (σ.settings s.database))
    (hprepare : Engine.prepare s.database tableInfoSql = .ok headers) (hname : Text.sameName name table) :
    s.tableInfo name = .ok ⟨Semantics.columnHeaders, names.mapIdx infoTexts⟩ := by
  obtain ⟨rfl, hquery⟩ := hdescribes.described h hreads hprepare hname
  have hrows : Listing.ofAnswer Semantics.columnHeaders ⟨names.mapIdx Semantics.columnRow, none⟩ =
      .ok ⟨Semantics.columnHeaders, names.mapIdx infoTexts⟩ := by
    rw [Listing.ofAnswer_rows]
    · refine congrArg (fun rows => Except.ok (Listing.mk _ rows)) (List.ext_getElem? fun k => ?_)
      rw [List.getElem?_map, List.getElem?_mapIdx, List.getElem?_mapIdx, Option.map_map]
      exact congrArg (Option.map · _) (funext (display_columnRow k))
    · intro row hrow
      obtain ⟨k, hk, rfl⟩ := List.mem_mapIdx.1 hrow
      rfl
  have hshown : (names.mapIdx infoTexts).isEmpty = false := by
    rw [List.isEmpty_eq_false_iff]
    exact fun hnone => hdescribes.nonempty h (List.mapIdx_eq_nil_iff.1 hnone)
  unfold tableInfo ask
  rw [hprepare]
  simp only [bind, Except.bind, pure, Except.pure, hquery, hrows]
  rw [if_neg (Bool.eq_false_iff.1 hshown)]

/-- A name that nothing is described under is an error. -/
theorem tableInfo_of_none (hprepare : Engine.prepare s.database tableInfoSql = .ok headers)
    (hnone : (Engine.query s.database tableInfoSql [.text name]).2 = ⟨[], none⟩) :
    s.tableInfo name = .error (.ofMessage ("no such table: ".toList ++ name)) := by
  unfold tableInfo ask
  rw [hprepare]
  simp only [bind, Except.bind, pure, Except.pure, hnone]
  rw [Listing.ofAnswer_rows (List.forall_mem_nil _)]
  rfl

end Store

namespace Session

variable {s : Session C} {loads : List Load} {l : Load}

/-- The header that a session shows for a column, under a name of its table. -/
def shownLabel (l : Load) (name header : Text) : Text := if name = l.table ∧ Text.hasHan header then header else []

/-- The header of a column is shown under the spelling that the table was loaded with. -/
private theorem reverse_getD (hdescribes : σ.DescribesTables) (hs : s.OnlyLoaded σ loads) (hl : l ∈ loads)
    (hword : l.table.all Identifier.isWordChar) (hstands : l.Stands σ s)
    (hnodup : (l.headers.filter Text.hasHan).Nodup) {name : Text} (hname : Text.sameName name l.table) {k : Nat}
    {header identifier : Text} (hheader : l.headers[k]? = some header)
    (hidentifier : l.plan.identifiers[k]? = some identifier) :
    (s.mappings.reverse name identifier).getD [] = shownLabel l name header := by
  unfold shownLabel
  by_cases hsame : name = l.table
  · rw [hsame]
    by_cases hhan : Text.hasHan header
    · rw [if_pos ⟨rfl, hhan⟩, hstands.reverse_eq_some hheader hidentifier (keptAt_of_nodup hnodup hheader hhan)]
      rfl
    · rw [if_neg fun h => hhan h.2, hstands.reverse_eq_none hheader hidentifier (hdescribes.distinct hstands.stored)
        fun hkept => hhan hkept.2.1]
      rfl
  · -- no table was loaded in this spelling
    have hnone : s.mappings.reverse name identifier = none := by
      rw [Option.eq_none_iff_forall_not_mem]
      intro label hlabel
      rw [Option.mem_def, HeaderMappings.reverse_eq_some] at hlabel
      obtain ⟨other, hother, hspelled⟩ := hs.tables _ (HeaderMappings.resolve_eq_some.1 hlabel)
      have hspelled : other.table = name := hspelled
      rw [← hspelled] at hname hsame
      exact hsame (hs.spelled l hl other hother hword hname)
    rw [hnone, if_neg fun h => hsame h.1]
    rfl

/-- The description of a column, with the header that is shown for it. -/
def describedColumn (l : Load) (name : Text) (k : Nat) (column : Text × Text) : List Text :=
  Store.infoTexts k column.2 ++ [shownLabel l name column.1]

private theorem schema_of_stands (hdescribes : σ.DescribesTables) (hs : s.OnlyLoaded σ loads) (hl : l ∈ loads)
    (hword : l.table.all Identifier.isWordChar) (hstands : l.Stands σ s)
    (hnodup : (l.headers.filter Text.hasHan).Nodup) {headers : List Text}
    (hprepare : Engine.prepare s.store.database Store.tableInfoSql = .ok headers) {name : Text}
    (hname : Text.sameName name l.table) :
    s.schema name = .ok ⟨Semantics.columnHeaders ++ [labelHeader],
      (l.headers.zip l.plan.identifiers).mapIdx (describedColumn l name)⟩ := by
  unfold schema
  rw [Store.tableInfo_eq hdescribes hstands.stored hs.reads hprepare hname]
  refine congrArg (fun rows => Except.ok (Listing.mk _ rows)) (List.ext_getElem? fun k => ?_)
  rw [List.getElem?_map, List.getElem?_mapIdx, List.getElem?_mapIdx, List.zip, List.getElem?_zipWith]
  cases hidentifier : l.plan.identifiers[k]? with
  | none => cases l.headers[k]? <;> rfl
  | some identifier =>
    obtain ⟨header, hheader⟩ : ∃ header, l.headers[k]? = some header := by
      obtain ⟨hk, -⟩ := List.getElem?_eq_some_iff.1 hidentifier
      rw [Load.plan, length_identifiers] at hk
      exact ⟨_, List.getElem?_eq_getElem hk⟩
    have hlabel := reverse_getD hdescribes hs hl hword hstands hnodup hname hheader hidentifier
    rw [hheader]
    exact congrArg (fun label => some (Store.infoTexts k identifier ++ [label])) hlabel

/-- As long as the query for descriptions can be compiled, a loaded table whose headers with Han characters differ is
described under any spelling of its name: one row for each column, in order, and last the header if it has Han characters.
That is left empty, though, where the name is not spelled as the table was loaded.  A name that nothing is described under
is an error. -/
theorem LoadedWith.schema_eq (hopens : σ.OpensStores) (hmappings : σ.KeepsMappings) (hrolls : σ.RollsBack)
    (hcommits : σ.Commits) (hmakes : σ.MakesTables) (hleaves : σ.LeavesOthers) (hnames : σ.NamesTables)
    (hbegins : σ.BeginsEmpty) (hdescribes : σ.DescribesTables) (hs : s.LoadedWith loads) {headers : List Text}
    (hprepare : Engine.prepare s.store.database Store.tableInfoSql = .ok headers) :
    (∀ l ∈ loads, l.table.all Identifier.isWordChar → ¬ σ.Hidden (σ.now s.store.database) l.table →
      (l.headers.filter Text.hasHan).Nodup → ∀ name, Text.sameName name l.table →
        l.plan.identifiers.length = l.headers.length ∧ s.schema name = .ok ⟨Semantics.columnHeaders ++ [labelHeader],
          (l.headers.zip l.plan.identifiers).mapIdx (describedColumn l name)⟩) ∧
    ∀ name, (Engine.query s.store.database Store.tableInfoSql [.text name]).2 = ⟨[], none⟩ →
      s.schema name = .error (.ofMessage ("no such table: ".toList ++ name)) := by
  have honly := hs.onlyLoaded hopens hmappings hrolls hcommits hmakes hleaves hnames hbegins
  constructor
  · intro l hl hword hvisible hnodup name hname
    exact ⟨length_identifiers l.table l.headers, schema_of_stands hdescribes honly hl hword
      (honly.stands l hl hword hvisible) hnodup hprepare hname⟩
  · intro name hnone
    unfold schema
    rw [Store.tableInfo_of_none hprepare hnone]
    rfl

open Sql (Database)

private def named : Load := ⟨['t'], ["名称".toList, ['a']], [[['x'], ['y']]]⟩

private def withNamed : Session Database := (named.run inMemory).state

private theorem withNamed_eq :
    (named.run inMemory).answer = .ok ⟨['t'], 1, 1⟩ ∧
    withNamed.store.database.catalog.temp.find? ['t'] = none ∧
    Engine.prepare withNamed.store.database Store.tableInfoSql = .ok Semantics.columnHeaders ∧
    (Engine.query withNamed.store.database Store.tableInfoSql [.text ['u']]).2 = ⟨[], none⟩ ∧
    withNamed.mappings.reverse named.table "_1".toList = some "名称".toList ∧
    withNamed.schema ['T'] = .ok ⟨Semantics.columnHeaders ++ [labelHeader],
      [[['0'], "_1".toList, "TEXT".toList, ['0'], "NULL".toList, ['0'], []],
        [['1'], ['a'], "TEXT".toList, ['0'], "NULL".toList, ['0'], []]]⟩ := by
  decide +kernel

private theorem loadedWith_withNamed : withNamed.LoadedWith [named] := loadedWith_inMemory.load withNamed_eq.1

theorem schema_eq_named :
    withNamed.LoadedWith [named] ∧
      withNamed.schema ['t'] = .ok ⟨Semantics.columnHeaders ++ [labelHeader],
        [[['0'], "_1".toList, "TEXT".toList, ['0'], "NULL".toList, ['0'], "名称".toList],
          [['1'], ['a'], "TEXT".toList, ['0'], "NULL".toList, ['0'], []]]⟩ ∧
      withNamed.schema ['u'] = .error (.ofMessage "no such table: u".toList) := by
  obtain ⟨-, hvisible, hprepare, hnone, -⟩ := withNamed_eq
  obtain ⟨hdescribed, hmissing⟩ := LoadedWith.schema_eq Database.opensStores Database.keepsMappings Database.rollsBack
    Database.commits Database.makesTables Database.leavesOthers Database.namesTables Database.beginsEmpty
    Database.describesTables loadedWith_withNamed hprepare
  refine ⟨loadedWith_withNamed, ?_, hmissing _ hnone⟩
  rw [(hdescribed named (List.mem_singleton_self _) (by decide) (Database.not_hidden_of_none hvisible) (by decide)
    ['t'] (by decide)).2]
  decide

/-- Under a capital letter the table is found, and its header is not. -/
theorem schema_respelled :
    withNamed.LoadedWith [named] ∧ (named.headers.filter Text.hasHan).Nodup ∧ Text.sameName ['T'] named.table ∧
      withNamed.mappings.reverse named.table "_1".toList = some "名称".toList ∧
      withNamed.schema ['T'] = .ok ⟨Semantics.columnHeaders ++ [labelHeader],
        [[['0'], "_1".toList, "TEXT".toList, ['0'], "NULL".toList, ['0'], []],
          [['1'], ['a'], "TEXT".toList, ['0'], "NULL".toList, ['0'], []]]⟩ := by
  obtain ⟨-, -, -, -, hreverse, hrespelled⟩ := withNamed_eq
  exact ⟨loadedWith_withNamed, by decide, by decide, hreverse, hrespelled⟩

end Session

end SheetQuery
