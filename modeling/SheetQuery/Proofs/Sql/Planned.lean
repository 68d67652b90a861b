import SheetQuery.Proofs.Plan
import SheetQuery.Proofs.Sql.Compiled
import SheetQuery.Session.Load

/-!
# Statements of planned tables

Whatever a file and its headers are called, the statements that create and fill its table fall into the same lexemes but
for the name of the table and those of the columns, each of which is one lexeme.

* `quotedNames`: the names in double quotes of a statement; `quotedNames_createSql`: those of the columns.
* `bare_createSql`, `bare_insertSql`: the lexemes of both statements.
* `lexemes_planTable`: both for the table of a file.
-/

namespace SheetQuery.Sql

/-- The names in double quotes of a statement, in order. -/
def quotedNames (sql : Text) : List Text := ((lexemes sql).filter (·.kind = .quotedName)).map Lexeme.unquoted

/-- The lexemes of the statement that creates a table of texts. -/
def createPieces (table : Text) (columns : List Text) : List (Kind × Text) :=
  [(.word, "CREATE".toList), (.word, "TABLE".toList), (.word, table), (.symbol, ['('])] ++
    [(.symbol, [','])].intercalate (columns.map Grammar.columnPieces) ++ [(.symbol, [')']), (.finish, [])]

/-- The lexemes of the statement that puts a row of so many values into a table. -/
def insertPieces (table : Text) (width : Nat) : List (Kind × Text) :=
  [(.word, "INSERT".toList), (.word, "INTO".toList), (.word, table), (.word, "VALUES".toList), (.symbol, ['('])] ++
    marks width ++ [(.symbol, [')']), (.finish, [])]

section

variable {plan : TablePlan}

/-- A text without null characters has the lexemes of its content. -/
private theorem bare_of_content {sql : Text} {ps : List (Kind × Text)} (hclear : Clear sql) (hcontent : content sql = ps) :
    (lexemes sql).map Lexeme.bare = ps ++ [(.finish, [])] := by
  rw [bare_lexemes, List.takeWhile_eq_self_iff.2 fun c hc => (hclear c hc).1, hcontent]

theorem bare_createSql (hbare : BareName plan.table) (htable : plan.table.all Identifier.isWordChar)
    (hids : ∀ w ∈ plan.identifiers, w.all Identifier.isWordChar) :
    (lexemes plan.createSql).map Lexeme.bare = createPieces plan.table plan.identifiers := by
  have hwords : ∀ s : Text, "CREATE TABLE ".toList ++ s = "CREATE".toList ++ ' ' :: ("TABLE".toList ++ ' ' :: s) :=
    fun _ => rfl
  rw [bare_of_content (clear_createSql htable hids) rfl, TablePlan.createSql_eq, hwords, content_word (by decide),
    content_word (by decide), content_word hbare, content_columns hids, createPieces]
  simp

theorem bare_insertSql (hbare : BareName plan.table) (htable : plan.table.all Identifier.isWordChar) :
    (lexemes plan.insertSql).map Lexeme.bare = insertPieces plan.table plan.columns.length := by
  rw [bare_of_content (clear_insertSql htable) (content_insertSql hbare), insertPieces]
  simp

/-- The quoted names of a statement are those among its pieces. -/
private theorem quotedNames_eq {sql : Text} {ps : List (Kind × Text)} (h : (lexemes sql).map Lexeme.bare = ps) :
    quotedNames sql = (ps.filter (·.1 = .quotedName)).map fun p => Lexeme.unquoted ⟨p.1, p.2, [], 0, 0⟩ := by
  rw [← h, List.filter_map, List.map_map]
  rfl

private theorem filter_columns (ws : List Text) :
    ([(Kind.symbol, [','])].intercalate (ws.map Grammar.columnPieces)).filter (·.1 = .quotedName) =
      ws.map fun w => (.quotedName, '"' :: w ++ ['"']) := by
  induction ws with
  | nil => rfl
  | cons w ws ih =>
    cases ws with
    | nil => rfl
    | cons v ws =>
      rw [List.map_cons, List.map_cons] at ih ⊢
      rw [List.intercalate_cons_cons, List.append_assoc, List.filter_append, List.filter_append, ih]
      rfl

/-- The names of the columns are the quoted names of the statement that creates the table. -/
theorem quotedNames_createSql (hbare : BareName plan.table) (htable : plan.table.all Identifier.isWordChar)
    (hids : ∀ w ∈ plan.identifiers, w.all Identifier.isWordChar) : quotedNames plan.createSql = plan.identifiers := by
  have hnone : ∀ ps : List (Kind × Text), (∀ p ∈ ps, p.1 ≠ .quotedName) → ps.filter (·.1 = .quotedName) = [] :=
    fun ps h => List.filter_eq_nil_iff.2 fun p hp => by simpa using h p hp
  rw [quotedNames_eq (bare_createSql hbare htable hids), createPieces, List.filter_append, List.filter_append,
    filter_columns, hnone _ (by simp), hnone _ (by simp), List.nil_append, List.append_nil, List.map_map]
  refine (List.map_congr_left fun w hw => ?_).trans (List.map_id _)
  change Lexeme.unquoted ⟨.quotedName, '"' :: w ++ ['"'], [], 0, 0⟩ = w
  exact Grammar.unquoted_of_quotedName (quote_not_mem_of_word (hids w hw)) rfl

end

/-- The statements for the table of a file, whatever the file and its headers are called.  The table has a bare name that
is kept as it is, and there is a column for each header.  Both statements are made of the same lexemes for all tables with
so many columns, but for the names, each of which is one lexeme, and nothing but spaces stands between them.  So the name
of the table and those of the columns can be read from the statement that creates it. -/
theorem lexemes_planTable (path : Text) (headers : List Text) (h : Session.tableOfPath path ≠ []) :
    let table := Session.tableOfPath path
    let plan := planTable table headers
    (BareName table ∧ table.all Identifier.isWordChar ∧ Identifier.forTable table = table) ∧
      plan.identifiers.length = headers.length ∧
      (lexemes plan.createSql).map Lexeme.bare = createPieces table plan.identifiers ∧
      (lexemes plan.insertSql).map Lexeme.bare = insertPieces table headers.length ∧
      (∀ l ∈ lexemes plan.createSql ++ lexemes plan.insertSql, ∀ c ∈ l.lead, isSpace c) ∧
      (lexemes plan.createSql)[2]?.map (·.text) = some table ∧ quotedNames plan.createSql = plan.identifiers := by
  intro table plan
  have htable : table.all Identifier.isWordChar := word_forTable _
  have hdigit : ∀ c ∈ table.head?, c.isDigit = false := digit_forTable _
  have hbare : BareName table := bareName_of_word htable h hdigit
  have hids := word_identifiers table headers
  have hlength : plan.columns.length = headers.length := length_columns table headers
  have hcreate : (lexemes plan.createSql).map Lexeme.bare = createPieces table plan.identifiers :=
    bare_createSql hbare htable hids
  refine ⟨⟨hbare, htable, forTable_eq_self htable hdigit⟩, ?_, hcreate, ?_, fun l hl => ?_, ?_,
    quotedNames_createSql hbare htable hids⟩
  · rw [TablePlan.identifiers, List.length_map, hlength]
  · rw [← hlength]
    exact bare_insertSql hbare htable
  · rcases List.mem_append.1 hl with hl | hl
    · exact lead_spaces (fun c hc => (clear_createSql htable hids c hc).2) l hl
    · exact lead_spaces (fun c hc => (clear_insertSql htable c hc).2) l hl
  · have hthird : ((lexemes plan.createSql).map Lexeme.bare)[2]? = some (.word, table) := by
      rw [hcreate]
      rfl
    rw [List.getElem?_map, Option.map_eq_some_iff] at hthird
    obtain ⟨l, hl, hname⟩ := hthird
    rw [hl]
    exact congrArg (fun p => some p.2) hname

/-- A name and headers that look like statements of their own. -/
theorem lexemes_planTable_hostile :
    let path := "data/1); DROP TABLE t; --\".csv".toList
    let headers := ["id\" TEXT); --".toList, "名称".toList, "?1".toList, []]
    let plan := planTable (Session.tableOfPath path) headers
    Session.tableOfPath path ≠ [] ∧
      (lexemes plan.createSql).map Lexeme.bare =
        createPieces "_1DROPTABLEt".toList ["id_TEXT_".toList, "_2".toList, ['1'], "_4".toList] ∧
      (lexemes plan.insertSql).map Lexeme.bare = insertPieces "_1DROPTABLEt".toList 4 := by
  have hne : Session.tableOfPath "data/1); DROP TABLE t; --\".csv".toList ≠ [] := by decide
  obtain ⟨-, -, hcreate, hinsert, -⟩ :=
    lexemes_planTable _ ["id\" TEXT); --".toList, "名称".toList, "?1".toList, []] hne
  exact ⟨hne, hcreate, hinsert⟩

end SheetQuery.Sql
