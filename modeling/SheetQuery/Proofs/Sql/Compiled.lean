import SheetQuery.Proofs.Sql.Assembly

/-!
# Statements of one table

What the texts that create, fill and read one table say, if its name and those of its columns are words.

* `TableWord`: a name that stands for a table without quotes.
* `Says`: a text is one statement; `Says.compile` prepares it.
* `readStatement_createSql`: the statement that creates a planned table.
* `says_insertSql`, `readStatement_insertSql`: the statement that puts a row into it.
* `says_selectAll`, `says_selectColumns`: the queries of its columns.
-/

namespace SheetQuery.Sql

/-! ### Characters without a meaning of their own -/

/-- Nothing in the text ends a statement or begins a comment. -/
def Clear (s : Text) : Prop := ∀ c ∈ s, c.toNat != 0 ∧ c ≠ '-' ∧ c ≠ '/' ∧ c ≠ '\uFEFF'

instance (s : Text) : Decidable (Clear s) := List.decidableBAll _ s

theorem clear_append {s t : Text} : Clear (s ++ t) ↔ Clear s ∧ Clear t := List.forall_mem_append

theorem clear_of_word {s : Text} (h : s.all Identifier.isWordChar) : Clear s := by
  have hnull : ∀ x : Char, x.toNat = 0 → x = '\x00' := fun x hx => Char.ext (UInt32.toNat_inj.1 hx)
  intro c hc
  have hword := List.all_eq_true.1 h c hc
  have hne : ∀ x ∈ ['\x00', '-', '/', '\uFEFF'], c ≠ x := by
    rintro x hx rfl
    have hno : ∀ x ∈ ['\x00', '-', '/', '\uFEFF'], Identifier.isWordChar x = false :=
      List.all_iff_forall_prop.1 (by decide)
    exact absurd hword (Bool.eq_false_iff.1 (hno c hx))
  refine ⟨bne_iff_ne.2 fun h0 => hne '\x00' (by decide) (hnull c h0), hne _ (by decide), hne _ (by decide),
    hne _ (by decide)⟩

theorem quote_not_mem_of_word {s : Text} (h : s.all Identifier.isWordChar) : '"' ∉ s := fun hquote =>
  absurd (List.all_eq_true.1 h _ hquote) (by decide)

theorem clear_joinWith {separator : Text} {parts : List Text} (hseparator : Clear separator)
    (hparts : ∀ p ∈ parts, Clear p) : Clear (Text.joinWith separator parts) :=
  forall_mem_intercalate hseparator hparts

/-- A name that stands for a table: a word that begins with no digit and is not reserved. -/
structure TableWord (w : Text) : Prop where
  word : w.all Identifier.isWordChar
  bare : BareName w
  free : ∀ keyword ∈ reservedWords, Text.lower w ≠ keyword.toList

theorem TableWord.ne_nil {w : Text} (h : TableWord w) : w ≠ [] := by
  rintro rfl
  exact h.bare

theorem isNameChar_of_wordChar {c : Char} (h : Identifier.isWordChar c) : isNameChar c := by
  simp only [Identifier.isWordChar, Bool.or_eq_true] at h
  simp only [isNameChar, Bool.or_eq_true]
  exact .inl (.inl h)

/-- A word that begins with no digit needs no quotes. -/
theorem bareName_of_word {w : Text} (hw : w.all Identifier.isWordChar) (hne : w ≠ [])
    (hdigit : ∀ c ∈ w.head?, c.isDigit = false) : BareName w := by
  cases w with
  | nil => exact absurd rfl hne
  | cons c w =>
    rw [List.all_cons, Bool.and_eq_true] at hw
    refine ⟨?_, List.all_eq_true.2 fun x hx => isNameChar_of_wordChar (List.all_eq_true.1 hw.2 x hx)⟩
    simpa [Identifier.isWordChar, Char.isAlphanum, hdigit c rfl] using hw.1

/-! ### Statements that are whole texts -/

theorem unnamed_cons {p : Kind × Text} {ps : List (Kind × Text)} (hp : p.1 ≠ .variable) (hps : Unnamed ps) :
    Unnamed (p :: ps) :=
  List.forall_mem_cons.2 ⟨fun h => absurd h hp, hps⟩

/-- The text is one statement with so many parameters, and it sets out to create no table. -/
structure Says (sql : Text) (s : Statement) (parameters : Nat) : Prop where
  read : readStatement sql = .ok (some ⟨s, parameters, []⟩)
  head : tableHead? sql = none

theorem Says.compile {sql : Text} {s : Statement} {parameters : Nat} (h : Says sql s parameters) {db : Database}
    {action : Action} (hprepare : db.catalog.prepare s = .ok action) :
    db.compile sql = .ok (some ⟨action, parameters⟩) :=
  Database.compile_of_read h.head h.read hprepare

private theorem foldl_max_numbered (highest : Nat) (ps : List (Kind × Text)) :
    ((numbered highest ps).map Prod.snd).foldl max highest = highest + ps.countP (·.1 = .variable) := by
  induction ps generalizing highest with
  | nil => rfl
  | cons p ps ih =>
    rw [numbered]
    by_cases hp : p.1 = .variable
    · rw [if_pos hp, List.map_cons, List.foldl_cons, Nat.max_eq_right (Nat.le_succ _), ih,
        List.countP_cons_of_pos (by simpa using hp)]
      omega
    · rw [if_neg hp, List.map_cons, List.foldl_cons, Nat.max_eq_left (Nat.zero_le _), ih,
        List.countP_cons_of_neg (by simpa using hp)]

private theorem skipSemicolons_of_word {first : Lexeme} (hkind : first.kind = .word) (ls : List Lexeme) :
    Grammar.skipSemicolons (first :: ls) = first :: ls := by
  have hsemicolon : first.isSymbol ";" = false := by simp [Lexeme.isSymbol, hkind]
  rw [Grammar.skipSemicolons, List.dropWhile_cons, hsemicolon, if_neg Bool.false_ne_true]

/-- The numbers of all lexemes but the last one, which ends the text. -/
private theorem numbers_of_shapes {ls : List Lexeme} {ps : List (Kind × Text)}
    (hshapes : ls.map Lexeme.shape = numbered 0 (ps ++ [(.finish, [])])) :
    (ls.take (ls.length - 1)).map (·.number) = (numbered 0 ps).map Prod.snd := by
  rw [show numbered 0 (ps ++ [(.finish, [])]) = numbered 0 ps ++ [((.finish, []), 0)] from numbered_append ..]
    at hshapes
  have hlength := congrArg List.length hshapes
  rw [List.length_map, List.length_append, List.length_singleton] at hlength
  have hnumbers : ls.map (·.number) = (numbered 0 ps).map Prod.snd ++ [0] := by
    have h := congrArg (List.map Prod.snd) hshapes
    rw [List.map_map, List.map_append] at h
    exact h
  rw [hlength, Nat.add_sub_cancel, List.map_take, hnumbers, ← List.length_map (f := Prod.snd), List.take_left']
  rfl

/-- A statement that begins with another word than `CREATE` creates no table. -/
private theorem tableHead?_of_word {sql w : Text} {first : Lexeme} {ls : List Lexeme} (hls : lexemes sql = first :: ls)
    (hfirst : first.bare = (.word, w)) (hw : Text.lower w ≠ "create".toList) : tableHead? sql = none := by
  have hkind : first.kind = .word := congrArg Prod.fst hfirst
  have hno : first.isWord "create" = false := by
    rw [Grammar.isWord_of_bare hfirst]
    exact beq_eq_false_iff_ne.2 hw
  have hexpect : Grammar.expectWord "create" (first :: ls) = .error first.unexpected := by
    unfold Grammar.expectWord
    rw [Grammar.acceptWord_neg hno]
    rfl
  have hfail : ∀ {α : Type} {f : Unit → Reading α},
      (Grammar.expectWord "create" >>= f) (first :: ls) = .error first.unexpected := by
    intro α f
    change (Grammar.expectWord "create" (first :: ls) >>= fun p => f p.1 p.2) = _
    rw [hexpect]
    rfl
  unfold tableHead?
  dsimp only
  rw [hls, skipSemicolons_of_word hkind, hfail]

/-- A text says what its lexemes are read as, if they are all taken. -/
theorem says_of_statement {sql w : Text} {ps : List (Kind × Text)} (hclear : Clear sql)
    (hps : content sql = (.word, w) :: ps) (hw : Text.lower w ≠ "create".toList) (hunnamed : Unnamed ps)
    {s : Statement} {rest : List Lexeme} (hread : Grammar.statement (lexemes sql) = .ok (s, rest))
    (hrest : rest.map Lexeme.bare = [(.finish, [])]) : Says sql s (ps.countP (·.1 = .variable)) := by
  have hshapes := shapes_lexemes (fun c hc => (hclear c hc).1) hps (unnamed_cons (by simp) hunnamed)
  obtain ⟨first, ls, hls, hfirst, -⟩ := List.map_eq_cons_iff.1 hshapes
  have hbare : first.bare = (.word, w) := congrArg Prod.fst hfirst
  have hkind : first.kind = .word := congrArg Prod.fst hbare
  obtain ⟨last, none', rfl, hlast, hnone⟩ := List.map_eq_cons_iff.1 hrest
  obtain rfl := List.map_eq_nil_iff.1 hnone
  have hfinish : last.kind = .finish := congrArg Prod.fst hlast
  constructor
  · unfold readStatement
    dsimp only
    rw [show Grammar.skipSemicolons (lexemes sql) = lexemes sql by rw [hls, skipSemicolons_of_word hkind]]
    have hhead : ((lexemes sql).headD Grammar.finish).kind = .word := by rw [hls]; exact hkind
    rw [if_neg (by rw [hhead]; decide)]
    have hparse : parseLexemes (lexemes sql) = .ok (s, ps.countP (·.1 = .variable), none) := by
      unfold parseLexemes
      rw [hread]
      change (if ([last].headD Grammar.finish).kind = .finish then _ else _ : Except Located _) = _
      rw [List.headD_cons, if_pos hfinish]
      change Except.ok (s, (((lexemes sql).take ((lexemes sql).length - 1)).map (·.number)).foldl max 0, none) = _
      rw [numbers_of_shapes hshapes, foldl_max_numbered, Nat.zero_add, List.countP_cons_of_neg (by simp)]
    rw [hparse]
    rfl
  · exact tableHead?_of_word hls hbare hw

/-! ### A table to create -/

/-- A piece that begins with a digit is no name. -/
private theorem kind_of_isDigit {c : Char} (hc : c.isDigit) (s : Text) :
    ∃ kind text rest, content (c :: s) = (kind, text) :: rest ∧ kind ∈ [Kind.integer, .float, .illegal] := by
  have hopening : ∀ next more, opening c next more = .number := by
    intro next more
    have hne : ∀ x : Char, x.isDigit = false → c ≠ x := by
      rintro x hx rfl
      simp [hx] at hc
    have hspace : isSpace c = false := by simp [isSpace, hne]
    simp [opening, openings, hspace, hc, hne]
  have hcut : cut (c :: s) = cutNumber (c :: s) := by rw [cut, hopening, Opening.cut]
  have hkind : (cut (c :: s)).1 ∈ [Kind.integer, .float, .illegal] := by
    rw [hcut, cutNumber, numberLength]
    dsimp only
    split_ifs <;> simp
  have hblank : (cut (c :: s)).1 ≠ .blank := by
    intro h
    rw [h] at hkind
    exact absurd hkind (by decide)
  exact ⟨_, _, _, content_of_lexeme hblank, hkind⟩

theorem clear_createSql {plan : TablePlan} (htable : plan.table.all Identifier.isWordChar)
    (hids : ∀ w ∈ plan.identifiers, w.all Identifier.isWordChar) : Clear plan.createSql := by
  have hcolumns : ∀ p ∈ plan.identifiers.map TablePlan.columnSql, Clear p := by
    intro p hp
    obtain ⟨w, hw, rfl⟩ := List.mem_map.1 hp
    exact clear_append.2 ⟨clear_append.2 ⟨(by decide : Clear ['"']), clear_of_word (hids w hw)⟩, by decide⟩
  unfold TablePlan.createSql
  simp only [clear_append]
  exact ⟨⟨⟨⟨by decide, clear_of_word htable⟩, by decide⟩, clear_joinWith (by decide) hcolumns⟩, by decide⟩

theorem content_columns {ws : List Text} (hws : ∀ w ∈ ws, w.all Identifier.isWordChar) :
    content ('(' :: (Text.joinWith ", ".toList (ws.map TablePlan.columnSql) ++ ")".toList)) =
      (.symbol, ['(']) :: ([(.symbol, [','])].intercalate (ws.map Grammar.columnPieces) ++ [(.symbol, [')'])]) := by
  have hcolumn : ∀ w ∈ ws, ∀ s, Ends s → content (TablePlan.columnSql w ++ s) = Grammar.columnPieces w ++ content s := by
    intro w hw s hs
    have hsplit : TablePlan.columnSql w ++ s = '"' :: w ++ '"' :: (' ' :: ("TEXT".toList ++ s)) := by
      simp [TablePlan.columnSql]
    rw [hsplit, content_quotedName (quote_not_mem_of_word (hws w hw)) (ends_cons (by decide) _), content_space,
      content_name (by decide) hs]
    rfl
  have hclose : content ")".toList = [(.symbol, [')'])] := content_symbol (by decide) []
  have hends : Ends ")".toList := ends_cons (by decide) []
  rw [content_parenthesis, content_joinWith hcolumn hends, hclose]

/-- Behind `TABLE` stands a name, or the words `IF NOT`. -/
private theorem name_or_if {table l : Lexeme} {ls rest : List Lexeme} (htable : table.bare = (.word, "TABLE".toList))
    {d : TableDefinition} (h : Grammar.tableDefinition (table :: l :: ls) = .ok (d, rest)) :
    l.isName ∧ l.isWord "if" = false ∨ l.isWord "if" ∧ (ls.headD Grammar.finish).isWord "not" := by
  obtain ⟨mid, mid', hexists, hname⟩ := Grammar.tableDefinition_eq_ok htable h
  rcases Grammar.ifNotExists_eq_ok hexists with ⟨-, rfl, hif⟩ | hif
  · obtain ⟨first, rest, hcons, hfirst, -⟩ := Grammar.tableName_eq_ok hname
    cases hcons
    exact .inl ⟨hfirst, hif⟩
  · exact .inr hif

/-- A word behind `TABLE` is bare if the table can be created. -/
private theorem bareName_of_table {table l : Lexeme} {ls rest : List Lexeme}
    (htable : table.bare = (.word, "TABLE".toList)) {d : TableDefinition}
    (h : Grammar.tableDefinition (table :: l :: ls) = .ok (d, rest)) {w s : Text} {ps : List (Kind × Text)}
    (hw : w.all Identifier.isWordChar) (hls : (l :: ls).map Lexeme.bare = content (w ++ ' ' :: '(' :: s) ++ ps) :
    BareName w := by
  have hkind : l.kind ∉ [Kind.symbol, .integer, .float, .illegal] := by
    intro hkind
    have hname : l.isName = false ∧ l.isWord "if" = false := by
      simp only [List.mem_cons, List.not_mem_nil, or_false] at hkind
      rcases hkind with hkind | hkind | hkind | hkind <;> simp [Lexeme.isName, Lexeme.isWord, hkind]
    rcases name_or_if htable h with ⟨hname', -⟩ | ⟨hif, -⟩
    · exact absurd hname' (Bool.eq_false_iff.1 hname.1)
    · exact absurd hif (Bool.eq_false_iff.1 hname.2)
  cases w with
  | nil =>
    rw [List.nil_append, content_space, content_parenthesis, List.cons_append] at hls
    have hl : l.kind = .symbol := congrArg Prod.fst (List.cons.inj hls).1
    exact absurd (by rw [hl]; decide) hkind
  | cons c w =>
    refine bareName_of_word hw (List.cons_ne_nil _ _) fun first hfirst => Bool.eq_false_iff.2 fun hdigit => ?_
    cases hfirst
    obtain ⟨kind, text, rest, hcontent, hmem⟩ := kind_of_isDigit hdigit (w ++ ' ' :: '(' :: s)
    rw [List.cons_append, hcontent, List.cons_append] at hls
    have hl : l.kind = kind := congrArg Prod.fst (List.cons.inj hls).1
    exact hkind (by rw [hl]; exact List.mem_cons_of_mem _ hmem)

/-- The head of a table to create is read as its definition is. -/
private theorem tableHead?_of_lexemes {sql : Text} {create : Lexeme} {ls rest : List Lexeme} {d : TableDefinition}
    (hlexemes : lexemes sql = create :: ls) (hcreate : create.bare = (.word, "CREATE".toList))
    (hd : Grammar.tableDefinition ls = .ok (d, rest)) : tableHead? sql = some (d.name, d.ifNotExists) := by
  obtain ⟨⟨name, exists?⟩, behind, hhead, hd⟩ := Grammar.bind_eq_ok.1 hd
  obtain ⟨_, columns, hopen, hd⟩ := Grammar.bind_eq_ok.1 hd
  obtain ⟨_, _, -, hd⟩ := Grammar.bind_eq_ok.1 hd
  obtain ⟨⟨_, _⟩, _, -, hd⟩ := Grammar.bind_eq_ok.1 hd
  obtain ⟨_, _, -, hd⟩ := Grammar.bind_eq_ok.1 hd
  obtain ⟨rfl, -⟩ := Grammar.pure_eq_ok.1 hd
  unfold tableHead?
  dsimp only
  rw [hlexemes, skipSemicolons_of_word (congrArg Prod.fst hcreate),
    Grammar.expectWord_pos (Grammar.isWord_of_bare hcreate "create"), Grammar.bind_of_ok hhead,
    Grammar.bind_of_ok hopen]
  rfl

/-- A planned table that can be created has a name that needs no quotes, and columns of texts. -/
theorem readStatement_createSql {plan : TablePlan} (htable : plan.table.all Identifier.isWordChar)
    (hids : ∀ w ∈ plan.identifiers, w.all Identifier.isWordChar) {parsed : Parsed}
    (h : readStatement plan.createSql = .ok (some parsed)) :
    TableWord plan.table ∧ plan.identifiers ≠ [] ∧ parsed.rest = [] ∧ ∃ offset,
      tableHead? plan.createSql = some (⟨⟨plan.table, plan.table, offset⟩, none⟩, false) ∧ parsed.statement =
        .createTable ⟨⟨⟨plan.table, plan.table, offset⟩, none⟩, false, plan.identifiers.map Grammar.textDefinition, []⟩ := by
  have hclear := clear_createSql htable hids
  have hlead : ∀ l ∈ lexemes plan.createSql, ∀ c ∈ l.lead, isSpace c := lead_spaces fun c hc => (hclear c hc).2
  have hwords : ∀ s : Text, "CREATE TABLE ".toList ++ s = "CREATE".toList ++ ' ' :: ("TABLE".toList ++ ' ' :: s) :=
    fun _ => rfl
  have hsql : plan.createSql = "CREATE".toList ++ ' ' :: ("TABLE".toList ++ ' ' :: (plan.table ++ ' ' :: '(' ::
      (Text.joinWith ", ".toList (plan.identifiers.map TablePlan.columnSql) ++ ")".toList))) := by
    rw [TablePlan.createSql_eq, hwords]
  rw [hsql] at h hlead
  rw [hsql, ← hwords, clear_append] at hclear
  obtain ⟨create, table, ls, rest, hlexemes, hcreate, htable', hls, hread, hend⟩ :=
    readStatement_words (by decide) (by decide) h
  rw [List.takeWhile_eq_self_iff.2 fun c hc => (hclear.2 c hc).1] at hls
  rw [Grammar.statement_createTable hcreate htable'] at hread
  obtain ⟨d, rest', hd, hread⟩ := Grammar.bind_eq_ok.1 hread
  obtain ⟨hstatement, rfl⟩ := Grammar.pure_eq_ok.1 hread
  rw [← hstatement]
  have hbare : BareName plan.table := by
    cases ls with
    | nil => simp at hls
    | cons l ls => exact bareName_of_table htable' hd htable hls
  rw [content_word hbare, content_columns hids, List.cons_append, List.map_eq_cons_iff] at hls
  obtain ⟨name, columns, rfl, hname, hcolumns⟩ := hls
  have hfirst : name.isName ∧ name.isWord "if" = false := by
    rcases name_or_if htable' hd with hfirst | ⟨-, hnot⟩
    · exact hfirst
    · obtain ⟨opened, behind, rfl, hopened, -⟩ := List.map_eq_cons_iff.1 hcolumns
      have hkind : opened.kind = .symbol := congrArg Prod.fst hopened
      rw [List.headD_cons] at hnot
      simp [Lexeme.isWord, hkind] at hnot
  have hlead' : ∀ l ∈ columns, ∀ c ∈ l.lead, isSpace c := by
    intro l hl
    refine hlead l ?_
    rw [hlexemes]
    simp [hl]
  have hquote : ∀ w ∈ plan.identifiers, '"' ∉ w := fun w hw => quote_not_mem_of_word (hids w hw)
  rw [List.cons_append, List.append_assoc] at hcolumns
  have hne : plan.identifiers ≠ [] := by
    intro hnil
    rw [hnil] at hcolumns
    obtain ⟨opened, behind, rfl, hopened, hbehind⟩ := List.map_eq_cons_iff.1 hcolumns
    obtain ⟨closed, behind, rfl, hclosed, -⟩ := List.map_eq_cons_iff.1 hbehind
    exact Grammar.tableDefinition_empty htable' hfirst.1 hfirst.2 hopened hclosed d rest' hd
  obtain ⟨rest', hdefinition, hrest⟩ :=
    Grammar.tableDefinition_columns htable' hfirst.1 hfirst.2 hne hquote hlead' hcolumns
  have hhead : tableHead? plan.createSql = some (⟨name.writtenName, none⟩, false) := by
    rw [hsql]
    exact tableHead?_of_lexemes hlexemes hcreate hdefinition
  cases hd.symm.trans hdefinition
  have hwritten := Grammar.writtenName_of_bareName hbare hname
  rw [hwritten] at hhead
  have hfinish : (rest'.headD Grammar.finish).kind = .finish := by
    obtain ⟨last, _, rfl, hlast, -⟩ := List.map_eq_cons_iff.1 hrest
    exact congrArg Prod.fst hlast
  exact ⟨⟨htable, hbare, (Grammar.isName_iff hname).1 hfirst.1⟩, hne, hend hfinish, name.offset, hhead, by rw [hwritten]⟩

/-! ### Rows to insert -/

/-- The pieces of parameters with commas between them. -/
def marks (n : Nat) : List (Kind × Text) :=
  [(.symbol, [','])].intercalate (List.replicate n [(.variable, ['?'])])

private theorem marks_succ (n : Nat) : marks (n + 2) = (.variable, ['?']) :: (.symbol, [',']) :: marks (n + 1) := by
  simp only [marks, List.replicate_succ, List.intercalate_cons_cons]
  rfl

private theorem mem_marks (n : Nat) : ∀ p ∈ marks n, p ∈ [(Kind.variable, ['?']), (.symbol, [','])] := by
  refine forall_mem_intercalate (by decide) fun q hq p hp => ?_
  rw [List.eq_of_mem_replicate hq, List.mem_singleton] at hp
  rw [hp]
  decide

private theorem countP_marks (n : Nat) : (marks n).countP (·.1 = .variable) = n := by
  induction n with
  | zero => rfl
  | succ n ih =>
    cases n with
    | zero => rfl
    | succ n => rw [marks_succ, List.countP_cons_of_pos rfl, List.countP_cons_of_neg (by simp), ih]

private theorem numbered_marks (highest n : Nat) :
    numbered highest (marks n) = Grammar.parameterPieces (List.range' (highest + 1) n) := by
  induction n generalizing highest with
  | zero => rfl
  | succ n ih =>
    cases n with
    | zero => rfl
    | succ n =>
      rw [marks_succ, numbered, if_pos rfl, numbered, if_neg (by simp), ih]
      simp only [Grammar.parameterPieces, List.range'_succ, List.map_cons, List.intercalate_cons_cons]
      rfl

private theorem content_row (n : Nat) :
    content ('(' :: (Text.joinWith ", ".toList (List.replicate n ['?']) ++ ")".toList)) =
      (.symbol, ['(']) :: (marks n ++ [(.symbol, [')'])]) := by
  have hmark : ∀ w ∈ List.replicate n ['?'], ∀ s, Ends s → content (id w ++ s) = [(.variable, ['?'])] ++ content s := by
    intro w hw s hs
    rw [List.eq_of_mem_replicate hw]
    exact content_parameter hs
  have hclose : content ")".toList = [(.symbol, [')'])] := content_symbol (by decide) []
  have hends : Ends ")".toList := ends_cons (by decide) []
  have hjoin := content_joinWith hmark hends
  rw [List.map_id, List.map_replicate] at hjoin
  rw [content_parenthesis, hjoin, hclose, marks]

theorem clear_insertSql {plan : TablePlan} (htable : plan.table.all Identifier.isWordChar) :
    Clear plan.insertSql := by
  have hmarks : ∀ p ∈ List.replicate plan.columns.length ['?'], Clear p := by
    intro p hp
    rw [List.eq_of_mem_replicate hp]
    decide
  unfold TablePlan.insertSql
  simp only [clear_append]
  exact ⟨⟨⟨⟨by decide, clear_of_word htable⟩, by decide⟩, clear_joinWith (by decide) hmarks⟩, by decide⟩

/-- The statement that puts a row into a table has a parameter for each column. -/
theorem content_insertSql {plan : TablePlan} (htable : BareName plan.table) :
    content plan.insertSql = (.word, "INSERT".toList) :: (.word, "INTO".toList) :: (.word, plan.table) ::
      (.word, "VALUES".toList) :: (.symbol, ['(']) :: (marks plan.columns.length ++ [(.symbol, [')'])]) := by
  have hinto : ∀ s : Text, "INSERT INTO ".toList ++ s = "INSERT".toList ++ ' ' :: ("INTO".toList ++ ' ' :: s) :=
    fun _ => rfl
  have hvalues : ∀ s : Text, "VALUES (".toList ++ s = "VALUES".toList ++ ' ' :: '(' :: s := fun _ => rfl
  rw [TablePlan.insertSql_eq, hvalues, hinto, content_word (by decide), content_word (by decide), content_word htable,
    content_word (by decide), content_row]

/-- Nothing but the parameters is a variable, and they have no names. -/
private theorem unnamed_row (n : Nat) : Unnamed ((.symbol, ['(']) :: (marks n ++ [(.symbol, [')'])])) := by
  refine unnamed_cons (by simp) fun p hp hkind => ?_
  rcases List.mem_append.1 hp with hp | hp
  · have hall : ∀ p ∈ [(Kind.variable, ['?']), (.symbol, [','])], p.1 = .variable → p.2 = ['?'] := by decide
    exact hall p (mem_marks n p hp) hkind
  · rw [List.mem_singleton.1 hp] at hkind
    cases hkind

theorem says_insertSql {plan : TablePlan} (htable : TableWord plan.table) (hne : plan.columns ≠ []) :
    ∃ offset, Says plan.insertSql (.insert ⟨⟨plan.table, plan.table, offset⟩, none⟩ false []
      [(List.range' 1 plan.columns.length).map .parameter]) plan.columns.length := by
  have hclear := clear_insertSql htable.word
  have hcontent := content_insertSql htable.bare
  have hlength : plan.columns.length ≠ 0 := fun h => hne (List.eq_nil_of_length_eq_zero h)
  generalize plan.insertSql = sql at hclear hcontent ⊢
  generalize plan.columns.length = n at hcontent hlength ⊢
  have hunnamed : Unnamed ((.word, "INTO".toList) :: (.word, plan.table) :: (.word, "VALUES".toList) ::
      (.symbol, ['(']) :: (marks n ++ [(.symbol, [')'])])) :=
    unnamed_cons (by simp) (unnamed_cons (by simp) (unnamed_cons (by simp) (unnamed_row n)))
  have hshapes := shapes_lexemes (fun c hc => (hclear c hc).1) hcontent (unnamed_cons (by simp) hunnamed)
  simp only [List.cons_append, List.append_assoc, numbered, numbered_append, numbered_marks, reduceCtorEq, if_false,
    List.map_eq_cons_iff] at hshapes
  obtain ⟨insert, _, hls, hinsert, into, _, rfl, hinto', name, _, rfl, hname, values, ls, rfl, hvalues', hshapes⟩ :=
    hshapes
  have hls' : ls.map Lexeme.shape = ((.symbol, ['(']), 0) :: (Grammar.parameterPieces (List.range' 1 n) ++
      [((.symbol, [')']), 0), ((.finish, []), 0)]) := by
    obtain ⟨opened, row, rfl, hopened, hrow⟩ := hshapes
    rw [List.map_cons, hopened, hrow, Nat.zero_add]
    rfl
  have hrange : List.range' 1 n ≠ [] := by simpa using hlength
  have hfree : name.isName := (Grammar.isName_iff (Lexeme.bare_of_shape hname)).2 htable.free
  obtain ⟨rest, hread, hrest⟩ := Grammar.insertion_parameters hfree (Lexeme.bare_of_shape hvalues') hrange hls'
  have hwritten := Grammar.writtenName_of_bareName htable.bare (Lexeme.bare_of_shape hname)
  rw [← Grammar.statement_insertInto (Lexeme.bare_of_shape hinsert) (Lexeme.bare_of_shape hinto'), ← hls, hwritten] at hread
  have hcount : (((Kind.word, "INTO".toList) :: (.word, plan.table) :: (.word, "VALUES".toList) :: (.symbol, ['(']) ::
      (marks n ++ [(.symbol, [')'])])).countP (·.1 = .variable)) = n := by
    simp [List.countP_append, countP_marks]
  have hsaid := says_of_statement hclear hcontent (by decide) hunnamed hread hrest
  rw [hcount] at hsaid
  exact ⟨name.offset, hsaid⟩

/-- A statement that can be read and puts a row into a table has a name that needs no quotes, and columns. -/
theorem readStatement_insertSql {plan : TablePlan} (htable : plan.table.all Identifier.isWordChar) {parsed : Parsed}
    (h : readStatement plan.insertSql = .ok (some parsed)) : TableWord plan.table ∧ plan.columns ≠ [] := by
  have hclear := clear_insertSql htable
  have hsql : plan.insertSql = "INSERT".toList ++ ' ' :: ("INTO".toList ++ ' ' :: (plan.table ++ ' ' ::
      ("VALUES".toList ++ ' ' :: '(' :: (Text.joinWith ", ".toList (List.replicate plan.columns.length ['?']) ++
        ")".toList)))) := by
    rw [TablePlan.insertSql_eq]
    rfl
  rw [hsql] at h hclear
  obtain ⟨insert, into, ls, rest, -, hinsert, hinto, hls, hread, -⟩ := readStatement_words (by decide) (by decide) h
  have hbehind : Clear (plan.table ++ ' ' :: ("VALUES".toList ++ ' ' :: '(' ::
      (Text.joinWith ", ".toList (List.replicate plan.columns.length ['?']) ++ ")".toList))) := by
    have hinto' := (clear_append (s := "INSERT".toList ++ ' ' :: ("INTO".toList ++ [' ']))).1 (by simpa using hclear)
    exact hinto'.2
  rw [List.takeWhile_eq_self_iff.2 fun c hc => (hbehind c hc).1] at hls
  rw [Grammar.statement_insertInto hinsert hinto] at hread
  obtain ⟨target, mid, columns, rows, htarget, -, -⟩ := Grammar.insertion_eq_ok hread
  obtain ⟨name, behind, rfl, hname, -⟩ := Grammar.tableName_eq_ok htarget
  have hbare : BareName plan.table := by
    cases hw : plan.table with
    | nil =>
      rw [hw, List.nil_append, content_space, content_word (by decide), List.cons_append] at hls
      have hvalues := (Grammar.isName_iff (List.cons.inj hls).1).1 hname
      exact absurd rfl (hvalues "values" (by decide))
    | cons c w =>
      rw [hw] at hls htable
      refine bareName_of_word htable (List.cons_ne_nil _ _) fun first hfirst => Bool.eq_false_iff.2 fun hdigit => ?_
      cases hfirst
      obtain ⟨kind, text, rest, hcontent, hmem⟩ := kind_of_isDigit hdigit (w ++ ' ' :: _)
      rw [List.cons_append, hcontent, List.cons_append] at hls
      have hl : name.kind = kind := congrArg Prod.fst (List.cons.inj hls).1
      rw [← hl] at hmem
      simp only [List.mem_cons, List.not_mem_nil, or_false] at hmem
      rcases hmem with hkind | hkind | hkind <;> simp [Lexeme.isName, hkind] at hname
  rw [content_word hbare, content_word (by decide), content_row, List.cons_append, List.cons_append] at hls
  obtain ⟨hbareName, hls⟩ := List.cons.inj hls
  refine ⟨⟨htable, hbare, (Grammar.isName_iff hbareName).1 hname⟩, fun hnil => ?_⟩
  rw [hnil] at hls
  obtain ⟨values, _, rfl, hvalues, hls⟩ := List.map_eq_cons_iff.1 hls
  obtain ⟨opened, _, rfl, hopened, hls⟩ := List.map_eq_cons_iff.1 hls
  obtain ⟨closed, _, rfl, hclosed, -⟩ := List.map_eq_cons_iff.1 hls
  exact Grammar.insertion_empty hname hvalues hopened hclosed _ _ hread

/-! ### Queries -/

/-- The query of items of one table. -/
def tableQuery (items : List ResultItem) (table : TableName) : Query :=
  ⟨⟨items, none, [], none, none⟩, .table table none .none⟩

/-- What stands between `SELECT` and `FROM` makes the items. -/
private theorem says_select {table : Text} (htable : TableWord table) {listed : Text} (hlisted : Clear listed)
    {ps : List (Kind × Text)} (hps : ∀ s, Ends s → content (listed ++ s) = ps ++ content s)
    (hvariable : ∀ p ∈ ps, p.1 ≠ .variable) {Meant : List ResultItem → Prop}
    (hitems : ∀ {ls tail}, ls.map Lexeme.bare = ps ++ (.word, "FROM".toList) :: tail →
      (ls.headD Grammar.finish).isWord "all" = false ∧ ∃ items behind, Meant items ∧
        Grammar.separated Grammar.resultItem ls.length ls = .ok (items, behind) ∧
        behind.map Lexeme.bare = (.word, "FROM".toList) :: tail) :
    ∃ items offset, Meant items ∧
      Says ("SELECT ".toList ++ listed ++ " FROM ".toList ++ table)
        (.select (tableQuery items ⟨⟨table, table, offset⟩, none⟩)) 0 := by
  generalize hsql : "SELECT ".toList ++ listed ++ " FROM ".toList ++ table = sql
  have hclear : Clear sql := by
    rw [← hsql]
    simp only [clear_append]
    exact ⟨⟨⟨by decide, hlisted⟩, by decide⟩, clear_of_word htable.word⟩
  have hselect : ∀ s : Text, "SELECT ".toList ++ s = "SELECT".toList ++ ' ' :: s := fun _ => rfl
  have hfrom : ∀ s : Text, " FROM ".toList ++ s = ' ' :: ("FROM".toList ++ ' ' :: s) := fun _ => rfl
  have hname : content table = [(.word, table)] := by
    have h := content_name htable.bare ends_nil
    rwa [List.append_nil] at h
  have hcontent : content sql = (.word, "SELECT".toList) :: (ps ++ [(.word, "FROM".toList), (.word, table)]) := by
    rw [← hsql, List.append_assoc, List.append_assoc, hselect, hfrom, content_word (by decide),
      hps _ (ends_cons (by decide) _), content_space, content_word (by decide), hname]
  have hbare := bare_lexemes sql
  rw [List.takeWhile_eq_self_iff.2 fun c hc => (hclear c hc).1, hcontent, List.cons_append, List.append_assoc,
    List.map_eq_cons_iff] at hbare
  obtain ⟨select, ls, hls, hselect', hls'⟩ := hbare
  obtain ⟨hall, items, behind, hmeant, hread, hbehind⟩ := hitems hls'
  obtain ⟨word, _, rfl, hword, hbehind⟩ := List.map_eq_cons_iff.1 hbehind
  obtain ⟨name, rest, rfl, hname', hrest⟩ := List.map_eq_cons_iff.1 hbehind
  have hquery := Grammar.query_items hall hread ⟨word, hword, rfl⟩ ((Grammar.isName_iff hname').2 htable.free) hrest
  rw [Grammar.writtenName_of_bareName htable.bare hname'] at hquery
  have hstatement : Grammar.statement (lexemes sql) =
      .ok (.select (tableQuery items ⟨⟨table, table, name.offset⟩, none⟩), rest) := by
    rw [hls, Grammar.statement, Grammar.acceptWord_pos (Grammar.isWord_of_bare hselect' "select"),
      Grammar.bind_of_ok hquery]
    rfl
  have hvariable' : ∀ p ∈ ps ++ [(.word, "FROM".toList), (.word, table)], p.1 ≠ .variable := by
    intro p hp
    rcases List.mem_append.1 hp with hp | hp
    · exact hvariable p hp
    · simp only [List.mem_cons, List.not_mem_nil, or_false] at hp
      rcases hp with rfl | rfl <;> simp
  have hsaid := says_of_statement hclear hcontent (by decide) (fun p hp h => absurd h (hvariable' p hp)) hstatement hrest
  rw [List.countP_eq_zero.2 fun p hp => by simpa using hvariable' p hp] at hsaid
  exact ⟨items, name.offset, hmeant, hsaid⟩

theorem says_selectAll {table : Text} (htable : TableWord table) :
    ∃ offset, Says ("SELECT * FROM ".toList ++ table) (.select (tableQuery [.all] ⟨⟨table, table, offset⟩, none⟩)) 0 := by
  have hstar : ∀ s, Ends s → content (['*'] ++ s) = [(.symbol, ['*'])] ++ content s := fun s _ => content_symbol (by decide) s
  have hitems : ∀ {ls : List Lexeme} {tail : List (Kind × Text)},
      ls.map Lexeme.bare = [(.symbol, ['*'])] ++ (.word, "FROM".toList) :: tail →
      (ls.headD Grammar.finish).isWord "all" = false ∧ ∃ items behind, items = [ResultItem.all] ∧
        Grammar.separated Grammar.resultItem ls.length ls = .ok (items, behind) ∧
        behind.map Lexeme.bare = (.word, "FROM".toList) :: tail := by
    intro ls tail hls
    obtain ⟨star, behind, rfl, hbare, hbehind⟩ := List.map_eq_cons_iff.1 hls
    obtain ⟨word, rest, rfl, hword, -⟩ := List.map_eq_cons_iff.1 hbehind
    have hkind : star.kind = .symbol := congrArg Prod.fst hbare
    have hcomma : ((word :: rest).headD Grammar.finish).isSymbol "," = false := by
      have hkind : word.kind = .word := congrArg Prod.fst hword
      simp [Lexeme.isSymbol, hkind]
    have hitem : Grammar.resultItem (star :: word :: rest) = .ok (.all, word :: rest) := by
      unfold Grammar.resultItem
      rw [Grammar.acceptSymbol_pos (Grammar.isSymbol_of_bare hbare)]
      rfl
    refine ⟨by simp [Lexeme.isWord, hkind], [.all], word :: rest, rfl, ?_, hbehind⟩
    rw [List.length_cons, Grammar.separated, Grammar.bind_of_ok hitem, Grammar.acceptSymbol_neg hcomma]
    rfl
  obtain ⟨items, offset, rfl, hsaid⟩ := says_select htable (by decide : Clear ['*']) hstar (by simp) hitems
  exact ⟨offset, hsaid⟩

/-- The item is a plain column. -/
def IsColumn (w : Text) (item : ResultItem) : Prop :=
  ∃ offset written, item = .expr (.column none w false offset) none written

theorem says_selectColumns {table : Text} (htable : TableWord table) {ws : List Text} (hne : ws ≠ [])
    (hws : ∀ w ∈ ws, Grammar.ColumnName w ∧ w.all Identifier.isWordChar) :
    ∃ items offset, List.Forall₂ IsColumn ws items ∧
      Says ("SELECT ".toList ++ Text.joinWith ", ".toList ws ++ " FROM ".toList ++ table)
        (.select (tableQuery items ⟨⟨table, table, offset⟩, none⟩)) 0 := by
  have hclear : Clear (Text.joinWith ", ".toList ws) :=
    clear_joinWith (by decide) fun w hw => clear_of_word (hws w hw).2
  have hword : ∀ w ∈ ws, ∀ s, Ends s → content (id w ++ s) = [(.word, w)] ++ content s := fun w hw s hs =>
    content_name (hws w hw).1.bare hs
  have hcontent : ∀ s, Ends s → content (Text.joinWith ", ".toList ws ++ s) =
      [(.symbol, [','])].intercalate (ws.map fun w => [(.word, w)]) ++ content s := by
    intro s hs
    have h := content_joinWith hword hs
    rwa [List.map_id] at h
  have hvariable : ∀ p ∈ [(Kind.symbol, [','])].intercalate (ws.map fun w => [(.word, w)]), p.1 ≠ .variable := by
    refine forall_mem_intercalate (by decide) fun q hq p hp => ?_
    obtain ⟨w, -, rfl⟩ := List.mem_map.1 hq
    rw [List.mem_singleton.1 hp]
    simp
  refine @says_select _ htable _ hclear _ hcontent hvariable (List.Forall₂ IsColumn ws) fun {ls tail} hls => ?_
  have hall : (ls.headD Grammar.finish).isWord "all" = false := by
    obtain ⟨w, ws', rfl⟩ := List.exists_cons_of_ne_nil hne
    have hfirst : ∃ more, ls.map Lexeme.bare = (.word, w) :: more := by
      cases ws' <;> exact ⟨_, hls⟩
    obtain ⟨more, hfirst⟩ := hfirst
    obtain ⟨l, rest, rfl, hl, -⟩ := List.map_eq_cons_iff.1 hfirst
    rw [List.headD_cons, Grammar.isWord_of_bare hl]
    exact beq_eq_false_iff_ne.2 ((hws w (List.mem_cons_self ..)).1.free "all" (by decide))
  have hpart : ∀ w ∈ ws, ∀ taken rest, taken.map Lexeme.bare = [(.word, w)] → Grammar.Closes rest →
      ∃ item, IsColumn w item ∧ Grammar.resultItem (taken ++ rest) = .ok (item, rest) := by
    intro w hw taken rest htaken hrest
    obtain ⟨l, none', rfl, hl, hnone⟩ := List.map_eq_cons_iff.1 htaken
    obtain rfl := List.map_eq_nil_iff.1 hnone
    obtain ⟨written, hitem⟩ := Grammar.resultItem_column (hws w hw).1 hl hrest
    exact ⟨_, ⟨l.offset, written, rfl⟩, hitem⟩
  have htail : ∀ {rest : List Lexeme}, rest.map Lexeme.bare = (.word, "FROM".toList) :: tail →
      Grammar.Closes rest ∧ (rest.headD Grammar.finish).isSymbol "," = false := by
    intro rest hrest
    obtain ⟨word, behind, rfl, hword, -⟩ := List.map_eq_cons_iff.1 hrest
    have hkind : word.kind = .word := congrArg Prod.fst hword
    refine ⟨?_, by simp [Lexeme.isSymbol, hkind]⟩
    rw [Grammar.Closes, List.headD_cons, hword]
    decide
  have hlimit : ws.length ≤ ls.length + 1 := by
    have hlength : (ws.map fun w => [(Kind.word, w)]).length ≤
        ([(Kind.symbol, [','])].intercalate (ws.map fun w => [(Kind.word, w)])).length :=
      length_le_intercalate (List.forall_mem_map.2 fun _ _ => List.cons_ne_nil _ _)
    have htotal := congrArg List.length hls
    rw [List.length_map, List.length_append] at htotal
    rw [List.length_map] at hlength
    omega
  obtain ⟨items, behind, hitems, hbehind, hread⟩ := Grammar.separated_eq_ok id hpart htail hne hlimit hls
  exact ⟨hall, items, behind, hitems, hread, hbehind⟩

end SheetQuery.Sql
