import SheetQuery.Proofs.Outcome
import SheetQuery.Proofs.Sql.Content
import SheetQuery.Sql.Database

/-!
# How statements are read

A statement is told by its first words, and reading it depends on the lexemes only through their kinds and texts.

* `bind_eq_ok`: a reading that follows another one.
* `acceptWord_pos`, `acceptWord_neg`: what a reading does that first looks for a keyword.
* `readStatement_eq_some`, `compile_eq_some`: a prepared statement was read from the lexemes of its text.
* `readStatement_createTable`, `readStatement_insertInto`: statements that begin with these words.
-/

namespace SheetQuery.Sql

namespace Grammar

variable {α β : Type} {ls ls' : List Lexeme}

theorem bind_eq_ok {m : Reading α} {f : α → Reading β} {b : β} :
    (m >>= f) ls = .ok (b, ls') ↔ ∃ a mid, m ls = .ok (a, mid) ∧ f a mid = .ok (b, ls') := by
  change (m ls >>= fun p => f p.1 p.2) = _ ↔ _
  rw [SheetQuery.bind_eq_ok, Prod.exists]

theorem pure_eq_ok {a b : α} : (pure a : Reading α) ls = .ok (b, ls') ↔ a = b ∧ ls = ls' := by
  change Except.ok (a, ls) = _ ↔ _
  simp

theorem acceptWord_apply {keyword : String} :
    acceptWord keyword ls =
      if (ls.headD finish).isWord keyword then .ok (true, ls.drop 1) else .ok (false, ls) := by
  change (if (ls.headD finish).isWord keyword then _ else _ : Reading Bool) ls = _
  split <;> rfl

/-- A reading that looks for a keyword goes one way or the other. -/
theorem acceptWord_ite {keyword : String} {x y : Reading β} :
    (acceptWord keyword >>= fun found => if found = true then x else y) ls =
      if (ls.headD finish).isWord keyword then x (ls.drop 1) else y ls := by
  change (if (ls.headD finish).isWord keyword then _ else _ : Reading Bool) ls >>= _ = _
  split <;> rfl

theorem acceptSymbol_ite {symbol : String} {x y : Reading β} :
    (acceptSymbol symbol >>= fun found => if found = true then x else y) ls =
      if (ls.headD finish).isSymbol symbol then x (ls.drop 1) else y ls := by
  change (if (ls.headD finish).isSymbol symbol then _ else _ : Reading Bool) ls >>= _ = _
  split <;> rfl

theorem acceptWord_pos {l : Lexeme} {keyword : String} {x y : Reading β} (h : l.isWord keyword = true) :
    (acceptWord keyword >>= fun found => if found = true then x else y) (l :: ls) = x ls := by
  rw [acceptWord_ite, List.headD_cons, if_pos h]
  rfl

theorem acceptWord_neg {l : Lexeme} {keyword : String} {x y : Reading β} (h : l.isWord keyword = false) :
    (acceptWord keyword >>= fun found => if found = true then x else y) (l :: ls) = y (l :: ls) := by
  rw [acceptWord_ite, List.headD_cons, if_neg (Bool.eq_false_iff.1 h)]

theorem expectWord_eq_ok {keyword : String} {a : Unit} :
    expectWord keyword ls = .ok (a, ls') ↔ (ls.headD finish).isWord keyword ∧ ls' = ls.drop 1 := by
  rw [expectWord, acceptWord_ite]
  split
  · rename_i h
    simp only [pure_eq_ok, h, true_and]
    exact eq_comm
  · rename_i h
    exact ⟨fun h' => (nomatch h'), fun h' => absurd h'.1 h⟩

theorem expectWord_pos {l : Lexeme} {keyword : String} {f : Unit → Reading β} (h : l.isWord keyword = true) :
    (expectWord keyword >>= f) (l :: ls) = f () ls := by
  have hword : expectWord keyword (l :: ls) = .ok ((), ls) := expectWord_eq_ok.2 ⟨h, rfl⟩
  change (expectWord keyword (l :: ls) >>= fun p => f p.1 p.2) = _
  rw [hword]
  rfl

/-- Which keyword a bare word is depends on its text. -/
theorem isWord_of_bare {l : Lexeme} {w : Text} (hl : l.bare = (.word, w)) (keyword : String) :
    l.isWord keyword = (Text.lower w == keyword.toList) := by
  obtain ⟨hkind, htext⟩ := Prod.ext_iff.1 hl
  simp only [Lexeme.bare] at hkind htext
  simp [Lexeme.isWord, hkind, htext]

theorem statement_createTable {create table : Lexeme} (hcreate : create.bare = (.word, "CREATE".toList))
    (htable : table.bare = (.word, "TABLE".toList)) :
    statement (create :: table :: ls) = (tableDefinition >>= fun d => pure (.createTable d)) (table :: ls) := by
  have hfirst := isWord_of_bare hcreate
  rw [statement, acceptWord_neg (hfirst "select"), acceptWord_neg (hfirst "insert"),
    acceptWord_neg (hfirst "replace"), acceptWord_neg (hfirst "update"), acceptWord_neg (hfirst "delete"),
    acceptWord_pos (hfirst "create"), acceptWord_neg (isWord_of_bare htable "trigger")]

theorem statement_insertInto {insert into : Lexeme} (hinsert : insert.bare = (.word, "INSERT".toList))
    (hinto : into.bare = (.word, "INTO".toList)) :
    statement (insert :: into :: ls) = insertion false ls := by
  have hfirst := isWord_of_bare hinsert
  have hreplace : orReplace (into :: ls) = .ok (false, into :: ls) := acceptWord_neg (isWord_of_bare hinto "or")
  rw [statement, acceptWord_neg (hfirst "select"), acceptWord_pos (hfirst "insert")]
  change (orReplace (into :: ls) >>= fun p => _) = _
  rw [hreplace]
  exact expectWord_pos (f := fun _ => insertion false) (isWord_of_bare hinto "into")

/-- Behind `INTO` stands the name of a table, and behind it a list of columns or of rows. -/
theorem insertion_eq_ok {replace : Bool} {s : Statement} (h : insertion replace ls = .ok (s, ls')) :
    ∃ table mid columns rows, tableName ls = .ok (table, mid) ∧ s = .insert table replace columns rows ∧
      ((mid.headD finish).isSymbol "(" ∨ (mid.headD finish).isWord "values") := by
  obtain ⟨table, mid, htable, h⟩ := bind_eq_ok.1 h
  obtain ⟨columns, behind, hcolumns, h⟩ := bind_eq_ok.1 h
  obtain ⟨_, _, hvalues, h⟩ := bind_eq_ok.1 h
  obtain ⟨rows, _, -, h⟩ := bind_eq_ok.1 h
  refine ⟨table, mid, columns, rows, htable, (pure_eq_ok.1 h).1.symm, ?_⟩
  rw [columnList, acceptSymbol_ite] at hcolumns
  split at hcolumns
  · exact .inl ‹_›
  · rw [(pure_eq_ok.1 hcolumns).2]
    exact .inr (expectWord_eq_ok.1 hvalues).1

end Grammar

/-- A statement that was read from a text was read from its lexemes. -/
theorem readStatement_eq_some {sql : Text} {parsed : Parsed} (h : readStatement sql = .ok (some parsed)) :
    ∃ rest, Grammar.statement (Grammar.skipSemicolons (lexemes sql)) = .ok (parsed.statement, rest) ∧
      ((rest.headD Grammar.finish).kind = .finish → parsed.rest = []) := by
  unfold readStatement at h
  dsimp only at h
  split at h
  · exact absurd (pure_eq_ok.1 h) (by simp)
  · obtain ⟨⟨statement, parameters, stop⟩, hparse, h⟩ := bind_eq_ok.1 h
    obtain ⟨⟨statement', rest⟩, hstatement, hparse⟩ := bind_eq_ok.1 hparse
    have hs : statement' = statement ∧ ((rest.headD Grammar.finish).kind = .finish → stop = none) := by
      dsimp only at hparse
      split at hparse
      · have hparsed := pure_eq_ok.1 hparse
        simp only [Prod.mk.injEq] at hparsed
        exact ⟨hparsed.1, fun _ => hparsed.2.2.symm⟩
      · rename_i hfinish
        split at hparse
        · have hparsed := pure_eq_ok.1 hparse
          simp only [Prod.mk.injEq] at hparsed
          exact ⟨hparsed.1, fun h => absurd h hfinish⟩
        · simp at hparse
    have hparsed := pure_eq_ok.1 h
    simp only [Option.some.injEq] at hparsed
    refine ⟨rest, by rw [hstatement, hs.1, ← hparsed], fun hfinish => ?_⟩
    rw [← hparsed, hs.2 hfinish]
    rfl

private theorem skipSemicolons_words {v w : Text} (hv : BareName v) (hw : BareName w) (s : Text) :
    ∃ first second ls, Grammar.skipSemicolons (lexemes (v ++ ' ' :: (w ++ ' ' :: s))) = first :: second :: ls ∧
      lexemes (v ++ ' ' :: (w ++ ' ' :: s)) = first :: second :: ls ∧ first.bare = (.word, v) ∧
      second.bare = (.word, w) ∧ ls.map Lexeme.bare = content (s.takeWhile (·.toNat != 0)) ++ [(.finish, [])] := by
  obtain ⟨first, second, ls, hls, hfirst, hsecond, hbare⟩ := lexemes_words hv hw s
  have hsemicolon : first.isSymbol ";" = false := by
    have hkind : first.kind = .word := congrArg Prod.fst hfirst
    simp [Lexeme.isSymbol, hkind]
  refine ⟨first, second, ls, ?_, hls, hfirst, hsecond, hbare⟩
  rw [hls, Grammar.skipSemicolons, List.dropWhile_cons, hsemicolon, if_neg Bool.false_ne_true]

/-- A statement that begins with two bare words was read from them and the lexemes behind them. -/
theorem readStatement_words {v w s : Text} (hv : BareName v) (hw : BareName w) {parsed : Parsed}
    (h : readStatement (v ++ ' ' :: (w ++ ' ' :: s)) = .ok (some parsed)) :
    ∃ first second ls rest, lexemes (v ++ ' ' :: (w ++ ' ' :: s)) = first :: second :: ls ∧
      first.bare = (.word, v) ∧ second.bare = (.word, w) ∧
      ls.map Lexeme.bare = content (s.takeWhile (·.toNat != 0)) ++ [(.finish, [])] ∧
      Grammar.statement (first :: second :: ls) = .ok (parsed.statement, rest) ∧
      ((rest.headD Grammar.finish).kind = .finish → parsed.rest = []) := by
  obtain ⟨rest, hread, hend⟩ := readStatement_eq_some h
  obtain ⟨first, second, ls, hskip, hls, hfirst, hsecond, hbare⟩ := skipSemicolons_words hv hw s
  rw [hskip] at hread
  exact ⟨first, second, ls, rest, hls, hfirst, hsecond, hbare, hread, hend⟩

/-- A text that begins with two bare words has a statement, or a fault. -/
theorem readStatement_words_ne_none {v w : Text} (hv : BareName v) (hw : BareName w) (s : Text) :
    readStatement (v ++ ' ' :: (w ++ ' ' :: s)) ≠ .ok none := by
  obtain ⟨first, second, ls, hskip, -, hfirst, -, -⟩ := skipSemicolons_words hv hw s
  have hkind : first.kind ≠ .finish := by
    rw [show first.kind = .word from congrArg Prod.fst hfirst]
    exact fun h => nomatch h
  intro h
  unfold readStatement at h
  dsimp only at h
  rw [hskip, List.headD_cons, if_neg hkind] at h
  obtain ⟨⟨statement, parameters, stop⟩, -, h⟩ := bind_eq_ok.1 h
  cases h

theorem readStatement_createTable {s : Text} {parsed : Parsed}
    (h : readStatement ("CREATE TABLE ".toList ++ s) = .ok (some parsed)) :
    ∃ d table ls rest, parsed.statement = .createTable d ∧ table.bare = (.word, "TABLE".toList) ∧
      ls.map Lexeme.bare = content (s.takeWhile (·.toNat != 0)) ++ [(.finish, [])] ∧
      Grammar.tableDefinition (table :: ls) = .ok (d, rest) := by
  have hwords : "CREATE TABLE ".toList ++ s = "CREATE".toList ++ ' ' :: ("TABLE".toList ++ ' ' :: s) := rfl
  rw [hwords] at h
  obtain ⟨create, table, ls, rest, -, hcreate, htable, hls, hread, -⟩ :=
    readStatement_words (by decide) (by decide) h
  rw [Grammar.statement_createTable hcreate htable] at hread
  obtain ⟨d, rest, hd, hread⟩ := Grammar.bind_eq_ok.1 hread
  exact ⟨d, table, ls, rest, (Grammar.pure_eq_ok.1 hread).1.symm, htable, hls, hd⟩

theorem readStatement_insertInto {s : Text} {parsed : Parsed}
    (h : readStatement ("INSERT INTO ".toList ++ s) = .ok (some parsed)) :
    ∃ table columns rows ls mid, parsed.statement = .insert table false columns rows ∧
      ls.map Lexeme.bare = content (s.takeWhile (·.toNat != 0)) ++ [(.finish, [])] ∧
      Grammar.tableName ls = .ok (table, mid) ∧
      ((mid.headD Grammar.finish).isSymbol "(" ∨ (mid.headD Grammar.finish).isWord "values") := by
  have hwords : "INSERT INTO ".toList ++ s = "INSERT".toList ++ ' ' :: ("INTO".toList ++ ' ' :: s) := rfl
  rw [hwords] at h
  obtain ⟨insert, into, ls, rest, -, hinsert, hinto, hls, hread, -⟩ :=
    readStatement_words (by decide) (by decide) h
  rw [Grammar.statement_insertInto hinsert hinto] at hread
  obtain ⟨table, mid, columns, rows, htable, hstatement, hmid⟩ := Grammar.insertion_eq_ok hread
  exact ⟨table, columns, rows, ls, mid, hstatement, hls, htable, hmid⟩

namespace Database

/-- A text with one statement is prepared as its statement is, if no table that it sets out to create is refused. -/
theorem compile_of_checked {db : Database} {sql : Text} {statement : Statement} {parameters : Nat} {a : Action}
    (hhead : db.checkHead sql = .ok ()) (hread : readStatement sql = .ok (some ⟨statement, parameters, []⟩))
    (ha : db.catalog.prepare statement = .ok a) : db.compile sql = .ok (some ⟨a, parameters⟩) := by
  have hfirst : db.compileFirst sql = .ok (some ⟨a, parameters⟩, []) := by
    simp [compileFirst, hhead, hread, ha, bind, Except.bind, pure, Except.pure]
  rw [compile, compileWithin, hfirst]
  rfl

theorem compile_of_read {db : Database} {sql : Text} {statement : Statement} {parameters : Nat} {a : Action}
    (hhead : tableHead? sql = none) (hread : readStatement sql = .ok (some ⟨statement, parameters, []⟩))
    (ha : db.catalog.prepare statement = .ok a) : db.compile sql = .ok (some ⟨a, parameters⟩) := by
  have hchecked : db.checkHead sql = .ok () := by
    rw [checkHead, hhead]
    rfl
  exact compile_of_checked hchecked hread ha

private theorem compileFirst_of_compile {db : Database} {sql : Text} {first : Option Prepared}
    (h : db.compile sql = .ok first) : ∃ rest, db.compileFirst sql = .ok (first, rest) := by
  obtain ⟨⟨first', rest⟩, hfirst, h⟩ := bind_eq_ok.1 h
  dsimp only at h
  split at h
  · exact ⟨rest, by rw [hfirst, pure_eq_ok.1 h]⟩
  · obtain ⟨second, -, h⟩ := bind_eq_ok.1 h
    split at h
    · exact ⟨rest, by rw [hfirst, pure_eq_ok.1 h]⟩
    · cases h

/-- A prepared statement was read from its text and prepared against the tables. -/
theorem compile_eq_some {db : Database} {sql : Text} {p : Prepared} (h : db.compile sql = .ok (some p)) :
    ∃ parsed, readStatement sql = .ok (some parsed) ∧ db.catalog.prepare parsed.statement = .ok p.action ∧
      p.parameters = parsed.parameters := by
  obtain ⟨rest, hfirst⟩ := compileFirst_of_compile h
  unfold compileFirst at hfirst
  dsimp only at hfirst
  split at hfirst
  · rename_i hcompiled
    obtain ⟨-, -, hcompiled⟩ := bind_eq_ok.1 hcompiled
    obtain ⟨read, hread, hcompiled⟩ := bind_eq_ok.1 hcompiled
    split at hcompiled
    · cases hcompiled
      cases hfirst
    · obtain ⟨action, haction, hcompiled⟩ := bind_eq_ok.1 hcompiled
      cases hcompiled
      cases hfirst
      exact ⟨_, hread, haction, rfl⟩
  · cases hfirst

/-- Where nothing is prepared the text has no statement. -/
theorem readStatement_of_compile_none {db : Database} {sql : Text} (h : db.compile sql = .ok none) :
    readStatement sql = .ok none := by
  obtain ⟨rest, hfirst⟩ := compileFirst_of_compile h
  unfold compileFirst at hfirst
  dsimp only at hfirst
  split at hfirst
  · rename_i hcompiled
    obtain ⟨-, -, hcompiled⟩ := bind_eq_ok.1 hcompiled
    obtain ⟨read, hread, hcompiled⟩ := bind_eq_ok.1 hcompiled
    split at hcompiled
    · exact hread
    · obtain ⟨action, -, hcompiled⟩ := bind_eq_ok.1 hcompiled
      cases hcompiled
      cases hfirst
  · cases hfirst

/-- A statement that can be read from a text is the one that was prepared. -/
theorem prepare_of_compile {db : Database} {sql : Text} {p : Prepared} (h : db.compile sql = .ok (some p))
    {parsed : Parsed} (hread : readStatement sql = .ok (some parsed)) :
    db.catalog.prepare parsed.statement = .ok p.action := by
  obtain ⟨parsed', hread', hprepare, -⟩ := compile_eq_some h
  cases hread.symm.trans hread'
  exact hprepare

theorem compile_congr {db db' : Database} (h : db.catalog = db'.catalog) (sql : Text) :
    db.compile sql = db'.compile sql := by
  have hfirst : ∀ sql, db.compileFirst sql = db'.compileFirst sql := by
    intro sql
    simp only [compileFirst, checkHead, h]
  have hwithin : ∀ limit sql, db.compileWithin limit sql = db'.compileWithin limit sql := by
    intro limit
    induction limit with
    | zero => exact fun _ => rfl
    | succ limit ih => exact fun sql => by simp only [compileWithin, hfirst, ih]
  exact hwithin _ sql

end Database

end SheetQuery.Sql
