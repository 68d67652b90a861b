import SheetQuery.Proofs.Sql.Reading

/-!
# Tables that two statements name

One text behind `CREATE TABLE` and behind `INSERT INTO` names one table, whatever else the text holds, if both
statements can be read.

* `TableName.Same`: two names of one table, wherever they are written.
* `Twin`: lexemes that are alike up to where neither a name nor a point can follow.
* `Twin.table_same`: the table that is created and the one that rows go into have one name.
* `created_same`: so it is with the statements themselves.
-/

namespace SheetQuery.Sql

/-- The names are one but for where they are written, and so are those of their databases. -/
structure TableName.Same (t t' : TableName) : Prop where
  name : t.name = t'.name
  database : t.database.map (·.name) = t'.database.map (·.name)

namespace TableName.Same

variable {t t' t'' : TableName}

theorem symm (h : t.Same t') : t'.Same t := ⟨h.name.symm, h.database.symm⟩

theorem trans (h : t.Same t') (h' : t'.Same t'') : t.Same t'' := ⟨h.name.trans h'.name, h.database.trans h'.database⟩

/-- Tables of one name are created in one schema. -/
theorem target (h : t.Same t') {temporary : Bool} (ht : Catalog.target t = .ok temporary) :
    Catalog.target t' = .ok temporary := by
  have hdatabase := h.database
  unfold Catalog.target at ht ⊢
  cases hd : t.database with
  | none =>
    rw [hd] at hdatabase ht
    rw [Option.map_eq_none_iff.1 hdatabase.symm]
    exact ht
  | some database =>
    rw [hd] at hdatabase ht
    obtain ⟨database', hd', hname⟩ := Option.map_eq_some_iff.1 hdatabase.symm
    rw [hd']
    dsimp only at ht ⊢
    rw [hname]
    split_ifs at ht ⊢
    · exact ht
    · exact ht

end TableName.Same

namespace Grammar

variable {ls ls' mid : List Lexeme}

theorem name_eq_ok {l : Lexeme} : name ls = .ok (l, ls') ↔ ls = l :: ls' ∧ l.isName := by
  change (if (ls.headD finish).isName then advance else unexpected : Reading Lexeme) ls = _ ↔ _
  cases ls with
  | nil => exact ⟨fun h => (nomatch h), fun h => (nomatch h.1)⟩
  | cons first rest =>
    rw [List.headD_cons]
    by_cases hname : first.isName
    · rw [if_pos hname]
      constructor
      · intro h
        cases h
        exact ⟨rfl, hname⟩
      · rintro ⟨h, -⟩
        cases h
        rfl
    · rw [if_neg hname]
      constructor
      · intro h
        cases h
      · rintro ⟨h, h'⟩
        cases h
        exact absurd h' hname

/-- A table is named by a name, or by a name, a point and another name. -/
theorem tableName_eq_ok {t : TableName} (h : tableName ls = .ok (t, mid)) :
    ∃ first rest, ls = first :: rest ∧ first.isName ∧
      ((rest.headD finish).isSymbol "." = false ∧ t = ⟨first.writtenName, none⟩ ∧ mid = rest ∨
        ∃ point second, rest = point :: second :: mid ∧ point.isSymbol "." ∧ second.isName ∧
          t = ⟨second.writtenName, some first.writtenName⟩) := by
  obtain ⟨first, rest, hfirst, h⟩ := bind_eq_ok.1 h
  obtain ⟨hls, hname⟩ := name_eq_ok.1 hfirst
  refine ⟨first, rest, hls, hname, ?_⟩
  rw [acceptSymbol_ite] at h
  split at h
  · rename_i hpoint
    obtain ⟨second, mid', hsecond, h⟩ := bind_eq_ok.1 h
    obtain ⟨hdrop, hname'⟩ := name_eq_ok.1 hsecond
    obtain ⟨ht, hmid⟩ := pure_eq_ok.1 h
    refine .inr ⟨rest.headD finish, second, ?_, hpoint, hname', ht.symm⟩
    cases rest with
    | nil => cases hdrop
    | cons point rest =>
      rw [List.headD_cons, ← hmid]
      exact congrArg _ hdrop
  · rename_i hpoint
    obtain ⟨ht, hmid⟩ := pure_eq_ok.1 h
    exact .inl ⟨Bool.eq_false_iff.2 hpoint, ht.symm, hmid.symm⟩

/-- Behind the words `IF NOT EXISTS`, or without them. -/
theorem ifNotExists_eq_ok {b : Bool} (h : ifNotExists ls = .ok (b, mid)) :
    b = false ∧ mid = ls ∧ (ls.headD finish).isWord "if" = false ∨
      (ls.headD finish).isWord "if" ∧ ((ls.drop 1).headD finish).isWord "not" := by
  rw [ifNotExists, acceptWord_ite] at h
  split at h
  · rename_i hif
    obtain ⟨_, _, hnot, h⟩ := bind_eq_ok.1 h
    exact .inr ⟨hif, (expectWord_eq_ok.1 hnot).1⟩
  · rename_i hif
    obtain ⟨hb, hmid⟩ := pure_eq_ok.1 h
    exact .inl ⟨hb.symm, hmid.symm, Bool.eq_false_iff.2 hif⟩

/-- Behind `TABLE` stands the name of the table. -/
theorem tableDefinition_eq_ok {table : Lexeme} (htable : table.bare = (.word, "TABLE".toList)) {d : TableDefinition}
    (h : tableDefinition (table :: ls) = .ok (d, ls')) :
    ∃ mid mid', ifNotExists ls = .ok (d.ifNotExists, mid) ∧ tableName mid = .ok (d.name, mid') := by
  have hword := isWord_of_bare htable
  obtain ⟨⟨name, exists?⟩, behind, hhead, h⟩ := bind_eq_ok.1 h
  obtain ⟨_, _, -, h⟩ := bind_eq_ok.1 h
  obtain ⟨_, _, -, h⟩ := bind_eq_ok.1 h
  obtain ⟨⟨columns, key⟩, _, -, h⟩ := bind_eq_ok.1 h
  obtain ⟨_, _, -, h⟩ := bind_eq_ok.1 h
  obtain ⟨hd, -⟩ := pure_eq_ok.1 h
  rw [tableHead, acceptWord_neg (hword "temp")] at hhead
  obtain ⟨temporary, rest, htemporary, hhead⟩ := bind_eq_ok.1 hhead
  rw [acceptWord_apply, List.headD_cons, hword "temporary", if_neg (by decide)] at htemporary
  cases htemporary
  obtain ⟨_, behind', htable', hhead⟩ := bind_eq_ok.1 hhead
  obtain ⟨ifNotExists', mid, hifNotExists, hhead⟩ := bind_eq_ok.1 hhead
  obtain ⟨name', mid', hname, hhead⟩ := bind_eq_ok.1 hhead
  rw [(expectWord_eq_ok.1 htable').2] at hifNotExists
  obtain ⟨hresult, -⟩ := pure_eq_ok.1 hhead
  cases hresult
  rw [← hd]
  exact ⟨mid, mid', hifNotExists, hname⟩

/-- What is read of a lexeme does not depend on its place. -/
theorem alike_of_bare {l l' : Lexeme} (h : l.bare = l'.bare) :
    l.isName = l'.isName ∧ l.unquoted = l'.unquoted ∧ (∀ symbol, l.isSymbol symbol = l'.isSymbol symbol) ∧
      ∀ keyword, l.isWord keyword = l'.isWord keyword := by
  obtain ⟨hkind, htext⟩ := Prod.ext_iff.1 h
  simp only [Lexeme.bare] at hkind htext
  have hword : ∀ keyword, l.isWord keyword = l'.isWord keyword := fun keyword => by
    simp only [Lexeme.isWord, hkind, htext]
  refine ⟨?_, ?_, fun symbol => ?_, hword⟩
  · simp only [Lexeme.isName, Lexeme.isWordOf, hkind, funext hword]
  · simp only [Lexeme.unquoted, htext]
  · simp only [Lexeme.isSymbol, hkind, htext]

/-- A keyword is no symbol and no other keyword. -/
theorem isWord_unique {l : Lexeme} {keyword : String} (h : l.isWord keyword) :
    (∀ symbol, l.isSymbol symbol = false) ∧ ∀ other, other ≠ keyword → l.isWord other = false := by
  simp only [Lexeme.isWord, Bool.and_eq_true, beq_iff_eq] at h
  refine ⟨fun symbol => ?_, fun other hne => ?_⟩
  · simp [Lexeme.isSymbol, h.1]
  · simp only [Lexeme.isWord, h.2, Bool.and_eq_false_iff, beq_eq_false_iff_ne]
    exact .inr fun heq => hne (String.toList_injective heq.symm)

/-- The first lexemes can not go on with a name or a point; neither with a parenthesis or the word `VALUES`, or
the others go on with something else than a point or the word `NOT`. -/
structure Stops (ls ls' : List Lexeme) : Prop where
  name : (ls.headD finish).isName = false
  point : (ls.headD finish).isSymbol "." = false
  behind : (ls.headD finish).isSymbol "(" = false ∧ (ls.headD finish).isWord "values" = false ∨
    (ls'.headD finish).isSymbol "." = false ∧ (ls'.headD finish).isWord "not" = false

/-- Lexemes that are alike up to where neither a name nor a point can follow. -/
inductive Twin : List Lexeme → List Lexeme → Prop
  | stop {ls ls' : List Lexeme} (h : Stops ls ls') : Twin ls ls'
  | cons {l l' : Lexeme} {ls ls' : List Lexeme} (h : l.bare = l'.bare) (rest : Twin ls ls') : Twin (l :: ls) (l' :: ls')

/-- Names of tables that are read from twins are the same. -/
private theorem Twin.name_same {t t' : TableName} {behind' : List Lexeme} (h : Twin ls ls')
    (hinsert : tableName ls = .ok (t, mid))
    (hmid : (mid.headD finish).isSymbol "(" ∨ (mid.headD finish).isWord "values")
    (hcreate : tableName ls' = .ok (t', behind')) : t'.Same t := by
  obtain ⟨first, rest, rfl, hname, hinsert⟩ := tableName_eq_ok hinsert
  obtain ⟨first', rest', rfl, -, hcreate⟩ := tableName_eq_ok hcreate
  cases h with
  | stop h => exact absurd hname (Bool.eq_false_iff.1 h.name)
  | cons halike hrest =>
    obtain ⟨-, hunquoted, -, -⟩ := alike_of_bare halike
    rcases hinsert with ⟨hpoint, rfl, rfl⟩ | ⟨point, second, rfl, hpoint, hsecond, rfl⟩
    · rcases hcreate with ⟨-, rfl, -⟩ | ⟨point', second', rfl, hpoint', -, -⟩
      · exact ⟨hunquoted.symm, rfl⟩
      · cases hrest with
        | stop hstop =>
          -- behind the name rows follow, so what stops the other lexemes is no point
          rcases hstop.behind with ⟨hparenthesis, hvalues⟩ | ⟨hpoint'', -⟩
          · rw [hparenthesis, hvalues] at hmid
            exact absurd hmid (by decide)
          · exact absurd hpoint' (Bool.eq_false_iff.1 hpoint'')
        | cons halike' hrest' =>
          obtain ⟨-, -, hsymbol, -⟩ := alike_of_bare halike'
          exact absurd hpoint' (Bool.eq_false_iff.1 ((hsymbol _).symm.trans hpoint))
    · cases hrest with
      | stop hstop => exact absurd hpoint (Bool.eq_false_iff.1 hstop.point)
      | cons halike' hrest' =>
        obtain ⟨-, -, hsymbol, -⟩ := alike_of_bare halike'
        rcases hcreate with ⟨hpoint', -, -⟩ | ⟨point', second', hcons, hpoint', -, rfl⟩
        · exact absurd hpoint (Bool.eq_false_iff.1 ((hsymbol _).trans hpoint'))
        · cases hcons
          cases hrest' with
          | stop hstop => exact absurd hsecond (Bool.eq_false_iff.1 hstop.name)
          | cons halike'' _ => exact ⟨(alike_of_bare halike'').2.1.symm, congrArg some hunquoted.symm⟩

/-- Rows cannot go into a table behind a name and the word `NOT`. -/
private theorem Twin.second_ne_not {t : TableName} (h : Twin ls ls') (hinsert : tableName ls = .ok (t, mid))
    (hmid : (mid.headD finish).isSymbol "(" ∨ (mid.headD finish).isWord "values") :
    ¬ ((ls'.drop 1).headD finish).isWord "not" := by
  intro hnot
  obtain ⟨first, rest, rfl, hname, hinsert⟩ := tableName_eq_ok hinsert
  cases h with
  | stop h => exact absurd hname (Bool.eq_false_iff.1 h.name)
  | cons halike hrest =>
    have hno : (rest.headD finish).isSymbol "." = false ∧ (rest.headD finish).isSymbol "(" = false ∧
        (rest.headD finish).isWord "values" = false := by
      cases hrest with
      | stop hstop =>
        rcases hstop.behind with hbehind | ⟨-, hnot'⟩
        · exact ⟨hstop.point, hbehind⟩
        · exact absurd hnot (Bool.eq_false_iff.1 hnot')
      | cons halike' _ =>
        obtain ⟨-, -, -, hword⟩ := alike_of_bare halike'
        obtain ⟨hsymbol, hother⟩ := isWord_unique ((hword "not").trans hnot)
        exact ⟨hsymbol _, hsymbol _, hother "values" (by decide)⟩
    rcases hinsert with ⟨-, -, rfl⟩ | ⟨point, second, rfl, hpoint, -, -⟩
    · rw [hno.2.1, hno.2.2] at hmid
      exact absurd hmid (by decide)
    · exact absurd hpoint (Bool.eq_false_iff.1 hno.1)

/-- The table that rows go into and the one that is created have one name, and it is created in any case. -/
theorem Twin.table_same {t t' : TableName} {b : Bool} {mid' behind' : List Lexeme} (h : Twin ls ls')
    (hinsert : tableName ls = .ok (t, mid))
    (hmid : (mid.headD finish).isSymbol "(" ∨ (mid.headD finish).isWord "values")
    (hexists : ifNotExists ls' = .ok (b, mid')) (hcreate : tableName mid' = .ok (t', behind')) :
    b = false ∧ t'.Same t := by
  rcases ifNotExists_eq_ok hexists with ⟨hb, rfl, -⟩ | ⟨-, hnot⟩
  · exact ⟨hb, h.name_same hinsert hmid hcreate⟩
  · exact absurd hnot (h.second_ne_not hinsert hmid)

/-- Lexemes whose contents begin alike are twins. -/
theorem twin_of_bare {common behind behind' : List (Kind × Text)}
    (hstops : ∀ {ls ls' : List Lexeme}, ls.map Lexeme.bare = behind → ls'.map Lexeme.bare = behind' → Stops ls ls')
    (h : ls.map Lexeme.bare = common ++ behind) (h' : ls'.map Lexeme.bare = common ++ behind') : Twin ls ls' := by
  induction common generalizing ls ls' with
  | nil => exact .stop (hstops h h')
  | cons p common ih =>
    obtain ⟨l, rest, rfl, hl, hrest⟩ := List.map_eq_cons_iff.1 h
    obtain ⟨l', rest', rfl, hl', hrest'⟩ := List.map_eq_cons_iff.1 h'
    exact .cons (hl.trans hl'.symm) (ih hrest hrest')

/-- A lexeme that is illegal or marks the end stops everything. -/
theorem stops_of_kind {l : Lexeme} (h : l.kind = .illegal ∨ l.kind = .finish) (ls ls' : List Lexeme) :
    Stops (l :: ls) ls' := by
  have hsymbol : ∀ symbol, l.isSymbol symbol = false := fun symbol => by rcases h with h | h <;> simp [Lexeme.isSymbol, h]
  have hword : l.isWord "values" = false := by rcases h with h | h <;> simp [Lexeme.isWord, h]
  have hname : l.isName = false := by rcases h with h | h <;> simp [Lexeme.isName, h]
  exact ⟨hname, hsymbol _, .inl ⟨hsymbol _, hword⟩⟩

end Grammar

/-- Behind a text that both statements share, one goes on with `VALUES` and the other with a parenthesis, unless
a quote or a comment is left open. -/
private theorem stops_of_bare {behind behind' : List (Kind × Text)} {values columns : Text}
    (h : behind = content ("VALUES (".toList ++ values) ∧ behind' = content ('(' :: columns) ∨
      ∀ p ∈ behind.head?, p.1 = .illegal) {ls ls' : List Lexeme}
    (hls : ls.map Lexeme.bare = behind ++ [(.finish, [])]) (hls' : ls'.map Lexeme.bare = behind' ++ [(.finish, [])]) :
    Grammar.Stops ls ls' := by
  rcases h with ⟨rfl, rfl⟩ | h
  · have hvalues : content ("VALUES (".toList ++ values) = (.word, "VALUES".toList) :: content ('(' :: values) :=
      content_word (w := "VALUES".toList) (by decide) ('(' :: values)
    rw [hvalues, List.cons_append, List.map_eq_cons_iff] at hls
    rw [content_parenthesis, List.cons_append, List.map_eq_cons_iff] at hls'
    obtain ⟨l, rest, rfl, hl, -⟩ := hls
    obtain ⟨l', rest', rfl, hl', -⟩ := hls'
    obtain ⟨hname, -, hsymbol, -⟩ := @Grammar.alike_of_bare _ ⟨.word, "VALUES".toList, [], 0, 0⟩ hl
    obtain ⟨-, -, hsymbols, hwords⟩ := @Grammar.alike_of_bare _ ⟨.symbol, ['('], [], 0, 0⟩ hl'
    exact ⟨hname, hsymbol ".", .inr ⟨hsymbols ".", hwords "not"⟩⟩
  · cases behind with
    | nil =>
      obtain ⟨l, rest, rfl, hl, -⟩ := List.map_eq_cons_iff.1 hls
      exact Grammar.stops_of_kind (.inr (congrArg Prod.fst hl)) rest ls'
    | cons p behind =>
      obtain ⟨l, rest, rfl, hl, -⟩ := List.map_eq_cons_iff.1 hls
      have hkind : l.kind = p.1 := congrArg Prod.fst hl
      exact Grammar.stops_of_kind (.inl (hkind.trans (h p rfl))) rest ls'

/-- One text behind `CREATE TABLE` and behind `INSERT INTO` names one table, which is created in any case. -/
theorem created_same {table columns values : Text} (hvalues : ∀ x ∈ closers, x ∉ values)
    {created inserted : Parsed} {d : TableDefinition} {t : TableName} {replace : Bool} {places : List Text}
    {rows : List (List Expr)}
    (hcreate : readStatement ("CREATE TABLE ".toList ++ (table ++ ' ' :: '(' :: columns)) = .ok (some created))
    (hinsert : readStatement ("INSERT INTO ".toList ++ (table ++ ' ' :: ("VALUES (".toList ++ values))) =
      .ok (some inserted))
    (hd : created.statement = .createTable d) (ht : inserted.statement = .insert t replace places rows) :
    d.ifNotExists = false ∧ d.name.Same t := by
  obtain ⟨d', word, ls', _, hd', hword, hls', hcreate⟩ := readStatement_createTable hcreate
  obtain ⟨t', places', rows', ls, mid, ht', hls, hinsert, hmid⟩ := readStatement_insertInto hinsert
  cases hd.symm.trans hd'
  cases ht.symm.trans ht'
  obtain ⟨_, _, hexists, hname⟩ := Grammar.tableDefinition_eq_ok hword hcreate
  have htwin : Grammar.Twin ls ls' := by
    rw [List.takeWhile_append] at hls hls'
    split at hls
    · -- the lexemes part behind the name of the table
      rename_i hwhole
      rw [if_pos hwhole] at hls'
      have hrest : ∀ x ∈ closers, x ∉ "VALUES (".toList ++ values.takeWhile (·.toNat != 0) := by
        intro x hx hmem
        rcases List.mem_append.1 hmem with hmem | hmem
        · exact not_mem_of_closers (by decide) x hx hmem
        · exact hvalues x hx ((List.takeWhile_sublist _).subset hmem)
      obtain ⟨common, behind, behind', h, h', hend⟩ :=
        content_append_space table hrest ('(' :: columns.takeWhile (·.toNat != 0))
      have hls : ls.map Lexeme.bare = common ++ (behind ++ [(.finish, [])]) := by
        rw [← List.append_assoc, ← h]
        exact hls
      have hls' : ls'.map Lexeme.bare = common ++ (behind' ++ [(.finish, [])]) := by
        rw [← List.append_assoc, ← h']
        exact hls'
      exact Grammar.twin_of_bare (stops_of_bare hend) hls hls'
    · -- a null character in the name of the table ends both statements
      rename_i hwhole
      rw [if_neg hwhole] at hls'
      have hnone : ∀ p ∈ ([] : List (Kind × Text)).head?, p.1 = .illegal := by simp
      exact Grammar.twin_of_bare (@stops_of_bare [] [] [] [] (.inr hnone)) hls hls'
  exact htwin.table_same hinsert hmid hexists hname

end SheetQuery.Sql
