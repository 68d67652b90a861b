import SheetQuery.Plan
import SheetQuery.Proofs.Sql.Naming
import SheetQuery.Proofs.Sql.Spelling
import SheetQuery.Proofs.Text.Joining

/-!
# Statements that are put together

The lexemes of statements that create, fill and read a table with given columns are read as what they are meant to
say, if the names in them need no quotes.

* `expression_parameter`, `resultItem_column`: the members of their lists.
* `separated_eq_ok`: a list is read if its members are.
* `tableDefinition_columns`: a table with columns of texts.
* `insertion_parameters`: a row of parameters.
* `query_items`: the query of one table.
-/

namespace SheetQuery.Sql

namespace Grammar

variable {α β : Type} {l : Lexeme} {ls ls' rest : List Lexeme}

theorem peek_bind {f : Lexeme → Reading β} : (peek >>= f) ls = f (ls.headD finish) ls := rfl

theorem advance_bind {f : Lexeme → Reading β} : (advance >>= f) ls = f (ls.headD finish) (ls.drop 1) := rfl

theorem get_bind {f : List Lexeme → Reading β} : (get >>= f) ls = f ls ls := rfl

theorem bind_of_ok {m : Reading α} {f : α → Reading β} {a : α} (h : m ls = .ok (a, ls')) :
    (m >>= f) ls = f a ls' := by
  change (m ls >>= fun p => f p.1 p.2) = _
  rw [h]
  rfl

theorem acceptSymbol_pos {symbol : String} {x y : Reading β} (h : l.isSymbol symbol = true) :
    (acceptSymbol symbol >>= fun found => if found = true then x else y) (l :: ls) = x ls := by
  rw [acceptSymbol_ite, List.headD_cons, if_pos h]
  rfl

theorem acceptSymbol_neg {symbol : String} {x y : Reading β} (h : (ls.headD finish).isSymbol symbol = false) :
    (acceptSymbol symbol >>= fun found => if found = true then x else y) ls = y ls := by
  rw [acceptSymbol_ite, if_neg (Bool.eq_false_iff.1 h)]

theorem acceptWord_else {keyword : String} {x y : Reading β} (h : (ls.headD finish).isWord keyword = false) :
    (acceptWord keyword >>= fun found => if found = true then x else y) ls = y ls := by
  rw [acceptWord_ite, if_neg (Bool.eq_false_iff.1 h)]

theorem expectSymbol_pos {symbol : String} {f : Unit → Reading β} (h : l.isSymbol symbol = true) :
    (expectSymbol symbol >>= f) (l :: ls) = f () ls := by
  refine bind_of_ok ?_
  rw [expectSymbol, acceptSymbol_pos h]
  rfl

theorem withText_of_ok {m : Reading α} {a : α} (h : m ls = .ok (a, ls')) :
    withText m ls = .ok ((a, written (ls.take (ls.length - ls'.length)) (ls'.headD finish)), ls') := by
  unfold withText
  rw [get_bind, bind_of_ok h, get_bind]
  rfl

/-! ### Where a member of a list ends -/

/-- The first lexeme is a comma, a closing parenthesis or the word `FROM`. -/
def Closes (ls : List Lexeme) : Prop :=
  (ls.headD finish).bare ∈ [(.symbol, [',']), (.symbol, [')']), (.word, "FROM".toList)]

private theorem operator?_of_bare {l l' : Lexeme} (h : l.bare = l'.bare) : operator? l = operator? l' := by
  obtain ⟨hkind, htext⟩ := Prod.ext_iff.1 h
  simp only [Lexeme.bare] at hkind htext
  simp only [operator?, hkind, htext]

private def sample (p : Kind × Text) : Lexeme := ⟨p.1, p.2, [], 0, 0⟩

theorem isSymbol_of_bare {symbol : String} (hl : l.bare = (.symbol, symbol.toList)) : l.isSymbol symbol = true := by
  obtain ⟨hkind, htext⟩ := Prod.ext_iff.1 hl
  simp only [Lexeme.bare] at hkind htext
  simp [Lexeme.isSymbol, hkind, htext]

/-- Neither an operator nor a name or a constraint goes on here. -/
private theorem Closes.stops (h : Closes ls) :
    operator? (ls.headD finish) = none ∧
      (∀ keyword ∈ ["is", "isnull", "notnull", "not", "as", "null", "primary", "default"],
        (ls.headD finish).isWord keyword = false) ∧
      (∀ symbol ∈ ["(", "."], (ls.headD finish).isSymbol symbol = false) ∧ (ls.headD finish).isName = false := by
  obtain ⟨p, hp, hbare⟩ : ∃ p, p ∈ [(.symbol, [',']), (.symbol, [')']), (.word, "FROM".toList)] ∧
      (ls.headD finish).bare = (sample p).bare := ⟨_, h, rfl⟩
  obtain ⟨hname, -, hsymbol, hword⟩ := alike_of_bare hbare
  have hall : ∀ p ∈ [(.symbol, [',']), (.symbol, [')']), (.word, "FROM".toList)], operator? (sample p) = none ∧
      (∀ keyword ∈ ["is", "isnull", "notnull", "not", "as", "null", "primary", "default"],
        (sample p).isWord keyword = false) ∧
      (∀ symbol ∈ ["(", "."], (sample p).isSymbol symbol = false) ∧ (sample p).isName = false := by decide
  obtain ⟨h1, h2, h3, h4⟩ := hall p hp
  refine ⟨(operator?_of_bare hbare).trans h1, fun k hk => (hword k).trans (h2 k hk), fun s hs => (hsymbol s).trans (h3 s hs),
    hname.trans h4⟩

private theorem Closes.isPlainName (h : Closes ls) : (ls.headD finish).isPlainName = false := by
  rw [Lexeme.isPlainName, h.stops.2.2.2]
  rfl

/-! ### Expressions -/

private theorem operators_closes {limit level : Nat} {e : Expr} (hlevel : level ≤ 4) (h : Closes ls) :
    operators limit level e ls = .ok (e, ls) := by
  cases limit with
  | zero =>
    rw [operators]
    rfl
  | succ limit =>
    obtain ⟨hoperator, hword, -, -⟩ := h.stops
    rw [operators, peek_bind, hoperator]
    dsimp only
    rw [if_neg (by omega), hword "is" (by decide), hword "isnull" (by decide), hword "notnull" (by decide),
      hword "not" (by decide)]
    rfl

/-- An expression is its first operand if nothing goes on behind it. -/
private theorem expression_of_operand {e : Expr} (h : ∀ limit, operand (limit + 1) (l :: rest) = .ok (e, rest))
    (hrest : Closes rest) : expression (l :: rest) = .ok (e, rest) := by
  have hlimit : 4 * (l :: rest).length + 8 = 4 * rest.length + 10 + 1 + 1 := by
    rw [List.length_cons]
    omega
  rw [expression, get_bind, hlimit, expressionFrom, bind_of_ok (h _)]
  exact operators_closes (Nat.zero_le _) hrest

theorem expression_parameter (hl : l.kind = .variable) (hrest : Closes rest) :
    expression (l :: rest) = .ok (.parameter l.number, rest) := by
  refine expression_of_operand (fun limit => ?_) hrest
  rw [operand, peek_bind, List.headD_cons, hl]
  rfl

/-- A name that stands for a column: bare, and no keyword with which an expression can begin. -/
structure ColumnName (w : Text) : Prop where
  bare : BareName w
  free : ∀ keyword ∈ "cast" :: "raise" :: reservedWords, Text.lower w ≠ keyword.toList

private theorem ColumnName.isWord {w : Text} (h : ColumnName w) (hl : l.bare = (.word, w)) {keyword : String}
    (hkeyword : keyword ∈ "cast" :: "raise" :: reservedWords) : l.isWord keyword = false := by
  rw [isWord_of_bare hl]
  exact beq_eq_false_iff_ne.2 (h.free keyword hkeyword)

theorem isWordOf_eq_false {w : Text} (hl : l.bare = (.word, w)) {keywords : List String} :
    l.isWordOf keywords = false ↔ ∀ keyword ∈ keywords, Text.lower w ≠ keyword.toList := by
  simp only [Lexeme.isWordOf, List.any_eq_false, isWord_of_bare hl, beq_iff_eq, ne_eq]

theorem isName_iff {w : Text} (hl : l.bare = (.word, w)) :
    l.isName ↔ ∀ keyword ∈ reservedWords, Text.lower w ≠ keyword.toList := by
  have hkind : l.kind = .word := congrArg Prod.fst hl
  rw [← isWordOf_eq_false hl]
  simp [Lexeme.isName, hkind]

/-- A bare name stands for itself. -/
theorem unquoted_of_bareName {w : Text} (hw : BareName w) (hl : l.bare = (.word, w)) :
    l.unquoted = w ∧ (l.text.head? == some '"') = false := by
  have htext : l.text = w := congrArg Prod.snd hl
  cases w with
  | nil => exact hw.elim
  | cons c w =>
    have hc : ∀ x ∈ ['[', '"', '`', '\''], c ≠ x := by
      rintro x hx rfl
      have hno : ∀ x ∈ ['[', '"', '`', '\''], (x.isAlpha || x = '_') = false := List.all_iff_forall_prop.1 (by decide)
      exact absurd hw.1 (Bool.eq_false_iff.1 (hno c hx))
    have h1 := hc '[' (by decide)
    have h2 := hc '"' (by decide)
    have h3 := hc '`' (by decide)
    have h4 := hc '\'' (by decide)
    rw [Lexeme.unquoted, htext]
    refine ⟨?_, by simpa using h2⟩
    split
    · rename_i heq
      exact absurd (List.cons.inj heq).1 h1
    · rename_i heq
      obtain ⟨rfl, -⟩ := List.cons.inj heq
      rw [if_neg (by simp [h2, h3, h4])]
    · rename_i heq
      cases heq

theorem writtenName_of_bareName {w : Text} (hw : BareName w) (hl : l.bare = (.word, w)) :
    l.writtenName = ⟨w, w, l.offset⟩ := by
  have htext : l.text = w := congrArg Prod.snd hl
  rw [Lexeme.writtenName, (unquoted_of_bareName hw hl).1, htext]

theorem expression_column {w : Text} (hw : ColumnName w) (hl : l.bare = (.word, w)) (hrest : Closes rest) :
    expression (l :: rest) = .ok (.column none w false l.offset, rest) := by
  obtain ⟨hunquoted, hquote⟩ := unquoted_of_bareName hw.bare hl
  have hkind : l.kind = .word := congrArg Prod.fst hl
  have hname : l.isName := (isName_iff hl).2 fun k hk => hw.free k (List.mem_cons_of_mem _ (List.mem_cons_of_mem _ hk))
  have hnull : l.isWord "null" = false := hw.isWord hl (by decide)
  have hnot : l.isWord "not" = false := hw.isWord hl (by decide)
  have hcast : l.isWord "cast" = false := hw.isWord hl (by decide)
  have hraise : l.isWord "raise" = false := hw.isWord hl (by decide)
  obtain ⟨-, -, hsymbol, -⟩ := hrest.stops
  refine expression_of_operand (fun limit => ?_) hrest
  rw [operand, peek_bind, List.headD_cons, hkind]
  simp only [hnull, hnot, hcast, hraise, hname, if_true, if_false, Bool.false_eq_true]
  rw [advance_bind, List.drop_one, List.tail_cons, acceptSymbol_neg (hsymbol "(" (by decide)),
    acceptSymbol_neg (hsymbol "." (by decide)), hunquoted, hquote]
  rfl

/-! ### Items of a result -/

private theorem alias?_closes (h : Closes ls) : alias? ls = .ok (none, ls) := by
  unfold alias?
  rw [acceptWord_else (h.stops.2.1 "as" (by decide)), peek_bind, h.isPlainName]
  rfl

theorem resultItem_column {w : Text} (hw : ColumnName w) (hl : l.bare = (.word, w)) (hrest : Closes rest) :
    ∃ written, resultItem (l :: rest) = .ok (.expr (.column none w false l.offset) none written, rest) := by
  have hstar : ((l :: rest).headD finish).isSymbol "*" = false := by
    have hkind : l.kind = .word := congrArg Prod.fst hl
    simp [Lexeme.isSymbol, hkind]
  have hitem := withText_of_ok (expression_column hw hl hrest)
  generalize written ((l :: rest).take ((l :: rest).length - rest.length)) (rest.headD finish) = text at hitem
  refine ⟨text, ?_⟩
  unfold resultItem
  rw [acceptSymbol_neg hstar, get_bind]
  -- a star behind a point would follow a name only
  rcases rest with - | ⟨dot, - | ⟨star, rest⟩⟩
  · exact (bind_of_ok hitem).trans (bind_of_ok (alias?_closes hrest))
  · exact (bind_of_ok hitem).trans (bind_of_ok (alias?_closes hrest))
  · have hdot : dot.isSymbol "." = false := hrest.stops.2.2.1 "." (by decide)
    dsimp only
    rw [if_neg (by simp [hdot])]
    exact (bind_of_ok hitem).trans (bind_of_ok (alias?_closes hrest))

/-! ### Lists -/

/-- A list is read if its members are: `piece` is what a member is made of, `spell` what a lexeme is, and `Meant` what
a member is read as. -/
theorem separated_eq_ok {γ δ : Type} {spell : Lexeme → δ} {comma : δ} {piece : γ → List δ} {Meant : γ → β → Prop}
    {part : Reading β} (hcomma : ∀ {l : Lexeme}, spell l = comma → l.bare = (.symbol, [','])) {members : List γ}
    (hpart : ∀ a ∈ members, ∀ taken rest, taken.map spell = piece a → Closes rest →
      ∃ b, Meant a b ∧ part (taken ++ rest) = .ok (b, rest))
    {tail : List δ} (htail : ∀ {rest : List Lexeme}, rest.map spell = tail →
      Closes rest ∧ (rest.headD finish).isSymbol "," = false)
    (hmembers : members ≠ []) {limit : Nat} (hlimit : members.length ≤ limit + 1)
    (hls : ls.map spell = [comma].intercalate (members.map piece) ++ tail) :
    ∃ bs rest, List.Forall₂ Meant members bs ∧ rest.map spell = tail ∧ separated part limit ls = .ok (bs, rest) := by
  induction members generalizing ls limit with
  | nil => exact absurd rfl hmembers
  | cons a members ih =>
    have ha := hpart a (List.mem_cons_self ..)
    cases members with
    | nil =>
      rw [List.map_singleton, List.intercalate_singleton, List.map_eq_append_iff] at hls
      obtain ⟨taken, rest, rfl, htaken, hrest⟩ := hls
      obtain ⟨hclose, hend⟩ := htail hrest
      obtain ⟨b, hb, hread⟩ := ha taken rest htaken hclose
      refine ⟨[b], rest, .cons hb .nil, hrest, ?_⟩
      cases limit with
      | zero =>
        rw [separated, bind_of_ok hread]
        rfl
      | succ limit =>
        rw [separated, bind_of_ok hread, acceptSymbol_neg hend]
        rfl
    | cons b members =>
      rw [List.map_cons, List.map_cons, List.intercalate_cons_cons, List.append_assoc, List.append_assoc,
        List.map_eq_append_iff] at hls
      obtain ⟨taken, behind, rfl, htaken, hbehind⟩ := hls
      obtain ⟨comma', rest, rfl, hcomma', hrest⟩ := List.map_eq_cons_iff.1 hbehind
      have hbare := hcomma hcomma'
      have hclose : Closes (comma' :: rest) := by
        rw [Closes, List.headD_cons, hbare]
        decide
      obtain ⟨first, hfirst, hread⟩ := ha taken _ htaken hclose
      cases limit with
      | zero =>
        simp only [List.length_cons] at hlimit
        omega
      | succ limit =>
        have hlimit' : (b :: members).length ≤ limit + 1 := by
          simp only [List.length_cons] at hlimit ⊢
          omega
        obtain ⟨bs, rest', hbs, hrest', hread'⟩ :=
          ih (fun c hc => hpart c (List.mem_cons_of_mem _ hc)) (by simp) hlimit' hrest
        have hsymbol : comma'.isSymbol "," := isSymbol_of_bare hbare
        refine ⟨first :: bs, rest', .cons hfirst hbs, hrest', ?_⟩
        rw [separated, bind_of_ok hread, acceptSymbol_pos hsymbol, bind_of_ok hread']
        rfl

/-! ### Columns of a table to create -/

/-- The pieces of a column of texts. -/
def columnPieces (w : Text) : List (Kind × Text) := [(.quotedName, '"' :: w ++ ['"']), (.word, "TEXT".toList)]

/-- A column of texts in a statement that creates a table. -/
def textDefinition (w : Text) : ColumnDefinition := ⟨w, "TEXT".toList, false, false, none⟩

private theorem undouble_of_not_mem {q : Char} {s : Text} (h : q ∉ s) : undouble q s = s := by
  fun_induction undouble q s with
  | case1 c d s hc ih => simp [hc.1] at h
  | case2 c d s hc ih => rw [ih fun hm => h (List.mem_cons_of_mem _ hm)]
  | case3 => rfl

/-- A name between double quotes stands for what is between them. -/
theorem unquoted_of_quotedName {w : Text} (hw : '"' ∉ w) (hl : l.bare = (.quotedName, '"' :: w ++ ['"'])) :
    l.unquoted = w := by
  have htext : l.text = '"' :: (w ++ ['"']) := congrArg Prod.snd hl
  rw [Lexeme.unquoted, htext]
  change (if '"' = '"' ∨ '"' = '`' ∨ '"' = '\'' then undouble '"' (w ++ ['"']).dropLast else _) = w
  rw [if_pos (by decide), List.dropLast_concat, undouble_of_not_mem hw]

/-- The type of a column of texts, if nothing but spaces stands in front of what closes it. -/
private theorem typeName_text (hl : l.bare = (.word, "TEXT".toList)) (hrest : Closes rest)
    (hlead : ∀ c ∈ (rest.headD finish).lead, isSpace c) : typeName (l :: rest) = .ok ("TEXT".toList, rest) := by
  have hplain : l.isPlainName := by
    have hname : l.isName := (isName_iff hl).2 (by decide)
    have hword : l.isWordOf joinWords = false := (isWordOf_eq_false hl).2 (by decide)
    rw [Lexeme.isPlainName, hname, hword]
    rfl
  have hnames : ∀ limit, typeName.names limit rest = .ok ((), rest) := by
    intro limit
    cases limit with
    | zero => rfl
    | succ limit =>
      rw [typeName.names, peek_bind, hrest.isPlainName]
      rfl
  have hnames' : typeName.names (l :: rest).length (l :: rest) = .ok ((), rest) := by
    rw [List.length_cons, typeName.names, peek_bind, List.headD_cons, hplain]
    exact hnames _
  have htext : l.text = "TEXT".toList := congrArg Prod.snd hl
  have hwritten : written ((l :: rest).take ((l :: rest).length - rest.length)) (rest.headD finish) = "TEXT".toList := by
    have htake : (l :: rest).length - rest.length = 1 := by
      rw [List.length_cons]
      omega
    rw [htake]
    change Text.dropRightWhile isSpace (l.text ++ _) = _
    have hlast : ∀ c ∈ "TEXT".toList.getLast?, isSpace c = false := by
      intro c hc
      rw [← Option.some.inj (show some 'T' = some c from hc)]
      rfl
    rw [htext]
    exact Text.dropRightWhile_append hlead hlast
  unfold typeName
  refine (bind_of_ok (withText_of_ok (?_ : _ = Except.ok ((), rest)))).trans ?_
  · rw [peek_bind, List.headD_cons, hplain, if_pos rfl, get_bind, bind_of_ok hnames',
      acceptSymbol_neg (hrest.stops.2.2.1 "(" (by decide))]
    rfl
  · rw [hwritten]
    rfl

private theorem columnConstraints_closes (limit : Nat) (c : ColumnDefinition) (h : Closes ls) :
    columnConstraints limit c ls = .ok (c, ls) := by
  obtain ⟨-, hword, -, -⟩ := h.stops
  cases limit with
  | zero => rfl
  | succ limit =>
    rw [columnConstraints, acceptWord_else (hword "not" (by decide)), acceptWord_else (hword "null" (by decide)),
      acceptWord_else (hword "primary" (by decide)), acceptWord_else (hword "default" (by decide))]
    rfl

private theorem columnDefinition_text {w : Text} (hw : '"' ∉ w) {taken : List Lexeme}
    (htaken : taken.map Lexeme.bare = columnPieces w) (hrest : Closes rest)
    (hlead : ∀ c ∈ (rest.headD finish).lead, isSpace c) :
    columnDefinition (taken ++ rest) = .ok (textDefinition w, rest) := by
  obtain ⟨column, more, rfl, hcolumn, hmore⟩ := List.map_eq_cons_iff.1 htaken
  obtain ⟨type, more, rfl, htype, hmore⟩ := List.map_eq_cons_iff.1 hmore
  rw [List.map_eq_nil_iff.1 hmore]
  have hkind : column.kind = .quotedName := congrArg Prod.fst hcolumn
  have hname : column.isName := by simp [Lexeme.isName, hkind]
  change columnDefinition (column :: type :: rest) = _
  unfold columnDefinition
  rw [bind_of_ok (name_eq_ok.2 ⟨rfl, hname⟩), bind_of_ok (typeName_text htype hrest hlead), get_bind,
    columnConstraints_closes _ _ hrest, unquoted_of_quotedName hw hcolumn]
  rfl

private theorem columnDefinitions_eq_ok {ws : List Text} (hne : ws ≠ []) (hws : ∀ w ∈ ws, '"' ∉ w)
    {tail : List (Kind × Text)} {limit : Nat} (hlimit : ws.length ≤ limit)
    (hlead : ∀ l ∈ ls, ∀ c ∈ l.lead, isSpace c)
    (hls : ls.map Lexeme.bare = [(.symbol, [','])].intercalate (ws.map columnPieces) ++ (.symbol, [')']) :: tail) :
    ∃ rest, columnDefinitions limit ls = .ok ((ws.map textDefinition, []), rest) ∧
      rest.map Lexeme.bare = (.symbol, [')']) :: tail := by
  induction ws generalizing ls limit with
  | nil => exact absurd rfl hne
  | cons w ws ih =>
    have hw := hws w (List.mem_cons_self ..)
    cases limit with
    | zero => simp at hlimit
    | succ limit =>
      cases ws with
      | nil =>
        rw [List.map_singleton, List.intercalate_singleton, List.map_eq_append_iff] at hls
        obtain ⟨taken, rest, rfl, htaken, hrest⟩ := hls
        obtain ⟨close, behind, rfl, hclose, hbehind⟩ := List.map_eq_cons_iff.1 hrest
        have hcloses : Closes (close :: behind) := by
          rw [Closes, List.headD_cons, hclose]
          decide
        have hread := columnDefinition_text hw htaken hcloses (hlead close (by simp))
        have hcomma : ((close :: behind).headD finish).isSymbol "," = false :=
          (alike_of_bare (hclose.trans (rfl : _ = (sample (.symbol, [')'])).bare))).2.2.1 ","
        refine ⟨close :: behind, ?_, hrest⟩
        rw [columnDefinitions, bind_of_ok hread, acceptSymbol_neg hcomma]
        rfl
      | cons v ws =>
        rw [List.map_cons, List.map_cons, List.intercalate_cons_cons, List.append_assoc, List.append_assoc,
          List.map_eq_append_iff] at hls
        obtain ⟨taken, behind, rfl, htaken, hbehind⟩ := hls
        obtain ⟨comma, rest, rfl, hcomma, hrest⟩ := List.map_eq_cons_iff.1 hbehind
        have hcloses : Closes (comma :: rest) := by
          rw [Closes, List.headD_cons, hcomma]
          decide
        have hread := columnDefinition_text hw htaken hcloses (hlead comma (by simp))
        have hlimit' : (v :: ws).length ≤ limit := by
          simp only [List.length_cons] at hlimit ⊢
          omega
        have hlead' : ∀ l ∈ rest, ∀ c ∈ l.lead, isSpace c := fun l hl => hlead l (by simp [hl])
        obtain ⟨rest', hread', hrest'⟩ :=
          ih (by simp) (fun w hw => hws w (List.mem_cons_of_mem _ hw)) hlimit' hlead' hrest
        -- behind a comma a column goes on, and not the primary key
        have hprimary : (rest.headD finish).isWord "primary" = false := by
          cases rest with
          | nil => rfl
          | cons next more =>
            have hnext : (next.bare).1 = .quotedName := by
              cases ws <;> exact congrArg Prod.fst (List.cons.inj hrest).1
            have hkind : next.kind = .quotedName := hnext
            simp [Lexeme.isWord, hkind]
        refine ⟨rest', ?_, hrest'⟩
        rw [columnDefinitions, bind_of_ok hread, acceptSymbol_pos (isSymbol_of_bare hcomma), acceptWord_else hprimary,
          bind_of_ok hread']
        rfl

/-- Behind `CREATE` the word `TABLE`, a name and a parenthesis. -/
private theorem tableDefinition_open {table name open' : Lexeme} (htable : table.bare = (.word, "TABLE".toList))
    (hname : name.isName) (hif : name.isWord "if" = false) (hopen : open'.bare = (.symbol, ['('])) :
    tableDefinition (table :: name :: open' :: ls) = (do
      let (columns, key) ← columnDefinitions ls.length
      expectSymbol ")"
      return ⟨⟨name.writtenName, none⟩, false, columns, key⟩ : Reading TableDefinition) ls := by
  have hword := isWord_of_bare htable
  have hpoint : ((open' :: ls).headD finish).isSymbol "." = false :=
    (alike_of_bare (hopen.trans (rfl : _ = (sample (.symbol, ['('])).bare))).2.2.1 "."
  have hnot : ifNotExists (name :: open' :: ls) = .ok (false, name :: open' :: ls) := by
    unfold ifNotExists
    rw [acceptWord_neg hif]
    rfl
  have htableName : tableName (name :: open' :: ls) = .ok (⟨name.writtenName, none⟩, open' :: ls) := by
    unfold tableName
    rw [bind_of_ok (name_eq_ok.2 ⟨rfl, hname⟩), acceptSymbol_neg hpoint]
    rfl
  have hhead : tableHead (table :: name :: open' :: ls) = .ok ((⟨name.writtenName, none⟩, false), open' :: ls) := by
    have htemporary : acceptWord "temporary" (table :: name :: open' :: ls) =
        .ok (false, table :: name :: open' :: ls) := by
      rw [acceptWord_apply, List.headD_cons, hword "temporary", if_neg (by decide)]
    unfold tableHead
    rw [acceptWord_neg (hword "temp"), bind_of_ok htemporary]
    dsimp only
    rw [expectWord_pos (hword "table"), bind_of_ok hnot, bind_of_ok htableName]
    rfl
  unfold tableDefinition
  rw [bind_of_ok hhead]
  dsimp only
  rw [expectSymbol_pos (isSymbol_of_bare hopen), get_bind]

/-- A table has columns. -/
theorem tableDefinition_empty {table name open' close : Lexeme} (htable : table.bare = (.word, "TABLE".toList))
    (hname : name.isName) (hif : name.isWord "if" = false) (hopen : open'.bare = (.symbol, ['(']))
    (hclose : close.bare = (.symbol, [')'])) (d : TableDefinition) (rest : List Lexeme) :
    tableDefinition (table :: name :: open' :: close :: ls) ≠ .ok (d, rest) := by
  rw [tableDefinition_open htable hname hif hopen]
  intro h
  obtain ⟨_, _, hcolumns, -⟩ := bind_eq_ok.1 h
  rw [List.length_cons, columnDefinitions] at hcolumns
  obtain ⟨_, _, hcolumn, -⟩ := bind_eq_ok.1 hcolumns
  obtain ⟨column, _, hcolumn, -⟩ := bind_eq_ok.1 hcolumn
  obtain ⟨hcons, hcolumn⟩ := name_eq_ok.1 hcolumn
  rw [← (List.cons.inj hcons).1] at hcolumn
  have hkind : close.kind = .symbol := congrArg Prod.fst hclose
  simp [Lexeme.isName, hkind] at hcolumn

/-- Behind `CREATE` the word `TABLE`, a name and columns of texts in parentheses. -/
theorem tableDefinition_columns {table name : Lexeme} (htable : table.bare = (.word, "TABLE".toList))
    (hname : name.isName) (hif : name.isWord "if" = false) {ws : List Text} (hne : ws ≠ []) (hws : ∀ w ∈ ws, '"' ∉ w)
    (hlead : ∀ l ∈ ls, ∀ c ∈ l.lead, isSpace c) {tail : List (Kind × Text)}
    (hls : ls.map Lexeme.bare =
      (.symbol, ['(']) :: ([(.symbol, [','])].intercalate (ws.map columnPieces) ++ (.symbol, [')']) :: tail)) :
    ∃ rest, tableDefinition (table :: name :: ls) =
        .ok (⟨⟨name.writtenName, none⟩, false, ws.map textDefinition, []⟩, rest) ∧
      rest.map Lexeme.bare = tail := by
  obtain ⟨open', columns, rfl, hopen, hcolumns⟩ := List.map_eq_cons_iff.1 hls
  have hlimit : ws.length ≤ columns.length := by
    have hlength : (ws.map columnPieces).length ≤ ([(Kind.symbol, [','])].intercalate (ws.map columnPieces)).length :=
      length_le_intercalate (List.forall_mem_map.2 fun _ _ => List.cons_ne_nil _ _)
    rw [List.length_map] at hlength
    have htotal := congrArg List.length hcolumns
    rw [List.length_map, List.length_append] at htotal
    omega
  have hlead' : ∀ l ∈ columns, ∀ c ∈ l.lead, isSpace c := fun l hl => hlead l (List.mem_cons_of_mem _ hl)
  obtain ⟨rest, hread, hrest⟩ := columnDefinitions_eq_ok hne hws hlimit hlead' hcolumns
  obtain ⟨close, behind, rfl, hclose, hbehind⟩ := List.map_eq_cons_iff.1 hrest
  refine ⟨behind, ?_, hbehind⟩
  rw [tableDefinition_open htable hname hif hopen, bind_of_ok hread]
  dsimp only
  rw [expectSymbol_pos (isSymbol_of_bare hclose)]
  rfl

/-! ### Rows of parameters -/

/-- The pieces of parameters with these numbers. -/
def parameterPieces (numbers : List Nat) : List ((Kind × Text) × Nat) :=
  [((.symbol, [',']), 0)].intercalate (numbers.map fun n => [((.variable, ['?']), n)])

private theorem expressions_parameters {row : List Lexeme} {numbers : List Nat} (hne : numbers ≠ [])
    (hrow : row.map Lexeme.shape = parameterPieces numbers ++ [((.symbol, [')']), 0), ((.finish, []), 0)]) :
    ∃ close last, expressions row = .ok (numbers.map .parameter, [close, last]) ∧ close.bare = (.symbol, [')']) ∧
      last.bare = (.finish, []) := by
  have hlimit : numbers.length ≤ row.length + 1 := by
    have hlength : (numbers.map fun n => [((Kind.variable, ['?']), n)]).length ≤ (parameterPieces numbers).length :=
      length_le_intercalate (List.forall_mem_map.2 fun _ _ => List.cons_ne_nil _ _)
    rw [List.length_map] at hlength
    have htotal := congrArg List.length hrow
    rw [List.length_map, List.length_append] at htotal
    omega
  have htail : ∀ {rest : List Lexeme}, rest.map Lexeme.shape = [((.symbol, [')']), 0), ((.finish, []), 0)] →
      Closes rest ∧ (rest.headD finish).isSymbol "," = false := by
    intro rest hrest
    obtain ⟨close, behind, rfl, hclose, -⟩ := List.map_eq_cons_iff.1 hrest
    refine ⟨?_, (alike_of_bare ((Lexeme.bare_of_shape hclose).trans (rfl : _ = (sample (.symbol, [')'])).bare))).2.2.1 ","⟩
    rw [Closes, List.headD_cons, Lexeme.bare_of_shape hclose]
    decide
  have hpart : ∀ n ∈ numbers, ∀ taken rest, taken.map Lexeme.shape = [((.variable, ['?']), n)] → Closes rest →
      ∃ e, e = Expr.parameter n ∧ expression (taken ++ rest) = .ok (e, rest) := by
    intro n _ taken rest htaken hrest
    obtain ⟨l, none', rfl, hl, hnone⟩ := List.map_eq_cons_iff.1 htaken
    rw [List.map_eq_nil_iff.1 hnone]
    have hkind : l.kind = .variable := congrArg Prod.fst (Lexeme.bare_of_shape hl)
    have hnumber : l.number = n := congrArg Prod.snd hl
    exact ⟨_, rfl, (expression_parameter hkind hrest).trans (by rw [hnumber])⟩
  obtain ⟨es, rest, hes, hrest, hread⟩ := separated_eq_ok Lexeme.bare_of_shape hpart htail hne hlimit hrow
  have hes' : es = numbers.map .parameter := by
    clear hpart hread hne hlimit hrow
    induction hes with
    | nil => rfl
    | cons h _ ih => rw [h, ih, List.map_cons]
  obtain ⟨close, behind, rfl, hclose, hbehind⟩ := List.map_eq_cons_iff.1 hrest
  obtain ⟨last, none', rfl, hlast, hnone⟩ := List.map_eq_cons_iff.1 hbehind
  obtain rfl := List.map_eq_nil_iff.1 hnone
  refine ⟨close, last, ?_, Lexeme.bare_of_shape hclose, Lexeme.bare_of_shape hlast⟩
  unfold expressions
  rw [get_bind, ← hes']
  exact hread

private theorem valueRows_parameters {numbers : List Nat} (hne : numbers ≠ [])
    (hls : ls.map Lexeme.shape = ((.symbol, ['(']), 0) :: (parameterPieces numbers ++
      [((.symbol, [')']), 0), ((.finish, []), 0)])) :
    ∃ last, valueRows ls = .ok ([numbers.map .parameter], [last]) ∧ last.bare = (.finish, []) := by
  obtain ⟨opened, row, rfl, hopened, hrow⟩ := List.map_eq_cons_iff.1 hls
  obtain ⟨close, last, hexpressions, hclose, hlast⟩ := expressions_parameters hne hrow
  have hcomma : ([last].headD finish).isSymbol "," = false :=
    (alike_of_bare (hlast.trans (rfl : _ = (sample (.finish, [])).bare))).2.2.1 ","
  refine ⟨last, ?_, hlast⟩
  unfold valueRows
  rw [get_bind, List.length_cons, separated]
  refine (bind_of_ok (?_ : _ = Except.ok (numbers.map Expr.parameter, [last]))).trans ?_
  · rw [expectSymbol_pos (isSymbol_of_bare (Lexeme.bare_of_shape hopened)), bind_of_ok hexpressions,
      expectSymbol_pos (isSymbol_of_bare hclose)]
    rfl
  · rw [acceptSymbol_neg hcomma]
    rfl

/-- Behind a name and the word `VALUES` stand rows. -/
private theorem insertion_values {name values : Lexeme} (hname : name.isName)
    (hvalues : values.bare = (.word, "VALUES".toList)) :
    insertion false (name :: values :: ls) =
      (valueRows >>= fun rows => pure (.insert ⟨name.writtenName, none⟩ false [] rows) : Reading Statement) ls := by
  have hvalues' := alike_of_bare (hvalues.trans (rfl : _ = (sample (.word, "VALUES".toList)).bare))
  have hpoint : ((values :: ls).headD finish).isSymbol "." = false := hvalues'.2.2.1 "."
  have hparenthesis : ((values :: ls).headD finish).isSymbol "(" = false := hvalues'.2.2.1 "("
  have htableName : tableName (name :: values :: ls) = .ok (⟨name.writtenName, none⟩, values :: ls) := by
    unfold tableName
    rw [bind_of_ok (name_eq_ok.2 ⟨rfl, hname⟩), acceptSymbol_neg hpoint]
    rfl
  have hcolumns : columnList (values :: ls) = .ok ([], values :: ls) := by
    unfold columnList
    rw [acceptSymbol_neg hparenthesis]
    rfl
  unfold insertion
  rw [bind_of_ok htableName, bind_of_ok hcolumns, expectWord_pos (isWord_of_bare hvalues "values")]

theorem insertion_parameters {name values : Lexeme} (hname : name.isName)
    (hvalues : values.bare = (.word, "VALUES".toList)) {numbers : List Nat} (hne : numbers ≠ [])
    (hls : ls.map Lexeme.shape = ((.symbol, ['(']), 0) :: (parameterPieces numbers ++
      [((.symbol, [')']), 0), ((.finish, []), 0)])) :
    ∃ rest, insertion false (name :: values :: ls) =
        .ok (.insert ⟨name.writtenName, none⟩ false [] [numbers.map .parameter], rest) ∧
      rest.map Lexeme.bare = [(.finish, [])] := by
  obtain ⟨last, hrows, hlast⟩ := valueRows_parameters hne hls
  refine ⟨[last], ?_, by rw [List.map_singleton, hlast]⟩
  rw [insertion_values hname hvalues, bind_of_ok hrows]
  rfl

/-- A row of nothing cannot be put in. -/
theorem insertion_empty {name values open' close : Lexeme} (hname : name.isName)
    (hvalues : values.bare = (.word, "VALUES".toList)) (hopen : open'.bare = (.symbol, ['(']))
    (hclose : close.bare = (.symbol, [')'])) (s : Statement) (rest : List Lexeme) :
    insertion false (name :: values :: open' :: close :: ls) ≠ .ok (s, rest) := by
  have hsymbol : ∀ symbol ∈ ["(", "-", "+"], close.isSymbol symbol = false := by
    have hclose' := alike_of_bare (hclose.trans (rfl : _ = (sample (.symbol, [')'])).bare))
    intro symbol hmem
    rw [hclose'.2.2.1 symbol]
    revert symbol
    decide
  have hoperand : ∀ limit e behind, operand (limit + 1) (close :: ls) ≠ .ok (e, behind) := by
    intro limit e behind h
    have hkind : close.kind = .symbol := congrArg Prod.fst hclose
    rw [operand, peek_bind, List.headD_cons, hkind] at h
    simp only [hsymbol "(" (by decide), hsymbol "-" (by decide), hsymbol "+" (by decide), Bool.false_eq_true,
      if_false] at h
    cases h
  rw [insertion_values hname hvalues]
  intro h
  obtain ⟨_, _, hrows, -⟩ := bind_eq_ok.1 h
  rw [valueRows, get_bind, List.length_cons, separated] at hrows
  obtain ⟨_, _, hrow, -⟩ := bind_eq_ok.1 hrows
  rw [expectSymbol_pos (isSymbol_of_bare hopen)] at hrow
  obtain ⟨_, _, hcells, -⟩ := bind_eq_ok.1 hrow
  rw [expressions, get_bind, List.length_cons, separated] at hcells
  obtain ⟨_, _, hcell, -⟩ := bind_eq_ok.1 hcells
  rw [expression, get_bind, List.length_cons, Nat.mul_add, expressionFrom] at hcell
  obtain ⟨_, _, hcell, -⟩ := bind_eq_ok.1 hcell
  exact hoperand _ _ _ hcell

/-! ### Queries of one table -/

private theorem ended (h : ls.map Lexeme.bare = [(.finish, [])]) :
    (∀ keyword, (ls.headD finish).isWord keyword = false) ∧ (∀ symbol, (ls.headD finish).isSymbol symbol = false) ∧
      (ls.headD finish).isPlainName = false := by
  obtain ⟨l, rest, rfl, hl, -⟩ := List.map_eq_cons_iff.1 h
  have hkind : l.kind = .finish := congrArg Prod.fst hl
  rw [List.headD_cons]
  refine ⟨fun keyword => ?_, fun symbol => ?_, ?_⟩
  · simp [Lexeme.isWord, hkind]
  · simp [Lexeme.isSymbol, hkind]
  · simp [Lexeme.isPlainName, Lexeme.isName, hkind]

/-- Items, the word `FROM` and the name of a table. -/
theorem query_items {items : List ResultItem} {name : Lexeme} {behind : List Lexeme}
    (hall : (ls.headD finish).isWord "all" = false) (hitems : separated resultItem ls.length ls = .ok (items, behind))
    (hbehind : ∃ word, word.bare = (.word, "FROM".toList) ∧ behind = word :: name :: rest) (hname : name.isName)
    (hrest : rest.map Lexeme.bare = [(.finish, [])]) :
    query ls = .ok (⟨⟨items, none, [], none, none⟩, .table ⟨name.writtenName, none⟩ none .none⟩, rest) := by
  obtain ⟨word, hword, rfl⟩ := hbehind
  obtain ⟨hnoWord, hnoSymbol, hnoName⟩ := ended hrest
  have hfrom : word.isWord "from" = true := isWord_of_bare hword "from"
  have hparenthesis : ((name :: rest).headD finish).isSymbol "(" = false := by
    cases hkind : name.kind with
    | symbol => simp [Lexeme.isName, hkind] at hname
    | _ => simp [Lexeme.isSymbol, hkind]
  have htableName : tableName (name :: rest) = .ok (⟨name.writtenName, none⟩, rest) := by
    unfold tableName
    rw [bind_of_ok (name_eq_ok.2 ⟨rfl, hname⟩), acceptSymbol_neg (hnoSymbol ".")]
    rfl
  have halias : alias? rest = .ok (none, rest) := by
    unfold alias?
    rw [acceptWord_else (hnoWord "as"), peek_bind, hnoName]
    rfl
  have hsources : ∀ limit, sourcesFrom (limit + 1) (name :: rest) = .ok (.table ⟨name.writtenName, none⟩ none .none, rest) := by
    intro limit
    rw [sourcesFrom, acceptSymbol_neg hparenthesis, bind_of_ok htableName, bind_of_ok halias, acceptSymbol_neg (hnoSymbol ",")]
    rfl
  have hclause : clause "where" expression rest = .ok (none, rest) := by
    unfold clause
    rw [acceptWord_else (hnoWord "where")]
    rfl
  have htail : queryTail items rest = .ok (⟨items, none, [], none, none⟩, rest) := by
    unfold queryTail
    rw [bind_of_ok hclause]
    dsimp only
    rw [acceptWord_else (hnoWord "order")]
    refine (bind_of_ok (rfl : (pure [] : Reading (List OrderTerm)) rest = .ok ([], rest))).trans ?_
    rw [acceptWord_else (hnoWord "limit")]
    rfl
  have hno : acceptWord "all" ls = .ok (false, ls) := by
    rw [acceptWord_apply, if_neg (Bool.eq_false_iff.1 hall)]
  unfold query
  rw [get_bind, queryFrom, bind_of_ok hno, get_bind, bind_of_ok hitems]
  dsimp only
  rw [acceptWord_pos hfrom, bind_of_ok (hsources _)]
  refine (bind_of_ok htail).trans rfl

end Grammar

end SheetQuery.Sql
