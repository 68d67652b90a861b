import Mathlib.Data.Bool.AllAny
import SheetQuery.Identifier
import SheetQuery.Proofs.Sql.Content

/-!
# Pieces that are written one behind the other

A statement that is put together from names, symbols and parameters falls into just these pieces, if what follows a
piece cannot be part of it.

* `content_name`, `content_symbol`, `content_quotedName`, `content_parameter`: one piece in front of a text.
* `content_joinWith`: a list with commas between its members.
* `shapes_lexemes`: the lexemes of a statement are its pieces, with the numbers of its parameters counted from one.
* `lead_spaces`: without comments, nothing but spaces stands in front of a lexeme.
-/

namespace SheetQuery.Sql

/-- A text in front of which a name, a quoted name and a parameter end. -/
def Ends (s : Text) : Prop := ∀ c ∈ s.head?, isNameChar c = false ∧ c ≠ '\'' ∧ c ≠ '"'

theorem ends_nil : Ends [] := fun _ h => nomatch h

theorem ends_cons {c : Char} (h : isNameChar c = false ∧ c ≠ '\'' ∧ c ≠ '"') (s : Text) : Ends (c :: s) := by
  intro d hd
  rw [List.head?_cons, Option.mem_some_iff] at hd
  rwa [← hd]

/-! ### One piece -/

private theorem countWhile_append_of_all {p : Char → Bool} {u v : Text} (hu : ∀ x ∈ u, p x)
    (hv : ∀ c ∈ v.head?, p c = false) : countWhile p (u ++ v) = u.length := by
  have hstop : v.takeWhile p = [] := by
    cases v with
    | nil => rfl
    | cons c v => rw [List.takeWhile_cons, hv c rfl, if_neg Bool.false_ne_true]
  rw [countWhile, List.takeWhile_append_of_pos hu, hstop, List.append_nil]

/-- A bare name is a piece by itself. -/
theorem content_name {w s : Text} (hw : BareName w) (hs : Ends s) : content (w ++ s) = (.word, w) :: content s := by
  cases w with
  | nil => exact hw.elim
  | cons c w =>
    obtain ⟨hc, hw⟩ := hw
    rw [List.all_eq_true] at hw
    have hnext : (w ++ s).head? ≠ some '\'' := by
      intro hquote
      cases w with
      | nil => exact (hs _ hquote).2.1 rfl
      | cons d w =>
        have hd := hw d (List.mem_cons_self ..)
        rw [List.cons_append, List.head?_cons, Option.some.injEq] at hquote
        rw [hquote] at hd
        exact absurd hd (by decide)
    have hcut : cut (c :: (w ++ s)) = (.word, (c :: w).length) := by
      rw [cut, opening_word hc hnext, Opening.cut, countWhile_append_of_all hw fun d hd => (hs d hd).1, Nat.add_comm]
      rfl
    rw [List.cons_append, content_of_lexeme (by simp [hcut]), hcut, ← List.cons_append, List.drop_left,
      List.take_left]

/-- A parenthesis, a comma or a star is a piece by itself. -/
theorem content_symbol {c : Char} (hc : c ∈ ['(', ')', ',', '*']) (s : Text) :
    content (c :: s) = (.symbol, [c]) :: content s := by
  have hpair : ∀ c ∈ ['(', ')', ',', '*'], ∀ d, isPair c d = false := by
    intro c hc d
    simp only [List.mem_cons, List.not_mem_nil, or_false] at hc
    rcases hc with rfl | rfl | rfl | rfl <;> simp [isPair]
  have hopening : ∀ next more, opening c next more = .single := by
    intro next more
    have hnone : next.any (isPair c) = false := by
      cases next with
      | none => rfl
      | some d => exact hpair c hc d
    have hfirst : ∀ c ∈ ['(', ')', ',', '*'], isSpace c = false ∧ c ≠ '\uFEFF' ∧ c ≠ '-' ∧ c ≠ '/' ∧ c ≠ '\'' ∧
        c ≠ '"' ∧ c ≠ '`' ∧ c ≠ '[' ∧ c.isDigit = false ∧ c ≠ '.' ∧ c ≠ 'x' ∧ c ≠ 'X' ∧ isNameStart c = false ∧
        c ≠ '?' ∧ c ≠ '$' ∧ c ≠ '@' ∧ c ≠ '#' ∧ c ≠ ':' ∧ isSymbol c := List.all_iff_forall_prop.1 (by decide)
    obtain ⟨h1, h2, h3, h4, h5, h6, h7, h8, h9, h10, h11, h12, h13, h14, h15, h16, h17, h18, h19⟩ := hfirst c hc
    simp [opening, openings, *]
  have hcut : cut (c :: s) = (.symbol, 1) := by
    rw [cut, hopening, Opening.cut]
  rw [content_of_lexeme (by simp [hcut]), hcut]
  rfl

private theorem quotedLength_closed {u s : Text} (hu : '"' ∉ u) (hs : Ends s) :
    quotedLength '"' (u ++ '"' :: s) = (u.length + 1, true) := by
  induction u with
  | nil =>
    cases s with
    | nil => rfl
    | cons d s =>
      have hd : d ≠ '"' := (hs d rfl).2.2
      simp [quotedLength, hd]
  | cons c u ih =>
    rw [List.mem_cons, not_or] at hu
    have hc : c ≠ '"' := fun h => hu.1 h.symm
    cases u with
    | nil =>
      rw [List.nil_append] at ih
      rw [List.singleton_append, quotedLength, if_neg hc, ih List.not_mem_nil]
      rfl
    | cons d u =>
      rw [List.cons_append] at ih
      rw [List.cons_append, List.cons_append, quotedLength, if_neg hc, ih hu.2]
      rfl

/-- A name between double quotes is a piece by itself. -/
theorem content_quotedName {w s : Text} (hw : '"' ∉ w) (hs : Ends s) :
    content ('"' :: w ++ '"' :: s) = (.quotedName, '"' :: w ++ ['"']) :: content s := by
  have hcut : cut ('"' :: (w ++ '"' :: s)) = (.quotedName, w.length + 2) := by
    have hopening : ∀ next more, opening '"' next more = .quote := by
      intro next more
      have hspace : isSpace '"' = false := rfl
      simp [opening, openings, hspace]
    rw [cut, hopening, Opening.cut, quotedLength_closed hw hs]
    rfl
  have hsplit : '"' :: w ++ '"' :: s = ('"' :: w ++ ['"']) ++ s := by simp
  have hlength : w.length + 2 = ('"' :: w ++ ['"']).length := by simp
  rw [List.cons_append, content_of_lexeme (by simp [hcut]), hcut, ← List.cons_append, hsplit, hlength,
    List.drop_left, List.take_left]

/-- A question mark is a parameter by itself. -/
theorem content_parameter {s : Text} (hs : Ends s) : content ('?' :: s) = (.variable, ['?']) :: content s := by
  have hcut : cut ('?' :: s) = (.variable, 1) := by
    have hopening : ∀ next more, opening '?' next more = .numbered := by
      intro next more
      have hspace : isSpace '?' = false := rfl
      have hdigit : Char.isDigit '?' = false := rfl
      have hstart : isNameStart '?' = false := rfl
      simp [opening, openings, hspace, hdigit, hstart]
    have hdigits : ∀ c ∈ s.head?, c.isDigit = false := by
      intro c hc
      have hname := (hs c hc).1
      simp only [isNameChar, Char.isAlphanum, Bool.or_eq_false_iff] at hname
      exact hname.1.1.1.2
    have hnone : ∀ x ∈ ([] : Text), Char.isDigit x := by simp
    have hrun : countWhile Char.isDigit s = 0 := countWhile_append_of_all hnone hdigits
    rw [cut, hopening, Opening.cut, hrun]
  rw [content_of_lexeme (by simp [hcut]), hcut]
  rfl

/-! ### Lists -/

/-- Members with commas between them, if each is made of its own pieces. -/
theorem content_joinWith {α : Type} {spell : α → Text} {piece : α → List (Kind × Text)} {l : List α}
    (h : ∀ a ∈ l, ∀ s, Ends s → content (spell a ++ s) = piece a ++ content s) {s : Text} (hs : Ends s) :
    content (Text.joinWith ", ".toList (l.map spell) ++ s)
      = [(.symbol, [','])].intercalate (l.map piece) ++ content s := by
  unfold Text.joinWith
  induction l with
  | nil => rfl
  | cons a l ih =>
    have ha := h a (List.mem_cons_self ..)
    cases l with
    | nil => rw [List.map_singleton, List.map_singleton, List.intercalate_singleton, List.intercalate_singleton, ha s hs]
    | cons b l =>
      have hcomma : ∀ t, content (", ".toList ++ t) = (.symbol, [',']) :: content t := fun t =>
        (@content_symbol ',' (by decide) _).trans (congrArg _ (content_space t))
      have hends : ∀ t, Ends (", ".toList ++ t) := fun t => ends_cons (by decide) _
      have hrest := ih fun b hb => h b (List.mem_cons_of_mem _ hb)
      rw [List.map_cons, List.map_cons] at hrest ⊢
      rw [List.intercalate_cons_cons, List.append_assoc, List.append_assoc, ha _ (hends _), hcomma, hrest,
        List.map_cons, List.map_cons, List.intercalate_cons_cons]
      simp

/-! ### Lexemes with their numbers -/

/-- A lexeme as its kind, its text and its number. -/
def Lexeme.shape (l : Lexeme) : (Kind × Text) × Nat := (l.bare, l.number)

theorem Lexeme.bare_of_shape {l : Lexeme} {p : Kind × Text} {n : Nat} (h : l.shape = (p, n)) : l.bare = p :=
  congrArg Prod.fst h

/-- Pieces with their numbers: each parameter gets the next number. -/
def numbered (highest : Nat) : List (Kind × Text) → List ((Kind × Text) × Nat)
  | [] => []
  | p :: rest =>
    if p.1 = .variable then (p, highest + 1) :: numbered (highest + 1) rest else (p, 0) :: numbered highest rest

/-- No piece is a parameter with a name or a number of its own. -/
def Unnamed (ps : List (Kind × Text)) : Prop := ∀ p ∈ ps, p.1 = .variable → p.2 = ['?']

private theorem shape_numberFrom {names : List (Text × Nat)} {highest : Nat} {ls : List Lexeme}
    (hnumber : ∀ l ∈ ls, l.number = 0) (hunnamed : Unnamed (ls.map Lexeme.bare)) :
    (numberFrom names highest ls).map Lexeme.shape = numbered highest (ls.map Lexeme.bare) := by
  induction ls generalizing names highest with
  | nil => rfl
  | cons l ls ih =>
    have hrest : ∀ l ∈ ls, l.number = 0 := fun l hl => hnumber l (List.mem_cons_of_mem _ hl)
    have hunnamed' : Unnamed (ls.map Lexeme.bare) := fun p hp => hunnamed p (List.mem_cons_of_mem _ hp)
    have hkind : l.bare.1 = l.kind := rfl
    rw [numberFrom, List.map_cons, numbered, hkind]
    split
    · rename_i hvariable
      have htext : l.text = ['?'] := hunnamed l.bare (List.mem_cons_self ..) hvariable
      dsimp only
      rw [if_pos (by rw [htext]; rfl), Option.getD_none, List.map_cons, Nat.max_eq_right (Nat.le_succ _),
        ih hrest hunnamed']
      rfl
    · have hshape : l.shape = (l.bare, 0) := congrArg (Prod.mk _) (hnumber l (List.mem_cons_self ..))
      rw [List.map_cons, ih hrest hunnamed', hshape]

private theorem number_placeFrom (lead : Text) (offset : Nat) (ps : List (Kind × Text)) :
    ∀ l ∈ placeFrom lead offset ps, l.number = 0 := by
  fun_induction placeFrom lead offset ps with
  | case1 =>
    intro l hl
    rw [List.mem_singleton.1 hl]
  | case2 lead offset text rest ih => exact ih
  | case3 lead offset kind text rest hkind ih =>
    intro l hl
    rcases List.mem_cons.1 hl with rfl | hl
    · rfl
    · exact ih l hl

/-- The lexemes of a statement are its pieces and the mark of its end, with the numbers of its parameters. -/
theorem shapes_lexemes {sql : Text} {ps : List (Kind × Text)} (hnull : ∀ c ∈ sql, c.toNat != 0)
    (hps : content sql = ps) (hunnamed : Unnamed ps) :
    (lexemes sql).map Lexeme.shape = numbered 0 (ps ++ [(.finish, [])]) := by
  have hbare : (placeFrom [] 0 (pieces sql)).map Lexeme.bare = ps ++ [(.finish, [])] := by
    rw [bare_placeFrom, ← hps]
    rfl
  rw [lexemes, List.takeWhile_eq_self_iff.2 hnull, shape_numberFrom (number_placeFrom _ _ _) ?_, hbare]
  rw [hbare]
  intro p hp
  rcases List.mem_append.1 hp with hp | hp
  · exact hunnamed p hp
  · intro hkind
    rw [List.mem_singleton.1 hp] at hkind
    cases hkind

theorem numbered_append (highest : Nat) (ps qs : List (Kind × Text)) :
    numbered highest (ps ++ qs) = numbered highest ps ++ numbered (highest + ps.countP (·.1 = .variable)) qs := by
  induction ps generalizing highest with
  | nil => rfl
  | cons p ps ih =>
    rw [List.cons_append, numbered, numbered]
    by_cases hp : p.1 = .variable
    · rw [if_pos hp, if_pos hp, ih, List.countP_cons_of_pos (by simpa using hp), List.cons_append]
      rw [Nat.add_right_comm, Nat.add_assoc]
    · rw [if_neg hp, if_neg hp, ih, List.countP_cons_of_neg (by simpa using hp), List.cons_append]

/-! ### Spaces in front of lexemes -/

/-- A first piece that is blank and no comment is a run of spaces. -/
private theorem cut_blank {c : Char} {s : Text} (hc : c ≠ '-' ∧ c ≠ '/' ∧ c ≠ '\uFEFF')
    (hblank : (cut (c :: s)).1 = .blank) : ∀ x ∈ (c :: s).take (cut (c :: s)).2, isSpace x := by
  obtain ⟨hminus, hslash, hmark⟩ := hc
  rw [cut] at hblank ⊢
  cases ho : opening c s.head? (s.length > 1) with
  | space =>
    have hspace : isSpace c := by simpa [openings] using mem_openings ho (by decide)
    have htake : s.take (countWhile isSpace s) = s.takeWhile isSpace :=
      (List.prefix_iff_eq_take.1 (List.takeWhile_prefix isSpace)).symm
    rw [Opening.cut, Nat.add_comm, List.take_succ_cons, htake]
    intro x hx
    rcases List.mem_cons.1 hx with rfl | hx
    · exact hspace
    · exact List.mem_takeWhile_imp hx
  | mark => exact absurd (by simpa [openings] using mem_openings ho (by decide)) hmark
  | lineComment =>
    have hminus' : c = '-' ∧ s.head? = some '-' := by simpa [openings] using mem_openings ho (by decide)
    exact absurd hminus'.1 hminus
  | comment =>
    have hslash' : (c = '/' ∧ s.head? = some '*') ∧ 1 < s.length := by
      simpa [openings] using mem_openings ho (by decide)
    exact absurd hslash'.1.1 hslash
  | word | numbered | pair | single | other =>
    rw [ho] at hblank
    cases hblank
  | quote | bracket | number | blob | named =>
    rw [ho] at hblank
    simp only [Opening.cut, cutNumber, numberLength, cutBlob, cutVariable] at hblank
    split_ifs at hblank

private theorem blank_spaces {s : Text} (hs : ∀ c ∈ s, c ≠ '-' ∧ c ≠ '/' ∧ c ≠ '\uFEFF') :
    ∀ p ∈ pieces s, p.1 = .blank → ∀ c ∈ p.2, isSpace c := by
  obtain ⟨n, hn⟩ : ∃ n, s.length ≤ n := ⟨_, Nat.le_refl _⟩
  induction n generalizing s with
  | zero =>
    rw [List.eq_nil_of_length_eq_zero (Nat.le_zero.1 hn)]
    exact fun p hp => nomatch hp
  | succ n ih =>
    cases s with
    | nil => exact fun p hp => nomatch hp
    | cons c s =>
      rw [pieces_cons]
      intro p hp
      rcases List.mem_cons.1 hp with rfl | hp
      · exact cut_blank (hs c (List.mem_cons_self ..))
      · refine ih (fun d hd => hs d (List.mem_of_mem_drop hd)) ?_ p hp
        have hpos := cut_pos c s
        simp only [List.length_drop, List.length_cons] at hn ⊢
        omega

private theorem lead_placeFrom {lead : Text} (offset : Nat) {ps : List (Kind × Text)} (hlead : ∀ c ∈ lead, isSpace c)
    (hps : ∀ p ∈ ps, p.1 = .blank → ∀ c ∈ p.2, isSpace c) :
    ∀ l ∈ placeFrom lead offset ps, ∀ c ∈ l.lead, isSpace c := by
  fun_induction placeFrom lead offset ps with
  | case1 =>
    intro l hl
    rw [List.mem_singleton.1 hl]
    exact hlead
  | case2 lead offset text rest ih =>
    refine ih (fun c hc => ?_) fun p hp => hps p (List.mem_cons_of_mem _ hp)
    rcases List.mem_append.1 hc with hc | hc
    · exact hlead c hc
    · exact hps _ (List.mem_cons_self ..) rfl c hc
  | case3 lead offset kind text rest hkind ih =>
    intro l hl
    rcases List.mem_cons.1 hl with rfl | hl
    · exact hlead
    · exact ih (List.forall_mem_nil _) (fun p hp => hps p (List.mem_cons_of_mem _ hp)) l hl

private theorem lead_numberFrom {names : List (Text × Nat)} {highest : Nat} {ls : List Lexeme} {l : Lexeme}
    (hl : l ∈ numberFrom names highest ls) : ∃ l' ∈ ls, l.lead = l'.lead := by
  induction ls generalizing names highest with
  | nil => cases hl
  | cons first rest ih =>
    rw [numberFrom] at hl
    have hcases : l.lead = first.lead ∨ ∃ l' ∈ rest, l.lead = l'.lead := by
      split at hl
      · rcases List.mem_cons.1 hl with rfl | hl
        · exact .inl rfl
        · exact .inr (ih hl)
      · rcases List.mem_cons.1 hl with rfl | hl
        · exact .inl rfl
        · exact .inr (ih hl)
    rcases hcases with h | ⟨l', hl', h⟩
    · exact ⟨first, List.mem_cons_self .., h⟩
    · exact ⟨l', List.mem_cons_of_mem _ hl', h⟩

/-- Nothing but spaces stands in front of the lexemes of a text without comments. -/
theorem lead_spaces {sql : Text} (hsql : ∀ c ∈ sql, c ≠ '-' ∧ c ≠ '/' ∧ c ≠ '\uFEFF') :
    ∀ l ∈ lexemes sql, ∀ c ∈ l.lead, isSpace c := by
  intro l hl
  obtain ⟨l', hl', hlead⟩ := lead_numberFrom hl
  rw [hlead]
  have hblank := blank_spaces fun c hc => hsql c ((List.takeWhile_sublist (·.toNat != 0)).subset hc)
  have hnone : ∀ c ∈ ([] : Text), isSpace c := by simp
  exact lead_placeFrom 0 hnone hblank l' hl'

end SheetQuery.Sql
