import Mathlib.Data.List.TakeWhile
import Mathlib.Tactic.Common
import SheetQuery.Sql.Lexeme

/-!
# Lexemes without their places

The content of a text is the list of its pieces that are no blanks.  It decides how a statement is read, up to
the places in messages.

* `bare_lexemes`: the lexemes of a statement are its content and the mark of its end.
* `content_of_blank`, `content_of_lexeme`: the content behind the first piece.
* `content_word`: a bare name in front of a space is a lexeme by itself.
* `content_append_space`: two texts that begin alike up to a space have contents that begin alike, unless a
  quote or a comment of the common beginning is left open.
-/

namespace SheetQuery.Sql

/-- The lexemes of a text, each as its kind and its text. -/
def content (s : Text) : List (Kind × Text) := (pieces s).filter (·.1 != .blank)

/-- A lexeme as its kind and its text. -/
def Lexeme.bare (l : Lexeme) : Kind × Text := (l.kind, l.text)

/-! ### Runs of characters -/

theorem countWhile_cons_of_pos {p : Char → Bool} {c : Char} {s : Text} (h : p c) :
    countWhile p (c :: s) = countWhile p s + 1 := by
  simp [countWhile, h]

theorem countWhile_cons_of_neg {p : Char → Bool} {c : Char} {s : Text} (h : p c = false) :
    countWhile p (c :: s) = 0 := by
  simp [countWhile, h]

private theorem countWhile_le (p : Char → Bool) (s : Text) : countWhile p s ≤ s.length :=
  (List.takeWhile_sublist p).length_le

theorem countWhile_of_all {p : Char → Bool} {s : Text} (h : ∀ x ∈ s, p x) : countWhile p s = s.length := by
  rw [countWhile, List.takeWhile_eq_self_iff.2 h]

/-- A run that ends inside of a text does not depend on what follows. -/
private theorem countWhile_append {p : Char → Bool} {u : Text} (h : ∃ x ∈ u, p x = false) (v : Text) :
    countWhile p (u ++ v) < u.length ∧ countWhile p (u ++ v) = countWhile p u := by
  induction u with
  | nil => simp at h
  | cons c u ih =>
    rw [List.cons_append, List.length_cons]
    cases hc : p c with
    | false =>
      rw [countWhile_cons_of_neg hc, countWhile_cons_of_neg hc]
      exact ⟨Nat.succ_pos _, rfl⟩
    | true =>
      obtain ⟨x, hx, hpx⟩ := h
      rcases List.mem_cons.1 hx with rfl | hx
      · simp [hc] at hpx
      · rw [countWhile_cons_of_pos hc, countWhile_cons_of_pos hc]
        have := ih ⟨x, hx, hpx⟩
        omega

/-- A run goes through all of the beginning, or stops in there whatever follows. -/
private theorem countWhile_stops (p : Char → Bool) (u v v' : Text) :
    (∀ x ∈ u, p x) ∨ countWhile p (u ++ v) < u.length ∧ countWhile p (u ++ v') = countWhile p (u ++ v) := by
  by_cases hall : ∀ x ∈ u, p x
  · exact .inl hall
  · have hex : ∃ x ∈ u, p x = false := by simpa using hall
    have hrun := countWhile_append hex v
    exact .inr ⟨hrun.1, (countWhile_append hex v').2.trans hrun.2.symm⟩

/-- A run that a space ends does not depend on what follows. -/
private theorem countWhile_append_space {p : Char → Bool} (h : p ' ' = false) (u r : Text) :
    countWhile p (u ++ ' ' :: r) = countWhile p u := by
  induction u with
  | nil => rw [List.nil_append, countWhile_cons_of_neg h]; rfl
  | cons c u ih =>
    rw [List.cons_append]
    cases hc : p c with
    | true => rw [countWhile_cons_of_pos hc, countWhile_cons_of_pos hc, ih]
    | false => rw [countWhile_cons_of_neg hc, countWhile_cons_of_neg hc]

private theorem drop_countWhile (p : Char → Bool) (s : Text) : s.drop (countWhile p s) = s.dropWhile p := by
  have h : s = s.takeWhile p ++ s.dropWhile p := List.takeWhile_append_dropWhile.symm
  exact (congrArg (List.drop _) h).trans List.drop_left

/-! ### Pieces -/

private theorem numberLength_pos {c : Char} {s : Text} (h : c.isDigit ∨ c = '.') :
    0 < (numberLength (c :: s)).2 := by
  unfold numberLength
  split
  · dsimp only
    omega
  · rcases h with h | rfl
    · have hc : isDigitOrSeparator c := by simp [isDigitOrSeparator, h]
      simp only [countWhile_cons_of_pos hc]
      omega
    · have hdot : isDigitOrSeparator '.' = false := rfl
      simp only [countWhile_cons_of_neg hdot, List.drop_zero, fractionLength, List.head?_cons, if_pos]
      omega

/-- A piece that begins in some way meets its condition. -/
theorem mem_openings {c : Char} {next : Option Char} {more : Bool} {o : Opening}
    (h : opening c next more = o) (ho : o ≠ .other) : (o, true) ∈ openings c next more := by
  unfold opening at h
  cases hf : (openings c next more).find? (·.2) with
  | none =>
    rw [hf] at h
    exact absurd h.symm ho
  | some p =>
    obtain ⟨o', met⟩ := p
    have hmet : met = true := List.find?_some hf
    rw [hf, Option.map_some, Option.getD_some] at h
    rw [← h, ← hmet]
    exact List.mem_of_find?_eq_some hf

theorem cut_pos (c : Char) (s : Text) : 0 < (cut (c :: s)).2 := by
  rw [cut]
  cases h : opening c s.head? (s.length > 1) with
  | number =>
    have hc := mem_openings h (by decide)
    have hpos : 0 < (numberLength (c :: s)).2 := numberLength_pos (by simp [openings] at hc; tauto)
    simp only [Opening.cut, cutNumber]
    omega
  | blob =>
    simp only [Opening.cut, cutBlob]
    split <;> dsimp only <;> omega
  | space | lineComment | comment | quote | bracket | word | numbered | named =>
    simp only [Opening.cut, cutVariable]
    omega
  | mark | pair | single | other => simp [Opening.cut]

private theorem piecesFrom_eq {limit limit' : Nat} {s : Text} (h : s.length ≤ limit) (h' : s.length ≤ limit') :
    piecesFrom limit s = piecesFrom limit' s := by
  induction limit generalizing limit' s with
  | zero =>
    cases s with
    | nil => cases limit' <;> rfl
    | cons c s => simp at h
  | succ limit ih =>
    cases s with
    | nil => cases limit' <;> rfl
    | cons c s =>
      cases limit' with
      | zero => simp at h'
      | succ limit' =>
        have hpos := cut_pos c s
        simp only [List.length_cons] at h h'
        simp only [piecesFrom]
        rw [ih] <;> simp only [List.length_drop, List.length_cons] <;> omega

theorem pieces_cons (c : Char) (s : Text) :
    pieces (c :: s) =
      ((cut (c :: s)).1, (c :: s).take (cut (c :: s)).2) :: pieces ((c :: s).drop (cut (c :: s)).2) := by
  have hpos := cut_pos c s
  rw [pieces, List.length_cons, piecesFrom, pieces]
  refine congrArg _ (piecesFrom_eq ?_ (Nat.le_refl _))
  simp only [List.length_drop, List.length_cons]
  omega

@[simp] theorem content_nil : content [] = [] := rfl

theorem content_of_blank {c : Char} {s : Text} (h : (cut (c :: s)).1 = .blank) :
    content (c :: s) = content ((c :: s).drop (cut (c :: s)).2) := by
  rw [content, pieces_cons, h]
  rfl

theorem content_of_lexeme {c : Char} {s : Text} (h : (cut (c :: s)).1 ≠ .blank) :
    content (c :: s) =
      ((cut (c :: s)).1, (c :: s).take (cut (c :: s)).2) :: content ((c :: s).drop (cut (c :: s)).2) := by
  rw [content, pieces_cons, List.filter_cons_of_pos (by simpa using h)]
  rfl

/-! ### Spaces -/

private theorem opening_space {c : Char} (h : isSpace c) (next : Option Char) (more : Bool) :
    opening c next more = .space := by
  simp [opening, openings, h]

theorem content_dropWhile_space (s : Text) : content (s.dropWhile isSpace) = content s := by
  cases s with
  | nil => rfl
  | cons c s =>
    by_cases hc : isSpace c
    · have hcut : cut (c :: s) = (.blank, 1 + countWhile isSpace s) := by
        rw [cut, opening_space hc]
        rfl
      rw [content_of_blank (by rw [hcut]), hcut, Nat.add_comm, List.drop_succ_cons, drop_countWhile,
        List.dropWhile_cons_of_pos hc]
    · rw [List.dropWhile_cons_of_neg hc]

/-- Spaces at the front are not part of the content. -/
theorem content_append_of_spaces {u : Text} (h : ∀ x ∈ u, isSpace x) (s : Text) : content (u ++ s) = content s := by
  rw [← content_dropWhile_space, List.dropWhile_append_of_pos h, content_dropWhile_space]

theorem content_space (s : Text) : content (' ' :: s) = content s := by
  have hspace : ∀ x ∈ [' '], isSpace x := by
    intro x hx
    rw [List.mem_singleton.1 hx]
    rfl
  exact content_append_of_spaces hspace s

/-! ### Texts up to a space -/

/-- Characters that can end a quoted piece, a bracketed piece or a comment. -/
def closers : List Char := ['\n', '\'', '"', '`', ']', '*']

theorem not_mem_of_closers {s : Text} (h : closers.all fun x => !s.contains x) : ∀ x ∈ closers, x ∉ s := by
  simpa using h

private theorem quotedLength_open {q : Char} {s : Text} (h : q ∉ s) : (quotedLength q s).2 = false := by
  fun_induction quotedLength q s with
  | case1 => rfl
  | case2 => simp at h
  | case3 => rfl
  | case4 s => simp at h
  | case5 => simp at h
  | case6 c d s hc rest ih => exact ih fun hm => h (List.mem_cons_of_mem _ hm)

/-- A quote that is closed before a space does not depend on what follows. -/
private theorem quotedLength_append_space {q : Char} (hq : q ≠ ' ') {r : Text} (hr : q ∉ r) (u r' : Text) :
    (quotedLength q (u ++ ' ' :: r)).2 = false ∨
      (quotedLength q (u ++ ' ' :: r)).1 ≤ u.length ∧
        quotedLength q (u ++ ' ' :: r') = quotedLength q (u ++ ' ' :: r) := by
  have hopen : ∀ v, q ∉ v → (quotedLength q (v ++ ' ' :: r)).2 = false := fun v hv =>
    quotedLength_open (by simp [hv, hq, hr])
  fun_induction quotedLength q u with
  | case1 => exact .inl (hopen [] (by simp))
  | case2 =>
    refine .inr ?_
    simp [quotedLength, hq.symm]
  | case3 c hc => exact .inl (hopen [c] (by simp [Ne.symm hc]))
  | case4 s rest ih =>
    -- a doubled quote does not close
    simp only [List.cons_append, quotedLength, if_pos]
    rcases ih with h | ⟨hle, heq⟩
    · exact .inl h
    · refine .inr ⟨?_, by rw [heq]⟩
      simp only [List.length_cons]
      omega
  | case5 d s hd =>
    refine .inr ?_
    simp [quotedLength, hd]
  | case6 c d s hc rest ih =>
    simp only [List.cons_append, quotedLength, if_neg hc] at ih ⊢
    rcases ih with h | ⟨hle, heq⟩
    · exact .inl h
    · refine .inr ⟨?_, by rw [heq]⟩
      simp only [List.length_cons] at hle ⊢
      omega

private theorem bracketLength_append_space {r : Text} (hr : ']' ∉ r) (u r' : Text) :
    (bracketLength (u ++ ' ' :: r)).2 = false ∨
      (bracketLength (u ++ ' ' :: r)).1 ≤ u.length ∧
        bracketLength (u ++ ' ' :: r') = bracketLength (u ++ ' ' :: r) := by
  have hopen : ∀ s : Text, ']' ∉ s → (bracketLength s).2 = false := by
    intro s hs
    fun_induction bracketLength s with
    | case1 => rfl
    | case2 => simp at hs
    | case3 c s hc rest ih => exact ih fun hm => hs (List.mem_cons_of_mem _ hm)
  induction u with
  | nil => exact .inl (hopen _ (by simp [hr]))
  | cons c u ih =>
    by_cases hc : c = ']'
    · refine .inr ?_
      simp [bracketLength, hc]
    · simp only [List.cons_append, bracketLength, if_neg hc]
      rcases ih with h | ⟨hle, heq⟩
      · exact .inl h
      · refine .inr ⟨?_, by rw [heq]⟩
        simp only [List.length_cons]
        omega

/-- A comment that is closed before a space does not depend on what follows, and one that is left open goes
on to the end. -/
private theorem commentLength_append_space {r : Text} (hr : '*' ∉ r) (u r' : Text) :
    commentLength (u ++ ' ' :: r) = (u ++ ' ' :: r).length ∨
      commentLength (u ++ ' ' :: r) ≤ u.length ∧
        commentLength (u ++ ' ' :: r') = commentLength (u ++ ' ' :: r) := by
  have hopen : ∀ s : Text, '*' ∉ s → commentLength s = s.length := by
    intro s hs
    fun_induction commentLength s with
    | case1 => rfl
    | case2 => rfl
    | case3 c d s hc => simp [hc.1] at hs
    | case4 c d s hc ih => rw [ih fun hm => hs (List.mem_cons_of_mem _ hm)]; rfl
  fun_induction commentLength u with
  | case1 => exact .inl (hopen _ (by simp [hr]))
  | case2 c =>
    -- the last character before the space cannot close the comment with what follows
    have hstep : commentLength (c :: ' ' :: r) = commentLength (' ' :: r) + 1 := by simp [commentLength]
    refine .inl ?_
    rw [List.singleton_append, hstep, hopen _ (by simp [hr])]
    rfl
  | case3 c d s hc =>
    refine .inr ?_
    simp [commentLength, hc]
  | case4 c d s hc ih =>
    simp only [List.cons_append, commentLength, if_neg hc] at ih ⊢
    rcases ih with h | ⟨hle, heq⟩
    · refine .inl ?_
      rw [h]
      rfl
    · refine .inr ⟨?_, by rw [heq]⟩
      simp only [List.length_cons] at hle ⊢
      omega

/-- A comment up to the end of the line stops inside the beginning, or goes on to the end if no line ends behind the
space. -/
private theorem lineLength_append_space {r : Text} (hr : '\n' ∉ r) (u r' : Text) :
    countWhile (· != '\n') (u ++ ' ' :: r) = (u ++ ' ' :: r).length ∨
      countWhile (· != '\n') (u ++ ' ' :: r) < u.length ∧
        countWhile (· != '\n') (u ++ ' ' :: r') = countWhile (· != '\n') (u ++ ' ' :: r) := by
  rcases countWhile_stops (· != '\n') u (' ' :: r) (' ' :: r') with hall | hstops
  · refine .inl (countWhile_of_all fun x hx => ?_)
    rcases List.mem_append.1 hx with hx | hx
    · exact hall x hx
    · rcases List.mem_cons.1 hx with rfl | hx
      · rfl
      · simpa using fun h : x = '\n' => hr (h ▸ hx)
  · exact .inr hstops

/-! #### Numbers and variables -/

private theorem head?_append_space (u r : Text) : (u ++ ' ' :: r).head? = some (u.headD ' ') := by
  cases u <;> rfl

private theorem startsHex_append_space (u r : Text) : startsHex (u ++ ' ' :: r) = startsHex u := by
  rcases u with - | ⟨a, - | ⟨b, - | ⟨c, u⟩⟩⟩
  · rfl
  · by_cases ha : a = '0'
    · cases r <;> simp [ha, startsHex]
    · simp [ha, startsHex]
  · have hspace : isHexDigit ' ' = false := rfl
    by_cases ha : a = '0' <;> simp [ha, startsHex, hspace]
  · by_cases ha : a = '0' <;> simp [ha, startsHex]

private theorem two_le_of_startsHex {s : Text} (h : startsHex s) : 2 ≤ s.length := by
  rcases s with - | ⟨a, - | ⟨b, s⟩⟩
  · simp [startsHex] at h
  · simp [startsHex] at h
  · simp

private theorem startsExponent_append_space (u r : Text) : startsExponent (u ++ ' ' :: r) = startsExponent u := by
  rcases u with - | ⟨a, - | ⟨b, - | ⟨c, u⟩⟩⟩
  · cases r <;> simp [startsExponent]
  · simp [startsExponent]
  · simp [startsExponent]
  · simp [startsExponent]

private theorem two_le_of_startsExponent {s : Text} (h : startsExponent s) : 2 ≤ s.length := by
  rcases s with - | ⟨a, - | ⟨b, s⟩⟩
  · simp [startsExponent] at h
  · simp [startsExponent] at h
  · simp

private theorem fractionLength_le (s : Text) : fractionLength s ≤ s.length := by
  unfold fractionLength
  split
  · rename_i h
    have hrun := countWhile_le isDigitOrSeparator (s.drop 1)
    have hpos : 0 < s.length := by
      cases s with
      | nil => simp at h
      | cons c s => simp
    rw [List.length_drop] at hrun
    omega
  · exact Nat.zero_le _

private theorem fractionLength_append_space (u r : Text) : fractionLength (u ++ ' ' :: r) = fractionLength u := by
  cases u with
  | nil => rfl
  | cons c u =>
    simp only [fractionLength, List.cons_append, List.head?_cons, List.drop_succ_cons, List.drop_zero]
    rw [countWhile_append_space rfl]

private theorem exponentLength_le (s : Text) : exponentLength s ≤ s.length := by
  unfold exponentLength
  split
  · rename_i h
    have hrun := countWhile_le isDigitOrSeparator (s.drop 2)
    have htwo := two_le_of_startsExponent h
    rw [List.length_drop] at hrun
    omega
  · exact Nat.zero_le _

private theorem exponentLength_append_space (u r : Text) : exponentLength (u ++ ' ' :: r) = exponentLength u := by
  unfold exponentLength
  rw [startsExponent_append_space]
  split
  · rename_i h
    rw [List.drop_append_of_le_length (two_le_of_startsExponent h), countWhile_append_space rfl]
  · rfl

private theorem numberLength_le (s : Text) : (numberLength s).2 ≤ s.length := by
  unfold numberLength
  split
  · rename_i h
    have hrun := countWhile_le isHexOrSeparator (s.drop 2)
    have htwo := two_le_of_startsHex h
    simp only [List.length_drop] at hrun ⊢
    omega
  · have hwhole := countWhile_le isDigitOrSeparator s
    dsimp only
    generalize countWhile isDigitOrSeparator s = whole at hwhole
    have hfraction := fractionLength_le (s.drop whole)
    have hexponent := exponentLength_le ((s.drop whole).drop (fractionLength (s.drop whole)))
    simp only [List.length_drop] at hfraction hexponent
    omega

private theorem numberLength_append_space (u r : Text) : numberLength (u ++ ' ' :: r) = numberLength u := by
  unfold numberLength
  rw [startsHex_append_space]
  split
  · rename_i h
    rw [List.drop_append_of_le_length (two_le_of_startsHex h), countWhile_append_space rfl]
  · simp only [countWhile_append_space (show isDigitOrSeparator ' ' = false from rfl),
      List.drop_append_of_le_length (countWhile_le _ _), fractionLength_append_space,
      List.drop_append_of_le_length (fractionLength_le _), exponentLength_append_space]

private theorem cutNumber_append_space (u r : Text) :
    cutNumber (u ++ ' ' :: r) = cutNumber u ∧ (cutNumber u).2 ≤ u.length := by
  have hle := numberLength_le u
  have hrun := countWhile_le isNameChar (u.drop (numberLength u).2)
  rw [List.length_drop] at hrun
  constructor
  · simp only [cutNumber, numberLength_append_space, List.drop_append_of_le_length hle,
      countWhile_append_space (show isNameChar ' ' = false from rfl)]
  · simp only [cutNumber]
    omega

private theorem cutVariable_append_space (c : Char) (u r : Text) :
    cutVariable (c :: (u ++ ' ' :: r)) = cutVariable (c :: u) ∧ (cutVariable (c :: u)).2 ≤ u.length + 1 := by
  have hrun := countWhile_le isNameChar u
  constructor
  · simp only [cutVariable, List.drop_succ_cons, List.drop_zero,
      countWhile_append_space (show isNameChar ' ' = false from rfl)]
  · simp only [cutVariable, List.drop_succ_cons, List.drop_zero]
    omega

private theorem cutBlob_append_space {u : Text} (h : 2 ≤ u.length) :
    (∀ r, (cutBlob (u ++ ' ' :: r)).1 = .illegal) ∨
      (cutBlob u).2 ≤ u.length ∧ ∀ r, cutBlob (u ++ ' ' :: r) = cutBlob u := by
  have hrun := countWhile_le isHexDigit (u.drop 2)
  rw [List.length_drop] at hrun
  simp only [cutBlob, List.drop_append_of_le_length h,
    countWhile_append_space (show isHexDigit ' ' = false from rfl)]
  generalize countWhile isHexDigit (u.drop 2) = digits at hrun
  simp only [List.drop_append_of_le_length (show 2 + digits ≤ u.length by omega), head?_append_space]
  cases hrest : u.drop (2 + digits) with
  | nil => exact .inl fun r => by simp
  | cons x rest =>
    have hlen := congrArg List.length hrest
    simp only [List.length_drop, List.length_cons] at hlen
    by_cases hx : x = '\'' ∧ digits % 2 = 0
    · refine .inr ⟨?_, fun r => ?_⟩
      · simp only [List.head?_cons, Option.some.injEq, if_pos hx]
        omega
      · simp [hx]
    · exact .inl fun r => by simp [hx]

/-! #### The first piece -/

private theorem cut_cons_append_space (c : Char) (u r : Text) :
    cut (c :: (u ++ ' ' :: r)) = (opening c (some (u.headD ' ')) true).cut c (u ++ ' ' :: r) := by
  rw [cut, head?_append_space]
  congr 1
  cases u with
  | nil => simp [opening, openings]
  | cons d u =>
    have hmore : 1 < (d :: u ++ ' ' :: r).length := by
      simp only [List.length_append, List.length_cons]
      omega
    rw [decide_eq_true hmore]

/-- The first piece of a text up to a space is a blank that goes on behind the space, or is left open, or does
not depend on what follows. -/
private theorem cut_append_space (c : Char) (u : Text) {r : Text} (hr : ∀ x ∈ closers, x ∉ r) (r' : Text) :
    (∀ x ∈ c :: u, isSpace x) ∨
      (cut (c :: (u ++ ' ' :: r))).1 = .illegal ∨
      cut (c :: (u ++ ' ' :: r)) = (.blank, (c :: (u ++ ' ' :: r)).length) ∨
      (cut (c :: (u ++ ' ' :: r))).2 ≤ (c :: u).length ∧
        cut (c :: (u ++ ' ' :: r')) = cut (c :: (u ++ ' ' :: r)) := by
  simp only [cut_cons_append_space, List.length_cons]
  cases ho : opening c (some (u.headD ' ')) true with
  | space =>
    have hc : isSpace c := by simpa [openings] using mem_openings ho (by decide)
    simp only [Opening.cut]
    rcases countWhile_stops isSpace u (' ' :: r) (' ' :: r') with hall | ⟨hlt, heq⟩
    · exact .inl (List.forall_mem_cons.2 ⟨hc, hall⟩)
    · exact .inr (.inr (.inr ⟨by omega, by rw [heq]⟩))
  | lineComment =>
    simp only [Opening.cut]
    rcases lineLength_append_space (hr '\n' (by decide)) u r' with h | ⟨hlt, heq⟩
    · exact .inr (.inr (.inl (by rw [h, Nat.add_comm])))
    · exact .inr (.inr (.inr ⟨by omega, by rw [heq]⟩))
  | comment =>
    have hnext : c = '/' ∧ u.headD ' ' = '*' := by simpa [openings] using mem_openings ho (by decide)
    cases u with
    | nil => simp at hnext
    | cons d u =>
      simp only [Opening.cut, List.cons_append, List.drop_succ_cons, List.drop_zero, List.length_cons]
      rcases commentLength_append_space (hr '*' (by decide)) u r' with h | ⟨hle, heq⟩
      · exact .inr (.inr (.inl (by rw [h, Nat.add_comm])))
      · exact .inr (.inr (.inr ⟨by omega, by rw [heq]⟩))
  | quote =>
    have hc : (c = '\'' ∨ c = '"') ∨ c = '`' := by simpa [openings] using mem_openings ho (by decide)
    have hclosers : c ≠ ' ' ∧ c ∈ closers := by rcases hc with (rfl | rfl) | rfl <;> decide
    simp only [Opening.cut]
    rcases quotedLength_append_space hclosers.1 (hr c hclosers.2) u r' with h | ⟨hle, heq⟩
    · exact .inr (.inl (by simp [h]))
    · exact .inr (.inr (.inr ⟨by omega, by rw [heq]⟩))
  | bracket =>
    simp only [Opening.cut]
    rcases bracketLength_append_space (hr ']' (by decide)) u r' with h | ⟨hle, heq⟩
    · exact .inr (.inl (by simp [h]))
    · exact .inr (.inr (.inr ⟨by omega, by rw [heq]⟩))
  | number =>
    have hnumber := cutNumber_append_space (c :: u)
    simp only [Opening.cut, ← List.cons_append]
    rw [(hnumber r).1, (hnumber r').1]
    exact .inr (.inr (.inr ⟨(hnumber r).2, rfl⟩))
  | blob =>
    have hnext : (c = 'x' ∨ c = 'X') ∧ u.headD ' ' = '\'' := by simpa [openings] using mem_openings ho (by decide)
    have hlength : 2 ≤ (c :: u).length := by
      cases u with
      | nil => simp at hnext
      | cons d u => simp
    simp only [Opening.cut, ← List.cons_append]
    rcases cutBlob_append_space hlength with h | ⟨hle, heq⟩
    · exact .inr (.inl (h r))
    · exact .inr (.inr (.inr ⟨by rw [heq r]; exact hle, by rw [heq r, heq r']⟩))
  | word =>
    simp only [Opening.cut, countWhile_append_space (show isNameChar ' ' = false from rfl)]
    have hrun := countWhile_le isNameChar u
    exact .inr (.inr (.inr ⟨by omega, trivial⟩))
  | numbered =>
    simp only [Opening.cut, countWhile_append_space (show Char.isDigit ' ' = false from rfl)]
    have hrun := countWhile_le Char.isDigit u
    exact .inr (.inr (.inr ⟨by omega, trivial⟩))
  | named =>
    simp only [Opening.cut, (cutVariable_append_space c u _).1]
    exact .inr (.inr (.inr ⟨(cutVariable_append_space c u r).2, trivial⟩))
  | pair =>
    have hnext : isPair c (u.headD ' ') := by simpa [openings] using mem_openings ho (by decide)
    cases u with
    | nil => simp [isPair] at hnext
    | cons d u => exact .inr (.inr (.inr ⟨by simp [Opening.cut], rfl⟩))
  | mark | single => exact .inr (.inr (.inr ⟨by simp [Opening.cut], rfl⟩))
  | other => exact .inr (.inl rfl)

/-- The content behind a first piece that ends before a space. -/
private theorem content_of_cut {c : Char} {u s : Text} {kind : Kind} {length : Nat}
    (h : cut (c :: (u ++ ' ' :: s)) = (kind, length)) (hle : length ≤ (c :: u).length) :
    content (c :: u ++ ' ' :: s) =
      (if kind = .blank then [] else [(kind, (c :: u).take length)]) ++ content ((c :: u).drop length ++ ' ' :: s) := by
  have hdrop : (c :: (u ++ ' ' :: s)).drop length = (c :: u).drop length ++ ' ' :: s := by
    rw [← List.cons_append, List.drop_append_of_le_length hle]
  have htake : (c :: (u ++ ' ' :: s)).take length = (c :: u).take length := by
    rw [← List.cons_append, List.take_append_of_le_length hle]
  rw [List.cons_append]
  by_cases hkind : kind = .blank
  · rw [content_of_blank (by rw [h, hkind]), h, hdrop, if_pos hkind, List.nil_append]
  · rw [content_of_lexeme (by rwa [h]), h, hdrop, htake, if_neg hkind, List.singleton_append]

/-- Two texts that begin alike up to a space have contents that begin alike.  What is different belongs to what
stands behind the space, unless the first of the two leaves a quote or a comment of its beginning open. -/
theorem content_append_space (u : Text) {r : Text} (hr : ∀ x ∈ closers, x ∉ r) (r' : Text) :
    ∃ common behind behind', content (u ++ ' ' :: r) = common ++ behind ∧
      content (u ++ ' ' :: r') = common ++ behind' ∧
      (behind = content r ∧ behind' = content r' ∨ ∀ p ∈ behind.head?, p.1 = .illegal) := by
  obtain ⟨n, hn⟩ : ∃ n, u.length ≤ n := ⟨_, Nat.le_refl _⟩
  induction n generalizing u with
  | zero =>
    rw [List.eq_nil_of_length_eq_zero (Nat.le_zero.1 hn)]
    exact ⟨[], content r, content r', content_space r, content_space r', .inl ⟨rfl, rfl⟩⟩
  | succ n ih =>
    cases u with
    | nil => exact ih [] (Nat.zero_le _)
    | cons c u =>
      rcases cut_append_space c u hr r' with h | h | h | ⟨hle, heq⟩
      · -- nothing but blanks is left of the beginning
        have hspaces : ∀ s, content (c :: u ++ ' ' :: s) = content s := by
          intro s
          have hall : ∀ x ∈ c :: u ++ [' '], isSpace x := by
            intro x hx
            rcases List.mem_append.1 hx with hx | hx
            · exact h x hx
            · rw [List.mem_singleton.1 hx]
              rfl
          simpa using content_append_of_spaces hall s
        exact ⟨[], content r, content r', hspaces r, hspaces r', .inl ⟨rfl, rfl⟩⟩
      · -- a quote is left open
        refine ⟨[], content (c :: u ++ ' ' :: r), content (c :: u ++ ' ' :: r'), rfl, rfl, .inr fun p hp => ?_⟩
        rw [List.cons_append, content_of_lexeme (by simp [h]), List.head?_cons, Option.mem_some_iff] at hp
        rw [← hp, h]
      · -- a comment is left open
        refine ⟨[], content (c :: u ++ ' ' :: r), content (c :: u ++ ' ' :: r'), rfl, rfl, .inr fun p hp => ?_⟩
        rw [List.cons_append, content_of_blank (by simp [h]), h, List.drop_length] at hp
        simp at hp
      · -- the first piece is the same in both texts, and what is left of the beginning is shorter
        have hpos := cut_pos c (u ++ ' ' :: r)
        generalize hcut : cut (c :: (u ++ ' ' :: r)) = piece at hpos hle heq
        have hdrop : ((c :: u).drop piece.2).length ≤ n := by
          simp only [List.length_drop, List.length_cons] at hn ⊢
          omega
        obtain ⟨common, behind, behind', h, h', hend⟩ := ih _ hdrop
        refine ⟨(if piece.1 = .blank then [] else [(piece.1, (c :: u).take piece.2)]) ++ common, behind, behind',
          ?_, ?_, hend⟩
        · rw [content_of_cut hcut hle, h, List.append_assoc]
        · rw [content_of_cut heq hle, h', List.append_assoc]

/-! ### Words -/

theorem isDigit_of_isAlpha {c : Char} (h : c.isAlpha) : c.isDigit = false := by
  rw [Bool.eq_false_iff, Ne, Char.isDigit_iff_toNat]
  rintro ⟨-, hlast⟩
  have hc : 'A'.toNat ≤ c.toNat := by
    rcases Bool.or_eq_true_iff.1 h with h | h
    · have hupper : 'A'.val ≤ c.val := (of_decide_eq_true h).1
      exact UInt32.le_iff_toNat_le.1 hupper
    · have hlower : 'a'.val ≤ c.val := of_decide_eq_true (Bool.and_eq_true_iff.1 h).1
      exact Nat.le_trans (by decide) (UInt32.le_iff_toNat_le.1 hlower)
  exact absurd (Nat.le_trans hc hlast) (by decide)

theorem opening_word {c : Char} (h : c.isAlpha || c = '_') {next : Option Char} (hnext : next ≠ some '\'')
    (more : Bool) : opening c next more = .word := by
  have hne : ∀ x : Char, x.isAlpha = false → x ≠ '_' → c ≠ x := by
    rintro x hx hx' rfl
    simp [hx, hx'] at h
  have hdigit : c.isDigit = false := by
    rcases Bool.or_eq_true_iff.1 h with h | h
    · exact isDigit_of_isAlpha h
    · rw [of_decide_eq_true h]
      rfl
  have hspace : isSpace c = false := by
    simp [isSpace, hne]
  have hstart : isNameStart c := by
    simp only [isNameStart, h, Bool.true_or]
  simp [opening, openings, hspace, hdigit, hstart, hnext, hne]

/-- A name that needs no quotes: a letter or an underscore, and characters that can stand in names. -/
def BareName : Text → Prop
  | [] => False
  | c :: w => (c.isAlpha || c = '_') ∧ w.all isNameChar

instance (s : Text) : Decidable (BareName s) := by
  cases s <;> unfold BareName <;> infer_instance

/-- A bare name in front of a space is a lexeme by itself. -/
theorem content_word {w : Text} (hw : BareName w) (s : Text) :
    content (w ++ ' ' :: s) = (.word, w) :: content s := by
  cases w with
  | nil => exact hw.elim
  | cons c w =>
    obtain ⟨hc, hw⟩ := hw
    rw [List.all_eq_true] at hw
    have hnext : some (w.headD ' ') ≠ some '\'' := by
      cases w with
      | nil => simp
      | cons d w =>
        intro h
        have hd := hw d (List.mem_cons_self ..)
        rw [List.headD_cons, Option.some.injEq] at h
        rw [h] at hd
        exact absurd hd (by decide)
    have hcut : cut (c :: (w ++ ' ' :: s)) = (.word, (c :: w).length) := by
      rw [cut_cons_append_space, opening_word hc hnext, Opening.cut,
        countWhile_append_space (show isNameChar ' ' = false from rfl), countWhile_of_all hw, Nat.add_comm]
      rfl
    rw [List.cons_append, content_of_lexeme (by simp [hcut]), hcut, ← List.cons_append, List.drop_left,
      List.take_left, content_space]

theorem content_parenthesis (s : Text) : content ('(' :: s) = (.symbol, ['(']) :: content s := by
  have hopening : ∀ next more, opening '(' next more = .single := by
    intro next more
    have hpair : next.any (isPair '(') = false := by
      cases next with
      | none => rfl
      | some d => simp [isPair]
    have hspace : isSpace '(' = false := rfl
    have hstart : isNameStart '(' = false := rfl
    have hsymbol : isSymbol '(' := rfl
    simp [opening, openings, hpair, hspace, hstart, hsymbol]
  have hcut : cut ('(' :: s) = (.symbol, 1) := by
    rw [cut, hopening, Opening.cut]
  rw [content_of_lexeme (by simp [hcut]), hcut]
  rfl

/-! ### Statements -/

private theorem bare_numberFrom (names : List (Text × Nat)) (highest : Nat) (ls : List Lexeme) :
    (numberFrom names highest ls).map Lexeme.bare = ls.map Lexeme.bare := by
  induction ls generalizing names highest with
  | nil => rfl
  | cons l ls ih =>
    rw [numberFrom]
    split
    · simp only [List.map_cons, ih]
      rfl
    · rw [List.map_cons, ih, List.map_cons]

theorem bare_placeFrom (lead : Text) (offset : Nat) (ps : List (Kind × Text)) :
    (placeFrom lead offset ps).map Lexeme.bare = ps.filter (·.1 != .blank) ++ [(.finish, [])] := by
  fun_induction placeFrom lead offset ps with
  | case1 => rfl
  | case2 lead offset text rest ih => simpa using ih
  | case3 lead offset kind text rest hkind ih =>
    rw [List.map_cons, ih, List.filter_cons_of_pos (by simpa using hkind)]
    rfl

/-- The lexemes of a statement are its content up to a null character, and the mark of its end. -/
theorem bare_lexemes (sql : Text) :
    (lexemes sql).map Lexeme.bare = content (sql.takeWhile (·.toNat != 0)) ++ [(.finish, [])] := by
  rw [lexemes, bare_numberFrom, bare_placeFrom]
  rfl

theorem BareName.not_null {w : Text} (hw : BareName w) : ∀ x ∈ w, x.toNat != 0 := by
  cases w with
  | nil => exact hw.elim
  | cons c w =>
    have hnull : ∀ x : Char, x.toNat = 0 → x = '\x00' := fun x hx => Char.ext (UInt32.toNat_inj.1 hx)
    intro x hx
    rw [bne_iff_ne]
    intro h0
    rw [hnull x h0] at hx
    rcases List.mem_cons.1 hx with hx | hx
    · exact absurd hw.1 (by rw [← hx]; decide)
    · exact absurd (List.all_eq_true.1 hw.2 _ hx) (by decide)

/-- The lexemes of a statement that begins with two bare words. -/
theorem lexemes_words {v w : Text} (hv : BareName v) (hw : BareName w) (s : Text) :
    ∃ first second rest, lexemes (v ++ ' ' :: (w ++ ' ' :: s)) = first :: second :: rest ∧
      first.bare = (.word, v) ∧ second.bare = (.word, w) ∧
      rest.map Lexeme.bare = content (s.takeWhile (·.toNat != 0)) ++ [(.finish, [])] := by
  have hspace : ∀ t : Text, (' ' :: t).takeWhile (·.toNat != 0) = ' ' :: t.takeWhile (·.toNat != 0) := fun t =>
    List.takeWhile_cons_of_pos rfl
  have hbare := bare_lexemes (v ++ ' ' :: (w ++ ' ' :: s))
  rw [List.takeWhile_append_of_pos hv.not_null, hspace, List.takeWhile_append_of_pos hw.not_null, hspace,
    content_word hv, content_word hw, List.cons_append, List.cons_append, List.map_eq_cons_iff] at hbare
  obtain ⟨first, rest, h, hfirst, hbare⟩ := hbare
  obtain ⟨second, rest, rfl, hsecond, hbare⟩ := List.map_eq_cons_iff.1 hbare
  exact ⟨first, second, rest, h, hfirst, hsecond, hbare⟩

end SheetQuery.Sql
