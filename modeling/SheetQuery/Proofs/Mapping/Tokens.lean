import SheetQuery.Proofs.Mapping.Candidates
import SheetQuery.Proofs.Text.Replacement

/-!
# Statements made of headers

A statement whose headers stand apart, bare or between quotes, comes out with each header replaced by its own
identifier, whatever other headers are kept.

* `replaceAll_render`: one replacement, in a statement of which some headers are replaced already.
* `substituteLabel_render`: the replacements of one header, in all its forms.
* `foldl_render`: those of a list of entries in which no header comes before one that it stands inside of.
* `substituteIn_text`: all of them, in an order of that kind.
* `substitute_tokens`: the order of `substitute` is one.
-/

namespace SheetQuery

/-- A header in a statement: bare, or between two quotes. -/
structure Token where
  label : Text
  quote : Option Char
deriving DecidableEq

def Token.text (t : Token) : Text :=
  match t.quote with
  | none => t.label
  | some q => q :: (t.label ++ [q])

/-- A statement made of headers: the text in front of the first one, and each header with the text behind it. -/
structure TokenText where
  front : Text
  parts : List (Token × Text)

namespace TokenText

/-- Headers with text around them, when `written` stands for each header. -/
def render (written : Token → Text) : Text → List (Token × Text) → Text
  | gap, [] => gap
  | gap, (t, next) :: rest => gap ++ written t ++ render written next rest

def text (s : TokenText) : Text := render Token.text s.front s.parts

/-- The statement with other texts in the place of its headers. -/
def replaced (s : TokenText) (identifier : Text → Text) : Text :=
  render (fun t => identifier t.label) s.front s.parts

end TokenText

/-- The quotes that a header can stand between. -/
def labelQuotes : List Char := ['`', '"', '\'']

namespace HeaderMappings

/-- Headers can be told from identifiers by their Han characters. -/
structure Protected (m : HeaderMappings) : Prop where
  labels : ∀ e ∈ m.entries, e.label ≠ [] → Text.hasHan e.label
  identifiers : ∀ e ∈ m.entries, Text.hasHan e.identifier = false

instance (m : HeaderMappings) : Decidable m.Protected :=
  decidable_of_iff ((∀ e ∈ m.entries, e.label ≠ [] → Text.hasHan e.label) ∧ ∀ e ∈ m.entries, Text.hasHan e.identifier = false)
    ⟨fun h => ⟨h.1, h.2⟩, fun h => ⟨h.1, h.2⟩⟩

/-- The character stands in no header and is no quote. -/
def Separating (m : HeaderMappings) (c : Char) : Prop := c ∉ labelQuotes ∧ ∀ e ∈ m.entries, c ∉ e.label

instance (m : HeaderMappings) : DecidablePred m.Separating := fun c =>
  inferInstanceAs (Decidable (c ∉ labelQuotes ∧ ∀ e ∈ m.entries, c ∉ e.label))

end HeaderMappings

namespace TokenText

/-- The texts between headers are not empty, and they touch the headers with characters that satisfy `p`. -/
def Apart (p : Char → Prop) : Text → List (Token × Text) → Prop
  | _, [] => True
  | gap, (_, next) :: rest =>
    (∀ c ∈ gap.getLast?, p c) ∧ (∀ c ∈ next.head?, p c) ∧ (rest ≠ [] → next ≠ []) ∧ Apart p next rest

instance decidableApart (p : Char → Prop) [DecidablePred p] :
    (gap : Text) → (parts : List (Token × Text)) → Decidable (Apart p gap parts)
  | _, [] => .isTrue trivial
  | gap, (_, next) :: rest =>
    have := decidableApart p next rest
    -- the characters at the edges are looked at; no search goes through all characters
    have : Decidable (∀ c ∈ gap.getLast?, p c) := Option.decidableForallMem _
    have : Decidable (∀ c ∈ next.head?, p c) := Option.decidableForallMem _
    inferInstanceAs (Decidable ((∀ c ∈ gap.getLast?, p c) ∧ (∀ c ∈ next.head?, p c) ∧ (rest ≠ [] → next ≠ []) ∧
      Apart p next rest))

/-- The headers of the statement stand apart: each is kept by the store, its quotes stand in no header, and
what is between them has no Han characters and touches them with separating characters only. -/
structure Separated (s : TokenText) (m : HeaderMappings) : Prop where
  kept : ∀ p ∈ s.parts, p.1.label ≠ [] ∧ ∃ e ∈ m.entries, e.label = p.1.label
  quoted : ∀ p ∈ s.parts, ∀ q ∈ p.1.quote, q ∈ labelQuotes ∧ ∀ e ∈ m.entries, q ∉ e.label
  front : Text.hasHan s.front = false
  gaps : ∀ p ∈ s.parts, Text.hasHan p.2 = false
  apart : Apart m.Separating s.front s.parts

instance (s : TokenText) (m : HeaderMappings) : Decidable (s.Separated m) :=
  have (p : Token × Text) : Decidable (∀ q ∈ p.1.quote, q ∈ labelQuotes ∧ ∀ e ∈ m.entries, q ∉ e.label) :=
    Option.decidableForallMem _
  decidable_of_iff ((∀ p ∈ s.parts, p.1.label ≠ [] ∧ ∃ e ∈ m.entries, e.label = p.1.label) ∧
      (∀ p ∈ s.parts, ∀ q ∈ p.1.quote, q ∈ labelQuotes ∧ ∀ e ∈ m.entries, q ∉ e.label) ∧
      Text.hasHan s.front = false ∧ (∀ p ∈ s.parts, Text.hasHan p.2 = false) ∧ Apart m.Separating s.front s.parts)
    ⟨fun h => ⟨h.1, h.2.1, h.2.2.1, h.2.2.2.1, h.2.2.2.2⟩, fun h => ⟨h.kept, h.quoted, h.front, h.gaps, h.apart⟩⟩

/-! ### One replacement -/

private theorem exists_han {s : Text} (h : Text.hasHan s) : ∃ x ∈ s, Text.isHan x := by
  simpa [Text.hasHan] using h

private theorem han_not_mem {s : Text} (h : Text.hasHan s = false) {x : Char} (hx : Text.isHan x) : x ∉ s := by
  intro hm
  simp only [Text.hasHan, List.any_eq_false] at h
  exact h x hm hx

private theorem head?_render {written : Token → Text} {gap : Text} {parts : List (Token × Text)}
    (h : parts ≠ [] → gap ≠ []) : (render written gap parts).head? = gap.head? := by
  cases parts with
  | nil => rfl
  | cons p rest =>
    cases gap with
    | nil => exact absurd rfl (h (by simp))
    | cons c gap => rfl

/-- What holds of the identifiers that stand already and of the next one holds after the next replacement. -/
private theorem of_mem_or_ite {p : Text → Prop} {o : Option Text} {identifier : Text} {c : Prop} [Decidable c]
    (ho : ∀ i ∈ o, p i) (hidentifier : p identifier) :
    ∀ i ∈ o.or (if c then some identifier else none), p i := by
  intro i hi
  cases o with
  | some j => exact ho i hi
  | none =>
    rw [Option.none_or] at hi
    split at hi
    · exact Option.mem_some_iff.1 hi ▸ hidentifier
    · cases hi

/-- A header as it stands in a statement of which the headers in `done` are replaced. -/
def standing (done : Token → Option Text) (t : Token) : Text := (done t).getD t.text

/-- A pattern that no gap and no identifier can share a place with, and that stands in a header only if it is all
of it, replaces just those headers. -/
theorem replaceAll_render {pattern replacement : Text} {done : Token → Option Text} {gap : Text}
    {parts : List (Token × Text)} (hpattern : Text.hasHan pattern)
    (hgap : Text.hasHan gap = false) (hgaps : ∀ p ∈ parts, Text.hasHan p.2 = false)
    (hdone : ∀ p ∈ parts, ∀ identifier ∈ done p.1, Text.hasHan identifier = false)
    (hapart : Apart (· ∉ pattern) gap parts)
    (hwhole : ∀ p ∈ parts, done p.1 = none → pattern <:+: p.1.text → pattern = p.1.text) :
    Text.replaceAll pattern replacement (render (standing done) gap parts) =
      render (standing fun t => (done t).or (if pattern = t.text then some replacement else none)) gap parts := by
  obtain ⟨x, hx, hhan⟩ := exists_han hpattern
  induction parts generalizing gap with
  | nil =>
    have habsent : Text.Absent pattern gap [] := Text.absent_of_getLast hx (han_not_mem hgap hhan) (.inl rfl)
    simpa [render, Text.replaceAll, Text.replaceFrom] using Text.replaceAll_append habsent replacement
  | cons p parts ih =>
    obtain ⟨t, next⟩ := p
    obtain ⟨hlast, hhead, hne, hrest⟩ := hapart
    have hnext := ih (hgaps (t, next) (List.mem_cons_self ..)) (fun p hp => hgaps p (List.mem_cons_of_mem _ hp))
      (fun p hp => hdone p (List.mem_cons_of_mem _ hp)) hrest (fun p hp => hwhole p (List.mem_cons_of_mem _ hp))
    have hfront : ∀ v, Text.Absent pattern gap v := fun v =>
      Text.absent_of_getLast hx (han_not_mem hgap hhan) (.inr hlast)
    -- what stands in the place of `t` is passed over unless it is the pattern
    have hpass : ∀ u, ¬ pattern <:+: u → Text.Absent pattern u (render (standing done) next parts) := fun u hu =>
      Text.absent_of_head hu (by rw [head?_render hne]; exact hhead)
    simp only [render, List.append_assoc]
    rw [Text.replaceAll_append (hfront _)]
    congr 1
    cases hd : done t with
    | some identifier =>
      have hid : ¬ pattern <:+: identifier := fun h =>
        han_not_mem (hdone (t, next) (List.mem_cons_self ..) identifier hd) hhan (h.subset hx)
      simp only [standing, hd, Option.getD_some, Option.some_or] at hpass hnext ⊢
      rw [Text.replaceAll_append (hpass _ hid), hnext]
    | none =>
      by_cases ht : pattern = t.text
      · simp only [standing, hd, Option.getD_none, Option.none_or, if_pos ht, Option.getD_some] at hnext ⊢
        rw [← ht, Text.replaceAll_pattern_append (List.ne_nil_of_mem hx), hnext]
      · have hnot : ¬ pattern <:+: t.text := fun h => ht (hwhole (t, next) (List.mem_cons_self ..) hd h)
        simp only [standing, hd, Option.getD_none, Option.none_or, if_neg ht] at hpass hnext ⊢
        rw [Text.replaceAll_append (hpass _ hnot), hnext]

/-! ### All forms of a header -/

theorem Apart.imp {p q : Char → Prop} (h : ∀ c, p c → q c) {gap : Text} {parts : List (Token × Text)}
    (hp : Apart p gap parts) : Apart q gap parts := by
  induction parts generalizing gap with
  | nil => trivial
  | cons part parts ih =>
    obtain ⟨hlast, hhead, hne, hrest⟩ := hp
    exact ⟨fun c hc => h c (hlast c hc), fun c hc => h c (hhead c hc), hne, ih hrest⟩

theorem render_congr {written written' : Token → Text} {gap : Text} {parts : List (Token × Text)}
    (h : ∀ p ∈ parts, written p.1 = written' p.1) : render written gap parts = render written' gap parts := by
  induction parts generalizing gap with
  | nil => rfl
  | cons p parts ih =>
    obtain ⟨t, next⟩ := p
    have ht : written t = written' t := h (t, next) (List.mem_cons_self ..)
    simp only [render, ht, ih fun p hp => h p (List.mem_cons_of_mem _ hp)]

/-- The first of the forms that stands in the text is all of it. -/
def FirstWhole : List Text → Text → Prop
  | [], _ => True
  | form :: forms, s => (form <:+: s → form = s) ∧ (form ≠ s → FirstWhole forms s)

theorem foldl_replaceAll_render {forms : List Text} {identifier : Text} {done : Token → Option Text} {gap : Text}
    {parts : List (Token × Text)} (hidentifier : Text.hasHan identifier = false)
    (hforms : ∀ form ∈ forms, Text.hasHan form ∧ Apart (· ∉ form) gap parts)
    (hgap : Text.hasHan gap = false) (hgaps : ∀ p ∈ parts, Text.hasHan p.2 = false)
    (hdone : ∀ p ∈ parts, ∀ i ∈ done p.1, Text.hasHan i = false)
    (hwhole : ∀ p ∈ parts, done p.1 = none → FirstWhole forms p.1.text) :
    forms.foldl (fun s form => Text.replaceAll form identifier s) (render (standing done) gap parts) =
      render (standing fun t => (done t).or (if t.text ∈ forms then some identifier else none)) gap parts := by
  induction forms generalizing done with
  | nil => simp
  | cons form forms ih =>
    obtain ⟨hhan, hapart⟩ := hforms form (List.mem_cons_self ..)
    rw [List.foldl_cons, replaceAll_render hhan hgap hgaps hdone hapart fun p hp hd => (hwhole p hp hd).1,
      ih fun f hf => hforms f (List.mem_cons_of_mem _ hf)]
    · congr 2
      funext t
      rw [Option.or_assoc]
      congr 1
      by_cases h : form = t.text
      · simp [h]
      · simp [h, Ne.symm h]
    · exact fun p hp => of_mem_or_ite (hdone p hp) hidentifier
    · intro p hp hd
      obtain ⟨hd, hne⟩ := Option.or_eq_none_iff.1 hd
      exact (hwhole p hp hd).2 fun h => by simp [h] at hne

/-- A form of the header between quotes can only be the whole of a header as it is written. -/
private theorem quoted_form_whole {label : Text} {t : Token}
    (hquote : ∀ q ∈ t.quote, q ∉ label) (hinside : label <:+: t.label → label = t.label) {q : Char}
    (h : q :: (label ++ [q]) <:+: t.text) : q :: (label ++ [q]) = t.text := by
  have hsub : label <:+: q :: (label ++ [q]) := ⟨[q], [q], by simp⟩
  obtain ⟨l, quote⟩ := t
  cases quote with
  | none =>
    -- a bare header is too short to have quotes around it
    have hlen := h.length_le
    rw [hinside (hsub.trans h)] at hlen
    simp only [Token.text, List.length_cons, List.length_append] at hlen
    omega
  | some q' =>
    have hl : label = l := hinside (Text.infix_of_infix_quoted (hquote q' rfl) (hsub.trans h))
    exact h.eq_of_length (by simp [Token.text, hl])

private theorem text_mem_surfaceForms {label : Text} {t : Token}
    (hquote : ∀ q ∈ t.quote, q ∈ labelQuotes ∧ q ∉ label) (hinside : label <:+: t.label → label = t.label) :
    t.text ∈ surfaceForms label ↔ t.label = label := by
  obtain ⟨l, quote⟩ := t
  cases quote with
  | none =>
    have hne : ∀ q : Char, l ≠ q :: (label ++ [q]) := by
      intro q h
      have hl : label = l := hinside ⟨[q], [q], by simp [h]⟩
      have hlen := congrArg List.length h
      simp only [hl, List.length_cons, List.length_append] at hlen
      omega
    simp [Token.text, surfaceForms, hne]
  | some q' =>
    obtain ⟨hq, hmem⟩ := hquote q' rfl
    have hne : q' :: (l ++ [q']) ≠ label := fun h => hmem (by simp [← h])
    simp only [labelQuotes, List.mem_cons, List.not_mem_nil, or_false] at hq
    rcases hq with rfl | rfl | rfl <;> simp [Token.text, surfaceForms, hne]

private theorem firstWhole_surfaceForms {label : Text} {t : Token}
    (hquote : ∀ q ∈ t.quote, q ∈ labelQuotes ∧ q ∉ label) (hinside : label <:+: t.label → label = t.label) :
    FirstWhole (surfaceForms label) t.text := by
  have hquoted : ∀ q : Char, q :: (label ++ [q]) <:+: t.text → q :: (label ++ [q]) = t.text := fun q =>
    quoted_form_whole (fun q hq => (hquote q hq).2) hinside
  refine ⟨hquoted '`', fun h₁ => ⟨hquoted '"', fun h₂ => ⟨hquoted '\'', fun h₃ => ⟨fun h => ?_, fun _ => trivial⟩⟩⟩⟩
  -- the bare header stands in `t`, and `t` is none of the quoted forms
  obtain ⟨l, quote⟩ := t
  cases quote with
  | none => exact hinside h
  | some q =>
    obtain ⟨hq, hmem⟩ := hquote q rfl
    have hl : label = l := hinside (Text.infix_of_infix_quoted hmem h)
    subst hl
    simp only [labelQuotes, List.mem_cons, List.not_mem_nil, or_false] at hq
    rcases hq with rfl | rfl | rfl
    · exact absurd rfl h₁
    · exact absurd rfl h₂
    · exact absurd rfl h₃

/-- The replacements of one header, in a statement in which the headers of `done` are replaced already and
`label` stands inside no other of those that are left. -/
theorem substituteLabel_render {label identifier : Text} {done : Token → Option Text} {gap : Text}
    {parts : List (Token × Text)} (hlabel : Text.hasHan label) (hidentifier : Text.hasHan identifier = false)
    (hgap : Text.hasHan gap = false) (hgaps : ∀ p ∈ parts, Text.hasHan p.2 = false)
    (hdone : ∀ p ∈ parts, ∀ i ∈ done p.1, Text.hasHan i = false)
    (hapart : Apart (fun c => c ∉ labelQuotes ∧ c ∉ label) gap parts)
    (hquote : ∀ p ∈ parts, ∀ q ∈ p.1.quote, q ∈ labelQuotes ∧ q ∉ label)
    (hinside : ∀ p ∈ parts, done p.1 = none → label <:+: p.1.label → label = p.1.label) :
    substituteLabel (render (standing done) gap parts) label identifier =
      render (standing fun t => (done t).or (if t.label = label then some identifier else none)) gap parts := by
  obtain ⟨x, hx, hhan⟩ := exists_han hlabel
  have hforms : ∀ form ∈ surfaceForms label, Text.hasHan form ∧ Apart (· ∉ form) gap parts := by
    intro form hform
    have hmem : x ∈ form ∧ ∀ c, c ∉ labelQuotes ∧ c ∉ label → c ∉ form := by
      simp only [surfaceForms, List.mem_cons, List.not_mem_nil, or_false] at hform
      rcases hform with rfl | rfl | rfl | rfl <;> simp_all [labelQuotes]
    exact ⟨List.any_eq_true.2 ⟨x, hmem.1, hhan⟩, hapart.imp hmem.2⟩
  have hwhole : ∀ p ∈ parts, done p.1 = none → FirstWhole (surfaceForms label) p.1.text := fun p hp hd =>
    firstWhole_surfaceForms (hquote p hp) (hinside p hp hd)
  refine (foldl_replaceAll_render hidentifier hforms hgap hgaps hdone hwhole).trans (render_congr fun p hp => ?_)
  cases hd : done p.1 with
  | some i => simp [standing, hd]
  | none => simp only [standing, hd, text_mem_surfaceForms (hquote p hp) (hinside p hp hd)]

/-! ### A list of entries -/

private theorem infix_render {written : Token → Text} {gap : Text} {parts : List (Token × Text)}
    {p : Token × Text} (hp : p ∈ parts) : written p.1 <:+: render written gap parts := by
  induction parts generalizing gap with
  | nil => cases hp
  | cons part parts ih =>
    obtain ⟨t, next⟩ := part
    rcases List.mem_cons.1 hp with rfl | hp
    · exact ⟨gap, render written next parts, rfl⟩
    · exact (ih hp).trans (List.suffix_append (gap ++ written t) _).isInfix

private theorem label_infix_text (t : Token) : t.label <:+: t.text := by
  obtain ⟨label, quote⟩ := t
  cases quote with
  | none => exact List.infix_rfl
  | some q => exact ⟨[q], [q], by simp [Token.text]⟩

/-- The turn of one entry: its header gets the identifier wherever it still stands. -/
private theorem turn_render {e : Mapping} {done : Token → Option Text} {gap : Text} {parts : List (Token × Text)}
    (hlabel : Text.hasHan e.label) (hidentifier : Text.hasHan e.identifier = false)
    (hgap : Text.hasHan gap = false) (hgaps : ∀ p ∈ parts, Text.hasHan p.2 = false)
    (hdone : ∀ p ∈ parts, ∀ i ∈ done p.1, Text.hasHan i = false)
    (hapart : Apart (fun c => c ∉ labelQuotes ∧ c ∉ e.label) gap parts)
    (hquote : ∀ p ∈ parts, ∀ q ∈ p.1.quote, q ∈ labelQuotes ∧ q ∉ e.label)
    (hinside : ∀ p ∈ parts, done p.1 = none → e.label <:+: p.1.label → e.label = p.1.label) :
    (if Text.occursIn e.label (render (standing done) gap parts) then
        substituteLabel (render (standing done) gap parts) e.label e.identifier
      else render (standing done) gap parts) =
      render (standing fun t => (done t).or (if t.label = e.label then some e.identifier else none)) gap parts := by
  split
  · exact substituteLabel_render hlabel hidentifier hgap hgaps hdone hapart hquote hinside
  · -- the header is not there, so there is none to replace
    rename_i hnot
    refine render_congr fun p hp => ?_
    cases hd : done p.1 with
    | some i => simp [standing, hd]
    | none =>
      have hne : p.1.label ≠ e.label := by
        intro hl
        refine hnot (Text.occursIn_iff.2 ?_)
        have hstands : standing done p.1 = p.1.text := by simp [standing, hd]
        exact hl ▸ (label_infix_text p.1).trans (hstands ▸ infix_render hp)
      simp [standing, hd, hne]

/-- The replacements of a list of entries in which no header comes before one that it stands inside of.  Each
header of the statement gets the identifier of its first entry. -/
theorem foldl_render {entries : List Mapping} {done : Token → Option Text} {gap : Text}
    {parts : List (Token × Text)}
    (horder : entries.Pairwise fun a b => a.label <:+: b.label → a.label = b.label)
    (hhan : ∀ e ∈ entries, Text.hasHan e.label ∧ Text.hasHan e.identifier = false)
    (hgap : Text.hasHan gap = false) (hgaps : ∀ p ∈ parts, Text.hasHan p.2 = false)
    (hdone : ∀ p ∈ parts, ∀ i ∈ done p.1, Text.hasHan i = false)
    (hapart : ∀ e ∈ entries, Apart (fun c => c ∉ labelQuotes ∧ c ∉ e.label) gap parts)
    (hquote : ∀ e ∈ entries, ∀ p ∈ parts, ∀ q ∈ p.1.quote, q ∈ labelQuotes ∧ q ∉ e.label)
    (hleft : ∀ p ∈ parts, done p.1 = none → ∃ e ∈ entries, e.label = p.1.label) :
    entries.foldl (fun text e =>
        if Text.occursIn e.label text then substituteLabel text e.label e.identifier else text)
        (render (standing done) gap parts) =
      render (standing fun t =>
        (done t).or ((entries.find? (·.label == t.label)).map (·.identifier))) gap parts := by
  induction entries generalizing done with
  | nil => simp
  | cons e entries ih =>
    obtain ⟨hlabel, hidentifier⟩ := hhan e (List.mem_cons_self ..)
    obtain ⟨hfirst, hrest⟩ := List.pairwise_cons.1 horder
    have hinside : ∀ p ∈ parts, done p.1 = none → e.label <:+: p.1.label → e.label = p.1.label := by
      intro p hp hd
      obtain ⟨e', he', hl⟩ := hleft p hp hd
      rcases List.mem_cons.1 he' with rfl | he'
      · exact fun _ => hl
      · exact hl ▸ hfirst e' he'
    have hturn := turn_render hlabel hidentifier hgap hgaps hdone (hapart e (List.mem_cons_self ..))
      (hquote e (List.mem_cons_self ..)) hinside
    rw [List.foldl_cons, hturn, ih hrest (fun e' he' => hhan e' (List.mem_cons_of_mem _ he'))]
    · congr 2
      funext t
      simp only [Option.or_assoc, List.find?_cons]
      congr 1
      by_cases h : t.label = e.label
      · simp [h]
      · simp [h, beq_false_of_ne (Ne.symm h)]
    · exact fun p hp => of_mem_or_ite (hdone p hp) hidentifier
    · exact fun e' he' => hapart e' (List.mem_cons_of_mem _ he')
    · exact fun e' he' => hquote e' (List.mem_cons_of_mem _ he')
    · intro p hp hd
      obtain ⟨hd, hother⟩ := Option.or_eq_none_iff.1 hd
      have hne : p.1.label ≠ e.label := fun h => by simp [h] at hother
      obtain ⟨e', he', hl⟩ := hleft p hp hd
      rcases List.mem_cons.1 he' with rfl | he'
      · exact absurd hl.symm hne
      · exact ⟨e', he', hl⟩

end TokenText

namespace HeaderMappings

variable {m : HeaderMappings} {s : TokenText} {order : SubstitutionOrder}

private theorem find?_candidates_kept (hs : s.Separated m) (order : SubstitutionOrder) :
    ∀ p ∈ s.parts, ((m.candidates s.text order).find? (·.label == p.1.label)).map (·.identifier) =
      m.labelIdentifier? (tableContext s.text m.tables) p.1.label := fun p hp =>
  find?_candidates m s.text order (hs.kept p hp).1

theorem isSome_labelIdentifier? (hs : s.Separated m) :
    ∀ p ∈ s.parts, (m.labelIdentifier? (tableContext s.text m.tables) p.1.label).isSome := by
  intro p hp
  obtain ⟨hne, e, he, hl⟩ := hs.kept p hp
  rw [← find?_candidates_kept hs .longestFirst p hp, Option.isSome_map, List.find?_isSome]
  exact ⟨e, mem_candidates.2 ⟨he, hl ▸ hne⟩, by simp [hl]⟩

/-- The statement comes out with these identifiers in the place of its headers, in any order in which no header comes
before one that it stands inside of. -/
theorem substituteIn_text (hm : m.Protected) (hs : s.Separated m)
    (horder : (m.candidates s.text order).Pairwise fun a b => a.label <:+: b.label → a.label = b.label) :
    m.substituteIn order s.text =
      s.replaced fun label => (m.labelIdentifier? (tableContext s.text m.tables) label).getD [] := by
  have hrun : m.substituteIn order s.text = TokenText.render (TokenText.standing fun t =>
      (none : Option Text).or (((m.candidates s.text order).find? (·.label == t.label)).map
        (·.identifier))) s.front s.parts := by
    change List.foldl _ (TokenText.render (TokenText.standing fun _ => none) s.front s.parts) _ = _
    refine TokenText.foldl_render horder ?_ hs.front hs.gaps ?_ ?_ ?_ ?_
    · intro e he
      obtain ⟨he, hne⟩ := mem_candidates.1 he
      exact ⟨hm.labels e he hne, hm.identifiers e he⟩
    · intro p _ i hi
      cases hi
    · intro e he
      exact hs.apart.imp fun c hc => ⟨hc.1, hc.2 e (mem_candidates.1 he).1⟩
    · intro e he p hp q hq
      obtain ⟨hmem, hnot⟩ := hs.quoted p hp q hq
      exact ⟨hmem, hnot e (mem_candidates.1 he).1⟩
    · intro p hp _
      obtain ⟨hne, e, he, hl⟩ := hs.kept p hp
      exact ⟨e, mem_candidates.2 ⟨he, hl ▸ hne⟩, hl⟩
  rw [hrun]
  refine TokenText.render_congr fun p hp => ?_
  obtain ⟨i, hi⟩ := Option.isSome_iff_exists.1 (isSome_labelIdentifier? hs p hp)
  simp only [TokenText.standing, Option.none_or, find?_candidates_kept hs order p hp, hi, Option.getD_some]

theorem substitute_text (hm : m.Protected) (hs : s.Separated m) :
    m.substitute s.text =
      s.replaced fun label => (m.labelIdentifier? (tableContext s.text m.tables) label).getD [] :=
  substituteIn_text hm hs (m.label_eq_of_infix_before s.text)

/-- A statement whose headers stand apart comes out with each header replaced by the identifier that the
statement's table has for it, or else by that of the first table by name which has the header. -/
theorem substitute_tokens {m : HeaderMappings} {s : TokenText} (hm : m.Protected) (hs : s.Separated m) :
    (∀ p ∈ s.parts, (m.labelIdentifier? (tableContext s.text m.tables) p.1.label).isSome) ∧
    m.substitute s.text =
      s.replaced fun label => (m.labelIdentifier? (tableContext s.text m.tables) label).getD [] :=
  ⟨isSome_labelIdentifier? hs, substitute_text hm hs⟩

/-- A statement without Han characters stays as it is. -/
theorem substitute_of_no_han {m : HeaderMappings} (hm : m.Protected) {sql : Text} (h : Text.hasHan sql = false) :
    m.substitute sql = sql := by
  let s : TokenText := ⟨sql, []⟩
  have hs : s.Separated m := ⟨by simp [s], by simp [s], h, by simp [s], trivial⟩
  exact substitute_text hm hs

/-- Two tables share a header, which also stands inside a longer one. -/
private def shared : HeaderMappings :=
  HeaderMappings.empty.extend
    [⟨"a".toList, "名称".toList, "_1".toList⟩, ⟨"a".toList, "产品名称".toList, "_2".toList⟩,
      ⟨"b".toList, "名称".toList, "_3".toList⟩]

/-- A statement about `b`: its headers are short and long, bare and between quotes. -/
private def sharedText : TokenText where
  front := "SELECT ".toList
  parts :=
    [(⟨"产品名称".toList, some '"'⟩, ", ".toList), (⟨"名称".toList, none⟩, " + ".toList),
      (⟨"名称".toList, some '`'⟩, " FROM b".toList)]

private theorem forall_mem_some {p : Char → Prop} {o : Option Char} {c : Char} (ho : o = some c) (h : p c) :
    ∀ d ∈ o, p d := by
  intro d hd
  rw [ho, Option.mem_some_iff] at hd
  rwa [← hd]

theorem substitute_tokens_shared :
    shared.Protected ∧ sharedText.Separated shared ∧
      shared.substitute sharedText.text = "SELECT _2, _3 + _3 FROM b".toList := by
  have hm : shared.Protected := ⟨by decide +kernel, by decide +kernel⟩
  have hdouble : '"' ∈ labelQuotes ∧ ∀ e ∈ shared.entries, '"' ∉ e.label := by decide +kernel
  have hback : '`' ∈ labelQuotes ∧ ∀ e ∈ shared.entries, '`' ∉ e.label := by decide +kernel
  have hspace : shared.Separating ' ' := ⟨by decide, by decide +kernel⟩
  have hcomma : shared.Separating ',' := ⟨by decide, by decide +kernel⟩
  have hs : sharedText.Separated shared := by
    refine ⟨by decide +kernel, fun p hp => ?_, by decide +kernel, by decide +kernel, ?_⟩
    · rcases List.mem_cons.1 hp with rfl | hp
      · exact forall_mem_some rfl hdouble
      · rcases List.mem_cons.1 hp with rfl | hp
        · exact fun q hq => (nomatch hq)
        · rw [List.mem_singleton.1 hp]
          exact forall_mem_some rfl hback
    · exact ⟨forall_mem_some rfl hspace, forall_mem_some rfl hcomma, fun _ => by decide,
        forall_mem_some rfl hspace, forall_mem_some rfl hspace, fun _ => by decide,
        forall_mem_some rfl hspace, forall_mem_some rfl hspace, fun h => absurd rfl h, trivial⟩
  refine ⟨hm, hs, (substitute_tokens hm hs).2.trans ?_⟩
  decide +kernel

end HeaderMappings

end SheetQuery
