import SheetQuery.Proofs.Mapping.Tokens

/-!
# Statements of any kind

When every identifier is an underscore with digits behind it, and no header has an underscore or starts with a
digit, a replacement touches only what the user wrote: whatever the statement is, it can be cut into headers and
gaps such that the substitution puts identifiers in the place of the headers and leaves the gaps alone.

A text under substitution is carried along as such a cut.  A replacement cuts the gaps further
(`exists_replaced`): an identifier that stands already is passed over, and it keeps an occurrence from reaching
from one gap to the next.  So a header that stands in no gap never comes back, since gaps only get smaller, and it
stands nowhere in the text either (`not_infix_replaced`).
-/

namespace SheetQuery

open Text (Absent)

namespace HeaderMappings

/-- Headers can be told from identifiers by underscores and digits. -/
structure Numbered (m : HeaderMappings) : Prop where
  identifiers : ∀ e ∈ m.entries, ∃ digits, e.identifier = '_' :: digits ∧ ∀ c ∈ digits, c.isDigit
  labels : ∀ e ∈ m.entries, '_' ∉ e.label ∧ ∀ c ∈ e.label.head?, c.isDigit = false

end HeaderMappings

/-- The header is written in one of its forms, and it is kept under its identifier. -/
structure Token.Kept (m : HeaderMappings) (identifier : Text → Text) (t : Token) : Prop where
  label : t.label ≠ []
  form : t.text ∈ surfaceForms t.label
  kept : ∃ table, m.resolve table t.label = some (identifier t.label)

namespace TokenText

/-- The texts around the headers. -/
def gaps (s : TokenText) : List Text := s.front :: s.parts.map (·.2)

/-- The pattern stands in no gap. -/
def Free (s : TokenText) (pattern : Text) : Prop := ∀ gap ∈ s.gaps, ¬ pattern <:+: gap

/-- The same statement with its gaps cut further. -/
structure Finer (s' s : TokenText) : Prop where
  text : s'.text = s.text
  gaps : ∀ gap ∈ s'.gaps, ∃ outer ∈ s.gaps, gap <:+: outer

theorem Finer.refl (s : TokenText) : s.Finer s := ⟨rfl, fun gap h => ⟨gap, h, List.infix_rfl⟩⟩

theorem Finer.trans {s₁ s₂ s₃ : TokenText} (h : s₁.Finer s₂) (h' : s₂.Finer s₃) : s₁.Finer s₃ := by
  refine ⟨h.text.trans h'.text, fun gap hgap => ?_⟩
  obtain ⟨outer, houter, hin⟩ := h.gaps gap hgap
  obtain ⟨outer', houter', hin'⟩ := h'.gaps outer houter
  exact ⟨outer', houter', hin.trans hin'⟩

theorem Free.finer {s s' : TokenText} {pattern : Text} (h : s.Free pattern) (hs : s'.Finer s) :
    s'.Free pattern := by
  intro gap hgap hin
  obtain ⟨outer, houter, hgap'⟩ := hs.gaps gap hgap
  exact h outer houter (hin.trans hgap')

theorem render_append (written : Token → Text) (gap : Text) (parts : List (Token × Text)) (t : Token) (next : Text)
    (rest : List (Token × Text)) :
    render written gap (parts ++ (t, next) :: rest) =
      render written gap parts ++ written t ++ render written next rest := by
  induction parts generalizing gap with
  | nil => rfl
  | cons part parts ih => simp only [List.cons_append, render, ih, List.append_assoc]

theorem gap_infix_render {written : Token → Text} {gap g : Text} {parts : List (Token × Text)}
    (h : g ∈ gap :: parts.map (·.2)) : g <:+: render written gap parts := by
  induction parts generalizing gap with
  | nil => exact List.mem_singleton.1 h ▸ List.infix_rfl
  | cons part parts ih =>
    rcases List.mem_cons.1 h with rfl | h
    · exact ⟨[], written part.1 ++ render written part.2 parts, by simp [render]⟩
    · exact (ih h).trans (List.suffix_append (gap ++ written part.1) _).isInfix

section

variable {m : HeaderMappings} {identifier : Text → Text} {t : Token}

/-- A form of a header has no character in common with the place where an identifier begins. -/
private structure Foreign (pattern : Text) : Prop where
  ne_nil : pattern ≠ []
  underscore : '_' ∉ pattern
  digit : ∀ c ∈ pattern.head?, c.isDigit = false

private theorem foreign_label (hm : m.Numbered) {e : Mapping} (he : e ∈ m.entries) (hne : e.label ≠ []) :
    Foreign e.label := ⟨hne, (hm.labels e he).1, (hm.labels e he).2⟩

private theorem Foreign.text (hm : m.Numbered) (ht : t.Kept m identifier) : Foreign t.text := by
  obtain ⟨table, hkept⟩ := ht.kept
  have hlabel : Foreign t.label := foreign_label hm (HeaderMappings.resolve_eq_some.1 hkept) ht.label
  have hform := ht.form
  simp only [surfaceForms, List.mem_cons, List.not_mem_nil, or_false] at hform
  rcases hform with h | h | h | h
  · rw [h]; exact ⟨by simp, by simp [hlabel.underscore], by simp⟩
  · rw [h]; exact ⟨by simp, by simp [hlabel.underscore], by simp⟩
  · rw [h]; exact ⟨by simp, by simp [hlabel.underscore], by simp⟩
  · rw [h]; exact hlabel

private theorem identifier_of_kept (hm : m.Numbered) (ht : t.Kept m identifier) :
    ∃ digits, identifier t.label = '_' :: digits ∧ ∀ c ∈ digits, c.isDigit := by
  obtain ⟨table, hkept⟩ := ht.kept
  exact hm.identifiers _ (HeaderMappings.resolve_eq_some.1 hkept)

/-- No pattern begins inside an identifier. -/
private theorem Foreign.absent (hm : m.Numbered) (ht : t.Kept m identifier) {pattern : Text} (h : Foreign pattern)
    (v : Text) : Absent pattern (identifier t.label) v := by
  obtain ⟨digits, hid, hdigits⟩ := identifier_of_kept hm ht
  refine Text.absent_of_head_not_mem h.ne_nil (fun c hc hmem => ?_) v
  rw [hid, List.mem_cons] at hmem
  rcases hmem with rfl | hmem
  · exact h.underscore (List.mem_of_mem_head? hc)
  · exact absurd (hdigits c hmem) (by simp [h.digit c hc])

/-- An identifier starts with a character that no pattern has. -/
private theorem Foreign.head (hm : m.Numbered) (ht : t.Kept m identifier) {pattern : Text} (h : Foreign pattern)
    (v : Text) : ∀ c ∈ (identifier t.label ++ v).head?, c ∉ pattern := by
  obtain ⟨digits, hid, -⟩ := identifier_of_kept hm ht
  intro c hc
  rw [hid, List.cons_append, List.head?_cons, Option.mem_some_iff] at hc
  exact hc ▸ h.underscore

/-! ### One replacement -/

/-- The gap `u` in front of `v` is cut at the occurrences of the header, which turn into its identifier. -/
private structure CutAt (identifier : Text → Text) (t : Token) (v u : Text) (s : TokenText) : Prop where
  text : s.text = u
  replaced : Text.replaceAll t.text (identifier t.label) (u ++ v) =
    s.replaced identifier ++ Text.replaceAll t.text (identifier t.label) v
  tokens : ∀ p ∈ s.parts, p.1 = t
  gaps : ∀ g ∈ s.gaps, g <:+: u ∧ ¬ t.text <:+: g

namespace CutAt

variable {u v rest : Text} {s : TokenText}

private theorem nil (hne : t.text ≠ []) : CutAt identifier t v [] ⟨[], []⟩ := by
  refine ⟨rfl, rfl, fun p hp => absurd hp List.not_mem_nil, fun g hg => ?_⟩
  rw [List.mem_singleton.1 hg]
  exact ⟨List.infix_rfl, by simpa using hne⟩

private theorem occurrence (h : CutAt identifier t v rest s) (hne : t.text ≠ []) :
    CutAt identifier t v (t.text ++ rest) ⟨[], (t, s.front) :: s.parts⟩ := by
  refine ⟨congrArg (t.text ++ ·) h.text, ?_, fun p hp => ?_, fun g hg => ?_⟩
  · rw [List.append_assoc, Text.replaceAll_pattern_append hne, h.replaced]
    simp only [TokenText.replaced, render, List.nil_append, List.append_assoc]
  · rcases List.mem_cons.1 hp with rfl | hp
    · rfl
    · exact h.tokens p hp
  · rcases List.mem_cons.1 hg with rfl | hg
    · exact ⟨List.nil_infix, by simpa using hne⟩
    · exact ⟨(h.gaps g hg).1.trans (List.suffix_append t.text rest).isInfix, (h.gaps g hg).2⟩

private theorem cons {c : Char} (h : CutAt identifier t v u s) (hpre : ¬ t.text <+: c :: u)
    (hv : ∀ c ∈ v.head?, c ∉ t.text) : CutAt identifier t v (c :: u) ⟨c :: s.front, s.parts⟩ := by
  have hrender : ∀ written : Token → Text,
      render written (c :: s.front) s.parts = c :: render written s.front s.parts := by
    intro written
    cases s.parts <;> rfl
  have hfront : s.front <+: u := by
    rw [← h.text, TokenText.text]
    cases s.parts with
    | nil => exact List.prefix_rfl
    | cons part parts => exact ⟨part.1.text ++ render Token.text part.2 parts, by simp [render]⟩
  refine ⟨(hrender Token.text).trans (congrArg (c :: ·) h.text), ?_, h.tokens, fun g hg => ?_⟩
  · have hhere : Absent t.text [c] (u ++ v) := by
      intro front back hcut hback hocc
      have hcut' : front = [] ∧ back = [c] := (List.singleton_eq_append_iff.1 hcut).resolve_right fun h => hback h.2
      rw [hcut'.2] at hocc
      exact hpre (Text.prefix_of_prefix_append (u := c :: u) hocc hv)
    have hstep := Text.replaceAll_append hhere (identifier t.label)
    rw [List.singleton_append, h.replaced] at hstep
    rw [TokenText.replaced, hrender]
    exact hstep
  · rcases List.mem_cons.1 hg with rfl | hg
    · have hbegins : c :: s.front <+: c :: u := List.cons_prefix_cons.2 ⟨rfl, hfront⟩
      refine ⟨hbegins.isInfix, fun hin => ?_⟩
      rcases List.infix_cons_iff.1 hin with hin | hin
      · exact hpre (hin.trans hbegins)
      · exact (h.gaps s.front (List.mem_cons_self ..)).2 hin
    · obtain ⟨hin, hfree⟩ := h.gaps g (List.mem_cons_of_mem _ hg)
      exact ⟨hin.trans (List.suffix_cons c u).isInfix, hfree⟩

end CutAt

/-- The occurrences in a gap are cut out of it.  What stands behind it starts with a character that the pattern
does not have, so no occurrence leaves the gap. -/
private theorem exists_cutAt (identifier : Text → Text) (hne : t.text ≠ []) (u v : Text)
    (hv : ∀ c ∈ v.head?, c ∉ t.text) : ∃ s, CutAt identifier t v u s := by
  match u with
  | [] => exact ⟨_, .nil hne⟩
  | c :: u =>
    by_cases hpre : t.text <+: c :: u
    · obtain ⟨rest, hrest⟩ := hpre
      have hlength : rest.length ≤ u.length := by
        have hpos := List.length_pos_iff.2 hne
        have hsum := congrArg List.length hrest
        rw [List.length_append, List.length_cons] at hsum
        omega
      obtain ⟨s, hs⟩ := exists_cutAt identifier hne rest v hv
      exact ⟨_, hrest ▸ hs.occurrence hne⟩
    · obtain ⟨s, hs⟩ := exists_cutAt identifier hne u v hv
      exact ⟨_, hs.cons hpre hv⟩
termination_by u.length
decreasing_by
  · exact Nat.lt_succ_of_le hlength
  · exact Nat.lt_succ_self _

/-- A replacement cuts the gaps and leaves the identifiers that stand already. -/
private theorem exists_replaced_parts (hm : m.Numbered) (ht : t.Kept m identifier) (gap : Text)
    {parts : List (Token × Text)} (hkept : ∀ p ∈ parts, p.1.Kept m identifier) :
    ∃ gap' parts', render Token.text gap' parts' = render Token.text gap parts ∧
      render (fun t => identifier t.label) gap' parts' =
        Text.replaceAll t.text (identifier t.label) (render (fun t => identifier t.label) gap parts) ∧
      (∀ p ∈ parts', p.1.Kept m identifier) ∧
      ∀ g ∈ gap' :: parts'.map (·.2), ¬ t.text <:+: g ∧ ∃ outer ∈ gap :: parts.map (·.2), g <:+: outer := by
  have hforeign := Foreign.text hm ht
  induction parts generalizing gap with
  | nil =>
    obtain ⟨s, hs⟩ := exists_cutAt identifier hforeign.ne_nil gap [] (by simp)
    refine ⟨s.front, s.parts, hs.text, ?_, fun p hp => hs.tokens p hp ▸ ht, fun g hg => ?_⟩
    · simpa [render, TokenText.replaced, Text.replaceAll, Text.replaceFrom] using hs.replaced.symm
    · exact ⟨(hs.gaps g hg).2, gap, List.mem_cons_self .., (hs.gaps g hg).1⟩
  | cons part parts ih =>
    obtain ⟨t₀, next⟩ := part
    have ht₀ : t₀.Kept m identifier := hkept (t₀, next) (List.mem_cons_self ..)
    obtain ⟨next', rest', htext', hrun', hkept', hgaps'⟩ :=
      ih next fun p hp => hkept p (List.mem_cons_of_mem _ hp)
    -- the identifier behind the gap stops every occurrence that begins in it
    obtain ⟨s, hs⟩ :=
      exists_cutAt identifier hforeign.ne_nil gap _
        (hforeign.head hm ht₀ (render (fun t => identifier t.label) next parts))
    have hrun := hs.replaced
    have htext := hs.text
    rw [TokenText.replaced] at hrun
    rw [TokenText.text] at htext
    refine ⟨s.front, s.parts ++ (t₀, next') :: rest', ?_, ?_, ?_, ?_⟩
    · rw [render_append, htext, htext', render]
    · rw [Text.replaceAll_append (hforeign.absent hm ht₀ _), ← List.append_assoc, ← List.append_assoc] at hrun
      rw [render_append, hrun', ← hrun, render]
    · intro p hp
      rcases List.mem_append.1 hp with hp | hp
      · exact hs.tokens p hp ▸ ht
      · rcases List.mem_cons.1 hp with rfl | hp
        · exact ht₀
        · exact hkept' p hp
    · intro g hg
      rw [List.map_append, List.map_cons, ← List.cons_append, List.mem_append] at hg
      rcases hg with hg | hg
      · exact ⟨(hs.gaps g hg).2, gap, List.mem_cons_self .., (hs.gaps g hg).1⟩
      · obtain ⟨hfree, outer, houter, hin⟩ := hgaps' g hg
        exact ⟨hfree, outer, List.mem_cons_of_mem _ houter, hin⟩

theorem exists_replaced (hm : m.Numbered) (ht : t.Kept m identifier) {s : TokenText}
    (hkept : ∀ p ∈ s.parts, p.1.Kept m identifier) :
    ∃ s' : TokenText, s'.Finer s ∧ (∀ p ∈ s'.parts, p.1.Kept m identifier) ∧ s'.Free t.text ∧
      s'.replaced identifier = Text.replaceAll t.text (identifier t.label) (s.replaced identifier) := by
  obtain ⟨gap', parts', htext, hrun, hkept', hgaps⟩ := exists_replaced_parts hm ht s.front hkept
  exact ⟨⟨gap', parts'⟩, ⟨htext, fun g hg => (hgaps g hg).2⟩, hkept', fun g hg => (hgaps g hg).1, hrun⟩

/-! ### The replacements of one header -/

/-- The ways to write a header, in the order of replacement. -/
def writtenForms (label : Text) : List Token :=
  labelQuotes.map (fun q => ⟨label, some q⟩) ++ [⟨label, none⟩]

theorem map_text_writtenForms (label : Text) : (writtenForms label).map Token.text = surfaceForms label := rfl

private theorem exists_foldl_replaced (hm : m.Numbered) {label : Text} {tokens : List Token}
    (htokens : ∀ t ∈ tokens, t.label = label ∧ t.Kept m identifier) {s : TokenText}
    (hkept : ∀ p ∈ s.parts, p.1.Kept m identifier) :
    ∃ s' : TokenText, s'.Finer s ∧ (∀ p ∈ s'.parts, p.1.Kept m identifier) ∧ (∀ t ∈ tokens, s'.Free t.text) ∧
      s'.replaced identifier =
        (tokens.map Token.text).foldl (fun text form => Text.replaceAll form (identifier label) text)
          (s.replaced identifier) := by
  induction tokens generalizing s with
  | nil => exact ⟨s, .refl s, hkept, by simp, rfl⟩
  | cons t tokens ih =>
    obtain ⟨⟨hlabel, ht⟩, htokens⟩ := List.forall_mem_cons.1 htokens
    obtain ⟨s₁, hfiner₁, hkept₁, hfree₁, hrun₁⟩ := exists_replaced hm ht hkept
    obtain ⟨s₂, hfiner₂, hkept₂, hfree₂, hrun₂⟩ := ih htokens hkept₁
    refine ⟨s₂, hfiner₂.trans hfiner₁, hkept₂, ?_, ?_⟩
    · -- a form that is gone does not come back, as gaps only get smaller
      exact List.forall_mem_cons.2 ⟨hfree₁.finer hfiner₂, hfree₂⟩
    · rw [hrun₂, hrun₁, hlabel, List.map_cons, List.foldl_cons]

theorem exists_substituteLabel (hm : m.Numbered) {label : Text} (hlabel : label ≠ [])
    (hresolve : ∃ table, m.resolve table label = some (identifier label)) {s : TokenText}
    (hkept : ∀ p ∈ s.parts, p.1.Kept m identifier) :
    ∃ s' : TokenText, s'.Finer s ∧ (∀ p ∈ s'.parts, p.1.Kept m identifier) ∧ s'.Free label ∧
      s'.replaced identifier = substituteLabel (s.replaced identifier) label (identifier label) := by
  have hforms : ∀ t ∈ writtenForms label, t.label = label ∧ t.Kept m identifier := by
    intro t ht
    have htext : t.text ∈ surfaceForms label := map_text_writtenForms label ▸ List.mem_map_of_mem ht
    have hl : t.label = label := by
      simp only [writtenForms, List.mem_append, List.mem_map, List.mem_singleton] at ht
      rcases ht with ⟨q, -, rfl⟩ | rfl <;> rfl
    subst hl
    exact ⟨rfl, hlabel, htext, hresolve⟩
  obtain ⟨s', hfiner, hkept', hfree, hrun⟩ := exists_foldl_replaced hm hforms hkept
  exact ⟨s', hfiner, hkept', hfree ⟨label, none⟩ (by simp [writtenForms]), hrun⟩

/-! ### All replacements -/

/-- A header that stands in no gap stands nowhere. -/
private theorem not_infix_render (hm : m.Numbered) {pattern : Text} (hpattern : Foreign pattern) {gap : Text}
    {parts : List (Token × Text)} (hkept : ∀ p ∈ parts, p.1.Kept m identifier)
    (hfree : ∀ g ∈ gap :: parts.map (·.2), ¬ pattern <:+: g) :
    ¬ pattern <:+: render (fun t => identifier t.label) gap parts := by
  induction parts generalizing gap with
  | nil => exact hfree gap (List.mem_cons_self ..)
  | cons part parts ih =>
    obtain ⟨ht, hparts⟩ := List.forall_mem_cons.1 hkept
    obtain ⟨hgap, hgaps⟩ := List.forall_mem_cons.1 hfree
    rw [render, List.append_assoc]
    apply Text.not_infix_append (Text.absent_of_head hgap (hpattern.head hm ht _))
    apply Text.not_infix_append (hpattern.absent hm ht _)
    exact ih hparts hgaps

theorem not_infix_replaced (hm : m.Numbered) {e : Mapping} (he : e ∈ m.entries) (hne : e.label ≠ [])
    {s : TokenText} (hkept : ∀ p ∈ s.parts, p.1.Kept m identifier) (hfree : s.Free e.label) :
    ¬ e.label <:+: s.replaced identifier := not_infix_render hm (foreign_label hm he hne) hkept hfree

/-- The turn of one entry: its header gives way, if it is there. -/
private theorem exists_turn (hm : m.Numbered) {e : Mapping} (he : e ∈ m.entries) (hne : e.label ≠ []) {s : TokenText}
    (hkept : ∀ p ∈ s.parts, p.1.Kept m identifier) (hfirst : s.Free e.label ∨ e.identifier = identifier e.label) :
    ∃ s' : TokenText, s'.Finer s ∧ (∀ p ∈ s'.parts, p.1.Kept m identifier) ∧ s'.Free e.label ∧
      s'.replaced identifier = if Text.occursIn e.label (s.replaced identifier)
        then substituteLabel (s.replaced identifier) e.label e.identifier else s.replaced identifier := by
  by_cases hocc : Text.occursIn e.label (s.replaced identifier)
  · have hid : e.identifier = identifier e.label := by
      refine hfirst.resolve_left fun hfree => ?_
      exact not_infix_replaced hm he hne hkept hfree (Text.occursIn_iff.1 hocc)
    have hresolve : ∃ table, m.resolve table e.label = some (identifier e.label) :=
      ⟨e.table, hid ▸ HeaderMappings.mem_entries.1 he⟩
    rw [if_pos hocc, hid]
    exact exists_substituteLabel hm hne hresolve hkept
  · rw [if_neg hocc]
    refine ⟨s, .refl s, hkept, fun g hg hin => hocc (Text.occursIn_iff.2 ?_), rfl⟩
    exact hin.trans (gap_infix_render hg)

/-- Behind the turn of an entry, its header has no gap to stand in, and for the others nothing changes. -/
private theorem first_behind {e : Mapping} {entries : List Mapping} {s s' : TokenText} (hfiner : s'.Finer s)
    (hfree : s'.Free e.label)
    (hfirst : ∀ label e', (e :: entries).find? (·.label == label) = some e' →
      s.Free label ∨ e'.identifier = identifier label) :
    ∀ label e', entries.find? (·.label == label) = some e' → s'.Free label ∨ e'.identifier = identifier label := by
  intro label e' he'
  by_cases hl : e.label = label
  · exact .inl (hl ▸ hfree)
  · refine (hfirst label e' ?_).imp_left fun h => h.finer hfiner
    rw [List.find?_cons_of_neg (by simpa using hl), he']

/-- The replacements of a list of entries.  A header whose first entry has its turn behind another one has no
gap to stand in. -/
private theorem exists_foldl_entries (hm : m.Numbered) {entries : List Mapping}
    (hentries : ∀ e ∈ entries, e ∈ m.entries ∧ e.label ≠ []) {s : TokenText}
    (hkept : ∀ p ∈ s.parts, p.1.Kept m identifier)
    (hfirst : ∀ label e, entries.find? (·.label == label) = some e →
      s.Free label ∨ e.identifier = identifier label) :
    ∃ s' : TokenText, s'.Finer s ∧ (∀ p ∈ s'.parts, p.1.Kept m identifier) ∧ (∀ e ∈ entries, s'.Free e.label) ∧
      s'.replaced identifier =
        entries.foldl (fun text e =>
          if Text.occursIn e.label text then substituteLabel text e.label e.identifier else text)
          (s.replaced identifier) := by
  induction entries generalizing s with
  | nil => exact ⟨s, .refl s, hkept, by simp, rfl⟩
  | cons e entries ih =>
    obtain ⟨⟨he, hne⟩, hentries⟩ := List.forall_mem_cons.1 hentries
    obtain ⟨s₁, hfiner₁, hkept₁, hfree₁, hrun₁⟩ := exists_turn hm he hne hkept (hfirst e.label e (by simp))
    obtain ⟨s₂, hfiner₂, hkept₂, hfree₂, hrun₂⟩ := ih hentries hkept₁ (first_behind hfiner₁ hfree₁ hfirst)
    refine ⟨s₂, hfiner₂.trans hfiner₁, hkept₂, List.forall_mem_cons.2 ⟨hfree₁.finer hfiner₂, hfree₂⟩, ?_⟩
    rw [hrun₂, hrun₁, List.foldl_cons]

/-- Entries whose headers stand in no gap might as well have no turn. -/
theorem foldl_filter_entries (hm : m.Numbered) {entries : List Mapping}
    (hentries : ∀ e ∈ entries, e ∈ m.entries ∧ e.label ≠ []) {s : TokenText}
    (hkept : ∀ p ∈ s.parts, p.1.Kept m identifier)
    (hfirst : ∀ label e, entries.find? (·.label == label) = some e →
      s.Free label ∨ e.identifier = identifier label)
    {q : Mapping → Bool} (hfree : ∀ e ∈ entries, q e = false → s.Free e.label) :
    entries.foldl (fun text e =>
        if Text.occursIn e.label text then substituteLabel text e.label e.identifier else text) (s.replaced identifier) =
      (entries.filter q).foldl (fun text e =>
        if Text.occursIn e.label text then substituteLabel text e.label e.identifier else text)
        (s.replaced identifier) := by
  induction entries generalizing s with
  | nil => rfl
  | cons e entries ih =>
    obtain ⟨⟨he, hne⟩, hentries⟩ := List.forall_mem_cons.1 hentries
    obtain ⟨hfree, hothers⟩ := List.forall_mem_cons.1 hfree
    obtain ⟨s₁, hfiner₁, hkept₁, hfree₁, hrun₁⟩ := exists_turn hm he hne hkept (hfirst e.label e (by simp))
    have hrest := ih hentries hkept₁ (first_behind hfiner₁ hfree₁ hfirst) fun e' he' hq =>
      (hothers e' he' hq).finer hfiner₁
    rw [List.foldl_cons, ← hrun₁, hrest]
    by_cases hq : q e
    · rw [List.filter_cons_of_pos hq, List.foldl_cons, hrun₁]
    · -- the header stands nowhere, so its turn has left the text as it was
      have habsent := not_infix_replaced hm he hne hkept (hfree (Bool.eq_false_iff.2 hq))
      rw [List.filter_cons_of_neg hq, hrun₁, if_neg fun h => habsent (Text.occursIn_iff.1 h)]

end

end TokenText

namespace HeaderMappings

/-- The headers that the statement is cut into are kept under the identifiers that take their place, and no
header is left. -/
theorem substituteIn_splits {m : HeaderMappings} (hm : m.Numbered) (order : SubstitutionOrder) (sql : Text) :
    ∃ s : TokenText, s.text = sql ∧
      (∀ p ∈ s.parts, p.1.Kept m fun label => (m.labelIdentifier? (tableContext sql m.tables) label).getD []) ∧
      m.substituteIn order sql =
        s.replaced (fun label => (m.labelIdentifier? (tableContext sql m.tables) label).getD []) ∧
      ∀ e ∈ m.entries, e.label ≠ [] → Text.occursIn e.label (m.substituteIn order sql) = false := by
  let identifier : Text → Text := fun label => (m.labelIdentifier? (tableContext sql m.tables) label).getD []
  have hfirst : ∀ label e, (m.candidates sql order).find? (·.label == label) = some e →
      (⟨sql, []⟩ : TokenText).Free label ∨ e.identifier = identifier label := by
    intro label e he
    have hl : e.label = label := by simpa using List.find?_some he
    have hne : label ≠ [] := hl ▸ (mem_candidates.1 (List.mem_of_find?_eq_some he)).2
    have hid := find?_candidates m sql order hne
    rw [he, Option.map_some] at hid
    exact .inr (by simp [identifier, ← hid])
  obtain ⟨s, hfiner, hkept, hfree, hrun⟩ := TokenText.exists_foldl_entries hm
    (fun e he => mem_candidates.1 he) (s := ⟨sql, []⟩) (by simp) hfirst
  refine ⟨s, hfiner.text, hkept, hrun.symm, fun e he hne => ?_⟩
  have hgone : s.Free e.label := hfree e (mem_candidates.2 ⟨he, hne⟩)
  have habsent := TokenText.not_infix_replaced hm he hne hkept hgone
  rw [hrun, ← Text.occursIn_iff, Bool.not_eq_true] at habsent
  exact habsent

/-- The headers of two tables: one is the beginning of another, which shares a character with a third. -/
private def nested : HeaderMappings :=
  HeaderMappings.empty.extend
    [⟨"a".toList, "名".toList, "_1".toList⟩, ⟨"a".toList, "名称".toList, "_2".toList⟩,
      ⟨"b".toList, "称号".toList, "_1".toList⟩]

/-- Headers that abut and overlap, and a quote without a partner. -/
private def nestedText : Text := "SELECT '名称号1, `名`名称 FROM a".toList

/-- Which of the headers that share characters are cut out depends on the order. -/
theorem substituteIn_splits_nested :
    nested.Numbered ∧
      nested.substituteIn .longestFirst nestedText = "SELECT '_2号1, _1_2 FROM a".toList ∧
      nested.substituteIn .storeOrder nestedText = "SELECT '_1_11, _1_1称 FROM a".toList ∧
      ∀ order, ∀ e ∈ nested.entries, e.label ≠ [] →
        Text.occursIn e.label (nested.substituteIn order nestedText) = false := by
  have hentries : nested.entries =
      [⟨"a".toList, "名".toList, "_1".toList⟩, ⟨"a".toList, "名称".toList, "_2".toList⟩,
        ⟨"b".toList, "称号".toList, "_1".toList⟩] := by decide +kernel
  have hids : ∀ e ∈ nested.entries, e.identifier.head? = some '_' ∧ e.identifier.tail.all Char.isDigit := by
    rw [hentries]
    decide
  have hlabels : ∀ e ∈ nested.entries, '_' ∉ e.label ∧ e.label.all fun c => !c.isDigit := by
    rw [hentries]
    decide
  have hm : nested.Numbered := by
    constructor
    · intro e he
      obtain ⟨hhead, hdigits⟩ := hids e he
      exact ⟨e.identifier.tail, (List.cons_head?_tail hhead).symm, List.all_eq_true.1 hdigits⟩
    · intro e he
      obtain ⟨hunder, hdigits⟩ := hlabels e he
      exact ⟨hunder, fun c hc => by simpa using List.all_eq_true.1 hdigits c (List.mem_of_mem_head? hc)⟩
  have hcontext : tableContext nestedText nested.tables = some "a".toList := by decide +kernel
  have hlong : nested.candidates nestedText .longestFirst =
      [⟨"a".toList, "名称".toList, "_2".toList⟩, ⟨"b".toList, "称号".toList, "_1".toList⟩,
        ⟨"a".toList, "名".toList, "_1".toList⟩] := by
    simp [candidates, hcontext, hentries, List.mergeSort, List.MergeSort.Internal.splitInTwo]
  have hstore : nested.candidates nestedText .storeOrder = nested.entries := by
    simp [candidates, hcontext, hentries, List.mergeSort, List.MergeSort.Internal.splitInTwo]
  refine ⟨hm, ?_, ?_, fun order e he hne => ?_⟩
  · rw [substituteIn, hlong]
    decide +kernel
  · rw [substituteIn, hstore]
    decide +kernel
  · obtain ⟨s, -, -, -, hgone⟩ := substituteIn_splits hm order nestedText
    exact hgone e he hne

end HeaderMappings

end SheetQuery
