import SheetQuery.Proofs.Mapping.Tokens
import SheetQuery.Proofs.Plan

/-!
# Queries for columns by their headers

A query that lists columns of a table by their headers, bare or between quotes, comes out as one that lists them by
their identifiers.

* `selectText`: the query.
* `substitute_selectText`: what becomes of it.
-/

namespace SheetQuery

/-- A query for columns of a table by their headers. -/
def selectText (tokens : List Token) (table : Text) : Text :=
  "SELECT ".toList ++ Text.joinWith ", ".toList (tokens.map Token.text) ++ " FROM ".toList ++ table

/-- The headers of the query, each with what stands behind it. -/
private def selectParts (table : Text) : List Token → List (Token × Text)
  | [] => []
  | [t] => [(t, " FROM ".toList ++ table)]
  | t :: u :: rest => (t, ", ".toList) :: selectParts table (u :: rest)

private theorem render_selectParts (written : Token → Text) (table gap : Text) {tokens : List Token} (hne : tokens ≠ []) :
    TokenText.render written gap (selectParts table tokens) =
      gap ++ Text.joinWith ", ".toList (tokens.map written) ++ " FROM ".toList ++ table := by
  induction tokens generalizing gap with
  | nil => exact absurd rfl hne
  | cons t tokens ih =>
    cases tokens with
    | nil => simp [selectParts, TokenText.render, Text.joinWith]
    | cons u rest =>
      rw [selectParts, TokenText.render, ih _ (List.cons_ne_nil u rest)]
      simp [Text.joinWith, List.intercalate_cons_cons]

private theorem mem_selectParts {table : Text} {tokens : List Token} {p : Token × Text} (hp : p ∈ selectParts table tokens) :
    p.1 ∈ tokens ∧ (p.2 = ", ".toList ∨ p.2 = " FROM ".toList ++ table) := by
  induction tokens with
  | nil => cases hp
  | cons t tokens ih =>
    cases tokens with
    | nil =>
      rw [List.mem_singleton.1 hp]
      exact ⟨List.mem_singleton_self t, .inr rfl⟩
    | cons u rest =>
      rcases List.mem_cons.1 hp with rfl | hp
      · exact ⟨List.mem_cons_self .., .inl rfl⟩
      · exact ⟨List.mem_cons_of_mem t (ih hp).1, (ih hp).2⟩

private theorem apart_selectParts {p : Char → Prop} (hspace : p ' ') (hcomma : p ',') (table : Text) (tokens : List Token)
    {gap : Text} (hgap : gap.getLast? = some ' ') : TokenText.Apart p gap (selectParts table tokens) := by
  have hends : ∀ {o : Option Char} {c : Char}, o = some c → p c → ∀ d ∈ o, p d := by
    intro o c ho hc d hd
    rw [ho, Option.mem_some_iff] at hd
    exact hd ▸ hc
  induction tokens generalizing gap with
  | nil => trivial
  | cons t tokens ih =>
    cases tokens with
    | nil => exact ⟨hends hgap hspace, hends rfl hspace, fun h => absurd rfl h, trivial⟩
    | cons u rest => exact ⟨hends hgap hspace, hends rfl hcomma, fun _ => by decide, ih rfl⟩

namespace HeaderMappings

/-- A query for columns by their headers comes out as one for columns by their identifiers. -/
theorem substitute_selectText {m : HeaderMappings} (hm : m.Protected) {tokens : List Token} (hne : tokens ≠ [])
    {table : Text} (htable : table.all Identifier.isWordChar)
    (hkept : ∀ t ∈ tokens, t.label ≠ [] ∧ ∃ e ∈ m.entries, e.label = t.label)
    (hquotes : ∀ t ∈ tokens, ∀ q ∈ t.quote, q ∈ labelQuotes)
    (hlabels : ∀ e ∈ m.entries, ∀ c ∈ ' ' :: ',' :: labelQuotes, c ∉ e.label) :
    m.substitute (selectText tokens table) = "SELECT ".toList ++ Text.joinWith ", ".toList (tokens.map fun t =>
      (m.labelIdentifier? (tableContext (selectText tokens table) m.tables) t.label).getD []) ++ " FROM ".toList ++ table := by
  let text : TokenText := ⟨"SELECT ".toList, selectParts table tokens⟩
  have htext : text.text = selectText tokens table := render_selectParts Token.text table _ hne
  have hspace : m.Separating ' ' := ⟨by decide, fun e he => hlabels e he ' ' (by simp)⟩
  have hcomma : m.Separating ',' := ⟨by decide, fun e he => hlabels e he ',' (by simp)⟩
  have hfront : Text.hasHan "SELECT ".toList = false := by decide
  have hs : text.Separated m := by
    refine ⟨fun p hp => hkept p.1 (mem_selectParts hp).1, fun p hp q hq => ?_, hfront, fun p hp => ?_,
      apart_selectParts hspace hcomma table tokens rfl⟩
    · have hquote := hquotes p.1 (mem_selectParts hp).1 q hq
      exact ⟨hquote, fun e he => hlabels e he q (List.mem_cons_of_mem _ (List.mem_cons_of_mem _ hquote))⟩
    · rcases (mem_selectParts hp).2 with hp | hp
      · rw [hp]
        decide
      · rw [hp, Text.hasHan, List.any_append, Bool.or_eq_false_iff]
        exact ⟨by decide, hasHan_of_word htable⟩
  rw [← htext, substitute_text hm hs, TokenText.replaced, render_selectParts _ table _ hne]

end HeaderMappings

end SheetQuery
