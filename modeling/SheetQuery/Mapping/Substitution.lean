import SheetQuery.Mapping.Context

/-!
# Headers in statements

A statement may name columns by their headers. Every header that stands in its text, bare or in one
pair of quotes, gives way to its identifier, wherever it stands. The replacements follow one another
over the whole text; in what order, `SubstitutionOrder` says.
-/

namespace SheetQuery

inductive SubstitutionOrder where
  /-- Longer headers before shorter ones, then those of the table of the statement, then by entry. -/
  | longestFirst
  /-- Those of the table of the statement first, then by entry. -/
  | storeOrder
deriving DecidableEq, Repr

/-- The ways to write a header, quoted ones first so that the quotes go with it. -/
def surfaceForms (label : Text) : List Text :=
  [['`'] ++ label ++ ['`'], ['"'] ++ label ++ ['"'], ['\''] ++ label ++ ['\''], label]

/-- Every form of the header gives way to the identifier, one form after the other. -/
def substituteLabel (sql label identifier : Text) : Text :=
  (surfaceForms label).foldl (fun text form => Text.replaceAll form identifier text) sql

namespace HeaderMappings

/-- The entries whose headers are replaced, in the order of replacement. -/
def candidates (m : HeaderMappings) (sql : Text) (order : SubstitutionOrder) : List Mapping :=
  let context := tableContext sql m.tables
  let outside (e : Mapping) : Bool := context != some e.table
  let named := m.entries.filter (!·.label.isEmpty)
  -- Both sorts keep the order of equal entries, so ties are broken by the order of the store.
  let contextFirst := named.mergeSort fun a b => !outside a || outside b
  match order with
  | .storeOrder => contextFirst
  | .longestFirst => contextFirst.mergeSort fun a b => b.label.length ≤ a.label.length

/-- The statement with identifiers in the place of headers. -/
def substituteIn (m : HeaderMappings) (order : SubstitutionOrder) (sql : Text) : Text :=
  (m.candidates sql order).foldl (fun text e =>
    -- The header is looked for in the text as the replacements before have left it.
    if Text.occursIn e.label text then substituteLabel text e.label e.identifier else text) sql

def substitute (m : HeaderMappings) (sql : Text) : Text := m.substituteIn .longestFirst sql

end HeaderMappings

end SheetQuery
