import SheetQuery.Mapping.Store
import SheetQuery.Text.Utf8

/-!
# Ambiguous headers

Headers that replacement of text cannot tell apart: one that several tables keep under different
identifiers, and one that stands inside another.
-/

namespace SheetQuery

structure MappedLabel where
  table : Text
  label : Text
deriving DecidableEq, Repr

inductive Ambiguity where
  /-- The tables keep one header under different identifiers. -/
  | sharedLabel (label : Text) (tables : List Text)
  /-- The first header stands inside the second. -/
  | nested (shorter longer : MappedLabel)
deriving DecidableEq, Repr

namespace Ambiguity

def text : Ambiguity → Text
  | .nested shorter longer =>
    "label '".toList ++ shorter.label ++ "' (".toList ++ shorter.table ++
      ") is contained in label '".toList ++ longer.label ++ "' (".toList ++ longer.table ++ ")".toList
  | .sharedLabel label tables =>
    "label '".toList ++ label ++ "' is mapped differently in tables ".toList ++
      Text.joinWith ", ".toList tables

/-- The ambiguity is about a header of the table. -/
def involves (table : Text) : Ambiguity → Bool
  | .nested shorter longer => shorter.table == table || longer.table == table
  | .sharedLabel _ tables => tables.contains table

end Ambiguity

namespace HeaderMappings

def labels (m : HeaderMappings) : List Text :=
  (Text.sorted (m.entries.map (·.label))).eraseReps

def owners (m : HeaderMappings) (label : Text) : List Mapping := m.entries.filter (·.label == label)

/-- The headers that tables keep under different identifiers. -/
def sharedLabels (m : HeaderMappings) : List Ambiguity :=
  m.labels.filterMap fun label =>
    let owners := m.owners label
    match owners with
    | [] => none
    | first :: others =>
      if others.any (·.identifier != first.identifier) then
        some (.sharedLabel label (owners.map (·.table)))
      else none

def named (m : HeaderMappings) : List Mapping := m.entries.filter (!·.label.isEmpty)

/-- The pairs of headers of which the first has fewer bytes than the second and stands inside it. -/
def nestedLabels (m : HeaderMappings) : List Ambiguity :=
  m.named.flatMap fun shorter =>
    (m.named.filter fun longer =>
      -- Of two headers of one length neither can stand inside the other unless they are the same.
      decide (Utf8.size shorter.label < Utf8.size longer.label) &&
        Text.occursIn shorter.label longer.label).map fun longer =>
        .nested ⟨shorter.table, shorter.label⟩ ⟨longer.table, longer.label⟩

/-- All ambiguities: the shared headers, ordered by header, and then the nested ones, in the order of
the entries. -/
def ambiguities (m : HeaderMappings) : List Ambiguity := m.sharedLabels ++ m.nestedLabels

end HeaderMappings

end SheetQuery
