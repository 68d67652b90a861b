import SheetQuery.Proofs.Mapping.Ambiguities
import SheetQuery.Proofs.Mapping.Tokens

/-!
# Stores without nested headers

Longer headers go first only because a shorter one may stand inside them.  Where none does, nothing in a statement can be
taken for the wrong header, and the headers may be replaced in any order.

* `Unnested`: no header of the store is reported to stand inside another one.
* `Unnested.eq_of_infix`: then a header that stands in another one is that one.
* `substituteIn_unnested`: a statement made of headers comes out alike in either order, and `substituteIn_order` puts the
  two orders side by side.
-/

namespace SheetQuery

namespace HeaderMappings

variable {m : HeaderMappings} {s : TokenText}

/-- No nested headers are reported. -/
def Unnested (m : HeaderMappings) : Prop := ∀ shorter longer, Ambiguity.nested shorter longer ∉ m.ambiguities

/-- A header that stands in another one is that one. -/
theorem Unnested.eq_of_infix (h : m.Unnested) {a b : Mapping} (ha : a ∈ m.entries) (hb : b ∈ m.entries) (hne : a.label ≠ [])
    (hin : a.label <:+: b.label) : a.label = b.label := by
  by_contra hdiffers
  refine h ⟨a.table, a.label⟩ ⟨b.table, b.label⟩ (mem_ambiguities_iff.2 ?_)
  exact ⟨⟨a, ha, rfl⟩, ⟨b, hb, rfl⟩, hne, hdiffers, hin⟩

/-- So in no order of replacement does a header come before one that it stands inside of. -/
theorem Unnested.pairwise_candidates (h : m.Unnested) (sql : Text) (order : SubstitutionOrder) :
    (m.candidates sql order).Pairwise fun a b => a.label <:+: b.label → a.label = b.label := by
  refine (List.pairwise_of_forall fun _ _ => trivial).imp_of_mem fun {a b} ha hb _ => ?_
  obtain ⟨ha, hne⟩ := mem_candidates.1 ha
  exact h.eq_of_infix ha (mem_candidates.1 hb).1 hne

/-- A statement whose headers stand apart comes out with their identifiers in the place of its headers. -/
theorem substituteIn_unnested (hm : m.Protected) (h : m.Unnested) (hs : s.Separated m) (order : SubstitutionOrder) :
    m.substituteIn order s.text =
      s.replaced fun label => (m.labelIdentifier? (tableContext s.text m.tables) label).getD [] :=
  substituteIn_text hm hs (h.pairwise_candidates s.text order)

/-- Without nested headers, a statement whose headers stand apart comes out the same whether longer headers go first or
not. -/
theorem substituteIn_order (hm : m.Protected) (h : m.Unnested) (hs : s.Separated m) :
    m.substituteIn .longestFirst s.text = m.substituteIn .storeOrder s.text := by
  rw [substituteIn_unnested hm h hs, substituteIn_unnested hm h hs]

/-- Two tables share a header, and the one that comes later has a longer one besides. -/
private def unnested : HeaderMappings :=
  empty.extend
    [⟨['a'], "名称".toList, "_1".toList⟩, ⟨['b'], "名称".toList, "_3".toList⟩, ⟨['b'], "总数量".toList, "_2".toList⟩]

/-- The shared header between quotes, and the longer one. -/
private def unnestedText : TokenText :=
  ⟨"SELECT ".toList, [(⟨"名称".toList, some '`'⟩, ", ".toList), (⟨"总数量".toList, none⟩, " FROM b".toList)]⟩

theorem substituteIn_order_shared :
    unnested.Protected ∧ unnested.Unnested ∧ unnestedText.Separated unnested ∧
      unnestedText.text = "SELECT `名称`, 总数量 FROM b".toList ∧
      unnested.substituteIn .longestFirst unnestedText.text = unnested.substituteIn .storeOrder unnestedText.text ∧
      unnested.substituteIn .storeOrder unnestedText.text = "SELECT _3, _2 FROM b".toList := by
  have hm : unnested.Protected := by decide +kernel
  have hs : unnestedText.Separated unnested := by decide +kernel
  have h : unnested.Unnested := by
    have hparts : ∀ a ∈ unnested.entries, ∀ b ∈ unnested.entries, Text.occursIn a.label b.label → a.label = b.label := by
      decide +kernel
    intro shorter longer hmem
    obtain ⟨⟨a, ha, rfl⟩, ⟨b, hb, rfl⟩, -, hne, hin⟩ := mem_ambiguities_iff.1 hmem
    exact hne (hparts a ha b hb (Text.occursIn_iff.2 hin))
  refine ⟨hm, h, hs, by decide +kernel, substituteIn_order hm h hs, (substituteIn_unnested hm h hs .storeOrder).trans ?_⟩
  decide +kernel

end HeaderMappings

end SheetQuery
