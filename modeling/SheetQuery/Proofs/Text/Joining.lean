import Mathlib.Data.List.DropRight
import SheetQuery.Text.Blank

/-!
# Texts that are put together and trimmed

* `forall_mem_intercalate`: what holds of the members of the parts and of the separator holds of all members.
* `dropRightWhile_append`: characters that are put behind a text are trimmed away again.
* `exists_dropRightWhile_append`, `getLast?_dropRightWhile`: what is trimmed away, and what is left at the end.
* `Trimmed`: a text without the blanks at its ends; `trim_eq_iff` says that there is one.
-/

namespace SheetQuery

section

variable {α : Type} {separator : List α} {parts : List (List α)}

theorem forall_mem_intercalate {P : α → Prop} (hseparator : ∀ a ∈ separator, P a) (hparts : ∀ p ∈ parts, ∀ a ∈ p, P a) :
    ∀ a ∈ separator.intercalate parts, P a := by
  induction parts with
  | nil => exact fun a ha => nomatch ha
  | cons p parts ih =>
    have hp := hparts p (List.mem_cons_self ..)
    have hrest := ih fun q hq => hparts q (List.mem_cons_of_mem _ hq)
    cases parts with
    | nil => rwa [List.intercalate_singleton]
    | cons q parts =>
      rw [List.intercalate_cons_cons, List.forall_mem_append, List.forall_mem_append]
      exact ⟨⟨hp, hseparator⟩, hrest⟩

/-- Parts that are not empty are no more than the members of the list in which they stand. -/
theorem length_le_intercalate (h : ∀ p ∈ parts, p ≠ []) : parts.length ≤ (separator.intercalate parts).length := by
  induction parts with
  | nil => exact Nat.zero_le _
  | cons p parts ih =>
    have hp := List.length_pos_iff.2 (h p (List.mem_cons_self ..))
    have hrest := ih fun q hq => h q (List.mem_cons_of_mem _ hq)
    cases parts with
    | nil => rwa [List.intercalate_singleton]
    | cons q parts =>
      rw [List.intercalate_cons_cons, List.length_append, List.length_append]
      simp only [List.length_cons] at hrest ⊢
      omega

end

namespace Text

variable {p : Char → Bool}

private theorem dropRightWhile_eq (p : Char → Bool) (s : Text) : dropRightWhile p s = s.rdropWhile p := rfl

/-- Characters that are put behind a text are trimmed away again. -/
theorem dropRightWhile_append {u v : Text} (hv : ∀ c ∈ v, p c) (hu : ∀ c ∈ u.getLast?, p c = false) :
    dropRightWhile p (u ++ v) = u := by
  have hdrop : dropRightWhile p (u ++ v) = dropRightWhile p u := by
    rw [dropRightWhile, List.reverse_append, List.dropWhile_append_of_pos fun c hc => hv c (List.mem_reverse.1 hc)]
    rfl
  rw [hdrop, dropRightWhile_eq, List.rdropWhile_eq_self_iff]
  intro hne
  rw [hu _ (List.getLast_mem_getLast? hne)]
  exact Bool.false_ne_true

/-- What is trimmed away are such characters. -/
theorem exists_dropRightWhile_append (p : Char → Bool) (s : Text) :
    ∃ v, (∀ c ∈ v, p c) ∧ dropRightWhile p s ++ v = s :=
  ⟨s.rtakeWhile p, fun _ hc => List.mem_rtakeWhile_imp hc, List.rdropWhile_append_rtakeWhile⟩

/-- No such character is left at the end. -/
theorem getLast?_dropRightWhile (p : Char → Bool) (s : Text) : ∀ c ∈ (dropRightWhile p s).getLast?, p c = false := by
  intro c hc
  obtain ⟨hne, rfl⟩ := List.mem_getLast?_eq_getLast hc
  exact Bool.eq_false_iff.2 (List.rdropWhile_last_not p s hne)

/-- The second text is the first one without the blanks at its ends. -/
structure Trimmed (s t : Text) : Prop where
  cut : ∃ front back, s = front ++ t ++ back ∧ (∀ c ∈ front, isBlank c) ∧ ∀ c ∈ back, isBlank c
  head : ∀ c ∈ t.head?, isBlank c = false
  last : ∀ c ∈ t.getLast?, isBlank c = false

theorem Trimmed.surrounded {s t front back : Text} (h : Trimmed s t) (hfront : ∀ c ∈ front, isBlank c)
    (hback : ∀ c ∈ back, isBlank c) : Trimmed (front ++ s ++ back) t := by
  obtain ⟨before, behind, rfl, hbefore, hbehind⟩ := h.cut
  refine ⟨⟨front ++ before, behind ++ back, by simp, ?_, ?_⟩, h.head, h.last⟩
  · exact List.forall_mem_append.2 ⟨hfront, hbefore⟩
  · exact List.forall_mem_append.2 ⟨hbehind, hback⟩

private theorem trimmed_trim (s : Text) : Trimmed s (trim s) := by
  obtain ⟨back, hback, hdrop⟩ := exists_dropRightWhile_append isBlank (s.dropWhile isBlank)
  change ∀ c ∈ back, isBlank c at hback
  change trim s ++ back = s.dropWhile isBlank at hdrop
  constructor
  case cut =>
    refine ⟨s.takeWhile isBlank, back, ?_, fun c hc => List.mem_takeWhile_imp hc, hback⟩
    rw [List.append_assoc, hdrop, List.takeWhile_append_dropWhile]
  case head =>
    intro c hc
    have hhead := List.head?_dropWhile_not isBlank s
    rw [← hdrop, List.head?_append, Option.mem_def.1 hc] at hhead
    exact hhead
  case last => exact getLast?_dropRightWhile isBlank _

/-- There is one way only to take the blanks from the ends of a text. -/
theorem trim_eq_iff {s t : Text} : trim s = t ↔ Trimmed s t := by
  constructor
  · rintro rfl
    exact trimmed_trim s
  · rintro ⟨⟨front, back, rfl, hfront, hback⟩, hhead, hlast⟩
    have hdrop : (t ++ back).dropWhile isBlank = t ++ back ∨ t = [] := by
      cases t with
      | nil => exact .inr rfl
      | cons c t =>
        left
        rw [List.cons_append, List.dropWhile_cons_of_neg]
        simpa using hhead c rfl
    rw [trim, List.append_assoc, List.dropWhile_append_of_pos hfront]
    rcases hdrop with hdrop | rfl
    · rw [hdrop, dropRightWhile_append hback hlast]
    · rw [List.nil_append, List.dropWhile_eq_nil_iff.2 hback]
      rfl

end Text

end SheetQuery
