/-!
# Texts

A text is a list of Unicode characters. This module has the operations that every other module
builds on: names compared without regard to the case of ASCII letters, occurrences and their
replacement, maximal runs of a class of characters, and numbers in decimal.

* `replaceAll pattern replacement s` replaces the occurrences of `pattern` from left to right; what
  it inserts is never searched again.
* `runs p s` lists the maximal blocks of characters of `s` that satisfy `p`.
-/

namespace SheetQuery

/-- A text is a list of Unicode characters. -/
abbrev Text := List Char

def sumOf {α : Type} (measure : α → Nat) (l : List α) : Nat := l.foldr (fun a n => measure a + n) 0

namespace Text

/-- The ASCII letters in lower case; every other character is kept. -/
def lower (s : Text) : Text := s.map Char.toLower

/-- Two names are the same when they differ at most in the case of ASCII letters. -/
def sameName (a b : Text) : Bool := lower a == lower b

theorem sameName_iff {a b : Text} : sameName a b ↔ lower a = lower b := beq_iff_eq

theorem sameName_comm (a b : Text) : sameName a b = sameName b a := Bool.beq_comm

theorem sameName_congr_left {a b : Text} (h : sameName a b) (c : Text) : sameName a c = sameName b c := by
  rw [sameName, sameName, sameName_iff.1 h]

def occursIn (needle : Text) : Text → Bool
  | [] => needle.isEmpty
  | c :: s => needle.isPrefixOf (c :: s) || occursIn needle s

/-- Replacement from left to right; `skip` counts the characters still to drop of the occurrence that
was replaced last. -/
def replaceFrom (pattern replacement : Text) : Nat → Text → Text
  | _, [] => []
  | skip + 1, _ :: s => replaceFrom pattern replacement skip s
  | 0, c :: s =>
    if pattern.isPrefixOf (c :: s) then
      replacement ++ replaceFrom pattern replacement (pattern.length - 1) s
    else c :: replaceFrom pattern replacement 0 s

/-- Every occurrence of the non-empty `pattern`, searched from left to right without overlap, gives
way to `replacement`. -/
def replaceAll (pattern replacement s : Text) : Text := replaceFrom pattern replacement 0 s

/-- The runs of `p`, with the characters of the run under way in reverse. -/
def runsFrom (p : Char → Bool) (current : Text) : Text → List Text
  | [] => if current.isEmpty then [] else [current.reverse]
  | c :: s =>
    if p c then runsFrom p (c :: current) s
    else if current.isEmpty then runsFrom p [] s
    else current.reverse :: runsFrom p [] s

/-- The maximal blocks of consecutive characters that satisfy `p`, from left to right. -/
def runs (p : Char → Bool) (s : Text) : List Text := runsFrom p [] s

/-- The texts one after the other, with `separator` between neighbours. -/
def joinWith (separator : Text) (parts : List Text) : Text := separator.intercalate parts

def decimal (n : Nat) : Text := Nat.toDigits 10 n

def ofInt : Int → Text
  | .ofNat n => decimal n
  | .negSucc n => '-' :: decimal (n + 1)

def hexadecimal (n : Nat) : Text := Nat.toDigits 16 n

def dropRightWhile (p : Char → Bool) (s : Text) : Text := (s.reverse.dropWhile p).reverse

def digitValue? (c : Char) : Option Nat :=
  if '0' ≤ c ∧ c ≤ '9' then some (c.toNat - '0'.toNat) else none

def hexValue? (c : Char) : Option Nat :=
  if '0' ≤ c ∧ c ≤ '9' then some (c.toNat - '0'.toNat)
  else if 'a' ≤ c ∧ c ≤ 'f' then some (c.toNat - 'a'.toNat + 10)
  else if 'A' ≤ c ∧ c ≤ 'F' then some (c.toNat - 'A'.toNat + 10)
  else none

/-- The number that a text of decimal digits writes; other characters count as zero. -/
def digitsValue (s : Text) : Nat := s.foldl (fun n c => 10 * n + (digitValue? c).getD 0) 0

def hexDigitsValue (s : Text) : Nat := s.foldl (fun n c => 16 * n + (hexValue? c).getD 0) 0

def inRanges (ranges : List (Nat × Nat)) (c : Char) : Bool :=
  ranges.any fun r => r.1 ≤ c.toNat && c.toNat ≤ r.2

def sorted (l : List Text) : List Text := l.mergeSort fun a b => !decide (b < a)

theorem lt_or_eq_or_lt (a b : Text) : a < b ∨ a = b ∨ b < a := by
  induction a generalizing b with
  | nil => cases b <;> simp
  | cons c s ih =>
    cases b with
    | nil => simp
    | cons d t =>
      simp only [List.cons_lt_cons_iff, List.cons.injEq]
      by_cases h : c = d
      · subst h
        rcases ih t with h | h | h <;> simp [h]
      · have hne : c.val.toNat ≠ d.val.toNat := fun e => h (Char.ext (UInt32.toNat_inj.1 e))
        have hlt : c < d ∨ d < c := by
          simp only [Char.lt_def, UInt32.lt_iff_toNat_lt]
          omega
        rcases hlt with h | h <;> simp [h]

end Text

end SheetQuery
