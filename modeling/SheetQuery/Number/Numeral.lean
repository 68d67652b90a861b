import SheetQuery.Number.Binary64

/-!
# Decimal numerals

Decimal numbers as texts write them: a sign, digits with at most one point, and an exponent. `Numeral.read`
takes one off the front of a text, `Binary64.ofText?` reads a whole text.
-/

namespace SheetQuery

structure Numeral where
  negative : Bool
  digits : Nat
  exponent : Int
  /-- Neither a point nor an exponent is written. -/
  whole : Bool
deriving DecidableEq

namespace Numeral

/-- The exponent at the front of a text, and the text behind it. -/
def readExponent (s : Text) : Option (Int × Text) :=
  match s with
  | e :: rest =>
    if e = 'e' ∨ e = 'E' then
      let negative := rest.head? == some '-'
      let body := if negative || rest.head? == some '+' then rest.drop 1 else rest
      let ds := body.takeWhile Char.isDigit
      if ds.isEmpty then none
      else
        let n : Int := Text.digitsValue ds
        some (if negative then -n else n, body.dropWhile Char.isDigit)
    else none
  | [] => none

/-- The number at the front of a text, and the text behind it. -/
def read (s : Text) : Option (Numeral × Text) :=
  let negative := s.head? == some '-'
  let s := if negative || s.head? == some '+' then s.drop 1 else s
  let whole := s.takeWhile Char.isDigit
  let rest := s.dropWhile Char.isDigit
  let hasPoint := rest.head? == some '.'
  let fraction := if hasPoint then (rest.drop 1).takeWhile Char.isDigit else []
  let rest := if hasPoint then (rest.drop 1).dropWhile Char.isDigit else rest
  if whole.isEmpty && fraction.isEmpty then none
  else
    let digits := Text.digitsValue (whole ++ fraction)
    match readExponent rest with
    | some (e, rest) => some (⟨negative, digits, e - fraction.length, false⟩, rest)
    | none => some (⟨negative, digits, -fraction.length, !hasPoint⟩, rest)

def integer (n : Numeral) : Int := if n.negative then -n.digits else n.digits

def toBinary64 (n : Numeral) : Binary64 :=
  let x := Binary64.ofDecimal n.digits n.exponent
  if n.negative then x.negate else x

end Numeral

namespace Binary64

def nan : Binary64 := ⟨0x7FF8000000000000⟩

def ofWord? (s : Text) : Option Binary64 :=
  let negative := s.head? == some '-'
  let word := String.ofList (Text.lower (if negative || s.head? == some '+' then s.drop 1 else s))
  let signed (x : Binary64) : Binary64 := if negative then x.negate else x
  if word == "inf" || word == "infinity" then some (signed infinity)
  else if word == "nan" then some (signed nan)
  else none

def ofText? (s : Text) : Option Binary64 :=
  match Numeral.read s with
  | some (n, []) => some n.toBinary64
  | some _ => none
  | none => ofWord? s

end Binary64

end SheetQuery
