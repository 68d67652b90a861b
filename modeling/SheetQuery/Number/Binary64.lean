import SheetQuery.Text.Basic

/-!
# Binary floating point numbers

A number of 64 bits as its bit pattern. A finite number is a sign and a natural number times a power
of two, and what is written of it is decided on those by exact arithmetic on natural numbers.

* `shortestDigits` finds the fewest decimal digits that read back as the same number, and of those the
  nearest to it.
* `roundedDigits` rounds to a given number of significant digits, halves away from zero.
* `positional` writes digits without an exponent, `general` with one outside a range.
-/

namespace SheetQuery

structure Binary64 where
  bits : UInt64
deriving DecidableEq, Inhabited

namespace Binary64

def ofFloat (x : Float) : Binary64 := ⟨x.toBits⟩

def toFloat (x : Binary64) : Float := Float.ofBits x.bits

def isNegative (x : Binary64) : Bool := x.bits ≥ 0x8000000000000000

/-- The number of fractions; the bit that a normal number has above its fraction. -/
def hiddenBit : Nat := 4503599627370496

def exponentBits (x : Binary64) : Nat := x.bits.toNat / hiddenBit % 2048

def fractionBits (x : Binary64) : Nat := x.bits.toNat % hiddenBit

def isNaN (x : Binary64) : Bool := x.exponentBits == 2047 && x.fractionBits != 0

def isInfinite (x : Binary64) : Bool := x.exponentBits == 2047 && x.fractionBits == 0

def isFinite (x : Binary64) : Bool := x.exponentBits != 2047

/-- The significand m of a finite number m · 2^q. -/
def significand (x : Binary64) : Nat :=
  if x.exponentBits = 0 then x.fractionBits else hiddenBit + x.fractionBits

/-- The scale q of a finite number m · 2^q. -/
def scale (x : Binary64) : Int :=
  if x.exponentBits = 0 then -1074 else (x.exponentBits : Int) - 1075

def isZero (x : Binary64) : Bool := x.isFinite && x.significand == 0

def add (x y : Binary64) : Binary64 := ofFloat (x.toFloat + y.toFloat)

def sub (x y : Binary64) : Binary64 := ofFloat (x.toFloat - y.toFloat)

def mul (x y : Binary64) : Binary64 := ofFloat (x.toFloat * y.toFloat)

def div (x y : Binary64) : Binary64 := ofFloat (x.toFloat / y.toFloat)

def negate (x : Binary64) : Binary64 := ⟨x.bits ^^^ 0x8000000000000000⟩

def infinity : Binary64 := ⟨0x7FF0000000000000⟩

def zero : Binary64 := ⟨0⟩

/-- The number nearest to `digits` · 10^`exponent`; ties go to the even neighbour. -/
def ofDecimal (digits : Nat) (exponent : Int) : Binary64 :=
  let magnitude := exponent + (Nat.toDigits 10 digits).length
  -- Far outside the range the result is known without the powers of ten.
  if digits = 0 then zero
  else if magnitude > 310 then infinity
  else if magnitude < -330 then zero
  else ofFloat (Float.ofScientific digits (exponent < 0) exponent.natAbs)

def ofInt (i : Int) : Binary64 :=
  let x := ofDecimal i.natAbs 0
  if i < 0 then x.negate else x

/-- Compares m · 2^p with n · 2^q for integers m and n. -/
def compareScaled (m p n q : Int) : Ordering :=
  let low := min p q
  compare (m * Nat.pow 2 (p - low).toNat) (n * Nat.pow 2 (q - low).toNat)

def signed (x : Binary64) : Int := if x.isNegative then -x.significand else x.significand

/-- The order of the numbers; an infinity lies beyond every finite number. -/
def order (x y : Binary64) : Ordering :=
  if x.isFinite && y.isFinite then compareScaled x.signed x.scale y.signed y.scale
  else if x.bits == y.bits then .eq
  else if x.isInfinite then (if x.isNegative then .lt else .gt)
  else if y.isNegative then .gt else .lt

def orderInt (i : Int) (x : Binary64) : Ordering :=
  if x.isFinite then compareScaled i 0 x.signed x.scale
  else if x.isNegative then .gt else .lt

def truncate (x : Binary64) : Int :=
  let whole : Nat :=
    if x.scale ≥ 0 then x.significand * Nat.pow 2 x.scale.toNat
    else x.significand / Nat.pow 2 (-x.scale).toNat
  if x.isNegative then -whole else whole

structure Decimal where
  digits : Nat
  exponent : Int
deriving DecidableEq

def compareDecimal (a : Nat) (i : Int) (n : Nat) (j : Int) : Ordering :=
  compare (a * Nat.pow 10 i.toNat * Nat.pow 2 (-j).toNat) (n * Nat.pow 2 j.toNat * Nat.pow 10 (-i).toNat)

/-- The decimal lies among the reals that round to the positive finite number `x`: at most half a gap
away, and exactly half only if the significand is even. The gap below a power of two is half as wide. -/
def readsBack (x : Binary64) (d : Decimal) : Bool :=
  -- Everything is counted in quarters of the gap above `x`.
  let narrow := x.fractionBits == 0 && x.exponentBits > 1
  let low := if narrow then 4 * x.significand - 1 else 4 * x.significand - 2
  let high := 4 * x.significand + 2
  let included := x.significand % 2 == 0
  let atLow := compareDecimal d.digits d.exponent low (x.scale - 2)
  let atHigh := compareDecimal d.digits d.exponent high (x.scale - 2)
  (atLow == .gt || (included && atLow == .eq)) && (atHigh == .lt || (included && atHigh == .eq))

def quotient (m : Nat) (q e : Int) : Nat :=
  m * Nat.pow 2 q.toNat * Nat.pow 10 (-e).toNat / (Nat.pow 2 (-q).toNat * Nat.pow 10 e.toNat)

/-- The least k up to `limit` steps above `k` with m · 2^q < 10^k. -/
def magnitudeFrom (m : Nat) (q : Int) : Nat → Int → Int
  | 0, k => k
  | limit + 1, k => if quotient m q k = 0 then k else magnitudeFrom m q limit (k + 1)

/-- The number of digits before the point of a positive finite number, negative for leading zeros after
it: the least k with x < 10^k. -/
def magnitude (x : Binary64) : Int :=
  let bitLength : Int := Nat.log2 x.significand + x.scale
  -- 30103 / 100000 is just above the decimal logarithm of two, so the search starts at most a few below.
  magnitudeFrom x.significand x.scale 6 (bitLength * 30103 / 100000 - 1)

/-- The decimal of the grid 10^`e` that is nearest to `x` among its two neighbours there that read back;
a tie goes up. -/
def nearestOnGrid (x : Binary64) (e : Int) : Option Decimal :=
  let low := quotient x.significand x.scale e
  let lowFits := low != 0 && x.readsBack ⟨low, e⟩
  let highFits := x.readsBack ⟨low + 1, e⟩
  if lowFits && highFits then
    if compareDecimal (2 * low + 1) e (2 * x.significand) x.scale == .gt then some ⟨low, e⟩
    else some ⟨low + 1, e⟩
  else if lowFits then some ⟨low, e⟩
  else if highFits then some ⟨low + 1, e⟩
  else none

def stripZeros : Nat → Decimal → Decimal
  | 0, d => d
  | limit + 1, d =>
    if d.digits != 0 && d.digits % 10 == 0 then stripZeros limit ⟨d.digits / 10, d.exponent + 1⟩ else d

/-- The fewest decimal digits that read back as the positive finite number `x`: grids of one digit, of
two, and so on up to seventeen. -/
def shortestDigits (x : Binary64) : Decimal :=
  let k := x.magnitude
  let found := (List.range 17).findSome? fun n => x.nearestOnGrid (k - (n + 1 : Nat))
  stripZeros 20 (found.getD ⟨quotient x.significand x.scale (k - 17), k - 17⟩)

/-- The positive finite number `x` rounded to `count` significant digits, a half away from zero. -/
def roundedDigits (count : Nat) (x : Binary64) : Decimal :=
  let e := x.magnitude - count
  let low := quotient x.significand x.scale e
  let up := compareDecimal (2 * low + 1) e (2 * x.significand) x.scale != .gt
  stripZeros 20 ⟨if up then low + 1 else low, e⟩

def Decimal.positional (d : Decimal) : Text :=
  let ds := Text.decimal d.digits
  if d.exponent ≥ 0 then ds ++ List.replicate d.exponent.toNat '0'
  else
    let places := (-d.exponent).toNat
    let padded := List.replicate (places + 1 - ds.length) '0' ++ ds
    padded.take (padded.length - places) ++ '.' :: padded.drop (padded.length - places)

def Decimal.scientific (d : Decimal) : Text :=
  let ds := Text.decimal d.digits
  let e : Int := d.exponent + (ds.length - 1 : Nat)
  let fraction := if ds.length ≤ 1 then ['0'] else ds.drop 1
  let power := Text.decimal e.natAbs
  ds.take 1 ++ '.' :: fraction ++ 'e' :: (if e < 0 then '-' else '+') ::
    (List.replicate (2 - power.length) '0' ++ power)

/-- The shortest form without an exponent: `0.1`, `1`, `-0`, `inf`. -/
def shortest (x : Binary64) : Text :=
  if x.isNaN then "NaN".toList
  else
    let body : Text :=
      if x.isInfinite then "inf".toList
      else if x.isZero then ['0']
      else x.shortestDigits.positional
    if x.isNegative then '-' :: body else body

/-- Fifteen significant digits with at least one after the point, with an exponent below 10^-4 and from
10^15 on. -/
def general (x : Binary64) : Text :=
  if x.isNaN then []
  else if x.isInfinite then (if x.isNegative then "-Inf" else "Inf").toList
  else if x.isZero then "0.0".toList
  else
    let d := x.roundedDigits 15
    let leading : Int := d.exponent + ((Text.decimal d.digits).length - 1 : Nat)
    let body : Text :=
      if leading < -4 ∨ leading > 14 then d.scientific
      else if d.exponent ≥ 0 then d.positional ++ ['.', '0']
      else d.positional
    if x.isNegative then '-' :: body else body

end Binary64

end SheetQuery
