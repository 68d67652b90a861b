import SheetQuery.Number.Numeral
import SheetQuery.Text.Utf8

/-!
# Values

What a cell of the database holds, how values are ordered, and how they turn into one another.

* `Value.order` is the order of sorting: nulls, numbers, texts, blobs.
* `Value.store` turns a value into what a column of an affinity keeps.
* `Value.display` is the text of a value in a result.
-/

namespace SheetQuery.Sql

inductive Value where
  | null
  | integer (i : Int)
  | real (x : Binary64)
  | text (s : Text)
  | blob (b : Bytes)
deriving DecidableEq, Inhabited

inductive Affinity where
  | text
  | numeric
  | integer
  | real
  | blob
deriving DecidableEq, Repr

def minInteger : Int := -9223372036854775808

def maxInteger : Int := 9223372036854775807

/-- The character is a space inside a statement or around a number. -/
def isSpace (c : Char) : Bool :=
  c = ' ' || c = '\t' || c = '\n' || c = '\x0b' || c = '\x0c' || c = '\r'

/-- An integer if it fits 64 bits, else the nearest floating point number. -/
def Value.ofInt (i : Int) : Value :=
  if minInteger ≤ i ∧ i ≤ maxInteger then .integer i else .real (Binary64.ofInt i)

/-- A floating point number; one that is no number is null. -/
def Value.ofReal (x : Binary64) : Value := if x.isNaN then .null else .real x

/-- The value of a number: an integer if it is written as one and fits. -/
def Value.ofNumeral (n : Numeral) : Value :=
  if n.whole && minInteger ≤ n.integer && n.integer ≤ maxInteger then .integer n.integer
  else .ofReal n.toBinary64

namespace Value

def asText : Value → Text
  | .null => []
  | .integer i => Text.ofInt i
  | .real x => x.general
  | .text s => s
  | .blob b => Utf8.decodeLossy b

/-- A floating point number without fraction that fits 64 bits becomes an integer. -/
def wholeReal (x : Binary64) : Value :=
  if x.isFinite then
    let i := x.truncate
    if minInteger < i && i < maxInteger && Binary64.orderInt i x == .eq then .integer i else .real x
  else .real x

def numberOfText (s : Text) : Option Value :=
  match Numeral.read (s.dropWhile isSpace) with
  | some (n, rest) => if rest.all isSpace then some (.ofNumeral n) else none
  | none => none

/-- The number at the front of a text, zero if there is none. -/
def leadingNumber (s : Text) : Value :=
  match Numeral.read (s.dropWhile isSpace) with
  | some (n, _) => .ofNumeral n
  | none => .integer 0

/-- The integer at the front of a text, as far as 64 bits go. -/
def leadingInteger (s : Text) : Value :=
  let s := s.dropWhile isSpace
  let negative := s.head? == some '-'
  let digits := (if negative || s.head? == some '+' then s.drop 1 else s).takeWhile Char.isDigit
  let n : Int := Text.digitsValue digits
  .integer (max minInteger (min maxInteger (if negative then -n else n)))

def asNumber : Value → Value
  | .text s => leadingNumber s
  | .blob b => leadingNumber (Utf8.decodeLossy b)
  | v => v

/-- A text becomes a number if it writes one. -/
def toNumeric : Value → Value
  | .text s => (numberOfText s).getD (.text s)
  | v => v

def toWhole : Value → Value
  | .real x => wholeReal x
  | v => v

/-- What a column of the affinity keeps of a value. -/
def store : Affinity → Value → Value
  | .text, .integer i => .text (Text.ofInt i)
  | .text, .real x => .text x.general
  | .numeric, v | .integer, v => v.toNumeric.toWhole
  | .real, v =>
    match v.toNumeric with
    | .integer i => .real (Binary64.ofInt i)
    | v => v
  | _, v => v

def cast : Affinity → Value → Value
  | _, .null => .null
  | .text, v => .text v.asText
  | .blob, .blob b => .blob b
  | .blob, v => .blob (Utf8.encode v.asText)
  | .real, v =>
    match v.asNumber with
    | .integer i => .real (Binary64.ofInt i)
    | v => v
  | .integer, .real x =>
    if !x.isFinite then .integer (if x.isNegative then minInteger else maxInteger)
    else .integer (max minInteger (min maxInteger x.truncate))
  | .integer, .text s => leadingInteger s
  | .integer, .blob b => leadingInteger (Utf8.decodeLossy b)
  | .integer, v => v
  | .numeric, .real x => .real x
  | .numeric, v => v.asNumber.toWhole

def rank : Value → Nat
  | .null => 0
  | .integer _ | .real _ => 1
  | .text _ => 2
  | .blob _ => 3

def orderLists {α : Type} (toNat : α → Nat) : List α → List α → Ordering
  | [], [] => .eq
  | [], _ => .lt
  | _, [] => .gt
  | a :: s, b :: t => (compare (toNat a) (toNat b)).then (orderLists toNat s t)

def order : Value → Value → Ordering
  | .integer i, .integer j => compare i j
  | .integer i, .real y => Binary64.orderInt i y
  | .real x, .integer j => (Binary64.orderInt j x).swap
  | .real x, .real y => Binary64.order x y
  | .text s, .text t => orderLists Char.toNat s t
  | .blob s, .blob t => orderLists UInt8.toNat s t
  | v, w => compare v.rank w.rank

def display : Value → Text
  | .null => "NULL".toList
  | .integer i => Text.ofInt i
  | .real x => x.shortest
  | .text s => s
  | .blob b => "<blob ".toList ++ Text.decimal b.length ++ " bytes>".toList

def className : Value → Text
  | .null => "Null".toList
  | .integer _ => "Integer".toList
  | .real _ => "Real".toList
  | .text _ => "Text".toList
  | .blob _ => "Blob".toList

/-- The truth of a value in a condition: null is unknown, and a number is true unless it is zero. -/
def truth (v : Value) : Option Bool :=
  match v.asNumber with
  | .null => none
  | .integer i => some (i != 0)
  | .real x => some (!x.isZero)
  | _ => some false

def ofTruth : Option Bool → Value
  | none => .null
  | some true => .integer 1
  | some false => .integer 0

end Value

/-- The affinity of a column of a declared type. -/
def Affinity.ofType (type : Text) : Affinity :=
  let has (part : String) : Bool := Text.occursIn part.toList (Text.lower type)
  if has "int" then .integer
  else if has "char" || has "clob" || has "text" then .text
  else if has "blob" || type.isEmpty then .blob
  else if has "real" || has "floa" || has "doub" then .real
  else .numeric

end SheetQuery.Sql
