import SheetQuery.Encoding.ChineseTables
import SheetQuery.Encoding.Decode
import SheetQuery.Encoding.Tables

/-!
# Encodings with tables

A reader of the encodings that need a table of characters: GBK, gb18030 and five single-byte ones as a
whole, and of the others the ASCII characters.
-/

namespace SheetQuery.Encoding

/-- The character of a byte of an encoding whose upper half is `table`. -/
def singleByte? (table : List Nat) (b : UInt8) : Option Char :=
  let n := b.toNat
  if n < 0x80 then some (Char.ofNat n)
  else
    match table[n - 0x80]? with
    | some code => if code = 0xFFFD then none else some (Char.ofNat code)
    | none => none

/-- The character of a two-byte code: 190 second bytes follow each first one. -/
def doubleByte? (a b : UInt8) : Option Char :=
  let n := b.toNat
  if n < 0x40 ∨ n = 0x7F ∨ n = 0xFF then none
  else
    let number := (a.toNat - 0x81) * 190 + (n - if n < 0x7F then 0x40 else 0x41)
    (doubleByteRows[number / 95]?).bind fun row => row.toList[number % 95]?

def fourByte? (number : Nat) : Option Char :=
  (fourByteTable.find? fun r => r.1 ≤ number && number < r.1 + r.2.2).map
    fun r => Char.ofNat (r.2.1 + (number - r.1))

/-- The text of bytes in the encodings GBK and gb18030, which read alike. -/
def chinese? : Bytes → Option Text
  | [] => some []
  | a :: rest =>
    if a.toNat < 0x80 then (chinese? rest).map (Char.ofNat a.toNat :: ·)
    else if a.toNat = 0x80 then (chinese? rest).map ('€' :: ·)
    else if a.toNat = 0xFF then none
    else
      match rest with
      | [] => none
      | b :: rest =>
        if 0x30 ≤ b.toNat ∧ b.toNat ≤ 0x39 then
          match rest with
          | c :: d :: rest =>
            if 0x81 ≤ c.toNat ∧ c.toNat ≤ 0xFE ∧ 0x30 ≤ d.toNat ∧ d.toNat ≤ 0x39 then
              match fourByte? ((((a.toNat - 0x81) * 10 + (b.toNat - 0x30)) * 126 + (c.toNat - 0x81)) * 10
                  + (d.toNat - 0x30)) with
              | some ch => (chinese? rest).map (ch :: ·)
              | none => none
            else none
          | _ => none
        else
          match doubleByte? a b with
          | some ch => (chinese? rest).map (ch :: ·)
          | none => none

def tabled? (encoding : Encoding) (bytes : Bytes) : Option Text :=
  match encoding with
  | .windows1252 => Utf8.allSome (bytes.map (singleByte? windows1252Table))
  | .windows1251 => Utf8.allSome (bytes.map (singleByte? windows1251Table))
  | .windows1253 => Utf8.allSome (bytes.map (singleByte? windows1253Table))
  | .koi8r => Utf8.allSome (bytes.map (singleByte? koi8rTable))
  | .iso8859_15 => Utf8.allSome (bytes.map (singleByte? iso8859_15Table))
  | .gbk | .gb18030 => chinese? bytes
  | _ => Utf8.allSome (bytes.map (singleByte? []))

end SheetQuery.Encoding
