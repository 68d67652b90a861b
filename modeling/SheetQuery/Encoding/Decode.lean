import SheetQuery.Encoding.Basic
import SheetQuery.Text.Utf8

/-!
# Decoding bytes

Bytes become a text in an encoding, or none if some part of them has no character in it. A byte order
mark at the front overrides the encoding that was asked for and is dropped. The encodings that need a
table of characters are left to a reader of their own.
-/

namespace SheetQuery.Encoding

/-- The 16-bit units of a text of two bytes each; an odd number of bytes has none. -/
def units? (bigEndian : Bool) : Bytes → Option (List Nat)
  | [] => some []
  | [_] => none
  | a :: b :: rest =>
    let unit := if bigEndian then a.toNat * 256 + b.toNat else b.toNat * 256 + a.toNat
    (units? bigEndian rest).map (unit :: ·)

/-- The text of 16-bit units; half of a surrogate pair has none. -/
def ofUnits? : List Nat → Option Text
  | [] => some []
  | [u] => if 0xD800 ≤ u ∧ u < 0xE000 then none else some [Char.ofNat u]
  | u :: v :: rest =>
    if 0xD800 ≤ u ∧ u < 0xDC00 then
      if 0xDC00 ≤ v ∧ v < 0xE000 then
        (ofUnits? rest).map (Char.ofNat (0x10000 + (u - 0xD800) * 0x400 + (v - 0xDC00)) :: ·)
      else none
    else if 0xDC00 ≤ u ∧ u < 0xE000 then none
    else (ofUnits? (v :: rest)).map (Char.ofNat u :: ·)

/-- The text of bytes in an encoding, byte order marks aside; `other` reads the encodings that are neither
Unicode nor made up of byte ranges. -/
def decodeBody (other : Encoding → Bytes → Option Text) (encoding : Encoding) (bytes : Bytes) : Option Text :=
  match encoding with
  | .utf8 => Utf8.decode bytes
  | .utf16le => (units? false bytes).bind ofUnits?
  | .utf16be => (units? true bytes).bind ofUnits?
  | .userDefined =>
    some (bytes.map fun b => Char.ofNat (if b.toNat < 0x80 then b.toNat else 0xF700 + b.toNat))
  | .replacement => if bytes.isEmpty then some [] else none
  | _ => other encoding bytes

/-- The text of bytes: a byte order mark at the front decides on the encoding and is dropped. -/
def decode (other : Encoding → Bytes → Option Text) (encoding : Encoding) : Bytes → Option Text
  | 0xEF :: 0xBB :: 0xBF :: rest => decodeBody other .utf8 rest
  | 0xFF :: 0xFE :: rest => decodeBody other .utf16le rest
  | 0xFE :: 0xFF :: rest => decodeBody other .utf16be rest
  | bytes => decodeBody other encoding bytes

end SheetQuery.Encoding
