import SheetQuery.Text.Basic

/-!
# Blank characters

The characters with the Unicode property White_Space, trimming them from both ends of a text, and the
words between them.
-/

namespace SheetQuery.Text

/-- The code points with the property White_Space. -/
def blankRanges : List (Nat × Nat) :=
  [(0x9, 0xD), (0x20, 0x20), (0x85, 0x85), (0xA0, 0xA0), (0x1680, 0x1680), (0x2000, 0x200A),
   (0x2028, 0x2029), (0x202F, 0x202F), (0x205F, 0x205F), (0x3000, 0x3000)]

def isBlank (c : Char) : Bool := inRanges blankRanges c

def trim (s : Text) : Text := dropRightWhile isBlank (s.dropWhile isBlank)

/-- The maximal blocks of characters that are not blank. -/
def words (s : Text) : List Text := runs (fun c => !isBlank c) s

end SheetQuery.Text
