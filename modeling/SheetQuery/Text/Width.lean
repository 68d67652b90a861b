import SheetQuery.Text.WidthTable

/-!
# Display width

How many cells of a terminal a text takes. Most characters take one cell, wide ones two and marks none,
but some sequences are drawn as one sign. The text is read from right to left, so that every character
is seen together with what stands to the right of it (`Following`).

* `width s` is the number of cells of a text.
* `visibleWidth s` leaves out colour sequences, from an escape character to the next `m`.
-/

namespace SheetQuery.Text

/-- What begins directly to the right of a character, as far as it matters for the cells they take
together. Letters that can join over a zero width joiner say whether one stands in front of them. -/
inductive Following where
  | other
  | lineFeed
  | emoji
  /-- A joiner, and then a sign shown as an emoji. -/
  | joinedEmoji
  | skinTone
  | alef
  | lamed (joined : Bool)
  | khmerLetter
  | bugineseYa (joined : Bool)
  | bugineseVowelYa
  | tifinagh (joined : Bool)
  | tifinaghJoiner
  | lisuTone
  | orkhonI (joined : Bool)
  | kiratRaiE
  | kiratRaiAi
deriving DecidableEq

/-- A variation selector asks for one of two styles. -/
inductive Style where
  | asEmoji
  | asText
deriving DecidableEq

/-- The right-hand side of a character: a selector directly behind it, and what follows then. -/
structure Right where
  selector : Option Style
  following : Following
deriving DecidableEq

namespace Following

/-- Marks and joiners in between do not hide what follows. -/
def seenThroughMarks : Following → Bool
  | .lamed _ | .khmerLetter | .bugineseYa _ | .bugineseVowelYa | .tifinagh _ | .tifinaghJoiner
  | .lisuTone | .orkhonI _ | .kiratRaiE | .kiratRaiAi => true
  | _ => false

def seenThroughSelector (f : Following) : Bool := f.seenThroughMarks || f == .joinedEmoji || f == .alef

def join : Following → Following
  | .lamed _ => .lamed true
  | .bugineseYa _ => .bugineseYa true
  | .tifinagh _ => .tifinagh true
  | .orkhonI _ => .orkhonI true
  | f => f

end Following

def Right.plain : Right := ⟨none, .other⟩

/-- The marks that leave a ligature in one piece. -/
def ligatureMarkRanges : List (Nat × Nat) :=
  [(0x34F, 0x34F), (0x17B4, 0x17B5), (0x180B, 0x180D), (0x180F, 0x180F), (0x200D, 0x200D),
   (0xFE00, 0xFE0F), (0xE0100, 0xE01EF)]

def lamRanges : List (Nat × Nat) :=
  [(0x644, 0x644), (0x6B5, 0x6B8), (0x76A, 0x76A), (0x8A6, 0x8A6), (0x8C7, 0x8C7)]

def alefRanges : List (Nat × Nat) :=
  [(0x622, 0x623), (0x625, 0x625), (0x627, 0x627), (0x671, 0x673), (0x675, 0x675), (0x773, 0x774),
   (0x870, 0x882)]

/-- The Khmer letters that take no cell below the letter in front of them. -/
def khmerLetterRanges : List (Nat × Nat) :=
  [(0x1780, 0x1782), (0x1784, 0x1787), (0x1789, 0x178C), (0x178E, 0x1793), (0x1795, 0x1798),
   (0x179B, 0x179D), (0x17A0, 0x17A0), (0x17A2, 0x17A2), (0x17A7, 0x17A7), (0x17AB, 0x17AC),
   (0x17AF, 0x17AF)]

def tifinaghRanges : List (Nat × Nat) := [(0x2D31, 0x2D65), (0x2D6F, 0x2D6F)]

def skinToneRanges : List (Nat × Nat) := [(0x1F3FB, 0x1F3FF)]

def cells (c : Char) : Nat :=
  if c.toNat ≤ 0xA0 then 1
  else if c.toNat = 0x17D8 then 3
  else if inRanges zeroWidthRanges c then 0
  else if inRanges wideRanges c then 2
  else 1

/-- What a character is to the one in front of it. -/
def role (c : Char) : Following :=
  if inRanges emojiRanges c then .emoji
  else if inRanges skinToneRanges c then .skinTone
  else if inRanges alefRanges c then .alef
  else if inRanges khmerLetterRanges c then .khmerLetter
  else if inRanges tifinaghRanges c then .tifinagh false
  -- Hebrew lamed, Buginese ya, Lisu tones, Orkhon i and the Kirat Rai vowels e and ai.
  else if c.toNat = 0x5DC then .lamed false
  else if c.toNat = 0x1A10 then .bugineseYa false
  else if c.toNat = 0xA4FC ∨ c.toNat = 0xA4FD then .lisuTone
  else if c.toNat = 0x10C03 then .orkhonI false
  else if c.toNat = 0x16D67 then .kiratRaiE
  else if c.toNat = 0x16D68 then .kiratRaiAi
  else .other

/-- The sign that a character of code point `n` forms with what follows: the cells it adds, and what it
is to the character in front. -/
def combined (c : Char) : Following → Option (Int × Following)
  | .alef =>
    if inRanges lamRanges c then some (0, .other)
    else if inRanges transparentJoinRanges c then some (0, .alef)
    else none
  | .lamed true => if c.toNat = 0x5D0 then some (0, .other) else none
  | .khmerLetter => if c.toNat = 0x17D2 then some (-1, .other) else none
  | .bugineseYa true => if c.toNat = 0x1A17 then some (0, .bugineseVowelYa) else none
  | .bugineseVowelYa => if c.toNat = 0x1A15 then some (0, .other) else none
  | .tifinagh joined =>
    if c.toNat = 0x2D7F then some (1, .tifinaghJoiner)
    else if joined && inRanges tifinaghRanges c then some (0, .other)
    else none
  | .tifinaghJoiner => if inRanges tifinaghRanges c then some (-1, .other) else none
  | .lisuTone => if 0xA4F8 ≤ c.toNat ∧ c.toNat ≤ 0xA4FB then some (0, .other) else none
  | .orkhonI true => if c.toNat = 0x10C32 then some (0, .other) else none
  | .kiratRaiE =>
    if c.toNat = 0x16D63 ∨ c.toNat = 0x16D69 then some (0, .other)
    else if c.toNat = 0x16D67 then some (0, .kiratRaiAi)
    else none
  | .kiratRaiAi => if c.toNat = 0x16D63 then some (0, .other) else none
  | .skinTone => if inRanges modifierBaseRanges c then some (0, .emoji) else none
  | .emoji => if c.toNat = 0x200D then some (0, .joinedEmoji) else none
  | .joinedEmoji =>
    if inRanges skinToneRanges c then some (0, .skinTone)
    else if inRanges emojiRanges c then some (0, .emoji)
    else none
  | _ => none

/-- The cells that a character adds in front of `right`, and the right-hand side it makes for the next
character to the left. -/
def place (c : Char) (right : Right) : Int × Right :=
  let seen : Following := if right.following.seenThroughSelector then right.following else .other
  if right.selector = some .asEmoji ∧ inRanges selectableEmojiRanges c = true then
    (if right.following = .joinedEmoji then 0 else 2, ⟨none, .emoji⟩)
  else if c = '\n' then (1, ⟨none, .lineFeed⟩)
  else if c = '\r' ∧ right = ⟨none, .lineFeed⟩ then (0, Right.plain)
  else if c.toNat ≤ 0xA0 then (1, Right.plain)
  else if c = '\uFE0F' then (0, ⟨some .asEmoji, seen⟩)
  else if c = '\uFE0E' then (0, ⟨some .asText, seen⟩)
  else if right.selector = some .asText ∧ inRanges selectableTextRanges c = true then (1, Right.plain)
  else if right.following.seenThroughMarks ∧ c = '\u200D' then (0, ⟨none, right.following.join⟩)
  else if right.following.seenThroughMarks ∧ inRanges ligatureMarkRanges c = true then
    (0, ⟨none, right.following⟩)
  else
    match combined c right.following with
    | some (cells, following) => (cells, ⟨none, following⟩)
    | none => (cells c, ⟨none, role c⟩)

/-- The cells of a text and its right-hand side for a character put in front. -/
def measure : Text → Int × Right
  | [] => (0, Right.plain)
  | c :: s =>
    let behind := measure s
    let placed := place c behind.2
    (placed.1 + behind.1, placed.2)

def width (s : Text) : Nat := (measure s).1.toNat

/-- The text without its colour sequences; `hidden` tells that one is open. -/
def dropColoursFrom : Bool → Text → Text
  | _, [] => []
  | true, c :: s => dropColoursFrom (c != 'm') s
  | false, c :: s => if c = '\x1b' then dropColoursFrom true s else c :: dropColoursFrom false s

/-- The text without its colour sequences, which go from an escape character to the next `m` or to the
end. -/
def dropColours (s : Text) : Text := dropColoursFrom false s

def visibleWidth (s : Text) : Nat := width (dropColours s)

end SheetQuery.Text
