import SheetQuery.Text.Basic

/-!
# UTF-8

Texts as bytes and back. Reading goes step by step: `steps` yields a character for every well-formed
sequence and `none` for every maximal ill-formed part. The strict reader `decode` refuses a text with
an ill-formed part, the lenient reader `decodeLossy` puts U+FFFD in its place.
-/

namespace SheetQuery

abbrev Bytes := List UInt8

namespace Utf8

def encodeChar (c : Char) : Bytes :=
  let n := c.toNat
  if n < 0x80 then [n.toUInt8]
  else if n < 0x800 then [(0xC0 + n / 0x40).toUInt8, (0x80 + n % 0x40).toUInt8]
  else if n < 0x10000 then
    [(0xE0 + n / 0x1000).toUInt8, (0x80 + n / 0x40 % 0x40).toUInt8, (0x80 + n % 0x40).toUInt8]
  else
    [(0xF0 + n / 0x40000).toUInt8, (0x80 + n / 0x1000 % 0x40).toUInt8,
     (0x80 + n / 0x40 % 0x40).toUInt8, (0x80 + n % 0x40).toUInt8]

def encode (s : Text) : Bytes := s.flatMap encodeChar

def size (s : Text) : Nat := sumOf Char.utf8Size s

theorem size_append (s t : Text) : size (s ++ t) = size s + size t := by
  unfold size sumOf
  induction s with
  | nil => simp
  | cons c s ih =>
    simp only [List.cons_append, List.foldr_cons, ih]
    omega

theorem size_eq_zero {s : Text} : size s = 0 ↔ s = [] := by
  cases s with
  | nil => simp [size, sumOf]
  | cons c s =>
    have hpos : 0 < c.utf8Size := c.utf8Size_pos
    simp only [size, sumOf, List.foldr_cons, reduceCtorEq, iff_false]
    omega

/-- A text that stands inside another has fewer bytes unless it is all of it. -/
theorem size_lt_iff_of_infix {s t : Text} (h : s <:+: t) : size s < size t ↔ s ≠ t := by
  obtain ⟨before, behind, rfl⟩ := h
  rw [size_append, size_append]
  constructor
  · intro hlt hsame
    have hsize := congrArg size hsame
    rw [size_append, size_append] at hsize
    omega
  · intro hne
    by_cases hbefore : before = []
    · by_cases hbehind : behind = []
      · exact absurd (by rw [hbefore, hbehind, List.nil_append, List.append_nil]) hne
      · have hpos := mt size_eq_zero.1 hbehind
        omega
    · have hpos := mt size_eq_zero.1 hbefore
      omega

def between (low high : Nat) (b : UInt8) : Bool := low ≤ b.toNat && b.toNat ≤ high

def isTail (b : UInt8) : Bool := between 0x80 0xBF b

def tailBits (b : UInt8) : Nat := b.toNat - 0x80

/-- The least and the greatest second byte that may follow the first byte of a character of three or
four bytes. -/
def secondRange (first : Nat) : Nat × Nat :=
  -- In turn: no overlong forms, no surrogates, no overlong forms, nothing above U+10FFFF.
  if first = 0xE0 then (0xA0, 0xBF)
  else if first = 0xED then (0x80, 0x9F)
  else if first = 0xF0 then (0x90, 0xBF)
  else if first = 0xF4 then (0x80, 0x8F)
  else (0x80, 0xBF)

def isSecond (first : Nat) (b : UInt8) : Bool := between (secondRange first).1 (secondRange first).2 b

/-- What stands at byte `a` with `rest` behind it: a character, or none if the bytes are ill-formed
here, and how many bytes of `rest` belong to it. -/
def step (a : UInt8) (rest : Bytes) : Option Char × Nat :=
  let n := a.toNat
  if n < 0x80 then (some (Char.ofNat n), 0)
  -- A byte that continues a character, or one that could only begin an overlong form.
  else if n < 0xC2 then (none, 0)
  else if n < 0xE0 then
    match rest with
    | b :: _ => if isTail b then (some (Char.ofNat ((n - 0xC0) * 0x40 + tailBits b)), 1) else (none, 0)
    | [] => (none, 0)
  else if n < 0xF0 then
    match rest with
    | b :: c :: _ =>
      if !isSecond n b then (none, 0)
      else if !isTail c then (none, 1)
      else (some (Char.ofNat ((n - 0xE0) * 0x1000 + tailBits b * 0x40 + tailBits c)), 2)
    | [b] => (none, if isSecond n b then 1 else 0)
    | [] => (none, 0)
  else if n < 0xF5 then
    match rest with
    | b :: c :: d :: _ =>
      if !isSecond n b then (none, 0)
      else if !isTail c then (none, 1)
      else if !isTail d then (none, 2)
      else
        (some (Char.ofNat
          ((n - 0xF0) * 0x40000 + tailBits b * 0x1000 + tailBits c * 0x40 + tailBits d)), 3)
    | [b, c] => (none, if !isSecond n b then 0 else if !isTail c then 1 else 2)
    | [b] => (none, if isSecond n b then 1 else 0)
    | [] => (none, 0)
  else (none, 0)

/-- The characters and ill-formed parts of `bytes`, after dropping `skip` bytes that belong to what was
read last. -/
def stepsFrom : Nat → Bytes → List (Option Char)
  | _, [] => []
  | skip + 1, _ :: rest => stepsFrom skip rest
  | 0, a :: rest => (step a rest).1 :: stepsFrom (step a rest).2 rest

/-- The characters of `bytes` in order, with `none` for every maximal ill-formed part. -/
def steps (bytes : Bytes) : List (Option Char) := stepsFrom 0 bytes

/-- All members of a list of options, if none is missing. -/
def allSome {α : Type} : List (Option α) → Option (List α)
  | [] => some []
  | none :: _ => none
  | some a :: rest => (allSome rest).map (a :: ·)

def decode (bytes : Bytes) : Option Text := allSome (steps bytes)

/-- The text of any bytes, with U+FFFD for every maximal ill-formed part. -/
def decodeLossy (bytes : Bytes) : Text := (steps bytes).map (·.getD '\uFFFD')

end Utf8

end SheetQuery
