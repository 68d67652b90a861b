import SheetQuery.Encoding.Decode

/-!
# What is written as UTF-8 is read back

* `steps_encode`: the reader finds exactly the characters of the text that was written.
* `encode_of_decode`: no other bytes are read as that text.
* `mem_encodeChar`: a byte below 128 only stands for the character of the same number, so quotes, commas and
  line ends are never found inside another character.
* `Encoding.decode_encode`: a field that is decoded as UTF-8 loses one byte order mark at its front and nothing
  else.
-/

namespace SheetQuery

/-- The text without one byte order mark at its front. -/
def Text.withoutMark : Text → Text
  | '\uFEFF' :: s => s
  | s => s

theorem Text.withoutMark_eq_self {s : Text} (h : s.head? ≠ some '\uFEFF') : s.withoutMark = s := by
  unfold Text.withoutMark
  split
  · exact absurd rfl h
  · rfl

namespace Utf8

@[simp] theorem encode_nil : encode [] = [] := rfl

@[simp] theorem encode_cons (c : Char) (s : Text) : encode (c :: s) = encodeChar c ++ encode s := rfl

@[simp] theorem encode_append (s t : Text) : encode (s ++ t) = encode s ++ encode t := List.flatMap_append

/-! ### The bytes of one character -/

private theorem toNat_toUInt8 {n : Nat} (h : n < 256) : n.toUInt8.toNat = n := by
  simpa using h

private theorem toNat_cases (c : Char) : c.toNat < 0xD800 ∨ 0xDFFF < c.toNat ∧ c.toNat < 0x110000 := c.valid

private theorem encodeChar_one {c : Char} (h : c.toNat < 0x80) : encodeChar c = [c.toNat.toUInt8] := by
  simp [encodeChar, h]

private theorem encodeChar_two {c : Char} (h : 0x80 ≤ c.toNat) (h' : c.toNat < 0x800) :
    encodeChar c = [(0xC0 + c.toNat / 0x40).toUInt8, (0x80 + c.toNat % 0x40).toUInt8] := by
  simp only [encodeChar]
  rw [if_neg (by omega), if_pos h']

private theorem encodeChar_three {c : Char} (h : 0x800 ≤ c.toNat) (h' : c.toNat < 0x10000) :
    encodeChar c = [(0xE0 + c.toNat / 0x1000).toUInt8, (0x80 + c.toNat / 0x40 % 0x40).toUInt8,
      (0x80 + c.toNat % 0x40).toUInt8] := by
  simp only [encodeChar]
  rw [if_neg (by omega), if_neg (by omega), if_pos h']

private theorem encodeChar_four {c : Char} (h : 0x10000 ≤ c.toNat) :
    encodeChar c = [(0xF0 + c.toNat / 0x40000).toUInt8, (0x80 + c.toNat / 0x1000 % 0x40).toUInt8,
      (0x80 + c.toNat / 0x40 % 0x40).toUInt8, (0x80 + c.toNat % 0x40).toUInt8] := by
  simp only [encodeChar]
  rw [if_neg (by omega), if_neg (by omega), if_neg (by omega)]

private theorem isTail_toUInt8 {n : Nat} (h : n < 0x40) : isTail (0x80 + n).toUInt8 = true := by
  have hn := toNat_toUInt8 (show 0x80 + n < 256 by omega)
  simp only [isTail, between, hn, Bool.and_eq_true, decide_eq_true_eq]
  omega

private theorem tailBits_toUInt8 {n : Nat} (h : n < 0x40) : tailBits (0x80 + n).toUInt8 = n := by
  have hn := toNat_toUInt8 (show 0x80 + n < 256 by omega)
  unfold tailBits
  omega

private theorem secondRange_cases (n : Nat) :
    n = 0xE0 ∧ secondRange n = (0xA0, 0xBF) ∨ n = 0xED ∧ secondRange n = (0x80, 0x9F) ∨
      n = 0xF0 ∧ secondRange n = (0x90, 0xBF) ∨ n = 0xF4 ∧ secondRange n = (0x80, 0x8F) ∨
      n ∉ [0xE0, 0xED, 0xF0, 0xF4] ∧ secondRange n = (0x80, 0xBF) := by
  by_cases h1 : n = 0xE0
  · simp [secondRange, h1]
  by_cases h2 : n = 0xED
  · simp [secondRange, h2]
  by_cases h3 : n = 0xF0
  · simp [secondRange, h3]
  by_cases h4 : n = 0xF4
  · simp [secondRange, h4]
  · simp [secondRange, h1, h2, h3, h4]

private theorem step_one {c : Char} (h : c.toNat < 0x80) (rest : Bytes) :
    step c.toNat.toUInt8 rest = (some c, 0) := by
  have ha := toNat_toUInt8 (show c.toNat < 256 by omega)
  simp only [step, ha]
  rw [if_pos h, Char.ofNat_toNat]

private theorem step_two {c : Char} (h : 0x80 ≤ c.toNat) (h' : c.toNat < 0x800) (rest : Bytes) :
    step (0xC0 + c.toNat / 0x40).toUInt8 ((0x80 + c.toNat % 0x40).toUInt8 :: rest) = (some c, 1) := by
  have ha := toNat_toUInt8 (show 0xC0 + c.toNat / 0x40 < 256 by omega)
  have hlow : c.toNat % 0x40 < 0x40 := by omega
  have hn : (0xC0 + c.toNat / 0x40 - 0xC0) * 0x40 + c.toNat % 0x40 = c.toNat := by omega
  simp only [step, ha]
  rw [if_neg (by omega), if_neg (by omega), if_pos (by omega), if_pos (isTail_toUInt8 hlow),
    tailBits_toUInt8 hlow, hn, Char.ofNat_toNat]

private theorem step_three {c : Char} (h : 0x800 ≤ c.toNat) (h' : c.toNat < 0x10000) (rest : Bytes) :
    step (0xE0 + c.toNat / 0x1000).toUInt8
      ((0x80 + c.toNat / 0x40 % 0x40).toUInt8 :: (0x80 + c.toNat % 0x40).toUInt8 :: rest) = (some c, 2) := by
  have ha := toNat_toUInt8 (show 0xE0 + c.toNat / 0x1000 < 256 by omega)
  have hb := toNat_toUInt8 (show 0x80 + c.toNat / 0x40 % 0x40 < 256 by omega)
  have hmid : c.toNat / 0x40 % 0x40 < 0x40 := by omega
  have hlow : c.toNat % 0x40 < 0x40 := by omega
  have hsecond : isSecond (0xE0 + c.toNat / 0x1000) (0x80 + c.toNat / 0x40 % 0x40).toUInt8 = true := by
    -- the first byte says how small or how large the second may be, and surrogates are no characters
    have hvalid := toNat_cases c
    rw [isSecond, between, hb, Bool.and_eq_true, decide_eq_true_eq, decide_eq_true_eq]
    rcases secondRange_cases (0xE0 + c.toNat / 0x1000) with ⟨hfirst, hrange⟩ | ⟨hfirst, hrange⟩ | ⟨hfirst, -⟩ |
      ⟨hfirst, -⟩ | ⟨-, hrange⟩
    · simp only [hrange]
      omega
    · simp only [hrange]
      omega
    · omega
    · omega
    · simp only [hrange]
      omega
  have hn : (0xE0 + c.toNat / 0x1000 - 0xE0) * 0x1000 + c.toNat / 0x40 % 0x40 * 0x40 + c.toNat % 0x40
      = c.toNat := by omega
  simp only [step, ha]
  rw [if_neg (by omega), if_neg (by omega), if_neg (by omega), if_pos (by omega), hsecond,
    isTail_toUInt8 hlow, tailBits_toUInt8 hmid, tailBits_toUInt8 hlow, hn, Char.ofNat_toNat]
  rfl

private theorem step_four {c : Char} (h : 0x10000 ≤ c.toNat) (rest : Bytes) :
    step (0xF0 + c.toNat / 0x40000).toUInt8
      ((0x80 + c.toNat / 0x1000 % 0x40).toUInt8 :: (0x80 + c.toNat / 0x40 % 0x40).toUInt8 ::
        (0x80 + c.toNat % 0x40).toUInt8 :: rest) = (some c, 3) := by
  have hvalid := toNat_cases c
  have ha := toNat_toUInt8 (show 0xF0 + c.toNat / 0x40000 < 256 by omega)
  have hb := toNat_toUInt8 (show 0x80 + c.toNat / 0x1000 % 0x40 < 256 by omega)
  have hhigh : c.toNat / 0x1000 % 0x40 < 0x40 := by omega
  have hmid : c.toNat / 0x40 % 0x40 < 0x40 := by omega
  have hlow : c.toNat % 0x40 < 0x40 := by omega
  have hsecond : isSecond (0xF0 + c.toNat / 0x40000) (0x80 + c.toNat / 0x1000 % 0x40).toUInt8 = true := by
    rw [isSecond, between, hb, Bool.and_eq_true, decide_eq_true_eq, decide_eq_true_eq]
    rcases secondRange_cases (0xF0 + c.toNat / 0x40000) with ⟨hfirst, -⟩ | ⟨hfirst, -⟩ | ⟨hfirst, hrange⟩ |
      ⟨hfirst, hrange⟩ | ⟨-, hrange⟩
    · omega
    · omega
    · simp only [hrange]
      omega
    · simp only [hrange]
      omega
    · simp only [hrange]
      omega
  have hn : (0xF0 + c.toNat / 0x40000 - 0xF0) * 0x40000 + c.toNat / 0x1000 % 0x40 * 0x1000
      + c.toNat / 0x40 % 0x40 * 0x40 + c.toNat % 0x40 = c.toNat := by omega
  simp only [step, ha]
  rw [if_neg (by omega), if_neg (by omega), if_neg (by omega), if_neg (by omega), if_pos (by omega), hsecond,
    isTail_toUInt8 hmid, isTail_toUInt8 hlow, tailBits_toUInt8 hhigh, tailBits_toUInt8 hmid,
    tailBits_toUInt8 hlow, hn, Char.ofNat_toNat]
  rfl

/-- The bytes of a character read as that character, whatever stands behind them. -/
theorem step_encodeChar (c : Char) (rest : Bytes) :
    ∃ a tail, encodeChar c = a :: tail ∧ step a (tail ++ rest) = (some c, tail.length) := by
  by_cases h1 : c.toNat < 0x80
  · exact ⟨_, [], encodeChar_one h1, step_one h1 rest⟩
  by_cases h2 : c.toNat < 0x800
  · exact ⟨_, [_], encodeChar_two (by omega) h2, step_two (by omega) h2 rest⟩
  by_cases h3 : c.toNat < 0x10000
  · exact ⟨_, [_, _], encodeChar_three (by omega) h3, step_three (by omega) h3 rest⟩
  · exact ⟨_, [_, _, _], encodeChar_four (by omega), step_four (by omega) rest⟩

/-! ### The character of some bytes -/

private theorem toNat_ofNat {n : Nat} (h : n.isValidChar) : (Char.ofNat n).toNat = n := by
  rw [Char.ofNat, dif_pos h]
  rfl

private theorem toUInt8_eq {b : UInt8} {n : Nat} (h : b.toNat = n) : n.toUInt8 = b := by
  rw [← h]
  exact UInt8.ofNat_toNat

private theorem isTail_bounds {b : UInt8} (h : isTail b = true) : b.toNat = 0x80 + tailBits b ∧ tailBits b < 0x40 := by
  rw [isTail, between, Bool.and_eq_true, decide_eq_true_eq, decide_eq_true_eq] at h
  unfold tailBits
  omega

/-- A second byte carries bits like any other continuing byte, and four first bytes bound them further. -/
private theorem isSecond_bounds {n : Nat} {b : UInt8} (h : isSecond n b = true) :
    b.toNat = 0x80 + tailBits b ∧ tailBits b < 0x40 ∧ (n = 0xE0 → 0x20 ≤ tailBits b) ∧ (n = 0xED → tailBits b < 0x20) ∧
      (n = 0xF0 → 0x10 ≤ tailBits b) ∧ (n = 0xF4 → tailBits b < 0x10) := by
  rw [isSecond, between, Bool.and_eq_true, decide_eq_true_eq, decide_eq_true_eq] at h
  unfold tailBits
  rcases secondRange_cases n with ⟨hn, hrange⟩ | ⟨hn, hrange⟩ | ⟨hn, hrange⟩ | ⟨hn, hrange⟩ | ⟨hn, hrange⟩
  · rw [hrange] at h
    omega
  · rw [hrange] at h
    omega
  · rw [hrange] at h
    omega
  · rw [hrange] at h
    omega
  · rw [hrange] at h
    simp only [List.mem_cons, List.not_mem_nil, or_false, not_or] at hn
    omega

private theorem encodeChar_ofNat_one {a : UInt8} (h : a.toNat < 0x80) : encodeChar (Char.ofNat a.toNat) = [a] := by
  have hchar := toNat_ofNat (n := a.toNat) (.inl (by omega))
  rw [encodeChar_one (by omega), hchar, toUInt8_eq rfl]

private theorem encodeChar_ofNat_two {a b : UInt8} (ha : 0xC2 ≤ a.toNat) (ha' : a.toNat < 0xE0) (hb : isTail b = true) :
    encodeChar (Char.ofNat ((a.toNat - 0xC0) * 0x40 + tailBits b)) = [a, b] := by
  obtain ⟨hb, hbits⟩ := isTail_bounds hb
  have hchar := toNat_ofNat (n := (a.toNat - 0xC0) * 0x40 + tailBits b) (.inl (by omega))
  rw [encodeChar_two (by omega) (by omega), hchar, toUInt8_eq (b := a) (by omega), toUInt8_eq (b := b) (by omega)]

private theorem encodeChar_ofNat_three {a b c : UInt8} (ha : 0xE0 ≤ a.toNat) (ha' : a.toNat < 0xF0)
    (hb : isSecond a.toNat b = true) (hc : isTail c = true) :
    encodeChar (Char.ofNat ((a.toNat - 0xE0) * 0x1000 + tailBits b * 0x40 + tailBits c)) = [a, b, c] := by
  obtain ⟨hb, hbits, hE0, hED, -⟩ := isSecond_bounds hb
  obtain ⟨hc, hcbits⟩ := isTail_bounds hc
  have hvalid : ((a.toNat - 0xE0) * 0x1000 + tailBits b * 0x40 + tailBits c).isValidChar := by
    rw [Nat.isValidChar]
    omega
  have hchar := toNat_ofNat hvalid
  rw [encodeChar_three (by omega) (by omega), hchar, toUInt8_eq (b := a) (by omega), toUInt8_eq (b := b) (by omega),
    toUInt8_eq (b := c) (by omega)]

private theorem encodeChar_ofNat_four {a b c d : UInt8} (ha : 0xF0 ≤ a.toNat) (ha' : a.toNat < 0xF5)
    (hb : isSecond a.toNat b = true) (hc : isTail c = true) (hd : isTail d = true) :
    encodeChar (Char.ofNat ((a.toNat - 0xF0) * 0x40000 + tailBits b * 0x1000 + tailBits c * 0x40 + tailBits d))
      = [a, b, c, d] := by
  obtain ⟨hb, hbits, -, -, hF0, hF4⟩ := isSecond_bounds hb
  obtain ⟨hc, hcbits⟩ := isTail_bounds hc
  obtain ⟨hd, hdbits⟩ := isTail_bounds hd
  have hvalid : ((a.toNat - 0xF0) * 0x40000 + tailBits b * 0x1000 + tailBits c * 0x40 + tailBits d).isValidChar := by
    rw [Nat.isValidChar]
    omega
  have hchar := toNat_ofNat hvalid
  rw [encodeChar_four (by omega), hchar, toUInt8_eq (b := a) (by omega), toUInt8_eq (b := b) (by omega),
    toUInt8_eq (b := c) (by omega), toUInt8_eq (b := d) (by omega)]

/-- The bytes that are read as a character are its bytes. -/
theorem encodeChar_of_step {a : UInt8} {rest : Bytes} {c : Char} {n : Nat} (h : step a rest = (some c, n)) :
    a :: rest = encodeChar c ++ rest.drop n := by
  -- by the first byte, which says how many others there are
  unfold step at h
  dsimp only at h
  split at h
  · obtain ⟨hc, rfl⟩ := Prod.mk.inj h
    rw [← Option.some.inj hc, encodeChar_ofNat_one (by assumption)]
    rfl
  split at h
  · cases h
  split at h
  · split at h
    · split at h
      · obtain ⟨hc, rfl⟩ := Prod.mk.inj h
        rw [← Option.some.inj hc, encodeChar_ofNat_two (by omega) (by assumption) (by assumption)]
        rfl
      · cases h
    · cases h
  split at h
  · split at h
    · split at h
      · cases h
      · split at h
        · cases h
        · rename_i hsecond htail
          rw [Bool.not_eq_true', Bool.not_eq_false] at hsecond htail
          obtain ⟨hc, rfl⟩ := Prod.mk.inj h
          rw [← Option.some.inj hc, encodeChar_ofNat_three (by omega) (by assumption) hsecond htail]
          rfl
    · cases h
    · cases h
  split at h
  · split at h
    · split at h
      · cases h
      · split at h
        · cases h
        · split at h
          · cases h
          · rename_i hsecond htail htail'
            rw [Bool.not_eq_true', Bool.not_eq_false] at hsecond htail htail'
            obtain ⟨hc, rfl⟩ := Prod.mk.inj h
            rw [← Option.some.inj hc, encodeChar_ofNat_four (by omega) (by assumption) hsecond htail htail']
            rfl
    · cases h
    · cases h
    · cases h
  · cases h

/-! ### Characters of one byte -/

/-- A byte below 128 only stands for the character of the same number. -/
theorem mem_encodeChar {c : Char} {b : UInt8} (h : b ∈ encodeChar c) :
    c.toNat = b.toNat ∧ encodeChar c = [b] ∨ 0x80 ≤ b.toNat := by
  have hvalid := toNat_cases c
  by_cases h1 : c.toNat < 0x80
  · have hb : b = c.toNat.toUInt8 := by simpa [encodeChar_one h1] using h
    refine .inl ⟨?_, by rw [encodeChar_one h1, hb]⟩
    rw [hb, toNat_toUInt8 (by omega)]
  right
  have habove {n : Nat} (hlow : 0x80 ≤ n) (hhigh : n < 256) (hb : b = n.toUInt8) : 0x80 ≤ b.toNat := by
    rw [hb, toNat_toUInt8 hhigh]
    exact hlow
  by_cases h2 : c.toNat < 0x800
  · rw [encodeChar_two (by omega) h2, List.mem_cons, List.mem_singleton] at h
    rcases h with h | h <;> exact habove (by omega) (by omega) h
  by_cases h3 : c.toNat < 0x10000
  · rw [encodeChar_three (by omega) h3, List.mem_cons, List.mem_cons, List.mem_singleton] at h
    rcases h with h | h | h <;> exact habove (by omega) (by omega) h
  · rw [encodeChar_four (by omega), List.mem_cons, List.mem_cons, List.mem_cons, List.mem_singleton] at h
    rcases h with h | h | h | h <;> exact habove (by omega) (by omega) h

theorem encodeChar_ne_nil (c : Char) : encodeChar c ≠ [] := by
  obtain ⟨a, tail, hbytes, -⟩ := step_encodeChar c []
  rw [hbytes]
  exact List.cons_ne_nil _ _

/-- A character is an ASCII character of one byte, or none of its bytes is one. -/
theorem encodeChar_cases (c : Char) :
    (∃ b, encodeChar c = [b] ∧ c.toNat = b.toNat) ∨ encodeChar c ≠ [] ∧ ∀ b ∈ encodeChar c, 0x80 ≤ b.toNat := by
  by_cases h : ∃ b ∈ encodeChar c, b.toNat < 0x80
  · obtain ⟨b, hb, hlow⟩ := h
    rcases mem_encodeChar hb with ⟨hc, hbytes⟩ | hhigh
    · exact .inl ⟨b, hbytes, hc⟩
    · omega
  · exact .inr ⟨encodeChar_ne_nil c, fun b hb => Nat.le_of_not_lt fun hlow => h ⟨b, hb, hlow⟩⟩

/-! ### Whole texts -/

private theorem stepsFrom_append (tail rest : Bytes) : stepsFrom tail.length (tail ++ rest) = steps rest := by
  induction tail with
  | nil => rfl
  | cons b tail ih => exact ih

private theorem steps_encodeChar (c : Char) (rest : Bytes) : steps (encodeChar c ++ rest) = some c :: steps rest := by
  obtain ⟨a, tail, hbytes, hstep⟩ := step_encodeChar c rest
  rw [hbytes, List.cons_append, steps, stepsFrom, hstep, stepsFrom_append]

/-- The reader finds the characters that were written. -/
theorem steps_encode (s : Text) : steps (encode s) = s.map some := by
  induction s with
  | nil => rfl
  | cons c s ih => rw [encode_cons, steps_encodeChar, ih, List.map_cons]

theorem allSome_map_some {α : Type} (l : List α) : allSome (l.map some) = some l := by
  induction l with
  | nil => rfl
  | cons a l ih => simp [allSome, ih]

@[simp] theorem decode_encode (s : Text) : decode (encode s) = some s := by
  rw [decode, steps_encode, allSome_map_some]

private theorem allSome_eq_some {α : Type} {l : List (Option α)} {as : List α} (h : allSome l = some as) :
    l = as.map some := by
  induction l generalizing as with
  | nil =>
    cases h
    rfl
  | cons o l ih =>
    cases o with
    | none => cases h
    | some a =>
      rw [allSome, Option.map_eq_some_iff] at h
      obtain ⟨as, hrest, rfl⟩ := h
      rw [ih hrest, List.map_cons]

private theorem stepsFrom_eq_drop (n : Nat) (bytes : Bytes) : stepsFrom n bytes = steps (bytes.drop n) := by
  induction bytes generalizing n with
  | nil => cases n <;> rfl
  | cons b bytes ih =>
    cases n with
    | zero => rfl
    | succ n => exact ih n

/-- The bytes of a text are known by the text that is read from them. -/
theorem encode_of_decode {bytes : Bytes} {s : Text} (h : decode bytes = some s) : bytes = encode s := by
  have hsteps := allSome_eq_some h
  clear h
  induction s generalizing bytes with
  | nil =>
    cases bytes with
    | nil => rfl
    | cons a rest => cases hsteps
  | cons c s ih =>
    cases bytes with
    | nil => cases hsteps
    | cons a rest =>
      rw [steps, stepsFrom, stepsFrom_eq_drop, List.map_cons] at hsteps
      obtain ⟨hfirst, hrest⟩ := List.cons.inj hsteps
      have hstep : step a rest = (some c, (step a rest).2) := Prod.ext hfirst rfl
      rw [encodeChar_of_step hstep, encode_cons, ← ih hrest]

/-- Bytes of a text begin with a mark only if the text does. -/
theorem encode_eq_mark {s : Text} {rest : Bytes} (h : encode s = 0xEF :: 0xBB :: 0xBF :: rest) :
    ∃ t, s = '\uFEFF' :: t ∧ rest = encode t := by
  have hsteps := steps_encode s
  have hmark : steps (0xEF :: 0xBB :: 0xBF :: rest) = some '\uFEFF' :: steps rest := rfl
  rw [h, hmark] at hsteps
  cases s with
  | nil => cases hsteps
  | cons c t =>
    obtain rfl : '\uFEFF' = c := Option.some.inj (List.cons.inj hsteps).1
    have hbytes : encode ('\uFEFF' :: t) = 0xEF :: 0xBB :: 0xBF :: encode t := rfl
    rw [hbytes] at h
    simpa using h.symm

end Utf8

/-- What is decoded as UTF-8 loses one byte order mark at its front and nothing else. -/
theorem Encoding.decode_encode (other : Encoding → Bytes → Option Text) (s : Text) :
    decode other .utf8 (Utf8.encode s) = some s.withoutMark := by
  have hsteps := Utf8.steps_encode s
  -- the first character read tells which of the marks the bytes begin with
  unfold Encoding.decode
  split
  · rename_i rest heq
    obtain ⟨t, rfl, rfl⟩ := Utf8.encode_eq_mark heq
    exact Utf8.decode_encode t
  · rename_i rest heq
    have hmark : Utf8.steps (0xFF :: 0xFE :: rest) = none :: Utf8.steps (0xFE :: rest) := rfl
    rw [heq, hmark] at hsteps
    cases s <;> cases hsteps
  · rename_i rest heq
    have hmark : Utf8.steps (0xFE :: 0xFF :: rest) = none :: Utf8.steps (0xFF :: rest) := rfl
    rw [heq, hmark] at hsteps
    cases s <;> cases hsteps
  · rename_i hUtf8 _ _
    have hkeep : s.withoutMark = s := by
      refine Text.withoutMark_eq_self fun hhead => ?_
      obtain ⟨t, rfl⟩ := List.head?_eq_some_iff.1 hhead
      exact hUtf8 _ rfl
    rw [hkeep]
    exact Utf8.decode_encode s

end SheetQuery
