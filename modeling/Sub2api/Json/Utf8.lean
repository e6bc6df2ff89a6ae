import Mathlib.Tactic.Ring

/-! UTF-8 as Go's `unicode/utf8` reads and writes it. `DecodeRune` takes one rune off the front
of a byte slice and answers `RuneError` with size 1 for a byte that starts no valid sequence;
`EncodeRune` writes a rune. Every rune `EncodeRune` writes is read back whole. -/

namespace Sub2api.Json

/-- `utf8.RuneError`, U+FFFD. -/
def runeError : Char := '�'

/-- The `first` and `acceptRanges` tables of `unicode/utf8` for a byte of 0x80 or more: the
length of the sequence the byte starts and the range its second byte must lie in; `none` for a
byte that starts no sequence. -/
def leading (b : Nat) : Option (Nat × Nat × Nat) :=
  if 0xC2 ≤ b ∧ b ≤ 0xDF then some (2, 0x80, 0xBF)
  else if b = 0xE0 then some (3, 0xA0, 0xBF)
  else if 0xE1 ≤ b ∧ b ≤ 0xEC then some (3, 0x80, 0xBF)
  else if b = 0xED then some (3, 0x80, 0x9F)
  else if 0xEE ≤ b ∧ b ≤ 0xEF then some (3, 0x80, 0xBF)
  else if b = 0xF0 then some (4, 0x90, 0xBF)
  else if 0xF1 ≤ b ∧ b ≤ 0xF3 then some (4, 0x80, 0xBF)
  else if b = 0xF4 then some (4, 0x80, 0x8F)
  else none

/-- A continuation byte, `locb ≤ b ≤ hicb`. -/
def isContinuation (b : UInt8) : Bool := 0x80 ≤ b.toNat && b.toNat ≤ 0xBF

/-- `utf8.DecodeRune`: the rune at the front of `p` and its size. The masks and shifts of the
source are written as the arithmetic they compute on the accepted ranges. -/
def decodeRune : List UInt8 → Char × Nat
  | [] => (runeError, 0)
  | p0 :: rest =>
    if p0.toNat < 0x80 then (Char.ofNat p0.toNat, 1) else
    match leading p0.toNat, rest with
    | some (2, lo, hi), b1 :: _ =>
      if lo ≤ b1.toNat ∧ b1.toNat ≤ hi then
        (Char.ofNat (p0.toNat % 32 * 64 + b1.toNat % 64), 2)
      else (runeError, 1)
    | some (3, lo, hi), b1 :: b2 :: _ =>
      if lo ≤ b1.toNat ∧ b1.toNat ≤ hi ∧ isContinuation b2 then
        (Char.ofNat (p0.toNat % 16 * 4096 + b1.toNat % 64 * 64 + b2.toNat % 64), 3)
      else (runeError, 1)
    | some (4, lo, hi), b1 :: b2 :: b3 :: _ =>
      if lo ≤ b1.toNat ∧ b1.toNat ≤ hi ∧ isContinuation b2 ∧ isContinuation b3 then
        (Char.ofNat (p0.toNat % 8 * 262144 + b1.toNat % 64 * 4096 + b2.toNat % 64 * 64 +
          b3.toNat % 64), 4)
      else (runeError, 1)
    | _, _ => (runeError, 1)

/-- `utf8.EncodeRune` on a Unicode scalar value, which every `Char` is. -/
def encodeRune (c : Char) : List UInt8 :=
  let r := c.toNat
  if r < 0x80 then [UInt8.ofNat r]
  else if r < 0x800 then [UInt8.ofNat (0xC0 + r / 64), UInt8.ofNat (0x80 + r % 64)]
  else if r < 0x10000 then
    [UInt8.ofNat (0xE0 + r / 4096), UInt8.ofNat (0x80 + r / 64 % 64), UInt8.ofNat (0x80 + r % 64)]
  else
    [UInt8.ofNat (0xF0 + r / 262144), UInt8.ofNat (0x80 + r / 4096 % 64),
      UInt8.ofNat (0x80 + r / 64 % 64), UInt8.ofNat (0x80 + r % 64)]

private theorem toNat_ofNat_byte {n : Nat} (small : n < 256) : (UInt8.ofNat n).toNat = n :=
  UInt8.toNat_ofNat_of_lt small

private theorem char_toNat_valid (c : Char) :
    c.toNat < 0xD800 ∨ (0xDFFF < c.toNat ∧ c.toNat < 0x110000) := c.valid

theorem char_eq_ofNat {c : Char} {n : Nat} (same : n = c.toNat) : Char.ofNat n = c := by
  rw [same, Char.ofNat_toNat]

private theorem leading_two {r : Nat} (lower : 0x80 ≤ r) (upper : r < 0x800) :
    leading (0xC0 + r / 64) = some (2, 0x80, 0xBF) := by
  unfold leading
  rw [if_pos (by omega)]

private theorem leading_three {r : Nat} (lower : 0x800 ≤ r) (upper : r < 0x10000)
    (scalar : r < 0xD800 ∨ 0xDFFF < r) :
    ∃ lo hi, leading (0xE0 + r / 4096) = some (3, lo, hi) ∧ lo ≤ 0x80 + r / 64 % 64 ∧
      0x80 + r / 64 % 64 ≤ hi := by
  unfold leading
  rw [if_neg (by omega)]
  by_cases e0 : r / 4096 = 0
  · exact ⟨_, _, if_pos (by omega), by omega, by omega⟩
  rw [if_neg (by omega)]
  by_cases e1ec : r / 4096 ≤ 12
  · exact ⟨_, _, if_pos (by omega), by omega, by omega⟩
  rw [if_neg (by omega)]
  by_cases ed : r / 4096 = 13
  · exact ⟨_, _, if_pos (by omega), by omega, by omega⟩
  rw [if_neg (by omega)]
  exact ⟨_, _, if_pos (by omega), by omega, by omega⟩

private theorem leading_four {r : Nat} (lower : 0x10000 ≤ r) (upper : r < 0x110000) :
    ∃ lo hi, leading (0xF0 + r / 262144) = some (4, lo, hi) ∧ lo ≤ 0x80 + r / 4096 % 64 ∧
      0x80 + r / 4096 % 64 ≤ hi := by
  unfold leading
  rw [if_neg (by omega), if_neg (by omega), if_neg (by omega), if_neg (by omega), if_neg (by omega)]
  by_cases f0 : r / 262144 = 0
  · exact ⟨_, _, if_pos (by omega), by omega, by omega⟩
  rw [if_neg (by omega)]
  by_cases f1f3 : r / 262144 ≤ 3
  · exact ⟨_, _, if_pos (by omega), by omega, by omega⟩
  rw [if_neg (by omega)]
  exact ⟨_, _, if_pos (by omega), by omega, by omega⟩

private theorem isContinuation_byte (n : Nat) : isContinuation (UInt8.ofNat (0x80 + n % 64)) := by
  simp only [isContinuation, toNat_ofNat_byte (show 0x80 + n % 64 < 256 by omega)]
  simp only [Bool.and_eq_true, decide_eq_true_eq]
  omega

/-- `DecodeRune` reads back the rune `EncodeRune` wrote, whatever follows it. -/
theorem decodeRune_encodeRune (c : Char) (rest : List UInt8) :
    decodeRune (encodeRune c ++ rest) = (c, (encodeRune c).length) := by
  have valid := char_toNat_valid c
  unfold encodeRune
  dsimp only
  split
  · rename_i ascii
    simp [decodeRune, toNat_ofNat_byte (show c.toNat < 256 by omega), ascii]
  split
  · rename_i notAscii two
    simp only [List.cons_append, List.nil_append, decodeRune, List.length_cons, List.length_nil,
      toNat_ofNat_byte (show 0xC0 + c.toNat / 64 < 256 by omega),
      toNat_ofNat_byte (show 0x80 + c.toNat % 64 < 256 by omega), leading_two (r := c.toNat)
        (by omega) two, if_neg (show ¬ 0xC0 + c.toNat / 64 < 0x80 by omega)]
    rw [if_pos (by omega), char_eq_ofNat (c := c) (by omega)]
  split
  · rename_i notAscii notTwo three
    obtain ⟨lo, hi, lead, above, below⟩ := leading_three (r := c.toNat) (by omega) three (by omega)
    simp only [List.cons_append, List.nil_append, decodeRune, List.length_cons, List.length_nil,
      toNat_ofNat_byte (show 0xE0 + c.toNat / 4096 < 256 by omega),
      toNat_ofNat_byte (show 0x80 + c.toNat / 64 % 64 < 256 by omega),
      toNat_ofNat_byte (show 0x80 + c.toNat % 64 < 256 by omega), lead,
      if_neg (show ¬ 0xE0 + c.toNat / 4096 < 0x80 by omega)]
    rw [if_pos ⟨above, below, isContinuation_byte _⟩, char_eq_ofNat (c := c) (by omega)]
  · rename_i notAscii notTwo notThree
    obtain ⟨lo, hi, lead, above, below⟩ := leading_four (r := c.toNat) (by omega) (by omega)
    simp only [List.cons_append, List.nil_append, decodeRune, List.length_cons, List.length_nil,
      toNat_ofNat_byte (show 0xF0 + c.toNat / 262144 < 256 by omega),
      toNat_ofNat_byte (show 0x80 + c.toNat / 4096 % 64 < 256 by omega),
      toNat_ofNat_byte (show 0x80 + c.toNat / 64 % 64 < 256 by omega),
      toNat_ofNat_byte (show 0x80 + c.toNat % 64 < 256 by omega), lead,
      if_neg (show ¬ 0xF0 + c.toNat / 262144 < 0x80 by omega)]
    rw [if_pos ⟨above, below, isContinuation_byte _, isContinuation_byte _⟩,
      char_eq_ofNat (c := c) (by omega)]

/-- The bytes of a Go string holding `s`. -/
def encodeString (s : String) : List UInt8 := s.data.flatMap encodeRune

theorem encodeString_append (a b : String) :
    encodeString (a ++ b) = encodeString a ++ encodeString b := by
  simp [encodeString, String.data_append]

/-- `EncodeRune` writes one to four bytes. -/
theorem encodeRune_length_pos (c : Char) : 0 < (encodeRune c).length := by
  unfold encodeRune
  dsimp only
  split_ifs <;> simp

end Sub2api.Json
