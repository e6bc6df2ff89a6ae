import Sub2api.Json.Encode

/-! A string as `appendString` writes it with `escapeHTML`, read back by the decoder: every
character comes back, through its escape or its UTF-8 bytes, and the input after the closing
quote is left as it was. -/

namespace Sub2api.Json

private theorem toNat_byte {n : Nat} (small : n < 256) : (UInt8.ofNat n).toNat = n :=
  UInt8.toNat_ofNat_of_lt (by simp only [UInt8.size]; omega)

private theorem byte_ne {n : Nat} {k : UInt8} (small : n < 256) (different : n ≠ k.toNat) :
    UInt8.ofNat n ≠ k := fun same => different (by rw [← same, toNat_byte small])

theorem hexValue_hexByte {n : Nat} (small : n < 16) : hexValue (hexByte n) = some n := by
  unfold hexByte hexValue
  by_cases digit : n < 10
  · rw [if_pos digit, toNat_byte (by omega), if_pos (by omega)]
    congr 1
    omega
  · rw [if_neg digit, toNat_byte (by omega), if_neg (by omega), if_pos (by omega)]
    congr 1
    omega

/-- `EncodeRune` starts a rune above ASCII with a byte of 0x80 or more. -/
theorem encodeRune_head {c : Char} (high : 0x80 ≤ c.toNat) :
    ∃ b rest, encodeRune c = b :: rest ∧ 0x80 ≤ b.toNat := by
  have valid : c.toNat < 0xD800 ∨ (0xDFFF < c.toNat ∧ c.toNat < 0x110000) := c.valid
  unfold encodeRune
  dsimp only
  rw [if_neg (by omega)]
  by_cases two : c.toNat < 0x800
  · exact ⟨_, _, by rw [if_pos two], by rw [toNat_byte (by omega)]; omega⟩
  rw [if_neg two]
  by_cases three : c.toNat < 0x10000
  · exact ⟨_, _, by rw [if_pos three], by rw [toNat_byte (by omega)]; omega⟩
  exact ⟨_, _, by rw [if_neg three], by rw [toNat_byte (by omega)]; omega⟩

/-! ### One character at a time -/

section
variable {fuel : Nat} {more after : List UInt8} {cs : List Char}

/-- A printable ASCII byte other than `"` and `\` stands for itself. -/
private theorem scanString_plain (scanned : scanString fuel more = .ok (cs, after)) {b : UInt8}
    (quote : b ≠ 0x22) (backslash : b ≠ 0x5C) (printable : 0x20 ≤ b.toNat) (ascii : b.toNat < 0x80) :
    scanString (fuel + 1) (b :: more) = .ok (Char.ofNat b.toNat :: cs, after) := by
  simp only [scanString, if_neg quote, if_neg backslash, if_neg (show ¬b.toNat < 0x20 by omega),
    if_pos ascii, scanned]
  rfl

private theorem scanString_escape (scanned : scanString fuel more = .ok (cs, after))
    {rest : List UInt8} {c : Char} (escape : unescape rest = some (c, more)) :
    scanString (fuel + 1) (0x5C :: rest) = .ok (c :: cs, after) := by
  simp only [scanString, if_neg (by decide : ¬(0x5C : UInt8) = 0x22), if_pos rfl, escape, scanned]
  rfl

private theorem scanString_multibyte (scanned : scanString fuel more = .ok (cs, after))
    {b : UInt8} {rest : List UInt8} {c : Char} {size : Nat} (high : 0x80 ≤ b.toNat)
    (decoded : decodeRune (b :: rest) = (c, size)) (suffix : (b :: rest).drop size = more) :
    scanString (fuel + 1) (b :: rest) = .ok (c :: cs, after) := by
  have quote : b ≠ 0x22 := by rintro rfl; exact absurd high (by decide)
  have backslash : b ≠ 0x5C := by rintro rfl; exact absurd high (by decide)
  simp only [scanString, if_neg quote, if_neg backslash, if_neg (show ¬b.toNat < 0x20 by omega),
    if_neg (show ¬b.toNat < 0x80 by omega), decoded, suffix, scanned]
  rfl

/-- The escape `\u` and four hexadecimal digits of a code point outside the surrogates. -/
private theorem unescape_u {rest : List UInt8} {r : Nat} {c : Char} (value : hex4 rest = some (r, more))
    (plain : r < 0xD800) (same : r = c.toNat) : unescape (0x75 :: rest) = some (c, more) := by
  rw [← char_eq_ofNat same]
  rw [unescape.eq_2, value]
  dsimp only
  rw [if_neg (show ¬(0xD800 ≤ r ∧ r < 0xE000) by omega)]
  rfl

/-- A rune above ASCII, written as its UTF-8 bytes, reads back as itself. -/
private theorem scanString_encodeRune_high (scanned : scanString fuel more = .ok (cs, after))
    {c : Char} (high : 0x80 ≤ c.toNat) :
    scanString (fuel + 1) (encodeRune c ++ more) = .ok (c :: cs, after) := by
  obtain ⟨b, rest, bytes, first⟩ := encodeRune_head high
  rw [bytes, List.cons_append]
  have decoded : decodeRune (b :: (rest ++ more)) = (c, (encodeRune c).length) := by
    rw [← List.cons_append, ← bytes, decodeRune_encodeRune]
  exact scanString_multibyte scanned first decoded (by rw [← List.cons_append, ← bytes, List.drop_left])

/-- The bytes `escapeChar` writes for `c` read back as `c`. -/
theorem scanString_escapeChar (scanned : scanString fuel more = .ok (cs, after)) (c : Char) :
    scanString (fuel + 1) (escapeChar c ++ more) = .ok (c :: cs, after) := by
  have valid : c.toNat < 0xD800 ∨ (0xDFFF < c.toNat ∧ c.toNat < 0x110000) := c.valid
  unfold escapeChar
  dsimp only
  by_cases ascii : c.toNat < 0x80
  · rw [if_pos ascii]
    by_cases safe : htmlSafe c.toNat
    · -- printable: the byte itself
      rw [if_pos safe]
      simp only [htmlSafe, Bool.and_eq_true, decide_eq_true_eq, bne_iff_ne, ne_eq] at safe
      have plain := scanString_plain scanned (b := UInt8.ofNat c.toNat)
        (byte_ne (by omega) (by show c.toNat ≠ 0x22; omega))
        (byte_ne (by omega) (by show c.toNat ≠ 0x5C; omega))
        (by rw [toNat_byte (by omega)]; omega) (by rw [toNat_byte (by omega)]; omega)
      rwa [toNat_byte (by omega), Char.ofNat_toNat] at plain
    rw [if_neg safe]
    by_cases quoted : c.toNat = 0x5C ∨ c.toNat = 0x22
    · rw [if_pos quoted]
      rcases quoted with same | same <;>
        exact scanString_escape scanned (by rw [same, ← char_eq_ofNat same.symm]; rfl)
    rw [if_neg quoted]
    by_cases backspace : c.toNat = 0x08
    · rw [if_pos backspace]
      exact scanString_escape scanned (by rw [← char_eq_ofNat backspace.symm]; rfl)
    rw [if_neg backspace]
    by_cases formFeed : c.toNat = 0x0C
    · rw [if_pos formFeed]
      exact scanString_escape scanned (by rw [← char_eq_ofNat formFeed.symm]; rfl)
    rw [if_neg formFeed]
    by_cases newline : c.toNat = 0x0A
    · rw [if_pos newline]
      exact scanString_escape scanned (by rw [← char_eq_ofNat newline.symm]; rfl)
    rw [if_neg newline]
    by_cases carriageReturn : c.toNat = 0x0D
    · rw [if_pos carriageReturn]
      exact scanString_escape scanned (by rw [← char_eq_ofNat carriageReturn.symm]; rfl)
    rw [if_neg carriageReturn]
    by_cases tab : c.toNat = 0x09
    · rw [if_pos tab]
      exact scanString_escape scanned (by rw [← char_eq_ofNat tab.symm]; rfl)
    -- `\u00XX` for the other control and HTML characters
    rw [if_neg tab]
    refine scanString_escape scanned (unescape_u (r := c.toNat) ?_ (by omega) rfl)
    simp only [hex4, show hexValue 0x30 = some 0 by decide, hexValue_hexByte (show c.toNat / 16 < 16 by omega),
      hexValue_hexByte (show c.toNat % 16 < 16 by omega), List.append_eq, List.cons_append,
      List.nil_append, Option.some.injEq, Prod.mk.injEq, and_true]
    omega
  rw [if_neg ascii]
  by_cases separator : c.toNat = 0x2028 ∨ c.toNat = 0x2029
  · -- U+2028 and U+2029
    rw [if_pos separator]
    refine scanString_escape scanned (unescape_u (r := c.toNat) ?_ (by omega) rfl)
    simp only [hex4, show hexValue 0x30 = some 0 by decide, show hexValue 0x32 = some 2 by decide,
      hexValue_hexByte (show c.toNat % 16 < 16 by omega), List.append_eq, List.cons_append,
      List.nil_append, Option.some.injEq, Prod.mk.injEq, and_true]
    omega
  -- the UTF-8 bytes
  rw [if_neg separator]
  exact scanString_encodeRune_high scanned (by omega)

/-- A character that stands for itself between the quotes of a JSON string: not a quote, a
backslash or a control character. -/
def literalChar (c : Char) : Bool := c.toNat != 0x22 && c.toNat != 0x5C && 0x20 ≤ c.toNat

/-- A literal character written as its UTF-8 bytes, unescaped, reads back as itself. -/
theorem scanString_encodeRune (scanned : scanString fuel more = .ok (cs, after)) {c : Char}
    (literal : literalChar c = true) :
    scanString (fuel + 1) (encodeRune c ++ more) = .ok (c :: cs, after) := by
  simp only [literalChar, Bool.and_eq_true, bne_iff_ne, ne_eq, decide_eq_true_eq] at literal
  obtain ⟨⟨quote, backslash⟩, printable⟩ := literal
  by_cases ascii : c.toNat < 0x80
  · have plain := scanString_plain scanned (b := UInt8.ofNat c.toNat)
      (byte_ne (by omega) (by show c.toNat ≠ 0x22; omega))
      (byte_ne (by omega) (by show c.toNat ≠ 0x5C; omega))
      (by rw [toNat_byte (by omega)]; omega) (by rw [toNat_byte (by omega)]; omega)
    rw [toNat_byte (by omega), Char.ofNat_toNat] at plain
    unfold encodeRune
    rw [if_pos ascii]
    exact plain
  · exact scanString_encodeRune_high scanned (by omega)

end

/-! ### Whole strings -/

/-- Every character is written as at least one byte: an empty escape would read back as no
character at all. -/
theorem escapeChar_ne_nil (c : Char) : escapeChar c ≠ [] := fun empty => by
  have scanned := scanString_escapeChar (show scanString 1 [0x22] = .ok ([], []) from rfl) c
  rw [empty] at scanned
  cases scanned

/-- Characters written with at least one byte each take at least as many bytes. -/
theorem length_le_flatMap (write : Char → List UInt8) (nonempty : ∀ c, write c ≠ [])
    (chars : List Char) : chars.length ≤ (chars.flatMap write).length := by
  induction chars with
  | nil => simp
  | cons c cs ih =>
    have := List.length_pos.mpr (nonempty c)
    simp only [List.flatMap_cons, List.length_append, List.length_cons]
    omega

theorem length_le_escaped (chars : List Char) : chars.length ≤ (chars.flatMap escapeChar).length :=
  length_le_flatMap escapeChar escapeChar_ne_nil chars

theorem length_le_encodeString (s : String) : s.data.length ≤ (encodeString s).length :=
  length_le_flatMap encodeRune (fun c => List.ne_nil_of_length_pos (encodeRune_length_pos c)) s.data

/-- Characters whose bytes each read back as the character, followed by a closing quote, read
back as the characters, whatever follows. -/
theorem scanString_flatMap (write : Char → List UInt8) (chars : List Char)
    (each : ∀ c ∈ chars, ∀ {fuel : Nat} {more after : List UInt8} {cs : List Char},
      scanString fuel more = .ok (cs, after) →
        scanString (fuel + 1) (write c ++ more) = .ok (c :: cs, after))
    {fuel : Nat} (enough : chars.length < fuel) (after : List UInt8) :
    scanString fuel (chars.flatMap write ++ 0x22 :: after) = .ok (chars, after) := by
  obtain ⟨f, rfl⟩ : ∃ f, fuel = f + 1 := ⟨fuel - 1, by omega⟩
  induction chars generalizing f with
  | nil => simp [scanString]
  | cons c cs ih =>
    simp only [List.length_cons] at enough
    obtain ⟨g, rfl⟩ : ∃ g, f = g + 1 := ⟨f - 1, by omega⟩
    rw [List.flatMap_cons, List.append_assoc]
    exact each c (List.mem_cons_self c cs)
      (ih (fun c' member => each c' (List.mem_cons_of_mem c member)) g (by omega))

/-- The escaped characters and a closing quote read back as the characters, whatever follows. -/
theorem scanString_escaped (chars : List Char) {fuel : Nat} (enough : chars.length < fuel)
    (after : List UInt8) :
    scanString fuel (chars.flatMap escapeChar ++ 0x22 :: after) = .ok (chars, after) :=
  scanString_flatMap escapeChar chars (fun c _ _ _ _ _ scanned => scanString_escapeChar scanned c)
    enough after

/-- Literal characters written unescaped, as `%s` writes a string, and a closing quote read back
as the characters, whatever follows. -/
theorem scanString_literal (s : String) (literal : ∀ c ∈ s.data, literalChar c = true)
    {fuel : Nat} (enough : s.data.length < fuel) (after : List UInt8) :
    scanString fuel (encodeString s ++ 0x22 :: after) = .ok (s.data, after) :=
  scanString_flatMap encodeRune s.data
    (fun c member _ _ _ _ scanned => scanString_encodeRune scanned (literal c member)) enough after

/-- The text `appendString` writes for `s`, after its opening quote, reads back as `s`. -/
theorem scanString_appendString (s : String) (after : List UInt8) :
    ∃ rest, appendString s ++ after = 0x22 :: rest ∧ scanString (rest.length + 1) rest = .ok (s.data, after) := by
  have long := length_le_escaped s.data
  refine ⟨_, by simp [appendString], scanString_escaped s.data ?_ after⟩
  rw [List.length_append]
  omega

end Sub2api.Json
