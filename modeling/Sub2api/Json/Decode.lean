import Sub2api.Json.Utf8
import Sub2api.Json.Value

/-! `json.Unmarshal` on a byte slice. Go checks the whole text with its scanner first and then
decodes it; both passes are one recursive descent here, which fails exactly where either pass
fails. Strings are unquoted as `unquote` does (escapes, surrogate pairs, U+FFFD for a byte that
is not UTF-8); numbers go to a reader, `strconv.ParseFloat` for Go's `any`. Every call of the
descent consumes input, so `2 * length + 2` calls always suffice. -/

namespace Sub2api.Json

/-- Why `json.Unmarshal` fails; `Responses` only asks whether it did. -/
inductive DecodeError where
  /-- A `SyntaxError` of the scanner. -/
  | syntaxError
  /-- The scanner's "exceeded max depth". -/
  | maxDepth
  /-- An `UnmarshalTypeError` for a number out of `float64`'s range. -/
  | numberRange
  /-- An `UnmarshalTypeError` for a top-level value a map cannot hold. -/
  | notObject
  deriving DecidableEq, Repr

/-- `isSpace` of the scanner: space, tab, newline and carriage return. -/
def isSpace (b : UInt8) : Bool := b = 0x20 || b = 0x09 || b = 0x0A || b = 0x0D

def skipSpace : List UInt8 → List UInt8
  | [] => []
  | b :: rest => if isSpace b then skipSpace rest else b :: rest

/-! ### Strings -/

/-- One hexadecimal digit of a `\u` escape. -/
def hexValue (b : UInt8) : Option Nat :=
  if 0x30 ≤ b.toNat ∧ b.toNat ≤ 0x39 then some (b.toNat - 0x30)
  else if 0x61 ≤ b.toNat ∧ b.toNat ≤ 0x66 then some (b.toNat - 0x61 + 10)
  else if 0x41 ≤ b.toNat ∧ b.toNat ≤ 0x46 then some (b.toNat - 0x41 + 10)
  else none

/-- `getu4` after its `\u`: four hexadecimal digits. -/
def hex4 : List UInt8 → Option (Nat × List UInt8)
  | h1 :: h2 :: h3 :: h4 :: rest =>
    match hexValue h1, hexValue h2, hexValue h3, hexValue h4 with
    | some a, some b, some c, some d => some (((a * 16 + b) * 16 + c) * 16 + d, rest)
    | _, _, _, _ => none
  | _ => none

/-- `utf16.DecodeRune` of a surrogate pair, or `none` for two runes that are not one. -/
def decodeSurrogates (r1 r2 : Nat) : Option Char :=
  if 0xD800 ≤ r1 ∧ r1 < 0xDC00 ∧ 0xDC00 ≤ r2 ∧ r2 < 0xE000 then
    some (Char.ofNat ((r1 - 0xD800) * 1024 + (r2 - 0xDC00) + 0x10000))
  else none

/-- The escape after a backslash, as the scanner accepts it and `unquote` reads it. A `\u`
escape of a UTF-16 surrogate takes the `\u` escape after it when the two make a pair, and reads
as U+FFFD otherwise. -/
def unescape : List UInt8 → Option (Char × List UInt8)
  | [] => none
  | b :: rest =>
    if b = 0x22 then some ('"', rest)
    else if b = 0x5C then some ('\\', rest)
    else if b = 0x2F then some ('/', rest)
    else if b = 0x62 then some (Char.ofNat 0x08, rest)
    else if b = 0x66 then some (Char.ofNat 0x0C, rest)
    else if b = 0x6E then some ('\n', rest)
    else if b = 0x72 then some ('\r', rest)
    else if b = 0x74 then some ('\t', rest)
    else if b = 0x75 then
      match hex4 rest with
      | none => none
      | some (rr, rest) =>
        if 0xD800 ≤ rr ∧ rr < 0xE000 then
          match rest with
          | 0x5C :: 0x75 :: more =>
            match hex4 more with
            | some (rr1, rest') =>
              match decodeSurrogates rr rr1 with
              | some c => some (c, rest')
              | none => some (runeError, rest)
            | none => some (runeError, rest)
          | _ => some (runeError, rest)
        else some (Char.ofNat rr, rest)
    else none

/-- The characters of a string literal after its opening quote, and the input after its closing
quote; `fuel` bounds the bytes read. -/
def scanString : Nat → List UInt8 → Except DecodeError (List Char × List UInt8)
  | 0, _ => .error .syntaxError
  | _ + 1, [] => .error .syntaxError
  | fuel + 1, b :: rest =>
    if b = 0x22 then .ok ([], rest)
    else if b = 0x5C then
      match unescape rest with
      | some (c, rest') => (scanString fuel rest').map fun (cs, after) => (c :: cs, after)
      | none => .error .syntaxError
    else if b.toNat < 0x20 then .error .syntaxError
    else if b.toNat < 0x80 then
      (scanString fuel rest).map fun (cs, after) => (Char.ofNat b.toNat :: cs, after)
    else
      let (c, size) := decodeRune (b :: rest)
      (scanString fuel ((b :: rest).drop size)).map fun (cs, after) => (c :: cs, after)

/-! ### Numbers -/

def isDigit (b : UInt8) : Bool := 0x30 ≤ b.toNat && b.toNat ≤ 0x39

/-- Mathlib states `toNat` of a byte literal modulo `UInt8.size`; this lets `simp` finish it. -/
@[simp] theorem uint8Size_eq : UInt8.size = 256 := rfl

/-- The number the decimal digits spell. -/
def digitsValue (ds : List UInt8) : Nat := ds.foldl (fun n b => n * 10 + (b.toNat - 0x30)) 0

/-- The exponent as `readFloat` accumulates it: digits past 10000 are dropped. -/
def exponentValue (ds : List UInt8) : Nat :=
  ds.foldl (fun e b => if e < 10000 then e * 10 + (b.toNat - 0x30) else e) 0

/-- The integer part: `0`, or a nonzero digit and more digits. -/
def scanInteger : List UInt8 → Option (List UInt8 × List UInt8)
  | 0x30 :: rest => some ([0x30], rest)
  | b :: rest =>
    if isDigit b then some (b :: (rest.span isDigit).1, (rest.span isDigit).2) else none
  | [] => none

/-- The fraction part: a point and at least one digit, or nothing. -/
def scanFraction : List UInt8 → Option (List UInt8 × List UInt8)
  | 0x2E :: rest =>
    match rest.span isDigit with
    | ([], _) => none
    | (ds, after) => some (ds, after)
  | input => some ([], input)

/-- The exponent part: `e` or `E`, a sign, at least one digit; or nothing. -/
def scanExponent : List UInt8 → Option (Int × List UInt8)
  | [] => some (0, [])
  | b :: rest =>
    if b = 0x65 ∨ b = 0x45 then
      let (neg, body) : Bool × List UInt8 := match rest with
        | 0x2D :: more => (true, more)
        | 0x2B :: more => (false, more)
        | more => (false, more)
      match body.span isDigit with
      | ([], _) => none
      | (ds, after) => some (if neg then -(exponentValue ds : Int) else exponentValue ds, after)
    else some (0, b :: rest)

/-- A number by the scanner's grammar `-? (0 | [1-9][0-9]*) (.[0-9]+)? ([eE][+-]?[0-9]+)?`, as
the decimal `readFloat` makes of it. -/
def scanNumber (input : List UInt8) : Option (Decimal × List UInt8) :=
  let (neg, body) : Bool × List UInt8 := match input with
    | 0x2D :: rest => (true, rest)
    | rest => (false, rest)
  match scanInteger body with
  | none => none
  | some (intDigits, rest) =>
    match scanFraction rest with
    | none => none
    | some (fracDigits, rest) =>
      match scanExponent rest with
      | none => none
      | some (exp, rest) =>
        some (⟨neg, digitsValue (intDigits ++ fracDigits), exp - fracDigits.length⟩, rest)

/-! ### Values -/

/-- `maxNestingDepth` of the scanner. -/
def maxNestingDepth : Nat := 10000

variable {Num : Type} (readNumber : Decimal → Except DecodeError Num)

/-- The bytes of `true`, `false` or `null` after the first, as the scanner's `stateT`, `stateTr`,
... states check them one at a time. -/
def keyword (word : List UInt8) (v : Value Num) (rest : List UInt8) :
    Except DecodeError (Value Num × List UInt8) :=
  if word.isPrefixOf rest then .ok (v, rest.drop word.length) else .error .syntaxError

mutual
/-- A value after optional whitespace, `depth` arrays and objects deep. The first byte decides,
as in the scanner's `stateBeginValue`. -/
def parseValue : Nat → Nat → List UInt8 → Except DecodeError (Value Num × List UInt8)
  | 0, _, _ => .error .syntaxError
  | fuel + 1, depth, input =>
    match skipSpace input with
    | [] => .error .syntaxError
    | b :: rest =>
      if b = 0x7B then
        if depth < maxNestingDepth then
          match skipSpace rest with
          | 0x7D :: after => .ok (.object [], after)
          | body => parseMembers fuel (depth + 1) [] body
        else .error .maxDepth
      else if b = 0x5B then
        if depth < maxNestingDepth then
          match skipSpace rest with
          | 0x5D :: after => .ok (.array [], after)
          | _ => parseElements fuel (depth + 1) [] rest
        else .error .maxDepth
      else if b = 0x22 then
        (scanString (rest.length + 1) rest).map fun (cs, after) => (.string ⟨cs⟩, after)
      else if b = 0x74 then keyword [0x72, 0x75, 0x65] (.bool true) rest
      else if b = 0x66 then keyword [0x61, 0x6C, 0x73, 0x65] (.bool false) rest
      else if b = 0x6E then keyword [0x75, 0x6C, 0x6C] .null rest
      else
        match scanNumber (b :: rest) with
        | some (d, after) => (readNumber d).map fun n => (.number n, after)
        | none => .error .syntaxError

/-- The elements of an array after `[`, those read so far in `items`. -/
def parseElements : Nat → Nat → List (Value Num) → List UInt8 →
    Except DecodeError (Value Num × List UInt8)
  | 0, _, _, _ => .error .syntaxError
  | fuel + 1, depth, items, input =>
    match parseValue fuel depth input with
    | .error e => .error e
    | .ok (v, rest) =>
      match skipSpace rest with
      | 0x2C :: after => parseElements fuel depth (items ++ [v]) after
      | 0x5D :: after => .ok (.array (items ++ [v]), after)
      | _ => .error .syntaxError

/-- The members of an object after `{` and whitespace, stored so far in the map `members`. -/
def parseMembers : Nat → Nat → List (String × Value Num) → List UInt8 →
    Except DecodeError (Value Num × List UInt8)
  | 0, _, _, _ => .error .syntaxError
  | fuel + 1, depth, members, input =>
    match input with
    | 0x22 :: rest =>
      match scanString (rest.length + 1) rest with
      | .error e => .error e
      | .ok (key, rest) =>
        match skipSpace rest with
        | 0x3A :: rest =>
          match parseValue fuel depth rest with
          | .error e => .error e
          | .ok (v, rest) =>
            match skipSpace rest with
            | 0x2C :: after => parseMembers fuel depth (insertMember ⟨key⟩ v members) (skipSpace after)
            | 0x7D :: after => .ok (.object (insertMember ⟨key⟩ v members), after)
            | _ => .error .syntaxError
        | _ => .error .syntaxError
    | _ => .error .syntaxError
end

/-- A whole JSON text: one value with nothing but whitespace after it. -/
def parseText (data : List UInt8) : Except DecodeError (Value Num) :=
  match parseValue readNumber (2 * data.length + 2) 0 data with
  | .error e => .error e
  | .ok (v, rest) => if skipSpace rest = [] then .ok v else .error .syntaxError

/-- Go's reading of a number into `any`: `strconv.ParseFloat(s, 64)`, and an
`UnmarshalTypeError` when it reports a range error. -/
def goNumber (d : Decimal) : Except DecodeError Float64 :=
  match parseFloat d with
  | some f => .ok f
  | none => .error .numberRange

/-- The exact number the text denotes. -/
def Decimal.toRat (d : Decimal) : ℚ := (if d.neg then -1 else 1) * (d.num : ℚ) / d.den

def exactNumber (d : Decimal) : Except DecodeError ℚ := .ok d.toRat

/-- `json.Unmarshal(data, &m)` for `var m map[string]any`: the map, or `none` for a JSON `null`,
which leaves `m` nil. -/
def unmarshal (data : List UInt8) : Except DecodeError (Option (List (String × GoValue))) :=
  match parseText goNumber data with
  | .ok (.object members) => .ok (some members)
  | .ok .null => .ok none
  | .ok _ => .error .notObject
  | .error e => .error e

end Sub2api.Json
