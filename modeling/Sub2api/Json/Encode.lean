import Sub2api.Json.Decode
import Mathlib.Data.List.Sort

/-! `json.Marshal` of Go's `any`. A float64 is written with the fewest digits `ParseFloat` reads
back (`strconv.AppendFloat(b, f, 'f' or 'e', -1, 64)`), strings are escaped for HTML as
`appendString` does, and map entries come sorted by key. -/

namespace Sub2api.Json

/-- `json.Marshal`'s `UnsupportedValueError`, for an infinity or a NaN. -/
inductive EncodeError where
  | unsupportedValue (f : Float64)
  deriving DecidableEq, Repr

/-! ### Numbers -/

/-- The decimal digits of `n`, most significant first (`[0]` for zero). -/
def decimalDigits (n : Nat) : List Nat := go (n + 1) n []
where
  go : Nat → Nat → List Nat → List Nat
    | 0, _, acc => acc
    | fuel + 1, n, acc => if n < 10 then n :: acc else go fuel (n / 10) (n % 10 :: acc)

def digitByte (d : Nat) : UInt8 := UInt8.ofNat (0x30 + d)

/-- The exact value of a finite float64 as a decimal: `significand * 2 ^ e`, which for a
negative `e` is `significand * 5 ^ -e * 10 ^ e`. -/
def Float64.exactDecimal (f : Float64) : Decimal :=
  if 0 ≤ f.binaryExponent then ⟨f.sign, f.significand * 2 ^ f.binaryExponent.toNat, 0⟩
  else ⟨f.sign, f.significand * 5 ^ (-f.binaryExponent).toNat, f.binaryExponent⟩

/-- The two decimals of `n` significant digits around `d`: `d` cut to `n` digits and the next one
up, with how far `d` lies above the cut, out of one unit of the last digit kept. -/
def Decimal.cut (d : Decimal) (n : Nat) : Decimal × Decimal × Nat × Nat :=
  let drop := (decimalDigits d.digits).length - n
  (⟨d.neg, d.digits / 10 ^ drop, d.exponent + drop⟩, ⟨d.neg, d.digits / 10 ^ drop + 1, d.exponent + drop⟩,
    d.digits % 10 ^ drop, 10 ^ drop)

/-- Of the two decimals of `n` digits around the exact value `d` of `f`, the one `ParseFloat`
reads back as `f`; the nearer when both do, ties to an even last digit. -/
def shortestAt (f : Float64) (d : Decimal) (n : Nat) : Option Decimal :=
  let (lo, hi, rem, unit) := d.cut n
  if parseFloat lo = some f ∧ parseFloat hi = some f then
    if 2 * rem < unit ∨ (2 * rem = unit ∧ lo.digits % 2 = 0) then some lo else some hi
  else if parseFloat lo = some f then some lo
  else if parseFloat hi = some f then some hi
  else none

/-- The digits `strconv` writes for precision -1: the fewest significant digits that `ParseFloat`
reads back as `f`, and among those the nearest to `f`; no digits for a zero. -/
def shortestDecimal (f : Float64) : Decimal :=
  if f.significand = 0 then ⟨f.sign, 0, 0⟩ else
  let d := f.exactDecimal
  ((List.range (decimalDigits d.digits).length).findSome? fun i => shortestAt f d (i + 1)).getD d

/-- `d` without trailing zero digits; zero stays zero. -/
def Decimal.trim (d : Decimal) : Decimal := go d.digits d
where
  go : Nat → Decimal → Decimal
    | 0, d => d
    | fuel + 1, d =>
      if d.digits ≠ 0 ∧ d.digits % 10 = 0 then go fuel ⟨d.neg, d.digits / 10, d.exponent + 1⟩ else d

/-- `%e` with the shortest precision: `d.ddde±dd`, the exponent at least two digits. -/
def fmtE (neg : Bool) (ds : List Nat) (dp : Int) : List UInt8 :=
  let exp := dp - 1
  (if neg then [0x2D] else []) ++ (ds.take 1).map digitByte ++
    (if 1 < ds.length then 0x2E :: (ds.drop 1).map digitByte else []) ++
    [0x65, if exp < 0 then 0x2D else 0x2B] ++
    (if exp.natAbs < 10 then [0x30, digitByte exp.natAbs]
      else (decimalDigits exp.natAbs).map digitByte)

/-- `%f` with the shortest precision: the integer digits padded with zeros (or `0`), then the
digits after the point: zeros up to the first digit, and the digits. -/
def fmtF (neg : Bool) (ds : List Nat) (dp : Int) : List UInt8 :=
  (if neg then [0x2D] else []) ++
    (if 0 < dp then (ds.take dp.toNat ++ List.replicate (dp.toNat - ds.length) 0).map digitByte
      else [0x30]) ++
    (if dp < ds.length then
      0x2E :: (List.replicate (-dp).toNat 0 ++ ds.drop dp.toNat).map digitByte
    else [])

/-- The clean-up `floatEncoder` makes after `%e`: `e-09` becomes `e-9`. -/
def cleanExponent (b : List UInt8) : List UInt8 :=
  match b.reverse with
  | d :: 0x30 :: 0x2D :: 0x65 :: rest => (d :: 0x2D :: 0x65 :: rest).reverse
  | _ => b

/-- `|f| < |g|` on finite float64s. -/
def Float64.absLess (f g : Float64) : Bool :=
  let shift := f.binaryExponent - g.binaryExponent
  if 0 ≤ shift then f.significand * 2 ^ shift.toNat < g.significand
  else f.significand < g.significand * 2 ^ (-shift).toNat

/-- The float64 constants `1e-6` and `1e21` of `floatEncoder`. -/
def oneEminus6 : Float64 := ⟨false, 1003, 218766855499149⟩
def oneE21 : Float64 := ⟨false, 1092, 3125794903879504⟩

example : parseFloat ⟨false, 1, -6⟩ = some oneEminus6 ∧ parseFloat ⟨false, 1, 21⟩ = some oneE21 := by
  decide

/-- `floatEncoder` for a float64: `%e` form for a nonzero magnitude below `1e-6` or from `1e21`
on, `%f` form otherwise; an infinity or a NaN is refused. -/
def floatBytes (f : Float64) : Except EncodeError (List UInt8) :=
  if ¬ f.IsFinite then .error (.unsupportedValue f) else
  let d := (shortestDecimal f).trim
  let ds := if d.digits = 0 then [] else decimalDigits d.digits
  let dp : Int := ds.length + d.exponent
  if f.significand ≠ 0 ∧ (f.absLess oneEminus6 ∨ ¬ f.absLess oneE21) then
    .ok (cleanExponent (fmtE f.sign ds dp))
  else .ok (fmtF f.sign ds dp)

/-! ### Strings -/

/-- The digits of `"0123456789abcdef"`. -/
def hexByte (n : Nat) : UInt8 := if n < 10 then UInt8.ofNat (0x30 + n) else UInt8.ofNat (0x61 + n - 10)

/-- `htmlSafeSet`: printable ASCII other than `"`, `\`, `<`, `>` and `&`. -/
def htmlSafe (n : Nat) : Bool :=
  0x20 ≤ n && n < 0x80 && n != 0x22 && n != 0x5C && n != 0x3C && n != 0x3E && n != 0x26

/-- What `appendString` with `escapeHTML` writes for one character of a valid UTF-8 string. -/
def escapeChar (c : Char) : List UInt8 :=
  let n := c.toNat
  if n < 0x80 then
    if htmlSafe n then [UInt8.ofNat n]
    else if n = 0x5C ∨ n = 0x22 then [0x5C, UInt8.ofNat n]
    else if n = 0x08 then [0x5C, 0x62]
    else if n = 0x0C then [0x5C, 0x66]
    else if n = 0x0A then [0x5C, 0x6E]
    else if n = 0x0D then [0x5C, 0x72]
    else if n = 0x09 then [0x5C, 0x74]
    else [0x5C, 0x75, 0x30, 0x30, hexByte (n / 16), hexByte (n % 16)]
  else if n = 0x2028 ∨ n = 0x2029 then [0x5C, 0x75, 0x32, 0x30, 0x32, hexByte (n % 16)]
  else encodeRune c

/-- `appendString` with `escapeHTML`: the string quoted and escaped. -/
def appendString (s : String) : List UInt8 := 0x22 :: s.data.flatMap escapeChar ++ [0x22]

/-! ### Values -/

/-- Parts joined with commas. -/
def joinCommas : List (List UInt8) → List UInt8
  | [] => []
  | [part] => part
  | part :: parts => part ++ 0x2C :: joinCommas parts

/-- Map entries in Go's key order. -/
def sortEntries (entries : List (String × List UInt8)) : List (String × List UInt8) :=
  entries.insertionSort fun a b => keyLess a.1 b.1

mutual
/-- `json.Marshal` of a value of `any`. -/
def encodeValue : GoValue → Except EncodeError (List UInt8)
  | .null => .ok [0x6E, 0x75, 0x6C, 0x6C]
  | .bool true => .ok [0x74, 0x72, 0x75, 0x65]
  | .bool false => .ok [0x66, 0x61, 0x6C, 0x73, 0x65]
  | .number f => floatBytes f
  | .string s => .ok (appendString s)
  | .array items => (encodeItems items).map fun parts => 0x5B :: joinCommas parts ++ [0x5D]
  | .object members => (encodeMembers members).map fun entries =>
      0x7B :: joinCommas ((sortEntries entries).map fun e => appendString e.1 ++ 0x3A :: e.2) ++
        [0x7D]

def encodeItems : List GoValue → Except EncodeError (List (List UInt8))
  | [] => .ok []
  | v :: vs =>
    match encodeValue v, encodeItems vs with
    | .ok part, .ok parts => .ok (part :: parts)
    | .error e, _ => .error e
    | _, .error e => .error e

def encodeMembers : List (String × GoValue) → Except EncodeError (List (String × List UInt8))
  | [] => .ok []
  | (k, v) :: ms =>
    match encodeValue v, encodeMembers ms with
    | .ok part, .ok parts => .ok ((k, part) :: parts)
    | .error e, _ => .error e
    | _, .error e => .error e
end

/-- `json.Marshal` of a `map[string]any`. -/
def marshal (members : List (String × GoValue)) : Except EncodeError (List UInt8) :=
  encodeValue (.object members)

end Sub2api.Json
