import Mathlib.Algebra.Order.Field.Basic
import Mathlib.Algebra.Order.Field.Power
import Mathlib.Data.Rat.Cast.Order
import Mathlib.Tactic.Linarith
import Mathlib.Tactic.Positivity
import Mathlib.Tactic.GCongr
import Mathlib.Tactic.Ring

/-! Go's `float64` by its IEEE 754 fields, and `strconv.ParseFloat(s, 64)` on a decimal number:
the nearest float64, ties to the even significand, and a range error past the largest finite one.
Two facts carry the JSON round trip: the result depends only on the number (not on how it is
written), and a float64's own value reads back as itself. -/

namespace Sub2api.Json

/-- A `float64` by its IEEE 754 binary64 fields. -/
structure Float64 where
  sign : Bool
  exponent : Fin 2048
  mantissa : Fin (2 ^ 52)
  deriving DecidableEq, Repr

namespace Float64

/-- Not an infinity or a NaN. -/
def IsFinite (f : Float64) : Prop := f.exponent.val < 2047

instance (f : Float64) : Decidable f.IsFinite := inferInstanceAs (Decidable (_ < _))

/-- The significand of a finite float64: its magnitude is `significand * 2 ^ binaryExponent`. -/
def significand (f : Float64) : Nat :=
  if f.exponent.val = 0 then f.mantissa.val else 2 ^ 52 + f.mantissa.val

def binaryExponent (f : Float64) : Int :=
  if f.exponent.val = 0 then -1074 else f.exponent.val - 1075

/-- The float64 of sign `neg`, significand `m < 2 ^ 53` and binary exponent `e2 ≥ -1074`
(subnormal when `m < 2 ^ 52`); a range error above the largest binary exponent. -/
def ofParts (neg : Bool) (m : Nat) (e2 : Int) : Option Float64 :=
  if e2 > 971 then none
  else if m < 2 ^ 52 then some ⟨neg, 0, ⟨m % 2 ^ 52, Nat.mod_lt _ (by norm_num)⟩⟩
  else some ⟨neg, ⟨(e2 + 1075).toNat % 2048, Nat.mod_lt _ (by norm_num)⟩,
    ⟨(m - 2 ^ 52) % 2 ^ 52, Nat.mod_lt _ (by norm_num)⟩⟩

end Float64

/-- The number of binary digits of `n`, by halving with `n` as fuel. -/
def bitLength (n : Nat) : Nat := go n n
where
  go : Nat → Nat → Nat
    | 0, _ => 0
    | fuel + 1, n => if n = 0 then 0 else go fuel (n / 2) + 1

/-- `⌊log₂ (num / den)⌋` for positive `num` and `den`: the difference of the bit lengths, or one
less. -/
def ratioLog2 (num den : Nat) : Int :=
  let k : Int := (bitLength num : Int) - bitLength den
  if den * 2 ^ k.toNat ≤ num * 2 ^ (-k).toNat then k else k - 1

/-- `strconv.ParseFloat` on the number `num / den` with sign `neg`: the nearest float64, ties to
the even significand; `none` is the range error of a number that rounds past the largest finite
float64. -/
def roundRatio (neg : Bool) (num den : Nat) : Option Float64 :=
  if num = 0 then some ⟨neg, 0, 0⟩ else
  let e2 : Int := max (ratioLog2 num den - 52) (-1074)
  let scaledNum := num * 2 ^ (-e2).toNat
  let scaledDen := den * 2 ^ e2.toNat
  let q := scaledNum / scaledDen
  let r := scaledNum % scaledDen
  let m := if scaledDen < 2 * r ∨ (2 * r = scaledDen ∧ q % 2 = 1) then q + 1 else q
  if m = 2 ^ 53 then Float64.ofParts neg (2 ^ 52) (e2 + 1) else Float64.ofParts neg m e2

/-- A decimal number `±digits * 10 ^ exponent`, as `strconv.readFloat` reads it off the text. -/
structure Decimal where
  neg : Bool
  digits : Nat
  exponent : Int
  deriving DecidableEq, Repr

namespace Decimal

/-- The number as a fraction `num / den`. -/
def num (d : Decimal) : Nat := d.digits * 10 ^ d.exponent.toNat

def den (d : Decimal) : Nat := 10 ^ (-d.exponent).toNat

end Decimal

/-- `strconv.ParseFloat(s, 64)` on the decimal `s` denotes. -/
def parseFloat (d : Decimal) : Option Float64 := roundRatio d.neg d.num d.den

example : parseFloat ⟨false, 12345678901234567890, 0⟩ = some ⟨false, 1086, 1524563898622945⟩ := by
  decide

example : parseFloat ⟨false, 1, -6⟩ = some ⟨false, 1003, 218766855499149⟩ := by decide

/-! ### The binary logarithm of a fraction -/

private theorem bitLength_go_bounds :
    ∀ fuel n, n ≤ fuel → n < 2 ^ bitLength.go fuel n ∧ (0 < n → 2 ^ (bitLength.go fuel n - 1) ≤ n)
  | 0, n, small => by simp [bitLength.go]; omega
  | fuel + 1, n, small => by
    unfold bitLength.go
    split
    · simp; omega
    · obtain ⟨upper, lower⟩ := bitLength_go_bounds fuel (n / 2) (by omega)
      refine ⟨by rw [pow_succ]; omega, fun _ => ?_⟩
      by_cases one : n / 2 = 0
      · have : bitLength.go fuel (n / 2) = 0 := by
          rw [one]; cases fuel <;> simp [bitLength.go]
        simp only [this]; omega
      · have : bitLength.go fuel (n / 2) - 1 + 1 = bitLength.go fuel (n / 2) := by
          have := lower (by omega)
          by_contra zero
          have : bitLength.go fuel (n / 2) = 0 := by omega
          simp_all
        rw [Nat.add_sub_cancel, ← this, pow_succ]
        have := lower (by omega)
        omega

theorem lt_two_pow_bitLength (n : Nat) : n < 2 ^ bitLength n :=
  (bitLength_go_bounds n n le_rfl).1

theorem two_pow_bitLength_le {n : Nat} (pos : 0 < n) : 2 ^ (bitLength n - 1) ≤ n :=
  (bitLength_go_bounds n n le_rfl).2 pos

/-- `2 ^ L ≤ num / den < 2 ^ (L + 1)`: `L` is the binary logarithm of the fraction. -/
def Log2Bounds (num den : Nat) (L : Int) : Prop :=
  (2 : ℚ) ^ L ≤ num / den ∧ (num / den : ℚ) < 2 ^ (L + 1)

theorem Log2Bounds.unique {num den : Nat} {L L' : Int} (bounds : Log2Bounds num den L)
    (bounds' : Log2Bounds num den L') : L = L' := by
  by_contra different
  rcases lt_or_gt_of_ne different with lt | gt
  · have := zpow_le_zpow_right₀ (show (1 : ℚ) ≤ 2 by norm_num) (show L + 1 ≤ L' by omega)
    linarith [bounds.2, bounds'.1]
  · have := zpow_le_zpow_right₀ (show (1 : ℚ) ≤ 2 by norm_num) (show L' + 1 ≤ L by omega)
    linarith [bounds.1, bounds'.2]

/-- The test `ratioLog2` makes is `2 ^ k ≤ num / den`. -/
private theorem two_zpow_le_iff {num den : Nat} (k : Int) (pos : 0 < den) :
    den * 2 ^ k.toNat ≤ num * 2 ^ (-k).toNat ↔ (2 : ℚ) ^ k ≤ num / den := by
  have den_pos : (0 : ℚ) < den := by exact_mod_cast pos
  rw [le_div_iff₀ den_pos]
  rcases Int.eq_nat_or_neg k with ⟨n, rfl | rfl⟩
  · simp only [Int.toNat_natCast, Int.toNat_neg_nat, pow_zero, mul_one, zpow_natCast]
    rw [mul_comm, ← Nat.cast_le (α := ℚ)]
    push_cast
    rfl
  · simp only [Int.toNat_neg_nat, neg_neg, Int.toNat_natCast, pow_zero, mul_one, zpow_neg,
      zpow_natCast]
    have two_pos : (0 : ℚ) < 2 ^ n := by positivity
    rw [← Nat.cast_le (α := ℚ), inv_mul_le_iff₀ two_pos]
    push_cast
    rw [mul_comm]

theorem ratioLog2_bounds {num den : Nat} (num_pos : 0 < num) (den_pos : 0 < den) :
    Log2Bounds num den (ratioLog2 num den) := by
  have numLower := two_pow_bitLength_le num_pos
  have numUpper := lt_two_pow_bitLength num
  have denLower := two_pow_bitLength_le den_pos
  have denUpper := lt_two_pow_bitLength den
  have qden : (0 : ℚ) < den := by exact_mod_cast den_pos
  have a_pos : 0 < bitLength num := by
    by_contra zero; simp_all
  have b_pos : 0 < bitLength den := by
    by_contra zero; simp_all
  set a := bitLength num
  set b := bitLength den
  -- the fraction lies strictly between `2 ^ (a - b - 1)` and `2 ^ (a - b + 1)`
  have lower : (2 : ℚ) ^ ((a : Int) - b - 1) < num / den := by
    rw [lt_div_iff₀ qden]
    have : (2 : ℚ) ^ ((a : Int) - b - 1) * 2 ^ (b : Int) = 2 ^ ((a - 1 : Nat) : Int) := by
      rw [← zpow_add₀ (by norm_num)]; congr 1; omega
    calc (2 : ℚ) ^ ((a : Int) - b - 1) * den < 2 ^ ((a : Int) - b - 1) * 2 ^ (b : Int) := by
          rw [zpow_natCast]; gcongr; exact_mod_cast denUpper
      _ = 2 ^ (a - 1) := by rw [this, zpow_natCast]
      _ ≤ num := by exact_mod_cast numLower
  have upper : (num / den : ℚ) < 2 ^ ((a : Int) - b + 1) := by
    rw [div_lt_iff₀ qden]
    have : (2 : ℚ) ^ ((a : Int) - b + 1) * 2 ^ ((b - 1 : Nat) : Int) = 2 ^ (a : Int) := by
      rw [← zpow_add₀ (by norm_num)]; congr 1; omega
    calc (num : ℚ) < 2 ^ a := by exact_mod_cast numUpper
      _ = 2 ^ ((a : Int) - b + 1) * 2 ^ ((b - 1 : Nat) : Int) := by rw [this, zpow_natCast]
      _ ≤ 2 ^ ((a : Int) - b + 1) * den := by
          rw [zpow_natCast]; gcongr; exact_mod_cast denLower
  unfold ratioLog2
  dsimp only
  split
  · rename_i above
    exact ⟨(two_zpow_le_iff _ den_pos).mp above, upper⟩
  · rename_i below
    rw [two_zpow_le_iff _ den_pos, not_le] at below
    exact ⟨lower.le, by simpa using below⟩

theorem ratioLog2_eq {num den : Nat} {L : Int} (num_pos : 0 < num) (den_pos : 0 < den)
    (bounds : Log2Bounds num den L) : ratioLog2 num den = L :=
  (ratioLog2_bounds num_pos den_pos).unique bounds

/-! ### `ParseFloat` depends only on the number -/

theorem ratioLog2_scale {c num den : Nat} (c_pos : 0 < c) (num_pos : 0 < num) (den_pos : 0 < den) :
    ratioLog2 (c * num) (c * den) = ratioLog2 num den := by
  apply ratioLog2_eq (Nat.mul_pos c_pos num_pos) (Nat.mul_pos c_pos den_pos)
  have qc : (c : ℚ) ≠ 0 := by exact_mod_cast c_pos.ne'
  have same : ((c * num : Nat) : ℚ) / ((c * den : Nat) : ℚ) = (num : ℚ) / den := by
    push_cast; exact mul_div_mul_left _ _ qc
  unfold Log2Bounds
  rw [same]
  exact ratioLog2_bounds num_pos den_pos

/-- Scaling numerator and denominator alike changes nothing: `ParseFloat` reads the number, not
the way it is written. -/
theorem roundRatio_scale (neg : Bool) {c num den : Nat} (c_pos : 0 < c) (den_pos : 0 < den) :
    roundRatio neg (c * num) (c * den) = roundRatio neg num den := by
  by_cases zero : num = 0
  · simp [roundRatio, zero]
  have num_pos : 0 < num := Nat.pos_of_ne_zero zero
  unfold roundRatio
  rw [if_neg (Nat.mul_pos c_pos num_pos).ne', if_neg zero, ratioLog2_scale c_pos num_pos den_pos]
  dsimp only
  simp only [Nat.mul_assoc, Nat.mul_div_mul_left _ _ c_pos, Nat.mul_mod_mul_left]
  have lt_iff : ∀ x y : Nat, c * y < 2 * (c * x) ↔ y < 2 * x := fun x y => by
    rw [Nat.mul_left_comm]; exact Nat.mul_lt_mul_left c_pos
  have eq_iff : ∀ x y : Nat, 2 * (c * x) = c * y ↔ 2 * x = y := fun x y => by
    rw [Nat.mul_left_comm]; exact Nat.mul_right_inj c_pos.ne'
  simp only [lt_iff, eq_iff]

/-! ### A float64 reads back as itself -/

theorem significand_lt (f : Float64) : f.significand < 2 ^ 53 := by
  have := f.mantissa.isLt
  unfold Float64.significand; split <;> omega

/-- The bit length of a float64's significand sets its binary exponent: 53 for a normal one,
and a subnormal one sits at the least exponent. -/
private theorem significand_bitLength {f : Float64} (finite : f.IsFinite) (pos : 0 < f.significand) :
    ((bitLength f.significand : Int) - 1 + f.binaryExponent - 52 ≤ -1074 ∧
      f.binaryExponent = -1074 ∧ f.significand < 2 ^ 52) ∨
    ((bitLength f.significand : Int) - 1 + f.binaryExponent - 52 = f.binaryExponent ∧
      -1074 ≤ f.binaryExponent ∧ 2 ^ 52 ≤ f.significand) := by
  have upper := lt_two_pow_bitLength f.significand
  have lower := two_pow_bitLength_le pos
  unfold Float64.significand Float64.binaryExponent at *
  unfold Float64.IsFinite at finite
  split
  · rename_i subnormal
    rw [if_pos subnormal] at upper lower
    left
    have : bitLength f.mantissa.val ≤ 52 := by
      by_contra big
      have := Nat.pow_le_pow_right (show 0 < 2 by norm_num) (show 52 ≤ bitLength f.mantissa.val - 1 by omega)
      have := f.mantissa.isLt
      omega
    exact ⟨by omega, rfl, f.mantissa.isLt⟩
  · rename_i normal
    rw [if_neg normal] at upper lower
    right
    have length : bitLength (2 ^ 52 + f.mantissa.val) = 53 := by
      have := f.mantissa.isLt
      by_contra other
      rcases Nat.lt_or_gt_of_ne other with short | long
      · have := Nat.pow_le_pow_right (show 0 < 2 by norm_num) (show bitLength (2 ^ 52 + f.mantissa.val) ≤ 52 by omega)
        omega
      · have := Nat.pow_le_pow_right (show 0 < 2 by norm_num) (show 53 ≤ bitLength (2 ^ 52 + f.mantissa.val) - 1 by omega)
        omega
    rw [length]
    exact ⟨by omega, by omega, by omega⟩

private theorem binary_value (S : Nat) (e : Int) :
    ((S * 2 ^ e.toNat : Nat) : ℚ) / ((2 ^ (-e).toNat : Nat) : ℚ) = S * 2 ^ e := by
  push_cast
  rcases Int.eq_nat_or_neg e with ⟨n, rfl | rfl⟩
  · simp
  · simp [zpow_neg, div_eq_mul_inv]

private theorem log2Bounds_binary {S : Nat} (e : Int) (pos : 0 < S) :
    Log2Bounds (S * 2 ^ e.toNat) (2 ^ (-e).toNat) ((bitLength S : Int) - 1 + e) := by
  have lower := two_pow_bitLength_le pos
  have upper := lt_two_pow_bitLength S
  have length : 0 < bitLength S := by
    by_contra zero; simp_all
  have split_lower : (2 : ℚ) ^ ((bitLength S : Int) - 1 + e) = 2 ^ (bitLength S - 1) * 2 ^ e := by
    rw [zpow_add₀ two_ne_zero, ← zpow_natCast]; congr 2; omega
  have split_upper : (2 : ℚ) ^ ((bitLength S : Int) - 1 + e + 1) = 2 ^ bitLength S * 2 ^ e := by
    rw [show (bitLength S : Int) - 1 + e + 1 = bitLength S + e by ring, zpow_add₀ two_ne_zero,
      zpow_natCast]
  unfold Log2Bounds
  rw [binary_value, split_lower, split_upper]
  have scale : (0 : ℚ) < 2 ^ e := zpow_pos (by norm_num) e
  exact ⟨by gcongr; exact_mod_cast lower, by gcongr; exact_mod_cast upper⟩

private theorem float64_ext {f : Float64} {exponent : Fin 2048} {mantissa : Fin (2 ^ 52)}
    (sameExponent : exponent.val = f.exponent.val) (sameMantissa : mantissa.val = f.mantissa.val) :
    (⟨f.sign, exponent, mantissa⟩ : Float64) = f := by
  cases f
  simp only [Float64.mk.injEq, true_and]
  exact ⟨Fin.ext sameExponent, Fin.ext sameMantissa⟩

private theorem ofParts_self {f : Float64} (finite : f.IsFinite) :
    Float64.ofParts f.sign f.significand f.binaryExponent = some f := by
  unfold Float64.IsFinite at finite
  have small := f.mantissa.isLt
  unfold Float64.ofParts Float64.significand Float64.binaryExponent
  by_cases subnormal : f.exponent.val = 0
  · simp only [subnormal, if_true, Nat.mod_eq_of_lt small, small]
    exact congrArg some (float64_ext (by simp [subnormal]) rfl)
  · simp only [subnormal, if_false]
    rw [if_neg (by omega), if_neg (by omega)]
    exact congrArg some (float64_ext (by simp only [Fin.val_mk]; omega)
      (by simp [Nat.mod_eq_of_lt small]))

/-- A float64's own value, written as a binary fraction, reads back as itself. -/
theorem roundRatio_self {f : Float64} (finite : f.IsFinite) :
    roundRatio f.sign (f.significand * 2 ^ f.binaryExponent.toNat) (2 ^ (-f.binaryExponent).toNat) =
      some f := by
  have bounded := significand_lt f
  by_cases zero : f.significand = 0
  · have fields : f.exponent.val = 0 ∧ f.mantissa.val = 0 := by
      unfold Float64.significand at zero; unfold Float64.IsFinite at finite
      split at zero <;> omega
    simp only [roundRatio, zero, Nat.zero_mul, if_true, Option.some.injEq]
    exact float64_ext (by simp [fields.1]) (by simp [fields.2])
  have pos : 0 < f.significand := Nat.pos_of_ne_zero zero
  have binade : max (ratioLog2 (f.significand * 2 ^ f.binaryExponent.toNat)
      (2 ^ (-f.binaryExponent).toNat) - 52) (-1074) = f.binaryExponent := by
    rw [ratioLog2_eq (by positivity) (by positivity) (log2Bounds_binary _ pos)]
    rcases significand_bitLength finite pos with ⟨below, least, -⟩ | ⟨same, above, -⟩ <;> omega
  have exact : f.significand * 2 ^ f.binaryExponent.toNat * 2 ^ (-f.binaryExponent).toNat =
      f.significand * (2 ^ (-f.binaryExponent).toNat * 2 ^ f.binaryExponent.toNat) := by ring
  have unit : 0 < 2 ^ (-f.binaryExponent).toNat * 2 ^ f.binaryExponent.toNat := by positivity
  unfold roundRatio
  rw [if_neg (Nat.mul_pos pos (by positivity)).ne']
  dsimp only
  rw [binade, exact, Nat.mul_div_cancel _ unit, Nat.mul_mod_left]
  simp only [Nat.mul_zero, Nat.not_lt_zero, unit.ne, false_and, or_self, if_false,
    if_neg (show f.significand ≠ 2 ^ 53 by omega)]
  exact ofParts_self finite

end Sub2api.Json
