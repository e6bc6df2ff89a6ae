import Sub2api.Json.Encode

/-! The number text `json.Marshal` writes for a finite float64 reads back as that float64: the
decimal `strconv` picks reads back by construction of the search, trailing zeros change no
value, and the `%e` or `%f` text of the digits is scanned back to a decimal of the same
value. -/

namespace Sub2api.Json

/-! ### Digits -/

/-- The number a list of decimal digits spells, most significant first. -/
def digitValue (ds : List Nat) : Nat := ds.foldl (fun v d => v * 10 + d) 0

private theorem foldl_digits (ds : List Nat) (init : Nat) :
    ds.foldl (fun v d => v * 10 + d) init = init * 10 ^ ds.length + digitValue ds := by
  induction ds generalizing init with
  | nil => simp [digitValue]
  | cons d ds ih =>
    simp only [digitValue, List.foldl_cons, List.length_cons, ih (init * 10 + d), ih (0 * 10 + d)]
    ring

theorem digitValue_append (xs ys : List Nat) :
    digitValue (xs ++ ys) = digitValue xs * 10 ^ ys.length + digitValue ys := by
  rw [digitValue, List.foldl_append, foldl_digits]; rfl

@[simp] theorem digitValue_nil : digitValue [] = 0 := rfl

@[simp] theorem digitValue_replicate_zero (k : Nat) : digitValue (List.replicate k 0) = 0 := by
  induction k with
  | zero => rfl
  | succ k ih =>
    rw [List.replicate_succ', digitValue_append, ih]
    rfl

theorem toNat_digitByte {d : Nat} (digit : d < 10) : (digitByte d).toNat = 0x30 + d :=
  UInt8.toNat_ofNat_of_lt (by simp only [UInt8.size]; omega)

theorem isDigit_digitByte {d : Nat} (digit : d < 10) : isDigit (digitByte d) = true := by
  simp [isDigit, toNat_digitByte digit]
  omega

/-- Read back through `readFloat`, the bytes of digits spell their value. -/
theorem digitsValue_map_digitByte {ds : List Nat} (digits : ∀ d ∈ ds, d < 10) :
    digitsValue (ds.map digitByte) = digitValue ds := by
  rw [digitsValue, List.foldl_map, digitValue]
  refine List.foldl_ext _ _ _ fun v d member => ?_
  rw [toNat_digitByte (digits d member)]
  omega

private theorem go_spec : ∀ (fuel n : Nat) (acc : List Nat), n < fuel →
    (∀ d ∈ decimalDigits.go fuel n acc, d < 10 ∨ d ∈ acc) ∧
    digitValue (decimalDigits.go fuel n acc) = n * 10 ^ acc.length + digitValue acc ∧
    (decimalDigits.go fuel n acc).length ≥ acc.length + 1
  | 0, _, _, small => absurd small (Nat.not_lt_zero _)
  | fuel + 1, n, acc, small => by
    unfold decimalDigits.go
    split
    · rename_i below
      refine ⟨fun d member => ?_, ?_, by simp⟩
      · rcases List.mem_cons.mp member with rfl | old
        · exact .inl below
        · exact .inr old
      · rw [show n :: acc = [n] ++ acc from rfl, digitValue_append]
        simp [digitValue]
    · obtain ⟨digits, value, long⟩ := go_spec fuel (n / 10) (n % 10 :: acc) (by omega)
      refine ⟨fun d member => ?_, ?_, by simp at long ⊢; omega⟩
      · rcases digits d member with digit | old
        · exact .inl digit
        · rcases List.mem_cons.mp old with rfl | older
          · exact .inl (Nat.mod_lt _ (by omega))
          · exact .inr older
      · rw [value, show n % 10 :: acc = [n % 10] ++ acc from rfl, digitValue_append,
          List.length_append, show n * 10 ^ acc.length = (10 * (n / 10) + n % 10) * 10 ^ acc.length by
            rw [Nat.div_add_mod]]
        simp only [List.length_singleton, digitValue, List.foldl_cons, List.foldl_nil]
        ring

theorem decimalDigits_lt {n d : Nat} (member : d ∈ decimalDigits n) : d < 10 := by
  rcases (go_spec (n + 1) n [] (by omega)).1 d member with digit | none
  · exact digit
  · cases none

theorem digitValue_decimalDigits (n : Nat) : digitValue (decimalDigits n) = n := by
  simpa using (go_spec (n + 1) n [] (by omega)).2.1

theorem decimalDigits_ne_nil (n : Nat) : decimalDigits n ≠ [] := by
  intro empty
  have := (go_spec (n + 1) n [] (by omega)).2.2
  rw [decimalDigits] at empty
  simp [empty] at this

private theorem go_head : ∀ (fuel n : Nat) (acc : List Nat), n < fuel → 0 < n →
    ∃ d rest, decimalDigits.go fuel n acc = d :: rest ∧ 0 < d
  | 0, _, _, small, _ => absurd small (Nat.not_lt_zero _)
  | fuel + 1, n, acc, small, pos => by
    unfold decimalDigits.go
    split
    · exact ⟨n, acc, rfl, pos⟩
    · exact go_head fuel (n / 10) _ (by omega) (by omega)

/-- A positive number's digits start with a nonzero digit. -/
theorem decimalDigits_head {n : Nat} (pos : 0 < n) :
    ∃ d rest, decimalDigits n = d :: rest ∧ 0 < d :=
  go_head (n + 1) n [] (by omega) pos

theorem digitValue_cons_ge (d : Nat) (rest : List Nat) :
    d * 10 ^ rest.length ≤ digitValue (d :: rest) := by
  rw [show d :: rest = [d] ++ rest from rfl, digitValue_append]
  simp [digitValue]

/-- A positive number below `10 ^ k` has at most `k` digits. -/
theorem decimalDigits_length_le {n k : Nat} (pos : 0 < n) (below : n < 10 ^ k) :
    (decimalDigits n).length ≤ k := by
  obtain ⟨d, rest, digits, lead⟩ := decimalDigits_head pos
  have lower := digitValue_cons_ge d rest
  rw [← digits, digitValue_decimalDigits] at lower
  have : 10 ^ rest.length < 10 ^ k :=
    calc 10 ^ rest.length ≤ d * 10 ^ rest.length := Nat.le_mul_of_pos_left _ lead
      _ ≤ n := lower
      _ < 10 ^ k := below
  rw [digits, List.length_cons]
  exact (Nat.pow_lt_pow_iff_right (by norm_num)).mp this

/-! ### Scanning digits back -/

/-- What may follow a number in the text: nothing, or a byte that cannot continue it. -/
def NumberEnd (rest : List UInt8) : Prop :=
  ∀ b ∈ rest.head?, isDigit b = false ∧ b ≠ 0x2E ∧ b ≠ 0x65 ∧ b ≠ 0x45

theorem span_digits {ds : List Nat} (digits : ∀ d ∈ ds, d < 10) {rest : List UInt8}
    (ends : ∀ b ∈ rest.head?, isDigit b = false) :
    (ds.map digitByte ++ rest).span isDigit = (ds.map digitByte, rest) := by
  have all : ∀ b ∈ ds.map digitByte, isDigit b = true := by
    simp only [List.mem_map]
    rintro _ ⟨d, member, rfl⟩
    exact isDigit_digitByte (digits d member)
  rw [List.span_eq_take_drop, List.takeWhile_append_of_pos all, List.dropWhile_append_of_pos all]
  cases rest with
  | nil => simp
  | cons b rest =>
    have := ends b rfl
    simp [List.takeWhile_cons, List.dropWhile_cons, this]

theorem scanInteger_digits {d : Nat} (ds : List Nat) (rest : List UInt8) (lead : 0 < d)
    (digits : ∀ x ∈ d :: ds, x < 10) (ends : ∀ b ∈ rest.head?, isDigit b = false) :
    scanInteger ((d :: ds).map digitByte ++ rest) = some ((d :: ds).map digitByte, rest) := by
  have nonzero : digitByte d ≠ 0x30 := fun same => by
    have := congrArg UInt8.toNat same
    rw [toNat_digitByte (digits d (List.mem_cons_self _ _))] at this
    simp at this
    omega
  simp only [List.map_cons, List.cons_append]
  rw [scanInteger.eq_2 _ _ nonzero, if_pos (isDigit_digitByte (digits d (List.mem_cons_self _ _))),
    span_digits (fun x member => digits x (List.mem_cons_of_mem _ member)) ends]

theorem scanFraction_none {rest : List UInt8} (ends : ∀ b ∈ rest.head?, b ≠ 0x2E) :
    scanFraction rest = some ([], rest) := by
  cases rest with
  | nil => rfl
  | cons b rest => rw [scanFraction.eq_2 _ (by simpa using ends b rfl)]

theorem scanFraction_digits (ds : List Nat) (rest : List UInt8) (nonempty : ds ≠ [])
    (digits : ∀ d ∈ ds, d < 10) (ends : ∀ b ∈ rest.head?, isDigit b = false) :
    scanFraction (0x2E :: (ds.map digitByte ++ rest)) = some (ds.map digitByte, rest) := by
  rw [scanFraction, span_digits digits ends]
  cases ds with
  | nil => exact absurd rfl nonempty
  | cons => rfl

theorem scanExponent_none {rest : List UInt8} (ends : NumberEnd rest) :
    scanExponent rest = some (0, rest) := by
  cases rest with
  | nil => rfl
  | cons b rest =>
    have := ends b rfl
    simp [scanExponent, this.2.2.1, this.2.2.2]

/-- An exponent below 10000 is read in full: `readFloat` stops adding digits only past that. -/
theorem exponentValue_map_digitByte {ds : List Nat} (digits : ∀ d ∈ ds, d < 10)
    (small : digitValue ds < 10000) : exponentValue (ds.map digitByte) = digitValue ds := by
  induction ds using List.reverseRecOn with
  | nil => rfl
  | append_singleton xs x ih =>
    have last : digitValue (xs ++ [x]) = digitValue xs * 10 + x := by
      simp [digitValue_append, digitValue]
    have prefixSmall : digitValue xs < 10000 := by omega
    rw [exponentValue, List.map_append, List.foldl_append, ← exponentValue,
      ih (fun d member => digits d (List.mem_append_left _ member)) prefixSmall, last]
    simp [prefixSmall, toNat_digitByte (digits x (by simp))]

theorem scanExponent_digits (neg : Bool) {ds : List Nat} (nonempty : ds ≠ [])
    (digits : ∀ d ∈ ds, d < 10) (small : digitValue ds < 10000) {rest : List UInt8}
    (ends : ∀ b ∈ rest.head?, isDigit b = false) :
    scanExponent (0x65 :: (if neg then 0x2D else 0x2B) :: (ds.map digitByte ++ rest)) =
      some (if neg then -(digitValue ds : Int) else digitValue ds, rest) := by
  obtain ⟨d, ds', rfl⟩ := List.exists_cons_of_ne_nil nonempty
  have span := span_digits digits ends
  have value := exponentValue_map_digitByte digits small
  simp only [List.map_cons, List.cons_append, List.span_eq_take_drop, Prod.mk.injEq] at span value
  cases neg <;> simp [scanExponent, span.1, span.2, value]

/-- `scanNumber` on an optional minus sign and an unsigned number, from its three parts. -/
theorem scanNumber_parts (neg : Bool) {body rest₁ rest₂ rest intDigits fracDigits : List UInt8}
    {exp : Int} (unsigned : ∀ b ∈ body.head?, isDigit b = true)
    (int : scanInteger body = some (intDigits, rest₁))
    (frac : scanFraction rest₁ = some (fracDigits, rest₂))
    (expo : scanExponent rest₂ = some (exp, rest)) :
    scanNumber ((if neg then [0x2D] else []) ++ body) =
      some (⟨neg, digitsValue (intDigits ++ fracDigits), exp - fracDigits.length⟩, rest) := by
  cases neg with
  | true => simp [scanNumber, int, frac, expo]
  | false =>
    cases body with
    | nil => simp [scanInteger] at int
    | cons b body =>
      have notMinus : b ≠ 0x2D := fun same => by simp [same, isDigit] at unsigned
      show scanNumber (b :: body) = _
      simp [scanNumber, notMinus, int, frac, expo]

/-! ### Decimals of one value read back alike -/

theorem Decimal.den_pos (d : Decimal) : 0 < d.den := Nat.pos_pow_of_pos _ (by norm_num)

/-- The fraction `num / den` of a decimal is `digits * 10 ^ exponent`. -/
theorem Decimal.num_div_den (d : Decimal) : (d.num : ℚ) / d.den = d.digits * 10 ^ d.exponent := by
  unfold Decimal.num Decimal.den
  push_cast
  rcases Int.eq_nat_or_neg d.exponent with ⟨n, same | same⟩ <;> rw [same] <;>
    simp [zpow_neg, div_eq_mul_inv]

theorem roundRatio_congr (neg : Bool) {num₁ den₁ num₂ den₂ : Nat} (pos₁ : 0 < den₁) (pos₂ : 0 < den₂)
    (cross : num₁ * den₂ = num₂ * den₁) : roundRatio neg num₁ den₁ = roundRatio neg num₂ den₂ :=
  calc roundRatio neg num₁ den₁ = roundRatio neg (den₂ * num₁) (den₂ * den₁) :=
        (roundRatio_scale neg pos₂ pos₁).symm
    _ = roundRatio neg (den₁ * num₂) (den₁ * den₂) := by
        rw [Nat.mul_comm den₂ num₁, cross, Nat.mul_comm num₂, Nat.mul_comm den₂]
    _ = roundRatio neg num₂ den₂ := roundRatio_scale neg pos₁ pos₂

/-- `ParseFloat` reads two decimals of one sign and one value as the same float64. -/
theorem parseFloat_congr {d₁ d₂ : Decimal} (sign : d₁.neg = d₂.neg)
    (value : (d₁.digits : ℚ) * 10 ^ d₁.exponent = d₂.digits * 10 ^ d₂.exponent) :
    parseFloat d₁ = parseFloat d₂ := by
  unfold parseFloat
  rw [sign]
  refine roundRatio_congr _ d₁.den_pos d₂.den_pos ?_
  rw [← Decimal.num_div_den, ← Decimal.num_div_den,
    div_eq_div_iff (by exact_mod_cast d₁.den_pos.ne') (by exact_mod_cast d₂.den_pos.ne')] at value
  exact_mod_cast value

theorem digits_mul_pow_ten (D k : Nat) (e : Int) :
    ((D * 10 ^ k : Nat) : ℚ) * 10 ^ e = D * 10 ^ (e + k) := by
  rw [zpow_add₀ (by norm_num), zpow_natCast]
  push_cast
  ring

@[simp] theorem parseFloat_zero (neg : Bool) (e : Int) : parseFloat ⟨neg, 0, e⟩ = some ⟨neg, 0, 0⟩ := by
  simp [parseFloat, roundRatio, Decimal.num]

/-- A finite float64 of significand zero is a signed zero. -/
theorem eq_zero_of_significand {f : Float64} (finite : f.IsFinite) (zero : f.significand = 0) :
    f = ⟨f.sign, 0, 0⟩ := by
  have self := roundRatio_self finite
  rw [zero, Nat.zero_mul] at self
  simpa [roundRatio] using self.symm

theorem binaryExponent_bounds {f : Float64} (finite : f.IsFinite) :
    -1074 ≤ f.binaryExponent ∧ f.binaryExponent ≤ 971 := by
  unfold Float64.IsFinite at finite
  unfold Float64.binaryExponent
  split <;> omega

/-- A float64's exact value, written as a decimal, reads back as itself. -/
theorem parseFloat_exactDecimal {f : Float64} (finite : f.IsFinite) :
    parseFloat f.exactDecimal = some f := by
  rw [← roundRatio_self finite, Float64.exactDecimal]
  split
  · rename_i nonneg
    have : (-f.binaryExponent).toNat = 0 := by omega
    simp [parseFloat, Decimal.num, Decimal.den, this]
  · rename_i neg
    refine roundRatio_congr _ (Decimal.den_pos _) (Nat.pos_pow_of_pos _ (by norm_num)) ?_
    have : f.binaryExponent.toNat = 0 := by omega
    simp only [Decimal.num, Decimal.den, this, pow_zero, Nat.mul_one]
    rw [show (10 : Nat) = 5 * 2 from rfl, Nat.mul_pow]
    ring

/-! ### The decimal `strconv` picks -/

theorem shortestAt_spec {f : Float64} {d d' : Decimal} {n : Nat} (found : shortestAt f d n = some d') :
    parseFloat d' = some f ∧ (d' = (d.cut n).1 ∨ d' = (d.cut n).2.1) := by
  unfold shortestAt at found
  generalize d.cut n = c at found ⊢
  obtain ⟨lo, hi, rem, unit⟩ := c
  simp only at found ⊢
  split_ifs at found with both _ lo hi <;> cases found
  · exact ⟨both.1, .inl rfl⟩
  · exact ⟨both.2, .inr rfl⟩
  · exact ⟨lo, .inl rfl⟩
  · exact ⟨hi, .inr rfl⟩

theorem exactDecimal_bounds {f : Float64} (finite : f.IsFinite) :
    f.exactDecimal.neg = f.sign ∧ f.exactDecimal.digits < 10 ^ 1000 ∧
      -1074 ≤ f.exactDecimal.exponent ∧ f.exactDecimal.exponent ≤ 0 := by
  have significand := significand_lt f
  have exponent := binaryExponent_bounds finite
  unfold Float64.exactDecimal
  split
  · refine ⟨rfl, ?_, by simp, le_rfl⟩
    calc f.significand * 2 ^ f.binaryExponent.toNat < 2 ^ 53 * 2 ^ 971 :=
          Nat.mul_lt_mul_of_lt_of_le significand
            (Nat.pow_le_pow_right (by norm_num) (by omega)) (by positivity)
      _ ≤ 10 ^ 1000 := by norm_num
  · refine ⟨rfl, ?_, exponent.1, by dsimp only; omega⟩
    calc f.significand * 5 ^ (-f.binaryExponent).toNat < 2 ^ 53 * 5 ^ 1074 :=
          Nat.mul_lt_mul_of_lt_of_le significand
            (Nat.pow_le_pow_right (by norm_num) (by omega)) (by positivity)
      _ ≤ 10 ^ 1000 := by norm_num

theorem exactDecimal_pos {f : Float64} (nonzero : f.significand ≠ 0) : 0 < f.exactDecimal.digits := by
  unfold Float64.exactDecimal
  split <;> exact Nat.mul_pos (Nat.pos_of_ne_zero nonzero) (Nat.pos_pow_of_pos _ (by norm_num))

/-- Both cuts of a decimal of at most 1000 digits keep at most 1001, and move the exponent up by
at most 1000. -/
theorem cut_bounds {d : Decimal} (n : Nat) (pos : 0 < d.digits) (below : d.digits < 10 ^ 1000)
    {d' : Decimal} (cut : d' = (d.cut n).1 ∨ d' = (d.cut n).2.1) :
    d'.neg = d.neg ∧ d'.digits < 10 ^ 1001 ∧ d.exponent ≤ d'.exponent ∧ d'.exponent ≤ d.exponent + 1000 := by
  have length := decimalDigits_length_le pos below
  have quotient : d.digits / 10 ^ ((decimalDigits d.digits).length - n) ≤ d.digits := Nat.div_le_self _ _
  rcases cut with rfl | rfl <;> simp only [Decimal.cut, true_and] <;> omega

/-- The decimal `strconv` picks for a nonzero float64 reads back as it, with its sign, at most
1001 digits and an exponent in [-1074, 1000]. -/
theorem shortestDecimal_spec {f : Float64} (finite : f.IsFinite) (nonzero : f.significand ≠ 0) :
    parseFloat (shortestDecimal f) = some f ∧ (shortestDecimal f).neg = f.sign ∧
      (shortestDecimal f).digits < 10 ^ 1001 ∧ -1074 ≤ (shortestDecimal f).exponent ∧
      (shortestDecimal f).exponent ≤ 1000 := by
  obtain ⟨sign, below, least, most⟩ := exactDecimal_bounds finite
  unfold shortestDecimal
  rw [if_neg nonzero]
  dsimp only
  cases search : (List.range (decimalDigits f.exactDecimal.digits).length).findSome?
      (fun i => shortestAt f f.exactDecimal (i + 1)) with
  | none =>
    rw [Option.getD_none]
    exact ⟨parseFloat_exactDecimal finite, sign, by omega, least, by omega⟩
  | some d' =>
    obtain ⟨i, -, found⟩ := List.exists_of_findSome?_eq_some search
    obtain ⟨reads, cut⟩ := shortestAt_spec found
    obtain ⟨sign', digits, lower, upper⟩ := cut_bounds (i + 1) (exactDecimal_pos nonzero) below cut
    rw [Option.getD_some]
    exact ⟨reads, sign'.trans sign, digits, by omega, by omega⟩

/-! ### Trailing zeros -/

private theorem trim_go (fuel : Nat) (d : Decimal) :
    ∃ k : Nat, d.digits = (Decimal.trim.go fuel d).digits * 10 ^ k ∧
      (Decimal.trim.go fuel d).exponent = d.exponent + k ∧ (Decimal.trim.go fuel d).neg = d.neg := by
  induction fuel generalizing d with
  | zero => exact ⟨0, by simp [Decimal.trim.go], by simp [Decimal.trim.go], rfl⟩
  | succ fuel ih =>
    unfold Decimal.trim.go
    split
    · rename_i zeros
      obtain ⟨k, digits, exponent, sign⟩ := ih ⟨d.neg, d.digits / 10, d.exponent + 1⟩
      dsimp only at digits exponent
      refine ⟨k + 1, ?_, by rw [exponent]; push_cast; ring, sign⟩
      rw [pow_succ, ← Nat.mul_assoc, ← digits]
      omega
    · exact ⟨0, by simp, by simp, rfl⟩

/-- Trimming takes `k` zeros off the digits and adds `k` to the exponent. -/
theorem trim_spec (d : Decimal) :
    ∃ k : Nat, d.digits = d.trim.digits * 10 ^ k ∧ d.trim.exponent = d.exponent + k ∧ d.trim.neg = d.neg :=
  trim_go d.digits d

/-! ### The `%f` and `%e` texts read back -/

theorem digitValue_replicate_zero_append (k : Nat) (ds : List Nat) :
    digitValue (List.replicate k 0 ++ ds) = digitValue ds := by
  simp [digitValue_append]

theorem digitValue_append_replicate_zero (ds : List Nat) (k : Nat) :
    digitValue (ds ++ List.replicate k 0) = digitValue ds * 10 ^ k := by
  simp [digitValue_append]

/-- The `%f` text of the digits of `D > 0`, the point `e` places from their end, reads back as a
decimal of value `D * 10 ^ e`. -/
theorem scanNumber_fmtF (neg : Bool) {D : Nat} (pos : 0 < D) (e : Int) {rest : List UInt8}
    (ends : NumberEnd rest) :
    ∃ d : Decimal, scanNumber (fmtF neg (decimalDigits D) ((decimalDigits D).length + e) ++ rest) =
        some (d, rest) ∧ d.neg = neg ∧ (d.digits : ℚ) * 10 ^ d.exponent = D * 10 ^ e := by
  have small : ∀ x ∈ decimalDigits D, x < 10 := fun _ => decimalDigits_lt
  have value := digitValue_decimalDigits D
  have notDigit : ∀ b ∈ rest.head?, isDigit b = false := fun b member => (ends b member).1
  obtain ⟨h, tl, digits, lead⟩ := decimalDigits_head pos
  rw [digits] at small value ⊢
  have hSmall : h < 10 := small h (List.mem_cons_self _ _)
  simp only [fmtF, List.append_assoc, List.length_cons]
  by_cases positive : 0 < (tl.length + 1 : Nat) + e
  · rw [if_pos positive]
    by_cases inside : (tl.length + 1 : Nat) + e < (tl.length + 1 : Nat)
    · -- the point falls inside the digits
      obtain ⟨k, hk⟩ : ∃ k : Nat, ((tl.length + 1 : Nat) + e).toNat = k + 1 :=
        ⟨((tl.length + 1 : Nat) + e).toNat - 1, by omega⟩
      have fill : k + 1 - (tl.length + 1) = 0 := by omega
      have zeros : (-((tl.length + 1 : Nat) + e)).toNat = 0 := by omega
      rw [if_pos inside, hk, fill, zeros]
      simp only [List.replicate_zero, List.append_nil, List.nil_append, List.take_succ_cons,
        List.drop_succ_cons, List.cons_append]
      have nonempty : tl.drop k ≠ [] := by simp; omega
      have whole : h :: tl.take k ++ tl.drop k = h :: tl := by rw [List.cons_append, List.take_append_drop]
      have frac := scanFraction_digits _ _ nonempty
        (fun x m => small x (List.mem_cons_of_mem _ (List.mem_of_mem_drop m))) notDigit
      have int := scanInteger_digits (tl.take k) (0x2E :: ((tl.drop k).map digitByte ++ rest)) lead
        (fun x m => small x (((List.take_sublist k tl).cons₂ h).subset m)) (by simp [isDigit])
      refine ⟨_, scanNumber_parts neg (by simp [isDigit_digitByte hSmall]) int frac (scanExponent_none ends),
        rfl, ?_⟩
      rw [← List.map_append, whole, digitsValue_map_digitByte small, value, List.length_map,
        List.length_drop]
      congr 2
      dsimp only
      omega
    · -- the point falls after the digits: zeros fill up to it
      obtain ⟨m, rfl⟩ : ∃ m : Nat, e = m := ⟨e.toNat, by omega⟩
      have point : ((tl.length + 1 : Nat) + (m : Int)).toNat = tl.length + 1 + m := by omega
      rw [if_neg inside, point, List.take_of_length_le (by simp),
        show tl.length + 1 + m - (tl.length + 1) = m by omega]
      simp only [List.nil_append, List.cons_append]
      have int := scanInteger_digits (tl ++ List.replicate m 0) rest lead (fun x m => by
        rcases List.mem_cons.mp m with rfl | m
        · exact hSmall
        · rcases List.mem_append.mp m with m | m
          · exact small x (List.mem_cons_of_mem _ m)
          · rw [List.eq_of_mem_replicate m]; norm_num) notDigit
      refine ⟨_, scanNumber_parts neg (by simp [isDigit_digitByte hSmall]) int
        (scanFraction_none fun b member => (ends b member).2.1) (scanExponent_none ends), rfl, ?_⟩
      rw [List.append_nil, digitsValue_map_digitByte (fun x m => by
          rcases List.mem_cons.mp m with rfl | m
          · exact hSmall
          · rcases List.mem_append.mp m with m | m
            · exact small x (List.mem_cons_of_mem _ m)
            · rw [List.eq_of_mem_replicate m]; norm_num),
        ← List.cons_append, digitValue_append_replicate_zero, value, digits_mul_pow_ten]
      simp
  · -- the point falls before the digits: `0.` and zeros up to them
    have inside : (tl.length + 1 : Nat) + e < (tl.length + 1 : Nat) := by omega
    have point : ((tl.length + 1 : Nat) + e).toNat = 0 := by omega
    rw [if_neg positive, if_pos inside, point, List.drop_zero]
    simp only [List.cons_append, List.nil_append]
    have all : ∀ x ∈ List.replicate (-((tl.length + 1 : Nat) + e)).toNat 0 ++ h :: tl, x < 10 :=
      fun x m => by
        rcases List.mem_append.mp m with m | m
        · rw [List.eq_of_mem_replicate m]; norm_num
        · exact small x m
    have frac := scanFraction_digits _ _ (by simp) all notDigit
    refine ⟨_, scanNumber_parts neg (by simp [isDigit]) rfl frac (scanExponent_none ends), rfl, ?_⟩
    rw [show ([0x30] : List UInt8) = [0].map digitByte from rfl, ← List.map_append,
      digitsValue_map_digitByte (by simpa using all), List.singleton_append, ← List.cons_append,
      ← List.replicate_succ, digitValue_replicate_zero_append, value]
    dsimp only
    congr 2
    simp only [List.length_map, List.length_append, List.length_replicate, List.length_cons]
    omega

theorem decimalDigits_of_lt {n : Nat} (small : n < 10) : decimalDigits n = [n] := by
  simp [decimalDigits, decimalDigits.go, small]

/-- The exponent digits of `%e` after the clean-up of `floatEncoder`: two at least for an
exponent from 0 to 9, and no leading zero otherwise. -/
def exponentDigits (x : Int) : List Nat :=
  if 0 ≤ x ∧ x < 10 then [0, x.natAbs] else decimalDigits x.natAbs

theorem exponentDigits_spec (x : Int) :
    exponentDigits x ≠ [] ∧ (∀ d ∈ exponentDigits x, d < 10) ∧ digitValue (exponentDigits x) = x.natAbs := by
  unfold exponentDigits
  split
  · rename_i small
    refine ⟨by simp, ?_, by simp [digitValue]⟩
    simp only [List.mem_cons, List.mem_singleton, List.not_mem_nil, or_false]
    omega
  · exact ⟨decimalDigits_ne_nil _, fun _ => decimalDigits_lt, digitValue_decimalDigits _⟩

theorem cleanExponent_keep {b : List UInt8}
    (keep : ∀ d rest, b.reverse ≠ d :: 0x30 :: 0x2D :: 0x65 :: rest) : cleanExponent b = b := by
  unfold cleanExponent
  split
  · rename_i d rest same
    exact absurd same (keep d rest)
  · rfl

private theorem toNat_digitByte_ge {d : Nat} (digit : d < 10) : 0x30 ≤ (digitByte d).toNat := by
  rw [toNat_digitByte digit]; omega

/-- Two or more exponent digits without a leading zero are left as they are. -/
private theorem cleanExponent_long {mant : List UInt8} {sign : UInt8} {ds : List Nat}
    (digits : ∀ d ∈ ds, d < 10) (lead : ∃ d rest, ds = d :: rest ∧ 0 < d) (long : 2 ≤ ds.length) :
    cleanExponent (mant ++ 0x65 :: sign :: ds.map digitByte) =
      mant ++ 0x65 :: sign :: ds.map digitByte := by
  refine cleanExponent_keep fun d rest same => ?_
  obtain ⟨y₁, y₂, ys, reversed⟩ : ∃ y₁ y₂ ys, ds.reverse = y₁ :: y₂ :: ys := by
    match ds.reverse, (List.length_reverse ds).symm ▸ long with
    | y₁ :: y₂ :: ys, _ => exact ⟨y₁, y₂, ys, rfl⟩
  have mem : ∀ y ∈ ds.reverse, y < 10 := fun y m => digits y (List.mem_reverse.mp m)
  rw [reversed] at mem
  have back : ds = (y₁ :: y₂ :: ys).reverse := by rw [← reversed, List.reverse_reverse]
  have second : digitByte y₂ = 0x30 := by
    simp only [List.reverse_append, List.reverse_cons, ← List.map_reverse, reversed, List.map_cons,
      List.append_assoc, List.singleton_append, List.cons_append, List.cons.injEq] at same
    exact same.2.1
  have zero : y₂ = 0 := by
    have := congrArg UInt8.toNat second
    rw [toNat_digitByte (mem y₂ (by simp))] at this
    simpa using this
  cases ys with
  | nil =>
    obtain ⟨d, rest, heads, pos⟩ := lead
    simp [back, zero] at heads
    omega
  | cons y₃ ys =>
    have third : digitByte y₃ = 0x2D := by
      simp only [List.reverse_append, List.reverse_cons, ← List.map_reverse, reversed, List.map_cons,
        List.append_assoc, List.singleton_append, List.cons_append, List.cons.injEq] at same
      exact same.2.2.1
    have := toNat_digitByte_ge (mem y₃ (by simp))
    rw [third] at this
    simp at this

/-- What `floatEncoder` makes of the `%e` text: the exponent digits are those of
`exponentDigits`. -/
theorem cleanExponent_fmtE (neg : Bool) (ds : List Nat) (dp : Int) :
    cleanExponent (fmtE neg ds dp) =
      ((if neg then [0x2D] else []) ++ (ds.take 1).map digitByte ++
        (if 1 < ds.length then 0x2E :: (ds.drop 1).map digitByte else [])) ++
      0x65 :: (if dp - 1 < 0 then 0x2D else 0x2B) :: (exponentDigits (dp - 1)).map digitByte := by
  have shape : fmtE neg ds dp = ((if neg then [0x2D] else []) ++ (ds.take 1).map digitByte ++
        (if 1 < ds.length then 0x2E :: (ds.drop 1).map digitByte else [])) ++
      0x65 :: (if dp - 1 < 0 then 0x2D else 0x2B) ::
        (if (dp - 1).natAbs < 10 then [0x30, digitByte (dp - 1).natAbs]
          else (decimalDigits (dp - 1).natAbs).map digitByte) := by
    simp [fmtE]
  rw [shape]
  generalize (if neg then [0x2D] else []) ++ (ds.take 1).map digitByte ++
    (if 1 < ds.length then 0x2E :: (ds.drop 1).map digitByte else []) = mant
  by_cases short : (dp - 1).natAbs < 10
  · by_cases negative : dp - 1 < 0
    · -- `e-0d` loses its zero
      have digits : exponentDigits (dp - 1) = [(dp - 1).natAbs] := by
        rw [exponentDigits, if_neg (by omega), decimalDigits_of_lt short]
      rw [if_pos short, if_pos negative, digits]
      simp [cleanExponent]
    · have digits : exponentDigits (dp - 1) = [0, (dp - 1).natAbs] := by
        rw [exponentDigits, if_pos (by omega)]
      rw [if_pos short, if_neg negative, digits]
      exact cleanExponent_keep fun d rest same => by simp at same
  · have digits : exponentDigits (dp - 1) = decimalDigits (dp - 1).natAbs := by
      rw [exponentDigits, if_neg (by omega)]
    rw [if_neg short, digits]
    obtain ⟨d, more, split, lead⟩ := decimalDigits_head (show 0 < (dp - 1).natAbs by omega)
    have long : 2 ≤ (decimalDigits (dp - 1).natAbs).length := by
      cases more with
      | nil =>
        have value := digitValue_decimalDigits (dp - 1).natAbs
        have digit : d < 10 := decimalDigits_lt (by rw [split]; exact List.mem_singleton_self d)
        rw [split] at value
        simp [digitValue] at value
        omega
      | cons => rw [split]; simp
    exact cleanExponent_long (fun _ => decimalDigits_lt) ⟨d, more, split, lead⟩ long

/-- The cleaned `%e` text of the digits of `D > 0`, the point `e` places from their end, reads
back as exactly the decimal `D * 10 ^ e` while its exponent stays below 10000. -/
theorem scanNumber_fmtE (neg : Bool) {D : Nat} (pos : 0 < D) (e : Int)
    (small : ((decimalDigits D).length + e - 1).natAbs < 10000) {rest : List UInt8}
    (ends : NumberEnd rest) :
    scanNumber (cleanExponent (fmtE neg (decimalDigits D) ((decimalDigits D).length + e)) ++ rest) =
      some (⟨neg, D, e⟩, rest) := by
  have value := digitValue_decimalDigits D
  have digitsSmall : ∀ x ∈ decimalDigits D, x < 10 := fun _ => decimalDigits_lt
  obtain ⟨h, tl, digits, lead⟩ := decimalDigits_head pos
  rw [cleanExponent_fmtE]
  rw [digits] at value digitsSmall small ⊢
  have hSmall : h < 10 := digitsSmall h (List.mem_cons_self _ _)
  generalize exponent : ((h :: tl).length : Int) + e - 1 = x at small ⊢
  obtain ⟨nonempty, expSmall, expValue⟩ := exponentDigits_spec x
  have notDigit : ∀ b ∈ rest.head?, isDigit b = false := fun b member => (ends b member).1
  have expo := scanExponent_digits (decide (x < 0)) nonempty expSmall (by omega) notDigit
  simp only [decide_eq_true_eq] at expo
  have signed : (if x < 0 then -(digitValue (exponentDigits x) : Int) else digitValue (exponentDigits x)) = x := by
    rw [expValue]; split <;> omega
  simp only [List.take_succ_cons, List.take_zero, List.drop_succ_cons, List.drop_zero, List.map_cons,
    List.map_nil, List.append_assoc, List.cons_append, List.nil_append, List.length_cons] at exponent ⊢
  cases tl with
  | nil =>
    have int := scanInteger_digits []
      (0x65 :: (if x < 0 then 0x2D else 0x2B) :: ((exponentDigits x).map digitByte ++ rest)) lead
      (by simpa using hSmall) (by simp [isDigit])
    simp only [List.map_cons, List.map_nil, List.cons_append, List.nil_append] at int
    rw [if_neg (show ¬1 < ([] : List Nat).length + 1 by simp), List.nil_append,
      scanNumber_parts neg (by simp [isDigit_digitByte hSmall]) int (scanFraction_none (by simp)) expo]
    simp only [signed, ← value, Option.some.injEq, Prod.mk.injEq, Decimal.mk.injEq, true_and, and_true]
    refine ⟨?_, by simp at exponent ⊢; omega⟩
    simp [digitsValue, digitValue, toNat_digitByte hSmall]
  | cons t ts =>
    have frac := scanFraction_digits (t :: ts)
      (0x65 :: (if x < 0 then 0x2D else 0x2B) :: ((exponentDigits x).map digitByte ++ rest))
      (List.cons_ne_nil _ _) (fun y m => digitsSmall y (List.mem_cons_of_mem _ m)) (by simp [isDigit])
    have int := scanInteger_digits [] (0x2E :: ((t :: ts).map digitByte ++
        0x65 :: (if x < 0 then 0x2D else 0x2B) :: ((exponentDigits x).map digitByte ++ rest))) lead
      (by simpa using hSmall) (by simp [isDigit])
    simp only [List.map_cons, List.map_nil, List.cons_append, List.nil_append] at int frac
    rw [if_pos (show 1 < (t :: ts).length + 1 by simp)]
    simp only [List.map_cons, List.cons_append]
    rw [scanNumber_parts neg (by simp [isDigit_digitByte hSmall]) int frac expo]
    simp only [signed, ← value, Option.some.injEq, Prod.mk.injEq, Decimal.mk.injEq, true_and, and_true]
    refine ⟨?_, by simp at exponent ⊢; omega⟩
    exact digitsValue_map_digitByte digitsSmall

/-! ### A float64's text reads back as itself -/

/-- The zero float64s, written `0` and `-0`, read back as themselves. -/
private theorem floatBytes_zero {f : Float64} (finite : f.IsFinite) (zero : f.significand = 0)
    {rest : List UInt8} (ends : NumberEnd rest) :
    scanNumber (fmtF f.sign [] 0 ++ rest) = some (⟨f.sign, 0, 0⟩, rest) ∧
      parseFloat ⟨f.sign, 0, 0⟩ = some f := by
  refine ⟨?_, by rw [parseFloat_zero, ← eq_zero_of_significand finite zero]⟩
  have parts := scanNumber_parts f.sign (by simp [isDigit])
    (show scanInteger (0x30 :: rest) = some ([0x30], rest) from rfl)
    (scanFraction_none fun b member => (ends b member).2.1) (scanExponent_none ends)
  simpa [fmtF] using parts

/-- The decimal `floatEncoder` prints for a nonzero float64, its trailing zeros trimmed: it reads
back as the float64, has digits, and its point sits less than 10000 places from its first
digit. -/
private theorem trimmed_spec {f : Float64} (finite : f.IsFinite) (nonzero : f.significand ≠ 0) :
    parseFloat ⟨f.sign, (shortestDecimal f).trim.digits, (shortestDecimal f).trim.exponent⟩ = some f ∧
      0 < (shortestDecimal f).trim.digits ∧
      (((decimalDigits (shortestDecimal f).trim.digits).length : Int) +
        (shortestDecimal f).trim.exponent - 1).natAbs < 10000 := by
  obtain ⟨reads, sign, below, least, most⟩ := shortestDecimal_spec finite nonzero
  obtain ⟨k, digits, exponent, -⟩ := trim_spec (shortestDecimal f)
  have pos : 0 < (shortestDecimal f).trim.digits := by
    refine Nat.pos_of_ne_zero fun zero => nonzero ?_
    rw [zero, Nat.zero_mul] at digits
    have : parseFloat (shortestDecimal f) = some ⟨(shortestDecimal f).neg, 0, 0⟩ := by
      simp [parseFloat, roundRatio, Decimal.num, digits]
    rw [this, Option.some.injEq] at reads
    rw [← reads]
    rfl
  have power : 10 ^ k < 10 ^ 1001 :=
    calc 10 ^ k ≤ (shortestDecimal f).trim.digits * 10 ^ k := Nat.le_mul_of_pos_left _ pos
      _ < 10 ^ 1001 := digits ▸ below
  have kSmall := (Nat.pow_lt_pow_iff_right (by norm_num)).mp power
  have length := decimalDigits_length_le pos (lt_of_le_of_lt (Nat.le_mul_of_pos_right _
    (Nat.pos_pow_of_pos k (by norm_num))) (digits ▸ below))
  refine ⟨?_, pos, by omega⟩
  rw [← reads]
  refine parseFloat_congr sign.symm ?_
  rw [exponent, digits, digits_mul_pow_ten]

/-- The text `floatEncoder` writes for a float64 reads back, through `scanNumber` and
`ParseFloat`, as that float64. -/
theorem floatBytes_scan {f : Float64} {bytes : List UInt8} (encoded : floatBytes f = .ok bytes)
    {rest : List UInt8} (ends : NumberEnd rest) :
    ∃ d, scanNumber (bytes ++ rest) = some (d, rest) ∧ parseFloat d = some f := by
  unfold floatBytes at encoded
  split at encoded
  · cases encoded
  rename_i finite
  rw [not_not] at finite
  by_cases zero : f.significand = 0
  · have shortest : shortestDecimal f = ⟨f.sign, 0, 0⟩ := by simp [shortestDecimal, zero]
    have trimmed : (shortestDecimal f).trim = ⟨f.sign, 0, 0⟩ := by
      rw [shortest]; rfl
    simp only [trimmed, zero, ne_eq, not_true_eq_false, false_and, if_false, if_true,
      List.length_nil, Nat.cast_zero, zero_add, Except.ok.injEq] at encoded
    subst encoded
    exact ⟨_, floatBytes_zero finite zero ends⟩
  · obtain ⟨reads, pos, small⟩ := trimmed_spec finite zero
    simp only [pos.ne', if_false] at encoded
    split at encoded <;> cases encoded
    · exact ⟨_, scanNumber_fmtE f.sign pos _ small ends, reads⟩
    · obtain ⟨d, scanned, sign, value⟩ := scanNumber_fmtF f.sign pos (shortestDecimal f).trim.exponent ends
      have same : parseFloat d = parseFloat ⟨f.sign, (shortestDecimal f).trim.digits,
          (shortestDecimal f).trim.exponent⟩ := parseFloat_congr sign value
      exact ⟨d, scanned, same.trans reads⟩

end Sub2api.Json
