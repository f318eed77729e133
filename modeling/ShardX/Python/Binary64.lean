import Mathlib.Algebra.Order.Field.Power
import Mathlib.Data.Rat.Floor

/-!
# Binary64 Rounding

A CPython `float` is an IEEE 754 binary64 number, and every operation that makes one, its
arithmetic, `int / int`, `float(n)` of an `int` and `float(s)` of a `str`, returns the
binary64 number nearest to the exact result, ties going to the one whose last binary digit
is even. This module defines that rounding on rationals.

A positive binary64 number is `m * 2 ^ k` with an integer `m < 2 ^ 53` and `k ≥ -1074`. Near
a positive `q` their spacing is `2 ^ ulpExp q`, where `ulpExp q = max (⌊log₂ q⌋ - 52) (-1074)`:
53 significant bits, and never finer than the subnormal unit `2 ^ -1074`. `roundMag q` rounds
`q ≥ 0` to the nearest multiple of that spacing. The binary exponent is computed from the
binary digit counts of numerator and denominator (`bitLength`, by halving), so that the
rounding of a concrete rational can be evaluated.

Main results:
- `roundMag_eq_zero_iff`: a magnitude rounds to zero (underflows) exactly up to `2 ^ -1075`;
- `two_pow_le_roundMag_iff`: it rounds to `2 ^ 1024` or beyond, where a float overflows,
  exactly from `overflowThreshold = 2 ^ 1024 - 2 ^ 970`;
- `roundMag_mono`: rounding is monotone;
- `roundMag_natCast_mul`: a number with at most 53 significant bits above `2 ^ -1074` is its
  own rounding, and so is every rounded number (`roundMag_roundMag`).
-/

namespace ShardX.Python

/-! ## §1 Binary exponents -/

/-- Count the binary digits of `n`, sixteen at a time while there are more than sixteen,
then one at a time; at most `fuel` steps. -/
def bitLengthAux : ℕ → ℕ → ℕ
  | 0, _ => 0
  | fuel + 1, n =>
    if n < 2 ^ 16 then (if n = 0 then 0 else bitLengthAux fuel (n / 2) + 1)
    else bitLengthAux fuel (n / 2 ^ 16) + 16

/-- The number of binary digits of `n`, `0` for `0`; `n` steps are enough. -/
def bitLength (n : ℕ) : ℕ := bitLengthAux n n

theorem log2_eq_of_bounds {n k : ℕ} (h₁ : 2 ^ k ≤ n) (h₂ : n < 2 ^ (k + 1)) : n.log2 = k := by
  have hn : n ≠ 0 := (Nat.pos_of_ne_zero (pow_ne_zero k two_ne_zero)).trans_le h₁ |>.ne'
  have := (Nat.le_log2 hn).2 h₁
  have := (Nat.log2_lt hn).2 h₂
  omega

/-- Sixteen binary digits come off with a division by `2 ^ 16`. -/
theorem log2_eq_log2_div_add {n : ℕ} (h : 2 ^ 16 ≤ n) : n.log2 = (n / 2 ^ 16).log2 + 16 := by
  have hq : n / 2 ^ 16 ≠ 0 := (Nat.div_pos h (by positivity)).ne'
  apply log2_eq_of_bounds
  · rw [pow_add]
    exact (Nat.mul_le_mul_right _ (Nat.log2_self_le hq)).trans (Nat.div_mul_le_self n _)
  · rw [Nat.add_right_comm, pow_add]
    exact (Nat.div_lt_iff_lt_mul (by positivity)).1 Nat.lt_log2_self

theorem bitLengthAux_eq : ∀ fuel n, n ≤ fuel →
    bitLengthAux fuel n = if n = 0 then 0 else n.log2 + 1
  | 0, n, h => by simp [bitLengthAux, Nat.le_zero.1 h]
  | fuel + 1, n, h => by
    rw [bitLengthAux]
    split_ifs with h16 hn hn
    · rfl
    · rw [bitLengthAux_eq fuel (n / 2) (by omega), Nat.log2.eq_1 n]
      split_ifs <;> omega
    · omega
    · have hq : n / 2 ^ 16 ≠ 0 := (Nat.div_pos (not_lt.1 h16) (by positivity)).ne'
      rw [bitLengthAux_eq fuel (n / 2 ^ 16) (by omega), if_neg hq,
        log2_eq_log2_div_add (not_lt.1 h16)]

theorem bitLength_eq (n : ℕ) : bitLength n = if n = 0 then 0 else n.log2 + 1 :=
  bitLengthAux_eq n n le_rfl

/-- `n / d * 2 ^ j` as a numerator and a denominator. -/
def scaleFrac (n d : ℕ) (j : ℤ) : ℕ × ℕ :=
  if 0 ≤ j then (n * 2 ^ j.toNat, d) else (n, d * 2 ^ (-j).toNat)

@[simp] theorem scaleFrac_zero_fst (d : ℕ) (j : ℤ) : (scaleFrac 0 d j).1 = 0 := by
  unfold scaleFrac; split_ifs <;> simp

theorem scaleFrac_pos {n d : ℕ} (hd : 0 < d) (j : ℤ) : 0 < (scaleFrac n d j).2 := by
  unfold scaleFrac; split_ifs <;> positivity

theorem scaleFrac_div (n d : ℕ) (j : ℤ) :
    ((scaleFrac n d j).1 : ℚ) / (scaleFrac n d j).2 = n / d * 2 ^ j := by
  unfold scaleFrac
  split_ifs with hj
  · rw [Nat.cast_mul, Nat.cast_pow, Nat.cast_ofNat, ← zpow_natCast, Int.toNat_of_nonneg hj]
    ring
  · rw [Nat.cast_mul, Nat.cast_pow, Nat.cast_ofNat, ← zpow_natCast, Int.toNat_of_nonneg (by omega),
      zpow_neg, div_mul_eq_div_div, div_inv_eq_mul]

/-- `2 ^ e ≤ n / d` compared on naturals. -/
theorem two_zpow_le_div_iff {n d : ℕ} (hd : 0 < d) (e : ℤ) :
    (2 : ℚ) ^ e ≤ n / d ↔ (scaleFrac n d (-e)).2 ≤ (scaleFrac n d (-e)).1 := by
  have h2 : (0 : ℚ) < 2 ^ e := zpow_pos two_pos e
  have hD : (0 : ℚ) < (scaleFrac n d (-e)).2 := by exact_mod_cast scaleFrac_pos hd (-e)
  rw [← Nat.cast_le (α := ℚ), ← one_le_div hD, scaleFrac_div, zpow_neg, ← div_eq_mul_inv,
    one_le_div h2]

/-- `⌊log₂ (n / d)⌋` for positive `n` and `d`: the difference of their binary digit counts,
or one less. -/
def log2Div (n d : ℕ) : ℤ :=
  let e : ℤ := (bitLength n : ℤ) - bitLength d
  if (scaleFrac n d (-e)).2 ≤ (scaleFrac n d (-e)).1 then e else e - 1

theorem two_zpow_sub_natCast (a b : ℕ) : (2 : ℚ) ^ ((a : ℤ) - b) = 2 ^ a / 2 ^ b := by
  rw [zpow_sub₀ two_ne_zero, zpow_natCast, zpow_natCast]

/-- `log2Div n d` is the exponent of the power of two at or below `n / d`. -/
theorem log2Div_spec {n d : ℕ} (hn : 0 < n) (hd : 0 < d) :
    (2 : ℚ) ^ log2Div n d ≤ n / d ∧ (n : ℚ) / d < 2 ^ (log2Div n d + 1) := by
  have hdpos : (0 : ℚ) < d := by exact_mod_cast hd
  have hn₁ : (2 : ℚ) ^ n.log2 ≤ n := by exact_mod_cast Nat.log2_self_le hn.ne'
  have hn₂ : (n : ℚ) < 2 ^ (n.log2 + 1) := by exact_mod_cast Nat.lt_log2_self
  have hd₁ : (2 : ℚ) ^ d.log2 ≤ d := by exact_mod_cast Nat.log2_self_le hd.ne'
  have hd₂ : (d : ℚ) < 2 ^ (d.log2 + 1) := by exact_mod_cast Nat.lt_log2_self
  have he : (bitLength n : ℤ) - bitLength d = (n.log2 : ℤ) - d.log2 := by
    rw [bitLength_eq, bitLength_eq, if_neg hn.ne', if_neg hd.ne']; push_cast; ring
  -- `n / d` lies strictly between the powers two apart around the digit-count difference
  have hhi : (n : ℚ) / d < 2 ^ ((n.log2 : ℤ) - d.log2 + 1) := by
    rw [show (n.log2 : ℤ) - d.log2 + 1 = ((n.log2 + 1 : ℕ) : ℤ) - d.log2 by push_cast; ring,
      two_zpow_sub_natCast, div_lt_div_iff₀ hdpos (by positivity)]
    calc (n : ℚ) * 2 ^ d.log2 ≤ n * d := mul_le_mul_of_nonneg_left hd₁ (Nat.cast_nonneg n)
      _ < 2 ^ (n.log2 + 1) * d := mul_lt_mul_of_pos_right hn₂ hdpos
  have hlo : (2 : ℚ) ^ ((n.log2 : ℤ) - d.log2 - 1) < n / d := by
    rw [show (n.log2 : ℤ) - d.log2 - 1 = (n.log2 : ℤ) - ((d.log2 + 1 : ℕ) : ℤ) by
      push_cast; ring, two_zpow_sub_natCast, div_lt_div_iff₀ (by positivity) hdpos]
    calc (2 : ℚ) ^ n.log2 * d < 2 ^ n.log2 * 2 ^ (d.log2 + 1) :=
          mul_lt_mul_of_pos_left hd₂ (by positivity)
      _ ≤ n * 2 ^ (d.log2 + 1) := mul_le_mul_of_nonneg_right hn₁ (by positivity)
  simp only [log2Div, he, ← two_zpow_le_div_iff hd]
  split_ifs with h
  · exact ⟨h, hhi⟩
  · exact ⟨hlo.le, by rw [sub_add_cancel]; exact lt_of_not_le h⟩

/-- `⌊log₂ q⌋` for `q > 0`. -/
def log2Floor (q : ℚ) : ℤ := log2Div q.num.natAbs q.den

theorem natAbs_num_div_den {q : ℚ} (hq : 0 < q) : (q.num.natAbs : ℚ) / q.den = q := by
  rw [Nat.cast_natAbs, Int.cast_abs, abs_of_pos (Int.cast_pos.2 (Rat.num_pos.2 hq)),
    Rat.num_div_den]

/-- `⌊log₂ q⌋` is the exponent of the power of two at or below `q`. -/
theorem log2Floor_spec {q : ℚ} (hq : 0 < q) :
    (2 : ℚ) ^ log2Floor q ≤ q ∧ q < 2 ^ (log2Floor q + 1) := by
  simpa only [natAbs_num_div_den hq] using
    log2Div_spec (Int.natAbs_pos.2 (Rat.num_pos.2 hq).ne') q.den_pos

/-- The exponent of a power of two below `q` whose double is above it is `⌊log₂ q⌋`. -/
theorem log2Floor_eq {q : ℚ} {k : ℤ} (h₁ : (2 : ℚ) ^ k ≤ q) (h₂ : q < 2 ^ (k + 1)) :
    log2Floor q = k := by
  obtain ⟨hl₁, hl₂⟩ := log2Floor_spec (lt_of_lt_of_le (zpow_pos two_pos k) h₁)
  have := (zpow_lt_zpow_iff_right₀ one_lt_two).1 (lt_of_le_of_lt h₁ hl₂)
  have := (zpow_lt_zpow_iff_right₀ one_lt_two).1 (lt_of_le_of_lt hl₁ h₂)
  omega

theorem log2Floor_mono {q r : ℚ} (hq : 0 < q) (h : q ≤ r) : log2Floor q ≤ log2Floor r := by
  have := (zpow_lt_zpow_iff_right₀ one_lt_two).1
    (((log2Floor_spec hq).1.trans h).trans_lt (log2Floor_spec (hq.trans_le h)).2)
  omega

/-! ## §2 Rounding to a multiple of a power of two -/

/-- Round a rational to the nearest integer, ties to the even one. -/
def roundHalfEven (q : ℚ) : ℤ :=
  if 2 * (q - ⌊q⌋) < 1 then ⌊q⌋
  else if 1 < 2 * (q - ⌊q⌋) then ⌊q⌋ + 1
  else if ⌊q⌋ % 2 = 0 then ⌊q⌋ else ⌊q⌋ + 1

theorem roundHalfEven_eq (q : ℚ) :
    roundHalfEven q =
      if 2 * (q - ⌊q⌋) < 1 then ⌊q⌋
      else if 1 < 2 * (q - ⌊q⌋) then ⌊q⌋ + 1
      else if ⌊q⌋ % 2 = 0 then ⌊q⌋ else ⌊q⌋ + 1 := rfl

/-- The rounded integer is the integer part or the next integer, whichever is nearer. -/
theorem roundHalfEven_cases (q : ℚ) :
    (roundHalfEven q = ⌊q⌋ ∧ 2 * (q - ⌊q⌋) ≤ 1) ∨
      (roundHalfEven q = ⌊q⌋ + 1 ∧ 1 ≤ 2 * (q - ⌊q⌋)) := by
  rw [roundHalfEven_eq]
  split_ifs with h₁ h₂ h₃
  · exact .inl ⟨rfl, h₁.le⟩
  · exact .inr ⟨rfl, h₂.le⟩
  · exact .inl ⟨rfl, not_lt.1 h₂⟩
  · exact .inr ⟨rfl, not_lt.1 h₁⟩

theorem roundHalfEven_sub_le (q : ℚ) : (roundHalfEven q : ℚ) - q ≤ 1 / 2 := by
  have := Int.floor_le q
  rcases roundHalfEven_cases q with ⟨h, h'⟩ | ⟨h, h'⟩ <;> rw [h] <;> push_cast <;> linarith

theorem sub_roundHalfEven_le (q : ℚ) : q - roundHalfEven q ≤ 1 / 2 := by
  have := Int.lt_floor_add_one q
  rcases roundHalfEven_cases q with ⟨h, h'⟩ | ⟨h, h'⟩ <;> rw [h] <;> push_cast <;> linarith

@[simp] theorem roundHalfEven_intCast (n : ℤ) : roundHalfEven n = n := by
  simp [roundHalfEven_eq]

@[simp] theorem roundHalfEven_zero : roundHalfEven 0 = 0 := by
  simpa using roundHalfEven_intCast 0

theorem roundHalfEven_mono {q r : ℚ} (h : q ≤ r) : roundHalfEven q ≤ roundHalfEven r := by
  have hf : ⌊q⌋ ≤ ⌊r⌋ := Int.floor_mono h
  rcases hf.lt_or_eq with hlt | heq
  · rcases roundHalfEven_cases q with ⟨hq, -⟩ | ⟨hq, -⟩ <;>
      rcases roundHalfEven_cases r with ⟨hr, -⟩ | ⟨hr, -⟩ <;> omega
  · rw [roundHalfEven_eq, roundHalfEven_eq, heq]
    have : q - ⌊r⌋ ≤ r - ⌊r⌋ := by linarith
    split_ifs <;> first | omega | linarith

/-- A number at most `1/2` above `0` rounds to `0`, the even neighbour of a tie. -/
theorem roundHalfEven_eq_zero {q : ℚ} (h₀ : 0 ≤ q) (h : q ≤ 1 / 2) : roundHalfEven q = 0 := by
  have hf : ⌊q⌋ = 0 := Int.floor_eq_iff.2 ⟨by simpa using h₀, by norm_num; linarith⟩
  rw [roundHalfEven_eq, hf]
  split_ifs <;> first | rfl | (push_cast at *; linarith) | omega

/-- `N / D` rounded to the nearest natural number, ties to the even one, by integer quotient
and remainder. -/
def natRoundHalfEven (N D : ℕ) : ℕ :=
  if 2 * (N % D) < D then N / D
  else if D < 2 * (N % D) then N / D + 1
  else if N / D % 2 = 0 then N / D else N / D + 1

/-- The rounding on naturals is the rounding of the quotient. -/
theorem roundHalfEven_natCast_div (N D : ℕ) (hD : 0 < D) :
    roundHalfEven ((N : ℚ) / D) = natRoundHalfEven N D := by
  have hD' : (0 : ℚ) < D := by exact_mod_cast hD
  have hf : ⌊(N : ℚ) / D⌋ = ((N / D : ℕ) : ℤ) := by
    rw [Rat.floor_natCast_div_natCast]; norm_cast
  -- twice the fractional part is twice the remainder over the divisor
  have hfrac : 2 * ((N : ℚ) / D - ((N / D : ℕ) : ℤ)) = ((2 * (N % D) : ℕ) : ℚ) / D := by
    have hN : (N : ℚ) = D * (N / D : ℕ) + (N % D : ℕ) := by exact_mod_cast (Nat.div_add_mod N D).symm
    set a := N / D
    rw [Int.cast_natCast, hN]
    field_simp
  simp only [roundHalfEven_eq, hf, hfrac, div_lt_one hD', one_lt_div hD', Nat.cast_lt]
  unfold natRoundHalfEven
  split_ifs <;> omega

@[simp] theorem natRoundHalfEven_zero {D : ℕ} (hD : 0 < D) : natRoundHalfEven 0 D = 0 := by
  simp [natRoundHalfEven, hD]

/-- `q` rounded to the nearest multiple of `2 ^ k`, ties to the even multiple. -/
def roundAt (k : ℤ) (q : ℚ) : ℚ := roundHalfEven (q / 2 ^ k) * 2 ^ k

section RoundAt

variable {k : ℤ} {q r : ℚ}

theorem roundAt_mono (h : q ≤ r) : roundAt k q ≤ roundAt k r := by
  unfold roundAt
  have : (roundHalfEven (q / 2 ^ k) : ℚ) ≤ roundHalfEven (r / 2 ^ k) := by
    exact_mod_cast roundHalfEven_mono (div_le_div_of_nonneg_right h (zpow_pos two_pos k).le)
  exact mul_le_mul_of_nonneg_right this (zpow_pos two_pos k).le

/-- A multiple of `2 ^ k` is its own rounding. -/
theorem roundAt_intCast_mul (n : ℤ) : roundAt k (n * 2 ^ k) = n * 2 ^ k := by
  rw [roundAt, mul_div_cancel_right₀ _ (zpow_ne_zero k two_ne_zero), roundHalfEven_intCast]

theorem roundAt_le_of_le {n : ℤ} (h : q ≤ n * 2 ^ k) : roundAt k q ≤ n * 2 ^ k :=
  (roundAt_mono h).trans_eq (roundAt_intCast_mul n)

theorem le_roundAt_of_le {n : ℤ} (h : n * 2 ^ k ≤ q) : n * 2 ^ k ≤ roundAt k q :=
  (roundAt_intCast_mul n).symm.trans_le (roundAt_mono h)

theorem roundAt_nonneg (h : 0 ≤ q) : 0 ≤ roundAt k q := by
  simpa using le_roundAt_of_le (k := k) (n := 0) (by simpa using h)

/-- `2 ^ j` is a multiple of `2 ^ k` when `k ≤ j`. -/
theorem two_zpow_eq_mul {j : ℤ} (h : k ≤ j) :
    (2 : ℚ) ^ j = ((2 ^ (j - k).toNat : ℕ) : ℤ) * 2 ^ k := by
  rw [Int.cast_natCast, Nat.cast_pow, Nat.cast_ofNat, ← zpow_natCast, ← zpow_add₀ two_ne_zero,
    Int.toNat_of_nonneg (by omega), sub_add_cancel]

end RoundAt

/-! ## §3 The binary64 rounding -/

/-- The exponent of the spacing of binary64 numbers around `q > 0`: 53 significant bits,
and never finer than the subnormal unit `2 ^ -1074`. -/
def ulpExp (q : ℚ) : ℤ := max (log2Floor q - 52) (-1074)

/-- The magnitude of the binary64 number nearest to `q ≥ 0`, ties to an even last digit,
before overflow is considered. -/
def roundMag (q : ℚ) : ℚ := roundAt (ulpExp q) q

/-- `2 ^ 1024 - 2 ^ 970`, halfway between the largest finite binary64 number
`(2 ^ 53 - 1) * 2 ^ 971` and `2 ^ 1024`: a magnitude from there on rounds to `2 ^ 1024`, so a
float overflows. -/
def overflowThreshold : ℚ := 2 ^ 1024 - 2 ^ 970

@[simp] theorem roundMag_zero : roundMag 0 = 0 := by simp [roundMag, roundAt]

theorem roundMag_nonneg {q : ℚ} (h : 0 ≤ q) : 0 ≤ roundMag q := roundAt_nonneg h

/-- Below `2 ^ (⌊log₂ q⌋ + 1)`, or below the subnormal unit, `q` does not round past it. -/
theorem roundMag_le_binade {q : ℚ} (hq : 0 < q) :
    roundMag q ≤ 2 ^ max (log2Floor q + 1) (-1074) := by
  have hk : ulpExp q ≤ max (log2Floor q + 1) (-1074) := by unfold ulpExp; omega
  rw [two_zpow_eq_mul hk]
  refine roundAt_le_of_le ((log2Floor_spec hq).2.le.trans ?_)
  rw [← two_zpow_eq_mul hk]
  exact zpow_le_zpow_right₀ one_le_two (le_max_left _ _)

/-- A normal `q` rounds to at least the power of two below it. -/
theorem two_zpow_log2Floor_le_roundMag {q : ℚ} (hq : 0 < q) (hk : -1074 ≤ log2Floor q - 52) :
    (2 : ℚ) ^ log2Floor q ≤ roundMag q := by
  have hk' : ulpExp q ≤ log2Floor q := by unfold ulpExp; omega
  rw [two_zpow_eq_mul hk']
  exact le_roundAt_of_le (by rw [← two_zpow_eq_mul hk']; exact (log2Floor_spec hq).1)

/-- **Monotonicity.** A larger magnitude never rounds smaller. -/
theorem roundMag_mono {q r : ℚ} (hq : 0 ≤ q) (h : q ≤ r) : roundMag q ≤ roundMag r := by
  rcases hq.eq_or_lt with rfl | hq
  · rw [roundMag_zero]; exact roundMag_nonneg h
  have hl := log2Floor_mono hq h
  by_cases hk : ulpExp q = ulpExp r
  · unfold roundMag; rw [hk]; exact roundAt_mono h
  · -- `r` is in a higher binade, whose lowest power of two `q` does not round past
    have hr : -1074 ≤ log2Floor r - 52 ∧ log2Floor q < log2Floor r := by unfold ulpExp at hk; omega
    calc roundMag q ≤ 2 ^ max (log2Floor q + 1) (-1074) := roundMag_le_binade hq
      _ ≤ 2 ^ log2Floor r := zpow_le_zpow_right₀ one_le_two (by omega)
      _ ≤ roundMag r := two_zpow_log2Floor_le_roundMag (hq.trans_le h) hr.1

/-- **Underflow.** A magnitude rounds to zero exactly when it is at most `2 ^ -1075`, half the
smallest subnormal; the tie goes to the even `0`. -/
theorem roundMag_eq_zero_iff {q : ℚ} (hq : 0 ≤ q) : roundMag q = 0 ↔ q ≤ 2 ^ (-1075 : ℤ) := by
  rcases hq.eq_or_lt with rfl | hq
  · simp only [roundMag_zero, true_iff]; positivity
  constructor
  · intro h
    by_contra hlt
    rw [not_le] at hlt
    -- the scaled value is above `1/2`, so it rounds to a positive integer
    have hx : 1 / 2 < q / 2 ^ ulpExp q := by
      rw [lt_div_iff₀ (zpow_pos two_pos _)]
      by_cases hk : ulpExp q = -1074
      · rw [hk]
        calc 1 / 2 * (2 : ℚ) ^ (-1074 : ℤ) = 2 ^ (-1075 : ℤ) := by norm_num [zpow_neg]
          _ < q := hlt
      · have hk' : ulpExp q = log2Floor q - 52 := by unfold ulpExp at hk ⊢; omega
        calc 1 / 2 * (2 : ℚ) ^ ulpExp q < 2 ^ ulpExp q := by
              linarith [zpow_pos (two_pos : (0 : ℚ) < 2) (ulpExp q)]
          _ ≤ 2 ^ log2Floor q := zpow_le_zpow_right₀ one_le_two (by omega)
          _ ≤ q := (log2Floor_spec hq).1
    have hpos : (0 : ℚ) < roundHalfEven (q / 2 ^ ulpExp q) := by
      linarith [sub_roundHalfEven_le (q / 2 ^ ulpExp q)]
    have : (0 : ℚ) < roundMag q := mul_pos hpos (zpow_pos two_pos _)
    exact this.ne' h
  · intro h
    have hl : log2Floor q < -1074 := by
      have := (zpow_lt_zpow_iff_right₀ one_lt_two).1
        (((log2Floor_spec hq).1.trans h).trans_lt (zpow_lt_zpow_right₀ one_lt_two
          (show (-1075 : ℤ) < -1074 by norm_num)))
      exact this
    have hk : ulpExp q = -1074 := by unfold ulpExp; omega
    rw [roundMag, roundAt, hk, roundHalfEven_eq_zero (div_nonneg hq.le (by positivity)), Int.cast_zero,
      zero_mul]
    rw [div_le_iff₀ (zpow_pos two_pos _)]
    calc q ≤ 2 ^ (-1075 : ℤ) := h
      _ = 1 / 2 * 2 ^ (-1074 : ℤ) := by norm_num [zpow_neg]

/-- Round half to even at `2 ^ 53 - 1/2`, the tie between the largest significand and
`2 ^ 53`, goes up to the even `2 ^ 53`. -/
theorem roundHalfEven_two_pow_53_sub_half : roundHalfEven (2 ^ 53 - 1 / 2) = 2 ^ 53 := by
  have hf : ⌊(2 : ℚ) ^ 53 - 1 / 2⌋ = 2 ^ 53 - 1 := Int.floor_eq_iff.2 ⟨by norm_num, by norm_num⟩
  rw [roundHalfEven_eq, hf]
  norm_num

/-- **Overflow.** A magnitude rounds to `2 ^ 1024` or beyond exactly from
`overflowThreshold` on. -/
theorem two_pow_le_roundMag_iff {q : ℚ} (hq : 0 ≤ q) :
    2 ^ 1024 ≤ roundMag q ↔ overflowThreshold ≤ q := by
  unfold overflowThreshold
  rcases hq.eq_or_lt with rfl | hq
  · norm_num
  constructor
  · intro h
    by_contra hlt
    rw [not_le] at hlt
    by_cases hl : log2Floor q ≤ 1022
    · have := (roundMag_le_binade hq).trans (zpow_le_zpow_right₀ one_le_two
        (show max (log2Floor q + 1) (-1074) ≤ 1023 by omega))
      norm_num at this
      linarith
    · -- the top binade: the scaled value is below the tie, so at most `2 ^ 53 - 1`
      have hl' : log2Floor q = 1023 := by
        have := (zpow_lt_zpow_iff_right₀ one_lt_two).1 ((log2Floor_spec hq).1.trans_lt
          (hlt.trans (show (2 : ℚ) ^ 1024 - 2 ^ 970 < 2 ^ (1024 : ℤ) by norm_num)))
        omega
      have hk : ulpExp q = 971 := by unfold ulpExp; omega
      have hx : q / 2 ^ (971 : ℤ) < 2 ^ 53 - 1 / 2 := by
        rw [div_lt_iff₀ (by positivity)]; norm_num at hlt ⊢; linarith
      have hr : roundHalfEven (q / 2 ^ (971 : ℤ)) ≤ 2 ^ 53 - 1 := by
        have := roundHalfEven_sub_le (q / 2 ^ (971 : ℤ))
        have : (roundHalfEven (q / 2 ^ (971 : ℤ)) : ℚ) < 2 ^ 53 := by linarith
        have : roundHalfEven (q / 2 ^ (971 : ℤ)) < 2 ^ 53 := by exact_mod_cast this
        omega
      have : roundMag q ≤ (2 ^ 53 - 1) * 2 ^ (971 : ℤ) := by
        rw [roundMag, roundAt, hk]
        exact mul_le_mul_of_nonneg_right (by exact_mod_cast hr) (by positivity)
      norm_num at this h
      linarith
  · intro h
    have hl : 1023 ≤ log2Floor q := by
      have := (zpow_lt_zpow_iff_right₀ one_lt_two).1
        ((show (2 : ℚ) ^ (1023 : ℤ) < 2 ^ 1024 - 2 ^ 970 by norm_num).trans_le
          (h.trans (log2Floor_spec hq).2.le))
      omega
    rcases hl.lt_or_eq with hl | hl
    · calc (2 : ℚ) ^ 1024 = 2 ^ (1024 : ℤ) := by norm_num
        _ ≤ 2 ^ log2Floor q := zpow_le_zpow_right₀ one_le_two (by omega)
        _ ≤ roundMag q := two_zpow_log2Floor_le_roundMag hq (by omega)
    · have hk : ulpExp q = 971 := by unfold ulpExp; omega
      have hx : 2 ^ 53 - 1 / 2 ≤ q / 2 ^ (971 : ℤ) := by
        rw [le_div_iff₀ (by positivity)]; norm_num at h ⊢; linarith
      have hr := roundHalfEven_mono hx
      rw [roundHalfEven_two_pow_53_sub_half] at hr
      rw [roundMag, roundAt, hk]
      calc (2 : ℚ) ^ 1024 = ((2 ^ 53 : ℤ) : ℚ) * 2 ^ (971 : ℤ) := by norm_num
        _ ≤ roundHalfEven (q / 2 ^ (971 : ℤ)) * 2 ^ (971 : ℤ) :=
          mul_le_mul_of_nonneg_right (by exact_mod_cast hr) (by positivity)

/-- **Exactness.** A number with at most 53 significant bits above `2 ^ -1074` is its own
rounding. -/
theorem roundMag_natCast_mul {n : ℕ} {k : ℤ} (hn : n < 2 ^ 53) (hk : -1074 ≤ k) :
    roundMag (n * 2 ^ k) = n * 2 ^ k := by
  rcases Nat.eq_zero_or_pos n with rfl | hn0
  · simp
  have hl : log2Floor (n * 2 ^ k) = n.log2 + k := by
    apply log2Floor_eq
    · rw [zpow_add₀ two_ne_zero, zpow_natCast]
      exact mul_le_mul_of_nonneg_right (by exact_mod_cast Nat.log2_self_le hn0.ne') (by positivity)
    · rw [show (n.log2 : ℤ) + k + 1 = ((n.log2 + 1 : ℕ) : ℤ) + k by push_cast; ring,
        zpow_add₀ two_ne_zero, zpow_natCast]
      exact mul_lt_mul_of_pos_right (by exact_mod_cast Nat.lt_log2_self) (by positivity)
  have hlog : n.log2 ≤ 52 := by have := (Nat.log2_lt hn0.ne').2 hn; omega
  have hu : ulpExp (n * 2 ^ k) ≤ k := by unfold ulpExp; rw [hl]; omega
  have hq : (n : ℚ) * 2 ^ k = ((n * 2 ^ (k - ulpExp (n * 2 ^ k)).toNat : ℕ) : ℤ) *
      2 ^ ulpExp (n * 2 ^ k) := by
    rw [Int.cast_natCast, Nat.cast_mul, Nat.cast_pow, Nat.cast_ofNat, mul_assoc, ← zpow_natCast,
      ← zpow_add₀ two_ne_zero, Int.toNat_of_nonneg (by omega), sub_add_cancel]
  have := roundAt_intCast_mul (k := ulpExp (n * 2 ^ k)) (n * 2 ^ (k - ulpExp (n * 2 ^ k)).toNat : ℕ)
  rwa [← hq] at this

/-- The rounding is a significand of at most `2 ^ 53` times the spacing. -/
theorem roundMag_eq_natCast_mul {q : ℚ} (hq : 0 < q) :
    ∃ m : ℕ, m ≤ 2 ^ 53 ∧ roundMag q = m * 2 ^ ulpExp q := by
  have hx : q / 2 ^ ulpExp q ≤ 2 ^ 53 := by
    rw [div_le_iff₀ (zpow_pos two_pos _)]
    calc q ≤ 2 ^ (log2Floor q + 1) := (log2Floor_spec hq).2.le
      _ ≤ 2 ^ (53 + ulpExp q) := zpow_le_zpow_right₀ one_le_two (by unfold ulpExp; omega)
      _ = 2 ^ 53 * 2 ^ ulpExp q := by rw [zpow_add₀ two_ne_zero]; norm_num
  have h₀ : 0 ≤ roundHalfEven (q / 2 ^ ulpExp q) := by
    simpa using roundHalfEven_mono (div_nonneg hq.le (zpow_pos two_pos (ulpExp q)).le)
  have h₁ : roundHalfEven (q / 2 ^ ulpExp q) ≤ 2 ^ 53 := by
    have := roundHalfEven_mono (hx.trans_eq (by norm_cast : (2 : ℚ) ^ 53 = ((2 ^ 53 : ℤ) : ℚ)))
    rwa [roundHalfEven_intCast] at this
  refine ⟨(roundHalfEven (q / 2 ^ ulpExp q)).toNat, by omega, ?_⟩
  rw [roundMag, roundAt]
  congr 1
  exact_mod_cast (Int.toNat_of_nonneg h₀).symm

theorem ulpExp_ge (q : ℚ) : -1074 ≤ ulpExp q := le_max_right _ _

/-- Every rounded magnitude is its own rounding. -/
theorem roundMag_roundMag {q : ℚ} (hq : 0 ≤ q) : roundMag (roundMag q) = roundMag q := by
  rcases hq.eq_or_lt with rfl | hq
  · simp
  obtain ⟨m, hm, hr⟩ := roundMag_eq_natCast_mul hq
  rw [hr]
  rcases hm.lt_or_eq with hm | rfl
  · exact roundMag_natCast_mul hm (ulpExp_ge q)
  · -- the significand `2 ^ 53` is `2 ^ 52` one binade up
    have : ((2 ^ 53 : ℕ) : ℚ) * 2 ^ ulpExp q = ((2 ^ 52 : ℕ) : ℚ) * 2 ^ (ulpExp q + 1) := by
      rw [zpow_add₀ two_ne_zero]; push_cast; ring
    rw [this]
    exact roundMag_natCast_mul (by norm_num) (by have := ulpExp_ge q; omega)

/-! ## §4 The encoding -/

/-- The spacing exponent of the binary64 numbers around `n / d * 2 ^ e`. -/
def roundExp (n d : ℕ) (e : ℤ) : ℤ :=
  if n = 0 then -1074 else max (log2Div n d + e - 52) (-1074)

/-- The significand of the rounding of `n / d * 2 ^ e` at its spacing, at most `2 ^ 53`. -/
def roundSig (n d : ℕ) (e : ℤ) : ℕ :=
  natRoundHalfEven (scaleFrac n d (e - roundExp n d e)).1 (scaleFrac n d (e - roundExp n d e)).2

theorem log2Floor_div_mul {n d : ℕ} (hn : 0 < n) (hd : 0 < d) (e : ℤ) :
    log2Floor ((n : ℚ) / d * 2 ^ e) = log2Div n d + e := by
  obtain ⟨h₁, h₂⟩ := log2Div_spec hn hd
  have h2 : (0 : ℚ) < 2 ^ e := zpow_pos two_pos e
  apply log2Floor_eq
  · rw [zpow_add₀ two_ne_zero]; exact mul_le_mul_of_nonneg_right h₁ h2.le
  · rw [add_right_comm, zpow_add₀ two_ne_zero]; exact mul_lt_mul_of_pos_right h₂ h2

theorem ulpExp_div_mul {n d : ℕ} (hn : 0 < n) (hd : 0 < d) (e : ℤ) :
    ulpExp ((n : ℚ) / d * 2 ^ e) = roundExp n d e := by
  rw [ulpExp, log2Floor_div_mul hn hd, roundExp, if_neg hn.ne']

/-- **The computation.** The rounding of `n / d * 2 ^ e` is `roundSig` times `2 ^ roundExp`. -/
theorem roundMag_div_mul (n : ℕ) {d : ℕ} (hd : 0 < d) (e : ℤ) :
    roundMag ((n : ℚ) / d * 2 ^ e) = roundSig n d e * 2 ^ roundExp n d e := by
  rcases Nat.eq_zero_or_pos n with rfl | hn
  · simp [roundSig, scaleFrac_pos hd]
  have hq : (n : ℚ) / d * 2 ^ e / 2 ^ roundExp n d e =
      ((scaleFrac n d (e - roundExp n d e)).1 : ℚ) / (scaleFrac n d (e - roundExp n d e)).2 := by
    rw [scaleFrac_div, zpow_sub₀ two_ne_zero, mul_div_assoc]
  rw [roundMag, roundAt, ulpExp_div_mul hn hd, hq,
    roundHalfEven_natCast_div _ _ (scaleFrac_pos hd _), roundSig, Int.cast_natCast]

/-- The rounded significand is at most `2 ^ 53`, and at least `2 ^ 52` unless the spacing is
the subnormal unit. -/
theorem roundSig_bounds (n : ℕ) {d : ℕ} (hd : 0 < d) (e : ℤ) :
    roundSig n d e ≤ 2 ^ 53 ∧ -1074 ≤ roundExp n d e ∧
      (roundExp n d e = -1074 ∨ 2 ^ 52 ≤ roundSig n d e) := by
  have hk : -1074 ≤ roundExp n d e := by unfold roundExp; split_ifs <;> omega
  rcases Nat.eq_zero_or_pos n with rfl | hn
  · exact ⟨by simp [roundSig, scaleFrac_pos hd], hk, .inl (if_pos rfl)⟩
  have hq : (0 : ℚ) < n / d * 2 ^ e := by positivity
  have hval := roundMag_div_mul n hd e
  have hu := ulpExp_div_mul hn hd e
  have h2k : (0 : ℚ) < 2 ^ roundExp n d e := zpow_pos two_pos _
  refine ⟨?_, hk, ?_⟩
  · -- below the next binade, or below the subnormal unit
    have hb := (roundMag_le_binade hq).trans (zpow_le_zpow_right₀ one_le_two
      (show max (log2Floor ((n : ℚ) / d * 2 ^ e) + 1) (-1074) ≤ 53 + roundExp n d e by
        unfold ulpExp at hu; omega))
    rw [hval, zpow_add₀ two_ne_zero, mul_le_mul_right h2k] at hb
    exact_mod_cast hb
  · by_cases hk' : roundExp n d e = -1074
    · exact .inl hk'
    · refine .inr ?_
      have hl : -1074 ≤ log2Floor ((n : ℚ) / d * 2 ^ e) - 52 := by unfold ulpExp at hu; omega
      have hb := two_zpow_log2Floor_le_roundMag hq hl
      rw [hval, show log2Floor ((n : ℚ) / d * 2 ^ e) = 52 + roundExp n d e by
        unfold ulpExp at hu; omega, zpow_add₀ two_ne_zero, mul_le_mul_right h2k] at hb
      exact_mod_cast hb

/-- A finite non-negative binary64 number `sig * 2 ^ exp`, in IEEE 754's encoding with the
exponent unbiased and the leading bit explicit: a 53-bit significand, exponents from `-1074`
(the subnormals and the least normal binade) to `971`, and a significand of 53 bits unless
the exponent is the least, so that each value has one encoding. The sign is kept apart. -/
structure Binary64 where
  sig : ℕ
  exp : ℤ
  sig_lt : sig < 2 ^ 53
  exp_ge : -1074 ≤ exp
  exp_le : exp ≤ 971
  normal : 2 ^ 52 ≤ sig ∨ exp = -1074
  deriving DecidableEq, Repr

namespace Binary64

/-- The number a `Binary64` encodes. -/
def val (x : Binary64) : ℚ := x.sig * 2 ^ x.exp

/-- `0.0`. -/
def zero : Binary64 := ⟨0, -1074, by decide, le_rfl, by decide, .inr rfl⟩

/-- The binary64 number nearest to `n / d * 2 ^ e` (for `d > 0`), ties to an even last
digit; `none` when that is `2 ^ 1024` or more, an overflow. A significand of `2 ^ 53` is
`2 ^ 52` one binade up. -/
def round (n d : ℕ) (e : ℤ) : Option Binary64 :=
  let m := roundSig n d e
  let sig := if m = 2 ^ 53 then 2 ^ 52 else m
  let exp := if m = 2 ^ 53 then roundExp n d e + 1 else roundExp n d e
  if h : sig < 2 ^ 53 ∧ -1074 ≤ exp ∧ exp ≤ 971 ∧ (2 ^ 52 ≤ sig ∨ exp = -1074) then
    some ⟨sig, exp, h.1, h.2.1, h.2.2.1, h.2.2.2⟩
  else none

theorem val_nonneg (x : Binary64) : 0 ≤ x.val := by unfold val; positivity

/-- Every finite binary64 number is below `2 ^ 1024`. -/
theorem val_lt (x : Binary64) : x.val < 2 ^ 1024 :=
  calc x.val ≤ x.sig * 2 ^ (971 : ℤ) :=
        mul_le_mul_of_nonneg_left (zpow_le_zpow_right₀ one_le_two x.exp_le) (Nat.cast_nonneg _)
    _ < 2 ^ 53 * 2 ^ (971 : ℤ) := mul_lt_mul_of_pos_right (by exact_mod_cast x.sig_lt) (by positivity)
    _ = 2 ^ 1024 := by norm_num

/-- A significand of 53 bits at an exponent above `971` is `2 ^ 1024` or more. -/
private theorem two_pow_le_of_exp_gt {m : ℕ} {k : ℤ} (hm : 2 ^ 52 ≤ m) (hk : 971 < k) :
    (2 : ℚ) ^ 1024 ≤ (m : ℚ) * 2 ^ k :=
  calc (2 : ℚ) ^ 1024 = (2 : ℚ) ^ 52 * (2 : ℚ) ^ (972 : ℤ) := by norm_num
    _ ≤ (m : ℚ) * 2 ^ k := mul_le_mul (by exact_mod_cast hm)
        (zpow_le_zpow_right₀ one_le_two (by omega)) (by positivity) (Nat.cast_nonneg _)

/-- **Correctness of the encoding.** `round` returns the encoding of the rounding, or `none`
exactly when the rounding overflows. -/
theorem round_cases (n : ℕ) {d : ℕ} (hd : 0 < d) (e : ℤ) :
    (∃ x, round n d e = some x ∧ x.val = roundMag ((n : ℚ) / d * 2 ^ e)) ∨
      (round n d e = none ∧ 2 ^ 1024 ≤ roundMag ((n : ℚ) / d * 2 ^ e)) := by
  obtain ⟨hm, hk, hnorm⟩ := roundSig_bounds n hd e
  have hval := roundMag_div_mul n hd e
  unfold round
  by_cases hm' : roundSig n d e = 2 ^ 53
  · -- the carry into the next binade
    have hv : roundMag ((n : ℚ) / d * 2 ^ e) = ((2 ^ 52 : ℕ) : ℚ) * 2 ^ (roundExp n d e + 1) := by
      rw [hval, hm', zpow_add₀ two_ne_zero]; push_cast; ring
    simp only [hm', if_true]
    split_ifs with h
    · exact .inl ⟨_, rfl, by rw [hv]; rfl⟩
    · have hk' : 971 < roundExp n d e + 1 := by
        by_contra hc; exact h ⟨by norm_num, by omega, by omega, .inl le_rfl⟩
      exact .inr ⟨rfl, hv ▸ two_pow_le_of_exp_gt le_rfl hk'⟩
  · simp only [hm', if_false]
    split_ifs with h
    · exact .inl ⟨_, rfl, by rw [hval]; rfl⟩
    · have hk' : 971 < roundExp n d e := by
        by_contra hc; exact h ⟨by omega, hk, by omega, hnorm.symm⟩
      exact .inr ⟨rfl, hval ▸ two_pow_le_of_exp_gt (hnorm.resolve_left (by omega)) hk'⟩

theorem val_of_round_eq_some {n d : ℕ} (hd : 0 < d) {e : ℤ} {x : Binary64}
    (h : round n d e = some x) : x.val = roundMag ((n : ℚ) / d * 2 ^ e) := by
  rcases round_cases n hd e with ⟨y, hy, hv⟩ | ⟨hn, -⟩
  · rw [h] at hy; cases hy; exact hv
  · rw [h] at hn; cases hn

theorem round_eq_none_iff {n d : ℕ} (hd : 0 < d) {e : ℤ} :
    round n d e = none ↔ 2 ^ 1024 ≤ roundMag ((n : ℚ) / d * 2 ^ e) := by
  rcases round_cases n hd e with ⟨y, hy, hv⟩ | ⟨hn, hle⟩
  · simp only [hy, reduceCtorEq, false_iff, not_le, ← hv]; exact y.val_lt
  · simp [hn, hle]

end Binary64

end ShardX.Python
