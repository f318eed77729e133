import ShardX.Python.Binary64
import ShardX.Python.Runtime
import Mathlib.Order.WithBot
import Mathlib.Data.Rat.Floor

/-!
# Python Floats

A CPython `float` is an IEEE 754 binary64 number. `PyFloat` is a finite `Binary64` with its
sign bit, an infinity with its sign, or `nan`. Each arithmetic operation computes the exact
result on the encodings and rounds it (`ofExact`), so the model computes the code's doubles
to the last bit: ties to an even last digit, overflow to an infinity, underflow to a signed
zero, and IEEE's rules for the infinities and `nan`. The computation is on naturals, so
`decide` evaluates it.

CPython adds its own checks around the IEEE operations:

- `x / y` of floats raises `ZeroDivisionError` when `y` is `±0.0`, before it looks at `x`
  (`float_div`); past the largest float the quotient is an infinity, as in IEEE;
- `a / b` of ints is the correctly rounded quotient; it raises `ZeroDivisionError` for
  `b == 0` and `OverflowError` when the quotient rounds past the largest float, and a zero
  quotient takes the sign `(a < 0) xor (b < 0)` (`long_true_divide`: `0 / -5` is `-0.0`);
- an int operand of float arithmetic is rounded by `PyLong_AsDouble`, which raises
  `OverflowError` past the largest float;
- comparisons are IEEE's: every comparison with `nan` is false, and `-0.0 == 0.0`;
- `format(x, '.pf')` prints the exact value of `x` rounded half to even to `p` decimals,
  with `-` for the sign bit, and `inf`, `-inf`, `nan` for the others.

For proofs, `toExt` reads a float on the extended line of rationals (`nan` has no place
there). A finite operation is there the rounding `roundExt` of its exact result, which is
monotone; the order facts the analyzer needs follow from that.

The last section gathers what the modelled code takes from the interpreter and that differs
between CPython versions and configurations: `CPython`.

Main results:
- `toExt_ofExact`: a rounded float is `roundExt` of the exact value; `roundExt_mono`;
- `lt_iff_toExt`, `le_iff_toExt`: `<` and `<=` are the order of the extended line;
- `toExt_add`, `toExt_mul`, `toExt_div`: the operations on finite floats round the exact
  result;
- `intTrueDiv_isOk_iff`, `isZero_intQuotient`: `a / b` of ints returns exactly when
  `b ≠ 0` and `|a / b|` is below `overflowThreshold`, and then is zero exactly up to
  `2 ^ -1075`;
- `floatTrunc_finite`: `int(x)` of a finite float truncates its value toward zero;
- `formatFixed_finite`: `format` prints the rounded exact value.
-/

namespace ShardX.Python

/-! ## §1 Floats and their operations -/

/-- A CPython `float`. -/
inductive PyFloat where
  /-- A finite float: its sign bit and its magnitude; `-0.0` is `finite true Binary64.zero`. -/
  | finite (neg : Bool) (mag : Binary64)
  /-- `inf`, or `-inf` when `neg`. -/
  | inf (neg : Bool)
  | nan
  deriving DecidableEq, Repr

namespace PyFloat

/-- The float nearest to `±(n / d * 2 ^ e)` (for `d > 0`), ties to an even last digit: the
sign `neg`, also when it underflows to zero, and an infinity past the largest finite float. -/
def ofExact (neg : Bool) (n d : ℕ) (e : ℤ) : PyFloat :=
  match Binary64.round n d e with
  | some m => finite neg m
  | none => inf neg

/-- `0.0`. -/
def zero : PyFloat := finite false Binary64.zero

instance : Inhabited PyFloat := ⟨zero⟩

/-- The float nearest to an int, an infinity past the largest float (the conversions that
raise there are `intToFloat`). -/
def ofInt (z : ℤ) : PyFloat := ofExact (decide (z < 0)) z.natAbs 1 0

/-- A decimal literal of the source, `m * 10 ^ x`: `0.9` is `ofDecimal 9 (-1)`. -/
def ofDecimal (m : ℕ) (x : ℤ) : PyFloat := ofExact false (m * 10 ^ x.toNat) (10 ^ (-x).toNat) 0

/-- `-x`: the sign bit flipped. -/
def neg : PyFloat → PyFloat
  | finite s m => finite (!s) m
  | inf s => inf (!s)
  | nan => nan

/-- `abs(x)`: the sign bit cleared. -/
def abs : PyFloat → PyFloat
  | finite _ m => finite false m
  | inf _ => inf false
  | nan => nan

/-- `x == 0.0`, which `-0.0` also is. -/
def isZero : PyFloat → Bool
  | finite _ m => m.sig == 0
  | _ => false

/-- `±m` as an integer multiple of `2 ^ e`, for `e ≤ m.exp`. -/
def signedAt (s : Bool) (m : Binary64) (e : ℤ) : ℤ :=
  if s then -((m.sig * 2 ^ (m.exp - e).toNat : ℕ) : ℤ) else ((m.sig * 2 ^ (m.exp - e).toNat : ℕ) : ℤ)

/-- IEEE addition. An exact zero sum is `-0.0` only when both operands are negative. -/
def add : PyFloat → PyFloat → PyFloat
  | nan, _ => nan
  | _, nan => nan
  | inf a, inf b => if a = b then inf a else nan
  | inf a, finite _ _ => inf a
  | finite _ _, inf b => inf b
  | finite a x, finite b y =>
    let e := min x.exp y.exp
    let t := signedAt a x e + signedAt b y e
    ofExact (if t = 0 then a && b else decide (t < 0)) t.natAbs 1 e

@[simp] theorem nan_add (y : PyFloat) : nan.add y = nan := by cases y <;> rfl

/-- IEEE subtraction, `x + (-y)`. -/
def sub (x y : PyFloat) : PyFloat := x.add y.neg

/-- IEEE multiplication; `inf * 0.0` is `nan`. -/
def mul : PyFloat → PyFloat → PyFloat
  | nan, _ => nan
  | _, nan => nan
  | inf a, inf b => inf (a != b)
  | inf a, finite b y => if y.sig = 0 then nan else inf (a != b)
  | finite b y, inf a => if y.sig = 0 then nan else inf (a != b)
  | finite a x, finite b y => ofExact (a != b) (x.sig * y.sig) 1 (x.exp + y.exp)

@[simp] theorem nan_sub (y : PyFloat) : nan.sub y = nan := nan_add _

@[simp] theorem nan_mul (y : PyFloat) : nan.mul y = nan := by cases y <;> rfl

/-- IEEE division; `0 / 0` and `inf / inf` are `nan`. -/
def div : PyFloat → PyFloat → PyFloat
  | nan, _ => nan
  | _, nan => nan
  | inf _, inf _ => nan
  | inf a, finite b _ => inf (a != b)
  | finite a _, inf b => finite (a != b) Binary64.zero
  | finite a x, finite b y =>
    if y.sig = 0 then (if x.sig = 0 then nan else inf (a != b))
    else ofExact (a != b) x.sig y.sig (x.exp - y.exp)

@[simp] theorem nan_div (y : PyFloat) : nan.div y = nan := by cases y <;> rfl

/-- `x / y` of floats (`float_div`): `ZeroDivisionError` when `y == 0.0`. -/
def trueDiv (x y : PyFloat) : Except PyExc PyFloat :=
  if y.isZero then .error .zeroDivisionError else .ok (x.div y)

/-- `x < y`: IEEE's comparison, false when either side is `nan`. -/
def lt : PyFloat → PyFloat → Bool
  | finite a x, finite b y => decide (signedAt a x (min x.exp y.exp) < signedAt b y (min x.exp y.exp))
  | inf a, inf b => a && !b
  | inf a, finite _ _ => a
  | finite _ _, inf b => !b
  | _, _ => false

/-- `x <= y`: IEEE's comparison, false when either side is `nan`. -/
def le : PyFloat → PyFloat → Bool
  | finite a x, finite b y => decide (signedAt a x (min x.exp y.exp) ≤ signedAt b y (min x.exp y.exp))
  | inf a, inf b => a || !b
  | inf a, finite _ _ => a
  | finite _ _, inf b => !b
  | _, _ => false

/-- `x == y`: IEEE's equality, false when either side is `nan`, and `-0.0 == 0.0`. -/
def ieeeEq (x y : PyFloat) : Bool := x.le y && y.le x

instance : LT PyFloat := ⟨fun x y => x.lt y = true⟩
instance : LE PyFloat := ⟨fun x y => x.le y = true⟩
instance (x y : PyFloat) : Decidable (x < y) := inferInstanceAs (Decidable (x.lt y = true))
instance (x y : PyFloat) : Decidable (x ≤ y) := inferInstanceAs (Decidable (x.le y = true))

end PyFloat

/-- `float(n)` of an int, and an int operand of float arithmetic (`PyLong_AsDouble`). -/
def intToFloat (z : ℤ) : Except PyExc PyFloat :=
  match Binary64.round z.natAbs 1 0 with
  | some m => .ok (.finite (decide (z < 0)) m)
  | none => .error .overflowError

/-- `a / b` of two ints (`long_true_divide`). -/
def intTrueDiv (a b : ℤ) : Except PyExc PyFloat :=
  if b = 0 then .error .zeroDivisionError
  else match Binary64.round a.natAbs b.natAbs 0 with
    | some m => .ok (.finite (decide (a < 0) != decide (b < 0)) m)
    | none => .error .overflowError

/-- The float `a / b` of ints returns when it returns: the quotient rounded, with the sign
`(a < 0) xor (b < 0)` (`0 / -5` is `-0.0`). -/
def intQuotient (a b : ℤ) : PyFloat :=
  .ofExact (decide (a < 0) != decide (b < 0)) a.natAbs b.natAbs 0

/-- The digits of `n` with at least `p + 1` of them, a point before the last `p`. -/
def fixedPointDigits (n p : ℕ) : List Char :=
  let ds := (Nat.repr n).toList
  let ds := List.replicate (p + 1 - ds.length) '0' ++ ds
  if p = 0 then ds else ds.take (ds.length - p) ++ '.' :: ds.drop (ds.length - p)

/-- `format(x, '.pf')`, i.e. the f-string field `{x:.pf}`. -/
def formatFixed (x : PyFloat) (p : ℕ) : String :=
  match x with
  | .finite s m =>
    ⟨(if s then ['-'] else []) ++ fixedPointDigits (natRoundHalfEven
      (scaleFrac (m.sig * 10 ^ p) 1 m.exp).1 (scaleFrac (m.sig * 10 ^ p) 1 m.exp).2) p⟩
  | .inf s => if s then "-inf" else "inf"
  | .nan => "nan"

/-! ## §2 Floats on the extended line -/

namespace PyFloat

/-- The value of a finite float, `0` for the others. -/
def toRat : PyFloat → ℚ
  | finite s m => if s then -m.val else m.val
  | _ => 0

/-- A float on the extended line of rationals; `nan` has no place there. -/
def toExt : PyFloat → Option (WithBot (WithTop ℚ))
  | finite s m => some ((if s then -m.val else m.val : ℚ) : WithTop ℚ)
  | inf s => some (if s then ⊥ else ⊤)
  | nan => none

/-- The rounding of an exact rational on the extended line: `±roundMag |q|`, or an infinity
of the sign of `q` when that overflows. -/
def roundExt (q : ℚ) : WithBot (WithTop ℚ) :=
  if 2 ^ 1024 ≤ roundMag |q| then (if q < 0 then ⊥ else ⊤)
  else (((if q < 0 then -roundMag |q| else roundMag |q| : ℚ) : WithTop ℚ) : WithBot (WithTop ℚ))

/-- The rounding is monotone on the extended line. -/
theorem roundExt_mono : Monotone roundExt := by
  intro q r h
  have hm : ∀ {a b : ℚ}, 0 ≤ a → a ≤ b → roundMag a ≤ roundMag b := roundMag_mono
  unfold roundExt
  rcases lt_or_le q 0 with hq | hq <;> rcases lt_or_le r 0 with hr | hr
  · -- both negative: `|r| ≤ |q|`
    have habs : |r| ≤ |q| := by rw [abs_of_neg hq, abs_of_neg hr]; linarith
    have hmr := hm (abs_nonneg r) habs
    simp only [hq, hr, if_true]
    split_ifs with h₁ h₂ h₂
    · exact le_rfl
    · exact bot_le
    · exact absurd (h₂.trans hmr) h₁
    · exact WithBot.coe_le_coe.2 (WithTop.coe_le_coe.2 (neg_le_neg hmr))
  · -- `q < 0 ≤ r`: the left side is at most `0`, the right at least
    have h0 : -roundMag |q| ≤ roundMag |r| :=
      (neg_nonpos.2 (roundMag_nonneg (abs_nonneg q))).trans (roundMag_nonneg (abs_nonneg r))
    simp only [hq, not_lt.2 hr, if_true, if_false]
    split_ifs
    · exact bot_le
    · exact bot_le
    · exact WithBot.coe_le_coe.2 le_top
    · exact WithBot.coe_le_coe.2 (WithTop.coe_le_coe.2 h0)
  · exact absurd (h.trans_lt hr) (not_lt.2 hq)
  · have habs : |q| ≤ |r| := by rw [abs_of_nonneg hq, abs_of_nonneg hr]; exact h
    have hmr := hm (abs_nonneg q) habs
    simp only [not_lt.2 hq, not_lt.2 hr, if_false]
    split_ifs with h₁ h₂ h₂
    · exact le_rfl
    · exact absurd (h₁.trans hmr) h₂
    · exact WithBot.coe_le_coe.2 le_top
    · exact WithBot.coe_le_coe.2 (WithTop.coe_le_coe.2 hmr)

/-- **Rounding.** A float made by `ofExact` is the rounding of its exact value. -/
theorem toExt_ofExact (neg : Bool) (n : ℕ) {d : ℕ} (hd : 0 < d) (e : ℤ) :
    (ofExact neg n d e).toExt =
      some (roundExt (if neg then -((n : ℚ) / d * 2 ^ e) else (n : ℚ) / d * 2 ^ e)) := by
  have hr : 0 ≤ (n : ℚ) / d * 2 ^ e := by positivity
  have habs : |(if neg then -((n : ℚ) / d * 2 ^ e) else (n : ℚ) / d * 2 ^ e)| =
      (n : ℚ) / d * 2 ^ e := by split <;> simp [abs_of_nonneg hr]
  unfold ofExact roundExt
  rw [habs]
  rcases Binary64.round_cases n hd e with ⟨x, hx, hv⟩ | ⟨hx, hov⟩
  · rw [hx, if_neg (by rw [← hv]; exact not_le.2 x.val_lt)]
    simp only [toExt, hv]
    cases neg
    · simp [not_lt.2 hr]
    · rcases hr.eq_or_lt with h0 | hpos
      · simp [← h0]
      · simp [hpos]
  · have hpos : 0 < (n : ℚ) / d * 2 ^ e := by
      refine lt_of_le_of_ne hr fun h0 => ?_
      rw [← h0, roundMag_zero] at hov
      norm_num at hov
    rw [hx, if_pos hov]
    cases neg <;> simp [toExt, hpos, not_lt.2 hpos.le]

theorem toExt_finite (s : Bool) (m : Binary64) :
    (finite s m).toExt = some (((finite s m).toRat : WithTop ℚ) : WithBot (WithTop ℚ)) := rfl

/-- The signed value at a lower exponent, times its power of two, is the float's value. -/
theorem signedAt_mul (s : Bool) (m : Binary64) {e : ℤ} (he : e ≤ m.exp) :
    (signedAt s m e : ℚ) * 2 ^ e = (finite s m).toRat := by
  have hv : ((m.sig * 2 ^ (m.exp - e).toNat : ℕ) : ℚ) * 2 ^ e = m.val := by
    rw [Binary64.val, Nat.cast_mul, Nat.cast_pow, Nat.cast_ofNat, mul_assoc, ← zpow_natCast,
      ← zpow_add₀ two_ne_zero, Int.toNat_of_nonneg (by omega), sub_add_cancel]
  cases s
  · simp only [signedAt, toRat, Int.cast_natCast]; exact hv
  · simp only [signedAt, toRat, if_true, Int.cast_neg, Int.cast_natCast, neg_mul, hv]

/-- `±|t|` with the sign of `t` is `t`; a zero takes either sign. -/
theorem signed_natAbs (s : Bool) (t : ℤ) (hs : t ≠ 0 → s = decide (t < 0)) (k : ℚ) :
    (if s then -((t.natAbs : ℚ) / (1 : ℕ) * k) else (t.natAbs : ℚ) / (1 : ℕ) * k) = t * k := by
  rw [Int.cast_natAbs, Nat.cast_one, div_one]
  by_cases ht : t = 0
  · simp [ht]
  · rw [hs ht]
    rcases lt_or_gt_of_ne ht with h | h
    · simp [h, abs_of_neg (Int.cast_lt_zero.2 h)]
    · simp [not_lt.2 h.le, abs_of_pos (Int.cast_pos.2 h)]

theorem signedAt_lt_iff (a b : Bool) (x y : Binary64) :
    signedAt a x (min x.exp y.exp) < signedAt b y (min x.exp y.exp) ↔
      (finite a x).toRat < (finite b y).toRat := by
  rw [← signedAt_mul a x (min_le_left _ _), ← signedAt_mul b y (min_le_right _ _),
    mul_lt_mul_right (zpow_pos two_pos _), Int.cast_lt]

theorem signedAt_le_iff (a b : Bool) (x y : Binary64) :
    signedAt a x (min x.exp y.exp) ≤ signedAt b y (min x.exp y.exp) ↔
      (finite a x).toRat ≤ (finite b y).toRat := by
  rw [← signedAt_mul a x (min_le_left _ _), ← signedAt_mul b y (min_le_right _ _),
    mul_le_mul_right (zpow_pos two_pos _), Int.cast_le]

private theorem coe_lt_top (q : ℚ) : ((q : WithTop ℚ) : WithBot (WithTop ℚ)) < ⊤ :=
  WithBot.coe_lt_coe.2 (WithTop.coe_lt_top q)

/-- `x < y` is the order of the extended line, between floats that are not `nan`. -/
theorem lt_iff_toExt {x y : PyFloat} :
    x < y ↔ ∃ u v, x.toExt = some u ∧ y.toExt = some v ∧ u < v := by
  show x.lt y = true ↔ _
  cases x with
  | finite a x =>
    cases y with
    | finite b y => simp [lt, toExt_finite, signedAt_lt_iff]
    | inf b => cases b <;> simp [lt, toExt, coe_lt_top]
    | nan => simp [lt, toExt]
  | inf a =>
    cases y with
    | finite b y => cases a <;> simp [lt, toExt, WithBot.bot_lt_coe, WithBot.coe_lt_coe]
    | inf b => cases a <;> cases b <;> simp [lt, toExt, WithBot.coe_lt_coe]
    | nan => simp [lt, toExt]
  | nan => simp [lt, toExt]

/-- `x <= y` is the order of the extended line, between floats that are not `nan`. -/
theorem le_iff_toExt {x y : PyFloat} :
    x ≤ y ↔ ∃ u v, x.toExt = some u ∧ y.toExt = some v ∧ u ≤ v := by
  show x.le y = true ↔ _
  cases x with
  | finite a x =>
    cases y with
    | finite b y => simp [le, toExt_finite, signedAt_le_iff]
    | inf b => cases b <;> simp [le, toExt, WithBot.coe_le_coe]
    | nan => simp [le, toExt]
  | inf a =>
    cases y with
    | finite b y => cases a <;> simp [le, toExt, WithBot.coe_le_coe]
    | inf b => cases a <;> cases b <;> simp [le, toExt, WithBot.coe_le_coe]
    | nan => simp [le, toExt]
  | nan => simp [le, toExt]

theorem lt_of_lt_of_le {x y z : PyFloat} (h₁ : x < y) (h₂ : y ≤ z) : x < z := by
  obtain ⟨u, v, hu, hv, huv⟩ := lt_iff_toExt.1 h₁
  obtain ⟨v', w, hv', hw, hvw⟩ := le_iff_toExt.1 h₂
  rw [hv] at hv'
  cases hv'
  exact lt_iff_toExt.2 ⟨u, w, hu, hw, huv.trans_le hvw⟩

theorem lt_of_le_of_lt {x y z : PyFloat} (h₁ : x ≤ y) (h₂ : y < z) : x < z := by
  obtain ⟨u, v, hu, hv, huv⟩ := le_iff_toExt.1 h₁
  obtain ⟨v', w, hv', hw, hvw⟩ := lt_iff_toExt.1 h₂
  rw [hv] at hv'
  cases hv'
  exact lt_iff_toExt.2 ⟨u, w, hu, hw, huv.trans_lt hvw⟩

theorem le_def {x y : PyFloat} : x ≤ y ↔ x.le y = true := Iff.rfl

/-- A float other than `nan`, as its point of the extended line. -/
def extKey (x : PyFloat) : WithBot (WithTop ℚ) := x.toExt.getD ⊥

theorem toExt_eq_some_extKey {x : PyFloat} (hx : x ≠ nan) : x.toExt = some x.extKey := by
  cases x <;> simp_all [toExt, extKey]

/-- Between floats other than `nan`, `<` compares their points of the extended line. -/
theorem lt_iff_extKey_lt {x y : PyFloat} (hx : x ≠ nan) (hy : y ≠ nan) :
    x.lt y = true ↔ x.extKey < y.extKey := by
  show x < y ↔ _
  simp [lt_iff_toExt, toExt_eq_some_extKey hx, toExt_eq_some_extKey hy]

theorem le_iff_extKey_le {x y : PyFloat} (hx : x ≠ nan) (hy : y ≠ nan) :
    x ≤ y ↔ x.extKey ≤ y.extKey := by
  simp [le_iff_toExt, toExt_eq_some_extKey hx, toExt_eq_some_extKey hy]

theorem ne_nan_of_le_left {x y : PyFloat} (h : x ≤ y) : x ≠ nan := by
  rintro rfl; change nan.le y = true at h; cases y <;> simp [le] at h

theorem ne_nan_of_le_right {x y : PyFloat} (h : x ≤ y) : y ≠ nan := by
  rintro rfl; change x.le nan = true at h; cases x <;> simp [le] at h

theorem ne_nan_of_lt_left {x y : PyFloat} (h : x < y) : x ≠ nan := by
  rintro rfl; change nan.lt y = true at h; cases y <;> simp [lt] at h

theorem ne_nan_of_lt_right {x y : PyFloat} (h : x < y) : y ≠ nan := by
  rintro rfl; change x.lt nan = true at h; cases x <;> simp [lt] at h

theorem inf_true_le {y : PyFloat} (hy : y ≠ nan) : inf true ≤ y := by
  show (inf true).le y = true; cases y <;> simp_all [le]

theorem le_inf_false {x : PyFloat} (hx : x ≠ nan) : x ≤ inf false := by
  show x.le (inf false) = true; cases x <;> simp_all [le]

theorem finite_le_finite_iff {a b : Bool} {x y : Binary64} :
    finite a x ≤ finite b y ↔ (finite a x).toRat ≤ (finite b y).toRat := by
  show (finite a x).le (finite b y) = true ↔ _
  simp [le, signedAt_le_iff]

theorem ofExact_ne_nan (neg : Bool) (n d : ℕ) (e : ℤ) : ofExact neg n d e ≠ nan := by
  unfold ofExact; split <;> simp

theorem lt_irrefl' {x : PyFloat} : ¬x < x := by
  intro h
  have hx := ne_nan_of_lt_right h
  exact lt_irrefl _ ((lt_iff_extKey_lt hx hx).1 h)

theorem le_of_lt' {x y : PyFloat} (h : x < y) : x ≤ y := by
  obtain ⟨u, v, hu, hv, huv⟩ := lt_iff_toExt.1 h
  exact le_iff_toExt.2 ⟨u, v, hu, hv, huv.le⟩

theorem not_lt_of_le' {x y : PyFloat} (h : x ≤ y) : ¬y < x :=
  fun h' => lt_irrefl' (lt_of_le_of_lt h h')

/-- Against a cut `c`, "not below `c`" is "at least `g`" for every float other than `nan`,
with `g` above `0.0`, exactly when `c == g`. -/
theorem forall_not_lt_iff_le_iff {c g : PyFloat} (hg : zero < g) :
    (∀ e : PyFloat, e ≠ nan → (¬e < c ↔ g ≤ e)) ↔ c.ieeeEq g = true := by
  have hgn := ne_nan_of_lt_right hg
  have hz : zero ≠ nan := by decide
  simp only [ieeeEq, Bool.and_eq_true, ← le_def]
  constructor
  · intro h
    have hc : c ≠ nan := by
      rintro rfl
      have h0 := (h zero hz).1 fun h' => ne_nan_of_lt_right h' rfl
      exact absurd ((lt_iff_extKey_lt hz hgn).1 hg) (not_lt.2 ((le_iff_extKey_le hgn hz).1 h0))
    have hgc := (h c hc).1 lt_irrefl'
    refine ⟨(le_iff_extKey_le hc hgn).2 (not_lt.1 fun hlt => ?_), hgc⟩
    exact (h g hgn).2 ((le_iff_extKey_le hgn hgn).2 le_rfl) ((lt_iff_extKey_lt hgn hc).2 hlt)
  · rintro ⟨hcg, hgc⟩ e he
    have hc := ne_nan_of_le_left hcg
    have hkey : c.extKey = g.extKey :=
      le_antisymm ((le_iff_extKey_le hc hgn).1 hcg) ((le_iff_extKey_le hgn hc).1 hgc)
    rw [le_iff_extKey_le hgn he, ← hkey, ← not_lt]
    exact not_congr (lt_iff_extKey_lt he hc)

/-- A positive finite float, such as the `100` of `threshold / 100`. -/
def isPosFinite : PyFloat → Bool
  | finite false c => c.sig != 0
  | _ => false

/-- A finite float, such as the `1.0` of `1.0 - threshold / 100`. -/
def isFinite : PyFloat → Bool
  | finite _ _ => true
  | _ => false

/-! ## §4 The operations round the exact result -/

theorem toExt_add (a b : Bool) (x y : Binary64) :
    ((finite a x).add (finite b y)).toExt =
      some (roundExt ((finite a x).toRat + (finite b y).toRat)) := by
  have ht := signed_natAbs (if signedAt a x (min x.exp y.exp) + signedAt b y (min x.exp y.exp) = 0
      then a && b else decide (signedAt a x (min x.exp y.exp) + signedAt b y (min x.exp y.exp) < 0))
    (signedAt a x (min x.exp y.exp) + signedAt b y (min x.exp y.exp))
    (fun h => if_neg h) (2 ^ min x.exp y.exp)
  rw [Int.cast_add, add_mul, signedAt_mul a x (min_le_left _ _),
    signedAt_mul b y (min_le_right _ _)] at ht
  rw [← ht]
  exact toExt_ofExact _ _ one_pos _

theorem toExt_mul (a b : Bool) (x y : Binary64) :
    ((finite a x).mul (finite b y)).toExt =
      some (roundExt ((finite a x).toRat * (finite b y).toRat)) := by
  show (ofExact _ _ _ _).toExt = _
  rw [toExt_ofExact _ _ one_pos]
  have hmag : ((x.sig * y.sig : ℕ) : ℚ) / (1 : ℕ) * 2 ^ (x.exp + y.exp) = x.val * y.val := by
    rw [Binary64.val, Binary64.val, zpow_add₀ two_ne_zero, Nat.cast_mul, Nat.cast_one, div_one,
      mul_mul_mul_comm]
  rw [hmag]
  cases a <;> cases b <;> simp [toRat]

theorem toExt_div (a b : Bool) (x y : Binary64) (hy : y.sig ≠ 0) :
    ((finite a x).div (finite b y)).toExt =
      some (roundExt ((finite a x).toRat / (finite b y).toRat)) := by
  show (if y.sig = 0 then _ else ofExact _ _ _ _).toExt = _
  rw [if_neg hy, toExt_ofExact _ _ (Nat.pos_of_ne_zero hy)]
  have hmag : (x.sig : ℚ) / y.sig * 2 ^ (x.exp - y.exp) = x.val / y.val := by
    rw [Binary64.val, Binary64.val, mul_div_mul_comm, ← zpow_sub₀ two_ne_zero]
  rw [hmag]
  cases a <;> cases b <;> simp [toRat, neg_div, div_neg]

/-! ## §4b Monotone operations -/

@[simp] theorem toRat_neg (s : Bool) (m : Binary64) : (finite (!s) m).toRat = -(finite s m).toRat := by
  cases s <;> simp [toRat]

/-- Dividing by a positive finite float is monotone. -/
theorem div_le_div_of_le {x y c : PyFloat} (hc : c.isPosFinite = true) (h : x ≤ y) :
    x.div c ≤ y.div c := by
  obtain ⟨m, rfl, hm⟩ : ∃ m, c = finite false m ∧ m.sig ≠ 0 := by
    rcases c with ⟨_ | _, m⟩ | _ | _ <;> simp_all [isPosFinite]
  have hdiv : ∀ {z : PyFloat}, z ≠ nan → z.div (finite false m) ≠ nan := by
    rintro (⟨a, z⟩ | a | _) hz
    · simp only [div, if_neg hm]; exact ofExact_ne_nan _ _ _ _
    · simp [div]
    · exact absurd rfl hz
  have hx := ne_nan_of_le_left h
  have hy := ne_nan_of_le_right h
  rcases y with ⟨b, y⟩ | ⟨_ | _⟩ | _
  · rcases x with ⟨a, x⟩ | ⟨_ | _⟩ | _
    · -- both finite: the rounding of the quotient is monotone
      have hq : (finite a x).toRat / (finite false m).toRat ≤ (finite b y).toRat / (finite false m).toRat :=
        div_le_div_of_nonneg_right (finite_le_finite_iff.1 h) (by simp [toRat, m.val_nonneg])
      exact le_iff_toExt.2 ⟨_, _, toExt_div a false x m hm, toExt_div b false y m hm,
        WithBot.coe_le_coe.1 (by simpa using roundExt_mono hq)⟩
    · simp [le_def, le] at h
    · exact inf_true_le (hdiv hy)
    · exact absurd rfl hx
  · exact le_inf_false (hdiv hx)
  · -- only `-inf` is below `-inf`
    rcases x with ⟨a, x⟩ | ⟨_ | _⟩ | _
    · simp [le_def, le] at h
    · simp [le_def, le] at h
    · exact inf_true_le (hdiv hy)
    · exact absurd rfl hx
  · exact absurd rfl hy

/-- Subtracting from a finite float is antitone. -/
theorem sub_le_sub_of_le {a x y : PyFloat} (ha : a.isFinite = true) (h : x ≤ y) :
    a.sub y ≤ a.sub x := by
  obtain ⟨s, m, rfl⟩ : ∃ s m, a = finite s m := by
    rcases a with ⟨s, m⟩ | _ | _ <;> simp_all [isFinite]
  have hsub : ∀ {z : PyFloat}, z ≠ nan → (finite s m).sub z ≠ nan := by
    rintro (⟨b, z⟩ | b | _) hz
    · exact ofExact_ne_nan _ _ _ _
    · simp [sub, add, neg]
    · exact absurd rfl hz
  have hx := ne_nan_of_le_left h
  have hy := ne_nan_of_le_right h
  rcases x with ⟨b, x⟩ | ⟨_ | _⟩ | _
  · rcases y with ⟨c, y⟩ | ⟨_ | _⟩ | _
    · -- both finite: the rounding of the difference is antitone in the subtrahend
      have hq : (finite s m).toRat + (finite (!c) y).toRat ≤ (finite s m).toRat + (finite (!b) x).toRat := by
        rw [toRat_neg, toRat_neg]; linarith [finite_le_finite_iff.1 h]
      exact le_iff_toExt.2 ⟨_, _, toExt_add s (!c) m y, toExt_add s (!b) m x,
        WithBot.coe_le_coe.1 (by simpa using roundExt_mono hq)⟩
    · exact inf_true_le (hsub hx)
    · simp [le_def, le] at h
    · exact absurd rfl hy
  · -- only `inf` is above `inf`
    rcases y with ⟨c, y⟩ | ⟨_ | _⟩ | _
    · simp [le_def, le] at h
    · exact inf_true_le (hsub hy)
    · simp [le_def, le] at h
    · exact absurd rfl hy
  · exact le_inf_false (hsub hy)
  · exact absurd rfl hx

end PyFloat

/-! ## §5 Python's checks -/

section Checks

open PyFloat

theorem Binary64.val_eq_zero_iff (x : Binary64) : x.val = 0 ↔ x.sig = 0 := by
  rw [Binary64.val, mul_eq_zero, or_iff_left (zpow_ne_zero _ two_ne_zero), Nat.cast_eq_zero]

/-- The exact quotient the rounding of `a / b` starts from. -/
theorem natAbs_div_natAbs (a b : ℤ) :
    (a.natAbs : ℚ) / b.natAbs * 2 ^ (0 : ℤ) = |(a : ℚ) / b| := by
  rw [zpow_zero, mul_one, abs_div, Int.cast_natAbs, Int.cast_natAbs, Int.cast_abs, Int.cast_abs]

/-- `a / b` of ints raises `ZeroDivisionError` for `b = 0` and `OverflowError` when the
quotient is past the overflow threshold; otherwise it returns `intQuotient a b`. -/
theorem intTrueDiv_eq (a b : ℤ) :
    intTrueDiv a b = if b = 0 then .error .zeroDivisionError
      else if overflowThreshold ≤ |(a : ℚ) / b| then .error .overflowError
      else .ok (intQuotient a b) := by
  unfold intTrueDiv intQuotient ofExact
  by_cases hb : b = 0
  · simp [hb]
  have key := Binary64.round_eq_none_iff (n := a.natAbs) (Int.natAbs_pos.2 hb) (e := 0)
  rw [natAbs_div_natAbs, two_pow_le_roundMag_iff (abs_nonneg _)] at key
  rw [if_neg hb, if_neg hb]
  cases h : Binary64.round a.natAbs b.natAbs 0 with
  | none => simp [key.1 h]
  | some m =>
    have : ¬overflowThreshold ≤ |(a : ℚ) / b| := fun hc => by rw [key.2 hc] at h; cases h
    simp [this]

theorem intTrueDiv_isOk_iff (a b : ℤ) :
    IsOk (intTrueDiv a b) ↔ b ≠ 0 ∧ |(a : ℚ) / b| < overflowThreshold := by
  rw [intTrueDiv_eq]
  by_cases hb : b = 0
  · simp [hb]
  by_cases ho : overflowThreshold ≤ |(a : ℚ) / b| <;> simp [hb, ho, not_le.1]

/-- The sign `long_true_divide` gives a quotient of non-zero ints is the sign of the
quotient. -/
private theorem xor_sign_iff {a b : ℤ} (ha : a ≠ 0) (hb : b ≠ 0) :
    (decide (a < 0) != decide (b < 0)) = true ↔ (a : ℚ) / b < 0 := by
  rw [div_neg_iff, Int.cast_pos, Int.cast_pos, Int.cast_lt_zero, Int.cast_lt_zero]
  rcases lt_or_gt_of_ne ha with ha | ha <;> rcases lt_or_gt_of_ne hb with hb | hb <;>
    simp [ha, hb, not_lt.2 ha.le, not_lt.2 hb.le]

/-- The quotient of ints is the rounding of the exact quotient on the extended line. -/
theorem toExt_intQuotient (a : ℤ) {b : ℤ} (hb : b ≠ 0) :
    (intQuotient a b).toExt = some (roundExt ((a : ℚ) / b)) := by
  rw [intQuotient, toExt_ofExact _ _ (Int.natAbs_pos.2 hb), natAbs_div_natAbs]
  congr 2
  by_cases ha : a = 0
  · simp [ha]
  by_cases hq : (a : ℚ) / b < 0
  · rw [if_pos ((xor_sign_iff ha hb).2 hq), abs_of_neg hq, neg_neg]
  · rw [if_neg (mt (xor_sign_iff ha hb).1 hq), abs_of_nonneg (not_lt.1 hq)]

/-- The quotient of ints is `±0.0` exactly when the exact quotient is at most `2 ^ -1075`. -/
theorem isZero_intQuotient (a : ℤ) {b : ℤ} (hb : b ≠ 0) :
    (intQuotient a b).isZero ↔ |(a : ℚ) / b| ≤ 2 ^ (-1075 : ℤ) := by
  rw [← natAbs_div_natAbs, ← roundMag_eq_zero_iff (by positivity)]
  unfold intQuotient ofExact
  rcases Binary64.round_cases a.natAbs (Int.natAbs_pos.2 hb) 0 with ⟨m, hm, hv⟩ | ⟨hm, hov⟩
  · rw [hm, ← hv, Binary64.val_eq_zero_iff]
    simp [isZero]
  · rw [hm]
    simp only [isZero, Bool.false_eq_true, false_iff]
    intro h0
    rw [h0] at hov
    norm_num at hov

theorem ofInt_eq_intQuotient (z : ℤ) : ofInt z = intQuotient z 1 := by
  simp [ofInt, intQuotient]

/-- A non-zero int is a non-zero float. -/
theorem isZero_ofInt {z : ℤ} (hz : z ≠ 0) : (ofInt z).isZero = false := by
  rw [ofInt_eq_intQuotient, Bool.eq_false_iff, ne_eq, isZero_intQuotient z one_ne_zero,
    Int.cast_one, div_one, not_le]
  have h1 : (1 : ℚ) ≤ |(z : ℚ)| := by exact_mod_cast Int.one_le_abs hz
  have h2 : (2 : ℚ) ^ (-1075 : ℤ) < 1 := by norm_num
  linarith

/-- A float above `0.0` is not zero. -/
theorem isZero_eq_false_of_zero_lt {x : PyFloat} (h : zero < x) : x.isZero = false := by
  cases x with
  | finite s m =>
    obtain ⟨u, v, hu, hv, huv⟩ := lt_iff_toExt.1 h
    simp only [isZero, beq_eq_false_iff_ne, ne_eq]
    intro h0
    simp [toExt, zero, Binary64.zero, Binary64.val, h0] at hu hv
    subst hu hv
    exact lt_irrefl _ huv
  | inf s => rfl
  | nan => rfl

/-- A positive finite float is above `0.0`. -/
theorem zero_lt_of_isPosFinite {x : PyFloat} (h : x.isPosFinite = true) : zero < x := by
  obtain ⟨m, rfl, hm⟩ : ∃ m, x = finite false m ∧ m.sig ≠ 0 := by
    rcases x with ⟨_ | _, m⟩ | _ | _ <;> simp_all [isPosFinite]
  show (finite false Binary64.zero).lt (finite false m) = true
  simp only [lt, signedAt_lt_iff, decide_eq_true_eq, toRat, Bool.false_eq_true, if_false]
  exact lt_of_le_of_ne m.val_nonneg (Ne.symm fun h0 => hm ((Binary64.val_eq_zero_iff m).1 h0)) |>.trans_le' (by simp [Binary64.val, Binary64.zero])

/-- `float(0)` is `0.0`, on the extended line. -/
theorem toExt_ofInt_zero : (ofInt 0).toExt = zero.toExt := by
  rw [ofInt, toExt_ofExact _ _ one_pos]
  simp [roundExt, toExt, zero, Binary64.zero, Binary64.val]

/-- A positive finite float fails the check `x <= 0`. -/
theorem not_le_ofInt_zero {x : PyFloat} (h : x.isPosFinite = true) : ¬x ≤ ofInt 0 := by
  intro hle
  obtain ⟨u, v, hu, hv, huv⟩ := lt_iff_toExt.1 (lt_of_lt_of_le (zero_lt_of_isPosFinite h) hle)
  rw [toExt_ofInt_zero, hu] at hv
  cases hv
  exact lt_irrefl _ huv

/-- An int of at most 53 bits is a float exactly. -/
theorem toExt_ofInt {z : ℤ} (hz : z.natAbs < 2 ^ 53) :
    (ofInt z).toExt = some (((z : ℚ) : WithTop ℚ) : WithBot (WithTop ℚ)) := by
  have habs : |(z : ℚ)| = (z.natAbs : ℚ) * 2 ^ (0 : ℤ) := by
    rw [zpow_zero, mul_one, Int.cast_natAbs, Int.cast_abs]
  have hlt : ¬(2 : ℚ) ^ 1024 ≤ |(z : ℚ)| := by
    rw [habs, zpow_zero, mul_one, not_le]
    calc (z.natAbs : ℚ) < 2 ^ 53 := by exact_mod_cast hz
      _ < 2 ^ 1024 := by norm_num
  rw [ofInt, toExt_ofExact _ _ one_pos, signed_natAbs _ z (fun _ => rfl), zpow_zero, mul_one]
  unfold roundExt
  rw [habs, roundMag_natCast_mul hz (by norm_num), ← habs, if_neg hlt]
  split_ifs with h
  · rw [abs_of_neg h, neg_neg]
  · rw [abs_of_nonneg (not_lt.1 h)]

/-- A decimal literal is the rounding of its value. -/
theorem toExt_ofDecimal (m : ℕ) (x : ℤ) :
    (ofDecimal m x).toExt =
      some (roundExt (((m * 10 ^ x.toNat : ℕ) : ℚ) / ((10 ^ (-x).toNat : ℕ) : ℚ))) := by
  rw [ofDecimal, toExt_ofExact _ _ (by positivity)]
  simp only [Bool.false_eq_true, if_false, zpow_zero, mul_one]

/-- Decimal literals are ordered as their values. -/
theorem ofDecimal_le_ofDecimal {m m' : ℕ} {x x' : ℤ}
    (h : ((m * 10 ^ x.toNat : ℕ) : ℚ) / ((10 ^ (-x).toNat : ℕ) : ℚ) ≤
      ((m' * 10 ^ x'.toNat : ℕ) : ℚ) / ((10 ^ (-x').toNat : ℕ) : ℚ)) :
    ofDecimal m x ≤ ofDecimal m' x' :=
  le_iff_toExt.2 ⟨_, _, toExt_ofDecimal m x, toExt_ofDecimal m' x', roundExt_mono h⟩

@[simp] theorem trueDiv_of_not_isZero {x y : PyFloat} (hy : y.isZero = false) :
    x.trueDiv y = .ok (x.div y) := by
  simp [trueDiv, hy]

/-- The truncation toward zero of a rational, what `int(x)` computes of a finite float. -/
def truncToInt (x : ℚ) : ℤ := if 0 ≤ x then ⌊x⌋ else ⌈x⌉

theorem truncToInt_of_nonneg {x : ℚ} (h : 0 ≤ x) : truncToInt x = ⌊x⌋ := if_pos h

theorem truncToInt_neg_iff (x : ℚ) : truncToInt x < 0 ↔ x ≤ -1 := by
  unfold truncToInt
  split_ifs with h
  · have := Int.floor_nonneg.2 h
    constructor <;> intro <;> first | omega | linarith
  · rw [Int.ceil_lt_iff]
    push_cast
    constructor <;> intro <;> linarith

theorem truncToInt_eq_zero_iff (x : ℚ) : truncToInt x = 0 ↔ -1 < x ∧ x < 1 := by
  unfold truncToInt
  split_ifs with h
  · rw [Int.floor_eq_iff]
    push_cast
    constructor <;> rintro ⟨h1, h2⟩ <;> constructor <;> linarith
  · rw [Int.ceil_eq_iff]
    push_cast
    constructor <;> rintro ⟨h1, h2⟩ <;> constructor <;> linarith

/-- `int(x)` of a float (`float___trunc___impl`): `±sig * 2 ^ exp` truncated toward zero on
integers; `ValueError` for `nan` and `OverflowError` for an infinity. -/
def floatTrunc : PyFloat → Except PyExc ℤ
  | .finite s m =>
    let mag : ℕ := if 0 ≤ m.exp then m.sig * 2 ^ m.exp.toNat else m.sig / 2 ^ (-m.exp).toNat
    .ok (if s then -(mag : ℤ) else mag)
  | .inf _ => .error .overflowError
  | .nan => .error .valueError

/-- The integer `int(x)` computes is the truncation of the float's value. -/
theorem floatTrunc_finite (s : Bool) (m : Binary64) :
    floatTrunc (.finite s m) = .ok (truncToInt (PyFloat.finite s m).toRat) := by
  have hfloor : ⌊m.val⌋ = ((if 0 ≤ m.exp then m.sig * 2 ^ m.exp.toNat
      else m.sig / 2 ^ (-m.exp).toNat : ℕ) : ℤ) := by
    split_ifs with he
    · have hv : m.val = ((m.sig * 2 ^ m.exp.toNat : ℕ) : ℚ) := by
        rw [Binary64.val, ← Int.toNat_of_nonneg he, zpow_natCast, Int.toNat_natCast]
        push_cast
        rfl
      rw [hv, Int.floor_natCast]
    · obtain ⟨k, hk⟩ : ∃ k : ℕ, m.exp = -(k : ℤ) := ⟨(-m.exp).toNat, by omega⟩
      have hv : m.val = ((m.sig : ℕ) : ℚ) / ((2 ^ k : ℕ) : ℚ) := by
        rw [Binary64.val, hk, zpow_neg, zpow_natCast, div_eq_mul_inv]
        push_cast
        rfl
      rw [hv, Rat.floor_natCast_div_natCast, hk, neg_neg, Int.toNat_natCast, Int.natCast_div]
  rw [floatTrunc, ← hfloor]
  congr 1
  cases s
  · simp only [toRat, Bool.false_eq_true, if_false]
    rw [truncToInt_of_nonneg m.val_nonneg]
  · simp only [toRat, if_true]
    unfold truncToInt
    by_cases h : 0 ≤ -m.val
    · have h0 : m.val = 0 := le_antisymm (by linarith) m.val_nonneg
      rw [if_pos h, h0, neg_zero, Int.floor_zero, neg_zero]
    · rw [if_neg h, Int.ceil_neg]

/-- `format` prints the exact value of the float rounded half to even. -/
theorem formatFixed_finite (s : Bool) (m : Binary64) (p : ℕ) :
    formatFixed (.finite s m) p =
      ⟨(if s then ['-'] else []) ++ fixedPointDigits (roundHalfEven (m.val * 10 ^ p)).toNat p⟩ := by
  have hq : m.val * 10 ^ p = ((scaleFrac (m.sig * 10 ^ p) 1 m.exp).1 : ℚ) /
      (scaleFrac (m.sig * 10 ^ p) 1 m.exp).2 := by
    rw [scaleFrac_div, Binary64.val]; push_cast; ring
  rw [hq, roundHalfEven_natCast_div _ _ (scaleFrac_pos one_pos _), Int.toNat_natCast]
  rfl

end Checks

/-! ## §6 The interpreter -/

/-- What the modelled code takes from the interpreter that differs between CPython versions
and configurations. -/
structure CPython where
  /-- `sys.get_int_max_str_digits()`: the most decimal digits `int(s)` reads and `str(n)`
  writes, `0` for no limit; `4300` by default from CPython 3.11 (and 3.10.7, 3.9.14, 3.8.14,
  3.7.14), no limit before. -/
  intMaxStrDigits : ℕ
  /-- `sys.set_int_max_str_digits` accepts `0` and the limits from 640 on. -/
  intMaxStrDigits_valid : intMaxStrDigits = 0 ∨ 640 ≤ intMaxStrDigits
  /-- How many lists and dicts, one inside another, `json.loads` reads before the
  `Py_EnterRecursiveCall` of its scanner raises `RecursionError`: the recursion limit less
  the frames already on the stack where the SDK calls it. -/
  loadsDepth : ℕ
  /-- The same for the encoder of `json.dumps`. -/
  dumpsDepth : ℕ
  /-- `sum(xs)` of a list of floats: IEEE additions left to right from `0` up to CPython
  3.11, compensated (Neumaier) summation from 3.12. -/
  floatSum : List PyFloat → PyFloat
  /-- `Py_UNICODE_TODECIMAL` of a character from U+007F on: the digit a Unicode decimal digit
  stands for in the interpreter's Unicode database, `none` for any other character. -/
  decimalValue : Char → Option (Fin 10)

/-- The first code points of the runs of ten decimal digits (general category `Nd`) of
Unicode 14.0, from U+007F on. -/
def unicode14DecimalRuns : List ℕ :=
  [0x0660, 0x06F0, 0x07C0, 0x0966, 0x09E6, 0x0A66, 0x0AE6, 0x0B66, 0x0BE6, 0x0C66, 0x0CE6,
   0x0D66, 0x0DE6, 0x0E50, 0x0ED0, 0x0F20, 0x1040, 0x1090, 0x17E0, 0x1810, 0x1946, 0x19D0,
   0x1A80, 0x1A90, 0x1B50, 0x1BB0, 0x1C40, 0x1C50, 0xA620, 0xA8D0, 0xA900, 0xA9D0, 0xA9F0,
   0xAA50, 0xABF0, 0xFF10, 0x104A0, 0x10D30, 0x11066, 0x110F0, 0x11136, 0x111D0, 0x112F0,
   0x11450, 0x114D0, 0x11650, 0x116C0, 0x11730, 0x118E0, 0x11950, 0x11C50, 0x11D50, 0x11DA0,
   0x16A60, 0x16AC0, 0x16B50, 0x1D7CE, 0x1D7D8, 0x1D7E2, 0x1D7EC, 0x1D7F6, 0x1E140, 0x1E2F0,
   0x1E950, 0x1FBF0]

/-- CPython 3.11 with its defaults: the 4300-digit limit, the recursion limit of 1000 with the
JSON calls ten frames deep, `sum` adding floats left to right from `0.0`, and the Unicode 14.0
database. -/
def CPython.v311 : CPython where
  intMaxStrDigits := 4300
  intMaxStrDigits_valid := .inr (by decide)
  loadsDepth := 990
  dumpsDepth := 990
  floatSum xs := xs.foldl PyFloat.add PyFloat.zero
  decimalValue c := (unicode14DecimalRuns.find? fun s => s ≤ c.toNat ∧ c.toNat < s + 10).map
    fun s => Fin.ofNat (c.toNat - s)

end ShardX.Python
