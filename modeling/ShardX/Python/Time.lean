import ShardX.Python.Float

/-!
# Python Time: `time.sleep` and the Clock

`time.sleep(secs)` (CPython 3.11, `Modules/timemodule.c`) first converts `secs` to a
`_PyTime_t`, a signed 64-bit count of nanoseconds, and only then checks its sign:

- an `int` is read by `PyLong_AsLongLong` and multiplied by `10 ** 9` under
  `_PyTime_check_mul_overflow`: `OverflowError` below `_PyTime_MIN / 10 ** 9` or above
  `_PyTime_MAX / 10 ** 9`, the C quotients `-9223372036` and `9223372036`;
- a `float` raises `ValueError` for `nan`; otherwise it is multiplied by `1e9` as a double,
  rounded away from zero (`_PyTime_ROUND_TIMEOUT`), and raises `OverflowError` outside
  `-2 ** 63 ≤ d < 2 ** 63`, `inf` included;
- a negative count then raises `ValueError("sleep length must be non-negative")`.

So `time.sleep(10 ** 10)` raises `OverflowError`, as does `time.sleep(1e10)`.

`time.time()` is a double; the clocks of the modelled loops are sequences of such readings,
parameters of the loops. A difference of readings is compared with an `int` timeout by
`float_richcompare`, which compares the exact values (`PyFloat.ltInt`).

Main results:
- `timeSleep_int`: the outcome of sleeping an `int` number of seconds;
- `timeSleep_error`: `time.sleep` raises only `OverflowError` and `ValueError`;
- `intToFloat_two_pow`: `float(2 ** i)` raises `OverflowError` exactly from `i = 1024` on.
-/

namespace ShardX.Python

/-! ## §1 Numbers -/

/-- A Python number handed to `time.sleep`: an `int` or a `float`. -/
inductive PyNum where
  | int (n : ℤ)
  | float (x : PyFloat)
  deriving DecidableEq, Repr

/-- `pytime_round(d, _PyTime_ROUND_UP)` of the finite double `±sig * 2 ^ exp`: away from zero,
the magnitude rounded up on integers. -/
def roundAwayFromZero (s : Bool) (m : Binary64) : ℤ :=
  let mag : ℕ :=
    if 0 ≤ m.exp then m.sig * 2 ^ m.exp.toNat
    else (m.sig + 2 ^ (-m.exp).toNat - 1) / 2 ^ (-m.exp).toNat
  if s then -(mag : ℤ) else mag

/-- `_PyTime_FromSecondsObject(&t, secs, _PyTime_ROUND_TIMEOUT)`: the nanoseconds of a
number of seconds, as a `_PyTime_t`. -/
def pytimeFromSeconds : PyNum → Except PyExc ℤ
  | .int n =>
    if n < -9223372036 ∨ 9223372036 < n then .error .overflowError else .ok (n * 1000000000)
  | .float .nan => .error .valueError
  | .float x =>
    match x.mul (.ofInt 1000000000) with
    | .finite s m =>
      let t := roundAwayFromZero s m
      if -2 ^ 63 ≤ t ∧ t < 2 ^ 63 then .ok t else .error .overflowError
    | _ => .error .overflowError

/-- `time.sleep(secs)`: the conversion, then the sign check. The sleep itself changes nothing
the model observes. -/
def timeSleep (secs : PyNum) : Except PyExc Unit := do
  let t ← pytimeFromSeconds secs
  if t < 0 then .error .valueError else pure ()

/-- `x < n` for a float and an int, on their exact values (`float_richcompare`); `nan`
compares false. A finite float is `±sig * 2 ^ exp`, compared on integers. -/
def PyFloat.ltInt (x : PyFloat) (n : ℤ) : Bool :=
  match x with
  | .finite s m =>
    if 0 ≤ m.exp then decide (PyFloat.signedAt s m 0 < n)
    else decide (PyFloat.signedAt s m m.exp < n * 2 ^ (-m.exp).toNat)
  | .inf s => s
  | .nan => false

/-! ## §2 What `time.sleep` raises -/

theorem pytimeFromSeconds_int (n : ℤ) : pytimeFromSeconds (.int n) =
    if n < -9223372036 ∨ 9223372036 < n then .error .overflowError else .ok (n * 1000000000) :=
  rfl

theorem timeSleep_int (n : ℤ) :
    timeSleep (.int n) =
      if n < -9223372036 ∨ 9223372036 < n then .error .overflowError
      else if n < 0 then .error .valueError else .ok () := by
  rw [timeSleep, pytimeFromSeconds_int]
  by_cases h₁ : n < -9223372036 ∨ 9223372036 < n
  · rw [if_pos h₁, if_pos h₁]
    rfl
  · rw [if_neg h₁, if_neg h₁, except_ok_bind]
    by_cases h₂ : n < 0
    · rw [if_pos h₂, if_pos (by omega)]
    · rw [if_neg h₂, if_neg (by omega)]
      rfl

/-- An `int` number of seconds sleeps exactly from `0` to `9223372036`. -/
theorem timeSleep_int_eq_ok_iff (n : ℤ) : timeSleep (.int n) = .ok () ↔ 0 ≤ n ∧ n ≤ 9223372036 := by
  rw [timeSleep_int]
  split_ifs <;> simp <;> omega

theorem pytimeFromSeconds_error {secs : PyNum} {e : PyExc} (h : pytimeFromSeconds secs = .error e) :
    e = .overflowError ∨ e = .valueError := by
  unfold pytimeFromSeconds at h
  split at h
  · split_ifs at h
    cases h
    exact .inl rfl
  · cases h; exact .inr rfl
  · split at h
    · dsimp only at h
      split_ifs at h
      cases h
      exact .inl rfl
    · cases h; exact .inl rfl

/-- `time.sleep` raises only `OverflowError`, for a duration past the nanosecond count, and
`ValueError`, for `nan` and for a negative duration. -/
theorem timeSleep_error {secs : PyNum} {e : PyExc} (h : timeSleep secs = .error e) :
    e = .overflowError ∨ e = .valueError := by
  unfold timeSleep at h
  cases ht : pytimeFromSeconds secs with
  | error e' =>
    rw [ht] at h
    cases h
    exact pytimeFromSeconds_error ht
  | ok t =>
    rw [ht] at h
    dsimp only [bind, Except.bind] at h
    split_ifs at h <;> cases h
    exact .inr rfl

example : timeSleep (.int (10 ^ 10)) = .error .overflowError := rfl

/-! ## §3 `float(2 ** i)` -/

theorem overflowThreshold_lt_two_pow : overflowThreshold < 2 ^ 1024 := by
  unfold overflowThreshold; norm_num

theorem two_pow_lt_overflowThreshold {i : ℕ} (hi : i < 1024) : (2 : ℚ) ^ i < overflowThreshold := by
  calc (2 : ℚ) ^ i ≤ 2 ^ 1023 := pow_le_pow_right₀ (by norm_num) (by omega)
    _ < overflowThreshold := by unfold overflowThreshold; norm_num

/-- A conversion of an int that returns gives the nearest float. -/
theorem intToFloat_eq_ok {z : ℤ} {x : PyFloat} (h : intToFloat z = .ok x) : x = .ofInt z := by
  unfold intToFloat at h
  unfold PyFloat.ofInt PyFloat.ofExact
  cases hr : Binary64.round z.natAbs 1 0 with
  | none => rw [hr] at h; cases h
  | some m => rw [hr] at h; exact (Except.ok.inj h).symm

/-- The int `2 ** i` converts to a float (`PyLong_AsDouble`) exactly below `i = 1024`. -/
theorem intToFloat_two_pow (i : ℕ) :
    IsOk (intToFloat (2 ^ i)) ↔ i < 1024 := by
  have key := Binary64.round_eq_none_iff (n := (2 ^ i : ℤ).natAbs) one_pos (e := 0)
  rw [two_pow_le_roundMag_iff (by positivity)] at key
  have hv : ((2 ^ i : ℤ).natAbs : ℚ) / (1 : ℕ) * 2 ^ (0 : ℤ) = 2 ^ i := by
    rw [Int.natAbs_pow]
    simp
  rw [hv] at key
  unfold intToFloat
  constructor
  · intro h
    by_contra hi
    have hle : overflowThreshold ≤ (2 : ℚ) ^ i :=
      overflowThreshold_lt_two_pow.le.trans (pow_le_pow_right₀ (by norm_num) (by omega))
    rw [key.2 hle] at h
    exact not_isOk_error _ h
  · intro hi
    cases h : Binary64.round (2 ^ i : ℤ).natAbs 1 0 with
    | none => exact absurd (key.1 h) (not_le.2 (two_pow_lt_overflowThreshold hi))
    | some m => exact ⟨_, rfl⟩

end ShardX.Python
