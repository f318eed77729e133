import ShardX.Python.Codecs
import ShardX.Python.Time

/-!
# SDK Utilities: Hex and UTF-8

`hex_to_utf8` and `utf8_to_hex` of `shardx_sdk/utils.py`. The first runs
`binascii.unhexlify(hex_str).decode('utf-8')` under a bare `except` that hands the argument
back unchanged, so a string that is not even-length hex of well-formed UTF-8 is its own
result; the second is `binascii.hexlify(utf8_str.encode('utf-8')).decode('ascii')`.

Main result: `hex_utf8_round_trip`. Every string survives `utf8_to_hex` then
`hex_to_utf8`; the strings `utf8_to_hex` writes are exactly the lowercase hex of the byte
sequences the strict decoder accepts, and each survives the converse trip.

`retry` (§2) is modelled by what it does, as a trace: each call of `fn` and each `sleep`, in
order, and how it ends. The outcomes of `fn`'s successive calls are a parameter, any
sequence of them, and so is which of `fn`'s exceptions `except Exception` catches (the
others, such as `KeyboardInterrupt`, go straight through). The delay
`initial_delay * (2 ** i)` is an `int` for an `int` delay; for a `float` one, `2 ** i` is
converted to a double, which raises `OverflowError` from `i = 1024` on, and the product is a
double. `time.sleep` then raises `OverflowError` past about `9.2e9` seconds and `ValueError`
for a negative delay or `nan` (`timeSleep`). `retry_trace` describes every run: a sleep of
the delay follows every caught failure of call `i`, the last one included, and the run ends
with the first success or uncaught exception, with the first delay that raises, or else with
the last exception. With `max_retries <= 0`, `raise None` raises `TypeError`
(`retry_sleeps_after_last_failure`).
-/

namespace ShardX.Sdk

open ShardX.Python

/-- `hex_to_utf8`. -/
def hexToUtf8 (hexStr : String) : String :=
  match unhexlify hexStr.toList >>= utf8Decode with
  | some cs => String.mk cs
  | none => hexStr

/-- `utf8_to_hex`. -/
def utf8ToHex (utf8Str : String) : String := String.mk (hexlify (utf8Encode utf8Str.toList))

/-- Decoding the hex of well-formed UTF-8 gives the string it encodes. -/
theorem hexToUtf8_hexlify {bs : List ℕ} {cs : List Char} (h : utf8Decode bs = some cs) :
    hexToUtf8 (String.mk (hexlify bs)) = String.mk cs := by
  have hbs : ∀ b ∈ bs, b < 256 := utf8Encode_of_decode h ▸ utf8Encode_lt_256 cs
  simp [hexToUtf8, unhexlify_hexlify hbs, h]

theorem hexToUtf8_utf8ToHex (s : String) : hexToUtf8 (utf8ToHex s) = s :=
  hexToUtf8_hexlify (utf8Decode_utf8Encode s.toList)

/-- What `utf8_to_hex` writes is the hex of a byte sequence the decoder accepts, and every
such hex is written for some string. -/
theorem utf8ToHex_image (h : String) :
    (∃ s, utf8ToHex s = h) ↔ ∃ bs, (utf8Decode bs).isSome ∧ h = String.mk (hexlify bs) := by
  constructor
  · rintro ⟨s, rfl⟩
    exact ⟨utf8Encode s.toList, by simp [utf8Decode_utf8Encode], rfl⟩
  · rintro ⟨bs, hbs, rfl⟩
    obtain ⟨cs, hcs⟩ := Option.isSome_iff_exists.1 hbs
    exact ⟨String.mk cs, by simp [utf8ToHex, utf8Encode_of_decode hcs]⟩

theorem utf8ToHex_hexToUtf8_hexlify {bs : List ℕ} (h : (utf8Decode bs).isSome) :
    utf8ToHex (hexToUtf8 (String.mk (hexlify bs))) = String.mk (hexlify bs) := by
  obtain ⟨cs, hcs⟩ := Option.isSome_iff_exists.1 h
  simp [hexToUtf8_hexlify hcs, utf8ToHex, utf8Encode_of_decode hcs]

/-- `hex_to_utf8` undoes `utf8_to_hex` on every string; `utf8_to_hex` writes exactly the
lowercase hex of well-formed UTF-8, and undoes `hex_to_utf8` there. -/
theorem hex_utf8_round_trip :
    (∀ s, hexToUtf8 (utf8ToHex s) = s) ∧
    (∀ h, (∃ s, utf8ToHex s = h) ↔ ∃ bs, (utf8Decode bs).isSome ∧ h = String.mk (hexlify bs)) ∧
    (∀ bs, (utf8Decode bs).isSome →
      utf8ToHex (hexToUtf8 (String.mk (hexlify bs))) = String.mk (hexlify bs)) :=
  ⟨hexToUtf8_utf8ToHex, utf8ToHex_image, fun _ => utf8ToHex_hexToUtf8_hexlify⟩

example : hexToUtf8 "C3A9" = "é" := by decide
example : hexToUtf8 "c3" = "c3" := by decide

/-! ## §2 `retry` -/

/-- What `retry` does that can be observed: a call of `fn`, or `sleep(seconds)` with the
number it is handed. -/
inductive RetryEvent where
  | call
  | sleep (seconds : PyNum)
  deriving DecidableEq, Repr

/-- How `retry` ends with an exception: one of `fn`'s, raised again, `TypeError` from
`raise None`, or an exception of the delay: `OverflowError` of `2 ** i` or of `time.sleep`,
`ValueError` of `time.sleep`. -/
inductive RetryError (ε : Type) where
  | raised (e : ε)
  | typeError
  | builtin (e : PyExc)
  deriving DecidableEq, Repr

/-- `initial_delay * (2 ** i)`: an `int` for an `int` delay; for a `float` delay `2 ** i` is
converted by `PyLong_AsDouble` and the product is a double. -/
def backoffDelay (initialDelay : PyNum) (i : ℕ) : Except PyExc PyNum :=
  match initialDelay with
  | .int n => .ok (.int (n * 2 ^ i))
  | .float x => (intToFloat (2 ^ i)).map fun p => .float (x.mul p)

/-- The delay after call `i`, computed and slept: `sleep(delay)` in the loop. -/
def backoffSleep (initialDelay : PyNum) (i : ℕ) : Except PyExc PyNum := do
  let delay ← backoffDelay initialDelay i
  (timeSleep delay).map fun _ => delay

/-- The value of `initial_delay * (2 ** i)` when it converts. -/
def delayAfter : PyNum → ℕ → PyNum
  | .int n, i => .int (n * 2 ^ i)
  | .float x, i => .float (x.mul (.ofInt (2 ^ i)))

section Retry

variable {ε α : Type} (caught : ε → Bool) (initialDelay : PyNum) (outcome : ℕ → Except ε α)

/-- The loop `for i in range(max_retries)` from iteration `i`, with `k` iterations left and
`last_exception = last`. Call `i` of `fn` (counting from `0`) has outcome `outcome i`. -/
def retryLoop : ℕ → ℕ → Option ε → List RetryEvent × Except (RetryError ε) α
  | _, 0, last => ([], .error (match last with
      | some e => .raised e
      | none => .typeError))
  | i, k + 1, _ =>
    match outcome i with
    | .ok a => ([.call], .ok a)
    | .error e =>
      if caught e then
        match backoffSleep initialDelay i with
        | .error x => ([.call], .error (.builtin x))
        | .ok delay =>
          let rest := retryLoop (i + 1) k (some e)
          (.call :: .sleep delay :: rest.1, rest.2)
      else ([.call], .error (.raised e))

/-- A call whose exception `except Exception` catches. -/
def CaughtFailure (x : Except ε α) : Prop := ∃ e, x = .error e ∧ caught e = true

/-- The delay after call `i` converts, and `time.sleep` accepts it. -/
def SleepsAfter (i : ℕ) : Prop :=
  backoffDelay initialDelay i = .ok (delayAfter initialDelay i) ∧
    timeSleep (delayAfter initialDelay i) = .ok ()

/-- The trace of `m` caught failures from call `i`: each call followed by its sleep. -/
def failedCalls (i m : ℕ) : List RetryEvent :=
  (List.range' i m).flatMap fun j => [.call, .sleep (delayAfter initialDelay j)]

theorem backoffSleep_of_sleepsAfter {i : ℕ} (h : SleepsAfter initialDelay i) :
    backoffSleep initialDelay i = .ok (delayAfter initialDelay i) := by
  rw [backoffSleep, h.1, except_ok_bind, h.2]
  rfl

theorem retryLoop_caught {i k : ℕ} {last : Option ε} {e : ε} {delay : PyNum}
    (ho : outcome i = .error e) (hc : caught e = true)
    (hs : backoffSleep initialDelay i = .ok delay) :
    retryLoop caught initialDelay outcome i (k + 1) last =
      (.call :: .sleep delay :: (retryLoop caught initialDelay outcome (i + 1) k (some e)).1,
        (retryLoop caught initialDelay outcome (i + 1) k (some e)).2) := by
  rw [retryLoop, ho]
  simp only [hc, if_true, hs]

/-- A delay that raises ends the loop with its exception, right after the call. -/
theorem retryLoop_sleep_error {i k : ℕ} {last : Option ε} {e : ε} {x : PyExc}
    (ho : outcome i = .error e) (hc : caught e = true)
    (hs : backoffSleep initialDelay i = .error x) :
    retryLoop caught initialDelay outcome i (k + 1) last = ([.call], .error (.builtin x)) := by
  rw [retryLoop, ho]
  simp only [hc, if_true, hs]

/-- A call that succeeds or raises what `except Exception` does not catch ends the loop. -/
theorem retryLoop_stop {i k : ℕ} {last : Option ε} (hs : ¬CaughtFailure caught (outcome i)) :
    retryLoop caught initialDelay outcome i (k + 1) last =
      ([.call], (outcome i).mapError .raised) := by
  rw [retryLoop]
  cases ho : outcome i with
  | ok a => rfl
  | error e =>
    have hc : caught e = false := by simpa [CaughtFailure, ho] using hs
    simp [hc, Except.mapError]

theorem failedCalls_succ (i m : ℕ) :
    failedCalls initialDelay i (m + 1) =
      .call :: .sleep (delayAfter initialDelay i) :: failedCalls initialDelay (i + 1) m := by
  simp [failedCalls, List.range'_succ]

theorem failedCalls_concat (i m : ℕ) :
    failedCalls initialDelay i (m + 1) =
      failedCalls initialDelay i m ++ [.call, .sleep (delayAfter initialDelay (i + m))] := by
  simp [failedCalls, List.range'_concat]

/-- `m` caught failures from call `i`, each followed by a sleep that returns, leave a sleep
after each call and hand the loop on to call `i + m`. -/
theorem retryLoop_prefix : ∀ {m i k : ℕ} {l : Option ε},
    (∀ j, i ≤ j → j < i + m → CaughtFailure caught (outcome j) ∧ SleepsAfter initialDelay j) →
    ∃ l', retryLoop caught initialDelay outcome i (m + k) l =
      (failedCalls initialDelay i m ++ (retryLoop caught initialDelay outcome (i + m) k l').1,
        (retryLoop caught initialDelay outcome (i + m) k l').2)
  | 0, i, k, l, _ => ⟨l, by simp [failedCalls]⟩
  | m + 1, i, k, l, hf => by
    obtain ⟨⟨e, ho, hc⟩, hs⟩ := hf i le_rfl (by omega)
    obtain ⟨l', ih⟩ := retryLoop_prefix (m := m) (i := i + 1) (k := k) (l := some e)
      fun j h₁ h₂ => hf j (by omega) (by omega)
    refine ⟨l', ?_⟩
    rw [show m + 1 + k = m + k + 1 by omega,
      retryLoop_caught caught initialDelay outcome ho hc (backoffSleep_of_sleepsAfter _ hs), ih,
      failedCalls_succ, show i + 1 + m = i + (m + 1) by omega]
    rfl

end Retry

/-- `retry(fn, max_retries, initial_delay)`: call `j` of `fn` has outcome `outcome j`, and
`caught` tells the exceptions `except Exception` catches. -/
def retry {ε α : Type} (caught : ε → Bool) (outcome : ℕ → Except ε α) (maxRetries : ℤ := 3)
    (initialDelay : PyNum := .float (.ofInt 1)) : List RetryEvent × Except (RetryError ε) α :=
  retryLoop caught initialDelay outcome 0 maxRetries.toNat none

section RetryRuns

variable {ε α : Type} (caught : ε → Bool) (initialDelay : PyNum) (outcome : ℕ → Except ε α)

/-- Every run of `retry`. If calls `0 … m-1` fail with exceptions `except Exception` catches,
each followed by a sleep that returns, then the run is those calls with their sleeps and call
`m < max_retries`: whose result or uncaught exception `retry` hands on, or, when call `m`
fails so too and its delay raises, that exception. If all `max_retries ≥ 1` calls fail so and
every sleep returns, every call is followed by its sleep, the last one included, and `retry`
raises the last exception. -/
theorem retry_trace (n : ℕ) :
    (∀ m, m < n → (∀ j < m, CaughtFailure caught (outcome j) ∧ SleepsAfter initialDelay j) →
      ¬CaughtFailure caught (outcome m) →
      retry caught outcome n initialDelay =
        (failedCalls initialDelay 0 m ++ [.call], (outcome m).mapError .raised)) ∧
    (∀ m x, m < n → (∀ j < m, CaughtFailure caught (outcome j) ∧ SleepsAfter initialDelay j) →
      CaughtFailure caught (outcome m) → backoffSleep initialDelay m = .error x →
      retry caught outcome n initialDelay =
        (failedCalls initialDelay 0 m ++ [.call], .error (.builtin x))) ∧
    (∀ e, 0 < n → (∀ j < n, CaughtFailure caught (outcome j) ∧ SleepsAfter initialDelay j) →
      outcome (n - 1) = .error e → caught e = true →
      retry caught outcome n initialDelay =
        (failedCalls initialDelay 0 n, .error (.raised e))) := by
  refine ⟨fun m hm hf hs => ?_, fun m x hm hf ⟨e, ho, hc⟩ hx => ?_, fun e hn hf ho hc => ?_⟩
  · obtain ⟨k, rfl⟩ : ∃ k, n = m + (k + 1) := ⟨n - m - 1, by omega⟩
    obtain ⟨l', h⟩ := retryLoop_prefix caught initialDelay outcome (i := 0) (k := k + 1)
      (l := none) (m := m) fun j _ hj => hf j (by omega)
    rw [retry, Int.toNat_natCast, h, Nat.zero_add, retryLoop_stop caught initialDelay outcome hs]
  · obtain ⟨k, rfl⟩ : ∃ k, n = m + (k + 1) := ⟨n - m - 1, by omega⟩
    obtain ⟨l', h⟩ := retryLoop_prefix caught initialDelay outcome (i := 0) (k := k + 1)
      (l := none) (m := m) fun j _ hj => hf j (by omega)
    rw [retry, Int.toNat_natCast, h, Nat.zero_add,
      retryLoop_sleep_error caught initialDelay outcome ho hc hx]
  · obtain ⟨m, rfl⟩ : ∃ m, n = m + 1 := ⟨n - 1, by omega⟩
    obtain ⟨l', h⟩ := retryLoop_prefix caught initialDelay outcome (i := 0) (k := 1)
      (l := none) (m := m) fun j _ hj => hf j (by omega)
    rw [Nat.add_sub_cancel] at ho
    rw [retry, Int.toNat_natCast, h, Nat.zero_add,
      retryLoop_caught caught initialDelay outcome ho hc
        (backoffSleep_of_sleepsAfter _ (hf m (by omega)).2), failedCalls_concat, Nat.zero_add]
    simp [retryLoop]

end RetryRuns

/-- An `int` delay sleeps after call `i` exactly when `initial_delay * 2 ** i` is between `0`
and `9223372036` seconds. -/
theorem sleepsAfter_int_iff (n : ℤ) (i : ℕ) :
    SleepsAfter (.int n) i ↔ 0 ≤ n * 2 ^ i ∧ n * 2 ^ i ≤ 9223372036 := by
  simp only [SleepsAfter, backoffDelay, delayAfter, true_and, timeSleep_int_eq_ok_iff]

/-- A `float` delay never sleeps after call `1024` or later: `float(2 ** i)` overflows. -/
theorem backoffSleep_float_overflow (x : PyFloat) {i : ℕ} (hi : 1024 ≤ i) :
    backoffSleep (.float x) i = .error .overflowError := by
  have h : ¬IsOk (intToFloat (2 ^ i)) := fun h => by
    have := (intToFloat_two_pow i).1 h
    omega
  cases hc : intToFloat (2 ^ i) with
  | ok p => exact absurd ⟨p, hc⟩ h
  | error e =>
    have he : e = .overflowError := by
      unfold intToFloat at hc
      split at hc <;> cases hc
      rfl
    rw [backoffSleep, backoffDelay, hc, he]
    rfl

/-- A run with three calls allowed and a delay of one second, whose first two calls raise: two
sleeps, of one and two seconds, between the three calls. -/
theorem retry_trace_third_call :
    (∀ j < 2, CaughtFailure (fun _ : PyExc => true)
        ((fun j => if j < 2 then (.error .valueError : Except PyExc Unit) else .ok ()) j) ∧
      SleepsAfter (.int 1) j) ∧
      ¬CaughtFailure (fun _ : PyExc => true)
        ((fun j => if j < 2 then (.error .valueError : Except PyExc Unit) else .ok ()) 2) ∧
      retry (fun _ : PyExc => true)
          (fun j => if j < 2 then (.error .valueError : Except PyExc Unit) else .ok ()) 3 (.int 1) =
        ([.call, .sleep (.int 1), .call, .sleep (.int 2), .call], .ok ()) := by
  have hf : ∀ j < 2, CaughtFailure (fun _ : PyExc => true)
      ((fun j => if j < 2 then (.error .valueError : Except PyExc Unit) else .ok ()) j) ∧
      SleepsAfter (.int 1) j := fun j hj =>
    ⟨⟨.valueError, by simp [hj], rfl⟩, (sleepsAfter_int_iff 1 j).2 (by
      obtain _ | _ | j := j
      · norm_num
      · norm_num
      · omega)⟩
  have hs : ¬CaughtFailure (fun _ : PyExc => true)
      ((fun j => if j < 2 then (.error .valueError : Except PyExc Unit) else .ok ()) 2) := by
    simp [CaughtFailure]
  refine ⟨hf, hs, ?_⟩
  rw [show (3 : ℤ) = ((3 : ℕ) : ℤ) from rfl, (retry_trace (fun _ : PyExc => true) (.int 1)
      (fun j => if j < 2 then (.error .valueError : Except PyExc Unit) else .ok ()) 3).1 2
      (by decide) hf hs]
  rfl

/-- Where `retry` departs from backing off between calls only: with one call allowed and a
delay of `1.0`, a failed call is followed by a sleep before the exception is raised again;
with `max_retries = 0`, `raise None` raises `TypeError`; with a delay of `-1.0`, `time.sleep`
raises `ValueError` after the first failed call. -/
theorem retry_sleeps_after_last_failure :
    retry (fun _ : PyExc => true) (fun _ => (.error .valueError : Except PyExc Unit)) 1
          (.float (.ofInt 1)) =
        ([.call, .sleep (.float ((PyFloat.ofInt 1).mul (.ofInt 1)))],
          .error (.raised .valueError)) ∧
      retry (fun _ : PyExc => true) (fun _ => (.ok () : Except PyExc Unit)) 0 (.float (.ofInt 1)) =
        ([], .error .typeError) ∧
      retry (fun _ : PyExc => true) (fun _ => (.error .valueError : Except PyExc Unit)) 3
          (.float (.ofInt (-1))) =
        ([.call], .error (.builtin .valueError)) :=
  ⟨rfl, rfl, rfl⟩

end ShardX.Sdk
