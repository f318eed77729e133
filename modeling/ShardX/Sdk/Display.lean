import ShardX.Python.Float

/-!
# SDK Utilities: Display Helpers

`truncate_address` and `time_ago` of `shardx_sdk/utils.py`.

`truncate_address(address, start_chars=6, end_chars=4)` returns the address when it is empty
or has at most `start_chars + end_chars` characters, and otherwise
`f"{address[:start_chars]}...{address[-end_chars:]}"`, with Python's slices: a negative
index counts from the end, and both ends are clamped to the string.

`time_ago(timestamp)` reads a timestamp above `10**12` as milliseconds, `timestamp / 1000`,
a double; a smaller one stays an `int`, which the subtraction converts to a double. It takes
`seconds = int(time.time() - timestamp)`, the difference of two doubles rounded to a double,
then truncated toward zero, and names the first of year, month (30 days), day, hour, minute
and second that fits into `seconds` at least once. The clock's reading `now`, the double
`time.time()` returns, is a parameter.

Main results:
- `truncateAddress_spec`: for every address and non-negative character counts, the address
  is kept when it is short enough, and otherwise replaced by its first `start_chars`
  characters, `...`, and its last `end_chars`. With `end_chars = 0`, `address[-0:]` is the
  whole address, which then follows the `...` in full, and the result is longer than the
  address itself;
- `timeAgo_eq`: the answer is "in the future" exactly when the double difference is at most
  `-1`, "just now" exactly when it is strictly between `-1` and `1`, and otherwise the
  largest unit that fits, with the whole number of times it fits. The boundary is decided on
  the rounded difference: at the clock reading `1699999999.002` the timestamp
  `1700000000002` ms is less than a second ahead, and the answer is "in the future".
-/

namespace ShardX.Sdk

open ShardX.Python

/-! ## §1 `truncate_address` -/

/-- Python's `s[:stop]`, of a `str` or a `list`. -/
def sliceTo {α : Type} (s : List α) (stop : ℤ) : List α :=
  s.take (if stop < 0 then (s.length + stop).toNat else stop.toNat)

/-- Python's `s[start:]`, of a `str` or a `list`. -/
def sliceFrom {α : Type} (s : List α) (start : ℤ) : List α :=
  s.drop (if start < 0 then (s.length + start).toNat else start.toNat)

/-- `truncate_address(address, start_chars, end_chars)`. -/
def truncateAddress (address : String) (startChars : ℤ := 6) (endChars : ℤ := 4) : String :=
  if address = "" then ""
  else if (address.length : ℤ) ≤ startChars + endChars then address
  else ⟨sliceTo address.toList startChars ++ "...".toList ++
    sliceFrom address.toList (-endChars)⟩

/-- The last `n` characters, `n` at most the length: `s[-n:]` for `n > 0`. -/
theorem sliceFrom_neg {α : Type} {s : List α} {n : ℕ} (hn : 0 < n) (hle : n ≤ s.length) :
    sliceFrom s (-(n : ℤ)) = s.drop (s.length - n) := by
  rw [sliceFrom, if_pos (by omega)]
  congr 1
  omega

/-- The closed form of `truncate_address` for character counts `start_chars, end_chars ≥ 0`. -/
theorem truncateAddress_eq (address : String) (startChars endChars : ℕ) :
    truncateAddress address startChars endChars =
      if address.length ≤ startChars + endChars then address
      else ⟨address.toList.take startChars ++ "...".toList ++
        (if endChars = 0 then address.toList
        else address.toList.drop (address.length - endChars))⟩ := by
  have hlen : address.toList.length = address.length := rfl
  unfold truncateAddress
  by_cases he : address = ""
  · subst he
    simp
  by_cases hshort : address.length ≤ startChars + endChars
  · rw [if_neg he, if_pos (by exact_mod_cast hshort), if_pos hshort]
  · rw [if_neg he, if_neg (by exact_mod_cast hshort), if_neg hshort, sliceTo,
      if_neg (by omega), Int.toNat_natCast]
    split_ifs with h0
    · subst h0
      simp [sliceFrom]
    · rw [sliceFrom_neg (by omega) (by omega), hlen]

/-- For every address and character counts `start_chars, end_chars ≥ 0`: an address of at
most `start_chars + end_chars` characters is kept, and a longer one becomes its first
`start_chars` characters, `...`, and its last `end_chars`, or all of it when `end_chars` is 0.
So the result is shorter than the address exactly when the address has more than
`start_chars + end_chars + 3` characters and `end_chars > 0`. -/
theorem truncateAddress_spec (address : String) (startChars endChars : ℕ) :
    truncateAddress address startChars endChars =
      (if address.length ≤ startChars + endChars then address
      else ⟨address.toList.take startChars ++ "...".toList ++
        (if endChars = 0 then address.toList
        else address.toList.drop (address.length - endChars))⟩) ∧
    ((truncateAddress address startChars endChars).length < address.length ↔
      0 < endChars ∧ startChars + endChars + 3 < address.length) := by
  refine ⟨truncateAddress_eq .., ?_⟩
  rw [truncateAddress_eq]
  obtain ⟨cs⟩ := address
  simp only [String.length, String.toList] at *
  split_ifs <;> simp <;> omega

/-! ## §2 `time_ago` -/

/-- The `intervals` of `time_ago`, longest first. -/
def timeIntervals : List (ℕ × String) :=
  [(31536000, "year"), (2592000, "month"), (86400, "day"), (3600, "hour"), (60, "minute"),
    (1, "second")]

/-- The text for `interval` whole units named `intervalName`, `interval ≥ 1`. -/
def unitsAgo (interval : ℕ) (intervalName : String) : String :=
  if 1 < interval then toString interval ++ " " ++ intervalName ++ "s ago"
  else "1 " ++ intervalName ++ " ago"

/-- The `for` loop of `time_ago` over the remaining intervals. -/
def intervalsLoop (seconds : ℕ) : List (ℕ × String) → String
  | [] => "just now"
  | (secondsInInterval, intervalName) :: rest =>
    let interval := seconds / secondsInInterval
    if 1 < interval then toString interval ++ " " ++ intervalName ++ "s ago"
    else if interval = 1 then "1 " ++ intervalName ++ " ago"
    else intervalsLoop seconds rest

/-- The timestamp in seconds as the subtraction meets it: `timestamp / 1000` above `10**12`,
else the `int` converted by `PyLong_AsDouble`. -/
def timestampSeconds (timestamp : ℤ) : Except PyExc PyFloat :=
  if 1000000000000 < timestamp then intTrueDiv timestamp 1000 else intToFloat timestamp

/-- `time_ago(timestamp)`, at the clock's reading `now`. -/
def timeAgo (now : PyFloat) (timestamp : ℤ) : Except PyExc String := do
  let timestamp ← timestampSeconds timestamp
  let seconds ← floatTrunc (now.sub timestamp)
  pure (if seconds < 0 then "in the future" else intervalsLoop seconds.toNat timeIntervals)

/-- The loop stops at the first interval that fits into `seconds`. -/
theorem intervalsLoop_eq (seconds : ℕ) (intervals : List (ℕ × String))
    (hpos : ∀ p ∈ intervals, 0 < p.1) :
    intervalsLoop seconds intervals =
      ((intervals.find? (·.1 ≤ seconds)).map fun p => unitsAgo (seconds / p.1) p.2).getD
        "just now" := by
  induction intervals with
  | nil => rfl
  | cons p rest ih =>
    obtain ⟨s, name⟩ := p
    have hs : 0 < s := hpos _ (List.mem_cons_self _ _)
    have ih := ih fun q hq => hpos q (List.mem_cons_of_mem _ hq)
    by_cases hfit : s ≤ seconds
    · have hone : 1 ≤ seconds / s := (Nat.one_le_div_iff hs).2 hfit
      simp only [intervalsLoop, List.find?_cons, hfit, decide_True, Option.map_some',
        Option.getD_some, unitsAgo]
      split_ifs <;> first | rfl | omega
    · have hzero : seconds / s = 0 := Nat.div_eq_of_lt (by omega)
      simp only [intervalsLoop, List.find?_cons, hfit, decide_False, hzero, ih]
      simp

/-- `time_ago` at every clock reading whose difference with the timestamp is a finite double
`elapsed`: "in the future" when it is at most `-1`, "just now" when it is strictly between
`-1` and `1` (`int()` truncates toward zero), and otherwise the first unit that fits into the
whole seconds elapsed, with the number of times it fits. -/
theorem timeAgo_eq (now : PyFloat) (timestamp : ℤ) {ts : PyFloat} {s : Bool} {m : Binary64}
    (hts : timestampSeconds timestamp = .ok ts) (he : now.sub ts = .finite s m) :
    timeAgo now timestamp =
      let elapsed := (PyFloat.finite s m).toRat
      .ok (if elapsed ≤ -1 then "in the future"
        else if elapsed < 1 then "just now"
        else ((timeIntervals.find? (·.1 ≤ ⌊elapsed⌋.toNat)).map fun p =>
          unitsAgo (⌊elapsed⌋.toNat / p.1) p.2).getD "just now") := by
  rw [timeAgo, hts, except_ok_bind, he, floatTrunc_finite, except_ok_bind]
  generalize (PyFloat.finite s m).toRat = x
  dsimp only
  congr 1
  by_cases h1 : x ≤ -1
  · rw [if_pos ((truncToInt_neg_iff x).2 h1), if_pos h1]
  rw [if_neg (mt (truncToInt_neg_iff x).1 h1), if_neg h1]
  by_cases h2 : x < 1
  · rw [(truncToInt_eq_zero_iff x).2 ⟨by linarith, h2⟩, if_pos h2]
    rfl
  · rw [if_neg h2, truncToInt, if_pos (by linarith), intervalsLoop_eq _ _ (by decide)]

/-- The timestamp `1700000000002` ms and the clock reading `1699999999.002`: the timestamp is
`0.9999999065` s ahead, but both round up by the same amount to doubles exactly one second
apart, and the answer is "in the future". -/
theorem timeAgo_eq_rounded_boundary :
    timestampSeconds 1700000000002 = .ok
        (.finite false ⟨7130316800008389, -22, by decide, by decide, by decide, .inl (by decide)⟩) ∧
      (PyFloat.ofDecimal 1699999999002 (-3)).sub
          (.finite false ⟨7130316800008389, -22, by decide, by decide, by decide, .inl (by decide)⟩) =
        .finite true ⟨4503599627370496, -52, by decide, by decide, by decide, .inl (by decide)⟩ ∧
      timeAgo (PyFloat.ofDecimal 1699999999002 (-3)) 1700000000002 = .ok "in the future" := by
  have hts : timestampSeconds 1700000000002 = .ok
      (.finite false ⟨7130316800008389, -22, by decide, by decide, by decide, .inl (by decide)⟩) :=
    rfl
  have he : (PyFloat.ofDecimal 1699999999002 (-3)).sub
      (.finite false ⟨7130316800008389, -22, by decide, by decide, by decide, .inl (by decide)⟩) =
      .finite true ⟨4503599627370496, -52, by decide, by decide, by decide, .inl (by decide)⟩ := by
    decide
  refine ⟨hts, he, ?_⟩
  rw [timeAgo_eq _ 1700000000002 hts he]
  norm_num [PyFloat.toRat, Binary64.val]

end ShardX.Sdk
