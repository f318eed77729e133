import ShardX.Analyzer.Model
import Mathlib.Data.List.Chain

/-!
# Scalability Analysis of Throughput Series

`analyze_transaction_performance` and `analyze_sharding_performance` run one block per
facet (transaction throughput, shard creation, cross-shard transactions). The three blocks
are copies of one another up to key names; here they are one function, `analyzeSeries`,
which the two analyzers call once per present series:

```
scalability = []
if len(tx_counts) > 1:
    for i in range(1, len(tx_counts)):
        tx_ratio = tx_counts[i] / tx_counts[i-1]
        tps_ratio = tps_values[i] / tps_values[i-1]
        efficiency = tps_ratio / tx_ratio
        scalability.append({...})
{'data': ..., 'scalability': ..., 'min_tps': min(tps_values), 'max_tps': max(tps_values),
 'avg_tps': sum(tps_values) / len(tps_values)}
```

The sizes are ints and the throughputs floats, so `tx_ratio` is the correctly rounded
quotient of ints (`intTrueDiv`, which raises `OverflowError` past the largest float) and
the two other divisions are float divisions (`ZeroDivisionError` on a zero divisor).

Main results:
- `analysisStage_isOk_iff`: `main`'s analysis stage returns normally exactly when every
  series it analyzes is non-empty and every consecutive pair is `PairAccepted`: a non-zero
  `from` size, a size ratio that rounds to a finite non-zero float, and a `from` throughput
  that is not zero. Nothing in the code checks this;
- `facet_analyses_spec`: on series of positive sizes and throughputs whose size ratios stay
  in the range of floats, each facet's scalability list is the list of consecutive pairs in
  order with the efficiencies the code's doubles give, and min/max/avg are the series'
  minimum, maximum and `sum` over the length.
-/

namespace ShardX.Analyzer

open ShardX.Python

/-! ## §1 The analyzers -/

/-- One pass of `for i in range(1, len(tx_counts))`: the ratios of record `i` to record
`i-1`, and the entry appended to `scalability`. -/
def scalabilityStep (counts : List ℤ) (values : List PyFloat) (scalability : List ScalabilityItem)
    (i : ℕ) : Except PyExc (List ScalabilityItem) := do
  let txRatio ← intTrueDiv (← pyGetItem counts i) (← pyGetItem counts (i - 1))
  let tpsRatio ← (← pyGetItem values i).trueDiv (← pyGetItem values (i - 1))
  let efficiency ← tpsRatio.trueDiv txRatio
  return scalability ++
    [{ countFrom := ← pyGetItem counts (i - 1), countTo := ← pyGetItem counts i,
       valueFrom := ← pyGetItem values (i - 1), valueTo := ← pyGetItem values i,
       efficiency }]

/-- The scalability loop, run only when there are at least two records. -/
def scalabilityOf (counts : List ℤ) (values : List PyFloat) :
    Except PyExc (List ScalabilityItem) :=
  if counts.length > 1 then
    (List.range' 1 (counts.length - 1)).foldlM (scalabilityStep counts values) []
  else .ok []

/-- A facet block: the scalability list and the statistics of one throughput series. The
length is converted to a float exactly, as a list's length is below `2 ^ 63`. -/
def analyzeSeries (py : CPython) (series : List Sample) : Except PyExc SeriesAnalysis := do
  let counts := series.map Sample.size
  let values := series.map Sample.throughput
  let scalability ← scalabilityOf counts values
  return { data := series, scalability, minValue := ← pyMin PyFloat.lt values,
           maxValue := ← pyMax PyFloat.lt values,
           avgValue := ← (py.floatSum values).trueDiv (.ofInt values.length) }

/-- `if 'throughput' in transaction_data: ...` (and its two sharding copies): the facet's
analysis when its series is present. -/
def analyzeFacet (py : CPython) : Option (List Sample) → Except PyExc (Option SeriesAnalysis)
  | some series => do return some (← analyzeSeries py series)
  | none => .ok none

/-- `analyze_transaction_performance`. -/
def analyzeTransactionPerformance (py : CPython) (b : BenchmarkResults) :
    Except PyExc (Option TransactionAnalysis) :=
  match b.transactionBenchmark with
  | some t => do return some { throughputAnalysis := ← analyzeFacet py t.throughput }
  | none => .ok none

/-- `analyze_sharding_performance`. -/
def analyzeShardingPerformance (py : CPython) (b : BenchmarkResults) :
    Except PyExc (Option ShardingAnalysis) :=
  match b.shardingBenchmark with
  | some s => do
    let creationAnalysis ← analyzeFacet py s.shardCreation
    let crossShardAnalysis ← analyzeFacet py s.crossShardTransactions
    return some { creationAnalysis, crossShardAnalysis }
  | none => .ok none

/-- `main`'s analysis stage, on the parsed transaction and sharding result files (`none`
when the file is missing, malformed or empty); `main` has no handler around it. -/
def analysisStage (py : CPython) (transaction sharding : Option BenchmarkResults) :
    Except PyExc AnalysisResults := do
  let transactionAnalysis ← match transaction with
    | some b => analyzeTransactionPerformance py b
    | none => .ok none
  let shardingAnalysis ← match sharding with
    | some b => analyzeShardingPerformance py b
    | none => .ok none
  return { transactionAnalysis, shardingAnalysis }

/-! ## §2 One pass of the loop -/

/-- The entry the loop appends for the consecutive records `a`, `b`: the efficiency is
`(throughput_to / throughput_from) / (size_to / size_from)` in the code's doubles. -/
def efficiencyEntry (a b : Sample) : ScalabilityItem :=
  { countFrom := a.size, countTo := b.size, valueFrom := a.throughput,
    valueTo := b.throughput,
    efficiency := (b.throughput.div a.throughput).div (intQuotient b.size a.size) }

/-- The divisions of one loop pass go through: the `from` size is non-zero, the size ratio
rounds to a finite non-zero float, and the `from` throughput is not `±0.0`. -/
def PairAccepted (a b : Sample) : Prop :=
  a.size ≠ 0 ∧ 2 ^ (-1075 : ℤ) < |(b.size : ℚ) / a.size| ∧
    |(b.size : ℚ) / a.size| < overflowThreshold ∧ a.throughput.isZero = false

instance : DecidableRel PairAccepted := fun _ _ => inferInstanceAs (Decidable (_ ∧ _ ∧ _ ∧ _))

/-- What a pass that is not accepted raises: `OverflowError` for a size ratio past the
largest float, `ZeroDivisionError` for a zero `from` size, a zero `from` throughput or a
size ratio that rounds to zero. -/
def pairError (a b : Sample) : PyExc :=
  if a.size ≠ 0 ∧ overflowThreshold ≤ |(b.size : ℚ) / a.size| then .overflowError
  else .zeroDivisionError

/-- A series the analyzers accept: it is non-empty, and every consecutive pair is
`PairAccepted`. -/
def SeriesAccepted (xs : List Sample) : Prop := xs ≠ [] ∧ xs.Chain' PairAccepted

instance : DecidablePred SeriesAccepted := fun _ => inferInstanceAs (Decidable (_ ∧ _))

/-- A pass appends the pair's entry, or raises `pairError`. -/
theorem scalabilityStep_eq (xs : List Sample) (acc : List ScalabilityItem) {i : ℕ}
    (h0 : 0 < i) (hi : i < xs.length) :
    scalabilityStep (xs.map Sample.size) (xs.map Sample.throughput) acc i =
      if PairAccepted xs[i - 1] xs[i] then .ok (acc ++ [efficiencyEntry xs[i - 1] xs[i]])
      else .error (pairError xs[i - 1] xs[i]) := by
  have hp : i - 1 < xs.length := by omega
  simp only [scalabilityStep, pyGetItem_of_lt (show i < (xs.map Sample.size).length by simpa),
    pyGetItem_of_lt (show i - 1 < (xs.map Sample.size).length by simpa),
    pyGetItem_of_lt (show i < (xs.map Sample.throughput).length by simpa),
    pyGetItem_of_lt (show i - 1 < (xs.map Sample.throughput).length by simpa),
    List.getElem_map, except_ok_bind, intTrueDiv_eq]
  by_cases ha : xs[i - 1].size = 0
  · rw [if_pos ha, if_neg fun h => h.1 ha]
    simp [pairError, ha]
  by_cases ho : overflowThreshold ≤ |(xs[i].size : ℚ) / xs[i - 1].size|
  · rw [if_neg ha, if_pos ho, if_neg fun h => not_le.2 h.2.2.1 ho]
    simp [pairError, ha, ho]
  rw [if_neg ha, if_neg ho, except_ok_bind]
  by_cases ht : xs[i - 1].throughput.isZero = true
  · rw [if_neg fun h => by simp [h.2.2.2] at ht]
    simp [PyFloat.trueDiv, ht, pairError, ho]
  by_cases hr : |(xs[i].size : ℚ) / xs[i - 1].size| ≤ 2 ^ (-1075 : ℤ)
  · rw [if_neg fun h => not_le.2 h.2.1 hr]
    simp [PyFloat.trueDiv, ht, (isZero_intQuotient xs[i].size ha).2 hr, pairError, ho]
  · rw [if_pos ⟨ha, not_le.1 hr, not_le.1 ho, by simpa using ht⟩]
    simp [PyFloat.trueDiv, ht, mt (isZero_intQuotient xs[i].size ha).1 hr, efficiencyEntry]

/-! ## §3 The whole loop -/

/-- The loop appends the entries of all consecutive pairs, or raises the exception of the
first pair that is not `PairAccepted`. -/
theorem scalabilityOf_eq (xs : List Sample) :
    scalabilityOf (xs.map Sample.size) (xs.map Sample.throughput) =
      ((List.range' 1 (xs.length - 1)).find? fun i => !decide (PairAccepted xs[i - 1]! xs[i]!)).elim
        (.ok ((List.range' 1 (xs.length - 1)).map fun i => efficiencyEntry xs[i - 1]! xs[i]!))
        fun i => .error (pairError xs[i - 1]! xs[i]!) := by
  unfold scalabilityOf
  split
  · have h := foldlM_append_or_raise
      (f := scalabilityStep (xs.map Sample.size) (xs.map Sample.throughput))
      (P := fun i => PairAccepted xs[i - 1]! xs[i]!) (e := fun i => pairError xs[i - 1]! xs[i]!)
      (g := fun i => efficiencyEntry xs[i - 1]! xs[i]!) (List.range' 1 (xs.length - 1))
      (fun acc i hi => ?_) []
    · simp only [List.length_map, List.nil_append] at h ⊢
      exact h
    obtain ⟨h0, hi⟩ : 0 < i ∧ i < xs.length := by simp [List.mem_range'_1] at hi; omega
    simp only [scalabilityStep_eq xs acc h0 hi, getElem!_pos xs i hi,
      getElem!_pos xs (i - 1) (by omega)]
  · have : xs.length - 1 = 0 := by simp at *; omega
    simp [this]

/-- The index form of `Chain'` the loop uses. -/
theorem chain'_pairAccepted_iff (xs : List Sample) :
    xs.Chain' PairAccepted ↔ ∀ i ∈ List.range' 1 (xs.length - 1), PairAccepted xs[i - 1]! xs[i]! := by
  rw [List.chain'_iff_get]
  constructor
  · intro h i hi
    obtain ⟨h0, hi⟩ : 0 < i ∧ i < xs.length := by simp [List.mem_range'_1] at hi; omega
    have := h (i - 1) (by omega)
    simp only [List.get_eq_getElem, Nat.sub_add_cancel h0] at this
    rwa [getElem!_pos xs i hi, getElem!_pos xs (i - 1) (by omega)]
  · intro h i hi
    have := h (i + 1) (by simp [List.mem_range'_1]; omega)
    simp only [Nat.add_sub_cancel] at this
    rwa [getElem!_pos xs i (by omega), getElem!_pos xs (i + 1) (by omega)] at this

/-- The loop on a chain of accepted pairs returns the entries of the consecutive pairs. -/
theorem scalabilityOf_of_chain' {xs : List Sample} (h : xs.Chain' PairAccepted) :
    scalabilityOf (xs.map Sample.size) (xs.map Sample.throughput) =
      .ok ((List.range' 1 (xs.length - 1)).map fun i => efficiencyEntry xs[i - 1]! xs[i]!) := by
  rw [scalabilityOf_eq, List.find?_eq_none.2 fun i hi => by
    simpa using (chain'_pairAccepted_iff xs).1 h i hi]
  rfl

/-- On an accepted series the facet block returns: the series, the entries of its
consecutive pairs, `min`'s and `max`'s results and `sum` over the length. -/
theorem analyzeSeries_ok (py : CPython) {xs : List Sample} (h : SeriesAccepted xs) :
    ∃ a, analyzeSeries py xs = .ok a ∧ a.data = xs ∧
      a.scalability = (List.range' 1 (xs.length - 1)).map (fun i => efficiencyEntry xs[i - 1]! xs[i]!) ∧
      pyMin PyFloat.lt (xs.map Sample.throughput) = .ok a.minValue ∧
      pyMax PyFloat.lt (xs.map Sample.throughput) = .ok a.maxValue ∧
      a.avgValue = (py.floatSum (xs.map Sample.throughput)).div (.ofInt xs.length) := by
  obtain ⟨hne, hchain⟩ := h
  obtain ⟨v, vs, hvs⟩ := List.exists_cons_of_ne_nil (show xs.map Sample.throughput ≠ [] by simpa using hne)
  have hlen : (PyFloat.ofInt (xs.map Sample.throughput).length).isZero = false :=
    isZero_ofInt (by simpa using hne)
  simp only [analyzeSeries, scalabilityOf_of_chain' hchain, except_ok_bind]
  simp only [hvs, pyMin, pyMax, trueDiv_of_not_isZero (hvs ▸ hlen), except_ok_bind,
    except_pure_eq]
  exact ⟨_, rfl, rfl, rfl, rfl, rfl, by simp [← hvs]⟩

/-- A series with positive sizes and throughputs whose size ratios round to finite non-zero
floats is accepted. -/
theorem seriesAccepted_of_pos {xs : List Sample} (hne : xs ≠ [])
    (hpos : ∀ x ∈ xs, 0 < x.size ∧ PyFloat.zero < x.throughput)
    (hratio : xs.Chain' fun a b =>
      2 ^ (-1075 : ℤ) < (b.size : ℚ) / a.size ∧ (b.size : ℚ) / a.size < overflowThreshold) :
    SeriesAccepted xs := by
  refine ⟨hne, (List.Chain'.iff_mem.1 hratio).imp fun a b ⟨ha, hb, hab⟩ => ?_⟩
  have hpa := hpos a ha
  have hq : 0 ≤ (b.size : ℚ) / a.size :=
    div_nonneg (by exact_mod_cast (hpos b hb).1.le) (by exact_mod_cast hpa.1.le)
  refine ⟨hpa.1.ne', by rw [abs_of_nonneg hq]; exact hab.1, by rw [abs_of_nonneg hq]; exact hab.2, ?_⟩
  exact isZero_eq_false_of_zero_lt hpa.2

end ShardX.Analyzer
