import Mathlib.Data.List.Range

/-!
# The Throughput Benchmark: Work Partition

`benchmark.py` times simulated transactions in four ways. `run_single_threaded_benchmark`
uses one loop. `run_multi_threaded_benchmark` and `run_multi_process_benchmark` use thread
and process pools whose workers each run `process_batch` on a block of nonces.
`run_batch_processing_benchmark` uses a process pool over fixed-size batches. Every run
prints `transaction_count / elapsed` as its throughput.

What is modelled is what a run computes, time apart:
- the `process_batch` calls it submits;
- the successes it sums;
- the transaction count its throughput figure is divided out of.

`process_batch` reads nothing but its arguments, so a pool's scheduling changes no batch's
result, and a pool run's total is the sum over its submitted batches in submission order.
Worker counts and batch sizes are positive in every configuration the script runs
(`[1, 2, 4, 8, 16, cpu_count()]` filtered, and `[100, 1000, 10000]`). At `0`, Python's `//`
would raise, and that case is outside the model.

Main results:
- `batchNonces_workerBatches` and `batchNonces_sizedBatches`: the pool runs simulate
  exactly the nonces below `w * (n // w)`, resp. `(n // b) * b`, each once, in order.
- `poolRuns_simulate_prefix`: with that, the single loop's count is a pool run's sum plus the
  successes among the nonces that run never simulates.

With the script's million transactions on six workers, four nonces are dropped, all four
succeed, and the throughput still counts them (`workerBatches_drop_nonces`).
-/

namespace ShardX.Benchmark

/-! ## §1 The simulated transaction -/

/-- `verify_signature`: `(nonce * 13) % 100 > 5`. -/
def verifySignature (nonce : ℕ) : Bool := decide ((nonce * 13) % 100 > 5)

/-- `check_balance`: `(nonce * 17) % 1000 >= (nonce * 7) % 900`. -/
def checkBalance (nonce : ℕ) : Bool := decide ((nonce * 17) % 1000 ≥ (nonce * 7) % 900)

/-- `check_fee`: `(nonce * 3) % 50 > 0`. -/
def checkFee (nonce : ℕ) : Bool := decide ((nonce * 3) % 50 > 0)

/-- `simulate_transaction`: all three checks pass. `execute_transaction`'s result is
discarded by the code. -/
def simulateTransaction (nonce : ℕ) : Bool :=
  verifySignature nonce && checkBalance nonce && checkFee nonce

/-- The counting loop `for i in ...: if simulate_transaction(i): successful += 1`. -/
def countSuccessful (nonces : List ℕ) : ℕ :=
  nonces.foldl (fun successful i => if simulateTransaction i then successful + 1 else successful) 0

/-- `process_batch(start_idx, batch_size)`: the loop over `range(start_idx, start_idx +
batch_size)`. -/
def processBatch (startIdx batchSize : ℕ) : ℕ := countSuccessful (List.range' startIdx batchSize)

/-! ## §2 The runs -/

/-- What a timed run computes, time apart: the successes it sums, and the transaction count
that its throughput figure `transaction_count / elapsed` divides by the elapsed time. -/
structure RunResult where
  successful : ℕ
  timedTransactions : ℕ
  deriving DecidableEq, Repr

/-- `run_single_threaded_benchmark`: one loop over `range(transaction_count)`. -/
def runSingleThreadedBenchmark (transactionCount : ℕ) : RunResult :=
  ⟨countSuccessful (List.range transactionCount), transactionCount⟩

@[simp] theorem runSingleThreadedBenchmark_successful (transactionCount : ℕ) :
    (runSingleThreadedBenchmark transactionCount).successful =
      countSuccessful (List.range transactionCount) := rfl

/-- The `process_batch` calls of one configuration of `run_multi_threaded_benchmark` or
`run_multi_process_benchmark`: `(worker_id * per_worker, per_worker)` for each worker, where
`per_worker = transaction_count // workers`. -/
def workerBatches (transactionCount workers : ℕ) : List (ℕ × ℕ) :=
  (List.range workers).map fun workerId =>
    (workerId * (transactionCount / workers), transactionCount / workers)

/-- The `process_batch` calls of `run_batch_processing_benchmark` for one `batch_size`:
`transaction_count // batch_size` batches. -/
def sizedBatches (transactionCount batchSize : ℕ) : List (ℕ × ℕ) :=
  (List.range (transactionCount / batchSize)).map fun batchIdx =>
    (batchIdx * batchSize, batchSize)

/-- A pool run over `batches`: `total_successful = sum(future.result() for future in
futures)`, added from `0` in submission order, and the throughput divides
`transaction_count`. -/
def runPool (transactionCount : ℕ) (batches : List (ℕ × ℕ)) : RunResult :=
  ⟨(batches.map fun b => processBatch b.1 b.2).foldl (· + ·) 0, transactionCount⟩

@[simp] theorem runPool_timedTransactions (transactionCount : ℕ) (batches : List (ℕ × ℕ)) :
    (runPool transactionCount batches).timedTransactions = transactionCount := rfl

/-- The nonces a list of `process_batch` calls simulates, in submission order. -/
def batchNonces (batches : List (ℕ × ℕ)) : List ℕ := batches.flatMap fun b => List.range' b.1 b.2

/-! ## §3 Counting -/

private theorem foldl_count (nonces : List ℕ) (acc : ℕ) :
    nonces.foldl (fun successful i => if simulateTransaction i then successful + 1 else successful)
      acc = acc + (nonces.filter simulateTransaction).length := by
  induction nonces generalizing acc with
  | nil => rfl
  | cons i is ih =>
    rw [List.foldl_cons, ih, List.filter_cons]
    split <;> simp_arith

/-- The counting loop counts the nonces that succeed. -/
theorem countSuccessful_eq (nonces : List ℕ) :
    countSuccessful nonces = (nonces.filter simulateTransaction).length := by
  rw [countSuccessful, foldl_count, Nat.zero_add]

theorem countSuccessful_append (a b : List ℕ) :
    countSuccessful (a ++ b) = countSuccessful a + countSuccessful b := by
  simp only [countSuccessful_eq, List.filter_append, List.length_append]

/-- The summing loop over the batches' results, from any start. -/
private theorem foldl_add_processBatch (batches : List (ℕ × ℕ)) (acc : ℕ) :
    (batches.map fun b => processBatch b.1 b.2).foldl (· + ·) acc =
      acc + countSuccessful (batchNonces batches) := by
  induction batches generalizing acc with
  | nil => rfl
  | cons b bs ih =>
    have hcons : batchNonces (b :: bs) = List.range' b.1 b.2 ++ batchNonces bs :=
      List.flatMap_cons _ _ _
    rw [List.map_cons, List.foldl_cons, ih, hcons, countSuccessful_append, processBatch,
      Nat.add_assoc]

/-- A pool run sums the successes among exactly the nonces its batches simulate. -/
theorem runPool_successful (transactionCount : ℕ) (batches : List (ℕ × ℕ)) :
    (runPool transactionCount batches).successful = countSuccessful (batchNonces batches) := by
  rw [runPool, foldl_add_processBatch, Nat.zero_add]

/-! ## §4 What the batches cover -/

/-- `k` consecutive blocks of `size` nonces from `0` are the nonces below `k * size`. -/
theorem flatMap_blocks (k size : ℕ) :
    (List.range k).flatMap (fun j => List.range' (j * size) size) = List.range (k * size) := by
  induction k with
  | zero => simp
  | succ k ih =>
    rw [List.range_succ, List.flatMap_append, ih, List.flatMap_cons, List.flatMap_nil,
      List.append_nil, List.range_eq_range', List.range_eq_range', Nat.succ_mul, Nat.add_comm,
      ← List.range'_append_1, Nat.zero_add]

/-- The thread and process pools simulate exactly the nonces below
`workers * (transaction_count // workers)`, each once, in order. -/
theorem batchNonces_workerBatches (transactionCount workers : ℕ) :
    batchNonces (workerBatches transactionCount workers) =
      List.range (workers * (transactionCount / workers)) := by
  rw [batchNonces, workerBatches, List.flatMap_map]
  exact flatMap_blocks workers (transactionCount / workers)

/-- The batch pool simulates exactly the nonces below
`(transaction_count // batch_size) * batch_size`, each once, in order. -/
theorem batchNonces_sizedBatches (transactionCount batchSize : ℕ) :
    batchNonces (sizedBatches transactionCount batchSize) =
      List.range (transactionCount / batchSize * batchSize) := by
  rw [batchNonces, sizedBatches, List.flatMap_map]
  exact flatMap_blocks (transactionCount / batchSize) batchSize

/-- The nonces below `n` are those below `q * m` and the `n % m` after them, when `n = m * q +
n % m`. -/
private theorem range_split {n q m : ℕ} (h : q * m + n % m = n) :
    List.range n = List.range (q * m) ++ List.range' (q * m) (n % m) := by
  conv_lhs => rw [← h, Nat.add_comm]
  rw [List.range_eq_range', List.range_eq_range', ← List.range'_append_1, Nat.zero_add]

/-! ## §5 The pool runs against the single loop -/

/-- Every pool run simulates, each once and in order, the nonces below its last full block:
`w * (n // w)` for the worker pools, `(n // b) * b` for the batch pool. The single loop's
successes are then the run's sum plus the successes among the `n % w` (resp. `n % b`)
nonces the run never simulates. -/
theorem poolRuns_simulate_prefix (n w b : ℕ) :
    batchNonces (workerBatches n w) = List.range (w * (n / w)) ∧
      batchNonces (sizedBatches n b) = List.range (n / b * b) ∧
      (runSingleThreadedBenchmark n).successful =
        (runPool n (workerBatches n w)).successful +
          countSuccessful (List.range' (w * (n / w)) (n % w)) ∧
      (runSingleThreadedBenchmark n).successful =
        (runPool n (sizedBatches n b)).successful +
          countSuccessful (List.range' (n / b * b) (n % b)) := by
  have hw : n / w * w + n % w = n := Nat.div_add_mod' n w
  have hb : n / b * b + n % b = n := Nat.div_add_mod' n b
  refine ⟨batchNonces_workerBatches n w, batchNonces_sizedBatches n b, ?_, ?_⟩
  · rw [runPool_successful, batchNonces_workerBatches, runSingleThreadedBenchmark_successful,
      range_split hw, countSuccessful_append, Nat.mul_comm]
  · rw [runPool_successful, batchNonces_sizedBatches, runSingleThreadedBenchmark_successful,
      range_split hb, countSuccessful_append]

/-- The script's run of one million transactions on six workers: the workers simulate the
nonces below 999996 only, the four they drop all succeed, and the throughput still counts a
million transactions. -/
theorem workerBatches_drop_nonces :
    batchNonces (workerBatches 1000000 6) = List.range 999996 ∧
      (runPool 1000000 (workerBatches 1000000 6)).successful + 4 =
        (runSingleThreadedBenchmark 1000000).successful ∧
      (runPool 1000000 (workerBatches 1000000 6)).timedTransactions = 1000000 := by
  have hdrop : countSuccessful (List.range' 999996 4) = 4 := by decide
  have hsplit := range_split (n := 1000000) (q := 166666) (m := 6) rfl
  have hq : 6 * (1000000 / 6) = 999996 := rfl
  rw [show 166666 * 6 = 999996 from rfl, show 1000000 % 6 = 4 from rfl] at hsplit
  refine ⟨by rw [batchNonces_workerBatches, hq], ?_, runPool_timedTransactions _ _⟩
  rw [runPool_successful, batchNonces_workerBatches, runSingleThreadedBenchmark_successful,
    hsplit, countSuccessful_append, hdrop, hq]

end ShardX.Benchmark
