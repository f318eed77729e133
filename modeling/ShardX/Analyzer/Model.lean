import ShardX.Python.Float

/-!
# Bottleneck Analyzer: Data Model

The dictionaries `tools/performance/bottleneck_analyzer.py` passes between its stages, as
records. A key the code writes and later reads is a field; a dictionary that may be absent
or `None` (both are skipped alike by the code's `'k' in d and d['k']` tests) is an
`Option`. The three throughput facets share one record shape: their key names differ
(`tx_count`/`throughput_tps` for transactions and cross-shard transactions,
`shard_count`/`throughput_sps` for shard creation) and the docstrings say which is which.

Counts from profiles are `ℕ`: the parsers build them with `int()` from digit strings. Sizes
are the ints of the benchmark files and throughputs their floats; overheads, efficiencies
and the statistics are floats (`PyFloat`), computed as the code's doubles.
-/

namespace ShardX.Analyzer

open ShardX.Python

/-! ## §1 Benchmark documents -/

/-- One record of a throughput series: `{'tx_count', 'throughput_tps'}`, or
`{'shard_count', 'throughput_sps'}` in `shard_creation`. -/
structure Sample where
  size : ℤ
  throughput : PyFloat
  deriving DecidableEq, Repr, Inhabited

/-- `benchmark['transaction_benchmark']`. -/
structure TransactionBenchmark where
  throughput : Option (List Sample)
  deriving DecidableEq, Repr

/-- `benchmark['sharding_benchmark']`. -/
structure ShardingBenchmark where
  shardCreation : Option (List Sample)
  crossShardTransactions : Option (List Sample)
  deriving DecidableEq, Repr

/-- A benchmark result file, as `json.load` returns it. -/
structure BenchmarkResults where
  transactionBenchmark : Option TransactionBenchmark
  shardingBenchmark : Option ShardingBenchmark
  deriving DecidableEq, Repr

/-! ## §2 Analyses -/

/-- One entry of a `scalability` list: `tx_count_from`, `tx_count_to`, `tps_from`,
`tps_to`, `efficiency` (`shard_count_*`, `sps_*` for shard creation). -/
structure ScalabilityItem where
  countFrom : ℤ
  countTo : ℤ
  valueFrom : PyFloat
  valueTo : PyFloat
  efficiency : PyFloat
  deriving DecidableEq, Repr

/-- `throughput_analysis`, `creation_analysis` or `cross_shard_analysis`: `data`,
`scalability` and `min_tps`/`max_tps`/`avg_tps` (`*_sps` for shard creation). -/
structure SeriesAnalysis where
  data : List Sample
  scalability : List ScalabilityItem
  minValue : PyFloat
  maxValue : PyFloat
  avgValue : PyFloat
  deriving DecidableEq, Repr

/-- What `analyze_transaction_performance` returns. -/
structure TransactionAnalysis where
  throughputAnalysis : Option SeriesAnalysis
  deriving DecidableEq, Repr

/-- What `analyze_sharding_performance` returns. -/
structure ShardingAnalysis where
  creationAnalysis : Option SeriesAnalysis
  crossShardAnalysis : Option SeriesAnalysis
  deriving DecidableEq, Repr

/-! ## §3 Profiles -/

/-- `{'overhead', 'function'}`, one line of a `perf report` overhead table. -/
structure CpuHotspot where
  overhead : PyFloat
  function : String
  deriving DecidableEq, Repr

/-- What `parse_cpu_profile` returns: `{'hotspots': [...]}`. -/
structure CpuProfile where
  hotspots : List CpuHotspot
  deriving DecidableEq, Repr

/-- `heap_summary` when the `total heap usage` line was found. -/
structure HeapSummary where
  totalAllocs : ℕ
  totalFrees : ℕ
  totalBytes : ℕ
  deriving DecidableEq, Repr

/-- `{'bytes_lost', 'function'}`, one loss record of a valgrind report. -/
structure MemoryHotspot where
  bytesLost : ℕ
  function : String
  deriving DecidableEq, Repr

/-- What `parse_memory_profile` returns; `heapSummary = none` is the empty dict `{}`. -/
structure MemoryProfile where
  heapSummary : Option HeapSummary
  memoryHotspots : List MemoryHotspot
  deriving DecidableEq, Repr

/-! ## §4 Bottlenecks and the analysis result -/

/-- The `'type'` strings of a bottleneck. -/
inductive BottleneckType where
  | transactionScalability
  | shardCreationScalability
  | crossShardScalability
  | cpuHotspot
  | memoryLeak
  | memoryHotspot
  deriving DecidableEq, Repr

/-- The text the code stores under `'type'`. -/
def BottleneckType.name : BottleneckType → String
  | .transactionScalability => "transaction_scalability"
  | .shardCreationScalability => "shard_creation_scalability"
  | .crossShardScalability => "cross_shard_scalability"
  | .cpuHotspot => "cpu_hotspot"
  | .memoryLeak => "memory_leak"
  | .memoryHotspot => "memory_hotspot"

/-- The `'severity'` strings of a bottleneck. -/
inductive Severity where
  | low
  | medium
  | high
  deriving DecidableEq, Repr

/-- The text the code stores under `'severity'`. -/
def Severity.name : Severity → String
  | .low => "low"
  | .medium => "medium"
  | .high => "high"

/-- One finding of `identify_bottlenecks`. -/
structure Bottleneck where
  type : BottleneckType
  severity : Severity
  description : String
  recommendation : String
  deriving DecidableEq, Repr

/-- `analysis_results` as `main` builds it: the facet analyses, then `bottlenecks`. -/
structure AnalysisResults where
  transactionAnalysis : Option TransactionAnalysis
  shardingAnalysis : Option ShardingAnalysis
  bottlenecks : List Bottleneck := []
  deriving DecidableEq, Repr

/-- A chart directive of `generate_charts`: `{'title', 'path', 'description'}`. -/
structure Chart where
  title : String
  path : String
  description : String
  deriving DecidableEq, Repr

end ShardX.Analyzer
