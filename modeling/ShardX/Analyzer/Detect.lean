import ShardX.Analyzer.Analyze
import ShardX.Analyzer.Profile

/-!
# Bottleneck Detection

`identify_bottlenecks` walks the analysis and the profiles in a fixed order and appends a
finding to `bottlenecks` for every rule that fires: the three facets' scalability lists, the
first five CPU hotspots, the heap summary's leak ratio, and the first five memory
hotspots. The loops are folds over the list of findings; the three scalability loops are
one function, `scalabilityCheck`, applied to each facet's type, wording and
recommendation.

The threshold is a float (`--threshold`, `type=float`), so every test is a comparison of
doubles: an efficiency with `1.0 - threshold / 100` and `0.5`, an overhead with the threshold
and with `30` and `15`, the leak ratio (a quotient of ints) with `threshold / 100`. The cut
`1.0 - threshold / 100` is itself rounded: at threshold `30` it is the double `0.7`, which
the efficiency of sizes `10, 20` and throughputs `10.0, 14.0` equals, so that entry is not
reported although its exact value is below `1 - 30 / 100`.

Main results:
- `identifyBottlenecks_eq`: the detector returns exactly `expectedBottlenecks`, the findings
  of each rule in turn, written as filters over the inputs with the code's comparisons of
  doubles; `identifyBottlenecks_reports_nothing_at_rounded_cut` is the entry above;
- `identifyBottlenecks_parsed_isOk`: on parsed profiles it never raises, as the leak ratio
  is divided only after `total_allocs - total_frees > 0`, and `total_frees ≥ 0`;
- `identifyBottlenecks_threshold_sublist`: a higher threshold reports a sub-list of the
  findings of a lower one.
-/

namespace ShardX.Analyzer

open ShardX.Python

/-! ## §1 The findings' texts -/

/-- What distinguishes the three scalability loops: the finding's type, the wording of its
description and its recommendation. -/
structure ScalabilityRule where
  type : BottleneckType
  describe : ScalabilityItem → String
  recommendation : String

/-- The transaction throughput loop's finding. -/
def transactionScalabilityRule : ScalabilityRule where
  type := .transactionScalability
  describe item := "トランザクション数が" ++ toString item.countFrom ++ "から" ++
    toString item.countTo ++ "に増加した際のスケーラビリティが低下（効率: " ++
    formatFixed item.efficiency 2 ++ "）"
  recommendation := "並列処理の最適化、バッチ処理の導入、またはリソース競合の削減を検討してください。"

/-- The shard creation loop's finding. -/
def shardCreationScalabilityRule : ScalabilityRule where
  type := .shardCreationScalability
  describe item := "シャード数が" ++ toString item.countFrom ++ "から" ++
    toString item.countTo ++ "に増加した際のスケーラビリティが低下（効率: " ++
    formatFixed item.efficiency 2 ++ "）"
  recommendation := "シャード作成プロセスの並列化、メタデータ管理の最適化を検討してください。"

/-- The cross-shard transaction loop's finding. -/
def crossShardScalabilityRule : ScalabilityRule where
  type := .crossShardScalability
  describe item := "クロスシャードトランザクション数が" ++ toString item.countFrom ++ "から" ++
    toString item.countTo ++ "に増加した際のスケーラビリティが低下（効率: " ++
    formatFixed item.efficiency 2 ++ "）"
  recommendation :=
    "シャード間通信の最適化、バッチ処理の導入、またはシャード配置アルゴリズムの改善を検討してください。"

/-- The description of a CPU hotspot finding. -/
def cpuHotspotDescription (hotspot : CpuHotspot) : String :=
  "CPU使用率の" ++ formatFixed hotspot.overhead 1 ++ "%が関数 '" ++ hotspot.function ++
    "' に集中しています"

/-- The recommendation of a CPU hotspot finding. -/
def cpuHotspotRecommendation : String :=
  "この関数のアルゴリズムの最適化、キャッシュの活用、または並列処理の導入を検討してください。"

/-- The description of the memory leak finding, from `leak_count` and
`leak_count / total_allocs * 100`. -/
def memoryLeakDescription (leakCount : ℤ) (percent : PyFloat) : String :=
  "メモリリークの可能性: " ++ toString leakCount ++ "個のアロケーション（全体の" ++
    formatFixed percent 1 ++ "%）が解放されていません"

/-- The recommendation of the memory leak finding. -/
def memoryLeakRecommendation : String :=
  "リソース管理を見直し、すべてのメモリが適切に解放されていることを確認してください。"

/-- The description of a memory hotspot finding. -/
def memoryHotspotDescription (hotspot : MemoryHotspot) : String :=
  "関数 '" ++ hotspot.function ++ "' で" ++ toString hotspot.bytesLost ++
    "バイトのメモリが失われています"

/-- The recommendation of a memory hotspot finding. -/
def memoryHotspotRecommendation : String :=
  "この関数のメモリ管理を見直し、すべてのリソースが適切に解放されていることを確認してください。"

/-! ## §2 The blocks of `identify_bottlenecks` -/

/-- One facet's scalability loop: a finding for every entry whose efficiency is below
`1.0 - threshold / 100`, `high` below `0.5`. The divisor `100` is not zero, so `/` does not
raise. -/
def scalabilityCheck (rule : ScalabilityRule) (threshold : PyFloat) (bottlenecks : List Bottleneck)
    (scalability : List ScalabilityItem) : List Bottleneck :=
  scalability.foldl (fun bottlenecks item =>
    if item.efficiency < (PyFloat.ofInt 1).sub (threshold.div (.ofInt 100)) then
      bottlenecks ++ [{ type := rule.type,
                        severity := if item.efficiency < .ofDecimal 5 (-1) then .high else .medium,
                        description := rule.describe item,
                        recommendation := rule.recommendation }]
    else bottlenecks) bottlenecks

/-- `if 'transaction_analysis' in analysis_results and ...`: the transaction facet. -/
def transactionBlock (analysis : AnalysisResults) (threshold : PyFloat)
    (bottlenecks : List Bottleneck) : List Bottleneck :=
  match analysis.transactionAnalysis with
  | some tx => match tx.throughputAnalysis with
    | some throughput =>
      scalabilityCheck transactionScalabilityRule threshold bottlenecks throughput.scalability
    | none => bottlenecks
  | none => bottlenecks

/-- `if 'sharding_analysis' in analysis_results and ...`: shard creation, then cross-shard
transactions. -/
def shardingBlock (analysis : AnalysisResults) (threshold : PyFloat)
    (bottlenecks : List Bottleneck) : List Bottleneck :=
  match analysis.shardingAnalysis with
  | some shard =>
    let bottlenecks := match shard.creationAnalysis with
      | some creation =>
        scalabilityCheck shardCreationScalabilityRule threshold bottlenecks creation.scalability
      | none => bottlenecks
    match shard.crossShardAnalysis with
    | some crossShard =>
      scalabilityCheck crossShardScalabilityRule threshold bottlenecks crossShard.scalability
    | none => bottlenecks
  | none => bottlenecks

/-- `if cpu_profile and 'hotspots' in cpu_profile`: the loop over the first five hotspots.
`overhead > 30` compares a float with an int, exactly, as `30` is a double. -/
def cpuBlock (cpuProfile : Option CpuProfile) (threshold : PyFloat)
    (bottlenecks : List Bottleneck) : List Bottleneck :=
  match cpuProfile with
  | some cpu =>
    (cpu.hotspots.take 5).foldl (fun bottlenecks hotspot =>
      if threshold < hotspot.overhead then
        bottlenecks ++ [{ type := .cpuHotspot,
                          severity := if .ofInt 30 < hotspot.overhead then .high
                            else if .ofInt 15 < hotspot.overhead then .medium else .low,
                          description := cpuHotspotDescription hotspot,
                          recommendation := cpuHotspotRecommendation }]
      else bottlenecks) bottlenecks
  | none => bottlenecks

/-- The leak rule: `leak_count > 0 and leak_count / total_allocs > threshold / 100`; the
division of ints is reached only when the first test holds, and made again for the
description. -/
def memoryLeakCheck (threshold : PyFloat) (bottlenecks : List Bottleneck) (heap : HeapSummary) :
    Except PyExc (List Bottleneck) := do
  let leakCount : ℤ := heap.totalAllocs - heap.totalFrees
  if leakCount > 0 then
    if threshold.div (.ofInt 100) < (← intTrueDiv leakCount heap.totalAllocs) then
      return bottlenecks ++
        [{ type := .memoryLeak, severity := .high,
           description := memoryLeakDescription leakCount
             ((← intTrueDiv leakCount heap.totalAllocs).mul (.ofInt 100)),
           recommendation := memoryLeakRecommendation }]
    else return bottlenecks
  else return bottlenecks

/-- `if memory_profile:`: the leak rule when a heap summary was found, then the loop over
the first five memory hotspots. -/
def memoryBlock (memoryProfile : Option MemoryProfile) (threshold : PyFloat)
    (bottlenecks : List Bottleneck) : Except PyExc (List Bottleneck) :=
  match memoryProfile with
  | some memory => do
    let bottlenecks ← match memory.heapSummary with
      | some heap => memoryLeakCheck threshold bottlenecks heap
      | none => pure bottlenecks
    return (memory.memoryHotspots.take 5).foldl (fun bottlenecks hotspot =>
      bottlenecks ++ [{ type := .memoryHotspot, severity := .medium,
                        description := memoryHotspotDescription hotspot,
                        recommendation := memoryHotspotRecommendation }]) bottlenecks
  | none => pure bottlenecks

/-- `identify_bottlenecks(analysis_results, cpu_profile, memory_profile, threshold)`. -/
def identifyBottlenecks (analysis : AnalysisResults) (cpuProfile : Option CpuProfile)
    (memoryProfile : Option MemoryProfile) (threshold : PyFloat) :
    Except PyExc (List Bottleneck) :=
  memoryBlock memoryProfile threshold
    (cpuBlock cpuProfile threshold (shardingBlock analysis threshold
      (transactionBlock analysis threshold [])))

/-! ## §3 What the detector should report -/

/-- The transaction facet's scalability list, empty when the facet is absent. -/
def transactionScalability (analysis : AnalysisResults) : List ScalabilityItem :=
  ((analysis.transactionAnalysis.bind (·.throughputAnalysis)).map (·.scalability)).getD []

/-- The shard creation facet's scalability list, empty when the facet is absent. -/
def creationScalability (analysis : AnalysisResults) : List ScalabilityItem :=
  ((analysis.shardingAnalysis.bind (·.creationAnalysis)).map (·.scalability)).getD []

/-- The cross-shard facet's scalability list, empty when the facet is absent. -/
def crossShardScalability (analysis : AnalysisResults) : List ScalabilityItem :=
  ((analysis.shardingAnalysis.bind (·.crossShardAnalysis)).map (·.scalability)).getD []

/-- The efficiency cut `1.0 - θ / 100` in doubles: `θ / 100` rounded, then `1.0` minus it
rounded. -/
def scalabilityCut (θ : PyFloat) : PyFloat := (PyFloat.ofInt 1).sub (θ.div (.ofInt 100))

/-- One finding per entry whose efficiency `e` is below the cut, in order: `high` when
`e < 0.5`, `medium` otherwise. -/
def expectedScalabilityFindings (rule : ScalabilityRule) (θ : PyFloat)
    (items : List ScalabilityItem) : List Bottleneck :=
  (items.filter fun item => item.efficiency < scalabilityCut θ).map fun item =>
    ⟨rule.type, if item.efficiency < .ofDecimal 5 (-1) then .high else .medium, rule.describe item,
      rule.recommendation⟩

/-- One finding per hotspot among the first five whose overhead `o` is above `θ`: `high`
when `o > 30`, `medium` when `15 < o ≤ 30`, `low` otherwise. -/
def expectedCpuFindings (θ : PyFloat) (cpuProfile : Option CpuProfile) : List Bottleneck :=
  ((((cpuProfile.map (·.hotspots)).getD []).take 5).filter fun h => θ < h.overhead).map fun h =>
    ⟨.cpuHotspot, if .ofInt 30 < h.overhead then .high
      else if .ofInt 15 < h.overhead then .medium else .low,
      cpuHotspotDescription h, cpuHotspotRecommendation⟩

/-- One `high` leak finding iff a heap summary shows `total_allocs - total_frees > 0` with
the rounded quotient `(total_allocs - total_frees) / total_allocs` above `θ / 100`. -/
def expectedLeakFindings (θ : PyFloat) (memoryProfile : Option MemoryProfile) : List Bottleneck :=
  match memoryProfile.bind (·.heapSummary) with
  | some heap =>
    let leak : ℤ := heap.totalAllocs - heap.totalFrees
    if 0 < leak ∧ θ.div (.ofInt 100) < intQuotient leak heap.totalAllocs then
      [⟨.memoryLeak, .high,
        memoryLeakDescription leak ((intQuotient leak heap.totalAllocs).mul (.ofInt 100)),
        memoryLeakRecommendation⟩]
    else []
  | none => []

/-- One `medium` finding for each of the first five memory hotspots. -/
def expectedMemoryHotspotFindings (memoryProfile : Option MemoryProfile) : List Bottleneck :=
  (((memoryProfile.map (·.memoryHotspots)).getD []).take 5).map fun h =>
    ⟨.memoryHotspot, .medium, memoryHotspotDescription h, memoryHotspotRecommendation⟩

/-- The findings of the rules in their fixed order: transaction, shard creation and
cross-shard scalability, CPU hotspots, memory leak, memory hotspots. -/
def expectedBottlenecks (analysis : AnalysisResults) (cpuProfile : Option CpuProfile)
    (memoryProfile : Option MemoryProfile) (θ : PyFloat) : List Bottleneck :=
  expectedScalabilityFindings transactionScalabilityRule θ (transactionScalability analysis) ++
  expectedScalabilityFindings shardCreationScalabilityRule θ (creationScalability analysis) ++
  expectedScalabilityFindings crossShardScalabilityRule θ (crossShardScalability analysis) ++
  expectedCpuFindings θ cpuProfile ++ expectedLeakFindings θ memoryProfile ++
  expectedMemoryHotspotFindings memoryProfile

/-! ## §4 Each block appends its rule's findings -/

theorem scalabilityCheck_eq (rule : ScalabilityRule) (θ : PyFloat) (bottlenecks : List Bottleneck)
    (items : List ScalabilityItem) :
    scalabilityCheck rule θ bottlenecks items =
      bottlenecks ++ expectedScalabilityFindings rule θ items := by
  simp only [scalabilityCheck, foldl_append_if, expectedScalabilityFindings, scalabilityCut]

theorem transactionBlock_eq (analysis : AnalysisResults) (θ : PyFloat)
    (bottlenecks : List Bottleneck) :
    transactionBlock analysis θ bottlenecks = bottlenecks ++
      expectedScalabilityFindings transactionScalabilityRule θ (transactionScalability analysis) := by
  unfold transactionBlock transactionScalability
  rcases analysis.transactionAnalysis with _ | ⟨_ | t⟩ <;>
    simp [scalabilityCheck_eq, expectedScalabilityFindings]

theorem shardingBlock_eq (analysis : AnalysisResults) (θ : PyFloat) (bottlenecks : List Bottleneck) :
    shardingBlock analysis θ bottlenecks = bottlenecks ++
      expectedScalabilityFindings shardCreationScalabilityRule θ (creationScalability analysis) ++
      expectedScalabilityFindings crossShardScalabilityRule θ (crossShardScalability analysis) := by
  unfold shardingBlock creationScalability crossShardScalability
  rcases analysis.shardingAnalysis with _ | ⟨_ | c, _ | x⟩ <;>
    simp [scalabilityCheck_eq, expectedScalabilityFindings]

theorem cpuBlock_eq (cpuProfile : Option CpuProfile) (θ : PyFloat) (bottlenecks : List Bottleneck) :
    cpuBlock cpuProfile θ bottlenecks = bottlenecks ++ expectedCpuFindings θ cpuProfile := by
  unfold cpuBlock expectedCpuFindings
  cases cpuProfile <;> simp [foldl_append_if]

/-- The leak ratio's division goes through whenever it is reached: a positive
`total_allocs - total_frees` with `total_frees ≥ 0` needs `total_allocs > 0`, and the
quotient is at most `1`. -/
theorem intTrueDiv_leak {heap : HeapSummary}
    (h : (0 : ℤ) < heap.totalAllocs - heap.totalFrees) :
    intTrueDiv (heap.totalAllocs - heap.totalFrees) heap.totalAllocs =
      .ok (intQuotient (heap.totalAllocs - heap.totalFrees) heap.totalAllocs) := by
  have hpos : (0 : ℚ) < heap.totalAllocs := by exact_mod_cast (show 0 < heap.totalAllocs by omega)
  have hle : |(((heap.totalAllocs - heap.totalFrees : ℤ)) : ℚ) / ((heap.totalAllocs : ℤ) : ℚ)| ≤ 1 := by
    rw [abs_le, Int.cast_natCast]
    constructor
    · have : (0 : ℚ) ≤ ((heap.totalAllocs - heap.totalFrees : ℤ) : ℚ) := by exact_mod_cast h.le
      linarith [div_nonneg this hpos.le]
    · rw [div_le_one hpos]; push_cast; linarith [(Nat.cast_nonneg heap.totalFrees : (0 : ℚ) ≤ _)]
  have hΩ : (1 : ℚ) < overflowThreshold := by norm_num [overflowThreshold]
  rw [intTrueDiv_eq, if_neg (by omega), if_neg (not_le.2 (hle.trans_lt hΩ))]

theorem memoryLeakCheck_eq (θ : PyFloat) (bottlenecks : List Bottleneck) (heap : HeapSummary) :
    memoryLeakCheck θ bottlenecks heap =
      .ok (bottlenecks ++ expectedLeakFindings θ (some ⟨some heap, []⟩)) := by
  unfold memoryLeakCheck expectedLeakFindings
  by_cases h : (0 : ℤ) < heap.totalAllocs - heap.totalFrees
  · simp only [gt_iff_lt, h, if_true, intTrueDiv_leak h, except_ok_bind, true_and, Option.some_bind]
    split_ifs <;> simp
  · simp [h]

theorem memoryBlock_eq (memoryProfile : Option MemoryProfile) (θ : PyFloat)
    (bottlenecks : List Bottleneck) :
    memoryBlock memoryProfile θ bottlenecks = .ok (bottlenecks ++
      expectedLeakFindings θ memoryProfile ++ expectedMemoryHotspotFindings memoryProfile) := by
  unfold memoryBlock
  rcases memoryProfile with _ | ⟨_ | heap, hotspots⟩
  · simp [expectedLeakFindings, expectedMemoryHotspotFindings]
  · simp [expectedLeakFindings, expectedMemoryHotspotFindings, foldl_append_map]
  · simp only [memoryLeakCheck_eq, except_ok_bind, except_pure_eq, foldl_append_map]
    simp [expectedLeakFindings, expectedMemoryHotspotFindings]

/-! ## §5 The detector -/

/-- `identify_bottlenecks` returns exactly the findings of each rule in the fixed order:
the three facets' scalability findings, the CPU findings among the first five hotspots,
the leak finding, and one finding per memory hotspot among the first five, each test the
code's comparison of doubles. All rules run; none stops another. -/
theorem identifyBottlenecks_eq (analysis : AnalysisResults) (cpuProfile : Option CpuProfile)
    (memoryProfile : Option MemoryProfile) (θ : PyFloat) :
    identifyBottlenecks analysis cpuProfile memoryProfile θ =
      .ok (expectedBottlenecks analysis cpuProfile memoryProfile θ) := by
  simp only [identifyBottlenecks, transactionBlock_eq, shardingBlock_eq, cpuBlock_eq,
    memoryBlock_eq, expectedBottlenecks, List.nil_append, List.append_assoc]

/-- The efficiency the analyzer computes for sizes `10, 20` and throughputs `10.0, 14.0`
is the double `0.7`, which is the cut at threshold `30.0`: the detector reports nothing
for it, although its exact value is below `1 - 30 / 100`. -/
theorem identifyBottlenecks_reports_nothing_at_rounded_cut :
    identifyBottlenecks ⟨some ⟨some ⟨[⟨10, .ofInt 10⟩, ⟨20, .ofInt 14⟩],
        [efficiencyEntry ⟨10, .ofInt 10⟩ ⟨20, .ofInt 14⟩], .ofInt 10, .ofInt 14, .ofInt 12⟩⟩,
        none, []⟩ none none (.ofInt 30) = .ok [] ∧
      (efficiencyEntry ⟨10, .ofInt 10⟩ ⟨20, .ofInt 14⟩).efficiency.toRat < 1 - 30 / 100 := by
  -- both the efficiency and the cut are the double `6305039478318694 * 2 ^ -53`
  have he : (efficiencyEntry ⟨10, .ofInt 10⟩ ⟨20, .ofInt 14⟩).efficiency =
      .finite false ⟨6305039478318694, -53, by decide, by decide, by decide, .inl (by decide)⟩ := by
    decide
  have hc : scalabilityCut (.ofInt 30) =
      .finite false ⟨6305039478318694, -53, by decide, by decide, by decide, .inl (by decide)⟩ := by
    decide
  have hlt : ¬(efficiencyEntry ⟨10, .ofInt 10⟩ ⟨20, .ofInt 14⟩).efficiency <
      scalabilityCut (.ofInt 30) := by rw [he, hc]; decide
  refine ⟨?_, ?_⟩
  · simp [identifyBottlenecks, transactionBlock_eq, shardingBlock_eq, cpuBlock_eq, memoryBlock_eq,
      expectedScalabilityFindings, transactionScalability, creationScalability,
      crossShardScalability, expectedCpuFindings, expectedLeakFindings,
      expectedMemoryHotspotFindings, hlt]
  · rw [he]
    norm_num [PyFloat.toRat, Binary64.val]

/-- On the profiles the parsers return, for every analysis and threshold, the detector
returns without raising. Its one division, by `total_allocs`, is reached only after
`total_allocs - total_frees > 0`, and the parsed counts are non-negative integers. -/
theorem identifyBottlenecks_parsed_isOk (py : CPython) (cpuText memoryText : Option String)
    (analysis : AnalysisResults) (θ : PyFloat) :
    IsOk (identifyBottlenecks analysis (parseCpuProfile py cpuText)
      (parseMemoryProfile py memoryText) θ) :=
  ⟨_, memoryBlock_eq _ _ _⟩

/-! ## §6 Raising the threshold -/

section Threshold

variable {θ₁ θ₂ : PyFloat}

/-- A higher threshold gives a lower cut. -/
theorem scalabilityCut_antitone (h : θ₁ ≤ θ₂) : scalabilityCut θ₂ ≤ scalabilityCut θ₁ :=
  PyFloat.sub_le_sub_of_le (by decide) (PyFloat.div_le_div_of_le (by decide) h)

theorem expectedScalabilityFindings_antitone (rule : ScalabilityRule)
    (items : List ScalabilityItem) (h : θ₁ ≤ θ₂) :
    List.Sublist (expectedScalabilityFindings rule θ₂ items)
      (expectedScalabilityFindings rule θ₁ items) :=
  (List.monotone_filter_right items fun item hi => by
    simp only [decide_eq_true_eq] at hi ⊢
    exact PyFloat.lt_of_lt_of_le hi (scalabilityCut_antitone h)).map _

theorem expectedCpuFindings_antitone (cpuProfile : Option CpuProfile) (h : θ₁ ≤ θ₂) :
    List.Sublist (expectedCpuFindings θ₂ cpuProfile) (expectedCpuFindings θ₁ cpuProfile) :=
  (List.monotone_filter_right _ fun hotspot hi => by
    simp only [decide_eq_true_eq] at hi ⊢
    exact PyFloat.lt_of_le_of_lt h hi).map _

theorem expectedLeakFindings_antitone (memoryProfile : Option MemoryProfile) (h : θ₁ ≤ θ₂) :
    List.Sublist (expectedLeakFindings θ₂ memoryProfile)
      (expectedLeakFindings θ₁ memoryProfile) := by
  unfold expectedLeakFindings
  split
  · dsimp only
    split_ifs with h₂ h₁
    · exact List.Sublist.refl _
    · exact absurd ⟨h₂.1, PyFloat.lt_of_le_of_lt (PyFloat.div_le_div_of_le (by decide) h) h₂.2⟩ h₁
    · exact List.nil_sublist _
    · exact List.nil_sublist _
  · exact List.Sublist.refl _

theorem expectedBottlenecks_antitone (analysis : AnalysisResults)
    (cpuProfile : Option CpuProfile) (memoryProfile : Option MemoryProfile) (h : θ₁ ≤ θ₂) :
    List.Sublist (expectedBottlenecks analysis cpuProfile memoryProfile θ₂)
      (expectedBottlenecks analysis cpuProfile memoryProfile θ₁) :=
  ((((((expectedScalabilityFindings_antitone _ _ h).append
    (expectedScalabilityFindings_antitone _ _ h)).append
    (expectedScalabilityFindings_antitone _ _ h)).append
    (expectedCpuFindings_antitone _ h)).append (expectedLeakFindings_antitone _ h)).append
    (List.Sublist.refl _))

/-- Raising the threshold only removes findings: for thresholds `θ₁ <= θ₂` (neither `nan`),
the findings at `θ₂` are a sub-list of those at `θ₁`, each with the same type, severity,
description and recommendation and in the same relative order. -/
theorem identifyBottlenecks_threshold_sublist (analysis : AnalysisResults)
    (cpuProfile : Option CpuProfile) (memoryProfile : Option MemoryProfile) (h : θ₁ ≤ θ₂) :
    ∃ bs₁ bs₂, identifyBottlenecks analysis cpuProfile memoryProfile θ₁ = .ok bs₁ ∧
      identifyBottlenecks analysis cpuProfile memoryProfile θ₂ = .ok bs₂ ∧
      List.Sublist bs₂ bs₁ := by
  refine ⟨_, _, ?_, ?_, expectedBottlenecks_antitone analysis cpuProfile memoryProfile h⟩ <;>
  simp only [identifyBottlenecks, transactionBlock_eq, shardingBlock_eq, cpuBlock_eq,
    memoryBlock_eq, expectedBottlenecks, List.nil_append, List.append_assoc]

/-- Thresholds `10.0 <= 20.0` meet the hypothesis; a CPU hotspot at `15.0` is reported at
`10.0` and dropped at `20.0`. -/
theorem identifyBottlenecks_threshold_sublist_drops_hotspot :
    PyFloat.ofInt 10 ≤ .ofInt 20 ∧
    ∃ bs₁ bs₂, identifyBottlenecks ⟨none, none, []⟩ (some ⟨[⟨.ofInt 15, "f"⟩]⟩) none (.ofInt 10) =
        .ok bs₁ ∧
      identifyBottlenecks ⟨none, none, []⟩ (some ⟨[⟨.ofInt 15, "f"⟩]⟩) none (.ofInt 20) = .ok bs₂ ∧
      List.Sublist bs₂ bs₁ ∧ bs₂.length < bs₁.length := by
  have h : PyFloat.ofInt 10 ≤ .ofInt 20 := by decide
  obtain ⟨bs₁, bs₂, h₁, h₂, hs⟩ :=
    identifyBottlenecks_threshold_sublist ⟨none, none, []⟩ (some ⟨[⟨.ofInt 15, "f"⟩]⟩) none h
  have l₁ : (identifyBottlenecks ⟨none, none, []⟩ (some ⟨[⟨.ofInt 15, "f"⟩]⟩) none
      (.ofInt 10)).toOption.map List.length = some 1 := by decide
  have l₂ : (identifyBottlenecks ⟨none, none, []⟩ (some ⟨[⟨.ofInt 15, "f"⟩]⟩) none
      (.ofInt 20)).toOption.map List.length = some 0 := by decide
  rw [h₁] at l₁
  rw [h₂] at l₂
  simp only [Except.toOption, Option.map_some', Option.some.injEq] at l₁ l₂
  exact ⟨h, bs₁, bs₂, h₁, h₂, hs, by omega⟩

end Threshold

end ShardX.Analyzer
