import ShardX.Analyzer.Analyze
import Mathlib.Data.List.Nodup
import Mathlib.Algebra.BigOperators.Group.List

/-!
# Charts of the Bottleneck Analyzer

`generate_charts(analysis_results, output_dir)` draws one figure per chart, saves it under
`output_dir` and returns the directives `{'title', 'path', 'description'}` that
`generate_html_report` embeds. It runs four blocks in order:
- the transaction block: a throughput chart when the throughput series is non-empty,
  followed by a scalability chart when its `scalability` list is non-empty;
- the shard creation block and the cross-shard block: a throughput chart each when the
  series is non-empty, and no scalability chart at all;
- the bottleneck block: the `bottleneck_types` counting loop, then one bar chart of the
  counts when there is a finding.

A drawn chart is its directive and its figure: the `plt.plot` or `plt.bar` data `plt.savefig`
writes at the directive's path. Axis labels, sizes and styles are fixed texts of the code and
are not modelled. Neither are `os.makedirs` and the file writes, taken to succeed. A facet
that is absent, `None` or empty is skipped by the code's `'k' in d and d['k']` tests, and
an `Option` is `none` in all three cases.

Main results:
- `bottleneckSummaryCharts_counts`: the summary chart is drawn iff there is a finding, and
  its bars are the loop's counts. By `tallySpec_bottleneckTypeCounts`, the loop ends with one
  entry per bottleneck type present, in distinct keys, each counting the findings of its
  type, and the counts sum to the number of findings.
- `generateCharts_figures_eq_documented_iff`: the figures drawn are those the analyzer's
  documentation describes (`documentedFigures`) exactly when neither sharding facet has a
  non-empty series with a scalability sample.
- `generateCharts_omits_sharding_efficiency`: for every two accepted sharding series of two
  or more samples, the analysis stage succeeds and `generate_charts` draws their two
  throughput lines only, where the documentation describes four figures.
-/

namespace ShardX.Analyzer

open ShardX.Python

/-! ## §1 Paths and figures -/

/-- `os.path.join(a, b)` (`posixpath.join`) on two paths. -/
def osPathJoin (a b : String) : String :=
  if b.startsWith "/" then b
  else if a = "" ∨ a.endsWith "/" then a ++ b
  else a ++ "/" ++ b

/-- The data a chart's figure plots. -/
inductive Figure where
  /-- `plt.plot(x, y, 'o-', linewidth=2)`: sizes against throughputs. -/
  | line (x : List ℤ) (y : List PyFloat)
  /-- `plt.bar(x, height)` with float heights, the efficiencies. -/
  | floatBar (x : List String) (height : List PyFloat)
  /-- `plt.bar(x, height)` with int heights, the counts of the findings. -/
  | bar (x : List String) (height : List ℚ)
  deriving DecidableEq, Repr

/-- A chart `generate_charts` draws: the directive it returns, and the figure `plt.savefig`
writes at the directive's path. -/
structure DrawnChart where
  chart : Chart
  figure : Figure
  deriving DecidableEq, Repr

/-! ## §2 The facet blocks -/

/-- A throughput chart: the series' sizes plotted against its throughputs, saved as
`fileName` under `output_dir`. -/
def throughputChart (outputDir fileName title description : String) (data : List Sample) :
    DrawnChart :=
  ⟨⟨title, osPathJoin outputDir fileName, description⟩,
    .line (data.map Sample.size) (data.map Sample.throughput)⟩

/-- A bar's label, `f"{item['tx_count_from']}-{item['tx_count_to']}"`. -/
def pairLabel (item : ScalabilityItem) : String :=
  toString item.countFrom ++ "-" ++ toString item.countTo

/-- The transaction scalability chart: `plt.bar(tx_pairs, efficiency)`. -/
def scalabilityChart (outputDir : String) (scalability : List ScalabilityItem) : DrawnChart :=
  ⟨⟨"トランザクション処理のスケーラビリティ", osPathJoin outputDir "transaction_scalability.png",
      "トランザクション数の増加に対するスケーラビリティ効率を示します。効率が1.0に近いほど理想的です。"⟩,
    .floatBar (scalability.map pairLabel) (scalability.map ScalabilityItem.efficiency)⟩

/-- The transaction block: the throughput chart of a non-empty series, then the scalability
chart when the series has a scalability entry. -/
def transactionCharts (outputDir : String) : Option TransactionAnalysis → List DrawnChart
  | some ⟨some throughput⟩ =>
    if throughput.data ≠ [] then
      throughputChart outputDir "transaction_throughput.png" "トランザクション数とスループットの関係"
          "トランザクション数の増加に対するスループットの変化を示します。" throughput.data ::
        (if throughput.scalability ≠ [] then [scalabilityChart outputDir throughput.scalability]
         else [])
    else []
  | _ => []

/-- A sharding block: the throughput chart of a non-empty series, and nothing else. -/
def seriesThroughputCharts (outputDir fileName title description : String) :
    Option SeriesAnalysis → List DrawnChart
  | some analysis =>
    if analysis.data ≠ [] then [throughputChart outputDir fileName title description analysis.data]
    else []
  | none => []

/-- The shard creation block. -/
def creationCharts (outputDir : String) : Option SeriesAnalysis → List DrawnChart :=
  seriesThroughputCharts outputDir "shard_creation_performance.png" "シャード作成のパフォーマンス"
    "シャード数の増加に対する作成スループットの変化を示します。"

/-- The cross-shard block. -/
def crossShardCharts (outputDir : String) : Option SeriesAnalysis → List DrawnChart :=
  seriesThroughputCharts outputDir "cross_shard_performance.png"
    "クロスシャードトランザクションのパフォーマンス"
    "クロスシャードトランザクション数の増加に対するスループットの変化を示します。"

/-- The two sharding blocks. -/
def shardingCharts (outputDir : String) : Option ShardingAnalysis → List DrawnChart
  | some sharding =>
    creationCharts outputDir sharding.creationAnalysis ++
      crossShardCharts outputDir sharding.crossShardAnalysis
  | none => []

/-! ## §3 The bottleneck block -/

/-- `bottleneck_types[t] += 1` at one entry. -/
def bumpCount (t : String) (p : String × ℕ) : String × ℕ :=
  if p.1 = t then (p.1, p.2 + 1) else p

/-- One pass of the counting loop: the count of a present type goes up by one, and a new
type goes last with count `1`. -/
def tallyType (counts : List (String × ℕ)) (t : String) : List (String × ℕ) :=
  if t ∈ counts.map Prod.fst then counts.map (bumpCount t) else counts ++ [(t, 1)]

/-- `bottleneck_types` after the loop, as its items in insertion order. -/
def bottleneckTypeCounts (bottlenecks : List Bottleneck) : List (String × ℕ) :=
  bottlenecks.foldl (fun counts b => tallyType counts b.type.name) []

/-- The bar chart of the counts, `plt.bar(types, counts)`. -/
def bottleneckSummaryChart (outputDir : String) (counts : List (String × ℕ)) : DrawnChart :=
  ⟨⟨"ボトルネックの概要", osPathJoin outputDir "bottleneck_summary.png",
      "検出されたボトルネックのタイプごとの数を示します。"⟩,
    .bar (counts.map Prod.fst) (counts.map fun p => (p.2 : ℚ))⟩

/-- The bottleneck block: `if bottlenecks:`, the loop, then `if bottleneck_types:`. -/
def bottleneckSummaryCharts (outputDir : String) (bottlenecks : List Bottleneck) :
    List DrawnChart :=
  if bottlenecks ≠ [] then
    if bottleneckTypeCounts bottlenecks ≠ [] then
      [bottleneckSummaryChart outputDir (bottleneckTypeCounts bottlenecks)]
    else []
  else []

/-- `generate_charts(analysis_results, output_dir)`, with the figure of each chart; the
function returns `(generateCharts r outputDir).map DrawnChart.chart`. -/
def generateCharts (analysisResults : AnalysisResults) (outputDir : String) :
    List DrawnChart :=
  transactionCharts outputDir analysisResults.transactionAnalysis ++
    shardingCharts outputDir analysisResults.shardingAnalysis ++
    bottleneckSummaryCharts outputDir analysisResults.bottlenecks

/-! ## §4 The counting loop -/

/-- What the counts should be after the loop over findings of type names `names`: distinct
keys, exactly the names that occur, each counting its occurrences, and the counts summing to
the number of findings. -/
structure TallySpec (names : List String) (counts : List (String × ℕ)) : Prop where
  nodup : (counts.map Prod.fst).Nodup
  mem_iff : ∀ t, t ∈ counts.map Prod.fst ↔ t ∈ names
  count_eq : ∀ p ∈ counts, p.2 = names.count p.1
  sum_eq : (counts.map Prod.snd).sum = names.length

@[simp] theorem bumpCount_fst (t : String) (p : String × ℕ) : (bumpCount t p).1 = p.1 := by
  unfold bumpCount
  split <;> rfl

theorem map_bumpCount_fst (t : String) (counts : List (String × ℕ)) :
    (counts.map (bumpCount t)).map Prod.fst = counts.map Prod.fst := by
  simp [Function.comp_def]

/-- Bumping `t` adds to the sum once per entry keyed `t`. -/
theorem sum_map_bumpCount (t : String) : ∀ counts : List (String × ℕ),
    ((counts.map (bumpCount t)).map Prod.snd).sum =
      (counts.map Prod.snd).sum + (counts.map Prod.fst).count t
  | [] => rfl
  | p :: ps => by
    simp only [List.map_cons, List.sum_cons, List.count_cons, sum_map_bumpCount t ps, bumpCount,
      beq_iff_eq]
    split <;> simp_arith

/-- One pass of the loop keeps `TallySpec`. -/
theorem TallySpec.tallyType {names : List String} {counts : List (String × ℕ)}
    (h : TallySpec names counts) (t : String) :
    TallySpec (names ++ [t]) (tallyType counts t) := by
  unfold ShardX.Analyzer.tallyType
  split
  case isTrue ht =>
    refine ⟨by rw [map_bumpCount_fst]; exact h.nodup, fun s => ?_, fun p hp => ?_, ?_⟩
    · rw [map_bumpCount_fst, h.mem_iff, List.mem_append, List.mem_singleton]
      exact ⟨Or.inl, fun hs => hs.elim id fun e => e ▸ (h.mem_iff t).1 ht⟩
    · obtain ⟨q, hq, rfl⟩ := List.mem_map.1 hp
      have hc := h.count_eq q hq
      rw [bumpCount_fst, List.count_append, List.count_singleton, bumpCount]
      by_cases hqt : q.1 = t
      · simp [hqt, hc]
      · simp [hqt, Ne.symm hqt, hc]
    · rw [sum_map_bumpCount, h.sum_eq, List.count_eq_one_of_mem h.nodup ht, List.length_append,
        List.length_singleton]
  case isFalse ht =>
    have hn : t ∉ names := fun hn => ht ((h.mem_iff t).2 hn)
    refine ⟨?_, fun s => ?_, fun p hp => ?_, ?_⟩
    · rw [List.map_append, List.nodup_append]
      exact ⟨h.nodup, List.nodup_singleton _, by simpa using ht⟩
    · simp only [List.map_append, List.mem_append, h.mem_iff, List.map_cons, List.map_nil]
    · rcases List.mem_append.1 hp with hp | hp
      · have hne : p.1 ≠ t := fun e => ht (e ▸ List.mem_map_of_mem _ hp)
        rw [List.count_append, List.count_singleton, h.count_eq p hp]
        simp [Ne.symm hne]
      · obtain rfl := List.mem_singleton.1 hp
        simp [List.count_eq_zero_of_not_mem hn]
    · simp [h.sum_eq]

/-- The loop from counts meeting `TallySpec` for the names seen so far. -/
theorem tallySpec_foldl (bottlenecks : List Bottleneck) :
    ∀ {names : List String} {counts : List (String × ℕ)}, TallySpec names counts →
      TallySpec (names ++ bottlenecks.map (·.type.name))
        (bottlenecks.foldl (fun counts b => tallyType counts b.type.name) counts) := by
  induction bottlenecks with
  | nil => intro names counts h; simpa using h
  | cons b bs ih =>
    intro names counts h
    simpa using ih (h.tallyType b.type.name)

/-- The `bottleneck_types` loop: one entry per type that occurs, distinct keys, each counting
the findings of its type, and the counts summing to the number of findings. -/
theorem tallySpec_bottleneckTypeCounts (bottlenecks : List Bottleneck) :
    TallySpec (bottlenecks.map (·.type.name)) (bottleneckTypeCounts bottlenecks) := by
  simpa using tallySpec_foldl bottlenecks
    (show TallySpec [] [] from ⟨List.nodup_nil, by simp, by simp, rfl⟩)

theorem bottleneckTypeCounts_ne_nil {bottlenecks : List Bottleneck} (h : bottlenecks ≠ []) :
    bottleneckTypeCounts bottlenecks ≠ [] := by
  obtain ⟨b, hb⟩ := List.exists_mem_of_ne_nil _ h
  intro hnil
  have := ((tallySpec_bottleneckTypeCounts bottlenecks).mem_iff b.type.name).2
    (List.mem_map_of_mem _ hb)
  simp [hnil] at this

/-- The bottleneck block draws one chart iff there is a finding, and its bars are the counts
of the loop. -/
theorem bottleneckSummaryCharts_eq (outputDir : String) (bottlenecks : List Bottleneck) :
    bottleneckSummaryCharts outputDir bottlenecks =
      if bottlenecks ≠ [] then [bottleneckSummaryChart outputDir (bottleneckTypeCounts bottlenecks)]
      else [] := by
  unfold bottleneckSummaryCharts
  split
  case isTrue h => rw [if_pos (bottleneckTypeCounts_ne_nil h)]
  case isFalse => rfl

/-- The bottleneck block draws a chart iff there is a finding. Its bars are the bottleneck
types that occur, each once, with the number of findings of that type, and the counts sum
to the number of findings. -/
theorem bottleneckSummaryCharts_counts (outputDir : String) (bottlenecks : List Bottleneck) :
    (bottleneckSummaryCharts outputDir bottlenecks ≠ [] ↔ bottlenecks ≠ []) ∧
      ∀ c ∈ bottleneckSummaryCharts outputDir bottlenecks, ∃ counts,
        c.figure = .bar (counts.map Prod.fst) (counts.map fun p => (p.2 : ℚ)) ∧
          TallySpec (bottlenecks.map (·.type.name)) counts := by
  rw [bottleneckSummaryCharts_eq]
  split
  case isTrue h =>
    refine ⟨by simpa using h, fun c hc => ⟨_, ?_, tallySpec_bottleneckTypeCounts bottlenecks⟩⟩
    rw [List.mem_singleton.1 hc]
    rfl
  case isFalse h => simp [h]

/-! ## §5 The documented charts -/

/-- The figures the analyzer's documentation describes for one facet: a throughput line over
a non-empty series, then, when the facet has a scalability sample, an efficiency bar over its
size pairs. -/
def documentedFacetFigures : Option SeriesAnalysis → List Figure
  | some analysis =>
    if analysis.data ≠ [] then
      .line (analysis.data.map Sample.size) (analysis.data.map Sample.throughput) ::
        (if analysis.scalability ≠ [] then
          [.floatBar (analysis.scalability.map pairLabel) (analysis.scalability.map (·.efficiency))]
         else [])
    else []
  | none => []

/-- The figures the documentation describes, facet by facet in the order transaction, shard
creation, cross-shard, then the summary of the bottleneck counts when there is a finding. -/
def documentedFigures (r : AnalysisResults) : List Figure :=
  documentedFacetFigures (r.transactionAnalysis.bind (·.throughputAnalysis)) ++
    documentedFacetFigures (r.shardingAnalysis.bind (·.creationAnalysis)) ++
    documentedFacetFigures (r.shardingAnalysis.bind (·.crossShardAnalysis)) ++
    (if r.bottlenecks ≠ [] then
      [.bar ((bottleneckTypeCounts r.bottlenecks).map Prod.fst)
        ((bottleneckTypeCounts r.bottlenecks).map fun p => (p.2 : ℚ))]
     else [])

/-- The efficiency bar the documentation describes for a sharding facet. -/
def missingEfficiency : Option SeriesAnalysis → List Figure
  | some analysis =>
    if analysis.data ≠ [] ∧ analysis.scalability ≠ [] then
      [.floatBar (analysis.scalability.map pairLabel) (analysis.scalability.map (·.efficiency))]
    else []
  | none => []

theorem missingEfficiency_eq_nil_iff (o : Option SeriesAnalysis) :
    missingEfficiency o = [] ↔ ∀ a ∈ o, a.data ≠ [] → a.scalability = [] := by
  cases o with
  | none => simp [missingEfficiency]
  | some a =>
    simp only [missingEfficiency, Option.mem_def, Option.some.injEq, forall_eq']
    split <;> simp_all

theorem transactionCharts_figures (outputDir : String) (t : Option TransactionAnalysis) :
    (transactionCharts outputDir t).map DrawnChart.figure =
      documentedFacetFigures (t.bind (·.throughputAnalysis)) := by
  match t with
  | none => rfl
  | some ⟨none⟩ => rfl
  | some ⟨some a⟩ =>
    simp only [transactionCharts, documentedFacetFigures, Option.some_bind]
    split
    · split <;> rfl
    · rfl

/-- A sharding block draws the documented figures of its facet but the efficiency bar. -/
theorem seriesThroughputCharts_figures (outputDir fileName title description : String)
    (o : Option SeriesAnalysis) :
    documentedFacetFigures o =
      (seriesThroughputCharts outputDir fileName title description o).map DrawnChart.figure ++
        missingEfficiency o := by
  cases o with
  | none => rfl
  | some a =>
    simp only [documentedFacetFigures, seriesThroughputCharts, missingEfficiency, ne_eq]
    by_cases hd : a.data = [] <;> by_cases hs : a.scalability = [] <;> simp [hd, hs, throughputChart]

/-- The figures drawn, against the documented ones: all but the two sharding facets'
efficiency bars. -/
theorem documentedFigures_eq (r : AnalysisResults) (outputDir : String) :
    documentedFigures r =
      (transactionCharts outputDir r.transactionAnalysis).map DrawnChart.figure ++
        ((creationCharts outputDir (r.shardingAnalysis.bind (·.creationAnalysis))).map
            DrawnChart.figure ++ missingEfficiency (r.shardingAnalysis.bind (·.creationAnalysis))) ++
        ((crossShardCharts outputDir (r.shardingAnalysis.bind (·.crossShardAnalysis))).map
            DrawnChart.figure ++ missingEfficiency (r.shardingAnalysis.bind (·.crossShardAnalysis))) ++
        (bottleneckSummaryCharts outputDir r.bottlenecks).map DrawnChart.figure := by
  rw [documentedFigures, transactionCharts_figures, creationCharts, crossShardCharts,
    ← seriesThroughputCharts_figures, ← seriesThroughputCharts_figures, bottleneckSummaryCharts_eq]
  split <;> rfl

theorem shardingCharts_eq (outputDir : String) (s : Option ShardingAnalysis) :
    shardingCharts outputDir s =
      creationCharts outputDir (s.bind (·.creationAnalysis)) ++
        crossShardCharts outputDir (s.bind (·.crossShardAnalysis)) := by
  cases s <;> rfl

/-- The figures `generate_charts` draws are the documented ones exactly when neither sharding
facet has a non-empty series with a scalability sample: the code draws a scalability chart
for the transaction facet only. -/
theorem generateCharts_figures_eq_documented_iff (r : AnalysisResults) (outputDir : String) :
    (generateCharts r outputDir).map DrawnChart.figure = documentedFigures r ↔
      (∀ a ∈ r.shardingAnalysis.bind (·.creationAnalysis), a.data ≠ [] → a.scalability = []) ∧
        (∀ a ∈ r.shardingAnalysis.bind (·.crossShardAnalysis), a.data ≠ [] → a.scalability = []) := by
  rw [← missingEfficiency_eq_nil_iff, ← missingEfficiency_eq_nil_iff,
    documentedFigures_eq r outputDir, generateCharts, shardingCharts_eq]
  simp only [List.map_append, List.append_assoc]
  constructor
  · intro h
    have hlen := congrArg List.length h
    simp only [List.length_append] at hlen
    exact ⟨List.length_eq_zero.1 (by omega), List.length_eq_zero.1 (by omega)⟩
  · rintro ⟨h₁, h₂⟩
    rw [h₁, h₂, List.nil_append, List.nil_append]

/-! ## §6 The sharding facets of an analysis -/

/-- The analysis of an accepted series of two or more samples has a scalability entry. -/
theorem analyzeSeries_scalability_ne_nil (py : CPython) {xs : List Sample}
    (h : SeriesAccepted xs) (hx : 2 ≤ xs.length) :
    ∃ a, analyzeSeries py xs = .ok a ∧ a.data = xs ∧ a.scalability ≠ [] := by
  obtain ⟨a, ha, hd, hs, -⟩ := analyzeSeries_ok py h
  refine ⟨a, ha, hd, ?_⟩
  rw [hs, ne_eq, List.map_eq_nil_iff, List.range'_eq_nil]
  omega

/-- For every two accepted sharding series of two or more samples, `main`'s analysis stage
succeeds, and `generate_charts` draws their two throughput lines only: the documentation
describes four figures, the two efficiency bars included. -/
theorem generateCharts_omits_sharding_efficiency (py : CPython) {xs ys : List Sample}
    (hxs : SeriesAccepted xs) (hys : SeriesAccepted ys) (hx : 2 ≤ xs.length)
    (hy : 2 ≤ ys.length) (outputDir : String) :
    ∃ r, analysisStage py none (some ⟨none, some ⟨some xs, some ys⟩⟩) = .ok r ∧
      (generateCharts r outputDir).map DrawnChart.figure =
        [.line (xs.map Sample.size) (xs.map Sample.throughput),
          .line (ys.map Sample.size) (ys.map Sample.throughput)] ∧
      (documentedFigures r).length = 4 := by
  obtain ⟨a, ha, hda, hsa⟩ := analyzeSeries_scalability_ne_nil py hxs hx
  obtain ⟨b, hb, hdb, hsb⟩ := analyzeSeries_scalability_ne_nil py hys hy
  refine ⟨⟨none, some ⟨some a, some b⟩, []⟩, ?_, ?_, ?_⟩
  · simp [analysisStage, analyzeShardingPerformance, analyzeFacet, ha, hb]
  · simp [generateCharts, transactionCharts, shardingCharts, creationCharts, crossShardCharts,
      seriesThroughputCharts, throughputChart, bottleneckSummaryCharts, hda, hdb, hxs.1, hys.1]
  · simp [documentedFigures, documentedFacetFigures, hda, hdb, hsa, hsb, hxs.1, hys.1]

/-- Two shard-creation and two cross-shard samples: the code draws two figures where the
documentation describes four. -/
theorem generateCharts_omits_sharding_efficiency_two_samples :
    SeriesAccepted [⟨1, .ofInt 10⟩, ⟨2, .ofInt 15⟩] ∧
      SeriesAccepted [⟨10, .ofInt 100⟩, ⟨20, .ofInt 150⟩] ∧
      2 ≤ [(⟨1, .ofInt 10⟩ : Sample), ⟨2, .ofInt 15⟩].length ∧
      2 ≤ [(⟨10, .ofInt 100⟩ : Sample), ⟨20, .ofInt 150⟩].length ∧
      ∃ r, analysisStage .v311 none (some ⟨none,
          some ⟨some [⟨1, .ofInt 10⟩, ⟨2, .ofInt 15⟩], some [⟨10, .ofInt 100⟩, ⟨20, .ofInt 150⟩]⟩⟩) =
          .ok r ∧
        (generateCharts r "target/analysis").map DrawnChart.figure =
          [.line [1, 2] [.ofInt 10, .ofInt 15], .line [10, 20] [.ofInt 100, .ofInt 150]] ∧
        (documentedFigures r).length = 4 := by
  have hpos : ∀ l : List Sample, (∀ x ∈ l, 0 < x.size ∧ x.throughput.isPosFinite = true) →
      ∀ x ∈ l, 0 < x.size ∧ PyFloat.zero < x.throughput :=
    fun l h x hx => ⟨(h x hx).1, zero_lt_of_isPosFinite (h x hx).2⟩
  have hx : SeriesAccepted [⟨1, .ofInt 10⟩, ⟨2, .ofInt 15⟩] :=
    seriesAccepted_of_pos (by simp) (hpos _ (by decide)) (by norm_num [overflowThreshold])
  have hy : SeriesAccepted [⟨10, .ofInt 100⟩, ⟨20, .ofInt 150⟩] :=
    seriesAccepted_of_pos (by simp) (hpos _ (by decide)) (by norm_num [overflowThreshold])
  exact ⟨hx, hy, by decide, by decide,
    generateCharts_omits_sharding_efficiency .v311 hx hy (by decide) (by decide) "target/analysis"⟩

end ShardX.Analyzer
