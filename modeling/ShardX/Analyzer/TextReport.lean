import ShardX.Analyzer.Report

/-!
# Text Report, and the Two Verdicts on a Scalability Row

`generate_text_report` writes `bottleneck_analysis.txt` with the sections of the HTML report
as plain lines: the title under a rule of `=`, the generation time, the findings with their
per-severity counts and a numbered block each, the facet statistics, and the
recommendations. Like the HTML report it rates every row of the transaction scalability
table `良好` from efficiency `0.9`, `許容範囲` from `0.7`, and `改善が必要` below.

`identify_bottlenecks` judges the same rows with its own cut: a row becomes a finding when its
efficiency is below the double `1.0 - threshold / 100`.

Main results:
- `scalabilityCheck_eq_nil_iff_good`: the detector reports no finding for a row exactly when
  both reports rate it `良好`, for every row whose efficiency is not `nan`, exactly when the
  cut `1.0 - threshold / 100 == 0.9` in doubles: at the command line's default `10.0`, and
  at the few thresholds next to it that round to the same cut, such as `10.000000000000002`.
  At any other threshold some efficiency is rated good and reported as a bottleneck, or
  rated below good and not reported. A `nan` efficiency is never reported and rated
  `改善が必要`.
-/

namespace ShardX.Analyzer

open ShardX.Python

/-! ## §1 The document -/

/-- `"-" * 50 + "\n\n"`, the rule under each section heading. -/
def sectionRule : String := String.mk (List.replicate 50 '-') ++ "\n\n"

/-- The title, its rule of `=` and the generation time `now`. -/
def textHeader (now : String) : String :=
  "ShardX パフォーマンスボトルネック分析レポート\n" ++
  String.mk (List.replicate 50 '=') ++ "\n\n" ++
  "生成日時: " ++ now ++ "\n\n"

/-- The block of the `i`-th finding, counted from 1. -/
def textBottleneckBlock (i : ℕ) (b : Bottleneck) : String :=
  "ボトルネック #" ++ toString i ++ " (" ++ b.severity.name ++ ")\n" ++
  "タイプ: " ++ b.type.name ++ "\n" ++
  "説明: " ++ b.description ++ "\n" ++
  "推奨対策: " ++ b.recommendation ++ "\n\n"

/-- The findings: their number, the count of each severity and the numbered blocks, or the
all-clear. -/
def textSummary (bottlenecks : List Bottleneck) : String :=
  if bottlenecks ≠ [] then
    "検出されたボトルネック: " ++ toString bottlenecks.length ++ "件\n\n" ++
    "重要度の高いボトルネック: " ++
      toString (bottlenecks.filter fun b => b.severity = .high).length ++ "件\n" ++
    "重要度の中程度のボトルネック: " ++
      toString (bottlenecks.filter fun b => b.severity = .medium).length ++ "件\n" ++
    "重要度の低いボトルネック: " ++
      toString (bottlenecks.filter fun b => b.severity = .low).length ++ "件\n\n" ++
    "ボトルネックの詳細\n" ++ sectionRule ++
    String.join ((bottlenecks.enumFrom 1).map fun p => textBottleneckBlock p.1 p.2)
  else "ボトルネックは検出されませんでした。\n\n"

/-- The minimum, maximum and mean lines of a facet; `unit` is ` TPS` or ` シャード/秒`. -/
def textMetrics (analysis : SeriesAnalysis) (unit : String) : String :=
  "最小スループット: " ++ formatFixed analysis.minValue 2 ++ unit ++ "\n" ++
  "最大スループット: " ++ formatFixed analysis.maxValue 2 ++ unit ++ "\n" ++
  "平均スループット: " ++ formatFixed analysis.avgValue 2 ++ unit ++ "\n\n"

/-- One line of the scalability analysis, with the rating of `evaluation` in brackets. -/
def textScalabilityLine (item : ScalabilityItem) : String :=
  "  トランザクション数 " ++ toString item.countFrom ++ " → " ++ toString item.countTo ++ ": " ++
  "効率 = " ++ formatFixed item.efficiency 2 ++ " " ++
  "(" ++ evaluation item.efficiency ++ ")\n"

/-- The transaction analysis: the throughput lines and, when there is a scalability entry,
one line per entry. -/
def textTransactionSection : Option TransactionAnalysis → String
  | some tx =>
    "トランザクション処理の分析\n" ++ sectionRule ++
    match tx.throughputAnalysis with
    | some throughput =>
      textMetrics throughput " TPS" ++
      if throughput.scalability ≠ [] then
        "スケーラビリティ分析:\n" ++ String.join (throughput.scalability.map textScalabilityLine) ++
          "\n"
      else ""
    | none => ""
  | none => ""

/-- The sharding analysis: the shard creation and the cross-shard lines. -/
def textShardingSection : Option ShardingAnalysis → String
  | some shard =>
    "シャーディングの分析\n" ++ sectionRule ++
    (match shard.creationAnalysis with
     | some creation => "シャード作成パフォーマンス:\n" ++ textMetrics creation " シャード/秒"
     | none => "") ++
    (match shard.crossShardAnalysis with
     | some crossShard =>
       "クロスシャードトランザクションパフォーマンス:\n" ++ textMetrics crossShard " TPS"
     | none => "")
  | none => ""

/-- The recommendations: one line per finding, or the all-clear. -/
def textRecommendations (bottlenecks : List Bottleneck) : String :=
  "推奨事項\n" ++ sectionRule ++
  if bottlenecks ≠ [] then String.join (bottlenecks.map fun b => "- " ++ b.recommendation ++ "\n")
  else "現在のパフォーマンスは良好です。定期的なモニタリングを継続してください。\n"

/-- The text `generate_text_report(analysis_results, output_dir)` writes, at the time
`now`. -/
def generateTextReport (analysisResults : AnalysisResults) (now : String) : String :=
  textHeader now ++ textSummary analysisResults.bottlenecks ++
    textTransactionSection analysisResults.transactionAnalysis ++
    textShardingSection analysisResults.shardingAnalysis ++
    textRecommendations analysisResults.bottlenecks

/-! ## §2 The detector's verdict and the reports' rating -/

/-- The detector's verdict on one row: no finding exactly when the row is not below the
cut. -/
theorem scalabilityCheck_singleton_eq_nil_iff (θ : PyFloat) (item : ScalabilityItem) :
    scalabilityCheck transactionScalabilityRule θ [] [item] = [] ↔
      ¬item.efficiency < scalabilityCut θ := by
  simp only [scalabilityCheck, List.foldl_cons, List.foldl_nil, scalabilityCut]
  split_ifs with h <;> simp [h]

/-- The reports rate a row `良好` exactly from efficiency `0.9`. -/
theorem evaluation_eq_good_iff (efficiency : PyFloat) :
    evaluation efficiency = "良好" ↔ .ofDecimal 9 (-1) ≤ efficiency := by
  unfold evaluation
  split_ifs with h₁ h₂
  · simpa using h₁
  · simp only [show "許容範囲" ≠ "良好" by decide, false_iff]
    exact h₁
  · simp only [show "改善が必要" ≠ "良好" by decide, false_iff]
    exact h₁

/-- The detector leaves a row out exactly when the HTML and text reports rate it `良好`, for
every row whose efficiency is not `nan`, exactly when the detector's cut
`1.0 - threshold / 100` equals the reports' `0.9` as doubles. A `nan` row is never reported
and rated `改善が必要`, so on it the two verdicts always disagree. -/
theorem scalabilityCheck_eq_nil_iff_good (θ : PyFloat) :
    ((∀ item : ScalabilityItem, item.efficiency ≠ .nan →
      (scalabilityCheck transactionScalabilityRule θ [] [item] = [] ↔
        evaluation item.efficiency = "良好")) ↔
      (scalabilityCut θ).ieeeEq (.ofDecimal 9 (-1)) = true) ∧
    ∀ item : ScalabilityItem, item.efficiency = .nan →
      scalabilityCheck transactionScalabilityRule θ [] [item] = [] ∧
        evaluation item.efficiency = "改善が必要" := by
  simp only [scalabilityCheck_singleton_eq_nil_iff, evaluation_eq_good_iff]
  refine ⟨?_, fun item h => ?_⟩
  · rw [← PyFloat.forall_not_lt_iff_le_iff (zero_lt_of_isPosFinite (by decide))]
    exact ⟨fun h e he => h ⟨0, 0, e, e, e⟩ he, fun h item => h item.efficiency⟩
  · have hlt : ∀ x : PyFloat, ¬PyFloat.nan < x := fun x h' =>
      PyFloat.ne_nan_of_lt_left h' rfl
    have hle : ∀ x : PyFloat, ¬x ≤ PyFloat.nan := fun x h' => PyFloat.ne_nan_of_le_right h' rfl
    simp [h, hlt, evaluation, hle]

end ShardX.Analyzer
