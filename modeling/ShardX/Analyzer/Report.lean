import ShardX.Analyzer.Detect
import Mathlib.Data.String.Basic

/-!
# HTML Report

`generate_html_report` writes `bottleneck_analysis.html` as a fixed sequence of `f.write`
calls: the head with its style sheet, the generation time, a summary of the findings, the
charts, one block per finding, the facet tables and the recommendations. Each text the
calls take from the analysis or from a chart goes into its f-string as it is, unescaped.
`main` stores what `identify_bottlenecks` returns under `analysis_results['bottlenecks']`
before writing the report; `htmlReportStage` is that part of `main`.

The element structure of a document is what an HTML tokenizer reads from it: its tags, in
order. `TagScan` runs the tokenizer's data, tag-open and tag states. As in HTML, a `<`
opens a tag only before a letter, `/` or `!`, and any other `<` is text. Quoted attribute
values are not tracked; no text compared below stands inside one.

Main results:
- `elementStructure_eq_of_descriptions`: two analysis results that differ only in their
  findings' descriptions, none of which holds a `<`, give documents with the same element
  structure;
- `htmlReportStage_elementStructure_eq`: two runs of detection and report whose profiles
  differ only in function names write documents with the same element structure when no
  function name holds a `<`;
- `htmlReportStage_function_name_opens_element`: a hotspot named
  `<alloc::vec::Vec<T> as Drop>::drop` adds an element that the name `drop` does not.
-/

namespace ShardX.Analyzer

open ShardX.Python

/-! ## §1 The document -/

/-- `os.path.basename`: the text after the last `/`. -/
def basename (path : String) : String :=
  String.mk (path.data.reverse.takeWhile (· ≠ '/')).reverse

/-- The writes from `<!DOCTYPE html>` to the opening of the container. -/
def reportHead : String :=
  "<!DOCTYPE html>\n" ++
  "<html lang=\"ja\">\n" ++
  "<head>\n" ++
  "  <meta charset=\"UTF-8\">\n" ++
  "  <meta name=\"viewport\" content=\"width=device-width, initial-scale=1.0\">\n" ++
  "  <title>ShardX パフォーマンスボトルネック分析レポート</title>\n" ++
  "  <style>\n" ++
  "    body \x7b font-family: Arial, sans-serif; margin: 0; padding: 20px; " ++
    "line-height: 1.6; \x7d\n" ++
  "    h1, h2, h3 \x7b color: #333; \x7d\n" ++
  "    .container \x7b max-width: 1200px; margin: 0 auto; \x7d\n" ++
  "    .summary \x7b background-color: #f5f5f5; padding: 15px; border-radius: 5px; " ++
    "margin-bottom: 20px; \x7d\n" ++
  "    .bottleneck \x7b margin-bottom: 15px; padding: 10px; border-left: 4px solid #ccc; \x7d\n" ++
  "    .bottleneck.high \x7b border-color: #d9534f; background-color: #f9e6e6; \x7d\n" ++
  "    .bottleneck.medium \x7b border-color: #f0ad4e; background-color: #fcf8e3; \x7d\n" ++
  "    .bottleneck.low \x7b border-color: #5bc0de; background-color: #e8f4f8; \x7d\n" ++
  "    .chart \x7b margin-bottom: 30px; \x7d\n" ++
  "    .chart img \x7b max-width: 100%; height: auto; \x7d\n" ++
  "    table \x7b width: 100%; border-collapse: collapse; margin-bottom: 20px; \x7d\n" ++
  "    th, td \x7b padding: 8px; text-align: left; border-bottom: 1px solid #ddd; \x7d\n" ++
  "    th \x7b background-color: #f2f2f2; \x7d\n" ++
  "  </style>\n" ++
  "</head>\n" ++
  "<body>\n" ++
  "  <div class=\"container\">\n"

/-- The report header: the title and the generation time, `now` being
`datetime.now().strftime('%Y-%m-%d %H:%M:%S')`. -/
def reportHeader (now : String) : String :=
  "    <h1>ShardX パフォーマンスボトルネック分析レポート</h1>\n" ++
  "    <p>生成日時: " ++ now ++ "</p>\n"

/-- The summary: the number of findings and of each severity, or the all-clear. -/
def summarySection (bottlenecks : List Bottleneck) : String :=
  "    <div class=\"summary\">\n" ++
  (if bottlenecks ≠ [] then
    "      <h2>検出されたボトルネック: " ++ toString bottlenecks.length ++ "件</h2>\n" ++
    "      <ul>\n" ++
    "        <li>重要度の高いボトルネック: " ++
      toString (bottlenecks.filter fun b => b.severity = .high).length ++ "件</li>\n" ++
    "        <li>重要度の中程度のボトルネック: " ++
      toString (bottlenecks.filter fun b => b.severity = .medium).length ++ "件</li>\n" ++
    "        <li>重要度の低いボトルネック: " ++
      toString (bottlenecks.filter fun b => b.severity = .low).length ++ "件</li>\n" ++
    "      </ul>\n"
  else
    "      <h2>ボトルネックは検出されませんでした</h2>\n" ++
    "      <p>現在のパフォーマンスは良好です。定期的なモニタリングを継続してください。</p>\n") ++
  "    </div>\n"

/-- One chart's block: its title twice, the file name of its image and its description. -/
def chartBlock (chart : Chart) : String :=
  "    <div class=\"chart\">\n" ++
  "      <h3>" ++ chart.title ++ "</h3>\n" ++
  "      <img src=\"" ++ basename chart.path ++ "\" alt=\"" ++ chart.title ++ "\">\n" ++
  "      <p>" ++ chart.description ++ "</p>\n" ++
  "    </div>\n"

/-- The charts, under a heading when there is one. -/
def chartsSection (charts : List Chart) : String :=
  if charts ≠ [] then
    "    <h2>パフォーマンスチャート</h2>\n" ++ String.join (charts.map chartBlock)
  else ""

/-- One finding's block, classed by its severity. -/
def bottleneckBlock (b : Bottleneck) : String :=
  "    <div class=\"bottleneck " ++ b.severity.name ++ "\">\n" ++
  "      <h3>" ++ b.type.name ++ "</h3>\n" ++
  "      <p><strong>重要度:</strong> " ++ b.severity.name ++ "</p>\n" ++
  "      <p><strong>説明:</strong> " ++ b.description ++ "</p>\n" ++
  "      <p><strong>推奨対策:</strong> " ++ b.recommendation ++ "</p>\n" ++
  "    </div>\n"

/-- The findings in detail, under a heading when there is one. -/
def detailsSection (bottlenecks : List Bottleneck) : String :=
  if bottlenecks ≠ [] then
    "    <h2>ボトルネックの詳細</h2>\n" ++ String.join (bottlenecks.map bottleneckBlock)
  else ""

/-- The evaluation column of a scalability row. -/
def evaluation (efficiency : PyFloat) : String :=
  if .ofDecimal 9 (-1) ≤ efficiency then "良好"
  else if .ofDecimal 7 (-1) ≤ efficiency then "許容範囲"
  else "改善が必要"

/-- One row of the transaction scalability table. -/
def scalabilityRow (item : ScalabilityItem) : String :=
  "      <tr><td>" ++ toString item.countFrom ++ " → " ++ toString item.countTo ++ "</td>" ++
  "<td>" ++ formatFixed item.efficiency 2 ++ "</td><td>" ++ evaluation item.efficiency ++
    "</td></tr>\n"

/-- The minimum, maximum and mean table of a facet; `unit` is ` TPS` or ` シャード/秒`. -/
def metricsTable (analysis : SeriesAnalysis) (unit : String) : String :=
  "    <table>\n" ++
  "      <tr><th>指標</th><th>値</th></tr>\n" ++
  "      <tr><td>最小スループット</td><td>" ++ formatFixed analysis.minValue 2 ++ unit ++
    "</td></tr>\n" ++
  "      <tr><td>最大スループット</td><td>" ++ formatFixed analysis.maxValue 2 ++ unit ++
    "</td></tr>\n" ++
  "      <tr><td>平均スループット</td><td>" ++ formatFixed analysis.avgValue 2 ++ unit ++
    "</td></tr>\n" ++
  "    </table>\n"

/-- The transaction analysis: the throughput table and, when there is a scalability entry,
the scalability table. -/
def transactionSection : Option TransactionAnalysis → String
  | some tx =>
    "    <h2>トランザクション処理の分析</h2>\n" ++
    match tx.throughputAnalysis with
    | some throughput =>
      metricsTable throughput " TPS" ++
      if throughput.scalability ≠ [] then
        "    <h3>スケーラビリティ分析</h3>\n" ++
        "    <table>\n" ++
        "      <tr><th>トランザクション数の範囲</th><th>効率</th><th>評価</th></tr>\n" ++
        String.join (throughput.scalability.map scalabilityRow) ++
        "    </table>\n"
      else ""
    | none => ""
  | none => ""

/-- The sharding analysis: the shard creation and the cross-shard tables. -/
def shardingSection : Option ShardingAnalysis → String
  | some shard =>
    "    <h2>シャーディングの分析</h2>\n" ++
    (match shard.creationAnalysis with
     | some creation =>
       "    <h3>シャード作成パフォーマンス</h3>\n" ++ metricsTable creation " シャード/秒"
     | none => "") ++
    (match shard.crossShardAnalysis with
     | some crossShard =>
       "    <h3>クロスシャードトランザクションパフォーマンス</h3>\n" ++
         metricsTable crossShard " TPS"
     | none => "")
  | none => ""

/-- The recommendations: one item per finding, or the all-clear. -/
def recommendationsSection (bottlenecks : List Bottleneck) : String :=
  "    <h2>推奨事項</h2>\n" ++
  "    <ul>\n" ++
  (if bottlenecks ≠ [] then
    String.join (bottlenecks.map fun b => "      <li>" ++ b.recommendation ++ "</li>\n")
  else "      <li>現在のパフォーマンスは良好です。定期的なモニタリングを継続してください。</li>\n") ++
  "    </ul>\n"

/-- The writes that close the container and the document. -/
def reportFoot : String :=
  "  </div>\n" ++
  "</body>\n" ++
  "</html>\n"

/-- The text `generate_html_report(analysis_results, charts, output_dir)` writes, at the
time `now`. -/
def generateHtmlReport (analysisResults : AnalysisResults) (charts : List Chart)
    (now : String) : String :=
  reportHead ++ reportHeader now ++ summarySection analysisResults.bottlenecks ++
    chartsSection charts ++ detailsSection analysisResults.bottlenecks ++
    transactionSection analysisResults.transactionAnalysis ++
    shardingSection analysisResults.shardingAnalysis ++
    recommendationsSection analysisResults.bottlenecks ++ reportFoot

/-- `main` from `identify_bottlenecks` to `generate_html_report`: the findings are stored in
the analysis and the report written from it. -/
def htmlReportStage (analysis : AnalysisResults) (cpuProfile : Option CpuProfile)
    (memoryProfile : Option MemoryProfile) (threshold : PyFloat) (charts : List Chart)
    (now : String) : Except PyExc String := do
  let bottlenecks ← identifyBottlenecks analysis cpuProfile memoryProfile threshold
  return generateHtmlReport { analysis with bottlenecks } charts now

/-! ## §2 The element structure -/

/-- Where the tokenizer is: in character data, just after a `<`, or inside a tag with the
text read since its `<`. -/
inductive TokenState where
  | data
  | tagOpen
  | tag (text : List Char)
  deriving DecidableEq, Repr

/-- The tokenizer's state and the tags it has closed so far. -/
structure TagScan where
  state : TokenState
  tags : List (List Char)
  deriving DecidableEq, Repr

/-- One character. A `<` in data may open a tag, which it does before a letter, `/` or `!`;
a `>` closes the open tag. -/
def TagScan.step (s : TagScan) (c : Char) : TagScan :=
  match s.state with
  | .data => if c = '<' then ⟨.tagOpen, s.tags⟩ else s
  | .tagOpen =>
    if c.isAlpha ∨ c = '/' ∨ c = '!' then ⟨.tag [c], s.tags⟩
    else if c = '<' then s
    else ⟨.data, s.tags⟩
  | .tag t => if c = '>' then ⟨.data, s.tags ++ [t]⟩ else ⟨.tag (t ++ [c]), s.tags⟩

/-- The tokenizer over a text. -/
def TagScan.run (s : TagScan) (cs : List Char) : TagScan := cs.foldl TagScan.step s

/-- The tags of a document, in order. -/
def elementStructure (doc : String) : List (List Char) :=
  (TagScan.run ⟨.data, []⟩ doc.data).tags

example : elementStructure "<p>a < b</p>" = ["p".data, "/p".data] := by decide

theorem elementStructure_eq_run (doc : String) :
    elementStructure doc = (TagScan.run ⟨.data, []⟩ doc.data).tags := rfl

/-! ## §3 Text the tokenizer passes over -/

namespace TagScan

@[simp] theorem run_nil (s : TagScan) : s.run [] = s := rfl

@[simp] theorem run_cons (s : TagScan) (c : Char) (cs : List Char) :
    s.run (c :: cs) = (s.step c).run cs := rfl

theorem run_append (s : TagScan) (a b : List Char) : s.run (a ++ b) = (s.run a).run b :=
  List.foldl_append _ _ _ _

/-- Text without a `<` leaves character data as it is. -/
theorem run_of_data {s : TagScan} (hs : s.state = .data) {cs : List Char} (h : '<' ∉ cs) :
    s.run cs = s := by
  induction cs with
  | nil => rfl
  | cons c cs ih =>
    rw [List.mem_cons, not_or] at h
    have hc : s.step c = s := by simp [step, hs, Ne.symm h.1]
    rw [run_cons, hc, ih h.2]

/-- A `>` closes the open tag or is text: after a `>` and no `<`, the tokenizer is in
character data, whatever its state before. -/
theorem state_run_gt (s : TagScan) {cs : List Char} (h : '<' ∉ cs) :
    (s.run ('>' :: cs)).state = .data := by
  have hgt : (s.step '>').state = .data := by
    unfold step
    split <;> simp [*]
  rw [run_cons, run_of_data hgt h, hgt]

/-- The text has a `>` with no `<` after it. -/
def closesTag : List Char → Bool
  | [] => false
  | c :: cs => closesTag cs || (c == '>' && !decide ('<' ∈ cs))

/-- After a text with a `>` and no `<` after it, the tokenizer is in character data,
whatever its state before. -/
theorem state_run_of_closesTag (s : TagScan) {cs : List Char} (h : closesTag cs = true) :
    (s.run cs).state = .data := by
  induction cs generalizing s with
  | nil => cases h
  | cons c cs ih =>
    simp only [closesTag, Bool.or_eq_true, Bool.and_eq_true, beq_iff_eq, Bool.not_eq_true',
      decide_eq_false_iff_not] at h
    rcases h with h | ⟨rfl, h⟩
    · exact ih _ h
    · exact s.state_run_gt h

/-- The tags closed so far are kept, and the rest is found as from no tags. -/
theorem step_tags (q : TokenState) (ts : List (List Char)) (c : Char) :
    step ⟨q, ts⟩ c = ⟨(step ⟨q, []⟩ c).state, ts ++ (step ⟨q, []⟩ c).tags⟩ := by
  cases q <;> simp only [step] <;> split_ifs <;> simp

theorem run_tags (q : TokenState) (ts : List (List Char)) (cs : List Char) :
    run ⟨q, ts⟩ cs = ⟨(run ⟨q, []⟩ cs).state, ts ++ (run ⟨q, []⟩ cs).tags⟩ := by
  induction cs generalizing q ts with
  | nil => simp
  | cons c cs ih =>
    rw [run_cons, run_cons, step_tags q ts c]
    generalize step ⟨q, []⟩ c = σ
    obtain ⟨q', n⟩ := σ
    rw [ih q' (ts ++ _), ih q' n]
    simp

end TagScan

/-! ## §4 Findings that differ only in their descriptions -/

private theorem eq_nil_iff_of_map_eq {α β : Type} {f : α → β} {l₁ l₂ : List α}
    (h : l₁.map f = l₂.map f) : l₁ = [] ↔ l₂ = [] := by
  rw [← List.map_eq_nil_iff, h, List.map_eq_nil_iff]

/-- The summary reads the findings' severities only. -/
theorem summarySection_congr {bs₁ bs₂ : List Bottleneck}
    (h : bs₁.map (·.severity) = bs₂.map (·.severity)) :
    summarySection bs₁ = summarySection bs₂ := by
  have hlen : bs₁.length = bs₂.length := by simpa using congrArg List.length h
  have hcount : ∀ s : Severity, (bs₁.filter fun b => b.severity = s).length =
      (bs₂.filter fun b => b.severity = s).length := fun s => by
    simpa [List.filter_map, Function.comp_def] using
      congrArg (fun l => (l.filter (· = s)).length) h
  simp only [summarySection, hlen, hcount, ne_eq, eq_nil_iff_of_map_eq h]

/-- The recommendations section reads the findings' recommendations only. -/
theorem recommendationsSection_congr {bs₁ bs₂ : List Bottleneck}
    (h : bs₁.map (·.recommendation) = bs₂.map (·.recommendation)) :
    recommendationsSection bs₁ = recommendationsSection bs₂ := by
  have hitems := congrArg (List.map fun r => "      <li>" ++ r ++ "</li>\n") h
  simp only [List.map_map, Function.comp_def] at hitems
  simp only [recommendationsSection, hitems, ne_eq, eq_nil_iff_of_map_eq h]

theorem htmlReportStage_eq (analysis : AnalysisResults) (cpuProfile : Option CpuProfile)
    (memoryProfile : Option MemoryProfile) (θ : PyFloat) (charts : List Chart) (now : String) :
    htmlReportStage analysis cpuProfile memoryProfile θ charts now =
      .ok (generateHtmlReport
        { analysis with bottlenecks := expectedBottlenecks analysis cpuProfile memoryProfile θ }
        charts now) := by
  simp only [htmlReportStage, identifyBottlenecks, transactionBlock_eq, shardingBlock_eq,
    cpuBlock_eq, memoryBlock_eq, expectedBottlenecks, List.nil_append, List.append_assoc,
    except_ok_bind, except_pure_eq]

/-- The tokenizer is in the same state in `x` and `y`, and `x` has closed one tag more. -/
def OneMoreTag (x y : TagScan) : Prop := x.state = y.state ∧ x.tags.length = y.tags.length + 1

theorem OneMoreTag.run {x y : TagScan} (h : OneMoreTag x y) (cs : List Char) :
    OneMoreTag (x.run cs) (y.run cs) := by
  obtain ⟨q, tx⟩ := x
  obtain ⟨q', ty⟩ := y
  obtain ⟨rfl, hlen⟩ := h
  rw [TagScan.run_tags q tx, TagScan.run_tags q ty]
  exact ⟨rfl, by simp only [List.length_append] at hlen ⊢; omega⟩

/-- Read in character data, a text that closes one tag of its own leaves one tag more than
a text without `<`. -/
theorem OneMoreTag.of_text {σ : TagScan} (hσ : σ.state = .data) {d₁ d₂ : List Char}
    {tag : List Char} (h₁ : TagScan.run ⟨.data, []⟩ d₁ = ⟨.data, [tag]⟩) (h₂ : '<' ∉ d₂) :
    OneMoreTag (σ.run d₁) (σ.run d₂) := by
  obtain ⟨q, ts⟩ := σ
  cases hσ
  rw [TagScan.run_tags, h₁, TagScan.run_of_data rfl h₂]
  exact ⟨rfl, List.length_append _ _⟩

/-- In a document with one finding, a description that closes a tag of its own gives one
element more than a description without `<`. -/
theorem elementStructure_single_finding {t : BottleneckType} {sev : Severity}
    {rec d₁ d₂ : String} {tag : List Char} (charts : List Chart) (now : String)
    (tx : Option TransactionAnalysis) (sh : Option ShardingAnalysis)
    (h₁ : TagScan.run ⟨.data, []⟩ d₁.data = ⟨.data, [tag]⟩) (h₂ : '<' ∉ d₂.data) :
    (elementStructure (generateHtmlReport ⟨tx, sh, [⟨t, sev, d₁, rec⟩]⟩ charts now)).length =
      (elementStructure (generateHtmlReport ⟨tx, sh, [⟨t, sev, d₂, rec⟩]⟩ charts now)).length
        + 1 := by
  have hsev : [(⟨t, sev, d₁, rec⟩ : Bottleneck)].map (·.severity) =
      [(⟨t, sev, d₂, rec⟩ : Bottleneck)].map (·.severity) := rfl
  have hrec : [(⟨t, sev, d₁, rec⟩ : Bottleneck)].map (·.recommendation) =
      [(⟨t, sev, d₂, rec⟩ : Bottleneck)].map (·.recommendation) := rfl
  suffices h : OneMoreTag (TagScan.run ⟨.data, []⟩
      (generateHtmlReport ⟨tx, sh, [⟨t, sev, d₁, rec⟩]⟩ charts now).data)
      (TagScan.run ⟨.data, []⟩ (generateHtmlReport ⟨tx, sh, [⟨t, sev, d₂, rec⟩]⟩ charts now).data)
    by rw [elementStructure_eq_run, elementStructure_eq_run]; exact h.2
  rw [generateHtmlReport, generateHtmlReport, summarySection_congr hsev,
    recommendationsSection_congr hrec]
  simp only [String.data_append, TagScan.run_append]
  refine OneMoreTag.run (OneMoreTag.run (OneMoreTag.run (OneMoreTag.run ?_ _) _) _) _
  simp only [detailsSection, ne_eq, List.cons_ne_nil, not_false_eq_true, if_true, List.map_cons,
    List.map_nil, String.data_append, String.data_join, List.flatten_cons, List.flatten_nil,
    List.append_nil, bottleneckBlock, TagScan.run_append]
  refine OneMoreTag.run (OneMoreTag.run (OneMoreTag.run (OneMoreTag.run
    (OneMoreTag.run (OneMoreTag.of_text (TagScan.state_run_of_closesTag _ ?_) h₁ h₂) _) _) _) _) _
  decide

/-- Two runs that differ only in one CPU hotspot's function name, at 50 % overhead over a
10 % threshold: `<alloc::vec::Vec<T> as Drop>::drop` opens an element `drop` does not. -/
theorem htmlReportStage_function_name_opens_element :
    ∃ doc₁ doc₂,
      htmlReportStage ⟨none, none, []⟩
        (some ⟨[⟨.ofInt 50, "<alloc::vec::Vec<T> as Drop>::drop"⟩]⟩)
        none (.ofInt 10) [] "2025-01-01 00:00:00" = .ok doc₁ ∧
      htmlReportStage ⟨none, none, []⟩ (some ⟨[⟨.ofInt 50, "drop"⟩]⟩)
        none (.ofInt 10) [] "2025-01-01 00:00:00" = .ok doc₂ ∧
      (elementStructure doc₁).length = (elementStructure doc₂).length + 1 := by
  have h10 : PyFloat.ofInt 10 < .ofInt 50 := by decide
  have h30 : PyFloat.ofInt 30 < .ofInt 50 := by decide
  have hfinding : ∀ name, expectedBottlenecks ⟨none, none, []⟩ (some ⟨[⟨.ofInt 50, name⟩]⟩) none
      (.ofInt 10) =
      [⟨.cpuHotspot, .high, cpuHotspotDescription ⟨.ofInt 50, name⟩, cpuHotspotRecommendation⟩] := by
    intro name
    simp [expectedBottlenecks, expectedScalabilityFindings, transactionScalability,
      creationScalability, crossShardScalability, expectedCpuFindings, expectedLeakFindings,
      expectedMemoryHotspotFindings, h10, h30]
  have hopens : TagScan.run ⟨.data, []⟩
      (cpuHotspotDescription ⟨.ofInt 50, "<alloc::vec::Vec<T> as Drop>::drop"⟩).data =
      ⟨.data, ["alloc::vec::Vec<T".data]⟩ := by decide
  refine ⟨_, _, htmlReportStage_eq .., htmlReportStage_eq .., ?_⟩
  simp only [hfinding]
  exact elementStructure_single_finding _ _ _ _ hopens (by decide)

end ShardX.Analyzer
