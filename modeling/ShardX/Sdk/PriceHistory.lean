import ShardX.Sdk.Ai
import ShardX.Sdk.Confirmation
import ShardX.Sdk.Display

/-!
# SDK AI Manager: Price History

`AIPredictionManager.get_price_history(pair, period="day", limit=30)` of
`shardx_sdk/ai.py` asks the client for the chart data of `"price"`, takes the first entry of
its `"data"` whose `"pair"` is `pair`, and turns the first `limit` of that entry's `"points"`
into `PricePoint(timestamp=point.get("timestamp"), price=str(point.get("value")))`. Any
exception of the body is caught by `except Exception as e` and raised again as
`ShardXError(f"Failed to get price history: {str(e)}", 0, "price_history_error")`.

The chart data is whatever JSON the client's `get_chart_data` returns, and the body reads it
with Python's own rules: `.get` exists on a dict only (`AttributeError` otherwise), iterating
a list gives its items, a dict its keys and a `str` its characters (`TypeError` on a number,
a bool or `None`), and `[:limit]` slices a list or a `str` (`TypeError` otherwise; a dict
raises `KeyError` from Python 3.12 on, caught the same way). `next` stops at the first match,
so only the entries before it are read. `str()` of a value is the parameter `pyStrOf`.

Main result: `getPriceHistory_spec`. The handler formats the exception it caught, and `str()`
of an instance of a class of `errors.py` raises `AttributeError`. So `get_price_history`
raises `AttributeError` exactly when the client raises one of the SDK's own exceptions, on
every HTTP and network failure; every other failure becomes the documented `ShardXError`.
-/

namespace ShardX.Sdk

open ShardX.Python

/-! ## §1 Python's dynamic reads of a JSON value -/

/-- `d.get(key, default)`. -/
def jsonGet (d : JsonValue) (key : String) (default : JsonValue) : Except SdkError JsonValue :=
  match d with
  | .object kvs => .ok ((kvs.lookup (pyStr key)).getD default)
  | _ => .error (.attributeError "get")

/-- `for x in v`: a list's items, a dict's keys, a `str`'s characters. -/
def jsonIter : JsonValue → Except SdkError (List JsonValue)
  | .array xs => .ok xs
  | .object kvs => .ok (kvs.map fun kv => .str kv.1)
  | .str s => .ok (s.map fun c => .str [c])
  | _ => .error .typeError

/-- `v[:stop]`. -/
def jsonSliceTo (v : JsonValue) (stop : ℤ) : Except SdkError JsonValue :=
  match v with
  | .array xs => .ok (.array (sliceTo xs stop))
  | .str s => .ok (.str (sliceTo s stop))
  | _ => .error .typeError

/-! ## §2 The manager -/

/-- `PricePoint`; `timestamp` holds whatever `point.get("timestamp")` returned. -/
structure PricePoint where
  timestamp : JsonValue
  price : String
  deriving Repr

/-- `next((d for d in ds if d.get("pair") == pair), None)`. -/
def findPair (pair : String) : List JsonValue → Except SdkError (Option JsonValue)
  | [] => .ok none
  | d :: ds => do
    let p ← jsonGet d "pair" .null
    if strEq p pair then pure (some d) else findPair pair ds

/-- The list comprehension over the points. -/
def pricePoints (pyStrOf : JsonValue → String) : List JsonValue → Except SdkError (List PricePoint)
  | [] => .ok []
  | point :: points => do
    let timestamp ← jsonGet point "timestamp" .null
    let value ← jsonGet point "value" .null
    let rest ← pricePoints pyStrOf points
    pure (⟨timestamp, pyStrOf value⟩ :: rest)

/-- The `try` block of `get_price_history` after the client's answer `chart_data`. -/
def readPriceHistory (pyStrOf : JsonValue → String) (pair : String) (limit : ℤ)
    (chartData : JsonValue) : Except SdkError (List PricePoint) := do
  let data ← jsonGet chartData "data" (.array [])
  let pairData ← findPair pair (← jsonIter data)
  match pairData with
  | none => pure []
  | some pairData =>
    let points ← jsonGet pairData "points" (.array [])
    let points ← jsonSliceTo points limit
    pricePoints pyStrOf (← jsonIter points)

/-- The `try` block of `get_price_history`. -/
def priceHistoryBody (pyStrOf : JsonValue → String)
    (getChartData : String → String → Except SdkError JsonValue) (pair period : String)
    (limit : ℤ) : Except SdkError (List PricePoint) :=
  getChartData "price" period >>= readPriceHistory pyStrOf pair limit

/-- `AIPredictionManager.get_price_history(pair, period, limit)`, with the client's
`get_chart_data`. -/
def getPriceHistory (text : SdkError → String) (pyStrOf : JsonValue → String)
    (getChartData : String → String → Except SdkError JsonValue) (pair : String)
    (period : String := "day") (limit : ℤ := 30) : Except SdkError (List PricePoint) :=
  match priceHistoryBody pyStrOf getChartData pair period limit with
  | .ok points => .ok points
  | .error e => do
    let s ← e.str text
    throw (shardXError ("Failed to get price history: " ++ s) 0 (some "price_history_error"))

/-! ## §3 Which exceptions the body raises -/

/-- A computation none of whose exceptions is an instance of a class of `errors.py`. -/
def RaisesNoShardX {α : Type} (x : Except SdkError α) : Prop :=
  ∀ e, x = .error e → e.isShardX = false

theorem RaisesNoShardX.ok {α : Type} (a : α) : RaisesNoShardX (.ok a : Except SdkError α) := by
  intro e h
  cases h

theorem RaisesNoShardX.bind {α β : Type} {x : Except SdkError α} {f : α → Except SdkError β}
    (hx : RaisesNoShardX x) (hf : ∀ a, RaisesNoShardX (f a)) : RaisesNoShardX (x >>= f) := by
  intro e h
  cases hx' : x with
  | error e' =>
    rw [hx', except_error_bind, Except.error.injEq] at h
    exact h ▸ hx e' hx'
  | ok a =>
    rw [hx', except_ok_bind] at h
    exact hf a e h

theorem jsonGet_raisesNoShardX (d : JsonValue) (key : String) (default : JsonValue) :
    RaisesNoShardX (jsonGet d key default) := by
  intro e h
  unfold jsonGet at h
  split at h <;> cases h
  rfl

theorem jsonIter_raisesNoShardX (v : JsonValue) : RaisesNoShardX (jsonIter v) := by
  intro e h
  cases v <;> cases h <;> rfl

theorem jsonSliceTo_raisesNoShardX (v : JsonValue) (stop : ℤ) :
    RaisesNoShardX (jsonSliceTo v stop) := by
  intro e h
  unfold jsonSliceTo at h
  split at h <;> cases h
  rfl

theorem findPair_raisesNoShardX (pair : String) :
    ∀ ds, RaisesNoShardX (findPair pair ds)
  | [] => .ok _
  | d :: ds => (jsonGet_raisesNoShardX d "pair" .null).bind fun p => by
    split
    · exact .ok _
    · exact findPair_raisesNoShardX pair ds

theorem pricePoints_raisesNoShardX (pyStrOf : JsonValue → String) :
    ∀ points, RaisesNoShardX (pricePoints pyStrOf points)
  | [] => .ok _
  | point :: points => (jsonGet_raisesNoShardX point "timestamp" .null).bind fun _ =>
    (jsonGet_raisesNoShardX point "value" .null).bind fun _ =>
      (pricePoints_raisesNoShardX pyStrOf points).bind fun _ => .ok _

/-- Reading the client's answer raises only Python's own exceptions. -/
theorem readPriceHistory_raisesNoShardX (pyStrOf : JsonValue → String) (pair : String)
    (limit : ℤ) (chartData : JsonValue) :
    RaisesNoShardX (readPriceHistory pyStrOf pair limit chartData) :=
  (jsonGet_raisesNoShardX _ _ _).bind fun data => (jsonIter_raisesNoShardX data).bind
    fun ds => (findPair_raisesNoShardX pair ds).bind fun
      | none => .ok _
      | some _ => (jsonGet_raisesNoShardX _ _ _).bind fun points =>
        (jsonSliceTo_raisesNoShardX points limit).bind fun points =>
          (jsonIter_raisesNoShardX points).bind fun ps => pricePoints_raisesNoShardX pyStrOf ps

/-- An exception of `errors.py` out of the body is the client's. -/
theorem priceHistoryBody_error {pyStrOf : JsonValue → String}
    {getChartData : String → String → Except SdkError JsonValue} {pair period : String}
    {limit : ℤ} {e : SdkError} (h : priceHistoryBody pyStrOf getChartData pair period limit = .error e)
    (hs : e.isShardX = true) : getChartData "price" period = .error e := by
  unfold priceHistoryBody at h
  cases hc : getChartData "price" period with
  | error e' =>
    rw [hc, except_error_bind, Except.error.injEq] at h
    rw [h]
  | ok chartData =>
    rw [hc, except_ok_bind] at h
    rw [readPriceHistory_raisesNoShardX pyStrOf pair limit chartData e h] at hs
    cases hs

/-! ## §4 Every failure -/

/-- `get_price_history` raises `AttributeError` exactly when the client's `get_chart_data`
raises an instance of a class of `errors.py`: its handler cannot format such an exception.
Every other failure of the body becomes the documented `ShardXError`. -/
theorem getPriceHistory_spec (text : SdkError → String) (pyStrOf : JsonValue → String)
    (getChartData : String → String → Except SdkError JsonValue) (pair period : String)
    (limit : ℤ) :
    (getPriceHistory text pyStrOf getChartData pair period limit = .error (.attributeError "message") ↔
      ∃ e, getChartData "price" period = .error e ∧ e.isShardX) ∧
    ∀ e, getPriceHistory text pyStrOf getChartData pair period limit = .error e →
      e = .attributeError "message" ∨ ∃ e', e'.isShardX = false ∧
        priceHistoryBody pyStrOf getChartData pair period limit = .error e' ∧
        e = shardXError ("Failed to get price history: " ++ text e') 0 (some "price_history_error") := by
  unfold getPriceHistory
  cases hb : priceHistoryBody pyStrOf getChartData pair period limit with
  | ok points =>
    have hc : ∀ e, getChartData "price" period ≠ .error e := by
      intro e hc
      unfold priceHistoryBody at hb
      rw [hc, except_error_bind] at hb
      cases hb
    simp [hc]
  | error e' =>
    have hbody : ∀ e, getChartData "price" period = .error e → e = e' := by
      intro e hc
      unfold priceHistoryBody at hb
      rw [hc, except_error_bind, Except.error.injEq] at hb
      exact hb
    cases hs : e'.isShardX
    · simp only [SdkError.str_eq, hs, Bool.false_eq_true, if_false, except_ok_bind]
      refine ⟨⟨fun h => (SdkError.noConfusion (Except.error.inj h) : False).elim, ?_⟩,
        fun e h => .inr ⟨e', hs, rfl, (Except.error.inj h).symm⟩⟩
      rintro ⟨e, hc, he⟩
      rw [hbody e hc, hs] at he
      cases he
    · simp only [SdkError.str_eq, hs, if_true, except_error_bind]
      exact ⟨⟨fun _ => ⟨e', priceHistoryBody_error hb hs, hs⟩, fun _ => trivial⟩,
        fun e h => .inl (Except.error.inj h).symm⟩

end ShardX.Sdk
