import ShardX.Sdk.Client
import ShardX.Python.Time

/-!
# SDK Transactions: Waiting for Confirmation

`TransactionManager.wait_for_confirmation(tx_id, timeout=60, interval=1)` of
`shardx_sdk/transaction.py` polls the transaction's status until the clock passes the
deadline:

```
start_time = time.time()
while time.time() - start_time < timeout:
    status = self.client.get_transaction_status(tx_id)
    if status == "confirmed": return self.client.get_transaction(tx_id)
    if status == "failed": raise TransactionError(f"Transaction {tx_id} failed", 400, ...)
    time.sleep(interval)
raise TransactionError(f"Transaction {tx_id} confirmation timed out", 408, ...)
```

The clock and the server are parameters. `clock j` is the double the `j`-th call of
`time.time()` returns: call `0` is `start_time`, and call `j + 1` is the loop's `j`-th check,
which subtracts the doubles and compares the difference with the `int` timeout exactly. The
answers to the polls are a sequence as well: `response j` is what the `j`-th call of
`get_transaction_status` gets back from `_request`, whose `["status"]` it returns.
`get_transaction` is called at most once, and `transaction` is its answer, the JSON value of
the response. `time.sleep(interval)` raises `ValueError` for a negative interval or `nan`, and
`OverflowError` for one of more than about `9.2e9` seconds (`timeSleep`). The loop runs on
fuel, one unit per check, and `none` means the fuel ran out.

Main result: `waitForConfirmation_eq`. On a clock that passes the deadline at check `k`,
every run with more than `k` units of fuel ends with the verdict of the first of the polls
`0 … k-1` that ends the loop, and with the timeout's `TransactionError` when none of them does.
A poll ends the loop when it raises (an error of the client, or a response without
`"status"`), or answers `"confirmed"` or `"failed"`, or when the sleep after it raises. Any
other answer, a misspelled status or one that is not a string included, is polled again.
-/

namespace ShardX.Sdk

open ShardX.Python

/-! ## §1 The loop -/

/-- `v == s` for a value `json.loads` returned and a `str` literal. -/
def strEq (v : JsonValue) (s : String) : Bool :=
  match v with
  | .str t => t == pyStr s
  | _ => false

/-- `TransactionManager.get_transaction_status`'s `response["status"]`. -/
def transactionStatus (response : Except SdkError JsonValue) : Except SdkError JsonValue :=
  response >>= fun r => subscript r (pyStr "status")

/-- What one pass of the loop does after its check passed, given the poll's response: `some`
outcome when the pass ends the loop, `none` when the loop goes on. -/
def pollVerdict (transaction : Except SdkError JsonValue) (txId : String) (interval : PyNum)
    (response : Except SdkError JsonValue) : Option (Except SdkError JsonValue) :=
  match transactionStatus response with
  | .error e => some (.error e)
  | .ok status =>
    if strEq status "confirmed" then some transaction
    else if strEq status "failed" then
      some (.error (transactionError ("Transaction " ++ txId ++ " failed") 400
        (some "transaction_failed")))
    else match timeSleep interval with
      | .error e => some (.error (.builtin e))
      | .ok () => none

/-- The `TransactionError` of a run that passes its deadline. -/
def confirmationTimeout (txId : String) : SdkError :=
  transactionError ("Transaction " ++ txId ++ " confirmation timed out") 408
    (some "transaction_timeout")

section Loop

variable (clock : ℕ → PyFloat) (response : ℕ → Except SdkError JsonValue)
  (transaction : Except SdkError JsonValue) (txId : String) (timeout : ℤ) (interval : PyNum)

/-- The `while` loop from its check `j`, with `fuel` checks left. -/
def confirmationLoop : ℕ → ℕ → Option (Except SdkError JsonValue)
  | _, 0 => none
  | j, fuel + 1 =>
    if ((clock (j + 1)).sub (clock 0)).ltInt timeout then
      match pollVerdict transaction txId interval (response j) with
      | some r => some r
      | none => confirmationLoop (j + 1) fuel
    else some (.error (confirmationTimeout txId))

/-- `TransactionManager.wait_for_confirmation`. -/
def waitForConfirmation (fuel : ℕ) : Option (Except SdkError JsonValue) :=
  confirmationLoop clock response transaction txId timeout interval 0 fuel

/-! ## §2 Every run -/

/-- The verdict of the first poll from `j` on that ends the loop, among the next `n`. -/
def firstVerdict (j n : ℕ) : Option (Except SdkError JsonValue) :=
  (List.range' j n).findSome? fun i => pollVerdict transaction txId interval (response i)

theorem firstVerdict_succ (j n : ℕ) :
    firstVerdict response transaction txId interval j (n + 1) =
      match pollVerdict transaction txId interval (response j) with
      | some r => some r
      | none => firstVerdict response transaction txId interval (j + 1) n := by
  simp only [firstVerdict, List.range'_succ, List.findSome?_cons]
  cases pollVerdict transaction txId interval (response j) <;> rfl

/-- From check `j`, on a clock whose checks `j … j+n-1` pass and whose check `j+n` fails,
the loop with more than `n` checks of fuel ends with the first verdict among those `n` polls,
or with the timeout. -/
theorem confirmationLoop_eq : ∀ (n j fuel : ℕ),
    (∀ i, j ≤ i → i < j + n → ((clock (i + 1)).sub (clock 0)).ltInt timeout = true) →
    ((clock (j + n + 1)).sub (clock 0)).ltInt timeout = false → n < fuel →
    confirmationLoop clock response transaction txId timeout interval j fuel =
      some ((firstVerdict response transaction txId interval j n).getD
        (.error (confirmationTimeout txId)))
  | _, _, 0, _, _, hf => absurd hf (Nat.not_lt_zero _)
  | 0, j, fuel + 1, _, hdead, _ => by
    rw [confirmationLoop, hdead]
    rfl
  | n + 1, j, fuel + 1, hpass, hdead, hf => by
    have ih := confirmationLoop_eq n (j + 1) fuel
      (fun i h₁ h₂ => hpass i (by omega) (by omega)) (by rwa [show j + 1 + n = j + (n + 1) by omega])
      (by omega)
    rw [confirmationLoop, hpass j le_rfl (by omega), if_pos rfl, firstVerdict_succ]
    cases pollVerdict transaction txId interval (response j) with
    | some r => rfl
    | none => exact ih

end Loop

/-- Every run of `wait_for_confirmation` on a clock that passes the deadline at check `k`:
with more than `k` checks of fuel, it ends with the verdict of the first of the polls
`0 … k-1` that ends the loop, and with the timeout when none of them does. -/
theorem waitForConfirmation_eq (clock : ℕ → PyFloat) (response : ℕ → Except SdkError JsonValue)
    (transaction : Except SdkError JsonValue) (txId : String) (timeout : ℤ) (interval : PyNum)
    {k fuel : ℕ} (hpass : ∀ i < k, ((clock (i + 1)).sub (clock 0)).ltInt timeout = true)
    (hdead : ((clock (k + 1)).sub (clock 0)).ltInt timeout = false) (hfuel : k < fuel) :
    waitForConfirmation clock response transaction txId timeout interval fuel =
      some ((firstVerdict response transaction txId interval 0 k).getD
        (.error (confirmationTimeout txId))) :=
  confirmationLoop_eq clock response transaction txId timeout interval k 0 fuel
    (fun i _ h => hpass i (by omega)) (by rwa [Nat.zero_add]) hfuel

/-- A clock that reads `1.0`, `2.0`, `3.0`, … and a deadline of three seconds: two polls, here
answered `"pending"` and then `"confirmed"`, with a sleep of one second between them. -/
theorem waitForConfirmation_eq_two_polls :
    (∀ i : ℕ, i < 2 →
      ((PyFloat.ofInt (((i + 1 : ℕ) : ℤ) + 1)).sub (.ofInt (((0 : ℕ) : ℤ) + 1))).ltInt 3 = true) ∧
      ((PyFloat.ofInt (((2 + 1 : ℕ) : ℤ) + 1)).sub (.ofInt (((0 : ℕ) : ℤ) + 1))).ltInt 3 = false ∧
      2 < 3 ∧
      waitForConfirmation (fun j => .ofInt (j + 1))
          (fun j => .ok (.object [(pyStr "status",
            .str (pyStr (if j = 0 then "pending" else "confirmed")))]))
          (.ok .null) "t" 3 (.int 1) 3 =
        some ((firstVerdict (fun j => .ok (.object [(pyStr "status",
            .str (pyStr (if j = 0 then "pending" else "confirmed")))]))
          (.ok .null) "t" (.int 1) 0 2).getD (.error (confirmationTimeout "t"))) := by
  have hpass : ∀ i : ℕ, i < 2 →
      ((PyFloat.ofInt (((i + 1 : ℕ) : ℤ) + 1)).sub (.ofInt (((0 : ℕ) : ℤ) + 1))).ltInt 3 = true := by
    decide
  have hdead : ((PyFloat.ofInt (((2 + 1 : ℕ) : ℤ) + 1)).sub
      (.ofInt (((0 : ℕ) : ℤ) + 1))).ltInt 3 = false := by
    decide
  exact ⟨hpass, hdead, by norm_num, waitForConfirmation_eq _ _ _ _ _ _ hpass hdead (by norm_num)⟩

end ShardX.Sdk
