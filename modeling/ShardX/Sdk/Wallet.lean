import ShardX.Python.Json

/-!
# SDK Wallet: Signed Transaction Requests

`Wallet` of `shardx_sdk/wallet.py`: the key attributes `__init__` sets, `sign`, and
`create_transaction`. `create_transaction` checks its arguments, signs the message
`f"{from}:{to}:{amount}:{data or ''}"` and sends the signed `TransactionRequest` through the
client.

The model keeps every check, message and exception of these methods. The hash functions
(HMAC-SHA256 and the key derivations, with the `ValueError` of `bytes.fromhex` on a key that
is not hex) and the client's network call are parameters. A `str` is a Lean `String`, so
`str.encode()` never meets a surrogate. `float(amount)` is Python's `float` on a `str`
(`pyFloat`, Unicode digits included), compared with `0` as a double: `float('inf')` and
`float('nan')` pass the amount check, and `float('-inf')` and `float('1e-400')`, which is
`0.0`, fail it.

Main result: `createTransaction_message_collision`. For every initialized wallet, the two
requests `('x:1', '2', '3')` and `('x', '1', '2:3')` pass every check and carry the same
signature, because the message writes `':'` between fields that may themselves hold `':'`.
When no recipient or amount holds a `':'`, the message does determine the request
(`transactionMessage_injective`).
-/

namespace ShardX.Sdk

open ShardX.Python

/-! ## §1 The exceptions -/

/-- The classes of `errors.py` the wallet raises. -/
inductive ErrorClass where
  | walletError
  | validationError
  deriving DecidableEq, Repr

/-- An exception `Wallet` raises: an instance of a class of `errors.py` with the attributes
`ShardXError.__init__` stores (`ValidationError.details` stays `None` in every call here),
or one of Python's. -/
inductive SdkExc where
  | shardX (cls : ErrorClass) (message : String) (status : ℤ) (code : Option String)
  | builtin (e : PyExc)
  deriving DecidableEq, Repr

/-- `WalletError(message, status=0, code=None)`. -/
def walletError (message : String) (status : ℤ := 0) (code : Option String := none) : SdkExc :=
  .shardX .walletError message status code

/-- `ValidationError(message)`: `ShardXError.__init__(message, 400, "validation_error")`. -/
def validationError (message : String) : SdkExc :=
  .shardX .validationError message 400 (some "validation_error")

/-- The `WalletError` every method raises on a wallet without keys. -/
def notInitialized : SdkExc :=
  walletError "Wallet not initialized with private key" 0 (some "wallet_not_initialized")

/-! ## §2 The wallet -/

/-- `TransactionRequest` of `models.py`; `recipient` is its field `to`. -/
structure TransactionRequest where
  fromAddress : String
  recipient : String
  amount : String
  signature : String
  data : Option String := none
  deriving DecidableEq, Repr

/-- What the wallet computes with and does not model: `hmac.new(bytes.fromhex(key),
message.encode(), hashlib.sha256).hexdigest()`, `_derive_public_key` and `_derive_address`.
Each raises `ValueError` where `bytes.fromhex` does. -/
structure Crypto where
  hmacSha256Hex : String → String → Except PyExc String
  derivePublicKey : String → Except PyExc String
  deriveAddress : String → Except PyExc String

/-- A `Wallet`'s key attributes. -/
structure Wallet where
  privateKey : Option String
  publicKey : Option String
  address : Option String
  deriving DecidableEq, Repr

/-- Python's truth value of an optional `str`: `None` and `''` are false. -/
def truthy (s : Option String) : Bool := s.any (· ≠ "")

/-- `Wallet.__init__(client, private_key)`: the three keys from a private key, or all
`None`. -/
def Wallet.init (crypto : Crypto) (privateKey : Option String) : Except SdkExc Wallet :=
  match privateKey with
  | some k =>
    if k ≠ "" then do
      let pub ← (crypto.derivePublicKey k).mapError .builtin
      let address ← (crypto.deriveAddress pub).mapError .builtin
      pure ⟨some k, some pub, some address⟩
    else pure ⟨none, none, none⟩
  | none => pure ⟨none, none, none⟩

/-- `Wallet.sign(message)`. -/
def Wallet.sign (crypto : Crypto) (w : Wallet) (message : String) : Except SdkExc String :=
  match w.privateKey with
  | some k => if k ≠ "" then (crypto.hmacSha256Hex k message).mapError .builtin
    else .error notInitialized
  | none => .error notInitialized

/-- The message `create_transaction` signs:
`f"{tx_request.from_address}:{tx_request.to}:{tx_request.amount}:{tx_request.data or ''}"`. -/
def transactionMessage (fromAddress recipient amount : String) (data : Option String) : String :=
  fromAddress ++ ":" ++ recipient ++ ":" ++ amount ++ ":" ++ data.getD ""

/-- `create_transaction` up to its last line: the checks, then the request with its
signature. -/
def Wallet.signedRequest (py : CPython) (crypto : Crypto) (w : Wallet) (recipient amount : String)
    (data : Option String := none) : Except SdkExc TransactionRequest :=
  if !(truthy w.privateKey && truthy w.address) then .error notInitialized
  else if recipient = "" then .error (validationError "Recipient address is required")
  else match pyFloat py amount.toList with
    | none => .error (validationError "Invalid amount")
    | some x =>
      if x ≤ .ofInt 0 then .error (validationError "Amount must be greater than 0")
      else do
        let fromAddress := w.address.getD ""
        let signature ← w.sign crypto (transactionMessage fromAddress recipient amount data)
        pure ⟨fromAddress, recipient, amount, signature, data⟩

/-- `Wallet.create_transaction(to, amount, data)`: the signed request, sent by the client. -/
def Wallet.createTransaction {β : Type} (py : CPython) (crypto : Crypto)
    (client : TransactionRequest → Except SdkExc β) (w : Wallet) (recipient amount : String)
    (data : Option String := none) : Except SdkExc β :=
  w.signedRequest py crypto recipient amount data >>= client

/-! ## §3 What is signed -/

/-- A wallet `__init__` built from a private key: its private key and address are set. -/
def Wallet.Initialized (w : Wallet) : Prop := truthy w.privateKey ∧ truthy w.address

/-- An amount `float()` reads as a number the check `<= 0` lets through. -/
def AmountAccepted (py : CPython) (amount : String) : Prop :=
  ∃ x, pyFloat py amount.toList = some x ∧ ¬x ≤ .ofInt 0

/-- On an initialized wallet, a non-empty recipient and an accepted amount, the request is
the one signed over `transactionMessage`. -/
theorem signedRequest_eq {py : CPython} {crypto : Crypto} {w : Wallet} {k a : String}
    (hk : w.privateKey = some k) (hk' : k ≠ "") (ha : w.address = some a) (ha' : a ≠ "")
    {recipient amount : String} (hto : recipient ≠ "") (hamt : AmountAccepted py amount)
    (data : Option String) :
    w.signedRequest py crypto recipient amount data =
      (crypto.hmacSha256Hex k (transactionMessage a recipient amount data)).mapError .builtin >>=
        fun signature => pure ⟨a, recipient, amount, signature, data⟩ := by
  obtain ⟨x, hx, hle⟩ := hamt
  have hinit : (truthy (some k) && truthy (some a)) = true := by simp [truthy, hk', ha']
  simp only [Wallet.signedRequest, hinit, Bool.not_true, Bool.false_eq_true, if_false, hto, hx,
    hle, Wallet.sign, hk, ne_eq, hk', not_false_eq_true, if_true, ha, Option.getD_some]

/-- A positive ASCII integer is an accepted amount, whatever the interpreter's Unicode
database. -/
theorem amountAccepted_of_parse (py : CPython) {amount : String}
    (h : ∀ c ∈ amount.toList, c.toNat < 127) {x : PyFloat}
    (hx : parseFloatText amount.toList = some x) (hpos : ¬x ≤ .ofInt 0) :
    AmountAccepted py amount :=
  ⟨x, by rw [pyFloat_of_ascii py h, hx], hpos⟩

theorem amountAccepted_one (py : CPython) : AmountAccepted py "1" :=
  amountAccepted_of_parse py (by decide) (x := .ofInt 1) (by decide)
    (not_le_ofInt_zero (by decide))

theorem amountAccepted_two (py : CPython) : AmountAccepted py "2" :=
  amountAccepted_of_parse py (by decide) (x := .ofInt 2) (by decide)
    (not_le_ofInt_zero (by decide))

/-- Every initialized wallet signs `('x:1', '2', '3')` and `('x', '1', '2:3')` alike: both
requests pass every check of `create_transaction`, and whatever signature the message gets,
both carry it. -/
theorem createTransaction_message_collision (py : CPython) (crypto : Crypto) {w : Wallet}
    {k a : String} (hk : w.privateKey = some k) (hk' : k ≠ "") (ha : w.address = some a)
    (ha' : a ≠ "") :
    transactionMessage a "x:1" "2" (some "3") = transactionMessage a "x" "1" (some "2:3") ∧
      ∀ signature, crypto.hmacSha256Hex k (transactionMessage a "x" "1" (some "2:3")) =
          .ok signature →
        w.signedRequest py crypto "x:1" "2" (some "3") =
          .ok ⟨a, "x:1", "2", signature, some "3"⟩ ∧
        w.signedRequest py crypto "x" "1" (some "2:3") =
          .ok ⟨a, "x", "1", signature, some "2:3"⟩ := by
  have hmsg : transactionMessage a "x:1" "2" (some "3") =
      transactionMessage a "x" "1" (some "2:3") := by
    simp only [transactionMessage, Option.getD_some, String.append_assoc]
    rfl
  refine ⟨hmsg, fun signature hs => ⟨?_, ?_⟩⟩
  · rw [signedRequest_eq hk hk' ha ha' (by decide) (amountAccepted_two py), hmsg, hs]
    rfl
  · rw [signedRequest_eq hk hk' ha ha' (by decide) (amountAccepted_one py), hs]
    rfl

/-- The collision on a wallet whose keys are `'ab'`, `'cd'` and `'ef'`, with a stand-in for
the HMAC, under CPython 3.11. -/
theorem createTransaction_message_collision_ab :
    ("ab" : String) ≠ "" ∧ ("ef" : String) ≠ "" ∧
      (transactionMessage "ef" "x:1" "2" (some "3") = transactionMessage "ef" "x" "1" (some "2:3") ∧
        ∀ signature, (fun k m => .ok (k ++ m) : String → String → Except PyExc String) "ab"
            (transactionMessage "ef" "x" "1" (some "2:3")) = .ok signature →
          (Wallet.mk (some "ab") (some "cd") (some "ef")).signedRequest CPython.v311
              ⟨fun k m => .ok (k ++ m), fun _ => .ok "cd", fun _ => .ok "ef"⟩ "x:1" "2" (some "3") =
            .ok ⟨"ef", "x:1", "2", signature, some "3"⟩ ∧
          (Wallet.mk (some "ab") (some "cd") (some "ef")).signedRequest CPython.v311
              ⟨fun k m => .ok (k ++ m), fun _ => .ok "cd", fun _ => .ok "ef"⟩ "x" "1" (some "2:3") =
            .ok ⟨"ef", "x", "1", signature, some "2:3"⟩) :=
  ⟨by decide, by decide, createTransaction_message_collision CPython.v311
    ⟨fun k m => .ok (k ++ m), fun _ => .ok "cd", fun _ => .ok "ef"⟩ rfl (by decide) rfl (by decide)⟩

/-- A field free of the separator is read back up to the separator's first occurrence. -/
private theorem field_sep_cancel {c : Char} :
    ∀ {r r' s s' : List Char}, c ∉ r → c ∉ r' → r ++ c :: s = r' ++ c :: s' → r = r' ∧ s = s'
  | [], [], _, _, _, _, h => ⟨rfl, (List.cons.inj h).2⟩
  | [], _ :: _, _, _, _, h', h => by
    obtain ⟨rfl, -⟩ := List.cons.inj h
    exact absurd (List.mem_cons_self _ _) h'
  | _ :: _, [], _, _, h, _, e => by
    obtain ⟨rfl, -⟩ := List.cons.inj e
    exact absurd (List.mem_cons_self _ _) h
  | _ :: _, _ :: _, _, _, h, h', e => by
    obtain ⟨rfl, tail⟩ := List.cons.inj e
    obtain ⟨rfl, rfl⟩ := field_sep_cancel (List.not_mem_of_not_mem_cons h)
      (List.not_mem_of_not_mem_cons h') tail
    exact ⟨rfl, rfl⟩

/-- When neither recipient nor amount holds a `':'`, the signed message determines the request
up to `data or ''`: its recipient, its amount and the text of its data. -/
theorem transactionMessage_injective {a recipient recipient' amount amount' : String}
    {data data' : Option String} (hr : ':' ∉ recipient.data) (hr' : ':' ∉ recipient'.data)
    (hm : ':' ∉ amount.data) (hm' : ':' ∉ amount'.data)
    (h : transactionMessage a recipient amount data =
      transactionMessage a recipient' amount' data') :
    recipient = recipient' ∧ amount = amount' ∧ data.getD "" = data'.getD "" := by
  have hd := congrArg String.data h
  simp only [transactionMessage, String.data_append, List.append_assoc,
    show (":" : String).data = [':'] from rfl, List.singleton_append] at hd
  obtain ⟨hto, hd⟩ := field_sep_cancel hr hr' (List.cons.inj (List.append_cancel_left hd)).2
  obtain ⟨hamt, hd⟩ := field_sep_cancel hm hm' hd
  exact ⟨String.ext hto, String.ext hamt, String.ext hd⟩

/-- No data and empty data sign the same message, and the message still determines the
recipient and the amount. -/
theorem transactionMessage_injective_no_data :
    ':' ∉ "x".data ∧ ':' ∉ "1".data ∧
      ("x" = "x" ∧ "1" = "1" ∧ (none : Option String).getD "" = (some "").getD "") :=
  ⟨by decide, by decide, transactionMessage_injective (a := "ef") (by decide) (by decide)
    (by decide) (by decide) rfl⟩

end ShardX.Sdk
