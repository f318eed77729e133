import ShardX.Python.Json

/-!
# SDK Errors and the Client's Answers

`errors.py` defines `ShardXError(message, status=0, code=None)` and five subclasses. Every
`__init__` hands the message to `Exception.__init__`, which keeps it in `args`, and stores
`status` and `code`. `ValidationError(message)` fixes them to `400` and `"validation_error"`.

`ShardXError.__str__` formats `self.message`, an attribute that no `__init__` sets. So `str()`
of an instance of any of the six classes raises `AttributeError`, and so does an f-string
that formats one (`SdkError.str`). `ValidationError.__str__` calls it as well whenever
`details` is `None`, as in every call of the SDK.

Each method of `ShardXClient` sends one request through `_request` (`Request.lean`) and
returns `response.json()`: whatever JSON value the body holds, a dict where the annotations
name a record of `models.py`. The managers' calls of the client are parameters of that type,
`Except SdkError JsonValue`, and what the managers then read of the answer follows Python's
rules for the value `json.loads` built: `d[key]` (`subscript`) on a dict, and `AttributeError`
for an attribute such as `prediction.current_price`.
-/

namespace ShardX.Sdk

open ShardX.Python

/-! ## §1 The exceptions -/

/-- The classes of `errors.py`. -/
inductive ShardXClass where
  | shardXError
  | transactionError
  | walletError
  | multisigError
  | networkError
  | validationError
  deriving DecidableEq, Repr

/-- An exception an SDK call raises. It is an instance of a class of `errors.py`, with the
arguments its `__init__` stores. Or it is one of Python's own: an exception of `PyExc`, an
`AttributeError` (with the attribute's name), a `KeyError` (with the key) or a `TypeError`.
The messages of Python's own exceptions are not modelled. -/
inductive SdkError where
  | shardX (cls : ShardXClass) (message : String) (status : ℤ) (code : Option String)
  | builtin (e : PyExc)
  | attributeError (name : String)
  | keyError (key : List PyChar)
  | typeError
  deriving DecidableEq, Repr

/-- `ShardXError(message, status=0, code=None)`. -/
def shardXError (message : String) (status : ℤ := 0) (code : Option String := none) :
    SdkError :=
  .shardX .shardXError message status code

/-- `TransactionError(message, status=0, code=None)`. -/
def transactionError (message : String) (status : ℤ := 0) (code : Option String := none) :
    SdkError :=
  .shardX .transactionError message status code

/-- `str(e)`, which an f-string `f"{e}"` also calls. An instance of a class of `errors.py`
runs `ShardXError.__str__`, whose lookup of `self.message` raises `AttributeError`. Any other
exception gives Python's own text, the parameter `text`. -/
def SdkError.str (text : SdkError → String) : SdkError → Except SdkError String
  | .shardX .. => .error (.attributeError "message")
  | e => .ok (text e)

/-! ## §2 Reading the answers -/

/-- A Lean `String` as a Python `str`. -/
def pyStr (s : String) : List PyChar := s.toList.map pyCharOf

/-- `d[key]` on a value `json.loads` returned: the value of a dict's key, `KeyError` for a
key the dict lacks, and `TypeError` on anything but a dict. -/
def subscript (v : JsonValue) (key : List PyChar) : Except SdkError JsonValue :=
  match v with
  | .object kvs =>
    match kvs.lookup key with
    | some x => .ok x
    | none => .error (.keyError key)
  | _ => .error .typeError

end ShardX.Sdk
