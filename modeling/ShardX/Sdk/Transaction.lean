import ShardX.Python.Json

/-!
# SDK Transactions: Transaction Data

`TransactionManager.encode_transaction_data` and `TransactionManager.decode_transaction_data`
of `shardx_sdk/transaction.py`. The encoder writes `None` as the empty string, a `str` as its
own UTF-8 in hex and any other value as the hex of `json.dumps`; the decoder maps an empty or
missing text to `None` and otherwise tries `json.loads` on the decoded text first, falling
back to the text itself, and to its argument when the hex or the UTF-8 is bad.

Both methods ignore `self`, so they are modelled as plain functions, of the interpreter `py`
whose limits `json` runs into.

Main result: `transactionData_roundTrip_iff`. For every value without floats or surrogates
whose dicts have distinct keys, the decoder undoes the encoder exactly when the value is a
string that is not empty and on which `json.loads` raises `JSONDecodeError`, or a value of
another kind nested within the recursion budgets of `json.dumps` and `json.loads` whose ints
are within the digit limit (`transactionData_roundTrip_counterexamples`: `''` comes back as
`None`, `'123'` as `123`, and `'1' * 4301`, `'[' * 991`, `10 ** 4300` and a list nested 991
deep raise).

What each method raises: the decoder raises exactly on a text with a character outside ASCII
or a text that decodes to one on which `json.loads` raises `ValueError` or `RecursionError`
(`decodeTransactionData_isOk_iff`); the encoder exactly on a `str` with a surrogate or a value
on which `json.dumps` raises (`encodeTransactionData_isOk_iff`).
-/

namespace ShardX.Sdk

open ShardX.Python

/-- `binascii.hexlify(json_string.encode('utf-8')).decode('ascii')`. -/
def hexOfUtf8 (jsonString : List PyChar) : Except PyExc (List PyChar) := do
  let bytes ← strEncodeUtf8 jsonString
  pure ((hexlify bytes).map pyCharOf)

/-- `TransactionManager.encode_transaction_data`; `json.dumps` prints finite floats with
`floatRepr`. -/
def encodeTransactionData (py : CPython) (floatRepr : PyFloat → List Char) (data : JsonValue) :
    Except PyExc (List PyChar) :=
  match data with
  | .null => .ok []
  | .str s => hexOfUtf8 s
  | v => do
    let jsonString ← dumps py floatRepr v
    hexOfUtf8 (jsonString.map pyCharOf)

/-- `binascii.unhexlify(data).decode('utf-8')`. -/
def unhexlifyDecode (data : List PyChar) : Except PyExc (List Char) :=
  unhexlifyStr data >>= bytesDecodeUtf8

/-- The `try` statement of `decode_transaction_data`: `json.loads` of the decoded text,
else the decoded text, else `data` itself. -/
def decodeTry (py : CPython) (data : List PyChar) : Except PyExc JsonValue :=
  pyTry (unhexlifyDecode data >>= jsonLoads py)
    [.binasciiError, .unicodeDecodeError, .jsonDecodeError]
    (pyTry ((unhexlifyDecode data).map fun s => .str (s.map pyCharOf))
      [.binasciiError, .unicodeDecodeError] (.ok (.str data)))

/-- `TransactionManager.decode_transaction_data`: `None` for a missing or empty text. -/
def decodeTransactionData (py : CPython) (data : Option (List PyChar)) :
    Except PyExc JsonValue :=
  match data with
  | none => .ok .null
  | some [] => .ok .null
  | some data => decodeTry py data

/-- `decode_transaction_data(encode_transaction_data(data))`. -/
def transactionDataRoundTrip (py : CPython) (floatRepr : PyFloat → List Char)
    (data : JsonValue) : Except PyExc JsonValue :=
  encodeTransactionData py floatRepr data >>= fun hex => decodeTransactionData py (some hex)

section Encode

variable (py : CPython) (floatRepr : PyFloat → List Char)

theorem encodeTransactionData_str (s : List PyChar) :
    encodeTransactionData py floatRepr (.str s) = hexOfUtf8 s := rfl

/-- A value that is neither `None` nor a `str` is encoded through `json.dumps`. -/
theorem encodeTransactionData_of_not_str {d : JsonValue} (hnull : d ≠ .null)
    (hstr : ∀ s, d ≠ .str s) :
    encodeTransactionData py floatRepr d =
      dumps py floatRepr d >>= fun t => hexOfUtf8 (t.map pyCharOf) := by
  cases d <;> first | exact absurd rfl hnull | exact absurd rfl (hstr _) | rfl

end Encode

/-! ## §1 The hex of UTF-8 decodes back -/

/-- The characters of a `str` without surrogates. -/
def scalarChars (s : List PyChar) : List Char := s.map fun c => Char.ofNat c.val

theorem map_pyCharOf_scalarChars {s : List PyChar} (hs : ∀ c ∈ s, IsScalar c) :
    (scalarChars s).map pyCharOf = s := by
  induction s with
  | nil => rfl
  | cons c s ih =>
    simp only [List.mem_cons, forall_eq_or_imp] at hs
    simp only [scalarChars, List.map_cons, List.map_map] at ih ⊢
    rw [ih hs.2, show pyCharOf (Char.ofNat c.val) = c from Fin.ext (toNat_ofNat_of_valid hs.1)]

theorem scalarChars_map_pyCharOf (cs : List Char) : scalarChars (cs.map pyCharOf) = cs := by
  simp [scalarChars, Function.comp_def, pyCharOf]

theorem strEncodeUtf8_of_scalar {s : List PyChar} (hs : ∀ c ∈ s, IsScalar c) :
    strEncodeUtf8 s = .ok (utf8Encode (scalarChars s)) := by
  rw [strEncodeUtf8, if_pos hs]; rfl

theorem isScalar_pyCharOf (c : Char) : IsScalar (pyCharOf c) := c.valid

private theorem hexDigit_lt_128 : ∀ d < 16, (hexDigit d).toNat < 0x80 := by decide

/-- The hex of UTF-8 bytes decodes back to the characters. -/
theorem unhexlifyDecode_hexlify (cs : List Char) :
    unhexlifyDecode ((hexlify (utf8Encode cs)).map pyCharOf) = .ok cs := by
  have hbytes := utf8Encode_lt_256 cs
  have hascii : ∀ c ∈ (hexlify (utf8Encode cs)).map pyCharOf, c.val < 0x80 := by
    simp only [List.mem_map, hexlify, List.mem_flatMap, List.mem_cons, List.not_mem_nil,
      or_false]
    rintro _ ⟨c, ⟨b, hb, rfl | rfl⟩, rfl⟩
    · exact hexDigit_lt_128 _ (by have := hbytes b hb; omega)
    · exact hexDigit_lt_128 _ (Nat.mod_lt _ (by norm_num))
  rw [unhexlifyDecode, unhexlifyStr, if_pos hascii,
    show ((hexlify (utf8Encode cs)).map pyCharOf).map (fun c => Char.ofNat c.val) =
      hexlify (utf8Encode cs) from scalarChars_map_pyCharOf _, unhexlify_hexlify hbytes]
  simp [bytesDecodeUtf8, utf8Decode_utf8Encode]

theorem utf8Encode_ne_nil {cs : List Char} (h : cs ≠ []) : utf8Encode cs ≠ [] := by
  obtain ⟨c, cs, rfl⟩ := List.exists_cons_of_ne_nil h
  rw [utf8Encode, List.flatMap_cons]
  refine List.append_ne_nil_of_left_ne_nil ?_ _
  unfold utf8EncodeChar
  dsimp only
  split_ifs <;> simp

/-- Text of Lean characters encodes to UTF-8 without error. -/
theorem hexOfUtf8_chars (cs : List Char) :
    hexOfUtf8 (cs.map pyCharOf) = .ok ((hexlify (utf8Encode cs)).map pyCharOf) := by
  rw [hexOfUtf8, strEncodeUtf8_of_scalar (fun c hc => by
    obtain ⟨c, -, rfl⟩ := List.mem_map.1 hc; exact isScalar_pyCharOf c),
    scalarChars_map_pyCharOf]
  rfl

section Decode

variable (py : CPython)

theorem decodeTransactionData_some {data : List PyChar} (h : data ≠ []) :
    decodeTransactionData py (some data) = decodeTry py data := by
  match data, h with
  | _ :: _, _ => rfl

/-- On a non-empty hex text of UTF-8, the decoder returns what `json.loads` reads from the
text; when `json.loads` raises `JSONDecodeError` it returns the text, and any other exception
of `json.loads` escapes. -/
theorem decodeTransactionData_hexlify {cs : List Char} (hne : cs ≠ []) :
    decodeTransactionData py (some ((hexlify (utf8Encode cs)).map pyCharOf)) =
      pyTry (jsonLoads py cs) [.jsonDecodeError] (.ok (.str (cs.map pyCharOf))) := by
  have hhex : (hexlify (utf8Encode cs)).map pyCharOf ≠ [] := by
    obtain ⟨b, bs, hb⟩ := List.exists_cons_of_ne_nil (utf8Encode_ne_nil hne)
    simp [hb, hexlify]
  rw [decodeTransactionData_some py hhex, decodeTry, unhexlifyDecode_hexlify, except_ok_bind]
  cases h : jsonLoads py cs with
  | ok v => rfl
  | error e => rcases jsonLoads_error py h with rfl | rfl | rfl <;> rfl

/-- `binascii.unhexlify` refuses a `str` with a character outside ASCII with `ValueError`,
which the decoder's `except` clauses do not name. -/
theorem unhexlifyDecode_of_not_ascii {data : List PyChar} (h : ¬∀ c ∈ data, c.val < 0x80) :
    unhexlifyDecode data = .error .valueError := by
  rw [unhexlifyDecode, unhexlifyStr, if_neg h, except_error_bind]

/-- On ASCII text, decoding raises only `binascii.Error` or `UnicodeDecodeError`. -/
theorem unhexlifyDecode_error_of_ascii {data : List PyChar} (h : ∀ c ∈ data, c.val < 0x80)
    {e : PyExc} (he : unhexlifyDecode data = .error e) :
    e = .binasciiError ∨ e = .unicodeDecodeError := by
  rw [unhexlifyDecode, unhexlifyStr, if_pos h] at he
  split at he
  · rw [except_ok_bind, bytesDecodeUtf8] at he
    split at he
    · cases he
    · exact .inr (Except.error.inj he).symm
  · exact .inl (Except.error.inj he).symm

/-- `decode_transaction_data` raises exactly on a text with a character outside ASCII, whose
`ValueError` escapes both `except` clauses, or on a text that decodes to one on which
`json.loads` raises `ValueError` or `RecursionError`, which escape as well; every other
exception is caught. -/
theorem decodeTransactionData_isOk_iff (data : Option (List PyChar)) :
    IsOk (decodeTransactionData py data) ↔
      ∀ s, data = some s → (∀ c ∈ s, c.val < 0x80) ∧
        ∀ t, unhexlifyDecode s = .ok t →
          jsonLoads py t ≠ .error .valueError ∧ jsonLoads py t ≠ .error .recursionError := by
  rcases data with _ | _ | ⟨c, s⟩
  · exact iff_of_true (isOk_ok _) nofun
  · refine iff_of_true (isOk_ok _) fun _ h => ?_
    cases h
    refine ⟨fun c hc => absurd hc (List.not_mem_nil c), fun t ht => ?_⟩
    rw [unhexlifyDecode, unhexlifyStr, if_pos (fun _ h => absurd h (List.not_mem_nil _))] at ht
    cases ht
    rw [jsonLoads_nil]
    exact ⟨nofun, nofun⟩
  rw [decodeTransactionData_some py (List.cons_ne_nil c s), decodeTry]
  simp only [Option.some.injEq, forall_eq']
  by_cases hascii : ∀ x ∈ c :: s, x.val < 0x80
  case neg =>
    refine iff_of_false ?_ fun h => hascii h.1
    simp [isOk_pyTry, unhexlifyDecode_of_not_ascii hascii]
  case pos =>
    rw [and_iff_right hascii]
    cases hx : unhexlifyDecode (c :: s) with
    | error e =>
      refine iff_of_true ?_ fun t ht => nomatch ht
      rcases unhexlifyDecode_error_of_ascii hascii hx with rfl | rfl <;> simp [isOk_pyTry, Except.map]
    | ok t =>
      simp only [except_ok_bind, Except.ok.injEq, forall_eq']
      cases hj : jsonLoads py t with
      | ok v => simp
      | error e =>
        rcases jsonLoads_error py hj with rfl | rfl | rfl <;> simp [isOk_pyTry, Except.map]

end Decode

section Encode

variable (py : CPython) (floatRepr : PyFloat → List Char)

/-- Through `json.dumps`, a value is encoded exactly when `json.dumps` returns. -/
theorem isOk_dumps_hex (d : JsonValue) :
    IsOk (dumps py floatRepr d >>= fun t => hexOfUtf8 (t.map pyCharOf)) ↔
      d.depth ≤ py.dumpsDepth ∧ d.intsFit py = true := by
  rw [isOk_bind]
  constructor
  · rintro ⟨t, ht, -⟩
    exact ((dumps_eq_ok_iff py floatRepr d t).1 ht).imp_right And.left
  · rintro ⟨h1, h2⟩
    exact ⟨_, (dumps_eq_ok_iff py floatRepr d _).2 ⟨h1, h2, rfl⟩, by rw [hexOfUtf8_chars]; exact isOk_ok _⟩

/-- `encode_transaction_data` raises exactly on a `str` with a surrogate, which
`str.encode('utf-8')` refuses, and on a value of another kind on which `json.dumps` raises:
lists and dicts nested past its recursion budget, or an int past the digit limit. What
`json.dumps` writes is ASCII, which `encode` never refuses. -/
theorem encodeTransactionData_isOk_iff (d : JsonValue) :
    IsOk (encodeTransactionData py floatRepr d) ↔
      (∀ s, d = .str s → ∀ c ∈ s, IsScalar c) ∧
      ((∀ s, d ≠ .str s) → d.depth ≤ py.dumpsDepth ∧ d.intsFit py = true) := by
  cases d with
  | str s =>
    simp only [encodeTransactionData_str, hexOfUtf8, strEncodeUtf8, JsonValue.str.injEq,
      forall_eq', ne_eq, not_true_eq_false, forall_const, false_imp_iff, and_true]
    split_ifs with h
    · exact iff_of_true (isOk_ok _) h
    · exact iff_of_false (not_isOk_error _) h
  | null => simp [JsonValue.depth, JsonValue.intsFit, encodeTransactionData]
  | _ =>
    rw [encodeTransactionData_of_not_str py floatRepr (by simp) (by simp), isOk_dumps_hex]
    simp

end Encode

/-! ## §3 The round trip -/

section RoundTrip

variable (py : CPython) (floatRepr : PyFloat → List Char)

/-- A value that is neither `None` nor a `str` comes back as it was exactly when it is nested
within the recursion budgets of `json.dumps` and `json.loads` and its ints fit. -/
theorem transactionDataRoundTrip_of_not_str {d : JsonValue} (hd : d.isPlain)
    (hnull : d ≠ .null) (hstr : ∀ s, d ≠ .str s) :
    transactionDataRoundTrip py floatRepr d = .ok d ↔
      d.depth ≤ py.dumpsDepth ∧ d.depth ≤ py.loadsDepth ∧ d.intsFit py = true := by
  rw [transactionDataRoundTrip, encodeTransactionData_of_not_str py floatRepr hnull hstr]
  cases hdump : dumps py floatRepr d with
  | error e =>
    refine iff_of_false (by simp) fun h => ?_
    rw [(dumps_eq_ok_iff py floatRepr d _).2 ⟨h.1, h.2.2, rfl⟩] at hdump
    cases hdump
  | ok t =>
    obtain ⟨h1, h2, rfl⟩ := (dumps_eq_ok_iff py floatRepr d t).1 hdump
    obtain ⟨c, t, hc, -⟩ := jsonText_head floatRepr hd
    rw [except_ok_bind, hexOfUtf8_chars, except_ok_bind,
      decodeTransactionData_hexlify py (by simp [hc])]
    by_cases hdl : d.depth ≤ py.loadsDepth
    · rw [jsonLoads_dumps py floatRepr hd hdump hdl]
      exact iff_of_true rfl ⟨h1, hdl, h2⟩
    · refine iff_of_false ?_ fun h => hdl h.2.1
      cases hj : jsonLoads py (jsonText floatRepr d) with
      | ok v =>
        have := jsonLoads_depth_le py hj
        intro h
        cases h
        exact hdl this
      | error e =>
        by_cases he : e = .jsonDecodeError
        · subst he
          rw [pyTry_error_of_mem (List.mem_singleton_self _)]
          exact fun h => hstr _ (Except.ok.inj h).symm
        · rw [pyTry, if_neg (by simpa using he)]
          nofun

@[simp] theorem transactionDataRoundTrip_null :
    transactionDataRoundTrip py floatRepr .null = .ok .null := rfl

/-- The empty string comes back as `None`. -/
theorem transactionDataRoundTrip_empty :
    transactionDataRoundTrip py floatRepr (.str []) = .ok .null := by
  rw [transactionDataRoundTrip, encodeTransactionData_str, hexOfUtf8,
    strEncodeUtf8_of_scalar (fun _ h => absurd h (List.not_mem_nil _))]
  rfl

/-- A non-empty string comes back as what `json.loads` reads from it, or as itself when
`json.loads` raises `JSONDecodeError`; the other exceptions of `json.loads` escape. -/
theorem transactionDataRoundTrip_str {s : List PyChar} (hs : ∀ c ∈ s, IsScalar c) (hne : s ≠ []) :
    transactionDataRoundTrip py floatRepr (.str s) =
      pyTry (jsonLoads py (scalarChars s)) [.jsonDecodeError] (.ok (.str s)) := by
  rw [transactionDataRoundTrip, encodeTransactionData_str, hexOfUtf8, strEncodeUtf8_of_scalar hs,
    except_ok_bind, except_pure_eq, except_ok_bind,
    decodeTransactionData_hexlify py (by simpa [scalarChars] using hne), map_pyCharOf_scalarChars hs]

/-- `transactionDataRoundTrip_str` for a string of Lean characters, which has no surrogates. -/
theorem transactionDataRoundTrip_chars {w : List Char} (hw : w ≠ []) :
    transactionDataRoundTrip py floatRepr (.str (w.map pyCharOf)) =
      pyTry (jsonLoads py w) [.jsonDecodeError] (.ok (.str (w.map pyCharOf))) := by
  rw [transactionDataRoundTrip_str py floatRepr (fun c hc => by
    obtain ⟨c, -, rfl⟩ := List.mem_map.1 hc; exact isScalar_pyCharOf c) (by simpa using hw),
    scalarChars_map_pyCharOf]

/-- For a value without floats or surrogates whose dicts have distinct keys, the decoder
undoes the encoder exactly when the value is a non-empty string on which `json.loads` raises
`JSONDecodeError`, or a value of another kind nested within the recursion budgets of
`json.dumps` and `json.loads` whose ints are within the digit limit. -/
theorem transactionData_roundTrip_iff {d : JsonValue} (hd : d.isPlain) :
    transactionDataRoundTrip py floatRepr d = .ok d ↔
      (∀ s, d = .str s → s ≠ [] ∧ jsonLoads py (scalarChars s) = .error .jsonDecodeError) ∧
      ((∀ s, d ≠ .str s) →
        d.depth ≤ py.dumpsDepth ∧ d.depth ≤ py.loadsDepth ∧ d.intsFit py = true) := by
  by_cases hstr : ∃ s, d = .str s
  case pos =>
    obtain ⟨s, rfl⟩ := hstr
    have hs : ∀ c ∈ s, IsScalar c := by simpa [JsonValue.isPlain] using hd
    simp only [JsonValue.str.injEq, forall_eq', ne_eq, not_true_eq_false, forall_const,
      false_imp_iff, and_true]
    rcases eq_or_ne s [] with rfl | hne
    · simp [transactionDataRoundTrip_empty]
    rw [transactionDataRoundTrip_str py floatRepr hs hne]
    cases h : jsonLoads py (scalarChars s) with
    | ok v =>
      have hv : v ≠ .str s := by
        rintro rfl
        simpa [scalarChars] using jsonLoads_str_length py h
      simp [pyTry, hv]
    | error e =>
      by_cases he : e = .jsonDecodeError
      · subst he; simp [pyTry, hne]
      · simp [pyTry, he]
  case neg =>
    push_neg at hstr
    by_cases hnull : d = .null
    · subst hnull; simp [JsonValue.depth, JsonValue.intsFit]
    · rw [transactionDataRoundTrip_of_not_str py floatRepr hd hnull hstr]
      simp [hstr]

end RoundTrip

/-- The dict `{'a': [1, True]}` is not a string, and is nested two deep with a one-digit int,
so it comes back as itself under CPython 3.11 (it has no floats, so `floatRepr` is never
called). -/
theorem transactionData_roundTrip_iff_dict :
    (JsonValue.object [("a".toList.map pyCharOf, .array [.int 1, .bool true])]).isPlain ∧
    (transactionDataRoundTrip CPython.v311 (fun _ => [])
        (.object [("a".toList.map pyCharOf, .array [.int 1, .bool true])]) =
        .ok (.object [("a".toList.map pyCharOf, .array [.int 1, .bool true])]) ↔
      (∀ s, JsonValue.object [("a".toList.map pyCharOf, .array [.int 1, .bool true])] = .str s →
        s ≠ [] ∧ jsonLoads CPython.v311 (scalarChars s) = .error .jsonDecodeError) ∧
      ((∀ s, JsonValue.object [("a".toList.map pyCharOf, .array [.int 1, .bool true])] ≠ .str s) →
        (JsonValue.object [("a".toList.map pyCharOf, .array [.int 1, .bool true])]).depth ≤
          CPython.v311.dumpsDepth ∧
        (JsonValue.object [("a".toList.map pyCharOf, .array [.int 1, .bool true])]).depth ≤
          CPython.v311.loadsDepth ∧
        (JsonValue.object [("a".toList.map pyCharOf, .array [.int 1, .bool true])]).intsFit
          CPython.v311 = true)) :=
  ⟨by decide, transactionData_roundTrip_iff _ _ (by decide)⟩

/-- Under CPython 3.11: the empty string comes back as `None`, and the strings `'123'`,
`'null'`, `'true'` and `'[1]'` as the values `json.loads` reads from them. The string
`'1' * 4301` makes `json.loads` raise `ValueError` and `'[' * 991` makes it raise
`RecursionError`, and neither is caught; encoding `10 ** 4300` raises `ValueError`, and a list
nested 991 deep raises `RecursionError` in `json.dumps`. (No float is printed, so `floatRepr`
is never called.) -/
theorem transactionData_roundTrip_counterexamples :
    transactionDataRoundTrip CPython.v311 (fun _ => []) (.str []) = .ok .null ∧
    transactionDataRoundTrip CPython.v311 (fun _ => []) (.str ("123".toList.map pyCharOf)) =
      .ok (.int 123) ∧
    transactionDataRoundTrip CPython.v311 (fun _ => []) (.str ("null".toList.map pyCharOf)) =
      .ok .null ∧
    transactionDataRoundTrip CPython.v311 (fun _ => []) (.str ("true".toList.map pyCharOf)) =
      .ok (.bool true) ∧
    transactionDataRoundTrip CPython.v311 (fun _ => []) (.str ("[1]".toList.map pyCharOf)) =
      .ok (.array [.int 1]) ∧
    transactionDataRoundTrip CPython.v311 (fun _ => [])
      (.str (('1' :: List.replicate 4300 '1').map pyCharOf)) = .error .valueError ∧
    transactionDataRoundTrip CPython.v311 (fun _ => [])
      (.str ((List.replicate 991 '[').map pyCharOf)) = .error .recursionError ∧
    transactionDataRoundTrip CPython.v311 (fun _ => []) (.int (10 ^ 4300)) =
      .error .valueError ∧
    transactionDataRoundTrip CPython.v311 (fun _ => [])
      ((fun x => JsonValue.array [x])^[990] (.array [])) = .error .recursionError := by
  have hdigits : jsonLoads CPython.v311 ('1' :: List.replicate 4300 '1') = .error .valueError :=
    jsonLoads_digits_over_limit _ (by decide) (fun c hc => by rw [List.eq_of_mem_replicate hc]; rfl)
      (by rw [List.length_replicate]; decide)
  have hbrackets : jsonLoads CPython.v311 (List.replicate 991 '[') = .error .recursionError :=
    jsonLoads_brackets_over_depth CPython.v311
  have hbig : dumps CPython.v311 (fun _ => []) (.int (10 ^ 4300)) = .error .valueError :=
    (dumps_int _ _ _).trans (longToDecimalString_ten_pow CPython.v311 (L := 4300) (by decide))
  have hdeep : dumps CPython.v311 (fun _ => []) ((fun x => JsonValue.array [x])^[990] (.array [])) =
      .error .recursionError :=
    listencodeObj_of_depth_lt _ _ _ _ (by rw [depth_iterate_array]; decide)
      (by rw [intsFit_iterate_array]; rfl)
  refine ⟨transactionDataRoundTrip_empty _ _, (transactionDataRoundTrip_chars _ _ (by decide)).trans rfl,
    (transactionDataRoundTrip_chars _ _ (by decide)).trans rfl,
    (transactionDataRoundTrip_chars _ _ (by decide)).trans rfl,
    (transactionDataRoundTrip_chars _ _ (by decide)).trans rfl,
    (transactionDataRoundTrip_chars _ _ (List.cons_ne_nil _ _)).trans (by rw [hdigits]; rfl),
    (transactionDataRoundTrip_chars _ _ (List.replicate_succ_ne_nil _ _)).trans
      (by rw [hbrackets]; rfl), ?_, ?_⟩
  · rw [transactionDataRoundTrip,
      encodeTransactionData_of_not_str (d := .int (10 ^ 4300)) _ _ nofun (fun _ => nofun), hbig]
    rfl
  · rw [transactionDataRoundTrip, encodeTransactionData_of_not_str _ _
      (by rw [Function.iterate_succ_apply']; nofun)
      (by rw [Function.iterate_succ_apply']; exact fun _ => nofun), hdeep]
    rfl

end ShardX.Sdk
