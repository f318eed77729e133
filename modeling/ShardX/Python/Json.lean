import ShardX.Python.Str
import ShardX.Python.Codecs
import Mathlib.Data.List.Nodup

/-!
# Python `json`: `dumps` and `loads`

`json.dumps` with its defaults (`ensure_ascii=True`, separators `', '` and `': '`,
`allow_nan=True`) and `json.loads`, as CPython runs them through its `_json` accelerator:
the encoder of `c_make_encoder` (`encoder_listencode_obj` with `ascii_escape_unicode`), and
`JSONDecoder.decode` around `scan_once_unicode`, `scanstring_unicode` (strict) and
`_match_number_unicode`.

A Python `str` in a value is a list of code points (`PyChar`), lone surrogates included:
`\uXXXX` escapes produce them and `ensure_ascii` escapes them again. The JSON text itself,
what `dumps` writes and `loads` reads here, is a list of `Char`s.

Both directions raise what CPython raises:
- `RecursionError` from `Py_EnterRecursiveCall`, which the encoder and the scanner call on
  entering each list and dict, before they look inside it: the interpreter's budgets
  `py.dumpsDepth` and `py.loadsDepth` (`CPython`);
- `ValueError` from the conversions between `int` and `str`, `int.__repr__` in the encoder
  and `PyLong_FromString` in the scanner, past `sys.get_int_max_str_digits()` digits;
- `JSONDecodeError` from the scanner on a text that is not JSON (the scanner's
  `StopIteration` becomes one in `raw_decode`).

A float the scanner reads is `float()` of its text, the nearest double (`1e400` is `inf`).
The encoder writes the specials by name and a finite float by `float.__repr__`, the shortest
text that reads back as the float, which is the parameter `floatRepr`. The scanner runs on
fuel, twice the text's length and one more.

Main results:
- `listencodeObj_eq_ok_iff`: `dumps` returns exactly on a value whose lists and dicts are
  nested within the budget and whose ints are within the digit limit, and then returns
  `jsonText`; past the budget it raises `RecursionError` (`listencodeObj_of_depth_lt`);
- `jsonLoads_dumps`: `loads` inverts `dumps` on every value without floats or surrogates
  whose dicts have distinct keys, when its nesting is also within the scanner's budget;
- `jsonLoads_error`: `loads` raises `JSONDecodeError`, `ValueError` or `RecursionError`, and
  both of the last two happen (`jsonLoads_digits_over_limit`, `jsonLoads_brackets_over_depth`);
- `jsonLoads_str_length`: a JSON text that `loads` reads as a string is longer than that
  string.
-/

namespace ShardX.Python

/-! ## §1 Values -/

/-- What `json.loads` returns and `json.dumps` serialises: `None`, `bool`, `int`, `float`,
`str`, `list`, and a `dict` with `str` keys as its items in insertion order. -/
inductive JsonValue where
  | null
  | bool (b : Bool)
  | int (i : ℤ)
  | float (x : PyFloat)
  | str (s : List PyChar)
  | array (xs : List JsonValue)
  | object (kvs : List (List PyChar × JsonValue))
  deriving Repr

mutual
/-- A value a `json.dumps`/`json.loads` round trip is about: no floats, no surrogate code
points in any string or key, and the keys of every dict distinct, as a Python `dict`'s
are. -/
def JsonValue.isPlain : JsonValue → Bool
  | .float _ => false
  | .str s => s.all fun c => decide (IsScalar c)
  | .array xs => itemsPlain xs
  | .object kvs => decide (kvs.map Prod.fst).Nodup && membersPlain kvs
  | _ => true

/-- Every item is plain. -/
def itemsPlain : List JsonValue → Bool
  | [] => true
  | x :: xs => x.isPlain && itemsPlain xs

/-- Every key is free of surrogates and every value plain. -/
def membersPlain : List (List PyChar × JsonValue) → Bool
  | [] => true
  | (k, v) :: kvs => (k.all fun c => decide (IsScalar c)) && v.isPlain && membersPlain kvs
end

mutual
/-- How many lists and dicts stand one inside another in a value: `0` for a scalar, `1` for
`[]`, `{}` and a list of scalars. -/
def JsonValue.depth : JsonValue → ℕ
  | .array xs => itemsDepth xs + 1
  | .object kvs => membersDepth kvs + 1
  | _ => 0

/-- The depth of the deepest item of a list. -/
def itemsDepth : List JsonValue → ℕ
  | [] => 0
  | x :: xs => max x.depth (itemsDepth xs)

/-- The depth of the deepest value of a dict. -/
def membersDepth : List (List PyChar × JsonValue) → ℕ
  | [] => 0
  | (_, v) :: kvs => max v.depth (membersDepth kvs)
end

/-- Putting a value in a list adds a level; `k` lists around `v` add `k`. -/
theorem depth_iterate_array (k : ℕ) (v : JsonValue) :
    ((fun x => JsonValue.array [x])^[k] v).depth = v.depth + k := by
  induction k with
  | zero => rfl
  | succ k ih =>
    rw [Function.iterate_succ_apply', JsonValue.depth, itemsDepth, itemsDepth, ih]
    omega

/-- The decimal digits of `|i|`, which `int.__repr__` writes after the sign. -/
def intDigits (i : ℤ) : ℕ := (Nat.toDigits 10 i.natAbs).length

/-- An int has more than `L` digits exactly when `10 ^ L ≤ |i|`, for `L > 0`. -/
theorem lt_intDigits_iff (i : ℤ) {L : ℕ} (hL : 0 < L) : L < intDigits i ↔ 10 ^ L ≤ i.natAbs :=
  lt_length_toDigits_iff _ hL

theorem intDigits_ten_pow (L : ℕ) : intDigits (10 ^ L) = L + 1 := by
  have habs : (10 ^ L : ℤ).natAbs = 10 ^ L := by rw [Int.natAbs_pow]; rfl
  have hle : intDigits (10 ^ L) ≤ L + 1 := by
    by_contra h
    have := (lt_intDigits_iff (10 ^ L) L.succ_pos).1 (by omega)
    rw [habs] at this
    exact absurd this (not_le.2 (Nat.pow_lt_pow_right (by norm_num) L.lt_succ_self))
  rcases Nat.eq_zero_or_pos L with rfl | hL
  · rfl
  · have := (lt_intDigits_iff (10 ^ L) hL).2 (habs ▸ le_rfl)
    omega

mutual
/-- Every int of a value has at most the digits `int.__repr__` may write. -/
def JsonValue.intsFit (py : CPython) : JsonValue → Bool
  | .int i => !decide (py.exceedsMaxStrDigits (intDigits i))
  | .array xs => itemsFit py xs
  | .object kvs => membersFit py kvs
  | _ => true

/-- Every int of every item fits. -/
def itemsFit (py : CPython) : List JsonValue → Bool
  | [] => true
  | x :: xs => x.intsFit py && itemsFit py xs

/-- Every int of every value of a dict fits. -/
def membersFit (py : CPython) : List (List PyChar × JsonValue) → Bool
  | [] => true
  | (_, v) :: kvs => v.intsFit py && membersFit py kvs
end

theorem intsFit_iterate_array (py : CPython) (k : ℕ) (v : JsonValue) :
    ((fun x => JsonValue.array [x])^[k] v).intsFit py = v.intsFit py := by
  induction k with
  | zero => rfl
  | succ k ih =>
    rw [Function.iterate_succ_apply', JsonValue.intsFit, itemsFit, itemsFit, ih, Bool.and_true]

/-! ## §2 `json.dumps` -/

/-- `S_CHAR`: a character `ensure_ascii` writes as itself. -/
def IsPlainAscii (c : PyChar) : Prop :=
  0x20 ≤ c.val ∧ c.val ≤ 0x7E ∧ c.val ≠ 0x5C ∧ c.val ≠ 0x22

instance : DecidablePred IsPlainAscii := fun _ => inferInstanceAs (Decidable (_ ∧ _))

/-- Four lowercase hex digits of `n < 0x10000`, most significant first. -/
def hex4 (n : ℕ) : List Char :=
  [hexDigit (n / 4096 % 16), hexDigit (n / 256 % 16), hexDigit (n / 16 % 16), hexDigit (n % 16)]

/-- `ascii_escape_unichar`: a backslash escape; a code point above `0xFFFF` is written as
the escapes of its UTF-16 surrogate pair. -/
def escapeUnichar (c : PyChar) : List Char :=
  '\\' ::
    if c.val = 0x5C then ['\\']
    else if c.val = 0x22 then ['"']
    else if c.val = 0x08 then ['b']
    else if c.val = 0x0C then ['f']
    else if c.val = 0x0A then ['n']
    else if c.val = 0x0D then ['r']
    else if c.val = 0x09 then ['t']
    else if 0x10000 ≤ c.val then
      'u' :: hex4 (0xD7C0 + c.val / 1024) ++ '\\' :: 'u' :: hex4 (0xDC00 + c.val % 1024)
    else 'u' :: hex4 c.val

/-- One character of a string literal. -/
def escapeChar (c : PyChar) : List Char :=
  if IsPlainAscii c then [Char.ofNat c.val] else escapeUnichar c

/-- `ascii_escape_unicode`: a `str` as a JSON string literal. -/
def encodeString (s : List PyChar) : List Char := '"' :: s.flatMap escapeChar ++ ['"']

/-- `int.__repr__` of an int within the limit: the sign and the digits. -/
def intRepr (i : ℤ) : List Char := (if i < 0 then ['-'] else []) ++ Nat.toDigits 10 i.natAbs

/-- `int.__repr__` (`long_to_decimal_string`): `ValueError` past the digit limit. -/
def longToDecimalString (py : CPython) (i : ℤ) : Except PyExc (List Char) :=
  if py.exceedsMaxStrDigits (intDigits i) then .error .valueError else .ok (intRepr i)

/-- `encoder_encode_float` with `allow_nan`: the specials by name, a finite float by
`float.__repr__`, here `floatRepr`. -/
def floatText (floatRepr : PyFloat → List Char) : PyFloat → List Char
  | .finite s m => floatRepr (.finite s m)
  | .inf false => "Infinity".toList
  | .inf true => "-Infinity".toList
  | .nan => "NaN".toList

section Dumps

variable (py : CPython) (floatRepr : PyFloat → List Char)

mutual
/-- `encoder_listencode_obj` with `depth` more lists and dicts allowed: entering one with none
left raises `RecursionError`, an empty one included. -/
def listencodeObj : ℕ → JsonValue → Except PyExc (List Char)
  | _, .null => .ok "null".toList
  | _, .bool true => .ok "true".toList
  | _, .bool false => .ok "false".toList
  | _, .int i => longToDecimalString py i
  | _, .float x => .ok (floatText floatRepr x)
  | _, .str s => .ok (encodeString s)
  | 0, .array _ => .error .recursionError
  | 0, .object _ => .error .recursionError
  | _ + 1, .array [] => .ok "[]".toList
  | d + 1, .array (x :: xs) => do
    let t ← listencodeObj d x
    let ts ← listencodeItems d xs
    pure ('[' :: t ++ ts)
  | _ + 1, .object [] => .ok "{}".toList
  | d + 1, .object ((k, v) :: kvs) => do
    let t ← listencodeObj d v
    let ts ← listencodeMembers d kvs
    pure ('{' :: encodeString k ++ ':' :: ' ' :: t ++ ts)

/-- The items of a list after the first, each behind `', '`, and the closing bracket. -/
def listencodeItems : ℕ → List JsonValue → Except PyExc (List Char)
  | _, [] => .ok [']']
  | d, x :: xs => do
    let t ← listencodeObj d x
    let ts ← listencodeItems d xs
    pure (',' :: ' ' :: t ++ ts)

/-- The items of a dict after the first, each behind `', '`, and the closing brace. -/
def listencodeMembers : ℕ → List (List PyChar × JsonValue) → Except PyExc (List Char)
  | _, [] => .ok ['}']
  | d, (k, v) :: kvs => do
    let t ← listencodeObj d v
    let ts ← listencodeMembers d kvs
    pure (',' :: ' ' :: encodeString k ++ ':' :: ' ' :: t ++ ts)
end

/-- `json.dumps(v)`. A `str` takes the fast path `encode_basestring_ascii`, which writes the
same literal without entering the encoder. -/
def dumps (v : JsonValue) : Except PyExc (List Char) := listencodeObj py floatRepr py.dumpsDepth v

mutual
/-- The text the encoder writes when it raises nothing. -/
def jsonText : JsonValue → List Char
  | .null => "null".toList
  | .bool true => "true".toList
  | .bool false => "false".toList
  | .int i => intRepr i
  | .float x => floatText floatRepr x
  | .str s => encodeString s
  | .array [] => "[]".toList
  | .array (x :: xs) => '[' :: jsonText x ++ itemsText xs
  | .object [] => "{}".toList
  | .object ((k, v) :: kvs) => '{' :: encodeString k ++ ':' :: ' ' :: jsonText v ++ membersText kvs

/-- The text of the items of a list after the first. -/
def itemsText : List JsonValue → List Char
  | [] => [']']
  | x :: xs => ',' :: ' ' :: jsonText x ++ itemsText xs

/-- The text of the items of a dict after the first. -/
def membersText : List (List PyChar × JsonValue) → List Char
  | [] => ['}']
  | (k, v) :: kvs => ',' :: ' ' :: encodeString k ++ ':' :: ' ' :: jsonText v ++ membersText kvs
end

theorem longToDecimalString_eq_ok_iff (i : ℤ) (t : List Char) :
    longToDecimalString py i = .ok t ↔
      (JsonValue.int i).intsFit py = true ∧ t = intRepr i := by
  unfold longToDecimalString
  split_ifs with h <;> simp [JsonValue.intsFit, h, eq_comm]

mutual
/-- The encoder returns exactly on a value nested within its budget whose ints fit, and then
returns the value's text. -/
theorem listencodeObj_eq_ok_iff : ∀ (d : ℕ) (v : JsonValue) (t : List Char),
    listencodeObj py floatRepr d v = .ok t ↔
      v.depth ≤ d ∧ v.intsFit py = true ∧ t = jsonText floatRepr v
  | _, .null, _ | _, .bool true, _ | _, .bool false, _ | _, .float _, _ | _, .str _, _ => by
    simp [listencodeObj, JsonValue.depth, JsonValue.intsFit, jsonText, eq_comm]
  | _, .int i, t => by
    simp [listencodeObj, JsonValue.depth, jsonText, longToDecimalString_eq_ok_iff]
  | 0, .array _, _ => by simp [listencodeObj, JsonValue.depth]
  | 0, .object _, _ => by simp [listencodeObj, JsonValue.depth]
  | _ + 1, .array [], _ => by
    simp [listencodeObj, JsonValue.depth, itemsDepth, JsonValue.intsFit, itemsFit, jsonText,
      eq_comm]
  | _ + 1, .object [], _ => by
    simp [listencodeObj, JsonValue.depth, membersDepth, JsonValue.intsFit, membersFit, jsonText,
      eq_comm]
  | d + 1, .array (x :: xs), t => by
    have hx := listencodeObj_eq_ok_iff d x
    have hxs := listencodeItems_eq_ok_iff d xs
    simp only [listencodeObj, except_bind_eq_ok, hx, hxs, except_pure_eq, Except.ok.injEq]
    simp only [JsonValue.depth, itemsDepth, JsonValue.intsFit, itemsFit, jsonText,
      Bool.and_eq_true, add_le_add_iff_right, max_le_iff]
    constructor
    · rintro ⟨_, ⟨h1, h2, rfl⟩, _, ⟨h3, h4, rfl⟩, rfl⟩
      exact ⟨⟨h1, h3⟩, ⟨h2, h4⟩, rfl⟩
    · rintro ⟨⟨h1, h3⟩, ⟨h2, h4⟩, rfl⟩
      exact ⟨_, ⟨h1, h2, rfl⟩, _, ⟨h3, h4, rfl⟩, rfl⟩
  | d + 1, .object ((k, v) :: kvs), t => by
    have hv := listencodeObj_eq_ok_iff d v
    have hkvs := listencodeMembers_eq_ok_iff d kvs
    simp only [listencodeObj, except_bind_eq_ok, hv, hkvs, except_pure_eq, Except.ok.injEq]
    simp only [JsonValue.depth, membersDepth, JsonValue.intsFit, membersFit, jsonText,
      Bool.and_eq_true, add_le_add_iff_right, max_le_iff]
    constructor
    · rintro ⟨_, ⟨h1, h2, rfl⟩, _, ⟨h3, h4, rfl⟩, rfl⟩
      exact ⟨⟨h1, h3⟩, ⟨h2, h4⟩, rfl⟩
    · rintro ⟨⟨h1, h3⟩, ⟨h2, h4⟩, rfl⟩
      exact ⟨_, ⟨h1, h2, rfl⟩, _, ⟨h3, h4, rfl⟩, rfl⟩

theorem listencodeItems_eq_ok_iff : ∀ (d : ℕ) (xs : List JsonValue) (t : List Char),
    listencodeItems py floatRepr d xs = .ok t ↔
      itemsDepth xs ≤ d ∧ itemsFit py xs = true ∧ t = itemsText floatRepr xs
  | _, [], _ => by simp [listencodeItems, itemsDepth, itemsFit, itemsText, eq_comm]
  | d, x :: xs, t => by
    have hx := listencodeObj_eq_ok_iff d x
    have hxs := listencodeItems_eq_ok_iff d xs
    simp only [listencodeItems, except_bind_eq_ok, hx, hxs, except_pure_eq, Except.ok.injEq]
    simp only [itemsDepth, itemsFit, itemsText, Bool.and_eq_true, max_le_iff]
    constructor
    · rintro ⟨_, ⟨h1, h2, rfl⟩, _, ⟨h3, h4, rfl⟩, rfl⟩
      exact ⟨⟨h1, h3⟩, ⟨h2, h4⟩, rfl⟩
    · rintro ⟨⟨h1, h3⟩, ⟨h2, h4⟩, rfl⟩
      exact ⟨_, ⟨h1, h2, rfl⟩, _, ⟨h3, h4, rfl⟩, rfl⟩

theorem listencodeMembers_eq_ok_iff : ∀ (d : ℕ) (kvs : List (List PyChar × JsonValue))
    (t : List Char), listencodeMembers py floatRepr d kvs = .ok t ↔
      membersDepth kvs ≤ d ∧ membersFit py kvs = true ∧ t = membersText floatRepr kvs
  | _, [], _ => by simp [listencodeMembers, membersDepth, membersFit, membersText, eq_comm]
  | d, (k, v) :: kvs, t => by
    have hv := listencodeObj_eq_ok_iff d v
    have hkvs := listencodeMembers_eq_ok_iff d kvs
    simp only [listencodeMembers, except_bind_eq_ok, hv, hkvs, except_pure_eq, Except.ok.injEq]
    simp only [membersDepth, membersFit, membersText, Bool.and_eq_true, max_le_iff]
    constructor
    · rintro ⟨_, ⟨h1, h2, rfl⟩, _, ⟨h3, h4, rfl⟩, rfl⟩
      exact ⟨⟨h1, h3⟩, ⟨h2, h4⟩, rfl⟩
    · rintro ⟨⟨h1, h3⟩, ⟨h2, h4⟩, rfl⟩
      exact ⟨_, ⟨h1, h2, rfl⟩, _, ⟨h3, h4, rfl⟩, rfl⟩
end

/-- `json.dumps` returns exactly on a value nested within `py.dumpsDepth` whose ints fit, and
then returns the value's text. -/
theorem dumps_eq_ok_iff (v : JsonValue) (t : List Char) :
    dumps py floatRepr v = .ok t ↔
      v.depth ≤ py.dumpsDepth ∧ v.intsFit py = true ∧ t = jsonText floatRepr v :=
  listencodeObj_eq_ok_iff py floatRepr _ v t

theorem dumps_int (i : ℤ) : dumps py floatRepr (.int i) = longToDecimalString py i := by
  rw [dumps, listencodeObj]

/-- `int.__repr__` of `10 ** L`, which has `L + 1` digits, raises `ValueError` when they
exceed the limit. -/
theorem longToDecimalString_ten_pow {L : ℕ} (h : py.exceedsMaxStrDigits (L + 1)) :
    longToDecimalString py (10 ^ L) = .error .valueError := by
  rw [longToDecimalString, if_pos (by rwa [intDigits_ten_pow])]

mutual
/-- Past its budget the encoder raises `RecursionError`, when no int raised first. -/
theorem listencodeObj_of_depth_lt : ∀ (d : ℕ) (v : JsonValue), d < v.depth →
    v.intsFit py = true → listencodeObj py floatRepr d v = .error .recursionError
  | _, .null, h, _ | _, .bool _, h, _ | _, .int _, h, _ | _, .float _, h, _
  | _, .str _, h, _ => by simp [JsonValue.depth] at h
  | 0, .array _, _, _ | 0, .object _, _, _ => rfl
  | _ + 1, .array [], h, _ => by simp [JsonValue.depth, itemsDepth] at h
  | _ + 1, .object [], h, _ => by simp [JsonValue.depth, membersDepth] at h
  | d + 1, .array (x :: xs), h, hf => by
    simp only [JsonValue.depth, itemsDepth, JsonValue.intsFit, itemsFit,
      Bool.and_eq_true] at h hf
    simp only [listencodeObj]
    by_cases hx : d < x.depth
    · rw [listencodeObj_of_depth_lt d x hx hf.1]; rfl
    · obtain ⟨t, ht⟩ : IsOk (listencodeObj py floatRepr d x) :=
        ⟨_, (listencodeObj_eq_ok_iff py floatRepr d x _).2 ⟨by omega, hf.1, rfl⟩⟩
      rw [ht, except_ok_bind, listencodeItems_of_depth_lt d xs (by omega) hf.2]; rfl
  | d + 1, .object ((k, v) :: kvs), h, hf => by
    simp only [JsonValue.depth, membersDepth, JsonValue.intsFit, membersFit,
      Bool.and_eq_true] at h hf
    simp only [listencodeObj]
    by_cases hv : d < v.depth
    · rw [listencodeObj_of_depth_lt d v hv hf.1]; rfl
    · obtain ⟨t, ht⟩ : IsOk (listencodeObj py floatRepr d v) :=
        ⟨_, (listencodeObj_eq_ok_iff py floatRepr d v _).2 ⟨by omega, hf.1, rfl⟩⟩
      rw [ht, except_ok_bind, listencodeMembers_of_depth_lt d kvs (by omega) hf.2]; rfl

theorem listencodeItems_of_depth_lt : ∀ (d : ℕ) (xs : List JsonValue), d < itemsDepth xs →
    itemsFit py xs = true → listencodeItems py floatRepr d xs = .error .recursionError
  | _, [], h, _ => by simp [itemsDepth] at h
  | d, x :: xs, h, hf => by
    simp only [itemsDepth, itemsFit, Bool.and_eq_true] at h hf
    simp only [listencodeItems]
    by_cases hx : d < x.depth
    · rw [listencodeObj_of_depth_lt d x hx hf.1]; rfl
    · obtain ⟨t, ht⟩ : IsOk (listencodeObj py floatRepr d x) :=
        ⟨_, (listencodeObj_eq_ok_iff py floatRepr d x _).2 ⟨by omega, hf.1, rfl⟩⟩
      rw [ht, except_ok_bind, listencodeItems_of_depth_lt d xs (by omega) hf.2]; rfl

theorem listencodeMembers_of_depth_lt : ∀ (d : ℕ) (kvs : List (List PyChar × JsonValue)),
    d < membersDepth kvs → membersFit py kvs = true →
      listencodeMembers py floatRepr d kvs = .error .recursionError
  | _, [], h, _ => by simp [membersDepth] at h
  | d, (k, v) :: kvs, h, hf => by
    simp only [membersDepth, membersFit, Bool.and_eq_true] at h hf
    simp only [listencodeMembers]
    by_cases hv : d < v.depth
    · rw [listencodeObj_of_depth_lt d v hv hf.1]; rfl
    · obtain ⟨t, ht⟩ : IsOk (listencodeObj py floatRepr d v) :=
        ⟨_, (listencodeObj_eq_ok_iff py floatRepr d v _).2 ⟨by omega, hf.1, rfl⟩⟩
      rw [ht, except_ok_bind, listencodeMembers_of_depth_lt d kvs (by omega) hf.2]; rfl
end

end Dumps

/-! ## §3 `json.loads` -/

/-- `IS_WHITESPACE`. -/
def isJsonSpace (c : Char) : Bool := c = ' ' || c = '\t' || c = '\n' || c = '\r'

/-- The whitespace skips of the scanner and of `JSONDecoder.decode`. -/
def skipWs (s : List Char) : List Char := s.dropWhile isJsonSpace

/-- Four hex digits of a `\uXXXX` escape, either case. -/
def hex4Value (a b c d : Char) : Option ℕ := do
  return 4096 * (← hexValue a) + 256 * (← hexValue b) + 16 * (← hexValue c) + (← hexValue d)

/-- The backslash escapes other than `\u`. -/
def simpleEscape (e : Char) : Option Char :=
  if e = '"' then some '"'
  else if e = '\\' then some '\\'
  else if e = '/' then some '/'
  else if e = 'b' then some '\x08'
  else if e = 'f' then some '\x0c'
  else if e = 'n' then some '\n'
  else if e = 'r' then some '\r'
  else if e = 't' then some '\t'
  else none

/-- `Py_UNICODE_JOIN_SURROGATES`: the ten low bits of each half, under `0x10000`. -/
def joinSurrogates (hi lo : ℕ) : ℕ := 0x10000 + hi % 1024 * 1024 + lo % 1024

/-- Put a code point in front of a scanned string. -/
def consStr (x : PyChar) (r : Option (List PyChar × List Char)) :
    Option (List PyChar × List Char) :=
  r.map fun p => (x :: p.1, p.2)

mutual
/-- `scanstring_unicode` with `strict=True`, from after the opening quote: the string's
code points and the text after the closing quote. -/
def scanString : List Char → Option (List PyChar × List Char)
  | [] => none
  | c :: s =>
    if c = '"' then some ([], s)
    else if c = '\\' then scanEscape s
    else if c.toNat ≤ 0x1F then none
    else consStr (pyCharOf c) (scanString s)

/-- After a backslash. -/
def scanEscape : List Char → Option (List PyChar × List Char)
  | [] => none
  | e :: s =>
    if e = 'u' then scanUnicodeEscape s
    else match simpleEscape e with
      | some x => consStr (pyCharOf x) (scanString s)
      | none => none

/-- After `\u`: four hex digits; a high surrogate may pair with the escape after it. -/
def scanUnicodeEscape : List Char → Option (List PyChar × List Char)
  | a :: b :: c :: d :: s =>
    match hex4Value a b c d with
    | none => none
    | some n =>
      if 0xD800 ≤ n ∧ n ≤ 0xDBFF then scanLowSurrogate n s (consStr (codePoint n) (scanString s))
      else consStr (codePoint n) (scanString s)
  | _ => none

/-- After the high surrogate escape `hi`: a `\u` escape of a low surrogate with at least one
character after it is joined to `hi`; otherwise `hi` stays a lone surrogate, `single`, and
the text after it is scanned again from its start. -/
def scanLowSurrogate (hi : ℕ) :
    List Char → Option (List PyChar × List Char) → Option (List PyChar × List Char)
  | e1 :: e2 :: a :: b :: c :: d :: m :: rest, single =>
    if e1 = '\\' ∧ e2 = 'u' then
      match hex4Value a b c d with
      | none => none
      | some lo =>
        if 0xDC00 ≤ lo ∧ lo ≤ 0xDFFF then
          consStr (codePoint (joinSurrogates hi lo)) (scanString (m :: rest))
        else single
    else single
  | _, single => single
end

/-- `_match_number_unicode`'s integer part: `0`, or a digit `1`–`9` and every digit after
it. -/
def spanIntPart : List Char → Option (List Char × List Char)
  | [] => none
  | c :: s =>
    if c = '0' then some (['0'], s)
    else if '1' ≤ c ∧ c ≤ '9' then
      some (c :: s.takeWhile Char.isDigit, s.dropWhile Char.isDigit)
    else none

/-- The fraction's digits, when a digit follows a `.`; nothing otherwise. -/
def spanFraction (s : List Char) : List Char × List Char :=
  match s with
  | c :: d :: r =>
    if c = '.' ∧ d.isDigit then (d :: r.takeWhile Char.isDigit, r.dropWhile Char.isDigit)
    else ([], s)
  | _ => ([], s)

/-- The exponent `[eE][-+]?\d+`, when it is there: the text after it. Without a digit the
scanner backs up to the `e`. -/
def spanExponent : List Char → Option (List Char)
  | [] => none
  | e :: r =>
    if e = 'e' ∨ e = 'E' then
      let r := match r with
        | c :: r' => if c = '-' ∨ c = '+' then r' else c :: r'
        | [] => []
      if r.takeWhile Char.isDigit = [] then none else some (r.dropWhile Char.isDigit)
    else none

/-- An optional minus sign: the sign and the text after it. -/
def spanMinus : List Char → ℤ × List Char
  | [] => (1, [])
  | c :: r => if c = '-' then (-1, r) else (1, c :: r)

@[simp] theorem spanMinus_minus (r : List Char) : spanMinus ('-' :: r) = (-1, r) := rfl

theorem spanMinus_of_ne {c : Char} (h : c ≠ '-') (r : List Char) :
    spanMinus (c :: r) = (1, c :: r) := if_neg h

/-- `_match_number_unicode`: an int, or a float when a fraction or an exponent follows. The
number's text goes to `float()` (`PyFloat_FromString`), or its digits to `int()`
(`PyLong_FromString`), which raises `ValueError` past the digit limit. -/
def matchNumber (py : CPython) (s : List Char) : Except PyExc (JsonValue × List Char) :=
  match spanIntPart (spanMinus s).2 with
  | none => .error .jsonDecodeError
  | some (intPart, r) =>
    let (frac, r) := spanFraction r
    let (isFloat, r) : Bool × List Char := match spanExponent r with
      | some r' => (true, r')
      | none => (frac != [], r)
    if isFloat then
      match parseFloatText (s.take (s.length - r.length)) with
      | some x => .ok (.float x, r)
      | none => .error .valueError
    else
      match pyInt py intPart with
      | some n => .ok (.int ((spanMinus s).1 * n), r)
      | none => .error .valueError

/-- `s` without the word `w` in front, if it starts with it. -/
def stripWord : List Char → List Char → Option (List Char)
  | [], s => some s
  | _ :: _, [] => none
  | w :: ws, c :: s => if w = c then stripWord ws s else none

/-- The named constants of `scan_once_unicode`, after their first character. -/
def namedConstant (c : Char) (s : List Char) : Option (JsonValue × List Char) :=
  if c = 'n' then (stripWord "ull".toList s).map (.null, ·)
  else if c = 't' then (stripWord "rue".toList s).map (.bool true, ·)
  else if c = 'f' then (stripWord "alse".toList s).map (.bool false, ·)
  else if c = 'N' then (stripWord "aN".toList s).map (.float .nan, ·)
  else if c = 'I' then (stripWord "nfinity".toList s).map (.float (.inf false), ·)
  else if c = '-' then (stripWord "Infinity".toList s).map (.float (.inf true), ·)
  else none

/-- `PyDict_SetItem`: a new key goes last, a present one keeps its place and takes the new
value. -/
def dictSetItem {κ α : Type} [DecidableEq κ] (d : List (κ × α)) (k : κ) (v : α) :
    List (κ × α) :=
  if k ∈ d.map Prod.fst then d.map fun p => if p.1 = k then (k, v) else p else d ++ [(k, v)]

/-- The dict `_parse_object_unicode` builds from the pairs it read, in order. -/
def dictOfPairs (kvs : List (List PyChar × JsonValue)) : List (List PyChar × JsonValue) :=
  kvs.foldl (fun d p => dictSetItem d p.1 p.2) []

/-- `Py_EnterRecursiveCall` around the parse of a list or dict: `RecursionError` with no
depth left, and otherwise the parse, one level down. -/
def enterRecursiveCall {α : Type} (depth : ℕ) (k : ℕ → Except PyExc α) : Except PyExc α :=
  match depth with
  | 0 => .error .recursionError
  | d + 1 => k d

section Scanner

variable (py : CPython)

mutual
/-- `scan_once_unicode` with fuel and `depth` more lists and dicts allowed: one value and the
text after it. Entering a list or dict with no depth left raises `RecursionError`, before
the empty one is recognised. -/
def scanOnce : ℕ → ℕ → List Char → Except PyExc (JsonValue × List Char)
  | 0, _, _ => .error .jsonDecodeError
  | _ + 1, _, [] => .error .jsonDecodeError
  | n + 1, depth, c :: s =>
    if c = '"' then
      match scanString s with
      | some (t, r) => .ok (.str t, r)
      | none => .error .jsonDecodeError
    else if c = '{' then
      enterRecursiveCall depth fun d =>
        if (skipWs s).head? = some '}' then .ok (.object [], (skipWs s).tail)
        else (parseMembers n d (skipWs s)).map fun p => (.object (dictOfPairs p.1), p.2)
    else if c = '[' then
      enterRecursiveCall depth fun d =>
        if (skipWs s).head? = some ']' then .ok (.array [], (skipWs s).tail)
        else (parseElements n d (skipWs s)).map fun p => (.array p.1, p.2)
    else match namedConstant c s with
      | some r => .ok r
      | none => matchNumber py (c :: s)

/-- `_parse_array_unicode` from its first item: the items and the text after `]`. -/
def parseElements : ℕ → ℕ → List Char → Except PyExc (List JsonValue × List Char)
  | 0, _, _ => .error .jsonDecodeError
  | n + 1, d, s => do
    let (v, r) ← scanOnce n d s
    match skipWs r with
    | [] => .error .jsonDecodeError
    | c :: r =>
      if c = ']' then pure ([v], r)
      else if c = ',' then do
        let (vs, r) ← parseElements n d (skipWs r)
        pure (v :: vs, r)
      else .error .jsonDecodeError

/-- `_parse_object_unicode` from its first key: the pairs read, in order, and the text
after `}`. -/
def parseMembers : ℕ → ℕ → List Char →
    Except PyExc (List (List PyChar × JsonValue) × List Char)
  | 0, _, _ => .error .jsonDecodeError
  | _ + 1, _, [] => .error .jsonDecodeError
  | n + 1, d, c :: s =>
    if c = '"' then
      match scanString s with
      | none => .error .jsonDecodeError
      | some (k, r) =>
        match skipWs r with
        | [] => .error .jsonDecodeError
        | c :: r =>
          if c = ':' then do
            let (v, r) ← scanOnce n d (skipWs r)
            match skipWs r with
            | [] => .error .jsonDecodeError
            | c :: r =>
              if c = '}' then pure ([(k, v)], r)
              else if c = ',' then do
                let (kvs, r) ← parseMembers n d (skipWs r)
                pure ((k, v) :: kvs, r)
              else .error .jsonDecodeError
          else .error .jsonDecodeError
    else .error .jsonDecodeError
end

/-- `json.loads(s)`: a byte order mark is refused, then `JSONDecoder.decode` reads one
value between optional whitespace and refuses extra data. -/
def jsonLoads (s : List Char) : Except PyExc JsonValue :=
  if s.head? = some '\uFEFF' then .error .jsonDecodeError
  else do
    let (v, r) ← scanOnce py (2 * s.length + 1) py.loadsDepth (skipWs s)
    if skipWs r = [] then pure v else .error .jsonDecodeError

end Scanner

/-! ## §4 Scanner steps

One equation per way `scanstring_unicode` can take a character. -/

@[simp] theorem scanString_quote (s : List Char) : scanString ('"' :: s) = some ([], s) := by
  rw [scanString]; simp

theorem scanString_plain {c : Char} (h1 : c ≠ '"') (h2 : c ≠ '\\') (h3 : 0x1F < c.toNat)
    (s : List Char) : scanString (c :: s) = consStr (pyCharOf c) (scanString s) := by
  rw [scanString, if_neg h1, if_neg h2, if_neg (by omega)]

@[simp] theorem scanString_backslash (s : List Char) :
    scanString ('\\' :: s) = scanEscape s := by
  rw [scanString]; simp

theorem scanEscape_simple {e x : Char} (he : e ≠ 'u') (hx : simpleEscape e = some x)
    (s : List Char) : scanEscape (e :: s) = consStr (pyCharOf x) (scanString s) := by
  rw [scanEscape, if_neg he, hx]

@[simp] theorem scanEscape_u (s : List Char) : scanEscape ('u' :: s) = scanUnicodeEscape s := by
  rw [scanEscape]; simp

theorem scanUnicodeEscape_single {a b c d : Char} {n : ℕ} (hn : hex4Value a b c d = some n)
    (hs : ¬(0xD800 ≤ n ∧ n ≤ 0xDBFF)) (s : List Char) :
    scanUnicodeEscape (a :: b :: c :: d :: s) = consStr (codePoint n) (scanString s) := by
  rw [scanUnicodeEscape, hn]; exact if_neg hs

theorem scanUnicodeEscape_high {a b c d : Char} {n : ℕ} (hn : hex4Value a b c d = some n)
    (hs : 0xD800 ≤ n ∧ n ≤ 0xDBFF) (s : List Char) :
    scanUnicodeEscape (a :: b :: c :: d :: s) =
      scanLowSurrogate n s (consStr (codePoint n) (scanString s)) := by
  rw [scanUnicodeEscape, hn]; exact if_pos hs

theorem scanLowSurrogate_pair {a b c d m : Char} {hi lo : ℕ} (hlo : hex4Value a b c d = some lo)
    (hlo' : 0xDC00 ≤ lo ∧ lo ≤ 0xDFFF) (rest : List Char)
    (single : Option (List PyChar × List Char)) :
    scanLowSurrogate hi ('\\' :: 'u' :: a :: b :: c :: d :: m :: rest) single =
      consStr (codePoint (joinSurrogates hi lo)) (scanString (m :: rest)) := by
  rw [scanLowSurrogate, if_pos ⟨rfl, rfl⟩, hlo]; exact if_pos hlo'

/-! ## §5 String literals read back -/

theorem hex4Value_hex4 {n : ℕ} (h : n < 0x10000) :
    hex4Value (hexDigit (n / 4096 % 16)) (hexDigit (n / 256 % 16)) (hexDigit (n / 16 % 16))
      (hexDigit (n % 16)) = some n := by
  simp only [hex4Value, hexValue_hexDigit (Nat.mod_lt _ (by norm_num : 0 < 16))]
  simp only [Option.pure_def, Option.bind_eq_bind, Option.some_bind, Option.some.injEq]
  omega

/-- A simple escape reads back as the character it stands for. -/
private theorem scanString_simple {c : PyChar} {e x : Char} (he : e ≠ 'u')
    (hx : simpleEscape e = some x) (hc : x.toNat = c.val) (s : List Char) :
    scanString ('\\' :: e :: s) = consStr c (scanString s) := by
  rw [scanString_backslash, scanEscape_simple he hx, show pyCharOf x = c from Fin.ext hc]

/-- One test of `ascii_escape_unichar`'s chain of simple escapes: its escape reads back,
and otherwise the rest of the chain is read. -/
private theorem scanString_escape_ite {c : PyChar} {k : ℕ} {e x : Char} {rest : List Char}
    {m : Char} {r : List Char} (he : e ≠ 'u') (hx : simpleEscape e = some x) (hk : x.toNat = k)
    (hrest : ¬c.val = k →
      scanString ('\\' :: rest ++ m :: r) = consStr c (scanString (m :: r))) :
    scanString ('\\' :: (if c.val = k then [e] else rest) ++ m :: r) =
      consStr c (scanString (m :: r)) := by
  by_cases h : c.val = k
  · rw [if_pos h]
    exact scanString_simple he hx (hk.trans h.symm) _
  · rw [if_neg h]
    exact hrest h

/-- One escaped character reads back as itself, whatever non-empty text follows. -/
theorem scanString_escapeChar {c : PyChar} (hc : IsScalar c) (m : Char) (rest : List Char) :
    scanString (escapeChar c ++ m :: rest) = consStr c (scanString (m :: rest)) := by
  have hv : c.val < 0xD800 ∨ (0xDFFF < c.val ∧ c.val < 0x110000) := hc
  unfold escapeChar
  split_ifs with hp
  · obtain ⟨h1, h2, h3, h4⟩ := hp
    have hn : (Char.ofNat c.val).toNat = c.val :=
      toNat_ofNat_of_valid (by unfold Nat.isValidChar; omega)
    rw [List.singleton_append, scanString_plain (fun h => h4 (by rw [← hn, h]; rfl))
      (fun h => h3 (by rw [← hn, h]; rfl)) (by omega), show pyCharOf (Char.ofNat c.val) = c from
      Fin.ext hn]
  unfold escapeUnichar
  refine scanString_escape_ite (by decide) (by rfl) (by rfl) fun h1 => ?_
  refine scanString_escape_ite (by decide) (by rfl) (by rfl) fun h2 => ?_
  refine scanString_escape_ite (by decide) (by rfl) (by rfl) fun h3 => ?_
  refine scanString_escape_ite (by decide) (by rfl) (by rfl) fun h4 => ?_
  refine scanString_escape_ite (by decide) (by rfl) (by rfl) fun h5 => ?_
  refine scanString_escape_ite (by decide) (by rfl) (by rfl) fun h6 => ?_
  refine scanString_escape_ite (by decide) (by rfl) (by rfl) fun h7 => ?_
  split
  · -- above the BMP: the escapes of the surrogate pair, joined again
    have hhi := hex4Value_hex4 (n := 0xD7C0 + c.val / 1024) (by omega)
    have hlo := hex4Value_hex4 (n := 0xDC00 + c.val % 1024) (by omega)
    simp only [hex4, List.cons_append, List.nil_append, scanString_backslash, scanEscape_u]
    rw [scanUnicodeEscape_high hhi (by omega), scanLowSurrogate_pair hlo (by omega),
      show codePoint (joinSurrogates _ _) = c from Fin.ext (by
        rw [codePoint_val (by unfold joinSurrogates; omega)]; unfold joinSurrogates; omega)]
  · -- a control character or a code point of the BMP outside ASCII: one `\uXXXX`
    have hn := hex4Value_hex4 (n := c.val) (by omega)
    simp only [hex4, List.cons_append, List.nil_append, scanString_backslash, scanEscape_u]
    rw [scanUnicodeEscape_single hn (by omega), show codePoint c.val = c from
      Fin.ext (codePoint_val c.isLt)]

/-- A string literal `ensure_ascii` wrote reads back as the string, up to its closing
quote. -/
theorem scanString_encodeString {s : List PyChar} (hs : ∀ c ∈ s, IsScalar c) (r : List Char) :
    scanString (s.flatMap escapeChar ++ '"' :: r) = some (s, r) := by
  induction s with
  | nil => simp
  | cons c s ih =>
    simp only [List.mem_cons, forall_eq_or_imp] at hs
    rw [List.flatMap_cons, List.append_assoc]
    obtain ⟨m, rest, hmr⟩ : ∃ m rest, s.flatMap escapeChar ++ '"' :: r = m :: rest :=
      List.exists_cons_of_ne_nil (by simp)
    rw [hmr, scanString_escapeChar hs.1, ← hmr, ih hs.2]
    rfl

/-! ## §4b The scanner's cases -/

@[simp] theorem skipWs_nil : skipWs [] = [] := rfl

@[simp] theorem skipWs_space (s : List Char) : skipWs (' ' :: s) = skipWs s :=
  List.dropWhile_cons_of_pos rfl

theorem skipWs_of_not_space {c : Char} (h : isJsonSpace c = false) (s : List Char) :
    skipWs (c :: s) = c :: s :=
  List.dropWhile_cons_of_neg (by simp [h])

section ScannerCases

variable (py : CPython) (n : ℕ) (s : List Char)

theorem scanOnce_quote_of {d : ℕ} {t : List PyChar} {r : List Char}
    (h : scanString s = some (t, r)) : scanOnce py (n + 1) d ('"' :: s) = .ok (.str t, r) := by
  rw [scanOnce, if_pos rfl, h]

theorem scanOnce_bracket_zero : scanOnce py (n + 1) 0 ('[' :: s) = .error .recursionError := by
  rw [scanOnce]; simp [enterRecursiveCall]

theorem scanOnce_brace_zero : scanOnce py (n + 1) 0 ('{' :: s) = .error .recursionError := by
  rw [scanOnce]; simp [enterRecursiveCall]

theorem scanOnce_bracket (d : ℕ) :
    scanOnce py (n + 1) (d + 1) ('[' :: s) =
      if (skipWs s).head? = some ']' then .ok (.array [], (skipWs s).tail)
      else (parseElements py n d (skipWs s)).map fun p => (.array p.1, p.2) := by
  rw [scanOnce]; simp [enterRecursiveCall]

theorem scanOnce_brace (d : ℕ) :
    scanOnce py (n + 1) (d + 1) ('{' :: s) =
      if (skipWs s).head? = some '}' then .ok (.object [], (skipWs s).tail)
      else (parseMembers py n d (skipWs s)).map fun p => (.object (dictOfPairs p.1), p.2) := by
  rw [scanOnce]; simp [enterRecursiveCall]

theorem scanOnce_other {c : Char} (h1 : c ≠ '"') (h2 : c ≠ '{') (h3 : c ≠ '[') (d : ℕ) :
    scanOnce py (n + 1) d (c :: s) =
      match namedConstant c s with
      | some r => .ok r
      | none => matchNumber py (c :: s) := by
  rw [scanOnce, if_neg h1, if_neg h2, if_neg h3]

end ScannerCases

@[simp] theorem jsonLoads_nil (py : CPython) : jsonLoads py [] = .error .jsonDecodeError := by
  rw [jsonLoads, if_neg (by simp), skipWs_nil, List.length_nil, Nat.mul_zero, Nat.zero_add,
    scanOnce]
  rfl

/-! ## §6 A string literal is longer than its string -/

theorem consStr_eq_ok {x : PyChar} {e : Option (List PyChar × List Char)} {t : List PyChar}
    {r : List Char} (h : consStr x e = some (t, r)) : ∃ t', e = some (t', r) ∧ t = x :: t' := by
  cases e with
  | none => cases h
  | some p =>
    simp only [consStr, Option.map_some', Option.some.injEq, Prod.mk.injEq] at h
    exact ⟨p.1, by rw [← h.2], h.1.symm⟩

mutual
/-- `scanstring_unicode` consumes more characters than it produces code points. -/
theorem scanString_length : ∀ (s : List Char) {t : List PyChar} {r : List Char},
    scanString s = some (t, r) → t.length + r.length < s.length
  | [], _, _, h => by cases h
  | c :: s, t, r, h => by
    rw [scanString] at h
    split_ifs at h
    · cases h; simp
    · have := scanEscape_length s h; simp; omega
    · obtain ⟨t', h', rfl⟩ := consStr_eq_ok h
      have := scanString_length s h'
      simp; omega
termination_by structural s => s

theorem scanEscape_length : ∀ (s : List Char) {t : List PyChar} {r : List Char},
    scanEscape s = some (t, r) → t.length + r.length ≤ s.length
  | [], _, _, h => by cases h
  | e :: s, t, r, h => by
    rw [scanEscape] at h
    split_ifs at h
    · have := scanUnicodeEscape_length s h; simp; omega
    · split at h
      · obtain ⟨t', h', rfl⟩ := consStr_eq_ok h
        have := scanString_length s h'
        simp; omega
      · cases h
termination_by structural s => s

theorem scanUnicodeEscape_length : ∀ (s : List Char) {t : List PyChar} {r : List Char},
    scanUnicodeEscape s = some (t, r) → t.length + r.length ≤ s.length
  | a :: b :: c :: d :: s, t, r, h => by
    rw [scanUnicodeEscape] at h
    split at h
    · cases h
    · rename_i n _
      have hsingle : ∀ {t r}, consStr (codePoint n) (scanString s) = some (t, r) →
          t.length + r.length ≤ s.length := fun h => by
        obtain ⟨t', h', rfl⟩ := consStr_eq_ok h
        have := scanString_length s h'
        simp; omega
      split_ifs at h
      · have := scanLowSurrogate_length _ s _ hsingle h; simp; omega
      · have := hsingle h; simp; omega
  | [], _, _, h | [_], _, _, h | [_, _], _, _, h | [_, _, _], _, _, h => by cases h
termination_by structural s => s

theorem scanLowSurrogate_length : ∀ (hi : ℕ) (s : List Char)
    (single : Option (List PyChar × List Char)),
    (∀ {t r}, single = some (t, r) → t.length + r.length ≤ s.length) →
    ∀ {t : List PyChar} {r : List Char},
      scanLowSurrogate hi s single = some (t, r) → t.length + r.length ≤ s.length
  | hi, e1 :: e2 :: a :: b :: c :: d :: m :: rest, single, hs, t, r, h => by
    rw [scanLowSurrogate] at h
    split_ifs at h
    · split at h
      · cases h
      · split_ifs at h
        · obtain ⟨t', h', rfl⟩ := consStr_eq_ok h
          have := scanString_length (m :: rest) h'
          simp only [List.length_cons] at this ⊢; omega
        · exact hs h
    · exact hs h
  | _, [], _, hs, _, _, h | _, [_], _, hs, _, _, h | _, [_, _], _, hs, _, _, h
  | _, [_, _, _], _, hs, _, _, h | _, [_, _, _, _], _, hs, _, _, h
  | _, [_, _, _, _, _], _, hs, _, _, h | _, [_, _, _, _, _, _], _, hs, _, _, h => by
    simp only [scanLowSurrogate] at h; exact hs h
termination_by structural _ s => s
end

theorem skipWs_length_le (s : List Char) : (skipWs s).length ≤ s.length := by
  induction s with
  | nil => rfl
  | cons c s ih =>
    rw [skipWs, List.dropWhile_cons]
    split
    · exact Nat.le_succ_of_le ih
    · exact le_rfl

/-- The named constants are not strings. -/
theorem namedConstant_ne_str {c : Char} {s : List Char} {t : List PyChar} {r : List Char} :
    namedConstant c s ≠ some (.str t, r) := by
  unfold namedConstant
  split_ifs <;> simp [Option.map_eq_some']

/-- A number is not a string. -/
theorem matchNumber_ne_str (py : CPython) {s : List Char} {t : List PyChar} {r : List Char} :
    matchNumber py s ≠ .ok (.str t, r) := by
  unfold matchNumber
  split
  · simp
  · dsimp only
    split_ifs
    · split <;> simp
    · split <;> simp

/-- A value the scanner reads as a string is shorter than its text. -/
theorem scanOnce_str_length (py : CPython) {n d : ℕ} {u : List Char} {t : List PyChar}
    {r : List Char} (h : scanOnce py n d u = .ok (.str t, r)) : t.length < u.length := by
  match n, u, h with
  | n + 1, c :: u, h =>
    by_cases h1 : c = '"'
    · subst h1
      cases hs : scanString u with
      | none => rw [scanOnce, if_pos rfl, hs] at h; cases h
      | some p =>
        obtain ⟨t', r'⟩ := p
        rw [scanOnce_quote_of py n u hs] at h
        simp only [Except.ok.injEq, Prod.mk.injEq, JsonValue.str.injEq] at h
        obtain ⟨rfl, rfl⟩ := h
        have := scanString_length u hs
        simp; omega
    by_cases h2 : c = '{'
    · subst h2
      rcases d with _ | d
      · rw [scanOnce_brace_zero] at h; cases h
      · rw [scanOnce_brace] at h
        split_ifs at h
        · cases h
        · obtain ⟨p, -, hp⟩ := except_map_eq_ok.1 h
          simp at hp
    by_cases h3 : c = '['
    · subst h3
      rcases d with _ | d
      · rw [scanOnce_bracket_zero] at h; cases h
      · rw [scanOnce_bracket] at h
        split_ifs at h
        · cases h
        · obtain ⟨p, -, hp⟩ := except_map_eq_ok.1 h
          simp at hp
    rw [scanOnce_other py n u h1 h2 h3] at h
    split at h
    · exact absurd (by rw [← Except.ok.inj h]; assumption) namedConstant_ne_str
    · exact absurd h (matchNumber_ne_str py)

/-- A JSON text `json.loads` reads as a string is longer than the string. -/
theorem jsonLoads_str_length (py : CPython) {s : List Char} {t : List PyChar}
    (h : jsonLoads py s = .ok (.str t)) : t.length < s.length := by
  unfold jsonLoads at h
  split_ifs at h
  obtain ⟨⟨v, r⟩, hs, h⟩ := except_bind_eq_ok.1 h
  dsimp only at h
  split_ifs at h
  cases h
  have := scanOnce_str_length py hs
  have := skipWs_length_le s
  omega

/-! ## §7 What `loads` raises -/

/-- The exceptions of the scanner: `JSONDecodeError` on a text that is not JSON, `ValueError`
from `int()`, `RecursionError` from `Py_EnterRecursiveCall`. -/
def IsJsonExc (e : PyExc) : Prop :=
  e = .jsonDecodeError ∨ e = .valueError ∨ e = .recursionError

theorem isJsonExc_jsonDecodeError : IsJsonExc .jsonDecodeError := .inl rfl

theorem isJsonExc_valueError : IsJsonExc .valueError := .inr (.inl rfl)

theorem isJsonExc_recursionError : IsJsonExc .recursionError := .inr (.inr rfl)

theorem matchNumber_error (py : CPython) {s : List Char} {e : PyExc}
    (h : matchNumber py s = .error e) : IsJsonExc e := by
  unfold matchNumber at h
  split at h
  · cases h; exact isJsonExc_jsonDecodeError
  · dsimp only at h
    split_ifs at h <;> split at h <;> cases h <;> exact isJsonExc_valueError

/-- A bind raises what its first computation or its continuation raises. -/
theorem isJsonExc_bind {α β : Type} {x : Except PyExc α} {f : α → Except PyExc β} {e : PyExc}
    (hx : ∀ e, x = .error e → IsJsonExc e) (hf : ∀ a e, f a = .error e → IsJsonExc e)
    (h : (x >>= f) = .error e) : IsJsonExc e := by
  rcases except_bind_eq_error.1 h with h | ⟨a, -, h⟩
  · exact hx e h
  · exact hf a e h

/-- The scanner raises only the exceptions of `IsJsonExc`, at every fuel. -/
theorem scan_error (py : CPython) : ∀ n : ℕ,
    (∀ d s e, scanOnce py n d s = .error e → IsJsonExc e) ∧
    (∀ d s e, parseElements py n d s = .error e → IsJsonExc e) ∧
    (∀ d s e, parseMembers py n d s = .error e → IsJsonExc e)
  | 0 => ⟨fun _ _ _ h => by cases h; exact isJsonExc_jsonDecodeError,
      fun _ _ _ h => by cases h; exact isJsonExc_jsonDecodeError,
      fun _ _ _ h => by cases h; exact isJsonExc_jsonDecodeError⟩
  | n + 1 => by
    obtain ⟨ihs, ihe, ihm⟩ := scan_error py n
    refine ⟨fun d s e h => ?_, fun d s e h => ?_, fun d s e h => ?_⟩
    · -- a value
      rcases s with _ | ⟨c, s⟩
      · cases h; exact isJsonExc_jsonDecodeError
      by_cases h1 : c = '"'
      · subst h1
        rw [scanOnce, if_pos rfl] at h
        split at h <;> cases h
        exact isJsonExc_jsonDecodeError
      have hmap : ∀ {β : Type} {x : Except PyExc β} {f : β → JsonValue × List Char},
          (∀ e, x = .error e → IsJsonExc e) → x.map f = .error e → IsJsonExc e := by
        intro β x f hx h
        cases hx' : x with
        | ok _ => rw [hx'] at h; cases h
        | error e' => rw [hx'] at h; cases h; exact hx _ hx'
      by_cases h2 : c = '{'
      · subst h2
        rcases d with _ | d
        · rw [scanOnce_brace_zero] at h; cases h; exact isJsonExc_recursionError
        · rw [scanOnce_brace] at h
          split_ifs at h
          exact hmap (ihm _ _) h
      by_cases h3 : c = '['
      · subst h3
        rcases d with _ | d
        · rw [scanOnce_bracket_zero] at h; cases h; exact isJsonExc_recursionError
        · rw [scanOnce_bracket] at h
          split_ifs at h
          exact hmap (ihe _ _) h
      rw [scanOnce_other py n s h1 h2 h3] at h
      split at h
      · cases h
      · exact matchNumber_error py h
    · -- the items of a list
      rw [parseElements] at h
      rcases except_bind_eq_error.1 h with h | ⟨⟨v, r⟩, -, h⟩
      · exact ihs _ _ _ h
      dsimp only at h
      split at h
      · cases h; exact isJsonExc_jsonDecodeError
      split_ifs at h
      · cases h
      · exact isJsonExc_bind (ihe _ _) (fun _ _ h => by cases h) h
      · cases h; exact isJsonExc_jsonDecodeError
    · -- the items of a dict
      rcases s with _ | ⟨c, s⟩
      · cases h; exact isJsonExc_jsonDecodeError
      rw [parseMembers] at h
      split_ifs at h
      · split at h
        · cases h; exact isJsonExc_jsonDecodeError
        split at h
        · cases h; exact isJsonExc_jsonDecodeError
        split_ifs at h
        · rcases except_bind_eq_error.1 h with h | ⟨⟨v, r⟩, -, h⟩
          · exact ihs _ _ _ h
          dsimp only at h
          split at h
          · cases h; exact isJsonExc_jsonDecodeError
          split_ifs at h
          · cases h
          · exact isJsonExc_bind (ihm _ _) (fun _ _ h => by cases h) h
          · cases h; exact isJsonExc_jsonDecodeError
        · cases h; exact isJsonExc_jsonDecodeError
      · cases h; exact isJsonExc_jsonDecodeError

/-- `json.loads` raises `JSONDecodeError`, `ValueError` or `RecursionError`. -/
theorem jsonLoads_error (py : CPython) {s : List Char} {e : PyExc}
    (h : jsonLoads py s = .error e) : IsJsonExc e := by
  unfold jsonLoads at h
  split_ifs at h
  · cases h; exact isJsonExc_jsonDecodeError
  · rcases except_bind_eq_error.1 h with h | ⟨⟨v, r⟩, -, h⟩
    · exact (scan_error py _).1 _ _ _ h
    · dsimp only at h
      split_ifs at h
      · cases h
      · cases h; exact isJsonExc_jsonDecodeError

/-! ## §7b What `loads` returns stays within its budget -/

theorem namedConstant_depth {c : Char} {s : List Char} {v : JsonValue} {r : List Char}
    (h : namedConstant c s = some (v, r)) : v.depth = 0 := by
  unfold namedConstant at h
  split_ifs at h <;> simp only [Option.map_eq_some', Prod.mk.injEq, reduceCtorEq] at h <;>
    obtain ⟨_, _, rfl, _⟩ := h <;> rfl

theorem matchNumber_depth (py : CPython) {s : List Char} {v : JsonValue} {r : List Char}
    (h : matchNumber py s = .ok (v, r)) : v.depth = 0 := by
  unfold matchNumber at h
  split at h
  · cases h
  · dsimp only at h
    split_ifs at h <;> split at h <;> cases h <;> rfl

theorem membersDepth_le_iff {kvs : List (List PyChar × JsonValue)} {d : ℕ} :
    membersDepth kvs ≤ d ↔ ∀ p ∈ kvs, p.2.depth ≤ d := by
  induction kvs with
  | nil => simp [membersDepth]
  | cons p kvs ih => simp [membersDepth, ih]

section DictSetItem

variable {κ α : Type} [DecidableEq κ]

theorem mem_dictSetItem {d : List (κ × α)} {k : κ} {v : α} {p : κ × α}
    (h : p ∈ dictSetItem d k v) : p ∈ d ∨ p = (k, v) := by
  unfold dictSetItem at h
  split_ifs at h
  · obtain ⟨q, hq, rfl⟩ := List.mem_map.1 h
    split_ifs
    · exact .inr rfl
    · exact .inl hq
  · simpa using h

/-- `d[k] = v` holds the pair `(k, v)` and the pairs of `d` under other keys. -/
theorem mem_dictSetItem_iff {d : List (κ × α)} {k k' : κ} {v v' : α} :
    (k', v') ∈ dictSetItem d k v ↔ k' = k ∧ v' = v ∨ (k', v') ∈ d ∧ k' ≠ k := by
  unfold dictSetItem
  split_ifs with hk
  · rw [List.mem_map]
    constructor
    · rintro ⟨p, hp, hpk⟩
      split_ifs at hpk with h
      · obtain ⟨rfl, rfl⟩ := Prod.mk.inj hpk
        exact .inl ⟨rfl, rfl⟩
      · subst hpk
        exact .inr ⟨hp, h⟩
    · rintro (⟨rfl, rfl⟩ | ⟨hd, hne⟩)
      · obtain ⟨p, hp, rfl⟩ := List.mem_map.1 hk
        exact ⟨p, hp, by simp⟩
      · exact ⟨(k', v'), hd, by simp [hne]⟩
  · rw [List.mem_append, List.mem_singleton, Prod.mk.injEq]
    constructor
    · rintro (hd | h)
      · exact .inr ⟨hd, fun h => hk (h ▸ List.mem_map_of_mem Prod.fst hd)⟩
      · exact .inl h
    · rintro (h | ⟨hd, -⟩)
      · exact .inr h
      · exact .inl hd

/-- Setting an item keeps the keys distinct. -/
theorem dictSetItem_keys_nodup {d : List (κ × α)} (hd : (d.map Prod.fst).Nodup) (k : κ) (v : α) :
    ((dictSetItem d k v).map Prod.fst).Nodup := by
  unfold dictSetItem
  split_ifs with hk
  · rw [List.map_map]
    convert hd using 2
    funext p
    by_cases h : p.1 = k <;> simp [h]
  · rw [List.map_append, List.map_singleton]
    exact hd.append (List.nodup_singleton k) (List.disjoint_singleton.2 hk)

end DictSetItem

/-- The pairs of the dict built from `kvs` are pairs of `kvs`. -/
theorem mem_dictOfPairs {kvs : List (List PyChar × JsonValue)} {p : List PyChar × JsonValue}
    (h : p ∈ dictOfPairs kvs) : p ∈ kvs := by
  have key : ∀ (kvs acc : List (List PyChar × JsonValue)),
      p ∈ kvs.foldl (fun d q => dictSetItem d q.1 q.2) acc → p ∈ acc ∨ p ∈ kvs := by
    intro kvs
    induction kvs with
    | nil => exact fun _ h => .inl h
    | cons q kvs ih =>
      intro acc h
      rcases ih _ h with h | h
      · rcases mem_dictSetItem h with h | rfl
        · exact .inl h
        · exact .inr (List.mem_cons_self _ _)
      · exact .inr (List.mem_cons_of_mem _ h)
  simpa using key kvs [] h

/-- The scanner returns values nested no deeper than its depth budget, at every fuel. -/
theorem scan_depth_le (py : CPython) : ∀ n : ℕ,
    (∀ d s v r, scanOnce py n d s = .ok (v, r) → v.depth ≤ d) ∧
    (∀ d s vs r, parseElements py n d s = .ok (vs, r) → itemsDepth vs ≤ d) ∧
    (∀ d s kvs r, parseMembers py n d s = .ok (kvs, r) → ∀ p ∈ kvs, p.2.depth ≤ d)
  | 0 => ⟨fun _ _ _ _ h => (by cases h), fun _ _ _ _ h => (by cases h),
      fun _ _ _ _ h => (by cases h)⟩
  | n + 1 => by
    obtain ⟨ihs, ihe, ihm⟩ := scan_depth_le py n
    refine ⟨fun d s v r h => ?_, fun d s vs r h => ?_, fun d s kvs r h => ?_⟩
    · -- a value
      rcases s with _ | ⟨c, s⟩
      · cases h
      by_cases h1 : c = '"'
      · subst h1
        rw [scanOnce, if_pos rfl] at h
        split at h <;> cases h
        exact Nat.zero_le _
      by_cases h2 : c = '{'
      · subst h2
        rcases d with _ | d
        · rw [scanOnce_brace_zero] at h; cases h
        · rw [scanOnce_brace] at h
          split_ifs at h
          · cases h; simp [JsonValue.depth, membersDepth]
          · obtain ⟨⟨kvs, r'⟩, hm, hp⟩ := except_map_eq_ok.1 h
            cases hp
            have := ihm d _ kvs r' hm
            simp only [JsonValue.depth, add_le_add_iff_right, membersDepth_le_iff]
            exact fun p hp => this p (mem_dictOfPairs hp)
      by_cases h3 : c = '['
      · subst h3
        rcases d with _ | d
        · rw [scanOnce_bracket_zero] at h; cases h
        · rw [scanOnce_bracket] at h
          split_ifs at h
          · cases h; simp [JsonValue.depth, itemsDepth]
          · obtain ⟨⟨vs, r'⟩, he, hp⟩ := except_map_eq_ok.1 h
            cases hp
            simpa [JsonValue.depth] using ihe d _ vs r' he
      rw [scanOnce_other py n s h1 h2 h3] at h
      split at h
      · cases h; rw [namedConstant_depth ‹_›]; exact Nat.zero_le _
      · rw [matchNumber_depth py h]; exact Nat.zero_le _
    · -- the items of a list
      rw [parseElements] at h
      obtain ⟨⟨v, r₁⟩, hv, h⟩ := except_bind_eq_ok.1 h
      have hvd := ihs d s v r₁ hv
      dsimp only at h
      split at h
      · cases h
      split_ifs at h
      · cases h; simpa [itemsDepth] using hvd
      · obtain ⟨⟨vs', r₂⟩, hvs, h⟩ := except_bind_eq_ok.1 h
        cases h
        simpa [itemsDepth] using ⟨hvd, ihe d _ vs' r₂ hvs⟩
    · -- the items of a dict
      rcases s with _ | ⟨c, s⟩
      · cases h
      rw [parseMembers] at h
      split_ifs at h
      split at h
      · cases h
      split at h
      · cases h
      split_ifs at h
      obtain ⟨⟨v, r₁⟩, hv, h⟩ := except_bind_eq_ok.1 h
      have hvd := ihs d _ v r₁ hv
      dsimp only at h
      split at h
      · cases h
      split_ifs at h
      · cases h; simpa using hvd
      · obtain ⟨⟨kvs', r₂⟩, hkvs, h⟩ := except_bind_eq_ok.1 h
        cases h
        simpa using ⟨hvd, fun a b hab => ihm d _ kvs' r₂ hkvs (a, b) hab⟩

/-- `json.loads` returns only values nested within `py.loadsDepth`. -/
theorem jsonLoads_depth_le (py : CPython) {s : List Char} {v : JsonValue}
    (h : jsonLoads py s = .ok v) : v.depth ≤ py.loadsDepth := by
  unfold jsonLoads at h
  split_ifs at h
  obtain ⟨⟨v', r⟩, hs, h⟩ := except_bind_eq_ok.1 h
  dsimp only at h
  split_ifs at h
  cases h
  exact (scan_depth_le py _).1 _ _ _ _ hs

/-- A digit is none of the first characters of the named constants. -/
theorem namedConstant_of_isDigit {d : Char} (hd : d.isDigit = true) (s : List Char) :
    namedConstant d s = none := by
  have := isDigit_toNat hd
  have hne : ∀ c : Char, 57 < c.toNat → d ≠ c := fun c hc h => by rw [h] at this; omega
  have hminus : d ≠ '-' := fun h => by rw [h] at this; exact absurd this.1 (by decide)
  simp [namedConstant, hne 'n' (by decide), hne 't' (by decide), hne 'f' (by decide),
    hne 'N' (by decide), hne 'I' (by decide), hminus]

theorem isJsonSpace_of_isDigit {d : Char} (hd : d.isDigit = true) : isJsonSpace d = false := by
  have := isDigit_toNat hd
  have hne : ∀ c : Char, c.toNat < 48 → d ≠ c := fun c hc h => by rw [h] at this; omega
  simp [isJsonSpace, hne ' ' (by decide), hne '\t' (by decide), hne '\n' (by decide),
    hne '\r' (by decide)]

/-- A number with more digits than `sys.get_int_max_str_digits()` allows makes `json.loads`
raise `ValueError`, which is not a `JSONDecodeError`. -/
theorem jsonLoads_digits_over_limit (py : CPython) {d : Char} {L : List Char}
    (hd : '1' ≤ d ∧ d ≤ '9') (hL : ∀ c ∈ L, c.isDigit = true)
    (h : py.exceedsMaxStrDigits (L.length + 1)) : jsonLoads py (d :: L) = .error .valueError := by
  have h49 : 49 ≤ d.toNat := hd.1
  have hdig : d.isDigit = true := isDigit_of_toNat (by omega) hd.2
  have hd0 : d ≠ '0' := fun h => absurd (h ▸ hd.1) (by decide)
  have hspan : spanIntPart (d :: L) = some (d :: L, []) := by
    obtain ⟨h1, h2⟩ := takeWhile_isDigit_append (s := []) hL (by simp)
    simp only [List.append_nil] at h1 h2
    rw [spanIntPart, if_neg hd0, if_pos hd, h1, h2]
  have hnum : matchNumber py (d :: L) = .error .valueError := by
    rw [matchNumber, spanMinus_of_ne (fun h => absurd (h ▸ hdig) (by decide)), hspan]
    simp only [spanFraction, spanExponent, bne_self_eq_false, Bool.false_eq_true, if_false]
    rw [pyInt_of_exceeds py (by simpa using h)]
  rw [jsonLoads, if_neg (by simp; exact fun h => absurd (h ▸ hd.2) (by decide)),
    skipWs_of_not_space (isJsonSpace_of_isDigit hdig),
    scanOnce_other py _ _ (fun h => absurd (h ▸ hdig) (by decide))
      (fun h => absurd (h ▸ hdig) (by decide)) (fun h => absurd (h ▸ hdig) (by decide)),
    namedConstant_of_isDigit hdig]
  simp only [hnum, except_error_bind]

/-- `d + 1` opening brackets in a row exhaust a budget of `d` lists. -/
theorem scanOnce_brackets (py : CPython) : ∀ (d n : ℕ) (s : List Char), 2 * d < n →
    scanOnce py n d (List.replicate (d + 1) '[' ++ s) = .error .recursionError
  | 0, _ + 1, s, _ => by rw [List.replicate_one, List.singleton_append, scanOnce_bracket_zero]
  | d + 1, n + 1, s, h => by
    obtain ⟨m, rfl⟩ : ∃ m, n = m + 1 := ⟨n - 1, by omega⟩
    have hs : skipWs (List.replicate (d + 1) '[' ++ s) = List.replicate (d + 1) '[' ++ s := by
      rw [List.replicate_succ, List.cons_append]; exact skipWs_of_not_space (by decide) _
    rw [List.replicate_succ, List.cons_append, scanOnce_bracket, hs,
      if_neg (by simp [List.replicate_succ]), parseElements,
      scanOnce_brackets py d m s (by omega)]
    rfl

/-- Lists nested past `py.loadsDepth` make `json.loads` raise `RecursionError`. -/
theorem jsonLoads_brackets_over_depth (py : CPython) :
    jsonLoads py (List.replicate (py.loadsDepth + 1) '[') = .error .recursionError := by
  have hs : skipWs (List.replicate (py.loadsDepth + 1) '[') =
      List.replicate (py.loadsDepth + 1) '[' := by
    rw [List.replicate_succ]; exact skipWs_of_not_space (by decide) _
  have := scanOnce_brackets py py.loadsDepth (2 * (py.loadsDepth + 1) + 1) [] (by omega)
  rw [List.append_nil] at this
  rw [jsonLoads, if_neg (by simp [List.replicate_succ]), hs, List.length_replicate, this]
  rfl

/-! ## §8 Numbers read back -/

/-- What can follow a value `dumps` wrote: nothing, or the delimiter after an item. -/
def ValueEnd (r : List Char) : Prop := ∀ c t, r = c :: t → c = ',' ∨ c = ']' ∨ c = '}'

theorem valueEnd_head {r : List Char} (hr : ValueEnd r) : ∀ c ∈ r.head?, c.isDigit = false := by
  rcases r with _ | ⟨c, t⟩
  · simp
  · simp only [List.head?_cons, Option.mem_def, Option.some.injEq, forall_eq']
    rcases hr c t rfl with rfl | rfl | rfl <;> rfl

/-- The text after an item has neither a fraction nor an exponent. -/
private theorem spanFraction_spanExponent_of_valueEnd {r : List Char} (hr : ValueEnd r) :
    spanFraction r = ([], r) ∧ spanExponent r = none := by
  match r, hr with
  | [], _ => exact ⟨rfl, rfl⟩
  | c :: t, hr =>
    have hc : c ≠ '.' ∧ c ≠ 'e' ∧ c ≠ 'E' := by rcases hr c t rfl with rfl | rfl | rfl <;> decide
    refine ⟨?_, by simp [spanExponent, hc.2.1, hc.2.2]⟩
    cases t <;> simp [spanFraction, hc.1]

private theorem ne_of_isDigit {d c : Char} (hd : d.isDigit = true) (hc : c.isDigit = false) :
    d ≠ c := by
  rintro rfl; rw [hd] at hc; exact Bool.noConfusion hc

/-- `json` reads an int within the digit limit back from its `repr`. -/
theorem matchNumber_intRepr (py : CPython) {i : ℤ} (hi : (JsonValue.int i).intsFit py = true)
    {r : List Char} (hr : ValueEnd r) : matchNumber py (intRepr i ++ r) = .ok (.int i, r) := by
  obtain ⟨d, L, hD, hdig, hval, hd0⟩ := toDigits_spec i.natAbs
  obtain ⟨hf, he⟩ := spanFraction_spanExponent_of_valueEnd hr
  have hdd : d.isDigit = true := hdig d (List.mem_cons_self _ _)
  have hspan : spanIntPart (d :: (L ++ r)) = some (d :: L, r) := by
    rw [spanIntPart]
    rcases hd0 with ⟨rfl, rfl⟩ | h19
    · rfl
    · obtain ⟨hl, hd⟩ := takeWhile_isDigit_append
        (fun c hc => hdig c (List.mem_cons_of_mem _ hc)) (valueEnd_head hr)
      rw [if_neg (by rintro rfl; exact absurd h19.1 (by decide)), if_pos h19, hl, hd]
  have hint : pyInt py (d :: L) = some i.natAbs := by
    simp only [JsonValue.intsFit, Bool.not_eq_true', decide_eq_false_iff_not] at hi
    rw [pyInt_of_digits py (List.cons_ne_nil _ _) hdig (by rwa [intDigits, hD] at hi), hval]
  have hne : d ≠ '-' := by rintro rfl; exact absurd hdd (by decide)
  unfold intRepr
  split_ifs with hneg
  · simp only [hD, List.cons_append, List.nil_append]
    simp only [matchNumber, spanMinus_minus, hspan, hf, he, bne_self_eq_false,
      Bool.false_eq_true, if_false, hint, Except.ok.injEq, Prod.mk.injEq, JsonValue.int.injEq,
      and_true]
    omega
  · simp only [hD, List.nil_append, List.cons_append]
    simp only [matchNumber, spanMinus_of_ne hne, hspan, hf, he, bne_self_eq_false,
      Bool.false_eq_true, if_false, hint, Except.ok.injEq, Prod.mk.injEq, JsonValue.int.injEq,
      and_true]
    omega

/-- A number falls through the scanner's other cases to `_match_number_unicode`. -/
theorem scanOnce_intRepr (py : CPython) (n d : ℕ) {i : ℤ}
    (hi : (JsonValue.int i).intsFit py = true) {r : List Char} (hr : ValueEnd r) :
    scanOnce py (n + 1) d (intRepr i ++ r) = .ok (.int i, r) := by
  rw [← matchNumber_intRepr py hi hr]
  obtain ⟨d', L, hD, hdig, -⟩ := toDigits_spec i.natAbs
  have hd := hdig d' (List.mem_cons_self _ _)
  unfold intRepr
  split_ifs
  · simp only [hD, List.cons_append, List.nil_append]
    rw [scanOnce_other py _ _ (by decide) (by decide) (by decide)]
    simp [namedConstant, stripWord, Ne.symm (ne_of_isDigit hd (c := 'I') rfl)]
  · simp only [hD, List.nil_append, List.cons_append]
    rw [scanOnce_other py _ _ (ne_of_isDigit hd rfl) (ne_of_isDigit hd rfl)
      (ne_of_isDigit hd rfl), namedConstant_of_isDigit hd]

/-! ## §9 Values read back -/

theorem stripWord_append (w r : List Char) : stripWord w (w ++ r) = some r := by
  induction w with
  | nil => rfl
  | cons c w ih => simp [stripWord, ih]

private theorem foldl_dictSetItem_of_nodup {κ α : Type} [DecidableEq κ] : ∀ (kvs d : List (κ × α)),
    (d.map Prod.fst ++ kvs.map Prod.fst).Nodup →
      kvs.foldl (fun d p => dictSetItem d p.1 p.2) d = d ++ kvs
  | [], d, _ => by simp
  | p :: kvs, d, hd => by
    have hk : p.1 ∉ d.map Prod.fst := fun hm =>
      List.disjoint_of_nodup_append hd hm (List.mem_cons_self _ _)
    rw [List.foldl_cons, dictSetItem, if_neg hk,
      foldl_dictSetItem_of_nodup kvs _ (by simpa using hd)]
    simp

/-- A dict whose keys are distinct is rebuilt as it was. -/
theorem dictOfPairs_of_nodup {kvs : List (List PyChar × JsonValue)}
    (h : (kvs.map Prod.fst).Nodup) : dictOfPairs kvs = kvs := by
  simpa using foldl_dictSetItem_of_nodup kvs [] (by simpa using h)

mutual
/-- A bound on the fuel the scanner spends on a value. -/
def jsonSize : JsonValue → ℕ
  | .array xs => 1 + itemsSize xs
  | .object kvs => 1 + membersSize kvs
  | _ => 1

/-- The fuel spent on the items of a list. -/
def itemsSize : List JsonValue → ℕ
  | [] => 0
  | x :: xs => 1 + jsonSize x + itemsSize xs

/-- The fuel spent on the items of a dict. -/
def membersSize : List (List PyChar × JsonValue) → ℕ
  | [] => 0
  | (_, v) :: kvs => 1 + jsonSize v + membersSize kvs
end

section RoundTrip

variable (py : CPython) (floatRepr : PyFloat → List Char)

/-- What `dumps` writes starts with a character the scanner neither skips nor reads as the
end of a list. -/
theorem jsonText_head {v : JsonValue} (hv : v.isPlain) :
    ∃ c t, jsonText floatRepr v = c :: t ∧ isJsonSpace c = false ∧ c ≠ ']' ∧ c ≠ '\uFEFF' := by
  cases v with
  | float x => simp [JsonValue.isPlain] at hv
  | int i =>
    obtain ⟨d, L, hD, hdig, -⟩ := toDigits_spec i.natAbs
    have hd := hdig d (List.mem_cons_self _ _)
    unfold jsonText intRepr
    split_ifs
    · exact ⟨'-', _, rfl, rfl, by decide, by decide⟩
    · exact ⟨d, L, by simp [hD], isJsonSpace_of_isDigit hd, ne_of_isDigit hd rfl,
        ne_of_isDigit hd rfl⟩
  | bool b => cases b <;> exact ⟨_, _, rfl, rfl, by decide, by decide⟩
  | array xs => cases xs <;> exact ⟨_, _, rfl, rfl, by decide, by decide⟩
  | object kvs => cases kvs <;> exact ⟨_, _, rfl, rfl, by decide, by decide⟩
  | null => exact ⟨_, _, rfl, rfl, by decide, by decide⟩
  | str s => exact ⟨_, _, rfl, rfl, by decide, by decide⟩

theorem skipWs_jsonText {v : JsonValue} (hv : v.isPlain) (r : List Char) :
    skipWs (jsonText floatRepr v ++ r) = jsonText floatRepr v ++ r := by
  obtain ⟨c, t, h, hc, -⟩ := jsonText_head floatRepr hv
  rw [h, List.cons_append, skipWs_of_not_space hc]

/-- With fuel `n`, the scanner reads back every plain value `dumps` wrote whose ints fit and
whose nesting is within its depth budget. -/
def ScansValues (n : ℕ) : Prop :=
  ∀ d v r, v.isPlain → v.intsFit py → jsonSize v ≤ n → v.depth ≤ d → ValueEnd r →
    scanOnce py n d (jsonText floatRepr v ++ r) = .ok (v, r)

/-- With fuel `n`, `_parse_array_unicode` reads back the items of a list `dumps` wrote. -/
def ScansItems (n : ℕ) : Prop :=
  ∀ d x xs r, x.isPlain → itemsPlain xs → x.intsFit py → itemsFit py xs →
    jsonSize x + itemsSize xs < n → x.depth ≤ d → itemsDepth xs ≤ d →
    parseElements py n d (jsonText floatRepr x ++ (itemsText floatRepr xs ++ r)) =
      .ok (x :: xs, r)

/-- With fuel `n`, `_parse_object_unicode` reads back the items of a dict `dumps` wrote. -/
def ScansMembers (n : ℕ) : Prop :=
  ∀ d k v kvs r, (∀ c ∈ k, IsScalar c) → v.isPlain → membersPlain kvs → v.intsFit py →
    membersFit py kvs → jsonSize v + membersSize kvs < n → v.depth ≤ d → membersDepth kvs ≤ d →
    parseMembers py n d (encodeString k ++ ':' :: ' ' :: (jsonText floatRepr v ++
      (membersText floatRepr kvs ++ r))) = .ok ((k, v) :: kvs, r)

private theorem all_isScalar {s : List PyChar} (h : (s.all fun c => decide (IsScalar c)) = true) :
    ∀ c ∈ s, IsScalar c := by
  simpa using h

private theorem valueEnd_itemsText (xs : List JsonValue) (r : List Char) :
    ValueEnd (itemsText floatRepr xs ++ r) := by
  cases xs <;> rintro c t h <;> simp [itemsText] at h <;> simp [← h.1]

private theorem valueEnd_membersText (kvs : List (List PyChar × JsonValue)) (r : List Char) :
    ValueEnd (membersText floatRepr kvs ++ r) := by
  rcases kvs with _ | ⟨⟨k, v⟩, kvs⟩ <;> rintro c t h <;> simp [membersText] at h <;> simp [← h.1]

/-- The text after an opening brace starts with the key's quote. -/
private theorem skipWs_encodeString (k : List PyChar) (r : List Char) :
    skipWs (encodeString k ++ r) = encodeString k ++ r :=
  skipWs_of_not_space (c := '"') (by decide) _

/-- One more unit of fuel reads one more level of a value. -/
theorem scansValues_succ {n : ℕ} (hi : ScansItems py floatRepr n)
    (hm : ScansMembers py floatRepr n) : ScansValues py floatRepr (n + 1) := by
  intro d v r hv hf hs hd hr
  cases v with
  | null =>
    show scanOnce py (n + 1) d ('n' :: 'u' :: 'l' :: 'l' :: r) = _
    rw [scanOnce_other py _ _ (by decide) (by decide) (by decide)]
    simp [namedConstant, stripWord]
  | bool b =>
    cases b
    · show scanOnce py (n + 1) d ('f' :: 'a' :: 'l' :: 's' :: 'e' :: r) = _
      rw [scanOnce_other py _ _ (by decide) (by decide) (by decide)]
      simp [namedConstant, stripWord]
    · show scanOnce py (n + 1) d ('t' :: 'r' :: 'u' :: 'e' :: r) = _
      rw [scanOnce_other py _ _ (by decide) (by decide) (by decide)]
      simp [namedConstant, stripWord]
  | int i => exact scanOnce_intRepr py n d hf hr
  | float x => simp [JsonValue.isPlain] at hv
  | str s =>
    simp only [jsonText, encodeString, List.cons_append, List.append_assoc, List.singleton_append]
    exact scanOnce_quote_of py n _ (scanString_encodeString (all_isScalar hv) r)
  | array xs =>
    obtain ⟨d, rfl⟩ : ∃ d', d = d' + 1 := ⟨d - 1, by simp [JsonValue.depth] at hd; omega⟩
    rcases xs with _ | ⟨x, xs⟩
    · show scanOnce py (n + 1) (d + 1) ('[' :: ']' :: r) = _
      rw [scanOnce_bracket, skipWs_of_not_space (by decide)]
      rfl
    · simp only [JsonValue.isPlain, itemsPlain, Bool.and_eq_true] at hv
      simp only [JsonValue.intsFit, itemsFit, Bool.and_eq_true] at hf
      simp only [jsonSize, itemsSize] at hs
      simp only [JsonValue.depth, itemsDepth, add_le_add_iff_right, max_le_iff] at hd
      obtain ⟨c, t, hc, -, hc', -⟩ := jsonText_head floatRepr hv.1
      simp only [jsonText, List.cons_append, List.append_assoc]
      rw [scanOnce_bracket, skipWs_jsonText floatRepr hv.1, if_neg (by rw [hc]; simpa using hc'),
        hi d x xs r hv.1 hv.2 hf.1 hf.2 (by omega) hd.1 hd.2]
      rfl
  | object kvs =>
    obtain ⟨d, rfl⟩ : ∃ d', d = d' + 1 := ⟨d - 1, by simp [JsonValue.depth] at hd; omega⟩
    rcases kvs with _ | ⟨⟨k, v⟩, kvs⟩
    · show scanOnce py (n + 1) (d + 1) ('{' :: '}' :: r) = _
      rw [scanOnce_brace, skipWs_of_not_space (by decide)]
      rfl
    · simp only [JsonValue.isPlain, membersPlain, Bool.and_eq_true, decide_eq_true_eq] at hv
      simp only [JsonValue.intsFit, membersFit, Bool.and_eq_true] at hf
      simp only [jsonSize, membersSize] at hs
      simp only [JsonValue.depth, membersDepth, add_le_add_iff_right, max_le_iff] at hd
      simp only [jsonText, List.cons_append, List.append_assoc]
      rw [scanOnce_brace, skipWs_encodeString, if_neg (by simp [encodeString]),
        hm d k v kvs r (all_isScalar hv.2.1.1) hv.2.1.2 hv.2.2 hf.1 hf.2 (by omega) hd.1 hd.2]
      show Except.ok (JsonValue.object (dictOfPairs ((k, v) :: kvs)), r) = _
      rw [dictOfPairs_of_nodup hv.1]

/-- One more unit of fuel reads one more item of a list. -/
theorem scansItems_succ {n : ℕ} (hv : ScansValues py floatRepr n)
    (hi : ScansItems py floatRepr n) : ScansItems py floatRepr (n + 1) := by
  intro d x xs r hx hxs hfx hfxs hs hdx hdxs
  rw [parseElements, hv d x _ hx hfx (by omega) hdx (valueEnd_itemsText floatRepr xs r),
    except_ok_bind]
  rcases xs with _ | ⟨y, ys⟩
  · simp (disch := decide) only [itemsText, List.cons_append, List.nil_append,
      skipWs_of_not_space, ↓reduceIte]
    rfl
  · simp only [itemsPlain, Bool.and_eq_true] at hxs
    simp only [itemsFit, Bool.and_eq_true] at hfxs
    simp only [itemsSize] at hs
    simp only [itemsDepth, max_le_iff] at hdxs
    simp (disch := decide) only [itemsText, List.cons_append, List.append_assoc,
      skipWs_of_not_space, skipWs_space, Char.reduceEq, ↓reduceIte,
      skipWs_jsonText floatRepr hxs.1, hi d y ys r hxs.1 hxs.2 hfxs.1 hfxs.2 (by omega) hdxs.1
        hdxs.2]
    rfl

/-- One more unit of fuel reads one more item of a dict. -/
theorem scansMembers_succ {n : ℕ} (hv : ScansValues py floatRepr n)
    (hm : ScansMembers py floatRepr n) : ScansMembers py floatRepr (n + 1) := by
  intro d k v kvs r hk hvp hkvs hfv hfkvs hs hdv hdkvs
  have hv' := hv d v _ hvp hfv (by omega) hdv (valueEnd_membersText floatRepr kvs r)
  simp only [encodeString, List.cons_append, List.append_assoc, List.singleton_append,
    List.nil_append]
  rw [parseMembers, if_pos rfl, scanString_encodeString hk]
  simp (disch := decide) only [skipWs_of_not_space, skipWs_space, ↓reduceIte,
    skipWs_jsonText floatRepr hvp, hv', except_ok_bind]
  rcases kvs with _ | ⟨⟨k', v'⟩, kvs⟩
  · simp (disch := decide) only [membersText, List.cons_append, List.nil_append,
      skipWs_of_not_space, ↓reduceIte]
    rfl
  · simp only [membersPlain, Bool.and_eq_true] at hkvs
    simp only [membersFit, Bool.and_eq_true] at hfkvs
    simp only [membersSize] at hs
    simp only [membersDepth, max_le_iff] at hdkvs
    have hm' := hm d k' v' kvs r (all_isScalar hkvs.1.1) hkvs.1.2 hkvs.2 hfkvs.1 hfkvs.2
      (by omega) hdkvs.1 hdkvs.2
    simp (disch := decide) only [membersText, List.cons_append, List.append_assoc,
      skipWs_of_not_space, skipWs_space, Char.reduceEq, ↓reduceIte, skipWs_encodeString, hm']
    rfl

/-- The scanner reads back every plain value `dumps` wrote, given the fuel `jsonSize`
bounds. -/
theorem scanOnce_jsonText (n : ℕ) :
    ScansValues py floatRepr n ∧ ScansItems py floatRepr n ∧ ScansMembers py floatRepr n := by
  induction n with
  | zero =>
    refine ⟨fun _ v _ _ _ hs _ _ => ?_, fun _ _ _ _ _ _ _ _ h _ _ => absurd h (Nat.not_lt_zero _),
      fun _ _ _ _ _ _ _ _ _ _ h _ _ => absurd h (Nat.not_lt_zero _)⟩
    cases v <;> simp [jsonSize] at hs
  | succ n ih =>
    exact ⟨scansValues_succ py floatRepr ih.2.1 ih.2.2, scansItems_succ py floatRepr ih.1 ih.2.1,
      scansMembers_succ py floatRepr ih.1 ih.2.2⟩

mutual
/-- `dumps` writes at least one character per unit of fuel the scanner spends. -/
theorem jsonSize_le_length :
    ∀ v : JsonValue, v.isPlain → jsonSize v ≤ (jsonText floatRepr v).length
  | .null, _ => by simp [jsonSize, jsonText]
  | .bool true, _ => by simp [jsonSize, jsonText]
  | .bool false, _ => by simp [jsonSize, jsonText]
  | .int i, _ => by
    obtain ⟨d, L, hD, -⟩ := toDigits_spec i.natAbs
    simp only [jsonSize, jsonText, intRepr, List.length_append, hD, List.length_cons]
    omega
  | .float _, h => by simp [JsonValue.isPlain] at h
  | .str s, _ => by simp [jsonSize, jsonText, encodeString]
  | .array [], _ => by simp [jsonSize, itemsSize, jsonText]
  | .array (x :: xs), h => by
    simp only [JsonValue.isPlain, itemsPlain, Bool.and_eq_true] at h
    have := jsonSize_le_length x h.1
    have := itemsSize_lt_length xs h.2
    simp only [jsonSize, itemsSize, jsonText, List.length_cons, List.length_append]
    omega
  | .object [], _ => by simp [jsonSize, membersSize, jsonText]
  | .object ((k, v) :: kvs), h => by
    simp only [JsonValue.isPlain, membersPlain, Bool.and_eq_true] at h
    have := jsonSize_le_length v h.2.1.2
    have := membersSize_lt_length kvs h.2.2
    simp only [jsonSize, membersSize, jsonText, List.length_cons, List.length_append]
    omega

theorem itemsSize_lt_length :
    ∀ xs : List JsonValue, itemsPlain xs → itemsSize xs < (itemsText floatRepr xs).length
  | [], _ => by simp [itemsSize, itemsText]
  | x :: xs, h => by
    simp only [itemsPlain, Bool.and_eq_true] at h
    have := jsonSize_le_length x h.1
    have := itemsSize_lt_length xs h.2
    simp only [itemsSize, itemsText, List.length_cons, List.length_append]
    omega

theorem membersSize_lt_length : ∀ kvs : List (List PyChar × JsonValue), membersPlain kvs →
    membersSize kvs < (membersText floatRepr kvs).length
  | [], _ => by simp [membersSize, membersText]
  | (k, v) :: kvs, h => by
    simp only [membersPlain, Bool.and_eq_true] at h
    have := jsonSize_le_length v h.1.2
    have := membersSize_lt_length kvs h.2
    simp only [membersSize, membersText, List.length_cons, List.length_append]
    omega
end

/-- `json.loads(json.dumps(v)) == v` for every value without floats or surrogates whose
dicts have distinct keys, when `dumps` returns and the value's nesting is within the
scanner's budget. -/
theorem jsonLoads_dumps {v : JsonValue} (hv : v.isPlain) {t : List Char}
    (ht : dumps py floatRepr v = .ok t) (hd : v.depth ≤ py.loadsDepth) :
    jsonLoads py t = .ok v := by
  obtain ⟨-, hf, rfl⟩ := (dumps_eq_ok_iff py floatRepr v t).1 ht
  obtain ⟨c, t, hc, -, -, hbom⟩ := jsonText_head floatRepr hv
  have hscan := (scanOnce_jsonText py floatRepr (2 * (jsonText floatRepr v).length + 1)).1
    py.loadsDepth v [] hv hf (by have := jsonSize_le_length floatRepr v hv; omega) hd
    (by rintro c t ⟨⟩)
  rw [List.append_nil] at hscan
  rw [jsonLoads, if_neg (by rw [hc]; simpa using hbom), ← List.append_nil (jsonText floatRepr v),
    skipWs_jsonText floatRepr hv, List.append_nil, hscan]
  rfl

end RoundTrip

end ShardX.Python
