import ShardX.Python.Float

/-!
# Python `str` Builtins

The string operations the modelled code calls, on `List Char` (a Python `str` read from
a UTF-8 file holds only Unicode scalar values, which is what Lean's `Char` is):

- `str.isspace` / `str.strip()` / `\s`: CPython's `Py_UNICODE_ISSPACE` table;
- `str.strip(chars)`, `str.split(sep)`, `str.replace(',', '')`;
- `int(s)` on the digit strings the parsers hand it, with the interpreter's limit on digits;
- `float(s)` as `PyFloat_FromString` computes it: Unicode decimal digits and spaces first
  made ASCII, ASCII whitespace stripped, underscores checked and removed, then a decimal
  number rounded to the nearest float, or `inf`, `infinity`, `nan` in any case.

The pattern `\d` sees only ASCII digits (Python's also matches other Unicode decimal
digits), so `int()` receives ASCII digits only.
-/

namespace ShardX.Python

/-! ## §1 Whitespace and stripping -/

/-- `Py_UNICODE_ISSPACE`: the characters `str.isspace`, `str.strip()` and the pattern `\s`
treat as whitespace. -/
def isPySpace (c : Char) : Bool :=
  let n := c.toNat
  (0x09 ≤ n && n ≤ 0x0D) || (0x1C ≤ n && n ≤ 0x20) || n == 0x85 || n == 0xA0 ||
    n == 0x1680 || (0x2000 ≤ n && n ≤ 0x200A) || n == 0x2028 || n == 0x2029 ||
    n == 0x202F || n == 0x205F || n == 0x3000

/-- `s.strip(chars)`: drop characters of `chars` from both ends. -/
def stripChars (chars : List Char) (s : List Char) : List Char :=
  ((s.dropWhile (· ∈ chars)).reverse.dropWhile (· ∈ chars)).reverse

/-- `s.strip()`: drop whitespace from both ends. -/
def pyStrip (s : List Char) : List Char :=
  ((s.dropWhile isPySpace).reverse.dropWhile isPySpace).reverse

/-- `s.split(sep)` for a one-character separator. -/
def pySplit (sep : Char) (s : List Char) : List (List Char) := s.splitOn sep

/-- `s.replace(c, '')`. -/
def removeChar (c : Char) (s : List Char) : List Char := s.filter (· != c)

@[simp] theorem pyStrip_nil : pyStrip [] = [] := rfl

/-! ## §2 `int` and `float` -/

/-- `Py_ISSPACE`: the ASCII whitespace `float()` strips. -/
def isAsciiSpace (c : Char) : Bool := c = ' ' || (0x09 ≤ c.toNat && c.toNat ≤ 0x0D)

/-- The value of a string of decimal digits. -/
def digitsValue (ds : List Char) : ℕ :=
  ds.foldl (fun n c => 10 * n + (c.toNat - '0'.toNat)) 0

/-- The check of CPython's conversions between `int` and `str` (`int(s)`, `str(n)`,
`repr(n)`) on a number of decimal digits: `ValueError` when there are more than 640 and
`sys.get_int_max_str_digits()` is set (not `0`) and below their number. -/
def CPython.exceedsMaxStrDigits (py : CPython) (n : ℕ) : Prop :=
  640 < n ∧ py.intMaxStrDigits ≠ 0 ∧ py.intMaxStrDigits < n

instance (py : CPython) (n : ℕ) : Decidable (py.exceedsMaxStrDigits n) :=
  inferInstanceAs (Decidable (_ ∧ _ ∧ _))

/-- A limit is `0` or at least 640, so the first test decides nothing of its own. -/
theorem CPython.exceedsMaxStrDigits_iff (py : CPython) (n : ℕ) :
    py.exceedsMaxStrDigits n ↔ py.intMaxStrDigits ≠ 0 ∧ py.intMaxStrDigits < n := by
  have := py.intMaxStrDigits_valid
  unfold exceedsMaxStrDigits
  omega

/-- `int(s)` on what the parsers pass it, the text of a `[\d,]+` group with its commas
removed: the value of a non-empty digit string. It raises `ValueError` (here `none`) for the
empty string, and for more digits than `sys.get_int_max_str_digits()` allows. -/
def pyInt (py : CPython) (s : List Char) : Option ℕ :=
  if s ≠ [] ∧ s.all Char.isDigit then
    if py.exceedsMaxStrDigits s.length then none else some (digitsValue s)
  else none

/-- Up to 640 digits `int()` does not look at the limit. -/
theorem pyInt_of_length_le (py : CPython) {s : List Char} (h : s.length ≤ 640) :
    pyInt py s = if s ≠ [] ∧ s.all Char.isDigit then some (digitsValue s) else none := by
  simp only [pyInt, CPython.exceedsMaxStrDigits, show ¬640 < s.length by omega, false_and,
    if_false]

/-- A non-empty digit string within the limit reads as its value. -/
theorem pyInt_of_digits (py : CPython) {s : List Char} (hne : s ≠ [])
    (hd : ∀ c ∈ s, c.isDigit = true) (hfit : ¬py.exceedsMaxStrDigits s.length) :
    pyInt py s = some (digitsValue s) := by
  rw [pyInt, if_pos ⟨hne, List.all_eq_true.2 hd⟩, if_neg hfit]

/-- Past the limit `int()` raises `ValueError`, whatever the digits are. -/
theorem pyInt_of_exceeds (py : CPython) {s : List Char} (h : py.exceedsMaxStrDigits s.length) :
    pyInt py s = none := by
  unfold pyInt
  split_ifs <;> rfl

/-- `_PyUnicode_TransformDecimalAndSpaceToASCII`, which `float()` applies first. A character
below U+007F is kept; a Unicode space becomes `' '` and a Unicode decimal digit its ASCII
digit; any other character ends the text with `'?'`, which no number accepts. -/
def transformDecimalAndSpace (py : CPython) : List Char → List Char
  | [] => []
  | c :: s =>
    if c.toNat < 127 then c :: transformDecimalAndSpace py s
    else if isPySpace c then ' ' :: transformDecimalAndSpace py s
    else match py.decimalValue c with
      | some d => Char.ofNat ('0'.toNat + d) :: transformDecimalAndSpace py s
      | none => ['?']

/-- An ASCII text goes through the transformation unchanged. -/
theorem transformDecimalAndSpace_of_ascii (py : CPython) :
    ∀ {s : List Char}, (∀ c ∈ s, c.toNat < 127) → transformDecimalAndSpace py s = s
  | [], _ => rfl
  | c :: s, h => by
    rw [transformDecimalAndSpace, if_pos (h c (List.mem_cons_self _ _)),
      transformDecimalAndSpace_of_ascii py fun d hd => h d (List.mem_cons_of_mem _ hd)]

/-- `_Py_string_to_number_with_underscores`: an underscore must follow a digit and precede
one; the underscores are then removed. `prev` is the character before the text. -/
def removeUnderscoresAux : Char → List Char → Option (List Char)
  | prev, [] => if prev = '_' then none else some []
  | prev, c :: s =>
    if c = '_' then (if prev.isDigit then removeUnderscoresAux c s else none)
    else if prev = '_' ∧ ¬c.isDigit then none
    else (removeUnderscoresAux c s).map (c :: ·)

/-- The underscore check of `float()`, from the start of the text. -/
def removeUnderscores (s : List Char) : Option (List Char) := removeUnderscoresAux ' ' s

/-- An optional sign: `true` for `-`, and the rest of the text. -/
def spanSign : List Char → Bool × List Char
  | '-' :: s => (true, s)
  | '+' :: s => (false, s)
  | s => (false, s)

/-- The leading decimal digits, and the rest of the text. -/
def spanDigits (s : List Char) : List Char × List Char :=
  (s.takeWhile Char.isDigit, s.dropWhile Char.isDigit)

/-- The exponent part `(e|E) [sign] digits`, if present; `none` when it is malformed. -/
def parseExponent : List Char → Option (ℤ × List Char)
  | c :: s =>
    if c = 'e' ∨ c = 'E' then
      let (neg, s) := spanSign s
      let (ds, rest) := spanDigits s
      if ds = [] then none else some (if neg then -(digitsValue ds : ℤ) else digitsValue ds, rest)
    else some (0, c :: s)
  | [] => some (0, [])

/-- `_Py_dg_strtod` on the whole text after the sign: `digits ["." digits]` or
`"." digits`, an optional exponent, and nothing after; the decimal value `m * 10 ^ x`
rounded to the nearest float. -/
def parseDecimal (neg : Bool) (s : List Char) : Option PyFloat :=
  let (whole, s) := spanDigits s
  let (frac, s) := match s with
    | '.' :: s' => spanDigits s'
    | _ => ([], s)
  if whole = [] ∧ frac = [] then none
  else match parseExponent s with
    | some (e, []) =>
      let x := e - frac.length
      some (.ofExact neg (digitsValue (whole ++ frac) * 10 ^ x.toNat) (10 ^ (-x).toNat) 0)
    | _ => none

/-- `_Py_parse_inf_or_nan` on the whole text after the sign: `inf`, `infinity` or `nan`,
in any case. -/
def parseInfNan (neg : Bool) (s : List Char) : Option PyFloat :=
  if s.map Char.toLower = "inf".toList ∨ s.map Char.toLower = "infinity".toList then
    some (.inf neg)
  else if s.map Char.toLower = "nan".toList then some .nan
  else none

/-- What `float()` does with the text after the transformation: strip the ASCII whitespace,
check and remove the underscores, then read a sign and a decimal number, an infinity or
`nan`. -/
def parseFloatText (s : List Char) : Option PyFloat := do
  let s ← removeUnderscores (((s.dropWhile isAsciiSpace).reverse.dropWhile isAsciiSpace).reverse)
  let (neg, s) := spanSign s
  parseDecimal neg s <|> parseInfNan neg s

/-- `float(s)` of a `str`: `none` for `ValueError`. Past the largest float the value is an
infinity, and below the least one a signed zero, without an exception. -/
def pyFloat (py : CPython) (s : List Char) : Option PyFloat :=
  parseFloatText (transformDecimalAndSpace py s)

theorem pyFloat_of_ascii (py : CPython) {s : List Char} (h : ∀ c ∈ s, c.toNat < 127) :
    pyFloat py s = parseFloatText s := by
  rw [pyFloat, transformDecimalAndSpace_of_ascii py h]

theorem takeWhile_isDigit_append {w s : List Char} (hw : ∀ c ∈ w, c.isDigit = true)
    (hs : ∀ c ∈ s.head?, c.isDigit = false) :
    (w ++ s).takeWhile Char.isDigit = w ∧ (w ++ s).dropWhile Char.isDigit = s := by
  induction w with
  | nil => cases s <;> simp_all
  | cons c w ih =>
    simp only [List.mem_cons, forall_eq_or_imp] at hw
    simp [List.takeWhile_cons, List.dropWhile_cons, hw.1, ih hw.2]

/-- A decimal numeral `w.f` (digits around a point, not both empty) reads as the float
nearest to its value. -/
theorem parseDecimal_point (neg : Bool) {w f : List Char} (hw : ∀ c ∈ w, c.isDigit = true)
    (hf : ∀ c ∈ f, c.isDigit = true) (hne : w ≠ [] ∨ f ≠ []) :
    parseDecimal neg (w ++ '.' :: f) =
      some (.ofExact neg (digitsValue (w ++ f)) (10 ^ f.length) 0) := by
  obtain ⟨h₁, h₂⟩ := takeWhile_isDigit_append (s := '.' :: f) hw (by simp)
  obtain ⟨h₃, h₄⟩ := takeWhile_isDigit_append (s := []) (w := f) hf (by simp)
  simp only [List.append_nil] at h₃ h₄
  simp only [parseDecimal, spanDigits, h₁, h₂, h₃, h₄, parseExponent]
  rw [if_neg (by tauto)]
  simp

example : parseFloatText "10.00".toList = some (.ofInt 10) := by decide
example : parseFloatText " -1_5.5e-1 ".toList = some (PyFloat.ofDecimal 155 (-2)).neg := by decide

/-! ## §3 `str(n)` -/

theorem digitsValue_append_singleton (l : List Char) (c : Char) :
    digitsValue (l ++ [c]) = 10 * digitsValue l + (c.toNat - '0'.toNat) := by
  simp [digitsValue]

private theorem digitChar_spec : ∀ k < 10, (Nat.digitChar k).isDigit = true ∧
    (Nat.digitChar k).toNat - '0'.toNat = k ∧
    (k = 0 ∧ Nat.digitChar k = '0' ∨ '1' ≤ Nat.digitChar k ∧ Nat.digitChar k ≤ '9') := by
  decide

/-- What `toDigitsCore` puts in front of `ds`: the decimal digits of `n`, the first of them
`0` only when it is the only one. -/
private theorem toDigitsCore_spec : ∀ (fuel n : ℕ) (ds : List Char), n < fuel →
    ∃ d L, Nat.toDigitsCore 10 fuel n ds = d :: L ++ ds ∧ (∀ c ∈ d :: L, c.isDigit = true) ∧
      digitsValue (d :: L) = n ∧ (d = '0' ∧ L = [] ∨ '1' ≤ d ∧ d ≤ '9')
  | 0, n, _, h => absurd h (Nat.not_lt_zero n)
  | fuel + 1, n, ds, h => by
    obtain ⟨hd, hv, h0⟩ := digitChar_spec (n % 10) (Nat.mod_lt _ (by decide))
    dsimp only [Nat.toDigitsCore]
    split_ifs with hn
    · refine ⟨_, [], rfl, by simpa using hd, ?_, h0.imp (fun h => ⟨h.2, rfl⟩) id⟩
      simp only [digitsValue, List.foldl_cons, List.foldl_nil]
      omega
    · obtain ⟨d, L, heq, hds, hval, hd0⟩ :=
        toDigitsCore_spec fuel (n / 10) (Nat.digitChar (n % 10) :: ds) (by omega)
      refine ⟨d, L ++ [Nat.digitChar (n % 10)], by simp [heq], ?_, ?_, ?_⟩
      · intro c hc
        simp only [List.mem_cons, List.mem_append, List.not_mem_nil, or_false] at hc
        rcases hc with rfl | hc | rfl
        · exact hds _ (List.mem_cons_self _ _)
        · exact hds c (List.mem_cons_of_mem _ hc)
        · exact hd
      · rw [← List.cons_append, digitsValue_append_singleton, hval, hv]
        omega
      · refine .inr (hd0.resolve_left fun ⟨h0, hL⟩ => hn ?_)
        rw [← hval, h0, hL]
        rfl

/-- `str(n)`: non-empty decimal digits with the value `n`, the first `0` only for `0`. -/
theorem toDigits_spec (n : ℕ) :
    ∃ d L, Nat.toDigits 10 n = d :: L ∧ (∀ c ∈ d :: L, c.isDigit = true) ∧
      digitsValue (d :: L) = n ∧ (d = '0' ∧ L = [] ∨ '1' ≤ d ∧ d ≤ '9') := by
  simpa using toDigitsCore_spec (n + 1) n [] (Nat.lt_succ_self n)

theorem isDigit_toNat {c : Char} (h : c.isDigit = true) : 48 ≤ c.toNat ∧ c.toNat ≤ 57 := by
  simp only [Char.isDigit, Bool.and_eq_true, decide_eq_true_eq] at h
  exact ⟨h.1, h.2⟩

theorem isDigit_of_toNat {c : Char} (h1 : 48 ≤ c.toNat) (h2 : c.toNat ≤ 57) :
    c.isDigit = true := by
  simp only [Char.isDigit, Bool.and_eq_true, decide_eq_true_eq]
  exact ⟨h1, h2⟩

/-- Digits read after the value `a` stand between `a` and `a + 1` shifted past them. -/
private theorem foldl_digit_bounds : ∀ (L : List Char) (a : ℕ), (∀ c ∈ L, c.isDigit = true) →
    a * 10 ^ L.length ≤ L.foldl (fun n c => 10 * n + (c.toNat - '0'.toNat)) a ∧
      L.foldl (fun n c => 10 * n + (c.toNat - '0'.toNat)) a < (a + 1) * 10 ^ L.length
  | [], a, _ => by simp
  | c :: L, a, h => by
    have hc := isDigit_toNat (h c (List.mem_cons_self _ _))
    have hc' : c.toNat - '0'.toNat < 10 := by rw [show '0'.toNat = 48 from rfl]; omega
    obtain ⟨h1, h2⟩ := foldl_digit_bounds L (10 * a + (c.toNat - '0'.toNat))
      (fun d hd => h d (List.mem_cons_of_mem _ hd))
    rw [List.foldl_cons, List.length_cons, pow_succ]
    constructor
    · calc a * (10 ^ L.length * 10) = 10 * a * 10 ^ L.length := by ring
        _ ≤ (10 * a + (c.toNat - '0'.toNat)) * 10 ^ L.length := Nat.mul_le_mul_right _ (by omega)
        _ ≤ _ := h1
    · calc _ < (10 * a + (c.toNat - '0'.toNat) + 1) * 10 ^ L.length := h2
        _ ≤ (a + 1) * (10 ^ L.length * 10) := by nlinarith

/-- `str(n)` has more than `L` digits exactly when `10 ^ L ≤ n` (for `L > 0`: `str(0)` is
`'0'`). -/
theorem lt_length_toDigits_iff (n : ℕ) {L : ℕ} (hL : 0 < L) :
    L < (Nat.toDigits 10 n).length ↔ 10 ^ L ≤ n := by
  obtain ⟨d, ds, hD, hdig, hval, hd0⟩ := toDigits_spec n
  rw [hD, List.length_cons, ← hval]
  rcases hd0 with ⟨rfl, rfl⟩ | ⟨h1, h9⟩
  · simp only [List.length_nil, digitsValue, List.foldl_cons, List.foldl_nil]
    have : 1 ≤ 10 ^ L := Nat.one_le_pow _ _ (by norm_num)
    omega
  · have hd := isDigit_toNat (hdig d (List.mem_cons_self _ _))
    have hd1 : 1 ≤ d.toNat - '0'.toNat := by
      have : (49 : ℕ) ≤ d.toNat := h1
      rw [show '0'.toNat = 48 from rfl]; omega
    have hd9 : d.toNat - '0'.toNat < 10 := by rw [show '0'.toNat = 48 from rfl]; omega
    obtain ⟨hlo, hhi⟩ := foldl_digit_bounds ds (d.toNat - '0'.toNat)
      (fun c hc => hdig c (List.mem_cons_of_mem _ hc))
    simp only [digitsValue, List.foldl_cons, Nat.mul_zero, Nat.zero_add]
    constructor
    · intro h
      calc 10 ^ L ≤ 10 ^ ds.length := Nat.pow_le_pow_right (by norm_num) (by omega)
        _ ≤ (d.toNat - '0'.toNat) * 10 ^ ds.length := Nat.le_mul_of_pos_left _ hd1
        _ ≤ _ := hlo
    · intro h
      by_contra hle
      have : 10 ^ (ds.length + 1) ≤ 10 ^ L := Nat.pow_le_pow_right (by norm_num) (by omega)
      have : (d.toNat - '0'.toNat + 1) * 10 ^ ds.length ≤ 10 ^ (ds.length + 1) :=
        calc (d.toNat - '0'.toNat + 1) * 10 ^ ds.length ≤ 10 * 10 ^ ds.length :=
              Nat.mul_le_mul_right _ (by omega)
          _ = 10 ^ (ds.length + 1) := by ring
      omega

end ShardX.Python
