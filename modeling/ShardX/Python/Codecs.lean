import ShardX.Python.Runtime

/-!
# Python Codecs: UTF-8 and `binascii`

`str.encode('utf-8')`, `bytes.decode('utf-8')` (strict), `binascii.hexlify` and
`binascii.unhexlify`, on byte sequences given as lists of naturals below 256.

The decoder accepts exactly the well-formed UTF-8 sequences of the Unicode standard
(Table 3-7): a lead byte fixes how many continuation bytes follow and the range of the
first of them, which rules out overlong forms, surrogates and code points above
`0x10FFFF`; anything else is a `UnicodeDecodeError`, here `none`. A Lean `Char` is a Unicode
scalar value, so encoding never fails (Python's encoder raises only on lone surrogates,
which a `Char` cannot hold).

A Python `str` is a list of code points (`PyChar`), which may be lone surrogates; its
`encode('utf-8')` raises on them, and `binascii.unhexlify` of a `str` refuses anything but
ASCII before it looks at the digits.

Main results: `utf8Decode_utf8Encode` and `utf8Encode_of_decode` (each codec inverts the
other), and `unhexlify_hexlify`.
-/

namespace ShardX.Python

/-! ## §1 UTF-8 -/

/-- `c.encode('utf-8')` for one character. -/
def utf8EncodeChar (c : Char) : List ℕ :=
  let n := c.toNat
  if n < 0x80 then [n]
  else if n < 0x800 then [0xC0 + n / 64, 0x80 + n % 64]
  else if n < 0x10000 then [0xE0 + n / 4096, 0x80 + n / 64 % 64, 0x80 + n % 64]
  else [0xF0 + n / 262144, 0x80 + n / 4096 % 64, 0x80 + n / 64 % 64, 0x80 + n % 64]

/-- `s.encode('utf-8')`. -/
def utf8Encode (cs : List Char) : List ℕ := cs.flatMap utf8EncodeChar

/-- A lead byte above `0x7F`: how many continuation bytes follow it, and the least and
greatest value the first of them may take. -/
def utf8Lead (b : ℕ) : Option (ℕ × ℕ × ℕ) :=
  if 0xC2 ≤ b ∧ b ≤ 0xDF then some (1, 0x80, 0xBF)
  else if 0xE0 ≤ b ∧ b ≤ 0xEF then
    some (2, if b = 0xE0 then 0xA0 else 0x80, if b = 0xED then 0x9F else 0xBF)
  else if 0xF0 ≤ b ∧ b ≤ 0xF4 then
    some (3, if b = 0xF0 then 0x90 else 0x80, if b = 0xF4 then 0x8F else 0xBF)
  else none

/-- A continuation byte, `0x80`–`0xBF`. -/
def IsTail (b : ℕ) : Prop := 0x80 ≤ b ∧ b ≤ 0xBF

instance : DecidablePred IsTail := fun _ => inferInstanceAs (Decidable (_ ∧ _))

/-- `b.decode('utf-8')`, strict. -/
def utf8Decode : List ℕ → Option (List Char)
  | [] => some []
  | b :: bs =>
    if b < 0x80 then (utf8Decode bs).map (Char.ofNat b :: ·)
    else match utf8Lead b, bs with
      | some (1, lo, hi), c :: bs =>
        if lo ≤ c ∧ c ≤ hi then
          (utf8Decode bs).map (Char.ofNat ((b - 0xC0) * 64 + (c - 0x80)) :: ·)
        else none
      | some (2, lo, hi), c :: d :: bs =>
        if lo ≤ c ∧ c ≤ hi ∧ IsTail d then
          (utf8Decode bs).map
            (Char.ofNat ((b - 0xE0) * 4096 + (c - 0x80) * 64 + (d - 0x80)) :: ·)
        else none
      | some (3, lo, hi), c :: d :: e :: bs =>
        if lo ≤ c ∧ c ≤ hi ∧ IsTail d ∧ IsTail e then
          (utf8Decode bs).map (Char.ofNat
            ((b - 0xF0) * 262144 + (c - 0x80) * 4096 + (d - 0x80) * 64 + (e - 0x80)) :: ·)
        else none
      | _, _ => none


/-! ## §2 One decoding step

The decoder's equations, one per accepted form of a character's encoding, and the lead-byte
table read as arithmetic facts. -/

theorem utf8Decode_cons_of_lt {b : ℕ} (bs : List ℕ) (hb : b < 0x80) :
    utf8Decode (b :: bs) = (utf8Decode bs).map (Char.ofNat b :: ·) := by
  rw [utf8Decode.eq_def]; simp only [if_pos hb]

theorem utf8Decode_lead_one {b lo hi c : ℕ} (bs : List ℕ) (hb : ¬b < 0x80)
    (hl : utf8Lead b = some (1, lo, hi)) :
    utf8Decode (b :: c :: bs) =
      if lo ≤ c ∧ c ≤ hi then
        (utf8Decode bs).map (Char.ofNat ((b - 0xC0) * 64 + (c - 0x80)) :: ·)
      else none := by
  rw [utf8Decode.eq_def]; simp only [if_neg hb, hl]

theorem utf8Decode_lead_two {b lo hi c d : ℕ} (bs : List ℕ) (hb : ¬b < 0x80)
    (hl : utf8Lead b = some (2, lo, hi)) :
    utf8Decode (b :: c :: d :: bs) =
      if lo ≤ c ∧ c ≤ hi ∧ IsTail d then
        (utf8Decode bs).map
          (Char.ofNat ((b - 0xE0) * 4096 + (c - 0x80) * 64 + (d - 0x80)) :: ·)
      else none := by
  rw [utf8Decode.eq_def]; simp only [if_neg hb, hl]

theorem utf8Decode_lead_three {b lo hi c d e : ℕ} (bs : List ℕ) (hb : ¬b < 0x80)
    (hl : utf8Lead b = some (3, lo, hi)) :
    utf8Decode (b :: c :: d :: e :: bs) =
      if lo ≤ c ∧ c ≤ hi ∧ IsTail d ∧ IsTail e then
        (utf8Decode bs).map (Char.ofNat
          ((b - 0xF0) * 262144 + (c - 0x80) * 4096 + (d - 0x80) * 64 + (e - 0x80)) :: ·)
      else none := by
  rw [utf8Decode.eq_def]; simp only [if_neg hb, hl]

theorem utf8Lead_one {b lo hi : ℕ} (h : utf8Lead b = some (1, lo, hi)) :
    0xC2 ≤ b ∧ b ≤ 0xDF ∧ lo = 0x80 ∧ hi = 0xBF := by
  unfold utf8Lead at h
  split_ifs at h <;> simp only [Option.some.injEq, Prod.mk.injEq] at h <;> omega

theorem utf8Lead_two {b lo hi : ℕ} (h : utf8Lead b = some (2, lo, hi)) :
    0xE0 ≤ b ∧ b ≤ 0xEF ∧ (b = 0xE0 ∧ lo = 0xA0 ∨ b ≠ 0xE0 ∧ lo = 0x80) ∧
      (b = 0xED ∧ hi = 0x9F ∨ b ≠ 0xED ∧ hi = 0xBF) := by
  unfold utf8Lead at h
  split_ifs at h <;> simp only [Option.some.injEq, Prod.mk.injEq] at h <;> omega

theorem utf8Lead_three {b lo hi : ℕ} (h : utf8Lead b = some (3, lo, hi)) :
    0xF0 ≤ b ∧ b ≤ 0xF4 ∧ (b = 0xF0 ∧ lo = 0x90 ∨ b ≠ 0xF0 ∧ lo = 0x80) ∧
      (b = 0xF4 ∧ hi = 0x8F ∨ b ≠ 0xF4 ∧ hi = 0xBF) := by
  unfold utf8Lead at h
  split_ifs at h <;> simp only [Option.some.injEq, Prod.mk.injEq] at h <;> omega

/-! ## §3 Each codec inverts the other -/

theorem toNat_ofNat_of_valid {n : ℕ} (h : n.isValidChar) : (Char.ofNat n).toNat = n := by
  rw [Char.ofNat, dif_pos h]
  rfl

/-- The encoder, on a code point that is a Unicode scalar value. -/
theorem utf8EncodeChar_ofNat {n : ℕ} (h : n.isValidChar) :
    utf8EncodeChar (Char.ofNat n) =
      if n < 0x80 then [n]
      else if n < 0x800 then [0xC0 + n / 64, 0x80 + n % 64]
      else if n < 0x10000 then [0xE0 + n / 4096, 0x80 + n / 64 % 64, 0x80 + n % 64]
      else [0xF0 + n / 262144, 0x80 + n / 4096 % 64, 0x80 + n / 64 % 64, 0x80 + n % 64] := by
  rw [utf8EncodeChar, toNat_ofNat_of_valid h]

/-- Decoding an encoded character, whatever follows it. -/
theorem utf8Decode_encodeChar_append (c : Char) (rest : List ℕ) :
    utf8Decode (utf8EncodeChar c ++ rest) = (utf8Decode rest).map (c :: ·) := by
  have hv : c.toNat.isValidChar := c.valid
  unfold Nat.isValidChar at hv
  dsimp only [utf8EncodeChar]
  split_ifs with h1 h2 h3
  · rw [List.singleton_append, utf8Decode_cons_of_lt rest h1, Char.ofNat_toNat]
  · have hl : utf8Lead (0xC0 + c.toNat / 64) = some (1, 0x80, 0xBF) := by
      unfold utf8Lead; rw [if_pos (by omega)]
    have hn : (0xC0 + c.toNat / 64 - 0xC0) * 64 + (0x80 + c.toNat % 64 - 0x80) = c.toNat := by
      omega
    simp only [List.cons_append, List.nil_append]
    rw [utf8Decode_lead_one rest (by omega) hl, if_pos (by omega), hn, Char.ofNat_toNat]
  · obtain ⟨lo, hi, hl⟩ : ∃ lo hi, utf8Lead (0xE0 + c.toNat / 4096) = some (2, lo, hi) :=
      ⟨_, _, by unfold utf8Lead; rw [if_neg (by omega), if_pos (by omega)]⟩
    have := utf8Lead_two hl
    have hn : (0xE0 + c.toNat / 4096 - 0xE0) * 4096 + (0x80 + c.toNat / 64 % 64 - 0x80) * 64 +
        (0x80 + c.toNat % 64 - 0x80) = c.toNat := by
      omega
    simp only [List.cons_append, List.nil_append]
    rw [utf8Decode_lead_two rest (by omega) hl, if_pos (by unfold IsTail; omega), hn,
      Char.ofNat_toNat]
  · obtain ⟨lo, hi, hl⟩ : ∃ lo hi, utf8Lead (0xF0 + c.toNat / 262144) = some (3, lo, hi) :=
      ⟨_, _, by unfold utf8Lead; rw [if_neg (by omega), if_neg (by omega), if_pos (by omega)]⟩
    have := utf8Lead_three hl
    have hn : (0xF0 + c.toNat / 262144 - 0xF0) * 262144 +
        (0x80 + c.toNat / 4096 % 64 - 0x80) * 4096 + (0x80 + c.toNat / 64 % 64 - 0x80) * 64 +
        (0x80 + c.toNat % 64 - 0x80) = c.toNat := by
      omega
    simp only [List.cons_append, List.nil_append]
    rw [utf8Decode_lead_three rest (by omega) hl, if_pos (by unfold IsTail; omega), hn,
      Char.ofNat_toNat]

/-- `s.encode('utf-8').decode('utf-8') == s`. -/
theorem utf8Decode_utf8Encode (cs : List Char) : utf8Decode (utf8Encode cs) = some cs := by
  induction cs with
  | nil => rfl
  | cons c cs ih =>
    rw [utf8Encode, List.flatMap_cons, ← utf8Encode, utf8Decode_encodeChar_append, ih]
    rfl

example : utf8Decode (utf8Encode "aé€😀".toList) = some "aé€😀".toList := by decide

/-- The encoder writes bytes. -/
theorem utf8Encode_lt_256 (cs : List Char) : ∀ b ∈ utf8Encode cs, b < 256 := by
  simp only [utf8Encode, List.mem_flatMap, forall_exists_index, and_imp]
  intro b c _ hb
  have hv : c.toNat.isValidChar := c.valid
  unfold Nat.isValidChar at hv
  dsimp only [utf8EncodeChar] at hb
  split_ifs at hb <;> simp only [List.mem_cons, List.mem_singleton, List.not_mem_nil,
    or_false] at hb <;> omega

/-- Every list the decoder accepts is the encoding of what it returns. -/
theorem utf8Encode_of_decode {bs : List ℕ} {cs : List Char} (h : utf8Decode bs = some cs) :
    utf8Encode cs = bs := by
  induction bs using utf8Decode.induct generalizing cs with
  | case1 => simp_all [utf8Decode, utf8Encode]
  | case2 b bs hb ih =>
    rw [utf8Decode_cons_of_lt bs hb, Option.map_eq_some'] at h
    obtain ⟨cs, hcs, rfl⟩ := h
    have hv : b.isValidChar := by unfold Nat.isValidChar; omega
    simp [utf8Encode, utf8EncodeChar_ofNat hv, hb, ← ih hcs]
  | case3 b hb lo hi c bs hl hc ih =>
    rw [utf8Decode_lead_one bs hb hl, if_pos hc, Option.map_eq_some'] at h
    obtain ⟨cs, hcs, rfl⟩ := h
    have := utf8Lead_one hl
    have hv : ((b - 0xC0) * 64 + (c - 0x80)).isValidChar := by unfold Nat.isValidChar; omega
    rw [utf8Encode, List.flatMap_cons, utf8EncodeChar_ofNat hv, if_neg (by omega),
      if_pos (by omega), ← utf8Encode, ih hcs]
    simp only [List.cons_append, List.nil_append, List.cons.injEq, and_true]
    omega
  | case4 b hb lo hi c bs hl hc => simp [utf8Decode_lead_one bs hb hl, hc] at h
  | case5 b hb lo hi c d bs hl hc ih =>
    rw [utf8Decode_lead_two bs hb hl, if_pos hc, Option.map_eq_some'] at h
    obtain ⟨cs, hcs, rfl⟩ := h
    have := utf8Lead_two hl
    unfold IsTail at hc
    have hv : ((b - 0xE0) * 4096 + (c - 0x80) * 64 + (d - 0x80)).isValidChar := by
      unfold Nat.isValidChar; omega
    rw [utf8Encode, List.flatMap_cons, utf8EncodeChar_ofNat hv, if_neg (by omega),
      if_neg (by omega), if_pos (by omega), ← utf8Encode, ih hcs]
    simp only [List.cons_append, List.nil_append, List.cons.injEq, and_true]
    omega
  | case6 b hb lo hi c d bs hl hc => simp [utf8Decode_lead_two bs hb hl, hc] at h
  | case7 b hb lo hi c d e bs hl hc ih =>
    rw [utf8Decode_lead_three bs hb hl, if_pos hc, Option.map_eq_some'] at h
    obtain ⟨cs, hcs, rfl⟩ := h
    have := utf8Lead_three hl
    unfold IsTail at hc
    have hv : ((b - 0xF0) * 262144 + (c - 0x80) * 4096 + (d - 0x80) * 64 +
        (e - 0x80)).isValidChar := by
      unfold Nat.isValidChar; omega
    rw [utf8Encode, List.flatMap_cons, utf8EncodeChar_ofNat hv, if_neg (by omega),
      if_neg (by omega), if_neg (by omega), ← utf8Encode, ih hcs]
    simp only [List.cons_append, List.nil_append, List.cons.injEq, and_true]
    omega
  | case8 b hb lo hi c d e bs hl hc => simp [utf8Decode_lead_three bs hb hl, hc] at h
  | case9 b bs hb h1 h2 h3 => simp [utf8Decode.eq_5 b bs h1 h2 h3, hb] at h

/-! ## §4 `binascii` -/

/-- A lowercase hex digit. -/
def hexDigit (d : ℕ) : Char := if d < 10 then Char.ofNat (48 + d) else Char.ofNat (87 + d)

/-- `binascii.hexlify(b).decode('ascii')`: two lowercase hex digits per byte. -/
def hexlify (bs : List ℕ) : List Char := bs.flatMap fun b => [hexDigit (b / 16), hexDigit (b % 16)]

/-- The value of a hex digit of either case. -/
def hexValue (c : Char) : Option ℕ :=
  if '0' ≤ c ∧ c ≤ '9' then some (c.toNat - 48)
  else if 'a' ≤ c ∧ c ≤ 'f' then some (c.toNat - 87)
  else if 'A' ≤ c ∧ c ≤ 'F' then some (c.toNat - 55)
  else none

/-- `binascii.unhexlify(s)`: `none` (`binascii.Error`) on an odd length or a character that
is not a hex digit. -/
def unhexlify : List Char → Option (List ℕ)
  | [] => some []
  | [_] => none
  | h :: l :: rest => do return (16 * (← hexValue h) + (← hexValue l)) :: (← unhexlify rest)

theorem hexValue_hexDigit {d : ℕ} (h : d < 16) : hexValue (hexDigit d) = some d := by
  have : ∀ d < 16, hexValue (hexDigit d) = some d := by decide
  exact this d h

/-- `binascii.unhexlify(binascii.hexlify(b)) == b`. -/
theorem unhexlify_hexlify {bs : List ℕ} (h : ∀ b ∈ bs, b < 256) :
    unhexlify (hexlify bs) = some bs := by
  induction bs with
  | nil => rfl
  | cons b bs ih =>
    simp only [List.mem_cons, forall_eq_or_imp] at h
    have hhi : b / 16 < 16 := by omega
    have hlo : b % 16 < 16 := Nat.mod_lt b (by decide)
    rw [hexlify, List.flatMap_cons, ← hexlify]
    simp [unhexlify, hexValue_hexDigit hhi, hexValue_hexDigit hlo, ih h.2, Nat.div_add_mod]

example : hexlify [0, 171, 255] = "00abff".toList := by decide
example : unhexlify "00ABff".toList = some [0, 171, 255] := by decide

/-! ## §5 Python `str` -/

/-- A code point of a Python `str`; unlike a `Char` it may be a lone surrogate. -/
abbrev PyChar := Fin 0x110000

/-- A Lean character as a code point. -/
def pyCharOf (c : Char) : PyChar :=
  ⟨c.toNat, by have h : c.toNat.isValidChar := c.valid; unfold Nat.isValidChar at h; omega⟩

/-- The code point `n`, for `n < 0x110000`. -/
def codePoint (n : ℕ) : PyChar := Fin.ofNat n

/-- A Unicode scalar value: a code point that is not a surrogate. -/
def IsScalar (c : PyChar) : Prop := c.val.isValidChar

instance : DecidablePred IsScalar := fun _ => inferInstanceAs (Decidable (_ ∨ _))

@[simp] theorem pyCharOf_val (c : Char) : (pyCharOf c).val = c.toNat := rfl

theorem codePoint_val {n : ℕ} (h : n < 0x110000) : (codePoint n).val = n := Nat.mod_eq_of_lt h

/-- `s.encode('utf-8')` of a Python `str`: `UnicodeEncodeError` on a lone surrogate. -/
def strEncodeUtf8 (s : List PyChar) : Except PyExc (List ℕ) :=
  if ∀ c ∈ s, IsScalar c then .ok (utf8Encode (s.map fun c => Char.ofNat c.val))
  else .error .unicodeEncodeError

/-- `b.decode('utf-8')`, strict. -/
def bytesDecodeUtf8 (bs : List ℕ) : Except PyExc (List Char) :=
  match utf8Decode bs with
  | some cs => .ok cs
  | none => .error .unicodeDecodeError

/-- `binascii.unhexlify(s)` on a `str`: `ValueError` unless it is ASCII, `binascii.Error`
unless it is even-length hex. -/
def unhexlifyStr (s : List PyChar) : Except PyExc (List ℕ) :=
  if ∀ c ∈ s, c.val < 0x80 then
    match unhexlify (s.map fun c => Char.ofNat c.val) with
    | some bs => .ok bs
    | none => .error .binasciiError
  else .error .valueError

end ShardX.Python
