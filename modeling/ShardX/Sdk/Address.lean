import ShardX.Sdk.Wallet
import Mathlib.Data.Nat.Digits
import Mathlib.Data.List.GetD

/-!
# SDK Wallet: Keys and Addresses

What `Wallet` of `shardx_sdk/wallet.py` computes with its hash functions:
- `_derive_public_key(private_key)` is `hashlib.sha256(bytes.fromhex(private_key)).hexdigest()`;
- `_derive_address(public_key)` is the base58 text of `b'\x00' + ripemd160(sha256(bytes.fromhex(
  public_key)))`;
- `sign(message)` is `hmac.new(bytes.fromhex(private_key), message.encode(), hashlib.sha256)
  .hexdigest()`.

SHA-256 and RIPEMD-160 are parameters, functions from bytes to bytes; HMAC is built from the
first as `hmac` builds it (RFC 2104, block size 64). With them, `Crypto.ofHashes` is the
`Crypto` record of `Sdk/Wallet.lean`, and every theorem there applies to the keys computed
here. `base58.b58encode` is the `base58` package's (§2): a `'1'` for each leading zero byte,
then the base-58 digits of the rest read as a big-endian number.

Main results:
- `b58encode_injective`: distinct byte strings have distinct base58 texts;
- `deriveAddress_spec`: every address `_derive_address` returns starts with `'1'`, is written in
  the Bitcoin alphabet (so holds no `':'`), and determines the RIPEMD-160 hash it encodes;
- `init_initialized`: every wallet `__init__` builds from a non-empty private key holds that
  key and a non-empty address, so it is `Wallet.Initialized`, the hypothesis of the signing
  theorems.
-/

namespace ShardX.Python

/-! ## §1 `bytes.fromhex` and HMAC -/

/-- `bytes.fromhex(s)`: pairs of hex digits of either case, with ASCII whitespace before any
pair; `ValueError` on anything else, an odd digit out included. -/
def bytesFromhex : List Char → Except PyExc (List ℕ)
  | [] => .ok []
  | c :: cs =>
    if isAsciiSpace c then bytesFromhex cs
    else match cs with
      | [] => .error .valueError
      | d :: ds =>
        match hexValue c, hexValue d with
        | some top, some bot => (bytesFromhex ds).map ((top * 16 + bot) :: ·)
        | _, _ => .error .valueError

/-- `hmac.new(key, msg, sha256).digest()`: the key, hashed when longer than the block of 64
bytes and padded with zeros to it, is XORed with `0x36` for the inner hash and with `0x5c`
for the outer one. -/
def hmacSha256 (sha256 : List ℕ → List ℕ) (key msg : List ℕ) : List ℕ :=
  let key := if 64 < key.length then sha256 key else key
  let key := key ++ List.replicate (64 - key.length) 0
  sha256 (key.map (· ^^^ 0x5c) ++ sha256 (key.map (· ^^^ 0x36) ++ msg))

/-! ## §2 Base58 -/

/-- `BITCOIN_ALPHABET` of the `base58` package. -/
def bitcoinAlphabet : List Char :=
  "123456789ABCDEFGHJKLMNPQRSTUVWXYZabcdefghijkmnopqrstuvwxyz".toList

/-- `alphabet[idx:idx+1]`, the digit `idx < 58`. -/
def base58Digit (idx : ℕ) : Char := bitcoinAlphabet.getD idx '1'

/-- `int.from_bytes(v, byteorder='big')`. -/
def intFromBytesBig (v : List ℕ) : ℕ := v.foldl (fun acc b => acc * 256 + b) 0

/-- The loop `while i: i, idx = divmod(i, base); string = alphabet[idx:idx+1] + string` of
`b58encode_int`. -/
def b58encodeIntLoop (i : ℕ) (string : List Char) : List Char :=
  if i = 0 then string else b58encodeIntLoop (i / 58) (base58Digit (i % 58) :: string)
termination_by i
decreasing_by omega

/-- `b58encode_int(i, default_one)`. -/
def b58encodeInt (i : ℕ) (defaultOne : Bool := true) : List Char :=
  if i = 0 ∧ defaultOne then bitcoinAlphabet.take 1 else b58encodeIntLoop i []

/-- `b58encode(v)`, on bytes. -/
def b58encode (v : List ℕ) : List Char :=
  let stripped := v.dropWhile (· = 0)
  List.replicate (v.length - stripped.length) (base58Digit 0) ++
    b58encodeInt (intFromBytesBig stripped) false

/-! ## §3 A base58 text determines its bytes -/

/-- The value of a Bitcoin digit, its index in the alphabet. -/
def base58Value (c : Char) : ℕ := bitcoinAlphabet.indexOf c

theorem bitcoinAlphabet_nodup : bitcoinAlphabet.Nodup :=
  List.Nodup.of_map Char.toNat (by decide)

theorem base58Digit_eq {d : ℕ} (hd : d < 58) : base58Digit d = bitcoinAlphabet[d] :=
  List.getD_eq_getElem _ _ _

theorem base58Value_digit : ∀ d < 58, base58Value (base58Digit d) = d := fun d hd => by
  rw [base58Digit_eq hd]
  exact List.indexOf_getElem bitcoinAlphabet_nodup d _

theorem base58Digit_mem : ∀ d < 58, base58Digit d ∈ bitcoinAlphabet := fun d hd => by
  rw [base58Digit_eq hd]
  exact List.getElem_mem _

theorem base58Digit_ne_one {d : ℕ} (hd : d < 58) (h0 : d ≠ 0) : base58Digit d ≠ '1' := by
  intro h
  have := base58Value_digit d hd
  rw [h] at this
  exact h0 (this.symm.trans rfl)

theorem b58encodeIntLoop_eq (i : ℕ) (s : List Char) :
    b58encodeIntLoop i s = (Nat.digits 58 i).reverse.map base58Digit ++ s := by
  induction i using Nat.strong_induction_on generalizing s with
  | _ i ih =>
    rw [b58encodeIntLoop]
    split_ifs with h
    · simp [h]
    · rw [ih (i / 58) (by omega), Nat.digits_def' (by norm_num : 1 < 58) (Nat.pos_of_ne_zero h)]
      simp

theorem foldl_bytes (a : ℕ) (v : List ℕ) :
    v.foldl (fun acc b => acc * 256 + b) a = a * 256 ^ v.length + Nat.ofDigits 256 v.reverse := by
  induction v generalizing a with
  | nil => simp
  | cons b v ih =>
    rw [List.foldl_cons, ih, List.reverse_cons, Nat.ofDigits_append, Nat.ofDigits_singleton,
      List.length_reverse, List.length_cons, pow_succ]
    ring

theorem intFromBytesBig_eq (v : List ℕ) : intFromBytesBig v = Nat.ofDigits 256 v.reverse := by
  simp [intFromBytesBig, foldl_bytes]

/-- The bytes before the first non-zero one are zeros. -/
theorem replicate_dropWhile (v : List ℕ) :
    List.replicate (v.length - (v.dropWhile (· = 0)).length) 0 ++ v.dropWhile (· = 0) = v := by
  induction v with
  | nil => rfl
  | cons b v ih =>
    by_cases hb : b = 0
    · subst hb
      have hle := (List.dropWhile_sublist (fun x => decide (x = 0)) (l := v)).length_le
      rw [List.dropWhile_cons_of_pos (by simp), List.length_cons,
        show v.length + 1 - (v.dropWhile (· = 0)).length =
          v.length - (v.dropWhile (· = 0)).length + 1 by omega, List.replicate_succ,
        List.cons_append, ih]
    · simp [List.dropWhile_cons, hb]

theorem dropWhile_ne_zero_cons (v : List ℕ) : ∀ t, v.dropWhile (· = 0) ≠ 0 :: t := by
  induction v with
  | nil => simp
  | cons b v ih =>
    by_cases hb : b = 0
    · simpa [List.dropWhile_cons, hb] using ih
    · simp [List.dropWhile_cons, hb]

/-- Big-endian bytes without a leading zero are the base-256 digits of their value. -/
theorem digits_intFromBytesBig {w : List ℕ} (hw : ∀ b ∈ w, b < 256) (h0 : ∀ t, w ≠ 0 :: t) :
    Nat.digits 256 (intFromBytesBig w) = w.reverse := by
  rw [intFromBytesBig_eq]
  refine Nat.digits_ofDigits _ (by norm_num) _ (by simpa using hw) fun hne => ?_
  rw [List.getLast_reverse]
  cases w with
  | nil => exact absurd rfl hne
  | cons b t => exact fun hb => h0 t (by rw [List.head_cons] at hb; rw [hb])

/-- The digits of a positive value do not start with the digit `'1'`, the digit 0. -/
theorem digitsText_ne_one (acc : ℕ) : ∀ t, (Nat.digits 58 acc).reverse.map base58Digit ≠ '1' :: t := by
  intro t h
  have hhead := congrArg List.head? h
  rw [List.head?_map, List.head?_reverse, List.head?_cons] at hhead
  obtain ⟨d, hd, hd1⟩ := Option.map_eq_some'.1 hhead
  have hne : Nat.digits 58 acc ≠ [] := fun h' => by simp [h'] at hd
  have hlast : (Nat.digits 58 acc).getLast hne = d := by
    rw [List.getLast?_eq_getLast _ hne] at hd
    exact Option.some.inj hd
  have hacc : acc ≠ 0 := fun h' => hne (by simp [h'])
  refine base58Digit_ne_one ?_ ?_ hd1
  · exact Nat.digits_lt_base (by norm_num) (hlast ▸ List.getLast_mem hne)
  · exact hlast ▸ Nat.getLast_digit_ne_zero 58 hacc

theorem replicate_append_cancel {c : Char} :
    ∀ {m n : ℕ} {l l' : List Char}, (∀ t, l ≠ c :: t) → (∀ t, l' ≠ c :: t) →
      List.replicate m c ++ l = List.replicate n c ++ l' → m = n ∧ l = l'
  | 0, 0, _, _, _, _, h => ⟨rfl, h⟩
  | 0, _ + 1, _, _, hl, _, h => absurd h (hl _)
  | _ + 1, 0, _, _, _, hl', h => absurd h.symm (hl' _)
  | _ + 1, _ + 1, _, _, hl, hl', h => by
    obtain ⟨hmn, hll⟩ := replicate_append_cancel hl hl' (List.cons.inj h).2
    exact ⟨congrArg (· + 1) hmn, hll⟩

theorem b58encode_eq (v : List ℕ) :
    b58encode v = List.replicate (v.length - (v.dropWhile (· = 0)).length) '1' ++
      (Nat.digits 58 (intFromBytesBig (v.dropWhile (· = 0)))).reverse.map base58Digit := by
  have h1 : base58Digit 0 = '1' := rfl
  simp only [b58encode, b58encodeInt, Bool.false_eq_true, and_false, if_false,
    b58encodeIntLoop_eq, List.append_nil, h1]

/-- `b58encode` is injective on byte strings: the count of leading `'1'`s gives the leading
zero bytes, and the digits after them the value of the rest. -/
theorem b58encode_injective {v w : List ℕ} (hv : ∀ b ∈ v, b < 256) (hw : ∀ b ∈ w, b < 256)
    (h : b58encode v = b58encode w) : v = w := by
  rw [b58encode_eq, b58encode_eq] at h
  obtain ⟨hz, hdigits⟩ := replicate_append_cancel (digitsText_ne_one _ ) (digitsText_ne_one _) h
  have hvalue : intFromBytesBig (v.dropWhile (· = 0)) = intFromBytesBig (w.dropWhile (· = 0)) := by
    have hmap := congrArg (List.map base58Value) hdigits
    have hback : ∀ n, ((Nat.digits 58 n).reverse.map base58Digit).map base58Value =
        (Nat.digits 58 n).reverse := fun n => by
      rw [List.map_map]
      refine (List.map_congr_left fun d hd => ?_).trans (List.map_id _)
      exact base58Value_digit d (Nat.digits_lt_base (by norm_num) (List.mem_reverse.1 hd))
    rw [hback, hback, List.reverse_inj] at hmap
    rw [← Nat.ofDigits_digits 58 (intFromBytesBig _), hmap, Nat.ofDigits_digits]
  have hstrip : v.dropWhile (· = 0) = w.dropWhile (· = 0) := by
    have hv' := digits_intFromBytesBig (fun b hb => hv b ((List.dropWhile_sublist _).subset hb))
      (dropWhile_ne_zero_cons v)
    have hw' := digits_intFromBytesBig (fun b hb => hw b ((List.dropWhile_sublist _).subset hb))
      (dropWhile_ne_zero_cons w)
    rw [hvalue, hw'] at hv'
    exact List.reverse_inj.1 hv'.symm
  rw [← replicate_dropWhile v, ← replicate_dropWhile w, hz, hstrip]

end ShardX.Python

namespace ShardX.Sdk

open ShardX.Python

/-! ## §3 The wallet's keys -/

section Hashes

variable (sha256 ripemd160 : List ℕ → List ℕ)

/-- `Wallet._derive_public_key`. -/
def Wallet.derivePublicKey (privateKey : String) : Except PyExc String := do
  let bytes ← bytesFromhex privateKey.toList
  pure (String.mk (hexlify (sha256 bytes)))

/-- `Wallet._derive_address`: the version byte `0x00`, then RIPEMD-160 of SHA-256 of the
public key's bytes, in base58. -/
def Wallet.deriveAddress (publicKey : String) : Except PyExc String := do
  let bytes ← bytesFromhex publicKey.toList
  pure (String.mk (b58encode (0 :: ripemd160 (sha256 bytes))))

/-- The HMAC of `Wallet.sign`, in hex. -/
def signatureHex (key message : String) : Except PyExc String := do
  let keyBytes ← bytesFromhex key.toList
  pure (String.mk (hexlify (hmacSha256 sha256 keyBytes (utf8Encode message.toList))))

/-- The `Crypto` record of the wallet, from its two hash functions. -/
def Crypto.ofHashes : Crypto :=
  ⟨signatureHex sha256, Wallet.derivePublicKey sha256, Wallet.deriveAddress sha256 ripemd160⟩

end Hashes

/-! ## §4 Addresses -/

/-- The base58 text of bytes that start with the version byte `0x00` starts with `'1'`. -/
theorem b58encode_zero_cons_head (h : List ℕ) : (b58encode (0 :: h)).head? = some '1' := by
  have hle := (List.dropWhile_sublist (fun x => decide (x = 0)) (l := h)).length_le
  rw [b58encode_eq, List.dropWhile_cons_of_pos (by simp), List.length_cons,
    show h.length + 1 - (h.dropWhile (· = 0)).length =
      h.length - (h.dropWhile (· = 0)).length + 1 by omega, List.replicate_succ]
  rfl

theorem b58encode_mem_alphabet (v : List ℕ) : ∀ c ∈ b58encode v, c ∈ bitcoinAlphabet := by
  rw [b58encode_eq]
  intro c hc
  rcases List.mem_append.1 hc with h | h
  · rw [List.eq_of_mem_replicate h]
    decide
  · obtain ⟨d, hd, rfl⟩ := List.mem_map.1 h
    exact base58Digit_mem d (Nat.digits_lt_base (by norm_num) (List.mem_reverse.1 hd))

section Addresses

variable {sha256 ripemd160 : List ℕ → List ℕ}

theorem deriveAddress_eq_ok {publicKey address : String}
    (h : Wallet.deriveAddress sha256 ripemd160 publicKey = .ok address) :
    ∃ bs, bytesFromhex publicKey.toList = .ok bs ∧
      address = String.mk (b58encode (0 :: ripemd160 (sha256 bs))) := by
  rw [Wallet.deriveAddress] at h
  cases hb : bytesFromhex publicKey.toList with
  | error e => rw [hb] at h; cases h
  | ok bs =>
    rw [hb, except_ok_bind, except_pure_eq, Except.ok.injEq] at h
    exact ⟨bs, rfl, h.symm⟩

/-- Every address `_derive_address` returns starts with `'1'` and is written in the Bitcoin
alphabet, which has no `':'`. When RIPEMD-160 returns bytes, two public keys get the same
address exactly when the RIPEMD-160 hashes of their SHA-256 hashes agree. -/
theorem deriveAddress_spec (hbytes : ∀ bs, ∀ b ∈ ripemd160 bs, b < 256)
    {publicKey publicKey' address address' : String}
    (h : Wallet.deriveAddress sha256 ripemd160 publicKey = .ok address)
    (h' : Wallet.deriveAddress sha256 ripemd160 publicKey' = .ok address') :
    address.toList.head? = some '1' ∧ (∀ c ∈ address.toList, c ∈ bitcoinAlphabet) ∧
      (address = address' ↔ ∃ bs bs', bytesFromhex publicKey.toList = .ok bs ∧
        bytesFromhex publicKey'.toList = .ok bs' ∧ ripemd160 (sha256 bs) = ripemd160 (sha256 bs')) := by
  obtain ⟨bs, hbs, rfl⟩ := deriveAddress_eq_ok h
  obtain ⟨bs', hbs', rfl⟩ := deriveAddress_eq_ok h'
  refine ⟨b58encode_zero_cons_head _, b58encode_mem_alphabet _, ⟨fun heq => ?_, ?_⟩⟩
  · have hzero : ∀ r, (∀ b ∈ r, b < 256) → ∀ b ∈ (0 :: r), b < 256 := by
      intro r hr b hb
      rcases List.mem_cons.1 hb with rfl | hb
      · norm_num
      · exact hr b hb
    exact ⟨bs, bs', hbs, hbs', (List.cons.inj (b58encode_injective (hzero _ (hbytes _))
      (hzero _ (hbytes _)) (congrArg String.data heq))).2⟩
  · rintro ⟨cs, cs', hcs, hcs', heq⟩
    rw [hbs, Except.ok.injEq] at hcs
    rw [hbs', Except.ok.injEq] at hcs'
    rw [hcs, hcs', heq]

/-- `_derive_address` on the public keys `'00'` and `'01'`, with the identity for SHA-256 and
halving for RIPEMD-160: the two keys hash alike, and get the same address. -/
theorem deriveAddress_spec_collision :
    (∀ bs, ∀ b ∈ (fun bs : List ℕ => bs.map (· % 256 / 2)) bs, b < 256) ∧
      Wallet.deriveAddress id (fun bs => bs.map (· % 256 / 2)) "00" =
        .ok (String.mk (b58encode [0, 0])) ∧
      Wallet.deriveAddress id (fun bs => bs.map (· % 256 / 2)) "01" =
        .ok (String.mk (b58encode [0, 0])) ∧
      ((String.mk (b58encode [0, 0])).toList.head? = some '1' ∧
        (∀ c ∈ (String.mk (b58encode [0, 0])).toList, c ∈ bitcoinAlphabet) ∧
        (String.mk (b58encode [0, 0]) = String.mk (b58encode [0, 0]) ↔
          ∃ bs bs', bytesFromhex "00".toList = .ok bs ∧ bytesFromhex "01".toList = .ok bs' ∧
            (fun bs : List ℕ => bs.map (· % 256 / 2)) (id bs) =
              (fun bs : List ℕ => bs.map (· % 256 / 2)) (id bs'))) :=
  have hbytes : ∀ bs, ∀ b ∈ (fun bs : List ℕ => bs.map (· % 256 / 2)) bs, b < 256 := by
    intro bs b hb
    obtain ⟨a, -, rfl⟩ := List.mem_map.1 hb
    exact lt_of_le_of_lt (Nat.div_le_self _ _) (Nat.mod_lt a (by norm_num))
  have h : Wallet.deriveAddress id (fun bs => bs.map (· % 256 / 2)) "00" =
      .ok (String.mk (b58encode [0, 0])) := rfl
  have h' : Wallet.deriveAddress id (fun bs => bs.map (· % 256 / 2)) "01" =
      .ok (String.mk (b58encode [0, 0])) := rfl
  ⟨hbytes, h, h', deriveAddress_spec hbytes h h'⟩

/-- Every wallet `__init__` builds from a non-empty private key holds that key and a non-empty
address: it is initialized in the sense of `Wallet.Initialized`. -/
theorem init_initialized (sha256 ripemd160 : List ℕ → List ℕ) {k : String} {w : Wallet}
    (hk : k ≠ "") (h : Wallet.init (Crypto.ofHashes sha256 ripemd160) (some k) = .ok w) :
    w.privateKey = some k ∧ w.Initialized := by
  rw [Wallet.init, if_pos hk] at h
  obtain ⟨pub, -, h⟩ := except_bind_eq_ok.1 h
  obtain ⟨address, haddr, h⟩ := except_bind_eq_ok.1 h
  cases h
  have haddr' : Wallet.deriveAddress sha256 ripemd160 pub = .ok address := by
    cases hd : Wallet.deriveAddress sha256 ripemd160 pub <;> simp_all [Crypto.ofHashes]
  obtain ⟨bs, -, rfl⟩ := deriveAddress_eq_ok haddr'
  refine ⟨rfl, by simpa [truthy] using hk, ?_⟩
  have hhead := b58encode_zero_cons_head (ripemd160 (sha256 bs))
  simp only [truthy, Option.any_some, decide_eq_true_eq]
  intro hempty
  rw [show b58encode (0 :: ripemd160 (sha256 bs)) = [] from congrArg String.data hempty] at hhead
  cases hhead

/-- The wallet of the private key `'00'`, with the identity for both hash functions. -/
theorem init_initialized_zero :
    ("00" : String) ≠ "" ∧
      Wallet.init (Crypto.ofHashes id id) (some "00") =
        .ok ⟨some "00", some (String.mk (hexlify [0])), some (String.mk (b58encode [0, 0]))⟩ ∧
      (some "00" = some "00" ∧ Wallet.Initialized
        ⟨some "00", some (String.mk (hexlify [0])), some (String.mk (b58encode [0, 0]))⟩) :=
  have h : Wallet.init (Crypto.ofHashes id id) (some "00") =
      .ok ⟨some "00", some (String.mk (hexlify [0])), some (String.mk (b58encode [0, 0]))⟩ := rfl
  ⟨by decide, h, init_initialized id id (by decide) h⟩

end Addresses

end ShardX.Sdk
