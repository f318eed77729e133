import ShardX.Python.Json

/-!
# SDK Models: Key Case Conversion

The helpers at the end of `shardx_sdk/models.py` convert the keys of API dicts between
snake_case and camelCase:
- `to_camel_case` splits a key at `'_'` and appends the `str.title()` of every component
  after the first to the first;
- `to_snake_case` lowercases the first character, and writes every later uppercase
  character as `'_'` and its lowercase;
- `convert_keys_to_camel_case` and `convert_keys_to_snake_case` rebuild a dict with its keys
  converted. A dict value is converted recursively, a list value is rebuilt with its dict
  items converted and its other items, lists among them, as they are, and any other value is
  kept.

A dict is a `JsonValue`. Case is ASCII case: `str.lower`, `str.title` and `str.isupper` are
modelled on ASCII letters and leave every other character as it is, where Python also maps
non-ASCII letters. The keys the results below speak of are ASCII.

Main results:
- `toSnakeCase_toCamelCase`: `to_snake_case` reads back the `to_camel_case` of every
  snake_case key in which no component after the first has a letter after a digit;
- `convertKeys_camel_snake_roundTrip`: for every dict whose keys, in every dict the
  conversion visits, are such keys and distinct, the camelCase dict has distinct keys free of
  `'_'` in every dict the conversion visits, and the snake_case conversion gives the dict back;
- `convertKeys_camel_snake_counterexamples`: a dict in a list of lists keeps its snake_case
  keys, and the key `'a_b1c'` comes back as `'a_b1_c'`.
-/

namespace ShardX.Sdk

open ShardX.Python

/-! ## §1 ASCII case -/

/-- `'_'`. -/
def underscore : PyChar := pyCharOf '_'

/-- An ASCII uppercase letter. -/
def isUpperAscii (c : PyChar) : Bool := 65 ≤ c.val && c.val ≤ 90

/-- An ASCII lowercase letter. -/
def isLowerAscii (c : PyChar) : Bool := 97 ≤ c.val && c.val ≤ 122

/-- An ASCII digit. -/
def isDigitAscii (c : PyChar) : Bool := 48 ≤ c.val && c.val ≤ 57

/-- `str.lower()` of one character. -/
def pyLower (c : PyChar) : PyChar := if isUpperAscii c then codePoint (c.val + 32) else c

/-- `str.upper()` of one character, which is also its title case. -/
def pyUpper (c : PyChar) : PyChar := if isLowerAscii c then codePoint (c.val - 32) else c

/-- A cased character. -/
def pyIsCased (c : PyChar) : Bool := isUpperAscii c || isLowerAscii c

/-- CPython's `do_title` from its flag `previous_is_cased`: a character after a cased one is
lowercased and any other is title-cased; the flag is then whether the character read is
cased. -/
def pyTitleFrom : Bool → List PyChar → List PyChar
  | _, [] => []
  | previousIsCased, c :: cs =>
    (if previousIsCased then pyLower c else pyUpper c) :: pyTitleFrom (pyIsCased c) cs

/-- `str.title()`. -/
def pyTitle (s : List PyChar) : List PyChar := pyTitleFrom false s

theorem isUpperAscii_of_lower {c : PyChar} (h : isLowerAscii c = true) :
    isUpperAscii c = false := by
  simp [isLowerAscii, isUpperAscii] at h ⊢
  omega

theorem isUpperAscii_of_digit {c : PyChar} (h : isDigitAscii c = true) :
    isUpperAscii c = false := by
  simp [isDigitAscii, isUpperAscii] at h ⊢
  omega

theorem isLowerAscii_of_digit {c : PyChar} (h : isDigitAscii c = true) :
    isLowerAscii c = false := by
  simp [isDigitAscii, isLowerAscii] at h ⊢
  omega

theorem pyLower_of_lowerOrDigit {c : PyChar} (h : isLowerAscii c = true ∨ isDigitAscii c = true) :
    pyLower c = c := by
  rcases h with h | h <;> simp [pyLower, isUpperAscii_of_lower, isUpperAscii_of_digit, h]

theorem pyUpper_val {c : PyChar} (h : isLowerAscii c = true) : (pyUpper c).val = c.val - 32 := by
  rw [pyUpper, if_pos h]
  exact codePoint_val (by omega)

/-- A lowercase letter's uppercase is an uppercase letter, and lowercases back to it. -/
theorem pyUpper_of_lower {c : PyChar} (h : isLowerAscii c = true) :
    isUpperAscii (pyUpper c) = true ∧ pyLower (pyUpper c) = c := by
  have hv := pyUpper_val h
  simp only [isLowerAscii, Bool.and_eq_true, decide_eq_true_eq] at h
  have hu : isUpperAscii (pyUpper c) = true := by
    simp only [isUpperAscii, hv, Bool.and_eq_true, decide_eq_true_eq]
    omega
  refine ⟨hu, Fin.ext ?_⟩
  rw [pyLower, if_pos hu, codePoint_val (by omega), hv]
  omega

/-! ## §2 `to_camel_case` and `to_snake_case` -/

/-- `to_camel_case(snake_str)`: `components[0] + ''.join(x.title() for x in
components[1:])`, where `components = snake_str.split('_')`. -/
def toCamelCase (snakeStr : List PyChar) : List PyChar :=
  let components := snakeStr.splitOn underscore
  components.headD [] ++ (components.tail.map pyTitle).flatten

/-- One pass of `to_snake_case`'s loop: an uppercase character is written as `'_'` and its
lowercase. -/
def snakeChar (c : PyChar) : List PyChar :=
  if isUpperAscii c then [underscore, pyLower c] else [c]

/-- `to_snake_case(camel_str)`; `camel_str[0]` raises `IndexError` on `''`. -/
def toSnakeCase : List PyChar → Except PyExc (List PyChar)
  | [] => .error .indexError
  | c :: cs => .ok (pyLower c :: cs.flatMap snakeChar)

/-! ## §3 The dict conversions -/

mutual
/-- The branches of the conversion loop on a value, with `convertKey` the key conversion: a
dict is converted, a list has its dict items converted, and anything else is kept. -/
def convertValue (convertKey : List PyChar → Except PyExc (List PyChar)) :
    JsonValue → Except PyExc JsonValue
  | .object kvs => do return .object (dictOfPairs (← convertMembers convertKey kvs))
  | .array xs => do return .array (← convertItems convertKey xs)
  | v => .ok v

/-- The loop over `data.items()`: each key converted, then its value, in order. The dict is
then built by `result[key] = value` in the same order. -/
def convertMembers (convertKey : List PyChar → Except PyExc (List PyChar)) :
    List (List PyChar × JsonValue) → Except PyExc (List (List PyChar × JsonValue))
  | [] => .ok []
  | (k, v) :: kvs => do
    let key ← convertKey k
    let value ← convertValue convertKey v
    return (key, value) :: (← convertMembers convertKey kvs)

/-- The list comprehension `[convert(item) if isinstance(item, dict) else item for item in
value]`. -/
def convertItems (convertKey : List PyChar → Except PyExc (List PyChar)) :
    List JsonValue → Except PyExc (List JsonValue)
  | [] => .ok []
  | x :: xs => do return (← convertItem convertKey x) :: (← convertItems convertKey xs)

/-- One item of the list comprehension: a dict is converted, anything else kept. -/
def convertItem (convertKey : List PyChar → Except PyExc (List PyChar)) :
    JsonValue → Except PyExc JsonValue
  | .object kvs => do return .object (dictOfPairs (← convertMembers convertKey kvs))
  | x => .ok x
end

/-- The body shared by `convert_keys_to_camel_case` and `convert_keys_to_snake_case`: `data`
itself when it is not a dict. -/
def convertKeys (convertKey : List PyChar → Except PyExc (List PyChar)) :
    JsonValue → Except PyExc JsonValue
  | .object kvs => convertValue convertKey (.object kvs)
  | data => .ok data

/-- `convert_keys_to_camel_case(data)`. -/
def convertKeysToCamelCase (data : JsonValue) : Except PyExc JsonValue :=
  convertKeys (fun k => .ok (toCamelCase k)) data

/-- `convert_keys_to_snake_case(data)`. -/
def convertKeysToSnakeCase (data : JsonValue) : Except PyExc JsonValue :=
  convertKeys toSnakeCase data

/-! ## §4 Keys and the dicts a conversion visits -/

/-- A snake_case component: a lowercase ASCII letter, then lowercase ASCII letters and
digits. -/
def isSnakeComponent : List PyChar → Bool
  | c :: cs => isLowerAscii c && cs.all fun x => isLowerAscii x || isDigitAscii x
  | [] => false

/-- A snake_case identifier: snake_case components joined by single underscores. -/
def isSnakeKey (k : List PyChar) : Bool := (k.splitOn underscore).all isSnakeComponent

/-- No letter follows a digit: after a digit come only digits. -/
def digitsLast : List PyChar → Bool
  | a :: b :: rest => (!isDigitAscii a || isDigitAscii b) && digitsLast (b :: rest)
  | _ => true

/-- A snake_case key no component of which, after the first, has a letter after a digit:
`str.title()` capitalises such a component at its first letter only. -/
def isCamelSafeKey (k : List PyChar) : Bool :=
  isSnakeKey k && (k.splitOn underscore).tail.all digitsLast

/-- The keys of a dict satisfy `p` and are distinct. -/
def keysWith (p : List PyChar → Bool) (kvs : List (List PyChar × JsonValue)) : Bool :=
  kvs.all (fun kv => p kv.1) && decide (kvs.map Prod.fst).Nodup

mutual
/-- `p` holds of every dict the conversion visits in a value: a dict and, recursively, the
dicts among its values and the dict items of its list values. -/
def visitedDictsAll (p : List (List PyChar × JsonValue) → Bool) : JsonValue → Bool
  | .object kvs => p kvs && visitedMemberDictsAll p kvs
  | .array xs => visitedItemDictsAll p xs
  | _ => true

/-- `p` holds of every dict the conversion visits in the values of a dict. -/
def visitedMemberDictsAll (p : List (List PyChar × JsonValue) → Bool) :
    List (List PyChar × JsonValue) → Bool
  | [] => true
  | (_, v) :: kvs => visitedDictsAll p v && visitedMemberDictsAll p kvs

/-- `p` holds of every dict the conversion visits in the items of a list. -/
def visitedItemDictsAll (p : List (List PyChar × JsonValue) → Bool) : List JsonValue → Bool
  | [] => true
  | x :: xs => visitedItemDicts p x && visitedItemDictsAll p xs

/-- `p` holds of every dict the conversion visits in one item of a list: nothing in an item
that is not a dict. -/
def visitedItemDicts (p : List (List PyChar × JsonValue) → Bool) : JsonValue → Bool
  | .object kvs => p kvs && visitedMemberDictsAll p kvs
  | _ => true
end

mutual
/-- `p` holds of every dict at every depth of a value, lists of lists included. -/
def everyDict (p : List (List PyChar × JsonValue) → Bool) : JsonValue → Bool
  | .object kvs => p kvs && everyMemberDict p kvs
  | .array xs => everyItemDict p xs
  | _ => true

/-- `p` holds of every dict at every depth of the values of a dict. -/
def everyMemberDict (p : List (List PyChar × JsonValue) → Bool) :
    List (List PyChar × JsonValue) → Bool
  | [] => true
  | (_, v) :: kvs => everyDict p v && everyMemberDict p kvs

/-- `p` holds of every dict at every depth of the items of a list. -/
def everyItemDict (p : List (List PyChar × JsonValue) → Bool) : List JsonValue → Bool
  | [] => true
  | x :: xs => everyDict p x && everyItemDict p xs
end

/-! ## §5 One key -/

theorem pyTitleFrom_of_digits (b : Bool) :
    ∀ {s : List PyChar}, (∀ x ∈ s, isDigitAscii x = true) → pyTitleFrom b s = s
  | [], _ => rfl
  | x :: s, h => by
    have hx := h x (List.mem_cons_self _ _)
    rw [pyTitleFrom, pyTitleFrom_of_digits _ fun y hy => h y (List.mem_cons_of_mem _ hy)]
    split
    · rw [pyLower_of_lowerOrDigit (.inr hx)]
    · rw [pyUpper, if_neg (by simp [isLowerAscii_of_digit hx])]

theorem digitsLast_tail : ∀ {x : PyChar} {s : List PyChar},
    digitsLast (x :: s) = true → digitsLast s = true
  | _, [], _ => rfl
  | _, _ :: _, h => by
    simp only [digitsLast, Bool.and_eq_true] at h
    exact h.2

theorem digits_of_digitsLast {x : PyChar} (hx : isDigitAscii x = true) :
    ∀ {s : List PyChar}, digitsLast (x :: s) = true → ∀ y ∈ s, isDigitAscii y = true
  | [], _ => by simp
  | z :: s, h => by
    simp only [digitsLast, Bool.and_eq_true, Bool.or_eq_true, Bool.not_eq_true'] at h
    have hz : isDigitAscii z = true := h.1.resolve_left (by simp [hx])
    intro y hy
    rcases List.mem_cons.1 hy with rfl | hy
    · exact hz
    · exact digits_of_digitsLast hz h.2 y hy

/-- After a cased character, `str.title()` leaves lowercase letters followed by digits as
they are. -/
theorem pyTitleFrom_true_of_digitsLast :
    ∀ {s : List PyChar}, (∀ x ∈ s, isLowerAscii x = true ∨ isDigitAscii x = true) →
      digitsLast s = true → pyTitleFrom true s = s
  | [], _, _ => rfl
  | x :: s, h, hc => by
    have hx := h x (List.mem_cons_self _ _)
    rw [pyTitleFrom, if_pos rfl, pyLower_of_lowerOrDigit hx]
    rcases hx with hl | hd
    · rw [show pyIsCased x = true by simp [pyIsCased, hl],
        pyTitleFrom_true_of_digitsLast (fun y hy => h y (List.mem_cons_of_mem _ hy))
        (digitsLast_tail hc)]
    · rw [pyTitleFrom_of_digits _ (digits_of_digitsLast hd hc)]

theorem flatMap_snakeChar_of_lowerOrDigit :
    ∀ {s : List PyChar}, (∀ x ∈ s, isLowerAscii x = true ∨ isDigitAscii x = true) →
      s.flatMap snakeChar = s
  | [], _ => rfl
  | x :: s, h => by
    have hx := h x (List.mem_cons_self _ _)
    have hu : isUpperAscii x = false := hx.elim isUpperAscii_of_lower isUpperAscii_of_digit
    rw [List.flatMap_cons, flatMap_snakeChar_of_lowerOrDigit fun y hy => h y (List.mem_cons_of_mem _ hy),
      snakeChar, if_neg (by simp [hu])]
    rfl

/-- `str.title()` of a snake_case component without a letter after a digit: its first letter
uppercased. -/
theorem pyTitle_of_digitsLast {x : PyChar} {s : List PyChar}
    (hc : isSnakeComponent (x :: s) = true) (hd : digitsLast (x :: s) = true) :
    pyTitle (x :: s) = pyUpper x :: s := by
  simp only [isSnakeComponent, Bool.and_eq_true, List.all_eq_true, Bool.or_eq_true] at hc
  rw [pyTitle, pyTitleFrom, if_neg Bool.false_ne_true,
    show pyIsCased x = true by simp [pyIsCased, hc.1],
    pyTitleFrom_true_of_digitsLast hc.2 (digitsLast_tail hd)]

/-- A component after the first: titled, then read by `to_snake_case`'s loop, it is `'_'`
and the component. -/
theorem flatMap_snakeChar_pyTitle {c : List PyChar} (hc : isSnakeComponent c = true)
    (hd : digitsLast c = true) : (pyTitle c).flatMap snakeChar = underscore :: c := by
  obtain _ | ⟨x, s⟩ := c
  · simp [isSnakeComponent] at hc
  · rw [pyTitle_of_digitsLast hc hd]
    simp only [isSnakeComponent, Bool.and_eq_true, List.all_eq_true, Bool.or_eq_true] at hc
    obtain ⟨hu, hl⟩ := pyUpper_of_lower hc.1
    rw [List.flatMap_cons, flatMap_snakeChar_of_lowerOrDigit hc.2, snakeChar, if_pos hu, hl]
    rfl

theorem underscore_not_lowerOrDigit : ¬(isLowerAscii underscore = true ∨ isDigitAscii underscore = true) := by
  decide

/-- The components of a snake_case key hold no `'_'`. -/
theorem underscore_not_mem_of_isSnakeComponent {c : List PyChar}
    (hc : isSnakeComponent c = true) : underscore ∉ c := by
  obtain _ | ⟨x, s⟩ := c
  · simp [isSnakeComponent] at hc
  · simp only [isSnakeComponent, Bool.and_eq_true, List.all_eq_true, Bool.or_eq_true] at hc
    intro hmem
    rcases List.mem_cons.1 hmem with h | h
    · exact underscore_not_lowerOrDigit (.inl (h ▸ hc.1))
    · exact underscore_not_lowerOrDigit (hc.2 _ h)

/-- Nor does their `str.title()`. -/
theorem underscore_not_mem_pyTitle {c : List PyChar} (hc : isSnakeComponent c = true)
    (hd : digitsLast c = true) : underscore ∉ pyTitle c := by
  obtain _ | ⟨x, s⟩ := c
  · simp [isSnakeComponent] at hc
  · rw [pyTitle_of_digitsLast hc hd]
    have hs := underscore_not_mem_of_isSnakeComponent hc
    simp only [isSnakeComponent, Bool.and_eq_true] at hc
    intro hmem
    rcases List.mem_cons.1 hmem with h | h
    · have hu := (pyUpper_of_lower hc.1).1
      rw [← h] at hu
      revert hu
      decide
    · exact hs (List.mem_cons_of_mem _ h)

/-- `[x].intercalate` of a non-empty list of components, one component at a time. -/
theorem intercalate_cons (x : PyChar) (c : List PyChar) :
    ∀ cs : List (List PyChar), [x].intercalate (c :: cs) = c ++ (cs.map (x :: ·)).flatten
  | [] => by simp [List.intercalate]
  | d :: cs => by
    rw [List.intercalate, List.intersperse_cons_cons, List.flatten_cons, List.flatten_cons,
      ← List.intercalate, intercalate_cons x d cs]
    simp

/-- The components after the first, titled and read by `to_snake_case`'s loop. -/
theorem flatMap_snakeChar_titles : ∀ {cs : List (List PyChar)},
    (∀ c ∈ cs, isSnakeComponent c = true ∧ digitsLast c = true) →
      ((cs.map pyTitle).flatten).flatMap snakeChar = (cs.map (underscore :: ·)).flatten
  | [], _ => rfl
  | c :: cs, h => by
    have hc := h c (List.mem_cons_self _ _)
    rw [List.map_cons, List.flatten_cons, List.flatMap_append, flatMap_snakeChar_pyTitle hc.1 hc.2,
      flatMap_snakeChar_titles fun d hd => h d (List.mem_cons_of_mem _ hd)]
    rfl

/-- `to_snake_case` reads back the `to_camel_case` of every snake_case key no component of
which, after the first, has a letter after a digit. -/
theorem toSnakeCase_toCamelCase {k : List PyChar} (hk : isCamelSafeKey k = true) :
    toSnakeCase (toCamelCase k) = .ok k ∧ underscore ∉ toCamelCase k := by
  simp only [isCamelSafeKey, isSnakeKey, Bool.and_eq_true, List.all_eq_true,
    decide_eq_true_eq] at hk
  obtain ⟨hsnake, hdigits⟩ := hk
  have hsplit : [underscore].intercalate (k.splitOn underscore) = k := List.intercalate_splitOn k underscore
  obtain ⟨c, cs, hcs⟩ : ∃ c cs, k.splitOn underscore = c :: cs :=
    List.exists_cons_of_ne_nil (List.splitOnP_ne_nil _ _)
  rw [hcs] at hsplit hsnake hdigits
  obtain _ | ⟨x, s⟩ := c
  · simp [isSnakeComponent] at hsnake
  have hc := hsnake (x :: s) (List.mem_cons_self _ _)
  simp only [isSnakeComponent, Bool.and_eq_true, List.all_eq_true, Bool.or_eq_true] at hc
  have htitles := flatMap_snakeChar_titles fun d hd =>
    ⟨hsnake d (List.mem_cons_of_mem _ hd), hdigits d (by simpa using hd)⟩
  have hcamel : toCamelCase k = x :: (s ++ (cs.map pyTitle).flatten) := by
    rw [toCamelCase, hcs]
    rfl
  refine ⟨?_, ?_⟩
  · rw [hcamel, toSnakeCase, List.flatMap_append, flatMap_snakeChar_of_lowerOrDigit hc.2, htitles,
      pyLower_of_lowerOrDigit (.inl hc.1), ← hsplit, intercalate_cons]
    rfl
  · rw [hcamel, ← List.cons_append, List.mem_append, List.mem_flatten]
    rintro (h | ⟨t, ht, hmem⟩)
    · exact underscore_not_mem_of_isSnakeComponent (hsnake _ (List.mem_cons_self _ _)) h
    · obtain ⟨d, hd, rfl⟩ := List.mem_map.1 ht
      exact underscore_not_mem_pyTitle (hsnake d (List.mem_cons_of_mem _ hd))
        (hdigits d (by simpa using hd)) hmem

/-! ## §6 The dict round trip -/

section RoundTrip

variable {f : List PyChar → List PyChar} {g : List PyChar → Except PyExc (List PyChar)}
  {P Q : List PyChar → Bool}

/-- Keys on which `g` undoes `f` stay distinct under `f`. -/
theorem nodup_map_of_leftInverse (hg : ∀ k, P k = true → g (f k) = .ok k)
    {ks : List (List PyChar)} (hp : ∀ k ∈ ks, P k = true) (hnd : ks.Nodup) : (ks.map f).Nodup :=
  hnd.map_on fun a ha b hb hab => by
    have h := hg a (hp a ha)
    rw [hab, hg b (hp b hb)] at h
    exact (Except.ok.inj h).symm

/-- A dict whose keys satisfy `P` and are distinct, its members converted by `f` and read
back by `g`: both dicts are rebuilt as they are, and the converted one has distinct keys
satisfying `Q`. -/
theorem dictOfPairs_of_leftInverse (hg : ∀ k, P k = true → g (f k) = .ok k)
    (hq : ∀ k, P k = true → Q (f k) = true) {kvs m : List (List PyChar × JsonValue)}
    (hk : keysWith P kvs = true) (hkeys : m.map Prod.fst = (kvs.map Prod.fst).map f) :
    dictOfPairs m = m ∧ dictOfPairs kvs = kvs ∧ keysWith Q m = true := by
  simp only [keysWith, Bool.and_eq_true, List.all_eq_true, decide_eq_true_eq] at hk
  have hp : ∀ k ∈ kvs.map Prod.fst, P k = true := by simpa using hk.1
  have hnd : (m.map Prod.fst).Nodup := hkeys ▸ nodup_map_of_leftInverse hg hp hk.2
  refine ⟨dictOfPairs_of_nodup hnd, dictOfPairs_of_nodup hk.2, ?_⟩
  simp only [keysWith, Bool.and_eq_true, List.all_eq_true, decide_eq_true_eq]
  refine ⟨fun kv hkv => ?_, hnd⟩
  have hmem : kv.1 ∈ (kvs.map Prod.fst).map f := hkeys ▸ List.mem_map_of_mem _ hkv
  obtain ⟨k, hk', hfk⟩ := List.mem_map.1 hmem
  exact hfk ▸ hq k (hp k hk')

mutual
/-- A value whose visited dicts have distinct keys satisfying `P`, converted by `f` and read
back by `g`: the conversion gives a value whose visited dicts have distinct keys satisfying
`Q`, and `g` gives the value back. -/
theorem convertValue_leftInverse (hg : ∀ k, P k = true → g (f k) = .ok k)
    (hq : ∀ k, P k = true → Q (f k) = true) :
    ∀ v : JsonValue, visitedDictsAll (keysWith P) v = true →
      ∃ v', convertValue (fun k => .ok (f k)) v = .ok v' ∧ convertValue g v' = .ok v ∧
        visitedDictsAll (keysWith Q) v' = true
  | .object kvs, h => by
    simp only [visitedDictsAll, Bool.and_eq_true] at h
    obtain ⟨m, hm, hkeys, hmb, hmq⟩ := convertMembers_leftInverse hg hq kvs h.1 h.2
    obtain ⟨hd, hd', hkq⟩ := dictOfPairs_of_leftInverse hg hq h.1 hkeys
    exact ⟨.object m, by simp [convertValue, hm, hd], by simp [convertValue, hmb, hd'],
      by simp [visitedDictsAll, hkq, hmq]⟩
  | .array xs, h => by
    obtain ⟨ys, hy, hyb, hyq⟩ := convertItems_leftInverse hg hq xs h
    exact ⟨.array ys, by simp [convertValue, hy], by simp [convertValue, hyb], hyq⟩
  | .null, _ | .bool _, _ | .int _, _ | .float _, _ | .str _, _ => ⟨_, rfl, rfl, rfl⟩

theorem convertMembers_leftInverse (hg : ∀ k, P k = true → g (f k) = .ok k)
    (hq : ∀ k, P k = true → Q (f k) = true) :
    ∀ kvs : List (List PyChar × JsonValue), keysWith P kvs = true →
      visitedMemberDictsAll (keysWith P) kvs = true →
      ∃ m, convertMembers (fun k => .ok (f k)) kvs = .ok m ∧
        m.map Prod.fst = (kvs.map Prod.fst).map f ∧ convertMembers g m = .ok kvs ∧
        visitedMemberDictsAll (keysWith Q) m = true
  | [], _, _ => ⟨[], rfl, rfl, rfl, rfl⟩
  | (k, v) :: kvs, hk, h => by
    simp only [visitedMemberDictsAll, Bool.and_eq_true] at h
    simp only [keysWith, List.all_cons, List.map_cons, List.nodup_cons, Bool.and_eq_true,
      decide_eq_true_eq] at hk
    obtain ⟨v', hv, hvb, hvq⟩ := convertValue_leftInverse hg hq v h.1
    obtain ⟨m, hm, hkeys, hmb, hmq⟩ := convertMembers_leftInverse hg hq kvs
      (by simp [keysWith, hk.1.2, hk.2.2]) h.2
    refine ⟨(f k, v') :: m, by simp [convertMembers, hv, hm], by simp [hkeys],
      by simp [convertMembers, hg k hk.1.1, hvb, hmb], by simp [visitedMemberDictsAll, hvq, hmq]⟩

theorem convertItems_leftInverse (hg : ∀ k, P k = true → g (f k) = .ok k)
    (hq : ∀ k, P k = true → Q (f k) = true) :
    ∀ xs : List JsonValue, visitedItemDictsAll (keysWith P) xs = true →
      ∃ ys, convertItems (fun k => .ok (f k)) xs = .ok ys ∧ convertItems g ys = .ok xs ∧
        visitedItemDictsAll (keysWith Q) ys = true
  | [], _ => ⟨[], rfl, rfl, rfl⟩
  | x :: xs, h => by
    simp only [visitedItemDictsAll, Bool.and_eq_true] at h
    obtain ⟨x', hx, hxb, hxq⟩ := convertItem_leftInverse hg hq x h.1
    obtain ⟨ys, hy, hyb, hyq⟩ := convertItems_leftInverse hg hq xs h.2
    exact ⟨x' :: ys, by simp [convertItems, hx, hy], by simp [convertItems, hxb, hyb],
      by simp [visitedItemDictsAll, hxq, hyq]⟩

theorem convertItem_leftInverse (hg : ∀ k, P k = true → g (f k) = .ok k)
    (hq : ∀ k, P k = true → Q (f k) = true) :
    ∀ x : JsonValue, visitedItemDicts (keysWith P) x = true →
      ∃ x', convertItem (fun k => .ok (f k)) x = .ok x' ∧ convertItem g x' = .ok x ∧
        visitedItemDicts (keysWith Q) x' = true
  | .object kvs, h => by
    simp only [visitedItemDicts, Bool.and_eq_true] at h
    obtain ⟨m, hm, hkeys, hmb, hmq⟩ := convertMembers_leftInverse hg hq kvs h.1 h.2
    obtain ⟨hd, hd', hkq⟩ := dictOfPairs_of_leftInverse hg hq h.1 hkeys
    exact ⟨.object m, by simp [convertItem, hm, hd], by simp [convertItem, hmb, hd'],
      by simp [visitedItemDicts, hkq, hmq]⟩
  | .null, _ | .bool _, _ | .int _, _ | .float _, _ | .str _, _ | .array _, _ =>
    ⟨_, rfl, rfl, rfl⟩
end

end RoundTrip

/-! ## §7 The camelCase round trip -/

theorem convertValue_object_ok {convertKey : List PyChar → Except PyExc (List PyChar)}
    {kvs : List (List PyChar × JsonValue)} {d : JsonValue}
    (h : convertValue convertKey (.object kvs) = .ok d) : ∃ m, d = .object m := by
  simp only [convertValue] at h
  cases hm : convertMembers convertKey kvs with
  | error e => simp [hm] at h
  | ok m => exact ⟨dictOfPairs m, by simpa [hm] using h.symm⟩

/-- For every dict whose keys, in every dict the conversion visits, are distinct snake_case
keys with no letter after a digit in a component after the first:
`convert_keys_to_camel_case` gives a dict whose keys, in every dict the conversion visits,
are distinct and free of `'_'`, and `convert_keys_to_snake_case` gives the dict back. -/
theorem convertKeys_camel_snake_roundTrip (kvs : List (List PyChar × JsonValue))
    (h : visitedDictsAll (keysWith isCamelSafeKey) (.object kvs) = true) :
    ∃ d, convertKeysToCamelCase (.object kvs) = .ok d ∧
      visitedDictsAll (keysWith fun k => decide (underscore ∉ k)) d = true ∧
      convertKeysToSnakeCase d = .ok (.object kvs) := by
  obtain ⟨d, hd, hdb, hdq⟩ := convertValue_leftInverse (f := toCamelCase) (g := toSnakeCase)
    (Q := fun k => decide (underscore ∉ k)) (fun k hk => (toSnakeCase_toCamelCase hk).1)
    (fun k hk => by simpa using (toSnakeCase_toCamelCase hk).2) _ h
  obtain ⟨m, rfl⟩ := convertValue_object_ok hd
  exact ⟨.object m, hd, hdq, hdb⟩

/-- A dict with a list of one dict and a plain value under `'block_id'`, and a string under
`'fee'`. -/
theorem convertKeys_camel_snake_roundTrip_blockId :
    visitedDictsAll (keysWith isCamelSafeKey)
        (.object [("block_id".toList.map pyCharOf,
            .array [.object [("tx_count2".toList.map pyCharOf, .int 1)], .int 3]),
          ("fee".toList.map pyCharOf, .str [])]) = true ∧
      ∃ d, convertKeysToCamelCase
          (.object [("block_id".toList.map pyCharOf,
              .array [.object [("tx_count2".toList.map pyCharOf, .int 1)], .int 3]),
            ("fee".toList.map pyCharOf, .str [])]) = .ok d ∧
        visitedDictsAll (keysWith fun k => decide (underscore ∉ k)) d = true ∧
        convertKeysToSnakeCase d =
          .ok (.object [("block_id".toList.map pyCharOf,
              .array [.object [("tx_count2".toList.map pyCharOf, .int 1)], .int 3]),
            ("fee".toList.map pyCharOf, .str [])]) :=
  ⟨by decide, convertKeys_camel_snake_roundTrip _ (by decide)⟩

/-- Two snake_case dicts the round trip misses. A dict in a list of lists is not visited, so
its key `'a_b'` stays. `'b1c'.title()` is `'B1C'`, so the key `'a_b1c'` becomes `'aB1C'`,
and `to_snake_case` reads that as `'a_b1_c'`. -/
theorem convertKeys_camel_snake_counterexamples :
    everyDict (keysWith isSnakeKey)
        (.object [("x".toList.map pyCharOf,
          .array [.array [.object [("a_b".toList.map pyCharOf, .int 1)]]])]) = true ∧
      convertKeysToCamelCase
          (.object [("x".toList.map pyCharOf,
            .array [.array [.object [("a_b".toList.map pyCharOf, .int 1)]]])]) =
        .ok (.object [("x".toList.map pyCharOf,
          .array [.array [.object [("a_b".toList.map pyCharOf, .int 1)]]])]) ∧
      everyDict (keysWith fun k => decide (underscore ∉ k))
        (.object [("x".toList.map pyCharOf,
          .array [.array [.object [("a_b".toList.map pyCharOf, .int 1)]]])]) = false ∧
      everyDict (keysWith isSnakeKey) (.object [("a_b1c".toList.map pyCharOf, .int 1)]) = true ∧
      convertKeysToCamelCase (.object [("a_b1c".toList.map pyCharOf, .int 1)]) =
        .ok (.object [("aB1C".toList.map pyCharOf, .int 1)]) ∧
      convertKeysToSnakeCase (.object [("aB1C".toList.map pyCharOf, .int 1)]) =
        .ok (.object [("a_b1_c".toList.map pyCharOf, .int 1)]) ∧
      "a_b1_c".toList.map pyCharOf ≠ "a_b1c".toList.map pyCharOf :=
  ⟨by decide, rfl, by decide, by decide, rfl, rfl, by decide⟩

end ShardX.Sdk
