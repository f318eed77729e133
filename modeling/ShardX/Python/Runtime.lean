import Mathlib.Order.Lattice
import Mathlib.Data.List.Basic

/-!
# Python Runtime: Exceptions, Arithmetic and Builtins

The parts of CPython's runtime that the modelled code calls, as total functions into
`Except PyExc`:

- `min` / `max` raise `ValueError` on an empty sequence and otherwise keep the first
  element no later element is `<` (for `min`) or `>` (for `max`);
- `xs[i]` raises `IndexError` out of range.

The floats, the codecs and `json` add their own exceptions to `PyExc`. Python ints are `ℤ`
(or `ℕ` where the producer only ever builds non-negative ones).
-/

namespace ShardX.Python

/-- The exceptions the modelled code can raise. -/
inductive PyExc where
  | zeroDivisionError
  | valueError
  | indexError
  /-- `binascii.Error`: odd length or a non-hex digit. -/
  | binasciiError
  /-- `UnicodeDecodeError` of the strict `utf-8` codec. -/
  | unicodeDecodeError
  /-- `UnicodeEncodeError`: `utf-8` cannot encode a lone surrogate. -/
  | unicodeEncodeError
  /-- `json.JSONDecodeError`. -/
  | jsonDecodeError
  /-- `OverflowError`: an int too large for a float, a float too large for a time span. -/
  | overflowError
  /-- `RecursionError`: `json` nesting deeper than the interpreter allows. -/
  | recursionError
  deriving DecidableEq, Repr

/-! ## §1 The `Except` monad -/

section ExceptLemmas

variable {ε α β : Type}

@[simp] theorem except_pure_eq (a : α) : (pure a : Except ε α) = .ok a := rfl

@[simp] theorem except_ok_bind (a : α) (f : α → Except ε β) : (Except.ok a >>= f) = f a := rfl

@[simp] theorem option_some_bind (a : α) (f : α → Option β) : (some a >>= f) = f a := rfl

@[simp] theorem except_error_bind (e : ε) (f : α → Except ε β) :
    (Except.error e >>= f) = .error e := rfl

@[simp] theorem except_mapError_ok {ε' : Type} (f : ε → ε') (a : α) :
    (Except.ok a : Except ε α).mapError f = .ok a := rfl

@[simp] theorem except_mapError_error {ε' : Type} (f : ε → ε') (e : ε) :
    (Except.error e : Except ε α).mapError f = .error (f e) := rfl

@[simp] theorem except_map_ok (f : α → β) (a : α) :
    (Except.ok a : Except ε α).map f = .ok (f a) := rfl

@[simp] theorem except_map_error (f : α → β) (e : ε) :
    (Except.error e : Except ε α).map f = .error e := rfl

theorem except_bind_eq_ok {x : Except ε α} {f : α → Except ε β} {b : β} :
    (x >>= f) = .ok b ↔ ∃ a, x = .ok a ∧ f a = .ok b := by
  cases x <;> simp

theorem except_bind_eq_error {x : Except ε α} {f : α → Except ε β} {e : ε} :
    (x >>= f) = .error e ↔ x = .error e ∨ ∃ a, x = .ok a ∧ f a = .error e := by
  cases x <;> simp

theorem except_map_eq_ok {x : Except ε α} {f : α → β} {b : β} :
    x.map f = .ok b ↔ ∃ a, x = .ok a ∧ f a = b := by
  cases x <;> simp [Except.map]

/-- The computation returns without raising. -/
def IsOk (x : Except ε α) : Prop := ∃ a, x = .ok a

@[simp] theorem exists_eq_ok_iff_isOk (x : Except ε α) : (∃ a, x = .ok a) ↔ IsOk x := Iff.rfl

@[simp] theorem isOk_ok (a : α) : IsOk (Except.ok a : Except ε α) := ⟨a, rfl⟩

@[simp] theorem not_isOk_error (e : ε) : ¬IsOk (Except.error e : Except ε α) := by
  rintro ⟨_, h⟩
  cases h

@[simp] theorem isOk_bind {x : Except ε α} {f : α → Except ε β} :
    IsOk (x >>= f) ↔ ∃ a, x = .ok a ∧ IsOk (f a) := by
  cases x <;> simp

/-- A loop over `l` whose body either appends one element to the accumulator or raises
`e i`: it appends the elements of every index, or raises the exception of the first index
that fails. -/
theorem foldlM_append_or_raise {ι : Type} {f : List β → ι → Except ε (List β)}
    {P : ι → Prop} [DecidablePred P] {g : ι → β} {e : ι → ε} (l : List ι)
    (hf : ∀ acc, ∀ i ∈ l, f acc i = if P i then .ok (acc ++ [g i]) else .error (e i))
    (acc : List β) :
    l.foldlM f acc =
      (l.find? fun i => !decide (P i)).elim (.ok (acc ++ l.map g)) fun i => .error (e i) := by
  induction l generalizing acc with
  | nil => simp
  | cons i l ih =>
    have hl : ∀ acc, ∀ j ∈ l, f acc j = if P j then .ok (acc ++ [g j]) else .error (e j) :=
      fun acc j hj => hf acc j (List.mem_cons_of_mem i hj)
    rw [List.foldlM_cons, hf acc i (List.mem_cons_self i l)]
    by_cases hi : P i
    · simp [hi, ih hl]
    · simp [hi]

/-- `try: x` followed by `except (E₁, …, Eₙ): handler`, for the exceptions in `caught`. -/
def pyTry (x : Except PyExc α) (caught : List PyExc) (handler : Except PyExc α) :
    Except PyExc α :=
  match x with
  | .ok a => .ok a
  | .error e => if e ∈ caught then handler else .error e

@[simp] theorem pyTry_ok (a : α) (caught : List PyExc) (handler : Except PyExc α) :
    pyTry (.ok a) caught handler = .ok a := rfl

theorem pyTry_error_of_mem {e : PyExc} {caught : List PyExc} (h : e ∈ caught)
    (handler : Except PyExc α) : pyTry (.error e) caught handler = handler := if_pos h

/-- A `try` statement returns when its body does, or when the body raises an exception
that is caught and the handler returns. -/
theorem isOk_pyTry {x : Except PyExc α} {caught : List PyExc} {handler : Except PyExc α} :
    IsOk (pyTry x caught handler) ↔ IsOk x ∨ ∃ e, x = .error e ∧ e ∈ caught ∧ IsOk handler := by
  cases x with
  | ok a => simp
  | error e => by_cases h : e ∈ caught <;> simp [pyTry, h]

end ExceptLemmas

/-! ## §1b Append loops -/

section AppendLoops

variable {α β : Type}

/-- `for x in l: if p(x): acc.append(f(x))`. -/
theorem foldl_append_if (p : α → Prop) [DecidablePred p] (f : α → β) (l : List α)
    (acc : List β) :
    l.foldl (fun acc x => if p x then acc ++ [f x] else acc) acc =
      acc ++ (l.filter fun x => decide (p x)).map f := by
  induction l generalizing acc with
  | nil => simp
  | cons x l ih => by_cases h : p x <;> simp [h, ih]

/-- `for x in l: acc.append(f(x))`. -/
theorem foldl_append_map (f : α → β) (l : List α) (acc : List β) :
    l.foldl (fun acc x => acc ++ [f x]) acc = acc ++ l.map f := by
  induction l generalizing acc with
  | nil => simp
  | cons x l ih => simp [ih]

end AppendLoops

/-! ## §2 `min`, `max` and indexing -/

section MinMax

variable {α β : Type} (lt : α → α → Bool)

/-- `min(xs)`: the running minimum is replaced only by an element that is `<` it. -/
def pyMin : List α → Except PyExc α
  | [] => .error .valueError
  | x :: xs => .ok (xs.foldl (fun m y => if lt y m then y else m) x)

/-- `max(xs)`: the running maximum is replaced only by an element it is `<`. -/
def pyMax : List α → Except PyExc α
  | [] => .error .valueError
  | x :: xs => .ok (xs.foldl (fun m y => if lt m y then y else m) x)

variable {lt} [LinearOrder β] {key : α → β}

end MinMax

/-- `xs[i]` for an index `i ≥ 0`. -/
def pyGetItem {α : Type} (xs : List α) (i : ℕ) : Except PyExc α :=
  match xs[i]? with
  | some x => .ok x
  | none => .error .indexError

@[simp] theorem pyGetItem_of_lt {α : Type} {xs : List α} {i : ℕ} (h : i < xs.length) :
    pyGetItem xs i = .ok xs[i] := by
  simp [pyGetItem, List.getElem?_eq_getElem h]

end ShardX.Python
