import Mathlib.Data.ZMod.Basic
import Crucible.Lib.Checked
import Crucible.Lib.LowBits

/-!
# Noir values: field elements, `u64`, and the hash functions of the standard library

* `Field`        the BN254 scalar field; the canonical integer of `x` is `x.val`;
* `asU64`        the cast `x as u64`: the 64 low bits of the canonical integer, no constraint;
* `asField`      the cast back, exact because `2^64 < modulus` (`asField_val`);
* `u64Add`, `u64Sub`   `+` and `-` on `u64`, which fail on overflow;
* `Std`          the two Pedersen functions, which live outside the repository.

A circuit is evaluated to an `Except String`: its value, or the message of the assertion that
failed first.
-/

namespace Crucible
open Checked LowBits

/-! ## field elements and `u64` -/

/-- the order of the BN254 scalar field -/
def modulus : Nat :=
  21888242871839275222246405745257275088548364400416034343698204186575808495617

instance : NeZero modulus := ⟨by decide⟩

theorem two_pow_64_lt_modulus : 2^64 < modulus := by decide

/-- Noir's `Field` -/
abbrev Field := ZMod modulus

/-- the field element a recorded number stands for -/
def felt (n : Nat) : Field := n

/-- `x as u64` -/
def asU64 (x : Field) : UInt64 := UInt64.ofNat x.val

/-- `n as Field` -/
def asField (n : UInt64) : Field := (n.toNat : Field)

theorem asU64_toNat (x : Field) : (asU64 x).toNat = low 64 x.val := UInt64.toNat_ofNat'

theorem asField_val (n : UInt64) : (asField n).val = n.toNat :=
  ZMod.val_natCast_of_lt (lt_trans n.toNat_lt two_pow_64_lt_modulus)

/-- `a + b` on `u64` -/
def u64Add (a b : UInt64) : Except String UInt64 := do
  ensure (a.toNat + b.toNat < 2^64) "attempt to add with overflow"
  return a + b

/-- `a - b` on `u64` -/
def u64Sub (a b : UInt64) : Except String UInt64 := do
  ensure (b.toNat ≤ a.toNat) "attempt to subtract with overflow"
  return a - b

theorem u64Add_ok {a b c : UInt64} : u64Add a b = .ok c ↔ c.toNat = a.toNat + b.toNat := by
  have hc := c.toNat_lt
  simp only [u64Add, bind_ok, ensure_ok, pure_ok, exists_const]
  constructor
  · rintro ⟨h, rfl⟩
    rw [UInt64.toNat_add, Nat.mod_eq_of_lt h]
  · intro h
    refine ⟨by omega, UInt64.toNat.inj ?_⟩
    rw [UInt64.toNat_add, ← h, Nat.mod_eq_of_lt hc]

theorem u64Sub_ok {a b c : UInt64} :
    u64Sub a b = .ok c ↔ b.toNat ≤ a.toNat ∧ c.toNat = a.toNat - b.toNat := by
  simp only [u64Sub, bind_ok, ensure_ok, pure_ok, exists_const]
  refine and_congr_right fun h => ?_
  rw [← UInt64.toNat_sub_of_le _ _ h]
  exact ⟨fun e => e ▸ rfl, fun e => UInt64.toNat.inj e.symm⟩

/-! ## the standard library -/

/-- `std::embedded_curve_ops::EmbeddedCurvePoint` -/
structure EmbeddedCurvePoint where
  x : Field
  y : Field

/-- `std::hash`: the Pedersen hash of a field array, and the Pedersen commitment to one -/
structure Std where
  pedersenHash : List Field → Field
  pedersenCommitment : List Field → EmbeddedCurvePoint

end Crucible
