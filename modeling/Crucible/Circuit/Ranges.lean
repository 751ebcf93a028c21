import Crucible.Circuit.Lib

/-!
# The range checks on the whole field (`circuits/lib/src/constraints/range.nr`)

Both checks read low words only; what they say of the field elements depends on the high parts.

* `assertInBits_exact_iff`     the elements that are checked as their integers are;
* `assertNoOverdraw_exact_iff` the pairs that are compared as their integers are;
* `range_checks_exact_iff`     both, for every element and every width.
-/

namespace Crucible
open Checked LowBits

section
variable {value x y : Field} {bits : UInt64}

/-- an element is checked as its integer where it has no high part, or its low word is out of range
on its own -/
theorem assertInBits_exact_iff (hbits : bits.toNat ≤ 64) :
    (assertInBits value bits = .ok () ↔ value.val < 2^bits.toNat) ↔
      value.val < 2^64 ∨ 2^bits.toNat ≤ low 64 value.val := by
  rw [assertInBits_ok, and_iff_right hbits, low_lt_exact_iff hbits, high_eq_zero_iff]

/-- two elements are compared as their integers where their high parts are equal, or are in the
order of the low words -/
theorem assertNoOverdraw_exact_iff :
    (assertNoOverdraw x y = .ok () ↔ y.val ≤ x.val) ↔
      (high 64 y.val < high 64 x.val → low 64 y.val ≤ low 64 x.val) ∧
      (high 64 x.val < high 64 y.val → low 64 x.val < low 64 y.val) := by
  rw [assertNoOverdraw_ok, low_le_exact_iff]

end

/-- **Where the range checks are exact**: `assert_in_bits`, at every width up to 64, for the
elements below `2^64` and those whose low word alone is too wide; `assert_no_overdraw`, of two
elements that passed the check of amounts, where the high parts do not order them otherwise than the
low words do. -/
theorem range_checks_exact_iff (value x y : Field) (bits : UInt64) :
    (bits.toNat ≤ 64 →
      ((assertInBits value bits = .ok () ↔ value.val < 2^bits.toNat) ↔
        value.val < 2^64 ∨ 2^bits.toNat ≤ low 64 value.val)) ∧
    (assertInBits x amountBits = .ok () → assertInBits y amountBits = .ok () →
      ((assertNoOverdraw x y = .ok () ↔ y.val ≤ x.val) ↔
        (high 64 y.val < high 64 x.val → low 64 y.val ≤ low 64 x.val) ∧
        (high 64 x.val < high 64 y.val → low 64 x.val < low 64 y.val))) :=
  ⟨assertInBits_exact_iff, fun _ _ => assertNoOverdraw_exact_iff⟩

theorem range_checks_exact_iff_small :
    (assertInBits (felt 1000) amountBits = .ok () ↔
      (felt 1000).val < 2^amountBits.toNat) ∧
    (assertNoOverdraw (felt 500) (felt 100) = .ok () ↔ (felt 100).val ≤ (felt 500).val) := by
  obtain ⟨hrange, hoverdraw⟩ :=
    range_checks_exact_iff (felt 1000) (felt 500) (felt 100) amountBits
  exact ⟨(hrange (by decide)).mpr (by decide),
    (hoverdraw (by decide) (by decide)).mpr (by decide)⟩

/-- `2^64` passes as an amount, and can be spent from nothing -/
theorem wide_amount_passes :
    assertInBits (felt (2^64)) amountBits = .ok () ∧ ¬ (felt (2^64)).val < 2^63 ∧
    assertInBits (felt 0) amountBits = .ok () ∧
    assertNoOverdraw (felt 0) (felt (2^64)) = .ok () ∧ ¬ (felt (2^64)).val ≤ (felt 0).val := by
  decide

end Crucible
