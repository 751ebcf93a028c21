import Mathlib.Algebra.Order.Ring.Nat
import Mathlib.Tactic.Ring

/-!
# A number and its low word

`low w n` are the `w` low bits of `n`, `high w n` the rest, so `n = low + 2^w * high`
(`low_add_high`).  Arithmetic that is done on low words and compared with the full numbers is
exact under a condition on the high parts alone:

* `low_add_low_eq_iff`   `low a + low b = a + b` exactly when both high parts vanish;
* `add_sub_low_eq_iff`   a full number plus the difference of the low words is the other full
                         number exactly when the two high parts agree;
* `low_lt_exact_iff`, `low_le_exact_iff`   bounds and comparisons.
-/

namespace LowBits

def low (w n : Nat) : Nat := n % 2^w
def high (w n : Nat) : Nat := n / 2^w

theorem low_add_high (w n : Nat) : low w n + 2^w * high w n = n := Nat.mod_add_div n (2^w)

theorem low_lt (w n : Nat) : low w n < 2^w := Nat.mod_lt n (Nat.two_pow_pos w)

theorem low_le (w n : Nat) : low w n ≤ n := Nat.mod_le n (2^w)

theorem low_of_lt {w n : Nat} (h : n < 2^w) : low w n = n := Nat.mod_eq_of_lt h

theorem high_eq_zero_iff {w n : Nat} : high w n = 0 ↔ n < 2^w :=
  Nat.div_eq_zero_iff_lt (Nat.two_pow_pos w)

theorem low_eq_self_iff {w n : Nat} : low w n = n ↔ high w n = 0 := by
  rw [high_eq_zero_iff]
  exact ⟨fun h => h ▸ low_lt w n, low_of_lt⟩

theorem low_add_low_eq_iff {w a b : Nat} :
    low w a + low w b = a + b ↔ high w a = 0 ∧ high w b = 0 := by
  have ha := low_le w a
  have hb := low_le w b
  rw [← low_eq_self_iff, ← low_eq_self_iff]
  omega

theorem add_sub_low_eq_iff {w a b : Nat} (h : low w b ≤ low w a) :
    b + (low w a - low w b) = a ↔ high w b = high w a := by
  have ea := low_add_high w a
  have eb := low_add_high w b
  have hpos := Nat.two_pow_pos w
  constructor
  · intro hab
    have hmul : 2^w * high w b = 2^w * high w a := by omega
    exact Nat.eq_of_mul_eq_mul_left hpos hmul
  · intro hab
    rw [hab] at eb
    omega

theorem lt_of_high_lt {w a b : Nat} (h : high w a < high w b) : a < b := Nat.lt_of_div_lt_div h

/-- numbers with one high part are in the order of their low words -/
theorem low_le_low_iff {w a b : Nat} (h : high w a = high w b) :
    low w a ≤ low w b ↔ a ≤ b := by
  have ea := low_add_high w a
  have eb := low_add_high w b
  rw [h] at ea
  omega

/-- a low word is below a bound with the full number, unless there is a high part -/
theorem low_lt_exact_iff {w k n : Nat} (hk : k ≤ w) :
    (low w n < 2^k ↔ n < 2^k) ↔ high w n = 0 ∨ 2^k ≤ low w n := by
  have hpow : 2^k ≤ 2^w := Nat.pow_le_pow_right (by decide) hk
  have hle := low_le w n
  by_cases hhigh : high w n = 0
  · rw [low_eq_self_iff.mpr hhigh]
    exact iff_of_true Iff.rfl (Or.inl hhigh)
  · rw [high_eq_zero_iff, Nat.not_lt] at hhigh
    rw [high_eq_zero_iff]
    omega

/-- low words are compared as the full numbers, unless the high parts order these otherwise -/
theorem low_le_exact_iff {w a b : Nat} : (low w b ≤ low w a ↔ b ≤ a) ↔
    (high w b < high w a → low w b ≤ low w a) ∧ (high w a < high w b → low w a < low w b) := by
  rcases Nat.lt_trichotomy (high w a) (high w b) with h | h | h
  · have hlt := lt_of_high_lt h
    omega
  · have hle := low_le_low_iff h.symm
    omega
  · have hlt := lt_of_high_lt h
    omega

end LowBits
