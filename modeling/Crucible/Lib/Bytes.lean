import Mathlib.Tactic.Ring
import Crucible.Lib.Hex

/-!
# Bytes: little-endian numbers, and texts cut into parts of one length

* `leBytes`, `leValue`     a number as its low bytes, least significant first, and back;
* `beValue`                the number of a text whose first byte is the most significant;
                           `hexValue_hexEncode`: it is that of its digits;
* `cut`, `asChunks`        parts of one length; `asChunks_flatten`, `flatten_asChunks`: what was
                           joined is cut again, and what was cut is joined again.
-/

namespace Bytes

/-! ## numbers -/

/-- the `k` low bytes of `n`, least significant first -/
def leBytes : Nat → Nat → List UInt8
  | 0, _ => []
  | k + 1, n => UInt8.ofNat n :: leBytes k (n / 256)

def leValue : List UInt8 → Nat
  | [] => 0
  | b :: bs => b.toNat + 256 * leValue bs

section
variable {k n : Nat} {bs : List UInt8}

@[simp] theorem length_leBytes : (leBytes k n).length = k := by
  induction k generalizing n with
  | zero => rfl
  | succ k ih => rw [leBytes, List.length_cons, ih]

/-- what is above the bytes is lost -/
theorem leValue_leBytes : leValue (leBytes k n) = n % 256 ^ k := by
  induction k generalizing n with
  | zero => rw [leBytes, leValue, Nat.pow_zero, Nat.mod_one]
  | succ k ih =>
    have hbyte : (UInt8.ofNat n).toNat = n % 256 := rfl
    rw [leBytes, leValue, ih, hbyte, Nat.pow_succ', Nat.mod_mul]

theorem leBytes_leValue (bs : List UInt8) : leBytes bs.length (leValue bs) = bs := by
  induction bs with
  | nil => rfl
  | cons b bs ih =>
    have hb := b.toNat_lt
    have hlow : UInt8.ofNat (b.toNat + 256 * leValue bs) = b := by
      refine UInt8.toNat_inj.mp ?_
      show (b.toNat + 256 * leValue bs) % 256 = b.toNat
      omega
    have hhigh : (b.toNat + 256 * leValue bs) / 256 = leValue bs := by omega
    rw [List.length_cons, leValue, leBytes, hlow, hhigh, ih]

/-- only the low part of a number is written -/
theorem leBytes_mod : leBytes k (n % 256 ^ k) = leBytes k n := by
  have h := leBytes_leValue (leBytes k n)
  rwa [length_leBytes, leValue_leBytes] at h

theorem leValue_lt : leValue bs < 256 ^ bs.length := by
  induction bs with
  | nil => exact Nat.one_pos
  | cons b bs ih =>
    have hb := b.toNat_lt
    rw [leValue, List.length_cons, Nat.pow_succ']
    omega

theorem leValue_append {a b : List UInt8} :
    leValue (a ++ b) = leValue a + 256 ^ a.length * leValue b := by
  induction a with
  | nil => rw [List.nil_append, leValue, List.length_nil, Nat.pow_zero, Nat.one_mul, Nat.zero_add]
  | cons c a ih =>
    rw [List.cons_append, leValue, ih, leValue, List.length_cons]
    ring

theorem leValue_inj {a b : List UInt8} (hlen : a.length = b.length)
    (h : leValue a = leValue b) : a = b := by
  rw [← leBytes_leValue a, ← leBytes_leValue b, hlen, h]

end

/-- the most significant byte comes first -/
def beValue (bs : List UInt8) : Nat := leValue bs.reverse

section
variable {a b bs : List UInt8}

theorem beValue_cons {b : UInt8} : beValue (b :: bs) = b.toNat * 256 ^ bs.length + beValue bs := by
  have hone : leValue [b] = b.toNat := by
    show b.toNat + 256 * 0 = b.toNat
    omega
  unfold beValue
  rw [List.reverse_cons, leValue_append, List.length_reverse, hone, Nat.add_comm, Nat.mul_comm]

theorem beValue_inj (hlen : a.length = b.length) (h : beValue a = beValue b) : a = b := by
  refine List.reverse_inj.mp (leValue_inj ?_ h)
  rw [List.length_reverse, List.length_reverse, hlen]

/-- a text of bytes and its digits have one number -/
theorem hexValue_hexEncode : Text.hexValue (Text.hexEncode bs).toList = beValue bs := by
  induction bs with
  | nil =>
    rw [Text.hexEncode_nil]
    rfl
  | cons b bs ih =>
    obtain ⟨hhi, hlo⟩ := Text.byte_halves b
    have hpair : Text.hexValue [Text.hexDigit (b.toNat / 16), Text.hexDigit (b.toNat % 16)]
        = b.toNat := by
      show Text.digitValue (Text.hexDigit (b.toNat % 16))
        + 16 * (Text.digitValue (Text.hexDigit (b.toNat / 16)) + 16 * 0) = b.toNat
      rw [Text.digitValue_hexDigit hhi, Text.digitValue_hexDigit hlo]
      omega
    have hpow : 16 ^ (2 * bs.length) = 256 ^ bs.length := by rw [Nat.pow_mul]
    have hcut := Text.hexValue_append (b := (Text.hexEncode bs).toList)
      (a := [Text.hexDigit (b.toNat / 16), Text.hexDigit (b.toNat % 16)])
    rw [hpair, Text.hexEncode_length, hpow, ih, ← beValue_cons] at hcut
    rw [Text.hexEncode_cons]
    exact hcut

end

/-! ## parts -/

section
variable {α : Type} {n k : Nat} {as : List α} {parts : List (List α)}

/-- `k` parts of `n` elements each -/
def cut (n : Nat) : Nat → List α → List (List α)
  | 0, _ => []
  | k + 1, as => as.take n :: cut n k (as.drop n)

/-- `as_chunks::<n>().0`: the parts that are whole -/
def asChunks (n : Nat) (as : List α) : List (List α) := cut n (as.length / n) as

@[simp] theorem length_cut : (cut n k as).length = k := by
  induction k generalizing as with
  | zero => rfl
  | succ k ih => rw [cut, List.length_cons, ih]

theorem cut_eq_map_range :
    cut n k as = (List.range k).map fun i => (as.drop (i * n)).take n := by
  induction k generalizing as with
  | zero => rfl
  | succ k ih =>
    rw [cut, ih, List.range_succ_eq_map, List.map_cons, List.map_map, Nat.zero_mul, List.drop_zero]
    congr 1
    refine List.map_congr_left fun i _ => ?_
    rw [List.drop_drop, Function.comp_apply, Nat.succ_mul, Nat.add_comm]

theorem length_of_mem_cut (h : k * n ≤ as.length) {part : List α} (hpart : part ∈ cut n k as) :
    part.length = n := by
  induction k generalizing as with
  | zero => exact absurd hpart List.not_mem_nil
  | succ k ih =>
    rw [Nat.succ_mul] at h
    rcases List.mem_cons.mp hpart with rfl | hpart
    · rw [List.length_take]
      omega
    · refine ih ?_ hpart
      rw [List.length_drop]
      omega

theorem flatten_cut (h : as.length = k * n) : (cut n k as).flatten = as := by
  induction k generalizing as with
  | zero =>
    rw [Nat.zero_mul] at h
    rw [List.length_eq_zero_iff.mp h]
    rfl
  | succ k ih =>
    have hrest : (as.drop n).length = k * n := by
      rw [List.length_drop, h, Nat.succ_mul, Nat.add_sub_cancel]
    rw [cut, List.flatten_cons, ih hrest, List.take_append_drop]

theorem cut_flatten (h : ∀ part ∈ parts, part.length = n) :
    cut n parts.length parts.flatten = parts := by
  induction parts with
  | nil => rfl
  | cons part parts ih =>
    obtain ⟨hpart, hparts⟩ := List.forall_mem_cons.mp h
    rw [List.length_cons, List.flatten_cons, cut, List.take_left' hpart, List.drop_left' hpart,
      ih hparts]

theorem length_flatten_of_parts (h : ∀ part ∈ parts, part.length = n) :
    parts.flatten.length = parts.length * n := by
  induction parts with
  | nil => rw [List.length_nil, Nat.zero_mul]; rfl
  | cons part parts ih =>
    obtain ⟨hpart, hparts⟩ := List.forall_mem_cons.mp h
    rw [List.flatten_cons, List.length_append, hpart, ih hparts, List.length_cons, Nat.succ_mul,
      Nat.add_comm]

theorem length_of_mem_asChunks {part : List α} (hpart : part ∈ asChunks n as) :
    part.length = n :=
  length_of_mem_cut (Nat.div_mul_le_self _ _) hpart

/-- what was cut without a rest is joined again -/
theorem flatten_asChunks (h : as.length % n = 0) : (asChunks n as).flatten = as :=
  flatten_cut (Nat.div_mul_cancel (Nat.dvd_of_mod_eq_zero h)).symm

/-- what was joined is cut again -/
theorem asChunks_flatten (hn : 0 < n) (h : ∀ part ∈ parts, part.length = n) :
    asChunks n parts.flatten = parts := by
  unfold asChunks
  rw [length_flatten_of_parts h, Nat.mul_div_cancel _ hn]
  exact cut_flatten h

end

end Bytes
