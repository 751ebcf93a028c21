import Crucible.Noir.Values

/-!
# The shared circuit library (`circuits/lib`)

Hashing, commitments, nullifiers, range constraints and the state-transition helpers that the
operation circuits compose into their `main`.  Every function takes the standard library `std`
it hashes with, and fails with the message of the assertion that does not hold.

* `assertInBits_ok`        what a range check accepts: the low 64 bits are below `2^bits`;
* `addBounded_ok`, `subtractBounded_ok`   the sum and the difference that come out of the
                           bounded helpers, in terms of the low words of the two fields;
* `Std.vectors`            the digests recorded in `test-vectors/`, to run the circuits on.
-/

namespace Crucible
open Checked LowBits

/-! ## crypto: hashing, commitments, nullifiers -/

def keyDomain : Field := 0x6b6579
def commitmentDomain : Field := 0x636f6d6d

section
variable (std : Std)

def pedersenHashFields (inputs : List Field) : Field := std.pedersenHash inputs

/-- address derivation: the hash of a secret key under the key domain -/
def keyHash (secret : Field) : Field := std.pedersenHash [keyDomain, secret]

def commit (amount blinding : Field) : Field :=
  (std.pedersenCommitment [commitmentDomain, amount, blinding]).x

def nullifier (secret commitment : Field) : Field :=
  pedersenHashFields std [secret, commitment]

def nullifierForToken (secret commitment token : Field) : Field :=
  pedersenHashFields std [secret, commitment, token]

def nullifierForTokenState (secret commitment token rootHi rootLo : Field) : Field :=
  pedersenHashFields std [secret, commitment, token, rootHi, rootLo]

end

/-! ## constraints: ranges -/

def maxBits : UInt64 := 64

/-- the width of confidential amounts -/
def amountBits : UInt64 := 63

def assertInBits (value : Field) (bits : UInt64) : Except String Unit := do
  ensure (bits ≤ maxBits) "range width exceeds u64"
  let bounded := asU64 value
  if bits < 64 then
    ensure (bounded < (1 : UInt64) <<< bits) "value exceeds the allowed range"

def assertNoOverdraw (balance spend : Field) : Except String Unit := do
  let balance64 := asU64 balance
  let spend64 := asU64 spend
  ensure (spend64 ≤ balance64) "insufficient balance for the operation"
  let _remainder ← u64Sub balance64 spend64

theorem one_shiftLeft_toNat {b : UInt64} (h : b < 64) :
    ((1 : UInt64) <<< b).toNat = 2^b.toNat := by
  have hb : b.toNat < 64 := h
  have hpow : 2^b.toNat < 2^64 := Nat.pow_lt_pow_right (by decide) hb
  rw [UInt64.toNat_shiftLeft, Nat.mod_eq_of_lt hb, UInt64.toNat_one, Nat.one_shiftLeft,
    Nat.mod_eq_of_lt hpow]

/-- the range check reads the low word only: the cast that precedes it truncates -/
theorem assertInBits_ok {value : Field} {bits : UInt64} {w : Unit} :
    assertInBits value bits = .ok w ↔ bits.toNat ≤ 64 ∧ low 64 value.val < 2^bits.toNat := by
  simp only [assertInBits, bind_ok, ensure_ok, exists_const]
  refine and_congr Iff.rfl ?_
  by_cases hb : bits < 64
  · rw [if_pos hb, ensure_ok, UInt64.lt_iff_toNat_lt, one_shiftLeft_toNat hb, asU64_toNat]
  · rw [if_neg hb]
    have h64 : 64 ≤ bits.toNat := Nat.le_of_not_lt hb
    have hlt : low 64 value.val < 2^bits.toNat :=
      lt_of_lt_of_le (low_lt 64 _) (Nat.pow_le_pow_right (by decide) h64)
    exact iff_of_true rfl hlt

theorem assertInBits_amountBits {value : Field} {w : Unit} :
    assertInBits value amountBits = .ok w ↔ low 64 value.val < 2^63 := by
  rw [assertInBits_ok]
  exact and_iff_right (by decide)

theorem assertNoOverdraw_ok {balance spend : Field} {w : Unit} :
    assertNoOverdraw balance spend = .ok w ↔ low 64 spend.val ≤ low 64 balance.val := by
  simp only [assertNoOverdraw, bind_ok, ensure_ok, exists_const, pure_ok, u64Sub_ok,
    UInt64.le_iff_toNat_le, asU64_toNat]
  constructor
  · exact fun h => h.1
  · intro h
    refine ⟨h, UInt64.ofNat (low 64 balance.val - low 64 spend.val), ⟨h, ?_⟩, trivial⟩
    rw [UInt64.toNat_ofNat']
    exact Nat.mod_eq_of_lt (lt_of_le_of_lt (Nat.sub_le _ _) (low_lt 64 _))

/-! ## types: addresses and commitments -/

structure Address where
  value : Field

def Address.new (value : Field) : Address := ⟨value⟩

def Address.fromSecret (std : Std) (secret : Field) : Address := ⟨keyHash std secret⟩

def Address.assertOwnedBy (self : Address) (std : Std) (secret : Field) : Except String Unit :=
  ensure (self.value = (Address.fromSecret std secret).value)
    "account secret does not match the address"

structure Commitment where
  value : Field

def Commitment.new (value : Field) : Commitment := ⟨value⟩

def Commitment.assertOpensTo (self : Commitment) (std : Std) (amount blinding : Field) :
    Except String Unit :=
  ensure (self.value = commit std amount blinding)
    "commitment does not open to the provided witness"

@[simp] theorem Address.assertOwnedBy_ok {a : Field} {std : Std} {secret : Field} {w : Unit} :
    (Address.new a).assertOwnedBy std secret = .ok w ↔ a = keyHash std secret := ensure_ok

@[simp] theorem Commitment.assertOpensTo_ok {c : Field} {std : Std} {amount blinding : Field}
    {w : Unit} : (Commitment.new c).assertOpensTo std amount blinding = .ok w ↔
      c = commit std amount blinding := ensure_ok

/-! ## state: consuming and producing commitments -/

/-- a commitment that has been consumed by a transition -/
structure Consumed where
  nullifier : Field

section
variable (std : Std)

def Consumed.of (commitment secret amount blinding : Field) : Except String Consumed := do
  (Commitment.new commitment).assertOpensTo std amount blinding
  return { nullifier := Crucible.nullifier std secret commitment }

def Consumed.ofForToken (commitment secret token amount blinding : Field) :
    Except String Consumed := do
  (Commitment.new commitment).assertOpensTo std amount blinding
  return { nullifier := nullifierForToken std secret commitment token }

def Consumed.ofForTokenState (commitment secret token rootHi rootLo amount blinding : Field) :
    Except String Consumed := do
  (Commitment.new commitment).assertOpensTo std amount blinding
  return { nullifier := nullifierForTokenState std secret commitment token rootHi rootLo }

/-- the result of producing a new commitment -/
structure SpendResult where
  commitment : Field

def SpendResult.to (amount blinding : Field) : SpendResult :=
  { commitment := commit std amount blinding }

end

def addBounded (balance added : Field) : Except String Field := do
  assertInBits balance amountBits
  assertInBits added amountBits
  let balance64 := asU64 balance
  let added64 := asU64 added
  return asField (← u64Add balance64 added64)

def subtractBounded (balance spend : Field) : Except String Field := do
  assertInBits balance amountBits
  assertInBits spend amountBits
  assertNoOverdraw balance spend
  let balance64 := asU64 balance
  let spend64 := asU64 spend
  return asField (← u64Sub balance64 spend64)

theorem asField_eq_iff {n : UInt64} {x : Field} : asField n = x ↔ x.val = n.toNat := by
  rw [← asField_val]
  exact ⟨fun h => h ▸ rfl, fun h => (ZMod.val_injective modulus h).symm⟩

theorem addBounded_ok {balance added sum : Field} :
    addBounded balance added = .ok sum ↔
      low 64 balance.val < 2^63 ∧ low 64 added.val < 2^63 ∧
        sum.val = low 64 balance.val + low 64 added.val := by
  simp only [addBounded, bind_ok, assertInBits_amountBits, exists_const, pure_ok, u64Add_ok,
    asU64_toNat, asField_eq_iff]
  refine and_congr_right fun hb => and_congr_right fun ha => ?_
  constructor
  · rintro ⟨n, hn, hs⟩
    rw [hs, hn]
  · intro hs
    have hlt : low 64 balance.val + low 64 added.val < 2^64 := by omega
    refine ⟨UInt64.ofNat (low 64 balance.val + low 64 added.val), ?_, ?_⟩
    · rw [UInt64.toNat_ofNat', Nat.mod_eq_of_lt hlt]
    · rw [UInt64.toNat_ofNat', Nat.mod_eq_of_lt hlt, hs]

theorem subtractBounded_ok {balance spend rest : Field} :
    subtractBounded balance spend = .ok rest ↔
      low 64 balance.val < 2^63 ∧ low 64 spend.val < 2^63 ∧
        low 64 spend.val ≤ low 64 balance.val ∧
        rest.val = low 64 balance.val - low 64 spend.val := by
  simp only [subtractBounded, bind_ok, assertInBits_amountBits, assertNoOverdraw_ok,
    exists_const, pure_ok, u64Sub_ok, asU64_toNat, asField_eq_iff]
  refine and_congr_right fun hb => and_congr_right fun ha => and_congr_right fun hle => ?_
  constructor
  · rintro ⟨n, ⟨_, hn⟩, hs⟩
    rw [hs, hn]
  · intro hs
    have hlt : low 64 balance.val - low 64 spend.val < 2^64 := by omega
    refine ⟨UInt64.ofNat (low 64 balance.val - low 64 spend.val), ⟨hle, ?_⟩, ?_⟩
    · rw [UInt64.toNat_ofNat', Nat.mod_eq_of_lt hlt]
    · rw [UInt64.toNat_ofNat', Nat.mod_eq_of_lt hlt, hs]

/-! ## the recorded digests -/

/-- the hashes recorded in `test-vectors/`, by preimage: addresses, then nullifiers -/
def recordedHashes : List (List Field × Field) :=
  [([keyDomain, 0x1234],
      0x06871944eb38ea75866d42609302692a55e12cf7620a50f2cf03381b9b382b72),
    ([keyDomain, 0x5678],
      0x1ce5e69979131d8a3a1e3aa8ce0e39ce0f0e17b3de32aed85907b1adfa7a8e22),
    ([0x1234, 0x076db33552d93aa30f635808d1ca29a8e03dd1f5f396bf2caf7df85a8038e2d0, 0x746f6b656e],
      0x2c90bd0611da2c636e3c6c872866e363641a0ed7c3e063384311fa2add839740),
    ([0x1234, 0x076db33552d93aa30f635808d1ca29a8e03dd1f5f396bf2caf7df85a8038e2d0, 0x746f6b656e,
        0xabababababababababababababababab, 0xabababababababababababababababab],
      0x15380738274c4c2de28a249de47def2269bd4d476cd63b570348e6410cc57d4a),
    ([0x1234, 0x22d65fc0a742e81765ede19037e57c52b9ae01921361194102045f2b54fac59a, 0x746f6b656e,
        0xabababababababababababababababab, 0xabababababababababababababababab],
      0x04f44f2dfc73d3757775a3d7d47fa2dbc756174749b797f225fa98dcf2f18847),
    ([0x1234, 0x24fc5ed222d5e3fc7d22988b6ec8b08160f1b001235cd463ee5fd692fe91e752, 0x746f6b656e,
        0xabababababababababababababababab, 0xabababababababababababababababab],
      0x0128ac89d32f0bd3cf802582d11b512adb251a2e231daf78ac0de3112a55a097)]

/-- the commitments recorded there, by domain, amount and blinding -/
def recordedCommitments : List (List Field × Field) :=
  [([commitmentDomain, 1000, 5],
      0x076db33552d93aa30f635808d1ca29a8e03dd1f5f396bf2caf7df85a8038e2d0),
    ([commitmentDomain, 600, 7],
      0x22d65fc0a742e81765ede19037e57c52b9ae01921361194102045f2b54fac59a),
    ([commitmentDomain, 400, 11],
      0x24fc5ed222d5e3fc7d22988b6ec8b08160f1b001235cd463ee5fd692fe91e752),
    ([commitmentDomain, 1000, 13],
      0x2f2a44c5b5107b885cef4a97cc6a2963922745d66d22951fa931457663c3e0d2),
    ([commitmentDomain, 1500, 9],
      0x2ada0e1d82b51171a820c69368c30cba60b0bfec8537ef5b84d09f99ed50dce9),
    ([commitmentDomain, 300, 17],
      0x0c15c2871d0487fac9d0a3e4132b1700c0247049e06ab34baca2b14ed68b5b6a),
    ([commitmentDomain, 700, 8],
      0x01b98de4fa954312e6957dd3074011418e26385cd85fa8bd3a711a6c1d578063)]

/-- a digest for the preimages that no vector records: a polynomial in the inputs -/
def unrecorded (inputs : List Field) : Field :=
  inputs.foldl (fun acc x => 0x9e3779b97f4a7c15 * acc + x + 1) 0

/-- the standard library as far as the vectors record it -/
def Std.vectors : Std where
  pedersenHash inputs := (recordedHashes.lookup inputs).getD (unrecorded inputs)
  pedersenCommitment inputs :=
    { x := (recordedCommitments.lookup inputs).getD (unrecorded inputs), y := 0 }

end Crucible
