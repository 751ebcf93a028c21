import Crucible.Circuit.Execution

/-!
# Honest users: what the circuits accept of those who own what they spend

The witness of an honest user names the address of the secret, opens every commitment it consumes,
and its amounts are integers below `2^63`, of which no more is spent than is consumed.

* `Adds`, `Subtracts`              the checked `u64` operation on two amounts, and the exact result;
* `addBounded_of_lt`, `subtractBounded_of_le`   both succeed on amounts in range, up to the bounds;
* `Deposit.Honest` and the others  the condition on the witness of each circuit;
* `honest_accepted`                such a witness is accepted by each of the five circuits.
-/

namespace Crucible
open Checked LowBits

/-! ## bounded arithmetic on amounts in range -/

/-- the addition does not overflow, and `sum` is the exact sum -/
def Adds (a b sum : Field) : Prop :=
  u64Add (asU64 a) (asU64 b) = .ok (asU64 sum) ∧ sum.val = a.val + b.val

/-- the subtraction does not underflow, and `rest` is the exact difference -/
def Subtracts (a b rest : Field) : Prop :=
  u64Sub (asU64 a) (asU64 b) = .ok (asU64 rest) ∧ rest.val + b.val = a.val

section
variable {a b : Field}

theorem asU64_toNat_of_lt (h : a.val < 2^63) : (asU64 a).toNat = a.val := by
  rw [asU64_toNat]
  exact low_of_lt (lt_trans h (by decide))

/-- every integer of 64 bits is a field element -/
theorem exists_val {n : Nat} (h : n < 2^64) : ∃ x : Field, x.val = n :=
  ⟨n, ZMod.val_natCast_of_lt (lt_trans h two_pow_64_lt_modulus)⟩

theorem asU64_toNat_of_val {x : Field} {n : Nat} (hx : x.val = n) (h : n < 2^64) :
    (asU64 x).toNat = n := by
  rw [asU64_toNat, hx]
  exact low_of_lt h

/-- two amounts below `2^63` have a sum, however close to `2^64` it is -/
theorem addBounded_of_lt (ha : a.val < 2^63) (hb : b.val < 2^63) :
    ∃ sum, Adds a b sum ∧ addBounded a b = .ok sum := by
  have hlt : a.val + b.val < 2^64 := by omega
  obtain ⟨sum, hsum⟩ := exists_val hlt
  have hla : low 64 a.val = a.val := low_of_lt (lt_trans ha (by decide))
  have hlb : low 64 b.val = b.val := low_of_lt (lt_trans hb (by decide))
  refine ⟨sum, ⟨u64Add_ok.mpr ?_, hsum⟩, addBounded_ok.mpr ?_⟩
  · rw [asU64_toNat_of_val hsum hlt, asU64_toNat_of_lt ha, asU64_toNat_of_lt hb]
  · rw [hla, hlb]
    exact ⟨ha, hb, hsum⟩

/-- an amount can be spent down to nothing -/
theorem subtractBounded_of_le (ha : a.val < 2^63) (hle : b.val ≤ a.val) :
    ∃ rest, Subtracts a b rest ∧ subtractBounded a b = .ok rest := by
  have hb : b.val < 2^63 := by omega
  have hlt : a.val - b.val < 2^64 := by omega
  obtain ⟨rest, hrest⟩ := exists_val hlt
  have hla : low 64 a.val = a.val := low_of_lt (lt_trans ha (by decide))
  have hlb : low 64 b.val = b.val := low_of_lt (lt_trans hb (by decide))
  refine ⟨rest, ⟨u64Sub_ok.mpr ?_, by omega⟩, subtractBounded_ok.mpr ?_⟩
  · rw [asU64_toNat_of_val hrest hlt, asU64_toNat_of_lt ha, asU64_toNat_of_lt hb]
    exact ⟨hle, rfl⟩
  · rw [hla, hlb]
    exact ⟨ha, hb, hle, hrest⟩

end

/-! ## honest witnesses -/

/-- the address is the address of the secret -/
def Register.Honest (std : Std) (p : Register) : Prop :=
  p.accountAddress = keyHash std p.accountSk

structure Deposit.Honest (std : Std) (p : Deposit) : Prop where
  owner : p.accountAddress = keyHash std p.accountSk
  opens : p.oldCommitment = commit std p.oldAmount p.oldBlinding
  oldAmount : p.oldAmount.val < 2^63
  amount : p.amount.val < 2^63

structure Merge.Honest (std : Std) (p : Merge) : Prop where
  owner : p.accountAddress = keyHash std p.accountSk
  opensA : p.commitmentA = commit std p.amountA p.blindingA
  opensB : p.commitmentB = commit std p.amountB p.blindingB
  amountA : p.amountA.val < 2^63
  amountB : p.amountB.val < 2^63

structure Transfer.Honest (std : Std) (p : Transfer) : Prop where
  owner : p.senderAddress = keyHash std p.senderSk
  opens : p.oldSenderCommitment = commit std p.oldAmount p.oldBlinding
  oldAmount : p.oldAmount.val < 2^63
  spends : p.amount.val ≤ p.oldAmount.val

structure Withdraw.Honest (std : Std) (p : Withdraw) : Prop where
  owner : p.accountAddress = keyHash std p.accountSk
  opens : p.commitment = commit std p.oldAmount p.oldBlinding
  oldAmount : p.oldAmount.val < 2^63
  spends : p.amount.val ≤ p.oldAmount.val

section
variable {std : Std}

theorem Deposit.Honest.main {p : Deposit} (h : p.Honest std) :
    ∃ sum, Adds p.oldAmount p.amount sum ∧ p.main std = .ok (commit std sum p.blinding,
      nullifierForToken std p.accountSk p.oldCommitment p.tokenAddress) := by
  obtain ⟨sum, hadds, hsum⟩ := addBounded_of_lt h.oldAmount h.amount
  exact ⟨sum, hadds, Deposit.main_ok.mpr ⟨h.owner, h.opens, sum, hsum, rfl⟩⟩

theorem Merge.Honest.main {p : Merge} (h : p.Honest std) :
    ∃ sum, Adds p.amountA p.amountB sum ∧ p.main std = .ok (commit std sum p.blinding,
      nullifierForTokenState std p.accountSk p.commitmentA p.tokenAddress p.rootHi p.rootLo,
      nullifierForTokenState std p.accountSk p.commitmentB p.tokenAddress p.rootHi p.rootLo) := by
  obtain ⟨sum, hadds, hsum⟩ := addBounded_of_lt h.amountA h.amountB
  exact ⟨sum, hadds, Merge.main_ok.mpr ⟨h.owner, h.opensA, h.opensB, sum, hsum, rfl⟩⟩

theorem Transfer.Honest.main {p : Transfer} (h : p.Honest std) :
    ∃ rest, Subtracts p.oldAmount p.amount rest ∧ p.main std
      = .ok (commit std p.amount p.recipientBlinding, commit std rest p.changeBlinding,
        nullifierForTokenState std p.senderSk p.oldSenderCommitment p.tokenAddress p.rootHi
          p.rootLo) := by
  obtain ⟨rest, hsubtracts, hrest⟩ := subtractBounded_of_le h.oldAmount h.spends
  exact ⟨rest, hsubtracts, Transfer.main_ok.mpr ⟨h.owner, h.opens, rest, hrest, rfl⟩⟩

theorem Withdraw.Honest.main {p : Withdraw} (h : p.Honest std) :
    ∃ rest, Subtracts p.oldAmount p.amount rest ∧ p.main std
      = .ok (commit std rest p.changeBlinding,
        nullifierForTokenState std p.accountSk p.commitment p.tokenAddress p.rootHi
          p.rootLo) := by
  obtain ⟨rest, hsubtracts, hrest⟩ := subtractBounded_of_le h.oldAmount h.spends
  exact ⟨rest, hsubtracts, Withdraw.main_ok.mpr ⟨h.owner, h.opens, rest, hrest, rfl⟩⟩

end

/-- **Honest users are never locked out**: each circuit accepts every honest witness, its checked
arithmetic is exact, and what it produces commits to the exact sum or difference. -/
theorem honest_accepted (std : Std) :
    (∀ p : Register, p.Honest std → p.main std = .ok ()) ∧
    (∀ p : Deposit, p.Honest std → ∃ sum nullifier, Adds p.oldAmount p.amount sum ∧
      p.main std = .ok (commit std sum p.blinding, nullifier)) ∧
    (∀ p : Merge, p.Honest std → ∃ sum nullifierA nullifierB, Adds p.amountA p.amountB sum ∧
      p.main std = .ok (commit std sum p.blinding, nullifierA, nullifierB)) ∧
    (∀ p : Transfer, p.Honest std → ∃ rest nullifier, Subtracts p.oldAmount p.amount rest ∧
      p.main std = .ok (commit std p.amount p.recipientBlinding,
        commit std rest p.changeBlinding, nullifier)) ∧
    ∀ p : Withdraw, p.Honest std → ∃ rest nullifier, Subtracts p.oldAmount p.amount rest ∧
      p.main std = .ok (commit std rest p.changeBlinding, nullifier) := by
  refine ⟨fun p h => Register.main_ok.mpr h, fun p h => ?_, fun p h => ?_, fun p h => ?_,
    fun p h => ?_⟩
  · obtain ⟨sum, hadds, hmain⟩ := h.main
    exact ⟨sum, _, hadds, hmain⟩
  · obtain ⟨sum, hadds, hmain⟩ := h.main
    exact ⟨sum, _, _, hadds, hmain⟩
  · obtain ⟨rest, hsubtracts, hmain⟩ := h.main
    exact ⟨rest, _, hsubtracts, hmain⟩
  · obtain ⟨rest, hsubtracts, hmain⟩ := h.main
    exact ⟨rest, _, hsubtracts, hmain⟩

/-- the widest deposit there is -/
def widestDeposit : Deposit :=
  { tokenAddress := felt 0x746f6b656e, accountAddress := keyHash Std.vectors (felt 0x1234)
    oldCommitment := commit Std.vectors (felt (2^63 - 1)) (felt 5), accountSk := felt 0x1234
    oldAmount := felt (2^63 - 1), oldBlinding := felt 5, amount := felt (2^63 - 1)
    blinding := felt 9 }

/-- two amounts at the bound are added, to a sum just below `2^64` -/
example : ∃ sum, Adds (felt (2^63 - 1)) (felt (2^63 - 1)) sum ∧ sum.val = 2^64 - 2 ∧
    widestDeposit.main Std.vectors = .ok (commit Std.vectors sum 9,
      nullifierForToken Std.vectors 0x1234 widestDeposit.oldCommitment 0x746f6b656e) := by
  have h : widestDeposit.Honest Std.vectors := ⟨rfl, rfl, by decide, by decide⟩
  obtain ⟨sum, hadds, hmain⟩ := h.main
  exact ⟨sum, hadds, hadds.2, hmain⟩

end Crucible
