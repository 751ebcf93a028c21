import Crucible.Circuit.Lib

/-!
# The five operation circuits

One `main` per circuit, over the structure of its parameters in the order of the source.  A
parameter is public where the source says `pub`; the value that `main` returns is public too.

* `Deposit.main_ok`, `Merge.main_ok`, `Transfer.main_ok`, `Withdraw.main_ok`, `Register.main_ok`
  what an accepted execution of each circuit proves, and what it returns.
-/

namespace Crucible
open Checked LowBits

/-! ## register -/

structure Register where
  accountAddress : Field
  accountSk : Field

def Register.main (std : Std) (p : Register) : Except String Unit :=
  (Address.new p.accountAddress).assertOwnedBy std p.accountSk

/-! ## deposit -/

structure Deposit where
  tokenAddress : Field
  accountAddress : Field
  oldCommitment : Field
  accountSk : Field
  oldAmount : Field
  oldBlinding : Field
  amount : Field
  blinding : Field

/-- returns `(new_commitment, nullifier)` -/
def Deposit.main (std : Std) (p : Deposit) : Except String (Field × Field) := do
  (Address.new p.accountAddress).assertOwnedBy std p.accountSk
  let consumed ← Consumed.ofForToken std p.oldCommitment p.accountSk p.tokenAddress p.oldAmount
    p.oldBlinding
  let newAmount ← addBounded p.oldAmount p.amount
  let created := SpendResult.to std newAmount p.blinding
  return (created.commitment, consumed.nullifier)

/-! ## merge -/

structure Merge where
  tokenAddress : Field
  accountAddress : Field
  commitmentA : Field
  commitmentB : Field
  rootHi : Field
  rootLo : Field
  accountSk : Field
  amountA : Field
  blindingA : Field
  amountB : Field
  blindingB : Field
  blinding : Field

/-- returns `(merged_commitment, nullifier_a, nullifier_b)` -/
def Merge.main (std : Std) (p : Merge) : Except String (Field × Field × Field) := do
  (Address.new p.accountAddress).assertOwnedBy std p.accountSk
  let spentA ← Consumed.ofForTokenState std p.commitmentA p.accountSk p.tokenAddress p.rootHi
    p.rootLo p.amountA p.blindingA
  let spentB ← Consumed.ofForTokenState std p.commitmentB p.accountSk p.tokenAddress p.rootHi
    p.rootLo p.amountB p.blindingB
  let mergedAmount ← addBounded p.amountA p.amountB
  let merged := SpendResult.to std mergedAmount p.blinding
  return (merged.commitment, spentA.nullifier, spentB.nullifier)

/-! ## transfer -/

structure Transfer where
  tokenAddress : Field
  senderAddress : Field
  recipientAddress : Field
  oldSenderCommitment : Field
  rootHi : Field
  rootLo : Field
  senderSk : Field
  amount : Field
  oldAmount : Field
  oldBlinding : Field
  recipientBlinding : Field
  changeBlinding : Field

/-- returns `(recipient_commitment, change_commitment, nullifier)` -/
def Transfer.main (std : Std) (p : Transfer) : Except String (Field × Field × Field) := do
  (Address.new p.senderAddress).assertOwnedBy std p.senderSk
  let spent ← Consumed.ofForTokenState std p.oldSenderCommitment p.senderSk p.tokenAddress
    p.rootHi p.rootLo p.oldAmount p.oldBlinding
  let changeAmount ← subtractBounded p.oldAmount p.amount
  -- the recipient's note takes the field itself, not the word that was range-checked
  let recipient := SpendResult.to std p.amount p.recipientBlinding
  let change := SpendResult.to std changeAmount p.changeBlinding
  let _ := p.recipientAddress
  return (recipient.commitment, change.commitment, spent.nullifier)

/-! ## withdraw -/

structure Withdraw where
  tokenAddress : Field
  accountAddress : Field
  commitment : Field
  rootHi : Field
  rootLo : Field
  accountSk : Field
  amount : Field
  oldAmount : Field
  oldBlinding : Field
  changeBlinding : Field

/-- returns `(change_commitment, nullifier)` -/
def Withdraw.main (std : Std) (p : Withdraw) : Except String (Field × Field) := do
  (Address.new p.accountAddress).assertOwnedBy std p.accountSk
  let spent ← Consumed.ofForTokenState std p.commitment p.accountSk p.tokenAddress p.rootHi
    p.rootLo p.oldAmount p.oldBlinding
  let changeAmount ← subtractBounded p.oldAmount p.amount
  let change := SpendResult.to std changeAmount p.changeBlinding
  return (change.commitment, spent.nullifier)

/-! ## what the circuits accept -/

section
variable {std : Std}

theorem Consumed.ofForToken_ok {c secret token amount blinding : Field} {s : Consumed} :
    Consumed.ofForToken std c secret token amount blinding = .ok s ↔
      c = commit std amount blinding ∧ s = ⟨nullifierForToken std secret c token⟩ := by
  simp only [Consumed.ofForToken, bind_ok, Commitment.assertOpensTo_ok, exists_const, pure_ok]
  exact and_congr_right fun _ => eq_comm

theorem Consumed.ofForTokenState_ok {c secret token rootHi rootLo amount blinding : Field}
    {s : Consumed} :
    Consumed.ofForTokenState std c secret token rootHi rootLo amount blinding = .ok s ↔
      c = commit std amount blinding ∧
        s = ⟨nullifierForTokenState std secret c token rootHi rootLo⟩ := by
  simp only [Consumed.ofForTokenState, bind_ok, Commitment.assertOpensTo_ok, exists_const,
    pure_ok]
  exact and_congr_right fun _ => eq_comm

theorem Register.main_ok {p : Register} {w : Unit} :
    p.main std = .ok w ↔ p.accountAddress = keyHash std p.accountSk :=
  Address.assertOwnedBy_ok

theorem Deposit.main_ok {p : Deposit} {out : Field × Field} :
    p.main std = .ok out ↔
      p.accountAddress = keyHash std p.accountSk ∧
      p.oldCommitment = commit std p.oldAmount p.oldBlinding ∧
      ∃ sum, addBounded p.oldAmount p.amount = .ok sum ∧
        out = (commit std sum p.blinding,
          nullifierForToken std p.accountSk p.oldCommitment p.tokenAddress) := by
  simp only [Deposit.main, bind_ok, Address.assertOwnedBy_ok, Consumed.ofForToken_ok,
    exists_const, pure_ok, and_assoc, exists_and_left, exists_eq_left, SpendResult.to,
    @eq_comm _ _ out]

theorem Merge.main_ok {p : Merge} {out : Field × Field × Field} :
    p.main std = .ok out ↔
      p.accountAddress = keyHash std p.accountSk ∧
      p.commitmentA = commit std p.amountA p.blindingA ∧
      p.commitmentB = commit std p.amountB p.blindingB ∧
      ∃ sum, addBounded p.amountA p.amountB = .ok sum ∧
        out = (commit std sum p.blinding,
          nullifierForTokenState std p.accountSk p.commitmentA p.tokenAddress p.rootHi p.rootLo,
          nullifierForTokenState std p.accountSk p.commitmentB p.tokenAddress p.rootHi
            p.rootLo) := by
  simp only [Merge.main, bind_ok, Address.assertOwnedBy_ok, Consumed.ofForTokenState_ok,
    exists_const, pure_ok, and_assoc, exists_and_left, exists_eq_left, SpendResult.to,
    @eq_comm _ _ out]

theorem Transfer.main_ok {p : Transfer} {out : Field × Field × Field} :
    p.main std = .ok out ↔
      p.senderAddress = keyHash std p.senderSk ∧
      p.oldSenderCommitment = commit std p.oldAmount p.oldBlinding ∧
      ∃ rest, subtractBounded p.oldAmount p.amount = .ok rest ∧
        out = (commit std p.amount p.recipientBlinding, commit std rest p.changeBlinding,
          nullifierForTokenState std p.senderSk p.oldSenderCommitment p.tokenAddress p.rootHi
            p.rootLo) := by
  simp only [Transfer.main, bind_ok, Address.assertOwnedBy_ok, Consumed.ofForTokenState_ok,
    exists_const, pure_ok, and_assoc, exists_and_left, exists_eq_left, SpendResult.to,
    @eq_comm _ _ out]

theorem Withdraw.main_ok {p : Withdraw} {out : Field × Field} :
    p.main std = .ok out ↔
      p.accountAddress = keyHash std p.accountSk ∧
      p.commitment = commit std p.oldAmount p.oldBlinding ∧
      ∃ rest, subtractBounded p.oldAmount p.amount = .ok rest ∧
        out = (commit std rest p.changeBlinding,
          nullifierForTokenState std p.accountSk p.commitment p.tokenAddress p.rootHi
            p.rootLo) := by
  simp only [Withdraw.main, bind_ok, Address.assertOwnedBy_ok, Consumed.ofForTokenState_ok,
    exists_const, pure_ok, and_assoc, exists_and_left, exists_eq_left, SpendResult.to,
    @eq_comm _ _ out]

end

end Crucible
