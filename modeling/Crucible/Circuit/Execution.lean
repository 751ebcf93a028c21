import Crucible.Circuit.Main

/-!
# Executions of the operation circuits, as moves of notes

An `Execution` is a call of one of the four circuits that spend (deposit, merge, transfer,
withdraw) on some assignment of field elements.  `run` calls `main` and collects what the ledger
sees: token, owner, spent commitments with their nullifiers, new commitments.  Next to it stands
what the assignment says privately: a `Note` is the opening of a commitment, `consumed` the notes
an execution opens, `produced` the notes it commits to.

* `Execution.run_ok`    **the two agree**: an execution is accepted exactly when the secret owns
                        the address, every opened note matches its commitment, and the new notes
                        exist; its effect is then a function of those;
* `consumable_iff`      a commitment can be consumed exactly when it is `Openable`: it has an
                        opening whose low word is below `2^63`.
-/

namespace Crucible
open Checked LowBits

/-! ## notes -/

/-- the opening of a commitment -/
structure Note where
  amount : Field
  blinding : Field
deriving DecidableEq

def Note.commitment (std : Std) (n : Note) : Field := commit std n.amount n.blinding

/-- the integer a note commits to -/
def Note.value (n : Note) : Nat := n.amount.val

/-- the `u64` the circuits compute with when they consume the note -/
def Note.word (n : Note) : Nat := low 64 n.amount.val

/-- the amount is below `2^63`, the bound of `AMOUNT_BITS` -/
def Note.InRange (n : Note) : Prop := n.value < 2^63

theorem Note.InRange.word_eq {n : Note} (h : n.InRange) : n.word = n.value :=
  low_of_lt (lt_trans h (by decide))

/-! ## executions -/

inductive Execution where
  | deposit (p : Deposit)
  | merge (p : Merge)
  | transfer (p : Transfer)
  | withdraw (p : Withdraw)

/-- what the ledger sees of an accepted execution -/
structure Effect where
  token : Field
  owner : Field
  /-- each consumed commitment with the nullifier emitted for it -/
  spent : List (Field × Field)
  produced : List Field

/-- the execution is accepted with effect `E` when `run std e = .ok E` -/
def Execution.run (std : Std) : Execution → Except String Effect
  | .deposit p => do
    let out ← p.main std
    return { token := p.tokenAddress, owner := p.accountAddress
             spent := [(p.oldCommitment, out.2)], produced := [out.1] }
  | .merge p => do
    let out ← p.main std
    return { token := p.tokenAddress, owner := p.accountAddress
             spent := [(p.commitmentA, out.2.1), (p.commitmentB, out.2.2)]
             produced := [out.1] }
  | .transfer p => do
    let out ← p.main std
    return { token := p.tokenAddress, owner := p.senderAddress
             spent := [(p.oldSenderCommitment, out.2.2)], produced := [out.1, out.2.1] }
  | .withdraw p => do
    let out ← p.main std
    return { token := p.tokenAddress, owner := p.accountAddress
             spent := [(p.commitment, out.2)], produced := [out.1] }

namespace Execution

def token : Execution → Field
  | .deposit p => p.tokenAddress
  | .merge p => p.tokenAddress
  | .transfer p => p.tokenAddress
  | .withdraw p => p.tokenAddress

def owner : Execution → Field
  | .deposit p => p.accountAddress
  | .merge p => p.accountAddress
  | .transfer p => p.senderAddress
  | .withdraw p => p.accountAddress

def secret : Execution → Field
  | .deposit p => p.accountSk
  | .merge p => p.accountSk
  | .transfer p => p.senderSk
  | .withdraw p => p.accountSk

/-- the halves of the state root, for the operations that are bound to one -/
def roots : Execution → List Field
  | .deposit _ => []
  | .merge p => [p.rootHi, p.rootLo]
  | .transfer p => [p.rootHi, p.rootLo]
  | .withdraw p => [p.rootHi, p.rootLo]

/-- the public commitments the execution consumes, each with the opening in its witness -/
def consumed : Execution → List (Field × Note)
  | .deposit p => [(p.oldCommitment, ⟨p.oldAmount, p.oldBlinding⟩)]
  | .merge p => [(p.commitmentA, ⟨p.amountA, p.blindingA⟩),
      (p.commitmentB, ⟨p.amountB, p.blindingB⟩)]
  | .transfer p => [(p.oldSenderCommitment, ⟨p.oldAmount, p.oldBlinding⟩)]
  | .withdraw p => [(p.commitment, ⟨p.oldAmount, p.oldBlinding⟩)]

/-- the notes behind the commitments the execution returns -/
def produced : Execution → Except String (List Note)
  | .deposit p => do return [⟨← addBounded p.oldAmount p.amount, p.blinding⟩]
  | .merge p => do return [⟨← addBounded p.amountA p.amountB, p.blinding⟩]
  | .transfer p => do
    let rest ← subtractBounded p.oldAmount p.amount
    return [⟨p.amount, p.recipientBlinding⟩, ⟨rest, p.changeBlinding⟩]
  | .withdraw p => do return [⟨← subtractBounded p.oldAmount p.amount, p.changeBlinding⟩]

/-- what the nullifier of `c` is the hash of -/
def nullifierPreimage (e : Execution) (c : Field) : List Field :=
  e.secret :: c :: e.token :: e.roots

def nullifierOf (std : Std) (e : Execution) (c : Field) : Field :=
  pedersenHashFields std (e.nullifierPreimage c)

/-- the effect of an execution that produces the notes `ns` -/
def effect (std : Std) (e : Execution) (ns : List Note) : Effect where
  token := e.token
  owner := e.owner
  spent := e.consumed.map fun q => (q.1, e.nullifierOf std q.1)
  produced := ns.map (Note.commitment std)

/-- **An execution is accepted exactly when its secret owns its address, its openings match and
its new notes exist; the effect is then read off the notes.** -/
theorem run_ok {std : Std} {e : Execution} {E : Effect} :
    e.run std = .ok E ↔
      e.owner = keyHash std e.secret ∧ (∀ q ∈ e.consumed, q.1 = q.2.commitment std) ∧
      ∃ ns, e.produced = .ok ns ∧ E = e.effect std ns := by
  cases e with
  | deposit p =>
    simp only [run, bind_ok, Deposit.main_ok, pure_ok, produced, consumed, owner, secret,
      List.forall_mem_cons, List.not_mem_nil, false_implies, implies_true, and_true]
    constructor
    · rintro ⟨_, ⟨ho, hc, s, hs, rfl⟩, rfl⟩
      exact ⟨ho, hc, _, ⟨s, hs, rfl⟩, rfl⟩
    · rintro ⟨ho, hc, _, ⟨s, hs, rfl⟩, rfl⟩
      exact ⟨_, ⟨ho, hc, s, hs, rfl⟩, rfl⟩
  | merge p =>
    simp only [run, bind_ok, Merge.main_ok, pure_ok, produced, consumed, owner, secret,
      List.forall_mem_cons, List.not_mem_nil, false_implies, implies_true, and_true]
    constructor
    · rintro ⟨_, ⟨ho, ha, hb, s, hs, rfl⟩, rfl⟩
      exact ⟨ho, ⟨ha, hb⟩, _, ⟨s, hs, rfl⟩, rfl⟩
    · rintro ⟨ho, ⟨ha, hb⟩, _, ⟨s, hs, rfl⟩, rfl⟩
      exact ⟨_, ⟨ho, ha, hb, s, hs, rfl⟩, rfl⟩
  | transfer p =>
    simp only [run, bind_ok, Transfer.main_ok, pure_ok, produced, consumed, owner, secret,
      List.forall_mem_cons, List.not_mem_nil, false_implies, implies_true, and_true]
    constructor
    · rintro ⟨_, ⟨ho, hc, s, hs, rfl⟩, rfl⟩
      exact ⟨ho, hc, _, ⟨s, hs, rfl⟩, rfl⟩
    · rintro ⟨ho, hc, _, ⟨s, hs, rfl⟩, rfl⟩
      exact ⟨_, ⟨ho, hc, s, hs, rfl⟩, rfl⟩
  | withdraw p =>
    simp only [run, bind_ok, Withdraw.main_ok, pure_ok, produced, consumed, owner, secret,
      List.forall_mem_cons, List.not_mem_nil, false_implies, implies_true, and_true]
    constructor
    · rintro ⟨_, ⟨ho, hc, s, hs, rfl⟩, rfl⟩
      exact ⟨ho, hc, _, ⟨s, hs, rfl⟩, rfl⟩
    · rintro ⟨ho, hc, _, ⟨s, hs, rfl⟩, rfl⟩
      exact ⟨_, ⟨ho, hc, s, hs, rfl⟩, rfl⟩

/-! ## the new notes, in terms of the words consumed -/

section
variable {ns : List Note}

theorem produced_deposit {p : Deposit} :
    (deposit p).produced = .ok ns ↔ low 64 p.oldAmount.val < 2^63 ∧ low 64 p.amount.val < 2^63 ∧
      ∃ s : Field, s.val = low 64 p.oldAmount.val + low 64 p.amount.val ∧
        ns = [⟨s, p.blinding⟩] := by
  simp only [produced, bind_ok, pure_ok, addBounded_ok, and_assoc, exists_and_left,
    @eq_comm _ _ ns]

theorem produced_merge {p : Merge} :
    (merge p).produced = .ok ns ↔ low 64 p.amountA.val < 2^63 ∧ low 64 p.amountB.val < 2^63 ∧
      ∃ s : Field, s.val = low 64 p.amountA.val + low 64 p.amountB.val ∧
        ns = [⟨s, p.blinding⟩] := by
  simp only [produced, bind_ok, pure_ok, addBounded_ok, and_assoc, exists_and_left,
    @eq_comm _ _ ns]

theorem produced_transfer {p : Transfer} :
    (transfer p).produced = .ok ns ↔ low 64 p.oldAmount.val < 2^63 ∧
      low 64 p.amount.val < 2^63 ∧ low 64 p.amount.val ≤ low 64 p.oldAmount.val ∧
      ∃ s : Field, s.val = low 64 p.oldAmount.val - low 64 p.amount.val ∧
        ns = [⟨p.amount, p.recipientBlinding⟩, ⟨s, p.changeBlinding⟩] := by
  simp only [produced, bind_ok, pure_ok, subtractBounded_ok, and_assoc, exists_and_left,
    @eq_comm _ _ ns]

theorem produced_withdraw {p : Withdraw} :
    (withdraw p).produced = .ok ns ↔ low 64 p.oldAmount.val < 2^63 ∧
      low 64 p.amount.val < 2^63 ∧ low 64 p.amount.val ≤ low 64 p.oldAmount.val ∧
      ∃ s : Field, s.val = low 64 p.oldAmount.val - low 64 p.amount.val ∧
        ns = [⟨s, p.changeBlinding⟩] := by
  simp only [produced, bind_ok, pure_ok, subtractBounded_ok, and_assoc, exists_and_left,
    @eq_comm _ _ ns]

/-- whatever is consumed has passed a range check -/
theorem word_lt_of_produced {e : Execution} (h : e.produced = .ok ns) :
    ∀ q ∈ e.consumed, q.2.word < 2^63 := by
  cases e with
  | deposit p => simpa [consumed, Note.word] using (produced_deposit.mp h).1
  | merge p =>
    obtain ⟨ha, hb, _⟩ := produced_merge.mp h
    simpa [consumed, Note.word] using ⟨ha, hb⟩
  | transfer p => simpa [consumed, Note.word] using (produced_transfer.mp h).1
  | withdraw p => simpa [consumed, Note.word] using (produced_withdraw.mp h).1

end

/-! ## accepted executions, and the commitments they can consume -/

/-- `e` is accepted, and the notes `ns` are behind the commitments it returns -/
def Produces (std : Std) (e : Execution) (ns : List Note) : Prop :=
  e.run std = .ok (e.effect std ns) ∧ e.produced = .ok ns

theorem exists_produces {std : Std} {e : Execution} {E : Effect} (h : e.run std = .ok E) :
    ∃ ns, e.Produces std ns ∧ E.produced = ns.map (Note.commitment std) := by
  obtain ⟨_, _, ns, hns, rfl⟩ := run_ok.mp h
  exact ⟨ns, ⟨h, hns⟩, rfl⟩

/-- `e` is accepted and consumes `c` -/
def Consumes (std : Std) (e : Execution) (c : Field) : Prop :=
  (∃ E, e.run std = .ok E) ∧ c ∈ e.consumed.map Prod.fst

/-- a withdrawal of nothing from the note `n` -/
def withdrawNothing (std : Std) (n : Note) (secret token : Field) : Execution :=
  .withdraw
    { tokenAddress := token, accountAddress := keyHash std secret
      commitment := n.commitment std, rootHi := 0, rootLo := 0, accountSk := secret
      amount := 0, oldAmount := n.amount, oldBlinding := n.blinding, changeBlinding := 0 }

theorem withdrawNothing_consumes {std : Std} {n : Note} (h : n.word < 2^63)
    (secret token : Field) :
    (withdrawNothing std n secret token).Consumes std (n.commitment std) := by
  have hzero : low 64 (0 : Field).val = 0 := by decide
  have hrest : subtractBounded n.amount 0 = .ok (asField (asU64 n.amount)) := by
    rw [subtractBounded_ok, asField_val, asU64_toNat, hzero]
    exact ⟨h, by decide, Nat.zero_le _, rfl⟩
  refine ⟨⟨_, run_ok.mpr ⟨rfl, ?_, [⟨asField (asU64 n.amount), 0⟩], ?_, rfl⟩⟩, ?_⟩
  · simp [withdrawNothing, consumed]
  · simp only [withdrawNothing, produced, bind_ok, pure_ok]
    exact ⟨_, hrest, rfl⟩
  · simp [withdrawNothing, consumed]

end Execution

/-- some account can consume `c` -/
def Consumable (std : Std) (c : Field) : Prop := ∃ e : Execution, e.Consumes std c

/-- `c` has an opening that passes the range check -/
def Openable (std : Std) (c : Field) : Prop := ∃ n : Note, n.word < 2^63 ∧ c = n.commitment std

theorem consumable_iff {std : Std} {c : Field} : Consumable std c ↔ Openable std c := by
  constructor
  · rintro ⟨e, ⟨E, hE⟩, hc⟩
    obtain ⟨_, hopen, ns, hns, _⟩ := Execution.run_ok.mp hE
    obtain ⟨q, hq, rfl⟩ := List.mem_map.mp hc
    exact ⟨q.2, Execution.word_lt_of_produced hns q hq, hopen q hq⟩
  · rintro ⟨n, hn, rfl⟩
    exact ⟨_, Execution.withdrawNothing_consumes hn 0 0⟩

/-! ## the recorded executions -/

/-- the recorded deposit of `500` onto a note of `1000` -/
def recordedDeposit : Execution :=
  .deposit
    { tokenAddress := felt 0x746f6b656e
      accountAddress := felt 0x06871944eb38ea75866d42609302692a55e12cf7620a50f2cf03381b9b382b72
      oldCommitment := felt 0x076db33552d93aa30f635808d1ca29a8e03dd1f5f396bf2caf7df85a8038e2d0
      accountSk := felt 0x1234, oldAmount := felt 1000, oldBlinding := felt 5
      amount := felt 500, blinding := felt 9 }

/-- the recorded withdrawal of `300` from the same note, by any account, for any token -/
def withdrawBy (secret owner token : Field) : Execution :=
  .withdraw
    { tokenAddress := token, accountAddress := owner
      commitment := felt 0x076db33552d93aa30f635808d1ca29a8e03dd1f5f396bf2caf7df85a8038e2d0
      rootHi := felt 0xabababababababababababababababab
      rootLo := felt 0xabababababababababababababababab
      accountSk := secret, amount := felt 300, oldAmount := felt 1000, oldBlinding := felt 5
      changeBlinding := felt 8 }

def recordedWithdraw : Execution :=
  withdrawBy (felt 0x1234)
    (felt 0x06871944eb38ea75866d42609302692a55e12cf7620a50f2cf03381b9b382b72) (felt 0x746f6b656e)

/-- the recorded transfer out of it, of any amount (of `300` as recorded) -/
def transferOf (amount : Field) : Execution :=
  .transfer
    { tokenAddress := felt 0x746f6b656e
      senderAddress := felt 0x06871944eb38ea75866d42609302692a55e12cf7620a50f2cf03381b9b382b72
      recipientAddress := felt 0x1ce5e69979131d8a3a1e3aa8ce0e39ce0f0e17b3de32aed85907b1adfa7a8e22
      oldSenderCommitment :=
        felt 0x076db33552d93aa30f635808d1ca29a8e03dd1f5f396bf2caf7df85a8038e2d0
      rootHi := felt 0xabababababababababababababababab
      rootLo := felt 0xabababababababababababababababab
      senderSk := felt 0x1234, amount := amount, oldAmount := felt 1000, oldBlinding := felt 5
      recipientBlinding := felt 17, changeBlinding := felt 8 }

/-- a merge under the key, token and state root of the vectors -/
def mergeOf (commitmentA commitmentB amountA blindingA amountB blindingB : Field) : Merge :=
  { tokenAddress := felt 0x746f6b656e
    accountAddress := felt 0x06871944eb38ea75866d42609302692a55e12cf7620a50f2cf03381b9b382b72
    commitmentA := commitmentA, commitmentB := commitmentB
    rootHi := felt 0xabababababababababababababababab
    rootLo := felt 0xabababababababababababababababab
    accountSk := felt 0x1234, amountA := amountA, blindingA := blindingA
    amountB := amountB, blindingB := blindingB, blinding := felt 13 }

/-- the recorded merge, of `600` and `400` -/
def recordedMerge : Merge :=
  mergeOf (felt 0x22d65fc0a742e81765ede19037e57c52b9ae01921361194102045f2b54fac59a)
    (felt 0x24fc5ed222d5e3fc7d22988b6ec8b08160f1b001235cd463ee5fd692fe91e752)
    (felt 600) (felt 7) (felt 400) (felt 11)

end Crucible
