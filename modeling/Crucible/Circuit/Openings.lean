import Crucible.Circuit.Spending

/-!
# What the public words say about the hidden ones

The public words of an execution are its public parameters and what `main` returns.  The rest of
the assignment is private: the secret, the amounts and the blindings.

* `openings_unique`      two accepted executions with one set of public words agree on the secret,
                         on every blinding, and on the low word of every amount.

In a deposit and in a withdrawal no commitment is made to the amount that moves.  It is the
difference of two amounts that commitments are made to, and words below `2^63` have one.
-/

namespace Crucible
open Checked LowBits

/-- the public parameters of an execution, in the order of its `main` -/
inductive PublicParams where
  | deposit (tokenAddress accountAddress oldCommitment : Field)
  | merge (tokenAddress accountAddress commitmentA commitmentB rootHi rootLo : Field)
  | transfer (tokenAddress senderAddress recipientAddress oldSenderCommitment rootHi rootLo : Field)
  | withdraw (tokenAddress accountAddress commitment rootHi rootLo : Field)
deriving DecidableEq

namespace PublicParams

/-- the address that the secret has to own -/
def owner : PublicParams → Field
  | .deposit _ accountAddress _ => accountAddress
  | .merge _ accountAddress _ _ _ _ => accountAddress
  | .transfer _ senderAddress _ _ _ _ => senderAddress
  | .withdraw _ accountAddress _ _ _ => accountAddress

/-- the commitments that the execution consumes -/
def commitments : PublicParams → List Field
  | .deposit _ _ oldCommitment => [oldCommitment]
  | .merge _ _ commitmentA commitmentB _ _ => [commitmentA, commitmentB]
  | .transfer _ _ _ oldSenderCommitment _ _ => [oldSenderCommitment]
  | .withdraw _ _ commitment _ _ => [commitment]

end PublicParams

/-- the private parameters of an execution, the amounts as the words the circuits compute with -/
structure Hidden where
  secret : Field
  amounts : List Nat
  blindings : List Field
deriving DecidableEq

namespace Execution

def publicParams : Execution → PublicParams
  | .deposit p => .deposit p.tokenAddress p.accountAddress p.oldCommitment
  | .merge p => .merge p.tokenAddress p.accountAddress p.commitmentA p.commitmentB p.rootHi p.rootLo
  | .transfer p => .transfer p.tokenAddress p.senderAddress p.recipientAddress
      p.oldSenderCommitment p.rootHi p.rootLo
  | .withdraw p => .withdraw p.tokenAddress p.accountAddress p.commitment p.rootHi p.rootLo

/-- the words that `main` returns -/
def returns (std : Std) : Execution → Except String (List Field)
  | .deposit p => do
    let (newCommitment, nullifier) ← p.main std
    return [newCommitment, nullifier]
  | .merge p => do
    let (mergedCommitment, nullifierA, nullifierB) ← p.main std
    return [mergedCommitment, nullifierA, nullifierB]
  | .transfer p => do
    let (recipientCommitment, changeCommitment, nullifier) ← p.main std
    return [recipientCommitment, changeCommitment, nullifier]
  | .withdraw p => do
    let (changeCommitment, nullifier) ← p.main std
    return [changeCommitment, nullifier]

def hidden : Execution → Hidden
  | .deposit p =>
    { secret := p.accountSk
      amounts := [low 64 p.oldAmount.val, low 64 p.amount.val]
      blindings := [p.oldBlinding, p.blinding] }
  | .merge p =>
    { secret := p.accountSk
      amounts := [low 64 p.amountA.val, low 64 p.amountB.val]
      blindings := [p.blindingA, p.blindingB, p.blinding] }
  | .transfer p =>
    { secret := p.senderSk
      amounts := [low 64 p.amount.val, low 64 p.oldAmount.val]
      blindings := [p.oldBlinding, p.recipientBlinding, p.changeBlinding] }
  | .withdraw p =>
    { secret := p.accountSk
      amounts := [low 64 p.amount.val, low 64 p.oldAmount.val]
      blindings := [p.oldBlinding, p.changeBlinding] }

/-- `n` is behind a commitment that `e` consumes or returns -/
def HasNote (e : Execution) (n : Note) : Prop :=
  n ∈ e.consumed.map Prod.snd ∨ ∃ ns, e.produced = .ok ns ∧ n ∈ ns

/-! ## the returned words -/

/-- the new commitments come first, then the nullifiers -/
theorem returns_ok {std : Std} {e : Execution} {ws : List Field} :
    e.returns std = .ok ws ↔ ∃ E, e.run std = .ok E ∧ ws = E.produced ++ E.spent.map Prod.snd := by
  cases e <;> simp only [returns, run, bind_ok, pure_ok]
  all_goals
    constructor
    · intro h
      obtain ⟨out, hout, rfl⟩ := h
      exact ⟨_, ⟨out, hout, rfl⟩, rfl⟩
    · intro h
      obtain ⟨_, ⟨out, hout, rfl⟩, rfl⟩ := h
      exact ⟨out, hout, rfl⟩

theorem returns_notes {std : Std} {e : Execution} {ws : List Field} (h : e.returns std = .ok ws) :
    e.owner = keyHash std e.secret ∧ (∀ q ∈ e.consumed, q.1 = q.2.commitment std) ∧
    ∃ ns, e.produced = .ok ns ∧
      ws = ns.map (Note.commitment std) ++ e.consumed.map fun q => e.nullifierOf std q.1 := by
  obtain ⟨E, hrun, rfl⟩ := returns_ok.mp h
  obtain ⟨howner, hopen, ns, hns, rfl⟩ := run_ok.mp hrun
  refine ⟨howner, hopen, ns, hns, ?_⟩
  unfold effect
  rw [List.map_map]
  rfl

/-! ## the notes are determined -/

@[simp] theorem publicParams_owner (e : Execution) : e.publicParams.owner = e.owner := by
  cases e <;> rfl

@[simp] theorem publicParams_commitments (e : Execution) :
    e.publicParams.commitments = e.consumed.map Prod.fst := by
  cases e <;> rfl

/-- notes that do not collide are determined by their commitments -/
theorem notes_eq_of_commitments {std : Std} {ns ns' : List Note}
    (hinj : Set.InjOn (Note.commitment std) {n | n ∈ ns ∨ n ∈ ns'})
    (h : ns.map (Note.commitment std) = ns'.map (Note.commitment std)) : ns = ns' := by
  induction ns generalizing ns' with
  | nil => exact (List.map_eq_nil_iff.mp h.symm).symm
  | cons n ns ih =>
    cases ns' with
    | nil => cases h
    | cons n' ns' =>
      obtain ⟨hhead, htail⟩ := List.cons.inj h
      have hn : n = n' := hinj (Or.inl List.mem_cons_self) (Or.inr List.mem_cons_self) hhead
      have hns : ns = ns' := by
        apply ih _ htail
        apply hinj.mono
        intro m hm
        exact hm.imp (List.mem_cons_of_mem _) (List.mem_cons_of_mem _)
      rw [hn, hns]

theorem consumed_notes {std : Std} {e : Execution}
    (hopen : ∀ q ∈ e.consumed, q.1 = q.2.commitment std) :
    (e.consumed.map Prod.snd).map (Note.commitment std) = e.consumed.map Prod.fst := by
  rw [List.map_map]
  exact List.map_congr_left fun q hq => (hopen q hq).symm

/-- **The notes of an execution are determined by its public words.** -/
theorem notes_unique {std : Std} {e e' : Execution} {ws : List Field}
    (h : e.returns std = .ok ws) (h' : e'.returns std = .ok ws)
    (hparams : e.publicParams = e'.publicParams)
    (hcommit : Set.InjOn (Note.commitment std) {n | e.HasNote n ∨ e'.HasNote n}) :
    e.consumed.map Prod.snd = e'.consumed.map Prod.snd ∧
    ∃ ns, e.produced = .ok ns ∧ e'.produced = .ok ns := by
  obtain ⟨_, hopen, ns, hns, hws⟩ := returns_notes h
  obtain ⟨_, hopen', ns', hns', hws'⟩ := returns_notes h'
  have hfst : e.consumed.map Prod.fst = e'.consumed.map Prod.fst := by
    rw [← publicParams_commitments, ← publicParams_commitments, hparams]
  have hlen : e.consumed.length = e'.consumed.length := by
    simpa only [List.length_map] using congrArg List.length hfst
  refine ⟨?_, ns, hns, ?_⟩
  · apply notes_eq_of_commitments
    · exact hcommit.mono fun n hn => hn.imp Or.inl Or.inl
    · rw [consumed_notes hopen, consumed_notes hopen', hfst]
  · -- the nullifiers at the end of the returned words are as many
    have hsplit := List.append_inj_left' (hws.symm.trans hws') (by
      rw [List.length_map, List.length_map, hlen])
    have heq : ns = ns' := by
      apply notes_eq_of_commitments _ hsplit
      exact hcommit.mono fun n hn =>
        hn.imp (fun hm => Or.inr ⟨ns, hns, hm⟩) (fun hm => Or.inr ⟨ns', hns', hm⟩)
    rw [heq]
    exact hns'

/-! ## the words are determined -/

section
variable {ns : List Note}

theorem deposit_words {p p' : Deposit} (h : (deposit p).produced = .ok ns)
    (h' : (deposit p').produced = .ok ns) (hold : p.oldAmount = p'.oldAmount) :
    low 64 p.amount.val = low 64 p'.amount.val ∧ p.blinding = p'.blinding := by
  obtain ⟨_, _, s, hs, hns⟩ := produced_deposit.mp h
  obtain ⟨_, _, s', hs', hns'⟩ := produced_deposit.mp h'
  obtain ⟨hsum, hblinding⟩ := Note.mk.inj (List.cons.inj (hns.symm.trans hns')).1
  refine ⟨?_, hblinding⟩
  rw [hsum, hs', hold] at hs
  omega

theorem merge_words {p p' : Merge} (h : (merge p).produced = .ok ns)
    (h' : (merge p').produced = .ok ns) : p.blinding = p'.blinding := by
  obtain ⟨_, _, s, _, hns⟩ := produced_merge.mp h
  obtain ⟨_, _, s', _, hns'⟩ := produced_merge.mp h'
  exact (Note.mk.inj (List.cons.inj (hns.symm.trans hns')).1).2

/-- a transfer commits to the amount itself -/
theorem transfer_words {p p' : Transfer} (h : (transfer p).produced = .ok ns)
    (h' : (transfer p').produced = .ok ns) :
    p.amount = p'.amount ∧ p.recipientBlinding = p'.recipientBlinding ∧
      p.changeBlinding = p'.changeBlinding := by
  obtain ⟨_, _, _, s, _, hns⟩ := produced_transfer.mp h
  obtain ⟨_, _, _, s', _, hns'⟩ := produced_transfer.mp h'
  obtain ⟨hrecipient, hrest⟩ := List.cons.inj (hns.symm.trans hns')
  obtain ⟨hamount, hblinding⟩ := Note.mk.inj hrecipient
  exact ⟨hamount, hblinding, (Note.mk.inj (List.cons.inj hrest).1).2⟩

theorem withdraw_words {p p' : Withdraw} (h : (withdraw p).produced = .ok ns)
    (h' : (withdraw p').produced = .ok ns) (hold : p.oldAmount = p'.oldAmount) :
    low 64 p.amount.val = low 64 p'.amount.val ∧ p.changeBlinding = p'.changeBlinding := by
  obtain ⟨_, _, hle, s, hs, hns⟩ := produced_withdraw.mp h
  obtain ⟨_, _, hle', s', hs', hns'⟩ := produced_withdraw.mp h'
  obtain ⟨hrest, hblinding⟩ := Note.mk.inj (List.cons.inj (hns.symm.trans hns')).1
  refine ⟨?_, hblinding⟩
  rw [hrest, hs', hold] at hs
  rw [hold] at hle
  omega

end

/-- **The private words of an execution are determined by its notes and its secret.** -/
theorem hidden_eq_of_notes {e e' : Execution} {ns : List Note}
    (hparams : e.publicParams = e'.publicParams) (hsecret : e.secret = e'.secret)
    (hconsumed : e.consumed.map Prod.snd = e'.consumed.map Prod.snd)
    (hns : e.produced = .ok ns) (hns' : e'.produced = .ok ns) : e.hidden = e'.hidden := by
  cases e with
  | deposit p =>
    cases e' with
    | deposit p' =>
      obtain ⟨hold, hblinding⟩ := Note.mk.inj (List.cons.inj hconsumed).1
      obtain ⟨hamount, hnew⟩ := deposit_words hns hns' hold
      have hsk : p.accountSk = p'.accountSk := hsecret
      simp only [hidden, hsk, hold, hblinding, hamount, hnew]
    | merge _ => cases hparams
    | transfer _ => cases hparams
    | withdraw _ => cases hparams
  | merge p =>
    cases e' with
    | merge p' =>
      obtain ⟨hheadA, htail⟩ := List.cons.inj hconsumed
      obtain ⟨hamountA, hblindingA⟩ := Note.mk.inj hheadA
      obtain ⟨hamountB, hblindingB⟩ := Note.mk.inj (List.cons.inj htail).1
      have hnew := merge_words hns hns'
      have hsk : p.accountSk = p'.accountSk := hsecret
      simp only [hidden, hsk, hamountA, hblindingA, hamountB, hblindingB, hnew]
    | deposit _ => cases hparams
    | transfer _ => cases hparams
    | withdraw _ => cases hparams
  | transfer p =>
    cases e' with
    | transfer p' =>
      obtain ⟨hold, hblinding⟩ := Note.mk.inj (List.cons.inj hconsumed).1
      obtain ⟨hamount, hrecipient, hchange⟩ := transfer_words hns hns'
      have hsk : p.senderSk = p'.senderSk := hsecret
      simp only [hidden, hsk, hold, hblinding, hamount, hrecipient, hchange]
    | deposit _ => cases hparams
    | merge _ => cases hparams
    | withdraw _ => cases hparams
  | withdraw p =>
    cases e' with
    | withdraw p' =>
      obtain ⟨hold, hblinding⟩ := Note.mk.inj (List.cons.inj hconsumed).1
      obtain ⟨hamount, hchange⟩ := withdraw_words hns hns' hold
      have hsk : p.accountSk = p'.accountSk := hsecret
      simp only [hidden, hsk, hold, hblinding, hamount, hchange]
    | deposit _ => cases hparams
    | merge _ => cases hparams
    | transfer _ => cases hparams

end Execution

/-- **One set of public words has one explanation.**  Two accepted executions of one circuit with
the same public parameters and the same returned words agree on the secret, on every blinding and
on the low word of every amount, if the address hash does not collide on their secrets and `commit`
does not collide on their notes. -/
theorem openings_unique {std : Std} {e e' : Execution} {ws : List Field}
    (h : e.returns std = .ok ws) (h' : e'.returns std = .ok ws)
    (hparams : e.publicParams = e'.publicParams)
    (hhash : keyHash std e.secret = keyHash std e'.secret → e.secret = e'.secret)
    (hcommit : Set.InjOn (Note.commitment std) {n | e.HasNote n ∨ e'.HasNote n}) :
    e.hidden = e'.hidden := by
  have howner : e.owner = keyHash std e.secret := (Execution.returns_notes h).1
  have howner' : e'.owner = keyHash std e'.secret := (Execution.returns_notes h').1
  have hsecret : e.secret = e'.secret := by
    apply hhash
    rw [← howner, ← howner', ← Execution.publicParams_owner, ← Execution.publicParams_owner, hparams]
  obtain ⟨hconsumed, ns, hns, hns'⟩ := Execution.notes_unique h h' hparams hcommit
  exact Execution.hidden_eq_of_notes hparams hsecret hconsumed hns hns'

/-- the recorded withdrawal, of an amount with one more bit above the low word -/
def withdrawHigh : Execution :=
  .withdraw
    { tokenAddress := felt 0x746f6b656e
      accountAddress := felt 0x06871944eb38ea75866d42609302692a55e12cf7620a50f2cf03381b9b382b72
      commitment := felt 0x076db33552d93aa30f635808d1ca29a8e03dd1f5f396bf2caf7df85a8038e2d0
      rootHi := felt 0xabababababababababababababababab
      rootLo := felt 0xabababababababababababababababab
      accountSk := felt 0x1234, amount := felt (2^64 + 300), oldAmount := felt 1000
      oldBlinding := felt 5, changeBlinding := felt 8 }

/-- two withdrawals with one set of public words: the amounts differ, their low words do not -/
theorem openings_unique_withdraw : ∃ (e e' : Execution) (ws : List Field),
    e.returns Std.vectors = .ok ws ∧ e'.returns Std.vectors = .ok ws ∧
    e.publicParams = e'.publicParams ∧ e ≠ e' ∧ e.hidden = e'.hidden := by
  have h : recordedWithdraw.returns Std.vectors
      = .ok [0x01b98de4fa954312e6957dd3074011418e26385cd85fa8bd3a711a6c1d578063,
        0x15380738274c4c2de28a249de47def2269bd4d476cd63b570348e6410cc57d4a] := rfl
  have h' : withdrawHigh.returns Std.vectors
      = .ok [0x01b98de4fa954312e6957dd3074011418e26385cd85fa8bd3a711a6c1d578063,
        0x15380738274c4c2de28a249de47def2269bd4d476cd63b570348e6410cc57d4a] := rfl
  have hnote : ∀ n, recordedWithdraw.HasNote n ∨ withdrawHigh.HasNote n →
      n = ⟨1000, 5⟩ ∨ n = ⟨700, 8⟩ := by
    intro n hn
    rcases hn with (hn | ⟨ns, hns, hn⟩) | (hn | ⟨ns, hns, hn⟩)
    · exact Or.inl (List.mem_singleton.mp hn)
    · cases hns
      exact Or.inr (List.mem_singleton.mp hn)
    · exact Or.inl (List.mem_singleton.mp hn)
    · cases hns
      exact Or.inr (List.mem_singleton.mp hn)
  have hne : (Note.mk 1000 5).commitment Std.vectors ≠ (Note.mk 700 8).commitment Std.vectors := by
    decide
  have hcommit : Set.InjOn (Note.commitment Std.vectors)
      {n | recordedWithdraw.HasNote n ∨ withdrawHigh.HasNote n} := by
    intro n hn n' hn' heq
    rcases hnote n hn with rfl | rfl
    · rcases hnote n' hn' with rfl | rfl
      · rfl
      · exact absurd heq hne
    · rcases hnote n' hn' with rfl | rfl
      · exact absurd heq.symm hne
      · rfl
  refine ⟨_, _, _, h, h', rfl, ?_, openings_unique h h' rfl (fun _ => rfl) hcommit⟩
  intro heq
  have hamount : (felt 300 : Field) = felt (2^64 + 300) :=
    congrArg Withdraw.amount (Execution.withdraw.inj heq)
  exact absurd hamount (by decide)

end Crucible
