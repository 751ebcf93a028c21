import Crucible.Circuit.Spending

/-!
# Which hashes can coincide (`circuits/lib/src/crypto/hashing.nr`, `nullifiers.nr`)

Addresses and nullifiers are values of one hash function, of arrays of different lengths and with
different heads.

* `nullifiers_distinct`      two consumptions by two owners, or of two commitments, have two
                             nullifiers;
* `address_separated_iff`    an address is the generic hash of one array, the key domain with its
                             secret; `pedersenHashFields` folds in no domain of its own.

The results assume of the hash that the arrays at hand do not collide.
-/

namespace Crucible
open Checked

/-! ## nullifiers -/

/-- `e` is accepted, and emits the nullifier `n` for the commitment `c` -/
def Execution.Emits (std : Std) (e : Execution) (c n : Field) : Prop :=
  ∃ E, e.run std = .ok E ∧ (c, n) ∈ E.spent

theorem Execution.Emits.eq_hash {std : Std} {e : Execution} {c n : Field} (h : e.Emits std c n) :
    n = std.pedersenHash (e.nullifierPreimage c) := by
  obtain ⟨E, hrun, hspent⟩ := h
  exact run_nullifier hrun hspent

/-- owner and commitment come first in what a nullifier is the hash of, whatever follows -/
theorem Execution.nullifierPreimage_inj {e e' : Execution} {c c' : Field}
    (h : e.nullifierPreimage c = e'.nullifierPreimage c') : e.secret = e'.secret ∧ c = c' := by
  obtain ⟨hsecret, hrest⟩ := List.cons.inj h
  exact ⟨hsecret, (List.cons.inj hrest).1⟩

/-- **No false double-spend.**  Two consumptions by accepted executions, of the same or of different
circuits, or in one merge, emit two nullifiers if the secrets or the commitments differ. -/
theorem nullifiers_distinct {std : Std} {e e' : Execution} {c c' n n' : Field}
    (h : e.Emits std c n) (h' : e'.Emits std c' n')
    (hhash : std.pedersenHash (e.nullifierPreimage c) = std.pedersenHash (e'.nullifierPreimage c') →
      e.nullifierPreimage c = e'.nullifierPreimage c')
    (hne : e.secret ≠ e'.secret ∨ c ≠ c') : n ≠ n' := by
  intro heq
  rw [h.eq_hash, h'.eq_hash] at heq
  obtain ⟨hsecret, hcommitment⟩ := Execution.nullifierPreimage_inj (hhash heq)
  rcases hne with hs | hc
  · exact hs hsecret
  · exact hc hcommitment

/-- the two consumptions of the recorded merge -/
theorem nullifiers_distinct_merge : ∃ n n' : Field,
    (Execution.merge recordedMerge).Emits Std.vectors recordedMerge.commitmentA n ∧
    (Execution.merge recordedMerge).Emits Std.vectors recordedMerge.commitmentB n' ∧ n ≠ n' := by
  have hrun : (Execution.merge recordedMerge).run Std.vectors
      = .ok ((Execution.merge recordedMerge).effect Std.vectors [⟨1000, 13⟩]) := rfl
  have ha : (Execution.merge recordedMerge).Emits Std.vectors recordedMerge.commitmentA
      0x04f44f2dfc73d3757775a3d7d47fa2dbc756174749b797f225fa98dcf2f18847 :=
    ⟨_, hrun, List.mem_cons_self⟩
  have hb : (Execution.merge recordedMerge).Emits Std.vectors recordedMerge.commitmentB
      0x0128ac89d32f0bd3cf802582d11b512adb251a2e231daf78ac0de3112a55a097 :=
    ⟨_, hrun, List.mem_cons_of_mem _ List.mem_cons_self⟩
  have hne : recordedMerge.commitmentA ≠ recordedMerge.commitmentB := by decide
  refine ⟨_, _, ha, hb, nullifiers_distinct ha hb (fun heq => ?_) (Or.inr hne)⟩
  exact absurd heq (by decide)

/-! ## addresses -/

section
variable {std : Std} {s : Field}

/-- where its array does not collide with another, an address is the hash of that array only -/
theorem keyHash_ne_iff {xs : List Field}
    (hhash : std.pedersenHash [keyDomain, s] = std.pedersenHash xs → [keyDomain, s] = xs) :
    keyHash std s ≠ pedersenHashFields std xs ↔ xs ≠ [keyDomain, s] := by
  refine not_congr ?_
  unfold keyHash pedersenHashFields
  exact ⟨fun heq => (hhash heq).symm, fun heq => by rw [heq]⟩

/-- **An address is separated from every generic hash but one**: that of the key domain and its own
secret.  A nullifier of two fields can be that one; the nullifiers that fold in a token cannot. -/
theorem address_separated_iff {xs : List Field}
    (hhash : std.pedersenHash [keyDomain, s] = std.pedersenHash xs → [keyDomain, s] = xs) :
    (keyHash std s ≠ pedersenHashFields std xs ↔ xs ≠ [keyDomain, s]) ∧
    (∀ secret c, xs = [secret, c] →
      (keyHash std s ≠ nullifier std secret c ↔ ¬ (secret = keyDomain ∧ c = s))) ∧
    (∀ secret c token, xs = [secret, c, token] →
      keyHash std s ≠ nullifierForToken std secret c token) ∧
    ∀ secret c token rootHi rootLo, xs = [secret, c, token, rootHi, rootLo] →
      keyHash std s ≠ nullifierForTokenState std secret c token rootHi rootLo := by
  have hiff := keyHash_ne_iff hhash
  refine ⟨hiff, ?_, ?_, ?_⟩
  · intro secret c hxs
    subst hxs
    refine hiff.trans (not_congr ?_)
    rw [List.cons.injEq, List.cons.injEq, and_iff_left rfl]
  · intro secret c token hxs
    subst hxs
    apply hiff.mpr
    intro heq
    cases heq
  · intro secret c token rootHi rootLo hxs
    subst hxs
    apply hiff.mpr
    intro heq
    cases heq

end

theorem address_separated_iff_recorded :
    keyHash Std.vectors 0x1234 ≠ pedersenHashFields Std.vectors [0x68617368, 0x1234] := by
  refine (address_separated_iff fun heq => ?_).1.mpr (by decide)
  exact absurd heq (by decide)

/-- no hash at all separates the addresses: the tag is in the array -/
theorem address_is_generic_hash :
    ¬ ∃ std : Std, ∀ (s : Field) (xs : List Field), keyHash std s ≠ pedersenHashFields std xs := by
  intro hseparated
  obtain ⟨std, hne⟩ := hseparated
  exact hne 5 [0x6b6579, 5] rfl

end Crucible
