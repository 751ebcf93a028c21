import Crucible.Circuit.Execution
import Crucible.Circuit.Spending
import Crucible.Interfaces.Numbers
import Crucible.ProverCore.Policy

/-!
# The state root, from the request to the nullifier

A root of 256 bits does not fit a field element, so requests and circuits carry its halves.

* `dispatched_root`      a state-bound request that reaches a provider names, in its public
                         inputs, the halves of the root it references;
* `nullifiers_differ`    the field elements of the halves determine the root (`roots_injective`),
                         so executions bound to different roots share no nullifier.
-/

namespace Crucible
open Checked

/-! ## the request -/

/-- **A dispatched state-bound request proves against the root it references**: the public inputs
under the names of the halves are below `2^128` and make up the root. -/
theorem dispatched_root {service : ProverService} {r : ProofRequest} {p : Provider}
    (hdisp : service.Dispatched r p) (hbuilt : r.Built)
    (hop : r.operation = .merge ∨ r.operation = .transfer ∨ r.operation = .withdraw) :
    ∃ s hi lo, r.stateReference = some s ∧ r.publicInputs.get "root_hi" = some hi ∧
      r.publicInputs.get "root_lo" = some lo ∧ hi.number < 2^128 ∧ lo.number < 2^128 ∧
      hi.number * 2^128 + lo.number = s.root.number := by
  obtain ⟨hvalid, _, hpub⟩ := ProverService.preflight_ok.mp hdisp.1
  obtain ⟨_, _, hstate, hroot⟩ := ProofRequest.validate_ok.mp hvalid
  have hbound : r.operation.stateBound := by
    rcases hop with h | h | h <;> rw [h] <;> rfl
  obtain ⟨s, hs⟩ := hstate hbound
  have hhi := hpub _ ((root_mem_publicParams r.operation).1.mpr hbound)
  have hlo := hpub _ ((root_mem_publicParams r.operation).2.mpr hbound)
  obtain ⟨hi, hhi⟩ := Option.isSome_iff_exists.mp hhi
  obtain ⟨lo, hlo⟩ := Option.isSome_iff_exists.mp hlo
  obtain ⟨hi', lo', hhalves, hlt, hlt', hnum⟩ :=
    StateReference.rootHalves_number (hbuilt.root s hs)
  have heq := hhalves.symm.trans (hroot s hi lo hs hhi hlo)
  obtain ⟨rfl, rfl⟩ := Prod.mk.inj (Option.some.inj heq)
  exact ⟨s, hi', lo', hs, hhi, hlo, hlt, hlt', hnum⟩

/-- a root with leading zeros in both halves -/
def splitState : StateReference where
  root := ⟨"00000000000000000000000000000001000000000000000000000000000000ff"⟩
  sequence := 7
  label := none

/-- a merge of zeros at that root -/
def splitRequest : ProofRequest :=
  { minimalRequest .merge (.forOperation .merge) ⟨0, 1, 0⟩ ⟨BackendId.mock⟩ with
    publicInputs := ⟨[("token_address", .zero), ("account_address", .zero),
      ("commitment_a", .zero), ("commitment_b", .zero), ("root_hi", ⟨"1", canonical_one⟩),
      ("root_lo", ⟨"ff", by decide⟩)]⟩
    stateReference := some splitState }

theorem splitRequest_dispatched : idleService.Dispatched splitRequest idleProvider := by
  refine ⟨ProverService.preflight_ok.mpr ⟨?_, by decide, by decide⟩,
    ProviderRegistry.select_ok.mpr ⟨rfl, rfl⟩⟩
  refine ProofRequest.validate_ok.mpr ⟨rfl, rfl, fun _ => ⟨_, rfl⟩, ?_⟩
  intro s hi lo hs hhi hlo
  obtain rfl := Option.some.inj hs
  obtain rfl := Option.some.inj hhi
  obtain rfl := Option.some.inj hlo
  decide +kernel

theorem dispatched_root_split :
    ∃ s hi lo, splitRequest.stateReference = some s ∧
      splitRequest.publicInputs.get "root_hi" = some hi ∧
      splitRequest.publicInputs.get "root_lo" = some lo ∧ hi.number < 2^128 ∧
      lo.number < 2^128 ∧ hi.number * 2^128 + lo.number = s.root.number := by
  refine dispatched_root splitRequest_dispatched ⟨by decide, by decide, ⟨by decide, by decide⟩, ?_⟩
    (.inl rfl)
  intro s hs
  obtain rfl := Option.some.inj hs
  decide

/-! ## the circuits -/

theorem two_pow_128_lt_modulus : 2^128 < modulus := by decide

theorem felt_val {n : Nat} (h : n < modulus) : (felt n).val = n := ZMod.val_natCast_of_lt h

/-- the execution runs with the field elements of the halves of the root of `s` -/
def Execution.BoundTo (e : Execution) (s : StateReference) : Prop :=
  ∃ hi lo, s.rootHalves = some (hi, lo) ∧ e.roots = [felt hi.number, felt lo.number]

/-- the field elements determine the root -/
theorem roots_injective {e e' : Execution} {s s' : StateReference} (hs : s.root.WellFormed)
    (hs' : s'.root.WellFormed) (hb : e.BoundTo s) (hb' : e'.BoundTo s')
    (h : e.roots = e'.roots) : s.root = s'.root := by
  obtain ⟨hi, lo, hhalves, hroots⟩ := hb
  obtain ⟨hi', lo', hhalves', hroots'⟩ := hb'
  obtain ⟨a, b, hab, ha, hb, hnum⟩ := StateReference.rootHalves_number hs
  obtain ⟨a', b', hab', ha', hb', hnum'⟩ := StateReference.rootHalves_number hs'
  obtain ⟨rfl, rfl⟩ := Prod.mk.inj (Option.some.inj (hab.symm.trans hhalves))
  obtain ⟨rfl, rfl⟩ := Prod.mk.inj (Option.some.inj (hab'.symm.trans hhalves'))
  have hmod := two_pow_128_lt_modulus
  rw [hroots, hroots'] at h
  obtain ⟨hhi, htail⟩ := List.cons.inj h
  obtain ⟨hlo, _⟩ := List.cons.inj htail
  have hhi := congrArg ZMod.val hhi
  have hlo := congrArg ZMod.val hlo
  rw [felt_val (by omega), felt_val (by omega)] at hhi hlo
  refine RootDigest.eq_of_number hs hs' ?_
  rw [← hnum, ← hnum', hhi, hlo]

/-- **Executions bound to different roots share no nullifier**, of whatever circuits and on
whatever witnesses, as long as the preimages of their nullifiers do not collide. -/
theorem nullifiers_differ {std : Std} {s s' : StateReference} {e e' : Execution}
    {E E' : Effect} (hs : s.root.WellFormed) (hs' : s'.root.WellFormed)
    (hne : s.root ≠ s'.root) (h : e.run std = .ok E) (h' : e'.run std = .ok E')
    (hb : e.BoundTo s) (hb' : e'.BoundTo s')
    (hinj : ∀ c ∈ e.consumed.map Prod.fst, ∀ c' ∈ e'.consumed.map Prod.fst,
      std.pedersenHash (e.nullifierPreimage c) = std.pedersenHash (e'.nullifierPreimage c') →
        e.nullifierPreimage c = e'.nullifierPreimage c') :
    ∀ n ∈ E.spent.map Prod.snd, n ∉ E'.spent.map Prod.snd := by
  intro n hn hn'
  obtain ⟨⟨c, _⟩, hc, rfl⟩ := List.mem_map.mp hn
  obtain ⟨⟨c', m⟩, hc', hm⟩ := List.mem_map.mp hn'
  obtain rfl : m = _ := hm
  have hcons := (Execution.run_consumes h (List.mem_map.mpr ⟨_, hc, rfl⟩)).2
  have hcons' := (Execution.run_consumes h' (List.mem_map.mpr ⟨_, hc', rfl⟩)).2
  have hhash := (Execution.run_nullifier h hc).symm.trans (Execution.run_nullifier h' hc')
  have hpre := hinj c hcons c' hcons' hhash
  obtain ⟨_, htail⟩ := List.cons.inj hpre
  obtain ⟨_, htail⟩ := List.cons.inj htail
  obtain ⟨_, hroots⟩ := List.cons.inj htail
  exact hne (roots_injective hs hs' hb hb' hroots)

/-- the root of the recorded executions -/
def recordedState : StateReference where
  root := ⟨"abababababababababababababababababababababababababababababababab"⟩
  sequence := 1
  label := none

/-- the recorded withdrawal, at the root of `splitState` -/
def splitWithdraw : Execution :=
  .withdraw
    { tokenAddress := felt 0x746f6b656e
      accountAddress := felt 0x06871944eb38ea75866d42609302692a55e12cf7620a50f2cf03381b9b382b72
      commitment := felt 0x076db33552d93aa30f635808d1ca29a8e03dd1f5f396bf2caf7df85a8038e2d0
      rootHi := felt 1, rootLo := felt 0xff, accountSk := felt 0x1234, amount := felt 300
      oldAmount := felt 1000, oldBlinding := felt 5, changeBlinding := felt 8 }

theorem nullifiers_differ_recorded : ∃ E E' : Effect,
    recordedWithdraw.run Std.vectors = .ok E ∧ splitWithdraw.run Std.vectors = .ok E' ∧
    ∀ n ∈ E.spent.map Prod.snd, n ∉ E'.spent.map Prod.snd := by
  have h : recordedWithdraw.run Std.vectors
      = .ok (recordedWithdraw.effect Std.vectors [⟨700, 8⟩]) := rfl
  have h' : splitWithdraw.run Std.vectors
      = .ok (splitWithdraw.effect Std.vectors [⟨700, 8⟩]) := rfl
  have hb : recordedWithdraw.BoundTo recordedState :=
    ⟨⟨"abababababababababababababababab", by decide⟩,
      ⟨"abababababababababababababababab", by decide⟩, by decide +kernel, by decide⟩
  have hb' : splitWithdraw.BoundTo splitState :=
    ⟨⟨"1", by decide⟩, ⟨"ff", by decide⟩, by decide +kernel, by decide⟩
  refine ⟨_, _, h, h', nullifiers_differ (by decide) (by decide) (by decide) h h' hb hb' ?_⟩
  intro c hc c' hc' hhash
  obtain rfl := List.mem_singleton.mp hc
  obtain rfl := List.mem_singleton.mp hc'
  exact absurd hhash (by decide)

end Crucible
