import Crucible.Mock.Verifier
import Crucible.UltraHonk.Binding

/-!
# The two verifiers side by side

* `LocalVerifier`        a mock verifier, or an UltraHonk verifier on some machine;
* `sequence_bound_iff`   a verified request is refused under another sequence number exactly
                         when the verifier is the mock: UltraHonk reads the root of a state
                         reference and nothing else.
-/

namespace Crucible
open Checked

inductive LocalVerifier where
  | mock (crates : MockCrates) (v : MockVerifier)
  | ultraHonk (host : Host) (v : UltraHonkVerifier)

def LocalVerifier.verify : LocalVerifier → Verifies
  | .mock crates v => v.verify crates
  | .ultraHonk host v => v.verify host

def LocalVerifier.isMock : LocalVerifier → Bool
  | .mock _ _ => true
  | .ultraHonk _ _ => false

/-- the request, with its state reference moved to another sequence number -/
def VerificationRequest.atSequence (r : VerificationRequest) (state : StateReference)
    (sequence : UInt64) : VerificationRequest :=
  { r with stateReference := some { state with sequence := sequence } }

section
variable {r : VerificationRequest} {state : StateReference} {sequence : UInt64}

/-- what the mock verifies of one proof, it verifies for one state reference -/
theorem MockVerifier.state_unique {crates : MockCrates} {v : MockVerifier}
    {other : Option StateReference} (h : Verified (v.verify crates) r)
    (h' : Verified (v.verify crates) { r with stateReference := other }) :
    r.stateReference = other := by
  have henv := (MockVerifier.verified_iff.mp h).2.2.2
  have henv' := (MockVerifier.verified_iff.mp h').2.2.2
  have heq := Except.ok.inj (henv.symm.trans henv')
  exact congrArg MockEnvelope.stateReference heq

/-- the agreement with the root does not look at the sequence number -/
theorem stateAgrees_atSequence (hs : r.stateReference = some state) (h : StateAgrees r) :
    StateAgrees (r.atSequence state sequence) := by
  intro hi lo hhi hlo
  obtain ⟨s, hs', hhalves⟩ := h hi lo hhi hlo
  rw [hs] at hs'
  obtain rfl := Option.some.inj hs'
  exact ⟨_, rfl, hhalves⟩

/-- **The sequence number is bound by the mock and by nothing else.** -/
theorem sequence_bound_iff {v : LocalVerifier} (h : Verified v.verify r)
    (hs : r.stateReference = some state) (hne : sequence ≠ state.sequence) :
    ¬ Verified v.verify (r.atSequence state sequence) ↔ v.isMock := by
  cases v with
  | mock crates v =>
    refine iff_of_true (fun h' => ?_) rfl
    have heq : r.stateReference = some { state with sequence := sequence } :=
      MockVerifier.state_unique h h'
    rw [hs] at heq
    exact hne (congrArg StateReference.sequence (Option.some.inj heq)).symm
  | ultraHonk host v =>
    refine iff_of_false (not_not.mpr ?_) (by simp [LocalVerifier.isMock])
    obtain ⟨hcontent, hagrees⟩ := verified_iff.mp h
    exact verified_iff.mpr
      ⟨(content_congr rfl).mpr hcontent, stateAgrees_atSequence hs hagrees⟩

end

theorem sequence_bound_iff_transfer :
    ¬ Verified (LocalVerifier.ultraHonk transferHost transferVerifier).verify
        (transferRequest.atSequence transferState 8) ↔
      (LocalVerifier.ultraHonk transferHost transferVerifier).isMock :=
  sequence_bound_iff transfer_verified rfl (by decide)

theorem transfer_verified_at_sequences :
    Verified (transferVerifier.verify transferHost) transferRequest ∧
    transferRequest.stateReference = some transferState ∧
    (8 : UInt64) ≠ transferState.sequence ∧
    Verified (transferVerifier.verify transferHost)
      (transferRequest.atSequence transferState 8) := by
  refine ⟨transfer_verified, rfl, by decide, verified_iff.mpr ⟨?_, ?_⟩⟩
  · exact (content_congr rfl).mpr transfer_content
  · exact stateAgrees_atSequence rfl (verified_iff.mp transfer_verified).2

end Crucible
