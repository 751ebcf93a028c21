import Crucible.Interfaces.Proof

/-!
# Verification requests and their outcomes (`interfaces/src/verifier/`)

A verifier answers a request with an outcome (verified, or rejected for a reason), returns an
error, or panics.  The verifiers of the repository are lists of checks that return at the first
one that fails; here such a list is an `Except Halt Unit`, and `conclude` is the answer it gives.

* `Halt`               how a list of checks stops early;
* `conclude_verified`  the answer is `verified` exactly when every check passes.
-/

namespace Crucible
open Checked

inductive VerificationFailure where
  | invalidProof
  | publicOutputMismatch
  | stateReferenceMismatch
  | wrongVerificationKey
  | circuitMismatch
  | versionMismatch
  | artifactChecksumMismatch
  | backendMismatch
  | missingStateBinding
deriving DecidableEq

structure VerificationOutcome where
  verified : Bool
  failure : Option VerificationFailure
deriving DecidableEq

def VerificationOutcome.positive : VerificationOutcome := { verified := true, failure := none }

def VerificationOutcome.rejected (failure : VerificationFailure) : VerificationOutcome :=
  { verified := false, failure := some failure }

inductive VerifierError where
  | unsupportedVerifier (format backend : String)
  | invalidRequest (reason : String)
  | verificationUnavailable (backend reason : String)
  | internal (reason : String)
deriving DecidableEq

def VerifierError.message : VerifierError → String
  | .unsupportedVerifier format backend =>
    s!"no verifier registered for format `{format}` on backend `{backend}`"
  | .invalidRequest reason => s!"invalid verification request: {reason}"
  | .verificationUnavailable backend reason => s!"verifier backend `{backend}` failed: {reason}"
  | .internal reason => s!"internal verifier error: {reason}"

structure VerificationRequest where
  requestId : RequestId
  proof : ProofBlob
  circuit : CircuitId
  circuitVersion : Version
  backend : BackendId
  verificationKeyId : VerificationKeyId
  artifactChecksum : ArtifactChecksum
  publicOutputs : OutputBag
  stateReference : Option StateReference
deriving DecidableEq

def VerificationRequest.fromResponse (response : ProofResponse) : VerificationRequest where
  requestId := response.requestId
  proof := response.proof
  circuit := response.circuit
  circuitVersion := response.circuitVersion
  backend := response.backend
  verificationKeyId := response.verificationKeyId
  artifactChecksum := response.artifactChecksum
  publicOutputs := response.publicOutputs
  stateReference := response.stateReference

/-- what a call of `Verifier::verify` ends with -/
abbrev Answer := Except (Fault VerifierError) VerificationOutcome

/-- a verifier, as the calls of its `verify` -/
abbrev Verifies := VerificationRequest → Answer

/-- an early return: of a rejection, of an error, or by a panic -/
inductive Halt where
  | rejected (failure : VerificationFailure)
  | error (e : VerifierError)
  | panic

def conclude : Except Halt Unit → Answer
  | .ok () => .ok .positive
  | .error (.rejected failure) => .ok (.rejected failure)
  | .error (.error e) => .error (.error e)
  | .error .panic => .error .panic

/-- `verify` answers `verified` -/
def Verified (verify : Verifies) (r : VerificationRequest) : Prop :=
  ∃ outcome, verify r = .ok outcome ∧ outcome.verified

@[simp] theorem conclude_verified {checks : Except Halt Unit} :
    (∃ outcome, conclude checks = .ok outcome ∧ outcome.verified) ↔ checks = .ok () := by
  constructor
  · rintro ⟨outcome, h, hv⟩
    cases checks with
    | ok _ => rfl
    | error e =>
      cases e with
      | rejected failure =>
        obtain rfl := Except.ok.inj h
        cases hv
      | error e => cases h
      | panic => cases h
  · rintro rfl
    exact ⟨_, rfl, rfl⟩

/-- a check that rejects, in front of more checks -/
theorem conclude_ensure {p q : Prop} [Decidable p] [Decidable (¬ q)]
    {failure : VerificationFailure} {rest : Unit → Except Halt Unit}
    {outcome : VerificationOutcome} (hpq : p ↔ q) (hrest : q → conclude (rest ()) = .ok outcome) :
    conclude (ensure p (.rejected failure) >>= rest)
      = .ok (if ¬ q then .rejected failure else outcome) := by
  by_cases hq : q
  · rw [ensure_pos (hpq.mpr hq), if_neg (not_not.mpr hq)]
    exact hrest hq
  · rw [ensure_neg (fun hp => hq (hpq.mp hp)), if_pos hq]
    rfl

/-- a rejection in front of an outcome is not verified -/
theorem verified_of_unless {p : Prop} [Decidable p] {failure : VerificationFailure}
    {outcome : VerificationOutcome} :
    (if p then .rejected failure else outcome).verified ↔ ¬ p ∧ outcome.verified := by
  by_cases hp : p
  · rw [if_pos hp]
    refine iff_of_false (fun h => ?_) (fun h => h.1 hp)
    cases h
  · rw [if_neg hp]
    exact (and_iff_right hp).symm

end Crucible
