import Crucible.Mock.Prover
import Crucible.ProverCore.Envelope
import Crucible.UltraHonk.Verifier

/-!
# The `verify` command (`cli/src/commands/verify.rs`)

The command reads an envelope, rebuilds the verification request from it, and hands it to the
verifier of the envelope's backend.

* `enveloped_reads_back`   an envelope that has been through the round trip of the service is read
                           back unchanged, and the request rebuilt from it is the one that the
                           local verifier has accepted.
-/

namespace Crucible
open Checked Serde

/-- the request for an envelope -/
def VerificationRequest.ofEnvelope (envelope : ProofEnvelope) : VerificationRequest where
  requestId := envelope.metadata.requestId
  proof := envelope.proof
  circuit := envelope.circuit
  circuitVersion := envelope.circuitVersion
  backend := envelope.backend
  verificationKeyId := envelope.verificationKeyId
  artifactChecksum := envelope.artifactChecksum
  publicOutputs := envelope.publicOutputs
  stateReference := envelope.stateReference

/-- `Display` -/
def VerificationFailure.message : VerificationFailure → String
  | .invalidProof => "proof bytes did not verify"
  | .publicOutputMismatch => "public outputs do not match the proof"
  | .stateReferenceMismatch => "state reference does not match the proof"
  | .wrongVerificationKey => "proof was not produced under this verification key"
  | .circuitMismatch => "proof is for a different circuit"
  | .versionMismatch => "proof is for a different circuit version"
  | .artifactChecksumMismatch => "artifact checksum does not match the proof"
  | .backendMismatch => "proof format does not match this verifier"
  | .missingStateBinding => "proof requires a state binding that was not provided"

/-- what the command finds on the machine -/
structure VerifyEnv where
  text : JsonText
  /-- the envelope file: its path, and its text or the error of reading it -/
  path : String
  content : Except String String
  crates : MockCrates
  host : Host
  /-- the key store, or the error of creating it -/
  store : Except String VkStore

namespace VerifyEnv

/-- `id for circuit c v1.2.3 (backend)` -/
def describe (envelope : ProofEnvelope) : String :=
  s!"proof {envelope.metadata.requestId.id} for circuit {envelope.circuit.id} v" ++
    envelope.circuitVersion.display ++ s!" ({envelope.backend.id})"

/-- `proof id rejected for circuit c v1.2.3 (backend): reason` -/
def describeRejected (envelope : ProofEnvelope) (reason : String) : String :=
  s!"proof {envelope.metadata.requestId.id} rejected for circuit {envelope.circuit.id} v" ++
    envelope.circuitVersion.display ++ s!" ({envelope.backend.id}): {reason}"

/-- the verifier of the backend, on the request -/
def dispatch (env : VerifyEnv) (backend : BackendId) (r : VerificationRequest) :
    Except (Fault String) VerificationOutcome :=
  let unavailable : Fault VerifierError → Fault String :=
    .map fun e => s!"verification could not run: {e.message}"
  if backend.id = "mock" then (MockVerifier.new.verify env.crates r).mapError unavailable
  else if backend.id = "ultrahonk" then do
    let store ← env.store.mapError .error
    ((UltraHonkVerifier.mk store).verify env.host r).mapError unavailable
  else .error (.error (s!"envelope claims unknown backend `{backend.id}`; nothing is registered " ++
    "to verify it"))

/-- the line that is printed, or the message the command ends with -/
def run (env : VerifyEnv) : Except (Fault String) String := do
  let json ← env.content.mapError fun e => .error s!"cannot read `{env.path}`: {e}"
  let envelope ← (ProofEnvelope.fromJson env.text json).mapError fun e =>
    .error s!"`{env.path}` is not a valid proof envelope: {e.message}"
  let outcome ← env.dispatch envelope.backend (.ofEnvelope envelope)
  ensure outcome.verified (.error (describeRejected envelope
    ((outcome.failure.map VerificationFailure.message).getD "unknown")))
  return "verified: " ++ describe envelope

end VerifyEnv

theorem VerificationRequest.ofEnvelope_fromResponse (response : ProofResponse)
    (operation : Operation) (producedBy : String) :
    ofEnvelope (.fromResponse response operation producedBy) = fromResponse response := rfl

/-- **What the service has proven and verified, the command reads back unchanged**: the envelope
from its text, and in it the request that the local verifier has accepted. -/
theorem enveloped_reads_back {service : ProverService} {verify : Verifies} {r : ProofRequest}
    {envelope : ProofEnvelope} {text : JsonText} (hlocal : service.localVerifier = some verify)
    (hprove : service.proveEnvelopedAndVerify r = .ok envelope)
    (htext : text.parse (text.write (toJson envelope)) = .ok (toJson envelope)) :
    (∃ json, envelope.toJson text = .ok json ∧ ProofEnvelope.fromJson text json = .ok envelope) ∧
    ∃ response outcome, service.proveAndVerifyCore r = .ok (response, outcome) ∧
      VerificationRequest.ofEnvelope envelope = .fromResponse response ∧
      Verified verify (.ofEnvelope envelope) := by
  obtain ⟨response, outcome, hcore, rfl⟩ := ProverService.proveEnvelopedAndVerify_ok hprove
  refine ⟨⟨_, rfl, ProofEnvelope.fromJson_toJson htext (UInt32.le_refl _) rfl⟩, response, outcome,
    hcore, VerificationRequest.ofEnvelope_fromResponse .., ?_⟩
  obtain ⟨_, verify', hlocal', hverified⟩ := ProverService.proveAndVerifyCore_ok hcore
  obtain rfl := Option.some.inj (hlocal.symm.trans hlocal')
  exact hverified

/-- the envelope that the service returns -/
def transferZerosEnvelope : ProofEnvelope :=
  .fromResponse transferZerosResponse .transfer "test/0.1.0"

theorem transferService_proves :
    transferService.proveEnvelopedAndVerify transferZeros = .ok transferZerosEnvelope := by
  have hdisp : transferService.Dispatched transferZeros
      (MockProver.new.provider transferSha256 transferText) :=
    ⟨minimalRequest_preflight, ProviderRegistry.select_ok.mpr ⟨rfl, rfl⟩⟩
  have hprove : transferService.proveCore transferZeros = .ok transferZerosResponse := by
    rw [ProverService.proveCore_of_dispatched hdisp]
    exact mapError_ok.mpr transferZeros_generate
  have hverify : MockVerifier.new.verify (.of transferSha256 transferText)
      (.fromResponse transferZerosResponse) = .ok .positive := by
    rw [← contextOutcome_self transferZerosResponse]
    exact verify_response transferSha256_length transferZeros_generate transferText_parse rfl
  have hround := ProverService.verifyRoundTrip_ok.mpr ⟨hverify, rfl⟩
  have hcore : transferService.proveAndVerifyCore transferZeros
      = .ok (transferZerosResponse, .positive) := by
    simp only [ProverService.proveAndVerifyCore, bind_ok, fromOption_ok, pure_ok]
    exact ⟨_, hprove, _, rfl, _, hround, rfl⟩
  exact bind_ok.mpr ⟨_, hcore, rfl⟩

theorem enveloped_reads_back_transfer :
    (∃ json, transferZerosEnvelope.toJson (.knowing (toJson transferZerosEnvelope)) = .ok json ∧
      ProofEnvelope.fromJson (.knowing (toJson transferZerosEnvelope)) json
        = .ok transferZerosEnvelope) ∧
    ∃ response outcome,
      transferService.proveAndVerifyCore transferZeros = .ok (response, outcome) ∧
      VerificationRequest.ofEnvelope transferZerosEnvelope = .fromResponse response ∧
      Verified (MockVerifier.new.verify (.of transferSha256 transferText))
        (.ofEnvelope transferZerosEnvelope) :=
  enveloped_reads_back rfl transferService_proves JsonText.knowing_parse

end Crucible
