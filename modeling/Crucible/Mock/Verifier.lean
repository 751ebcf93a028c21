import Crucible.Interfaces.Verifier

/-!
# The mock verifier (`crates/mock/src/verifier.rs`, `prover.rs`)

A mock proof is an envelope in JSON, which repeats the whole context, and a keyed digest of it.
SHA-256 and the JSON parser are parameters.

* `MockVerifier.verify`        the checks in the order of the source;
* `MockVerifier.verified_iff`  a request is verified exactly when the digest matches and the
                               envelope repeats the request, its state reference included.
-/

namespace Crucible
open Checked

/-- `MOCK_FORMAT` -/
def mockFormat : String := "mock-envelope-v1"

/-- `DOMAIN` -/
def mockDomain : List UInt8 := "crucible-mock-envelope-v1".toUTF8.data.toList

/-- `DEFAULT_MOCK_KEY` -/
def defaultMockKey : String := "crucible-mock-key-v1-test-only"

structure MockEnvelope where
  kind : String
  circuit : CircuitId
  circuitVersion : Version
  backend : BackendId
  verificationKeyId : VerificationKeyId
  artifactChecksum : ArtifactChecksum
  publicOutputs : OutputBag
  stateReference : Option StateReference
deriving DecidableEq

/-- what the mock calls outside the crate -/
structure MockCrates where
  /-- `Sha256::digest` -/
  sha256 : List UInt8 → List UInt8
  /-- `serde_json::from_slice::<MockEnvelope>` -/
  parseEnvelope : List UInt8 → Except String MockEnvelope

/-- the error is the text of `MockEnvelopeError::Malformed` -/
def MockEnvelope.fromBytes (crates : MockCrates) (bytes : List UInt8) :
    Except String MockEnvelope := do
  let envelope ← (crates.parseEnvelope bytes).mapError fun e =>
    s!"payload is not valid mock envelope JSON: {e}"
  ensure (envelope.kind = mockFormat) s!"unexpected mock envelope kind `{envelope.kind}`"
  return envelope

structure MockVerifier where
  key : String

def MockVerifier.new : MockVerifier := ⟨defaultMockKey⟩

namespace MockVerifier
variable (crates : MockCrates) (v : MockVerifier)

def digest (payload : List UInt8) : List UInt8 :=
  crates.sha256 (mockDomain ++ payload ++ v.key.toUTF8.data.toList ++ [0])

def checkStateReference : Option StateReference → Option StateReference → Except Halt Unit
  | none, none => .ok ()
  | some embedded, some submitted =>
    ensure (embedded = submitted) (.rejected .stateReferenceMismatch)
  | none, some _ => .error (.rejected .missingStateBinding)
  | some _, none => .error (.rejected .missingStateBinding)

/-- routing; the digest, which is the last 32 bytes; and the envelope, which repeats the request -/
def checks (r : VerificationRequest) : Except Halt Unit := do
  ensure (r.proof.format.tag = mockFormat ∧ r.backend.id = BackendId.mock)
    (.rejected .backendMismatch)
  ensure (32 ≤ r.proof.bytes.length) (.rejected .invalidProof)
  let payload := r.proof.bytes.take (r.proof.bytes.length - 32)
  ensure (r.proof.bytes.drop (r.proof.bytes.length - 32) = v.digest crates payload)
    (.rejected .invalidProof)
  let envelope ← (MockEnvelope.fromBytes crates payload).mapError fun _ => .rejected .invalidProof
  ensure (envelope.backend = r.backend) (.rejected .backendMismatch)
  ensure (envelope.circuit = r.circuit) (.rejected .circuitMismatch)
  ensure (envelope.circuitVersion = r.circuitVersion) (.rejected .versionMismatch)
  ensure (envelope.verificationKeyId = r.verificationKeyId) (.rejected .wrongVerificationKey)
  ensure (envelope.artifactChecksum = r.artifactChecksum) (.rejected .artifactChecksumMismatch)
  ensure (envelope.publicOutputs = r.publicOutputs) (.rejected .publicOutputMismatch)
  checkStateReference envelope.stateReference r.stateReference

def verify : Verifies := fun r => conclude (v.checks crates r)

/-- the envelope of a mock proof of the request -/
def envelopeOf (r : VerificationRequest) : MockEnvelope where
  kind := mockFormat
  circuit := r.circuit
  circuitVersion := r.circuitVersion
  backend := r.backend
  verificationKeyId := r.verificationKeyId
  artifactChecksum := r.artifactChecksum
  publicOutputs := r.publicOutputs
  stateReference := r.stateReference

end MockVerifier

variable {crates : MockCrates}

theorem MockEnvelope.fromBytes_ok {bytes : List UInt8} {envelope : MockEnvelope} :
    MockEnvelope.fromBytes crates bytes = .ok envelope ↔
      crates.parseEnvelope bytes = .ok envelope ∧ envelope.kind = mockFormat := by
  simp only [MockEnvelope.fromBytes, bind_ok, mapError_ok, ensure_ok, pure_ok, exists_const]
  constructor
  · rintro ⟨e, hparse, hkind, rfl⟩
    exact ⟨hparse, hkind⟩
  · rintro ⟨hparse, hkind⟩
    exact ⟨_, hparse, hkind, rfl⟩

theorem MockVerifier.checkStateReference_ok {embedded submitted : Option StateReference}
    {w : Unit} : checkStateReference embedded submitted = .ok w ↔ embedded = submitted := by
  cases embedded with
  | none =>
    cases submitted with
    | none => exact iff_of_true rfl rfl
    | some s => exact iff_of_false (by intro h; cases h) (by intro h; cases h)
  | some e =>
    cases submitted with
    | none => exact iff_of_false (by intro h; cases h) (by intro h; cases h)
    | some s => rw [checkStateReference, ensure_ok, Option.some.injEq]

theorem MockVerifier.verified_iff {v : MockVerifier} {r : VerificationRequest} :
    Verified (v.verify crates) r ↔
      (r.proof.format.tag = mockFormat ∧ r.backend.id = BackendId.mock) ∧
      32 ≤ r.proof.bytes.length ∧
      r.proof.bytes.drop (r.proof.bytes.length - 32)
        = v.digest crates (r.proof.bytes.take (r.proof.bytes.length - 32)) ∧
      crates.parseEnvelope (r.proof.bytes.take (r.proof.bytes.length - 32))
        = .ok (envelopeOf r) := by
  unfold Verified verify
  rw [conclude_verified]
  simp only [checks, bind_ok, ensure_ok, mapError_ok, exists_const, MockEnvelope.fromBytes_ok,
    checkStateReference_ok]
  refine and_congr_right fun _ => and_congr_right fun _ => and_congr_right fun _ => ?_
  constructor
  · rintro ⟨e, ⟨hparse, hkind⟩, hb, hc, hv, hk, ha, ho, hs⟩
    rw [hparse]
    cases e
    subst hkind hb hc hv hk ha ho hs
    rfl
  · intro hparse
    exact ⟨_, ⟨hparse, rfl⟩, rfl, rfl, rfl, rfl, rfl, rfl, rfl⟩

end Crucible
