import Crucible.Interfaces.Serde
import Crucible.Mock.Verifier
import Crucible.ProverCore.Policy

/-!
# The mock prover (`crates/mock/src/prover.rs`)

The prover repeats the context of the request in an envelope, and commits to the public inputs as
outputs.  The verifier reads the envelope back and compares.

* `MockProver.generate_ok`      when the prover answers, and with what (`MockProver.respond`);
                                its proof repeats its context (`MockProver.proof_of_generate`);
* `MockVerifier.checks_blob`    on those bytes the verifier is down to the comparisons;
* `verify_generated`            it answers with the first difference between the submitted context
                                and the response (`contextOutcome`), whatever the request id.
-/

namespace Crucible
open Checked Serde

/-! ## envelopes -/

instance : Wire MockEnvelope where
  toJson e := .obj [("kind", toJson e.kind), ("circuit", toJson e.circuit),
    ("circuit_version", toJson e.circuitVersion), ("backend", toJson e.backend),
    ("verification_key_id", toJson e.verificationKeyId),
    ("artifact_checksum", toJson e.artifactChecksum), ("public_outputs", toJson e.publicOutputs),
    ("state_reference", optJson e.stateReference)]
  fromJson j := do
    let fields ← fieldsOf ["kind", "circuit", "circuit_version", "backend", "verification_key_id",
      "artifact_checksum", "public_outputs", "state_reference"] j
    return { kind := ← required fields "kind"
             circuit := ← required fields "circuit"
             circuitVersion := ← required fields "circuit_version"
             backend := ← required fields "backend"
             verificationKeyId := ← required fields "verification_key_id"
             artifactChecksum := ← required fields "artifact_checksum"
             publicOutputs := ← required fields "public_outputs"
             stateReference := ← optional fields "state_reference" }
  fromJson_toJson e := by
    rw [fieldsOf_obj (by simp)]
    simp
  toJson_ne_null _ := by intro h; cases h

/-- the crates of the mock: SHA-256, and `serde_json` for the text of an envelope -/
def MockCrates.of (sha256 : List UInt8 → List UInt8) (text : JsonText) : MockCrates where
  sha256 := sha256
  parseEnvelope bytes := text.parse bytes >>= fromJson

/-! ## the prover -/

structure MockProver where
  key : String

def MockProver.new : MockProver := ⟨defaultMockKey⟩

def mockBackend : BackendId := ⟨BackendId.mock⟩

namespace MockProver
variable (sha256 : List UInt8 → List UInt8) (text : JsonText) (prover : MockProver)

/-- the constructor refuses ids of more than 128 bytes, and `None` is unwrapped -/
def verificationKeyIdFor (circuit : CircuitId) (version : Version) : Option VerificationKeyId :=
  VerificationKeyId.new ("mock-vk/" ++ circuit.id ++ "/" ++ version.display)

def artifactChecksumFor (circuit : CircuitId) (version : Version) : ArtifactChecksum :=
  .fromBytes sha256 ("mock-artifact/" ++ circuit.id ++ "/" ++ version.display).toUTF8.data.toList

def digest (payload : List UInt8) : List UInt8 :=
  sha256 (mockDomain ++ payload ++ prover.key.toUTF8.data.toList ++ [0])

/-- the text of an envelope, and the digest of the text -/
def blobFor (envelope : MockEnvelope) : List UInt8 :=
  let payload := text.write (toJson envelope)
  payload ++ prover.digest sha256 payload

def buildProofBytes (r : ProofRequest) (verificationKeyId : VerificationKeyId)
    (artifactChecksum : ArtifactChecksum) : List UInt8 :=
  prover.blobFor sha256 text
    { kind := mockFormat, circuit := r.circuit, circuitVersion := r.circuitVersion
      backend := r.backend, verificationKeyId, artifactChecksum, publicOutputs := r.publicInputs
      stateReference := r.stateReference }

/-- the response to a request that has passed the checks -/
def respond (r : ProofRequest) (vkId : VerificationKeyId) : ProofResponse :=
  let checksum := artifactChecksumFor sha256 r.circuit r.circuitVersion
  { requestId := r.requestId
    circuit := r.circuit
    circuitVersion := r.circuitVersion
    backend := mockBackend
    proof := { format := ⟨mockFormat⟩, bytes := prover.buildProofBytes sha256 text r vkId checksum }
    publicOutputs := r.publicInputs
    verificationKeyId := vkId
    artifactChecksum := checksum
    stateReference := r.stateReference }

def generate (r : ProofRequest) : Except (Fault ProviderError) ProofResponse := do
  r.validate.mapError (.map .invalidRequest)
  ensure (r.backend = mockBackend) (.error (.proofGeneration r.backend.id
    "request targets a different backend than the mock prover"))
  let vkId ← fromOption .panic (verificationKeyIdFor r.circuit r.circuitVersion)
  return prover.respond sha256 text r vkId

/-- the prover, as a provider of its backend: it supports every circuit -/
def provider : Provider where
  backend := mockBackend
  supports := fun _ _ => true
  generate := prover.generate sha256 text

variable {sha256 text prover}

theorem generate_ok {r : ProofRequest} {response : ProofResponse} :
    prover.generate sha256 text r = .ok response ↔ r.validate = .ok () ∧ r.backend = mockBackend ∧
      ∃ vkId, verificationKeyIdFor r.circuit r.circuitVersion = some vkId ∧
        response = prover.respond sha256 text r vkId := by
  simp only [generate, bind_ok, mapError_ok, ensure_ok, fromOption_ok, exists_const, pure_ok]
  constructor
  · rintro ⟨_, hvalid, hbackend, vkId, hvk, rfl⟩
    exact ⟨hvalid, hbackend, vkId, hvk, rfl⟩
  · rintro ⟨hvalid, hbackend, vkId, hvk, rfl⟩
    exact ⟨(), hvalid, hbackend, vkId, hvk, rfl⟩

/-- the proof of a response repeats the context of the response -/
theorem proof_of_generate {r : ProofRequest} {response : ProofResponse}
    (h : prover.generate sha256 text r = .ok response) :
    response.proof = { format := ⟨mockFormat⟩
                       bytes := prover.blobFor sha256 text
                        (MockVerifier.envelopeOf (.fromResponse response)) } ∧
      response.backend = mockBackend := by
  obtain ⟨_, hbackend, vkId, _, rfl⟩ := generate_ok.mp h
  refine ⟨?_, rfl⟩
  unfold respond buildProofBytes
  rw [hbackend]
  rfl

end MockProver

/-! ## the verifier, on the prover's bytes -/

/-- where the proof is the prover's, the verdict is in the context: the first field that differs
from the response's, in the order of the verifier -/
def contextOutcome (response : ProofResponse) (r : VerificationRequest) : VerificationOutcome :=
  if ¬ (r.proof.format = response.proof.format ∧ r.backend = response.backend) then
    .rejected .backendMismatch
  else if r.circuit ≠ response.circuit then .rejected .circuitMismatch
  else if r.circuitVersion ≠ response.circuitVersion then .rejected .versionMismatch
  else if r.verificationKeyId ≠ response.verificationKeyId then .rejected .wrongVerificationKey
  else if r.artifactChecksum ≠ response.artifactChecksum then .rejected .artifactChecksumMismatch
  else if r.publicOutputs ≠ response.publicOutputs then .rejected .publicOutputMismatch
  else if r.stateReference.isSome ≠ response.stateReference.isSome then
    .rejected .missingStateBinding
  else if r.stateReference ≠ response.stateReference then .rejected .stateReferenceMismatch
  else .positive

/-- the context of the request is the response's; the request id is not part of it -/
def SameContext (response : ProofResponse) (r : VerificationRequest) : Prop :=
  r.proof.format = response.proof.format ∧ r.backend = response.backend ∧
  r.circuit = response.circuit ∧ r.circuitVersion = response.circuitVersion ∧
  r.verificationKeyId = response.verificationKeyId ∧
  r.artifactChecksum = response.artifactChecksum ∧ r.publicOutputs = response.publicOutputs ∧
  r.stateReference = response.stateReference

theorem contextOutcome_verified {response : ProofResponse} {r : VerificationRequest} :
    (contextOutcome response r).verified ↔ SameContext response r := by
  unfold contextOutcome SameContext
  simp only [verified_of_unless, ne_eq, not_not, and_assoc]
  refine and_congr_right fun _ => and_congr_right fun _ => and_congr_right fun _ => ?_
  refine and_congr_right fun _ => and_congr_right fun _ => and_congr_right fun _ => ?_
  refine and_congr_right fun _ => ⟨fun h => h.2.1, fun hstate => ?_⟩
  exact ⟨by rw [hstate], hstate, rfl⟩

section
variable {sha256 : List UInt8 → List UInt8} {text : JsonText} {key : String}

/-- a blob is cut in front of its last 32 bytes -/
theorem take_drop_append {payload tail : List UInt8} (h : tail.length = 32) :
    (payload ++ tail).take ((payload ++ tail).length - 32) = payload ∧
      (payload ++ tail).drop ((payload ++ tail).length - 32) = tail := by
  have hcut : (payload ++ tail).length - 32 = payload.length := by
    rw [List.length_append, h]
    omega
  rw [hcut]
  exact ⟨List.take_left, List.drop_left⟩

/-- on the prover's bytes the verifier is down to the routing and the comparisons -/
theorem MockVerifier.checks_blob {e : MockEnvelope} {r : VerificationRequest}
    (hsha : ∀ bytes, (sha256 bytes).length = 32) (hkind : e.kind = mockFormat)
    (htext : text.parse (text.write (toJson e)) = .ok (toJson e))
    (hbytes : r.proof.bytes = (MockProver.mk key).blobFor sha256 text e) :
    (MockVerifier.mk key).checks (.of sha256 text) r = (do
      ensure (r.proof.format.tag = mockFormat ∧ r.backend.id = BackendId.mock)
        (.rejected .backendMismatch)
      ensure (e.backend = r.backend) (.rejected .backendMismatch)
      ensure (e.circuit = r.circuit) (.rejected .circuitMismatch)
      ensure (e.circuitVersion = r.circuitVersion) (.rejected .versionMismatch)
      ensure (e.verificationKeyId = r.verificationKeyId) (.rejected .wrongVerificationKey)
      ensure (e.artifactChecksum = r.artifactChecksum) (.rejected .artifactChecksumMismatch)
      ensure (e.publicOutputs = r.publicOutputs) (.rejected .publicOutputMismatch)
      checkStateReference e.stateReference r.stateReference) := by
  let payload := text.write (toJson e)
  let tail := (MockProver.mk key).digest sha256 payload
  have hblob : r.proof.bytes = payload ++ tail := hbytes
  have htail : tail.length = 32 := hsha _
  have hlen : 32 ≤ r.proof.bytes.length := by
    rw [hblob, List.length_append, htail]
    omega
  obtain ⟨htake, hdrop⟩ := take_drop_append htail
  rw [← hblob] at htake hdrop
  have hparse : (MockCrates.of sha256 text).parseEnvelope payload = .ok e :=
    bind_ok.mpr ⟨_, htext, fromJson_toJson e⟩
  have henvelope : MockEnvelope.fromBytes (.of sha256 text) payload = .ok e :=
    MockEnvelope.fromBytes_ok.mpr ⟨hparse, hkind⟩
  have hdigest : tail = digest (.of sha256 text) ⟨key⟩ payload := rfl
  simp only [checks, htake, hdrop, henvelope]
  congr 1
  funext _
  rw [ensure_pos hlen, ensure_pos hdigest]
  rfl

/-- the last comparison -/
theorem conclude_state {embedded submitted : Option StateReference} :
    conclude (MockVerifier.checkStateReference embedded submitted) =
      .ok (if submitted.isSome ≠ embedded.isSome then .rejected .missingStateBinding
        else if submitted ≠ embedded then .rejected .stateReferenceMismatch
        else .positive) := by
  cases embedded with
  | none =>
    cases submitted with
    | none => rfl
    | some s => rfl
  | some e =>
    cases submitted with
    | none => rfl
    | some s =>
      show conclude (ensure (e = s) (.rejected .stateReferenceMismatch)) = .ok
        (if some s ≠ some e then .rejected .stateReferenceMismatch else .positive)
      by_cases hs : s = e
      · rw [hs, ensure, if_pos rfl, if_neg (not_not.mpr rfl)]
        rfl
      · rw [ensure, if_neg (Ne.symm hs), if_pos (fun h => hs (Option.some.inj h))]
        rfl

/-- on the bytes of a response the verdict is in the context -/
theorem verify_response {r : ProofRequest} {response : ProofResponse} {v : VerificationRequest}
    (hsha : ∀ bytes, (sha256 bytes).length = 32)
    (hgen : (MockProver.mk key).generate sha256 text r = .ok response)
    (htext : text.parse (text.write (toJson (MockVerifier.envelopeOf (.fromResponse response))))
      = .ok (toJson (MockVerifier.envelopeOf (.fromResponse response))))
    (hbytes : v.proof.bytes = response.proof.bytes) :
    (MockVerifier.mk key).verify (.of sha256 text) v = .ok (contextOutcome response v) := by
  obtain ⟨hproof, hbackend⟩ := MockProver.proof_of_generate hgen
  have hblob := hbytes.trans (congrArg ProofBlob.bytes hproof)
  have hformat : response.proof.format = ⟨mockFormat⟩ := congrArg ProofBlob.format hproof
  unfold MockVerifier.verify contextOutcome
  rw [MockVerifier.checks_blob hsha rfl htext hblob]
  have hroute : (v.proof.format.tag = mockFormat ∧ v.backend.id = BackendId.mock) ↔
      (v.proof.format = response.proof.format ∧ v.backend = response.backend) := by
    rw [hformat, hbackend]
    exact and_congr ⟨fun h => congrArg ProofFormat.mk h, fun h => congrArg ProofFormat.tag h⟩
      ⟨fun h => congrArg BackendId.mk h, fun h => congrArg BackendId.id h⟩
  refine conclude_ensure hroute fun h => ?_
  have hsame : (MockVerifier.envelopeOf (.fromResponse response)).backend = v.backend := h.2.symm
  rw [ensure_pos hsame]
  refine conclude_ensure eq_comm fun _ => ?_
  refine conclude_ensure eq_comm fun _ => ?_
  refine conclude_ensure eq_comm fun _ => ?_
  refine conclude_ensure eq_comm fun _ => ?_
  refine conclude_ensure eq_comm fun _ => ?_
  exact conclude_state

/-- **The mock verifier tells exactly what was changed.**  On the bytes of a response of the mock
prover it always answers: `verified` when the submitted context is the response's, and otherwise
the first field that differs. -/
theorem verify_generated {r : ProofRequest} {response : ProofResponse} {v : VerificationRequest}
    (hsha : ∀ bytes, (sha256 bytes).length = 32)
    (hgen : (MockProver.mk key).generate sha256 text r = .ok response)
    (htext : text.parse (text.write (toJson (MockVerifier.envelopeOf (.fromResponse response))))
      = .ok (toJson (MockVerifier.envelopeOf (.fromResponse response))))
    (hbytes : v.proof.bytes = response.proof.bytes) :
    (MockVerifier.mk key).verify (.of sha256 text) v = .ok (contextOutcome response v) ∧
      ((contextOutcome response v).verified ↔ SameContext response v) :=
  ⟨verify_response hsha hgen htext hbytes, contextOutcome_verified⟩

end

/-! ## a run -/

/-- the two digests that the run below takes, of the artifact's name and of the envelope -/
def transferSha256 (bytes : List UInt8) : List UInt8 :=
  if bytes = "mock-artifact/transfer/0.1.0".toUTF8.data.toList then
    [0x08, 0x43, 0x37, 0x81, 0x91, 0xf9, 0x61, 0xb2, 0xcd, 0x9e, 0xd9, 0xc2, 0x2c, 0x4a, 0x7b, 0x83,
      0x66, 0x2a, 0x65, 0x43, 0x9c, 0x07, 0x6c, 0xfa, 0x65, 0x53, 0xa6, 0xaf, 0x69, 0x1e, 0x81, 0xc7]
  else
    [0x27, 0xee, 0xde, 0xfb, 0x72, 0x84, 0x66, 0x4e, 0x68, 0x70, 0x23, 0xbe, 0x42, 0x8a, 0x78, 0xda,
      0x68, 0x5f, 0x22, 0x7f, 0xb2, 0x64, 0xcd, 0xf9, 0xaf, 0x72, 0xfb, 0xc6, 0x89, 0xce, 0x63, 0x66]

/-- the envelope of a transfer of zeros, under the default key -/
def transferEnvelope : MockEnvelope where
  kind := mockFormat
  circuit := ⟨"transfer"⟩
  circuitVersion := ⟨0, 1, 0⟩
  backend := mockBackend
  verificationKeyId := ⟨"mock-vk/transfer/0.1.0"⟩
  artifactChecksum := ⟨"0843378191f961b2cd9ed9c22c4a7b83662a65439c076cfa6553a6af691e81c7"⟩
  publicOutputs := .ofNames (expectations .transfer).publicParams .zero
  stateReference := some { root := .zero, sequence := 0, label := none }

/-- the text of that envelope -/
def transferText : JsonText := JsonText.knowing (toJson transferEnvelope)

theorem transferText_render (fields : List (String × Json)) :
    transferText.render (.obj fields) ≠ "" := by
  intro h
  have hlist := congrArg String.toList h
  simp [transferText, JsonText.knowing, Json.compact] at hlist

def transferZeros : ProofRequest :=
  minimalRequest .transfer (.forOperation .transfer) ⟨0, 1, 0⟩ mockBackend

def transferZerosResponse : ProofResponse :=
  MockProver.new.respond transferSha256 transferText transferZeros ⟨"mock-vk/transfer/0.1.0"⟩

theorem transferZeros_generate :
    MockProver.new.generate transferSha256 transferText transferZeros
      = .ok transferZerosResponse := by
  have hpre : ProverService.preflight transferZeros = .ok () := minimalRequest_preflight
  refine MockProver.generate_ok.mpr ⟨(ProverService.preflight_ok.mp hpre).1, rfl, _, ?_, rfl⟩
  decide

theorem transferSha256_length (bytes : List UInt8) : (transferSha256 bytes).length = 32 := by
  unfold transferSha256
  split <;> rfl

theorem transferZeros_envelope :
    MockVerifier.envelopeOf (.fromResponse transferZerosResponse) = transferEnvelope := by
  decide +kernel

theorem transferText_parse :
    transferText.parse (transferText.write (toJson
      (MockVerifier.envelopeOf (.fromResponse transferZerosResponse))))
      = .ok (toJson (MockVerifier.envelopeOf (.fromResponse transferZerosResponse))) := by
  rw [transferZeros_envelope]
  exact JsonText.knowing_parse

/-- a mock service, for the run of the mock prover -/
def transferService : ProverService where
  registry := ProviderRegistry.new.register (MockProver.new.provider transferSha256 transferText)
  localVerifier := some (MockVerifier.new.verify (.of transferSha256 transferText))
  producedBy := "test/0.1.0"

theorem contextOutcome_self (response : ProofResponse) :
    contextOutcome response (.fromResponse response) = .positive := by
  unfold contextOutcome
  simp [VerificationRequest.fromResponse]

/-- the proof of a transfer, submitted as a merge without outputs under another id -/
def transferAsMerge : VerificationRequest :=
  { VerificationRequest.fromResponse transferZerosResponse with
    requestId := ⟨"other"⟩
    circuit := ⟨"merge"⟩
    publicOutputs := .new }

theorem verify_generated_transfer :
    MockVerifier.new.verify (.of transferSha256 transferText) transferAsMerge
      = .ok (.rejected .circuitMismatch) ∧
    MockVerifier.new.verify (.of transferSha256 transferText)
      (.fromResponse transferZerosResponse) = .ok .positive := by
  have hmerge := verify_generated (v := transferAsMerge) transferSha256_length
    transferZeros_generate transferText_parse rfl
  have hsame := verify_generated (v := .fromResponse transferZerosResponse) transferSha256_length
    transferZeros_generate transferText_parse rfl
  have hcircuit : contextOutcome transferZerosResponse transferAsMerge
      = .rejected .circuitMismatch := by
    unfold contextOutcome
    rw [if_neg (not_not.mpr ⟨rfl, rfl⟩), if_pos (by decide)]
  rw [hcircuit] at hmerge
  rw [contextOutcome_self] at hsame
  exact ⟨hmerge.1, hsame.1⟩

end Crucible
