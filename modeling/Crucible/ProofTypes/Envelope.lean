import Crucible.Interfaces.Serde
import Crucible.Interfaces.Verifier

/-!
# Proof envelopes (`crates/proof-types/src/common.rs`, `errors.rs`)

An envelope is a response with its operation and its producer, written as JSON and read back
through a version gate.

* `ProofEnvelope.fromJson_toJson`   an envelope of a supported version is read back from its text;
* `ProofEnvelope.fromJson_ok`       what a text that is accepted says.
-/

namespace Crucible
open Checked Serde

inductive EnvelopeError where
  | unsupportedVersion (found supported : UInt32)
  | encoding (reason : String)
deriving DecidableEq

def EnvelopeError.message : EnvelopeError → String
  | .unsupportedVersion found supported =>
    s!"envelope version {found.toNat} is newer than the supported version {supported.toNat}"
  | .encoding reason => s!"envelope encoding error: {reason}"

/-- `ENVELOPE_V1` -/
def envelopeV1 : UInt32 := 1

structure EnvelopeMetadata where
  requestId : RequestId
  producedBy : String
deriving DecidableEq

structure ProofEnvelope where
  version : UInt32
  operation : Operation
  circuit : CircuitId
  circuitVersion : Version
  backend : BackendId
  proof : ProofBlob
  publicOutputs : OutputBag
  verificationKeyId : VerificationKeyId
  artifactChecksum : ArtifactChecksum
  stateReference : Option StateReference
  metadata : EnvelopeMetadata
deriving DecidableEq

def ProofEnvelope.fromResponse (response : ProofResponse) (operation : Operation)
    (producedBy : String) : ProofEnvelope where
  version := envelopeV1
  operation := operation
  circuit := response.circuit
  circuitVersion := response.circuitVersion
  backend := response.backend
  proof := response.proof
  publicOutputs := response.publicOutputs
  verificationKeyId := response.verificationKeyId
  artifactChecksum := response.artifactChecksum
  stateReference := response.stateReference
  metadata := { requestId := response.requestId, producedBy }

/-! ## the wire format -/

instance : Wire EnvelopeMetadata where
  toJson m := .obj [("request_id", toJson m.requestId), ("produced_by", toJson m.producedBy)]
  fromJson j := do
    let fields ← fieldsOf ["request_id", "produced_by"] j
    return { requestId := ← required fields "request_id"
             producedBy := ← required fields "produced_by" }
  fromJson_toJson m := by
    rw [fieldsOf_obj (by simp)]
    simp
  toJson_ne_null _ := by intro h; cases h

instance : Wire ProofEnvelope where
  toJson e := .obj [("version", toJson e.version), ("operation", toJson e.operation),
    ("circuit", toJson e.circuit), ("circuit_version", toJson e.circuitVersion),
    ("backend", toJson e.backend), ("proof", toJson e.proof),
    ("public_outputs", toJson e.publicOutputs),
    ("verification_key_id", toJson e.verificationKeyId),
    ("artifact_checksum", toJson e.artifactChecksum),
    ("state_reference", optJson e.stateReference), ("metadata", toJson e.metadata)]
  fromJson j := do
    let fields ← fieldsOf ["version", "operation", "circuit", "circuit_version", "backend", "proof",
      "public_outputs", "verification_key_id", "artifact_checksum", "state_reference",
      "metadata"] j
    return { version := ← required fields "version"
             operation := ← required fields "operation"
             circuit := ← required fields "circuit"
             circuitVersion := ← required fields "circuit_version"
             backend := ← required fields "backend"
             proof := ← required fields "proof"
             publicOutputs := ← required fields "public_outputs"
             verificationKeyId := ← required fields "verification_key_id"
             artifactChecksum := ← required fields "artifact_checksum"
             stateReference := ← optional fields "state_reference"
             metadata := ← required fields "metadata" }
  fromJson_toJson e := by
    rw [fieldsOf_obj (by simp)]
    simp
  toJson_ne_null _ := by intro h; cases h

namespace ProofEnvelope
variable (text : JsonText)

/-- nothing in an envelope refuses to be written -/
def toJson (envelope : ProofEnvelope) : Except EnvelopeError String :=
  .ok (text.render (Serde.toJson envelope))

def fromJson (json : String) : Except EnvelopeError ProofEnvelope := do
  let envelope ← (text.parse json.toUTF8.data.toList >>= Serde.fromJson).mapError .encoding
  ensure (envelope.version ≤ envelopeV1) (.unsupportedVersion envelope.version envelopeV1)
  return envelope

variable {text}

theorem fromJson_ok {json : String} {envelope : ProofEnvelope} :
    fromJson text json = .ok envelope ↔ envelope.version ≤ envelopeV1 ∧
      ∃ j, text.parse json.toUTF8.data.toList = .ok j ∧ Serde.fromJson j = .ok envelope := by
  simp only [fromJson, bind_ok, mapError_ok, ensure_ok, exists_const, pure_ok]
  constructor
  · rintro ⟨e, ⟨j, hparse, hread⟩, hversion, rfl⟩
    exact ⟨hversion, j, hparse, hread⟩
  · rintro ⟨hversion, j, hparse, hread⟩
    exact ⟨envelope, ⟨j, hparse, hread⟩, hversion, rfl⟩

/-- an envelope of a supported version is read back from its text -/
theorem fromJson_toJson {envelope : ProofEnvelope} {json : String}
    (htext : text.parse (text.write (Serde.toJson envelope)) = .ok (Serde.toJson envelope))
    (hversion : envelope.version ≤ envelopeV1) (hjson : envelope.toJson text = .ok json) :
    fromJson text json = .ok envelope := by
  obtain rfl := Except.ok.inj hjson
  exact fromJson_ok.mpr ⟨hversion, _, htext, Serde.fromJson_toJson envelope⟩

end ProofEnvelope

end Crucible
