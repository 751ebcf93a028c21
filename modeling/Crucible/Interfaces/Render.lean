import Crucible.Interfaces.Serde
import Crucible.Lib.Debug

/-!
# How a request is printed (`interfaces/src/proof_provider/request.rs`, `circuit/inputs.rs`)

* `ProofRequest.debug`      the `Debug` tree: of the private witness only its names;
* `ProofRequest.redacted`   the JSON view for logs: the names, and how many there are.
-/

namespace Crucible
open Format Serde

/-! ## debug trees -/

def Operation.variantName : Operation → String
  | .register => "Register"
  | .deposit => "Deposit"
  | .merge => "Merge"
  | .transfer => "Transfer"
  | .withdraw => "Withdraw"

def Version.debug (v : Version) : Debug :=
  .struct "Version" [("major", .text s!"{v.major.toNat}"), ("minor", .text s!"{v.minor.toNat}"),
    ("patch", .text s!"{v.patch.toNat}")]

/-- names only -/
def PrivateWitnessBag.debug (b : PrivateWitnessBag) : Debug :=
  .struct "PrivateWitnessBag" [("entries", .list (b.names.map .str))]

def PublicInputBag.debug (b : PublicInputBag) : Debug :=
  .struct "PublicInputBag" [("entries", .list (b.entries.map fun e =>
    .tuple "" [.str e.1, .newtype "FieldValue" e.2.hex]))]

def StateReference.debug (s : StateReference) : Debug :=
  .struct "StateReference" [("root", .newtype "RootDigest" s.root.hex),
    ("sequence", .text s!"{s.sequence.toNat}"), ("label", .option (s.label.map .str))]

def ProofRequest.debug (r : ProofRequest) : Debug :=
  .struct "ProofRequest" [("request_id", .newtype "RequestId" r.requestId.id),
    ("operation", .text r.operation.variantName),
    ("circuit", .newtype "CircuitId" r.circuit.id),
    ("circuit_version", r.circuitVersion.debug),
    ("artifact_version", r.artifactVersion.debug),
    ("backend", .newtype "BackendId" r.backend.id),
    ("witness", r.witness.debug),
    ("public_inputs", PublicInputBag.debug r.publicInputs),
    ("state_reference", .option (r.stateReference.map StateReference.debug))]

/-! ## the redacted view -/

def PrivateWitnessBag.len (b : PrivateWitnessBag) : Nat := b.bag.entries.length

def ProofRequest.redacted (r : ProofRequest) : Json :=
  Json.value <| .obj [("request_id", toJson r.requestId), ("operation", toJson r.operation),
    ("circuit", toJson r.circuit), ("circuit_version", toJson r.circuitVersion),
    ("artifact_version", toJson r.artifactVersion), ("backend", toJson r.backend),
    ("private_witness", .obj [("names", toJson r.witness.names), ("count", .int r.witness.len)]),
    ("public_inputs", toJson r.publicInputs), ("state_reference", optJson r.stateReference)]

end Crucible
