import Crucible.Interfaces.Circuit

/-!
# Requests and proofs (`interfaces/src/proof_provider/`)

The identifiers derive a transparent `Deserialize`: their constructors check, a parsed document
does not, so each is any string here.

* `StateReference.rootHalves`   the two 128-bit halves of the root; `none` where the source
                                panics, on a root that is not 64 hexadecimal digits;
* `ProofRequest.validate`       the structural checks; `validate_ok` reads them backwards.
-/

namespace Crucible
open Checked Text

/-! ## identifiers -/

structure RequestId where
  id : String
deriving DecidableEq

structure BackendId where
  id : String
deriving DecidableEq

inductive BackendIdError where
  | invalidLength
  | invalidCharacters
deriving DecidableEq

def BackendId.mock : String := "mock"
def BackendId.ultrahonk : String := "ultrahonk"

def isBackendIdChar (c : Char) : Bool := isAsciiAlphanumeric c || c == '-' || c == '_'

def BackendId.new (id : String) : Except BackendIdError BackendId := do
  ensure (¬ (id.toList = [] ∨ byteLen id.toList > 64)) .invalidLength
  ensure (id.toList.all isBackendIdChar) .invalidCharacters
  return ⟨id⟩

theorem BackendId.new_ok {text : String} {b : BackendId} : BackendId.new text = .ok b ↔
    ¬ (text.toList = [] ∨ byteLen text.toList > 64) ∧ text.toList.all isBackendIdChar ∧
      b = ⟨text⟩ := by
  simp only [BackendId.new, bind_ok, ensure_ok, exists_const, pure_ok, @eq_comm _ b]

structure ProofFormat where
  tag : String
deriving DecidableEq

def ProofFormat.mock : String := "mock-envelope-v1"
def ProofFormat.ultrahonk : String := "ultrahonk-v1"

/-- 1 to 64 bytes; `none` is `ProofFormatError::InvalidLength` -/
def ProofFormat.new (format : String) : Option ProofFormat :=
  if format.toList = [] ∨ byteLen format.toList > 64 then none else some ⟨format⟩

structure VerificationKeyId where
  id : String
deriving DecidableEq

/-- 1 to 128 bytes; `none` is `VerificationKeyIdError::InvalidLength` -/
def VerificationKeyId.new (id : String) : Option VerificationKeyId :=
  if id.toList = [] ∨ byteLen id.toList > 128 then none else some ⟨id⟩

theorem VerificationKeyId.new_eq_some {text : String} {k : VerificationKeyId} :
    VerificationKeyId.new text = some k ↔
      ¬ (text.toList = [] ∨ byteLen text.toList > 128) ∧ k = ⟨text⟩ := by
  rw [VerificationKeyId.new, Option.ite_none_left_eq_some, Option.some.injEq, @eq_comm _ k]

/-- exactly 64 digits after an optional `0x`, in lower case -/
def digest256 (hex : String) : Option String :=
  let s := stripPrefix "0x".toList hex.toList
  if byteLen s = 64 ∧ s.all isHexDigit then some (String.ofList (s.map lower)) else none

/-- 64 lower-case hexadecimal digits -/
def IsDigestText (s : String) : Prop := s.toList.length = 64 ∧ s.toList.all isLowerHex

structure ArtifactChecksum where
  hex : String
deriving DecidableEq

/-- `none` is `ArtifactChecksumError::NotSha256Hex` -/
def ArtifactChecksum.fromHex (hex : String) : Option ArtifactChecksum :=
  (digest256 hex).map ArtifactChecksum.mk

/-- `Sha256` of the bytes, in digits -/
def ArtifactChecksum.fromBytes (sha256 : List UInt8 → List UInt8) (bytes : List UInt8) :
    ArtifactChecksum :=
  ⟨hexEncode (sha256 bytes)⟩

/-! ## the state a proof is bound to -/

structure RootDigest where
  hex : String
deriving DecidableEq

/-- the root before initialization -/
def RootDigest.zero : RootDigest := ⟨String.ofList (List.replicate 64 '0')⟩

/-- `none` is `RootDigestError::Not256BitHex` -/
def RootDigest.fromHex (hex : String) : Option RootDigest := (digest256 hex).map RootDigest.mk

structure StateReference where
  root : RootDigest
  sequence : UInt64
  label : Option String
deriving DecidableEq

/-- the halves of the root, high half first -/
def StateReference.rootHalves (s : StateReference) : Option (FieldValue × FieldValue) := do
  let (first, second) ← splitBytes 32 s.root.hex.toList
  let hi ← (FieldValue.fromHex (String.ofList first)).toOption
  let lo ← (FieldValue.fromHex (String.ofList second)).toOption
  return (hi, lo)

/-! ## proof requests -/

inductive WitnessError where
  | missingWitness (operation : Operation)
  | missingPublicInputs (operation : Operation)
  | missingStateReference (operation : Operation)
  | stateRootMismatch
deriving DecidableEq

def WitnessError.message : WitnessError → String
  | .missingWitness op => s!"operation {op.asStr} requires a non-empty private witness"
  | .missingPublicInputs op => s!"operation {op.asStr} requires public input binding"
  | .missingStateReference op => s!"operation {op.asStr} requires a state reference"
  | .stateRootMismatch => "public root halves do not match the state reference root"

structure ProofRequest where
  requestId : RequestId
  operation : Operation
  circuit : CircuitId
  circuitVersion : Version
  artifactVersion : Version
  backend : BackendId
  witness : PrivateWitnessBag
  publicInputs : PublicInputBag
  stateReference : Option StateReference

def ProofRequest.validate (r : ProofRequest) : Except (Fault WitnessError) Unit := do
  ensure (¬ r.witness.isEmpty) (.error (.missingWitness r.operation))
  ensure (¬ r.publicInputs.isEmpty) (.error (.missingPublicInputs r.operation))
  ensure (¬ (r.operation.stateBound ∧ r.stateReference.isNone))
    (.error (.missingStateReference r.operation))
  match r.stateReference, r.publicInputs.get "root_hi", r.publicInputs.get "root_lo" with
  | some state, some hi, some lo =>
    let (expectedHi, expectedLo) ← fromOption .panic state.rootHalves
    ensure (hi = expectedHi ∧ lo = expectedLo) (.error .stateRootMismatch)
  | _, _, _ => return ()

theorem ProofRequest.validate_ok {r : ProofRequest} :
    r.validate = .ok () ↔ r.witness.isEmpty = false ∧ r.publicInputs.isEmpty = false ∧
      (r.operation.stateBound → ∃ s, r.stateReference = some s) ∧
      ∀ s hi lo, r.stateReference = some s → r.publicInputs.get "root_hi" = some hi →
        r.publicInputs.get "root_lo" = some lo → s.rootHalves = some (hi, lo) := by
  simp only [validate, bind_ok, ensure_ok, exists_const, Bool.not_eq_true]
  refine and_congr_right fun _ => and_congr_right fun _ => and_congr ?_ ?_
  · cases r.stateReference <;> cases r.operation.stateBound <;> simp
  · cases hs : r.stateReference with
    | none => simp [pure_ok]
    | some s =>
      cases hhi : r.publicInputs.get "root_hi" with
      | none => simp [pure_ok]
      | some hi =>
        cases hlo : r.publicInputs.get "root_lo" with
        | none => simp [pure_ok]
        | some lo =>
          simp only [bind_ok, fromOption_ok, ensure_ok, Prod.exists]
          constructor
          · rintro ⟨a, b, hab, rfl, rfl⟩ _ _ _ ⟨⟩ ⟨⟩ ⟨⟩
            exact hab
          · intro h
            exact ⟨hi, lo, h s hi lo rfl rfl rfl, rfl, rfl⟩

/-! ## proofs -/

structure ProofBlob where
  format : ProofFormat
  bytes : List UInt8
deriving DecidableEq

structure ProofResponse where
  requestId : RequestId
  circuit : CircuitId
  circuitVersion : Version
  backend : BackendId
  proof : ProofBlob
  publicOutputs : OutputBag
  verificationKeyId : VerificationKeyId
  artifactChecksum : ArtifactChecksum
  stateReference : Option StateReference
deriving DecidableEq

inductive ProviderError where
  | invalidRequest (e : WitnessError)
  | unsupportedCircuit (backend : String) (circuit : CircuitId) (version : Version)
  | artifactUnavailable (backend : String) (circuit : CircuitId) (version : Version)
  | artifactIntegrity (circuit : CircuitId) (version : Version)
  | backendUnavailable (backend reason : String)
  | proofGeneration (backend reason : String)
  | internal (reason : String)
deriving DecidableEq

def ProviderError.message : ProviderError → String
  | .invalidRequest e => e.message
  | .unsupportedCircuit backend circuit version =>
    s!"provider backend `{backend}` does not support circuit `{circuit.id}` at version " ++
      version.display
  | .artifactUnavailable backend circuit version =>
    s!"compiled artifact for circuit `{circuit.id}` at version " ++ version.display ++
      s!" is unavailable on backend `{backend}`"
  | .artifactIntegrity circuit version =>
    s!"artifact for circuit `{circuit.id}` at version " ++ version.display ++
      " failed integrity verification"
  | .backendUnavailable backend reason =>
    s!"proving backend `{backend}` is unavailable: {reason}"
  | .proofGeneration backend reason =>
    s!"proof generation failed on backend `{backend}`: {reason}"
  | .internal reason => s!"internal provider error: {reason}"

end Crucible
