import Crucible.Interfaces.Verifier
import Crucible.UltraHonk.Exec

/-!
# The UltraHonk verifier (`crates/ultrahonk/src/verifier.rs`, `exec.rs`, `toolchain.rs`)

`bb` is an arbitrary predicate of the three documents it reads (`Host.run`); the rest of the host
(the disk, the scratch directory, the installed version) is arbitrary too.

* `UltraHonkVerifier.verify`    the checks in the order of the source;
* `verified_iff`                a request is verified exactly when its content is accepted
                                (`Content`: key, proof bytes, and the words `bb` reads, by
                                position) and the state reference agrees with the words it finds
                                under two names (`StateAgrees`);
* `content_congr`               the content is what it is under any names and any state reference.
-/

namespace Crucible
open Checked Text

/-! ## the host -/

structure BbVersion where
  raw : String
  major : UInt32
deriving DecidableEq

/-- how a `bb` process exits: successfully or not, and with what on `stderr` -/
structure Exit where
  success : Bool
  stderr : String

/-- the machine a verification runs on -/
structure Host where
  disk : Disk
  /-- `bb` on `PATH` -/
  binary : Option String
  /-- `bb --version`, parsed -/
  version : Except UltraHonkError BbVersion
  /-- `tempfile::tempdir` -/
  tempdir : Except String (List String)
  /-- `std::fs::write`, and whether the file is there afterwards -/
  write : List String → Except String Unit
  isFile : List String → Bool
  /-- `bb verify -p -k -i` -/
  run : ProofDocument → VkDocument → PublicInputsDocument → Except String Exit

/-! ## the toolchain -/

/-- `MIN_BB_MAJOR` -/
def minBbMajor : UInt32 := 4

/-- `TESTED_BB_VERSION` -/
def testedBbVersion : String := "6.0.0-nightly.20260903"

def checkVersion (host : Host) : Except UltraHonkError Unit := do
  let version ← host.version
  ensure (minBbMajor ≤ version.major) (.unsupportedBbVersion version.raw minBbMajor)

def requireFile (host : Host) (path : List String) : Except UltraHonkError Unit :=
  ensure (host.isFile path) (.missingFile (displayPath path))

structure VerifyOutcome where
  verified : Bool
  diagnostic : Option String

/-- `exec::verify` on the documents in `dir`: whether `bb` accepts them -/
def bbVerify (host : Host) (bb : String) (dir : List String) (proof : ProofDocument)
    (vk : VkDocument) (publicInputs : PublicInputsDocument) :
    Except (Fault UltraHonkError) VerifyOutcome := do
  (checkVersion host).mapError .error
  (requireFile host (dir ++ ["proof.json"])).mapError .error
  (requireFile host (dir ++ ["vk.json"])).mapError .error
  (requireFile host (dir ++ ["public_inputs.json"])).mapError .error
  let exit ← (host.run proof vk publicInputs).mapError fun e =>
    .error (.spawn s!"cannot spawn `{bb}`: {e}")
  if exit.success then return { verified := true, diagnostic := none }
  else
    let diagnostic ← fromOption .panic (excerpt exit.stderr)
    return { verified := false, diagnostic := some diagnostic }

/-! ## the documents -/

/-- `WORD_BYTES` -/
def wordBytes : Nat := 32

/-- `bytes.chunks(WORD_BYTES)` -/
def chunks (bytes : List UInt8) : List (List UInt8) :=
  (List.range ((bytes.length + wordBytes - 1) / wordBytes)).map fun i =>
    (bytes.drop (i * wordBytes)).take wordBytes

def proofDocument (proof : ProofBlob) (vk : VkDocument) : ProofDocument where
  proof := (chunks proof.bytes).map fun chunk => "0x" ++ hexEncode chunk
  vkHash := vk.hash
  bbVersion := vk.bbVersion
  scheme := vk.scheme

/-- a value as a word of 32 bytes -/
def publicWord (value : FieldValue) : String :=
  "0x" ++ String.ofList (padLeft '0' 64 value.hex.toList)

/-- the values of the submitted bag, in its order; its names are not written -/
def publicInputsDocument (outputs : OutputBag) : PublicInputsDocument where
  publicInputs := outputs.values.map publicWord
  bbVersion := testedBbVersion
  scheme := schemeUltraHonk

/-! ## the verifier -/

/-- `PROOF_FORMAT_TAG` -/
def proofFormatTag : String := "ultrahonk-v1"

/-- `UltraHonkBackend::id` -/
def ultraHonkId : BackendId := ⟨"ultrahonk"⟩

structure UltraHonkVerifier where
  store : VkStore

/-- the structural check of the state reference, against the words under two names -/
def checkState (r : VerificationRequest) : Except Halt Unit :=
  match r.publicOutputs.get "root_hi", r.publicOutputs.get "root_lo" with
  | some rootHi, some rootLo => do
    let state ← fromOption (.rejected .missingStateBinding) r.stateReference
    let (hi, lo) ← fromOption .panic state.rootHalves
    ensure (rootHi = hi ∧ rootLo = lo) (.rejected .stateReferenceMismatch)
  | _, _ => return ()

/-- the documents are written to a scratch directory, and `bb` decides -/
def checkProof (host : Host) (proof : ProofBlob) (outputs : OutputBag) (vk : VkDocument) :
    Except Halt Unit := do
  let bb ← fromOption (.error (.verificationUnavailable BackendId.ultrahonk
    "bb binary not found on PATH (see scripts/check-bb.sh)")) host.binary
  (checkVersion host).mapError fun e =>
    .error (.verificationUnavailable BackendId.ultrahonk e.message)
  let dir ← host.tempdir.mapError fun e =>
    .error (.internal s!"cannot create verification scratch dir: {e}")
  (host.write (dir ++ ["proof.json"])).mapError fun e =>
    .error (.internal s!"cannot write proof document: {e}")
  (host.write (dir ++ ["vk.json"])).mapError fun e =>
    .error (.internal s!"cannot write verification key: {e}")
  (host.write (dir ++ ["public_inputs.json"])).mapError fun e =>
    .error (.internal s!"cannot write public inputs: {e}")
  let outcome ← (bbVerify host bb dir (proofDocument proof vk) vk
    (publicInputsDocument outputs)).mapError fun
      | .error e =>
        .error (.verificationUnavailable BackendId.ultrahonk
          s!"bb verify failed to run: {e.message}")
      | .panic => .panic
  ensure outcome.verified (.rejected .invalidProof)

/-- a key that is not there is the wrong key; any other failure of the store is an error -/
def storeHalt : UltraHonkError → Halt
  | .missingFile _ => .rejected .wrongVerificationKey
  | e => .error (.internal s!"cannot load verification key: {e.message}")

namespace UltraHonkVerifier
variable (host : Host) (v : UltraHonkVerifier)

/-- routing; the key id, which pins circuit, version and artifact; the key, from the store; whole
words only; state binding, by name; and last the words, by position -/
def checks (r : VerificationRequest) : Except Halt Unit := do
  ensure (r.proof.format.tag = proofFormatTag ∧ r.backend = ultraHonkId)
    (.rejected .backendMismatch)
  let (idCircuit, idVersion, idArtifact) ←
    (VerificationKeyIdPolicy.parse r.verificationKeyId.id).mapError fun _ =>
      .rejected .wrongVerificationKey
  ensure (idCircuit = r.circuit) (.rejected .circuitMismatch)
  ensure (idVersion = r.circuitVersion) (.rejected .versionMismatch)
  ensure (idArtifact = r.artifactChecksum) (.rejected .artifactChecksumMismatch)
  let vk ← (v.store.get host.disk r.verificationKeyId).mapError storeHalt
  ensure (r.proof.bytes ≠ [] ∧ r.proof.bytes.length % wordBytes = 0) (.rejected .invalidProof)
  checkState r
  checkProof host r.proof r.publicOutputs vk

def verify : Verifies := fun r => conclude (v.checks host r)

/-- everything that is checked but the state reference -/
def Content (r : VerificationRequest) : Prop :=
  (r.proof.format.tag = proofFormatTag ∧ r.backend = ultraHonkId) ∧
  VerificationKeyIdPolicy.parse r.verificationKeyId.id
    = .ok (r.circuit, r.circuitVersion, r.artifactChecksum) ∧
  ∃ vk, v.store.get host.disk r.verificationKeyId = .ok vk ∧
    (r.proof.bytes ≠ [] ∧ r.proof.bytes.length % wordBytes = 0) ∧
    checkProof host r.proof r.publicOutputs vk = .ok ()

end UltraHonkVerifier

/-- the words under the two names, where both are found, are the halves of the referenced root -/
def StateAgrees (r : VerificationRequest) : Prop :=
  ∀ rootHi rootLo, r.publicOutputs.get "root_hi" = some rootHi →
    r.publicOutputs.get "root_lo" = some rootLo →
    ∃ state, r.stateReference = some state ∧ state.rootHalves = some (rootHi, rootLo)

theorem checkState_ok {r : VerificationRequest} {w : Unit} :
    checkState r = .ok w ↔ StateAgrees r := by
  unfold checkState StateAgrees
  cases hhi : r.publicOutputs.get "root_hi" with
  | none => simp [pure_ok]
  | some hi =>
    cases hlo : r.publicOutputs.get "root_lo" with
    | none => simp [pure_ok]
    | some lo =>
      simp only [bind_ok, fromOption_ok, ensure_ok, Prod.exists]
      constructor
      · rintro ⟨state, hs, a, b, hab, rfl, rfl⟩ _ _ ⟨⟩ ⟨⟩
        exact ⟨state, hs, hab⟩
      · intro h
        obtain ⟨state, hs, hab⟩ := h hi lo rfl rfl
        exact ⟨state, hs, hi, lo, hab, rfl, rfl⟩

section
variable {host : Host} {v : UltraHonkVerifier} {r : VerificationRequest}

theorem verified_iff : Verified (v.verify host) r ↔ v.Content host r ∧ StateAgrees r := by
  unfold Verified UltraHonkVerifier.verify UltraHonkVerifier.Content
  rw [conclude_verified]
  simp only [UltraHonkVerifier.checks, bind_ok, ensure_ok, mapError_ok, exists_const,
    checkState_ok, Prod.exists]
  constructor
  · rintro ⟨hroute, _, _, _, hparse, rfl, rfl, rfl, vk, hvk, hwords, hstate, hbb⟩
    exact ⟨⟨hroute, hparse, vk, hvk, hwords, hbb⟩, hstate⟩
  · rintro ⟨⟨hroute, hparse, vk, hvk, hwords, hbb⟩, hstate⟩
    exact ⟨hroute, _, _, _, hparse, rfl, rfl, rfl, vk, hvk, hwords, hstate, hbb⟩

/-- the content of a request does not depend on its state reference, nor on the names of its
public outputs -/
theorem content_congr {outputs : OutputBag} {state : Option StateReference}
    (h : outputs.values = r.publicOutputs.values) :
    v.Content host { r with publicOutputs := outputs, stateReference := state } ↔
      v.Content host r := by
  have hdoc : publicInputsDocument outputs = publicInputsDocument r.publicOutputs := by
    unfold publicInputsDocument
    rw [h]
  have hproof (vk : VkDocument) :
      checkProof host r.proof outputs vk = checkProof host r.proof r.publicOutputs vk := by
    unfold checkProof
    rw [hdoc]
  unfold UltraHonkVerifier.Content
  simp only [hproof]

end

end Crucible
