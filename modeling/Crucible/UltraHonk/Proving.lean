import Crucible.Artifacts.Loader
import Crucible.Noir.Toolchain
import Crucible.UltraHonk.Verifier

/-!
# Running `bb prove` (`crates/ultrahonk/src/exec.rs`)

* `Machine`      the machine a proof is made on: `bb`, `nargo`, the artifacts and the disk are
                 parameters;
* `prove`        the run, and the documents it leaves;
* `prove_ok`     documents that are returned were written by a successful run, are of the scheme,
                 and agree on the key.
-/

namespace Crucible
open Checked Text Files Nargo

/-- how one `bb prove` ends, and the text of the files in its output directory -/
structure ProveRun where
  exit : Exit
  files : String → Except String String

structure Machine where
  /-- what a verification uses too -/
  host : Host
  nargo : Nargo
  writer : DiskWriter
  /-- the artifact root -/
  artifacts : Except String Node
  parseManifest : List UInt8 → Except String ArtifactManifest
  lossy : List UInt8 → String
  /-- `tempfile::tempdir`, for the package and for the proof -/
  scratchDir : Except String (List String)
  outDir : Except String (List String)
  pathExists : List String → Bool
  /-- `copy_tree`, `std::fs::copy` -/
  copyTree : List String → List String → Except String Unit
  copyFile : List String → List String → Except String Unit
  /-- `write_restricted` -/
  writeWitness : List String → String → Except String Unit
  /-- `bb prove -b -w`, with or without `--write_vk` -/
  bbProve : List UInt8 → List UInt8 → Bool → Except String ProveRun
  /-- `serde_json::from_str` -/
  parseProof : String → Except String ProofDocument
  parsePublicInputs : String → Except String PublicInputsDocument

def Machine.crates (m : Machine) : ArtifactCrates where
  parseManifest := m.parseManifest
  lossy := m.lossy
  sha256 := m.host.disk.sha256

structure ProvenArtifacts where
  outputDir : List String
  proof : ProofDocument
  publicInputs : PublicInputsDocument
  vk : Option VkDocument
deriving DecidableEq

namespace Machine
variable (m : Machine)

/-- `read_document` -/
def readDocument {α : Type} (dir : List String) (run : ProveRun) (name : String)
    (fromStr : String → Except String α) : Except UltraHonkError α := do
  let text ← (run.files name).mapError fun e => .io (displayPath (dir ++ [name])) e
  (fromStr text).mapError fun e => .malformedArtifact (displayPath (dir ++ [name])) e

def readDocuments (dir : List String) (run : ProveRun) (writeVk : Bool) :
    Except UltraHonkError ProvenArtifacts := do
  let proof ← readDocument dir run "proof.json" m.parseProof
  let publicInputs ← readDocument dir run "public_inputs.json" m.parsePublicInputs
  let vk ← if writeVk then some <$> readDocument dir run "vk.json" m.host.disk.parseVk
    else .ok none
  return { outputDir := dir, proof, publicInputs, vk }

end Machine

/-- the key is of the scheme, and the one whose digest the proof carries -/
def checkKey (proof : ProofDocument) (vk : VkDocument) : Except (Fault UltraHonkError) Unit := do
  (validateProvenance "verification key" vk.scheme vk.bbVersion).mapError .error
  let proofHash ← Exec.digestBytes proof.vkHash
  let hash ← Exec.digestBytes vk.hash
  ensure (hash = proofHash) (.error (.inconsistentArtifacts
    "proof embeds a different verification-key digest than vk.json"))

def checkDocuments (artifacts : ProvenArtifacts) : Except (Fault UltraHonkError) Unit := do
  (validateProvenance "proof" artifacts.proof.scheme artifacts.proof.bbVersion).mapError .error
  (validateProvenance "public inputs" artifacts.publicInputs.scheme
    artifacts.publicInputs.bbVersion).mapError .error
  match artifacts.vk with
  | some vk => checkKey artifacts.proof vk
  | none => return ()

/-- a run that failed is an error with an excerpt of its diagnostic -/
def requireSuccess (exit : Exit) : Except (Fault UltraHonkError) Unit :=
  if exit.success then .ok ()
  else do
    let reason ← fromOption .panic (excerpt exit.stderr)
    .error (.error (.commandFailed "prove" reason))

/-- `exec::prove` -/
def prove (m : Machine) (bb : String) (bytecode witness : File) (outputDir : List String)
    (writeVk : Bool) : Except (Fault UltraHonkError) ProvenArtifacts := do
  (checkVersion m.host).mapError .error
  (requireFile m.host bytecode.path).mapError .error
  (requireFile m.host witness.path).mapError .error
  (m.writer.createDirAll outputDir).mapError fun e => .error (.io (displayPath outputDir) e)
  let run ← (m.bbProve bytecode.content witness.content writeVk).mapError fun e =>
    .error (.spawn s!"cannot spawn `{bb}`: {e}")
  requireSuccess run.exit
  let artifacts ← (m.readDocuments outputDir run writeVk).mapError .error
  checkDocuments artifacts
  return artifacts

theorem requireSuccess_ok {exit : Exit} {w : Unit} :
    requireSuccess exit = .ok w ↔ exit.success := by
  unfold requireSuccess
  by_cases h : exit.success
  · rw [if_pos h]
    exact iff_of_true rfl h
  · rw [if_neg h]
    refine iff_of_false (fun heq => ?_) h
    obtain ⟨_, _, herr⟩ := bind_ok.mp heq
    cases herr

/-- the documents of a successful run -/
theorem prove_ok {m : Machine} {bb : String} {bytecode witness : File} {outputDir : List String}
    {writeVk : Bool} {artifacts : ProvenArtifacts}
    (h : prove m bb bytecode witness outputDir writeVk = .ok artifacts) :
    ∃ run, m.bbProve bytecode.content witness.content writeVk = .ok run ∧ run.exit.success ∧
      m.readDocuments outputDir run writeVk = .ok artifacts ∧
      checkDocuments artifacts = .ok () := by
  simp only [prove, bind_ok, mapError_ok, requireSuccess_ok, pure_ok, exists_const] at h
  obtain ⟨_, _, _, _, _, _, _, _, run, hrun, hsuccess, _, hread, _, hcheck, rfl⟩ := h
  exact ⟨run, hrun, hsuccess, hread, hcheck⟩

/-- the key is read where it was asked for -/
theorem readDocuments_vk {m : Machine} {dir : List String} {run : ProveRun}
    {artifacts : ProvenArtifacts} (h : m.readDocuments dir run true = .ok artifacts) :
    ∃ text vk, m.host.disk.parseVk text = .ok vk ∧ artifacts.vk = some vk := by
  obtain ⟨_, _, h⟩ := bind_ok.mp h
  obtain ⟨_, _, h⟩ := bind_ok.mp h
  obtain ⟨_, hvk, hread⟩ := bind_ok.mp h
  obtain rfl := pure_ok.mp hread
  obtain ⟨vk, hdocument, rfl⟩ := map_ok.mp hvk
  obtain ⟨text, _, hparse⟩ := bind_ok.mp hdocument
  exact ⟨text, vk, mapError_ok.mp hparse, rfl⟩

/-- documents that are returned are of the scheme, and two of them have the digest of the key -/
theorem checkDocuments_ok {artifacts : ProvenArtifacts} {vk : VkDocument} {w : Unit}
    (hvk : artifacts.vk = some vk) (h : checkDocuments artifacts = .ok w) :
    artifacts.proof.scheme = schemeUltraHonk ∧ artifacts.publicInputs.scheme = schemeUltraHonk ∧
      vk.scheme = schemeUltraHonk ∧ ∃ bytes, Exec.digestBytes artifacts.proof.vkHash = .ok bytes ∧
        Exec.digestBytes vk.hash = .ok bytes := by
  simp only [checkDocuments, validateProvenance, hvk, checkKey, bind_ok, mapError_ok, ensure_ok,
    exists_const] at h
  obtain ⟨⟨hproof, _⟩, ⟨hpublic, _⟩, ⟨hkey, _⟩, bytes, hbytes, _, hhash, rfl⟩ := h
  exact ⟨hproof, hpublic, hkey, _, hbytes, hhash⟩

end Crucible
