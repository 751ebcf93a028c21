import Crucible.ProverCore.Service
import Crucible.UltraHonk.Proving
import Crucible.Witness.Toml

/-!
# The UltraHonk provider (`crates/ultrahonk/src/provider.rs`, `backend.rs`)

A request is checked, the pinned artifact of its circuit is loaded, `nargo` solves the witness from
the request's bags, `bb` proves, the public words are named, and the key is stored.

* `UltraHonkProvider.gate`       the artifact gate;
* `UltraHonkProvider.generate`   the answer, and the disk it leaves;
* `generate_ok`                  what a response has been through.
-/

namespace Crucible
open Checked Text Files Nargo

/-! ## the backend -/

structure CompatEntry where
  nargo : String
  bb : String
  circuits : Version

/-- `BACKEND_COMPAT` -/
def backendCompat : List CompatEntry :=
  [{ nargo := "1.0.0-beta.26", bb := testedBbVersion, circuits := ⟨0, 1, 0⟩ }]

namespace UltraHonkBackend

def isProtocolCircuit (circuit : CircuitId) : Bool :=
  [Operation.register, .deposit, .merge, .transfer, .withdraw].any fun op =>
    CircuitId.forOperation op == circuit

def supports (circuit : CircuitId) (version : Version) : Bool :=
  isProtocolCircuit circuit && backendCompat.any fun entry => entry.circuits == version

end UltraHonkBackend

/-! ## errors -/

/-- `ProviderError::ProofGeneration`, of this backend -/
def generationFailed (reason : String) : ProviderError :=
  .proofGeneration BackendId.ultrahonk reason

/-- `ProviderError::BackendUnavailable`, of this backend -/
def unavailable (reason : String) : ProviderError := .backendUnavailable BackendId.ultrahonk reason

/-- a file that is not there makes the artifact unavailable; anything else breaks its integrity -/
def artifactFailure (r : ProofRequest) : ArtifactError → ProviderError
  | .readFailure _ _ => .artifactUnavailable BackendId.ultrahonk r.circuit r.circuitVersion
  | .missingFile _ => .artifactUnavailable BackendId.ultrahonk r.circuit r.circuitVersion
  | _ => .artifactIntegrity r.circuit r.circuitVersion

/-! ## words -/

/-- `field_from_word` -/
def fieldFromWord (word : String) : Except String FieldValue :=
  let bare := stripPrefix "0x".toList word.toList
  let trimmed := bare.dropWhile (· == '0')
  let canonical := if trimmed = [] then ['0'] else trimmed
  (FieldValue.fromHex (String.ofList canonical)).mapError fun e =>
    s!"public input word `{word}` is not canonical: {e.message}"

/-- one name, one word -/
def nameWord (outputs : OutputBag) (nameAndWord : String × String) :
    Except ProviderError OutputBag := do
  let value ← (fieldFromWord nameAndWord.2).mapError generationFailed
  (outputs.insert nameAndWord.1 value).mapError fun e =>
    .internal s!"cannot assemble public outputs: {e.message}"

/-- the words, under the names of a surface -/
def nameWords (names words : List String) : Except ProviderError OutputBag :=
  (names.zip words).foldlM nameWord .new

section
variable {outputs outputs' : OutputBag}

theorem nameWord_ok {name word : String} : nameWord outputs (name, word) = .ok outputs' ↔
    ∃ value, fieldFromWord word = .ok value ∧ outputs.insert name value = .ok outputs' := by
  simp only [nameWord, bind_ok, mapError_ok]

/-- naming appends a value a word, under the names in order -/
theorem foldlM_nameWord_ok {pairs : List (String × String)}
    (h : pairs.foldlM nameWord outputs = .ok outputs') :
    ∃ added, outputs'.entries = outputs.entries ++ added ∧
      List.Forall₂ (fun pair entry => entry.1 = pair.1 ∧ fieldFromWord pair.2 = .ok entry.2)
        pairs added := by
  refine (foldlM_appends Bag.entries (fun _ _ => True) ?_ trivial h).2
  intro bag pair _ next _ hstep
  obtain ⟨value, hvalue, hinsert⟩ := nameWord_ok.mp hstep
  obtain ⟨_, _, rfl⟩ := Bag.insert_ok.mp hinsert
  exact ⟨trivial, (pair.1, value), ⟨rfl, hvalue⟩, rfl⟩

theorem nameWords_ok {names words : List String} (hlen : words.length = names.length)
    (h : nameWords names words = .ok outputs) : outputs.names = names ∧
      List.Forall₂ (fun word value => fieldFromWord word = .ok value) words outputs.values := by
  obtain ⟨added, hentries, hall⟩ := foldlM_nameWord_ok h
  obtain rfl : outputs = ⟨added⟩ := by
    cases outputs
    exact congrArg Bag.mk hentries
  have hnames : added.map Prod.fst = (names.zip words).map Prod.fst :=
    map_eq_of_forall₂ (hall.imp fun _ _ h => h.1)
  have hvalues : List.Forall₂ (fun word value => fieldFromWord word = .ok value)
      ((names.zip words).map Prod.snd) (added.map Prod.snd) :=
    List.forall₂_map_left_iff.mpr (List.forall₂_map_right_iff.mpr (hall.imp fun _ _ h => h.2))
  rw [List.map_fst_zip (by omega)] at hnames
  rw [List.map_snd_zip (by omega)] at hvalues
  exact ⟨hnames, hvalues⟩

end

/-! ## the provider -/

structure UltraHonkConfig where
  circuitsRoot : List String
  artifactRoot : List String
  vkStore : VkStore

/-- what the artifact gate lets through -/
structure PinnedArtifact where
  loaded : LoadedArtifact
  bytecode : File
  checksum : ArtifactChecksum
  vkId : VerificationKeyId

/-- a proof with its words named, before the key is stored -/
structure Named where
  pinned : PinnedArtifact
  artifacts : ProvenArtifacts
  publicOutputs : OutputBag

structure UltraHonkProvider where
  config : UltraHonkConfig

namespace UltraHonkProvider
variable (p : UltraHonkProvider) (m : Machine) (r : ProofRequest)

def checkRequest : Except (Fault ProviderError) Unit := do
  r.validate.mapError (.map .invalidRequest)
  ensure (r.backend = ultraHonkId) (.error (.proofGeneration r.backend.id
    "request targets a different backend than the ultrahonk provider"))
  ensure (UltraHonkBackend.supports r.circuit r.circuitVersion)
    (.error (.unsupportedCircuit r.backend.id r.circuit r.circuitVersion))

/-- both toolchains, present and of a supported version; the path of `bb` -/
def locateToolchains : Except ProviderError String := do
  let bb ← fromOption (unavailable "bb binary not found on PATH (see scripts/check-bb.sh)")
    m.host.binary
  let _ ← fromOption
    (unavailable "nargo binary not found on PATH (see scripts/check-circuits.sh)") m.nargo.binary
  (checkVersion m.host).mapError fun e => unavailable e.message
  m.nargo.checkVersion.mapError fun e => unavailable e.message
  return bb

/-- `<artifact_root>/<circuit>` -/
def artifactDir : ArtifactDir where
  path := p.config.artifactRoot ++ [r.circuit.id]
  root := m.artifacts >>= fun root => root.find (pathNames r.circuit.id)

/-- the strict load of the artifact, its bytecode, and the key id they make -/
def loadPinned : Except ProviderError PinnedArtifact := do
  let dir := p.artifactDir m r
  let loaded ← (ArtifactLoader.new.load m.crates dir).mapError (artifactFailure r)
  let bytecodeName := r.circuit.id ++ ".json"
  let bytecodeBytes ← fromOption
    (.artifactUnavailable BackendId.ultrahonk r.circuit r.circuitVersion)
    (loaded.file bytecodeName)
  let checksum := ArtifactChecksum.fromBytes m.host.disk.sha256 bytecodeBytes
  let vkId ← fromOption (.internal ("cannot form verification key id: " ++
      "verification key id must be 1..=128 characters"))
    (VerificationKeyId.new (VerificationKeyIdPolicy.idFor r.circuit r.circuitVersion checksum))
  return { loaded, bytecode := ⟨dir.path ++ [bytecodeName], bytecodeBytes⟩, checksum, vkId }

/-- everything before the witness is solved; with the path of `bb` -/
def gate : Except (Fault ProviderError) (String × PinnedArtifact) := do
  checkRequest r
  let bb ← (locateToolchains m).mapError .error
  let pinned ← (p.loadPinned m r).mapError .error
  return (bb, pinned)

/-- the sources of the package and of `lib/`, to the same places in the scratch directory -/
def copyPackageSources (op : String) (scratchRoot : List String) : Except String Unit := do
  let circuits := p.config.circuitsRoot
  ensureAll (fun required => m.pathExists (circuits ++ [op, required]))
    (fun required => s!"circuit package `{op}` is missing `{required}` under " ++
      s!"`{displayPath circuits}`") ["Nargo.toml", "src"]
  m.copyTree (circuits ++ [op, "Nargo.toml"]) (scratchRoot ++ [op, "Nargo.toml"])
  m.copyTree (circuits ++ [op, "src"]) (scratchRoot ++ [op, "src"])
  m.copyTree (circuits ++ ["lib", "Nargo.toml"]) (scratchRoot ++ ["lib", "Nargo.toml"])
  m.copyTree (circuits ++ ["lib", "src"]) (scratchRoot ++ ["lib", "src"])

/-- `nargo` runs in the package that the circuit names, over the bags of the request -/
def solveWitness (scratchRoot : List String) : Except ProviderError File := do
  let operationName := r.circuit.id
  (p.copyPackageSources m operationName scratchRoot).mapError generationFailed
  let packageDir := scratchRoot ++ [operationName]
  let bytecodeName := operationName ++ ".json"
  (m.writer.createDirAll (packageDir ++ ["target"])).mapError fun e =>
    generationFailed s!"cannot create scratch target dir: {e}"
  (m.copyFile (p.config.circuitsRoot ++ ["target", bytecodeName])
    (packageDir ++ ["target", bytecodeName])).mapError fun e =>
      generationFailed s!"cannot copy bytecode into scratch: {e}"
  let proverToml := encodeToml (.fromRequest r)
  (m.writeWitness (packageDir ++ ["Prover.toml"]) proverToml).mapError fun e =>
    generationFailed
      s!"cannot write witness Prover.toml: {(Witness.WitnessError.io e).message}"
  let captured ← (m.nargo.executeCaptured packageDir operationName proverToml "witness").mapError
    fun e => unavailable s!"nargo execute failed: {e.message}"
  ensure captured.solved (generationFailed
    ("the witness did not solve: the request's private values do not satisfy the circuit " ++
      "constraints (wrong owner, overdraw, or opening mismatch)"))
  fromOption
    (generationFailed "nargo reported a solved witness but wrote no witness file") captured.witness

/-- the names are those of the label, the words those of the circuit; only the count is checked -/
def nameOutputs (words : List String) : Except ProviderError OutputBag := do
  let names := (expectations r.operation).publicNames
  ensure (words.length = names.length) (generationFailed
    (s!"circuit `{r.circuit.id}` reported {words.length} public input words but its pinned " ++
      s!"surface has {names.length} (circuit source and expectations spec drifted)"))
  nameWords names words

/-- everything before the key is stored -/
def proveNamed : Except (Fault ProviderError) Named := do
  let (bb, pinned) ← p.gate m r
  let scratch ← m.scratchDir.mapError fun e =>
    .error (generationFailed s!"cannot create scratch dir: {e}")
  let witness ← (p.solveWitness m r scratch).mapError .error
  let outDir ← m.outDir.mapError fun e =>
    .error (generationFailed s!"cannot create proof scratch dir: {e}")
  let artifacts ← (prove m bb pinned.bytecode witness outDir true).mapError
    (.map fun e => generationFailed e.message)
  let publicOutputs ← (nameOutputs r artifacts.publicInputs.publicInputs).mapError .error
  return { pinned, artifacts, publicOutputs }

/-- the key of the proof is stored; and the disk that is left, also where that fails -/
def storeKey (named : Named) : Except ProviderError Unit × Disk :=
  match named.artifacts.vk with
  | none => (.ok (), m.host.disk)
  | some vk =>
    let (answer, disk) := p.config.vkStore.put m.host.disk m.writer named.pinned.vkId vk
    (answer.mapError fun e => generationFailed s!"cannot store verification key: {e.message}", disk)

/-- the last step; the key is on the disk by then -/
def respond (named : Named) : Except (Fault ProviderError) ProofResponse := do
  let bytes ← (Exec.concatWords named.artifacts.proof.proof).mapError
    (.map fun e => generationFailed s!"cannot decode proof bytes: {e.message}")
  return { requestId := r.requestId
           circuit := r.circuit
           circuitVersion := r.circuitVersion
           backend := ultraHonkId
           proof := { format := ⟨proofFormatTag⟩, bytes }
           publicOutputs := named.publicOutputs
           verificationKeyId := named.pinned.vkId
           artifactChecksum := named.pinned.checksum
           stateReference := r.stateReference }

/-- the answer, and the disk that is left -/
def generate : Except (Fault ProviderError) ProofResponse × Disk :=
  match p.proveNamed m r with
  | .error e => (.error e, m.host.disk)
  | .ok named =>
    match p.storeKey m named with
    | (.error e, disk) => (.error (.error e), disk)
    | (.ok _, disk) => (respond r named, disk)

/-- the provider of its backend, on a machine -/
def provider : Provider where
  backend := ultraHonkId
  supports := UltraHonkBackend.supports
  generate r := (p.generate m r).1

variable {p m r}

theorem generate_ok {response : ProofResponse} {disk : Disk} :
    p.generate m r = (.ok response, disk) ↔ ∃ named, p.proveNamed m r = .ok named ∧
      p.storeKey m named = (.ok (), disk) ∧ respond r named = .ok response := by
  unfold generate
  cases hnamed : p.proveNamed m r with
  | error e => exact iff_of_false (by intro h; cases h) (by rintro ⟨_, h, _⟩; cases h)
  | ok named =>
    simp only [Except.ok.injEq, exists_eq_left']
    obtain ⟨answer, left⟩ := p.storeKey m named
    cases answer with
    | error e => exact iff_of_false (by intro h; cases h) (by rintro ⟨h, _⟩; cases h)
    | ok _ =>
      simp only [Prod.mk.injEq, true_and]
      exact And.comm

/-- what the gate lets through: a checked request, an installed `bb`, and the artifact -/
theorem gate_ok {bb : String} {pinned : PinnedArtifact} (h : p.gate m r = .ok (bb, pinned)) :
    checkRequest r = .ok () ∧ m.host.binary = some bb ∧ checkVersion m.host = .ok () ∧
      p.loadPinned m r = .ok pinned := by
  simp only [gate, bind_ok, mapError_ok, pure_ok] at h
  obtain ⟨_, hrequest, _, htools, _, hpinned, heq⟩ := h
  obtain ⟨rfl, rfl⟩ := Prod.mk.inj heq
  simp only [locateToolchains, bind_ok, fromOption_ok, mapError_ok, pure_ok] at htools
  obtain ⟨_, hbb, _, _, _, hversion, _, _, rfl⟩ := htools
  exact ⟨hrequest, hbb, hversion, hpinned⟩

/-- the key id is formed from the request and the checksum of the bytecode -/
theorem loadPinned_ok {pinned : PinnedArtifact} (h : p.loadPinned m r = .ok pinned) :
    pinned.checksum = .fromBytes m.host.disk.sha256 pinned.bytecode.content ∧
      pinned.vkId.id
        = VerificationKeyIdPolicy.idFor r.circuit r.circuitVersion pinned.checksum := by
  simp only [loadPinned, bind_ok, mapError_ok, fromOption_ok, pure_ok] at h
  obtain ⟨_, _, _, _, _, hid, rfl⟩ := h
  exact ⟨rfl, congrArg VerificationKeyId.id (VerificationKeyId.new_eq_some.mp hid).2⟩

/-- `nargo` has solved the bags of the request -/
theorem solveWitness_ok {scratch : List String} {witness : File}
    (h : p.solveWitness m r scratch = .ok witness) :
    ∃ run, m.nargo.execute r.circuit.id (encodeToml (.fromRequest r)) = .ok run ∧ run.success ∧
      run.witness = some witness.content := by
  simp only [solveWitness, bind_ok, mapError_ok, fromOption_ok, ensure_ok, exists_const] at h
  obtain ⟨_, _, _, _, _, _, _, _, captured, hcaptured, hsolved, hwitness⟩ := h
  simp only [executeCaptured, bind_ok, mapError_ok, ensure_ok, exists_const, pure_ok] at hcaptured
  obtain ⟨_, _, run, hrun, _, rfl⟩ := hcaptured
  refine ⟨run, hrun, hsolved, ?_⟩
  rw [if_pos hsolved, Option.map_eq_some_iff] at hwitness
  obtain ⟨content, hcontent, rfl⟩ := hwitness
  exact hcontent

theorem storeKey_ok {named : Named} {vk : VkDocument} (hvk : named.artifacts.vk = some vk) :
    (p.storeKey m named).1 = .ok () ↔
      (p.config.vkStore.put m.host.disk m.writer named.pinned.vkId vk).1 = .ok () := by
  unfold storeKey
  rw [hvk]
  exact mapError_ok

theorem storeKey_disk {named : Named} {vk : VkDocument} (hvk : named.artifacts.vk = some vk) :
    (p.storeKey m named).2
      = (p.config.vkStore.put m.host.disk m.writer named.pinned.vkId vk).2 := by
  rw [storeKey, hvk]

theorem nameOutputs_ok {words : List String} {outputs : OutputBag}
    (h : nameOutputs r words = .ok outputs) :
    words.length = (expectations r.operation).publicNames.length ∧
      outputs.names = (expectations r.operation).publicNames ∧
      List.Forall₂ (fun word value => fieldFromWord word = .ok value) words outputs.values := by
  simp only [nameOutputs, bind_ok, ensure_ok, exists_const] at h
  obtain ⟨hlen, hwords⟩ := h
  exact ⟨hlen, nameWords_ok hlen hwords⟩

/-- a proof with its words named: from the artifact that the gate has let through, and a witness
that `nargo` has solved over the bags of the request -/
theorem proveNamed_ok {named : Named} : p.proveNamed m r = .ok named ↔
    ∃ bb scratch witness outDir, p.gate m r = .ok (bb, named.pinned) ∧
      m.scratchDir = .ok scratch ∧ p.solveWitness m r scratch = .ok witness ∧
      m.outDir = .ok outDir ∧
      prove m bb named.pinned.bytecode witness outDir true = .ok named.artifacts ∧
      nameOutputs r named.artifacts.publicInputs.publicInputs = .ok named.publicOutputs := by
  simp only [proveNamed, bind_ok, mapError_ok, pure_ok, Prod.exists]
  constructor
  · rintro ⟨bb, pinned, hgate, scratch, hscratch, witness, hsolve, outDir, hout, artifacts, hprove,
      outputs, hnames, rfl⟩
    exact ⟨bb, scratch, witness, outDir, hgate, hscratch, hsolve, hout, hprove, hnames⟩
  · rintro ⟨bb, scratch, witness, outDir, hgate, hscratch, hsolve, hout, hprove, hnames⟩
    exact ⟨bb, named.pinned, hgate, scratch, hscratch, witness, hsolve, outDir, hout,
      named.artifacts, hprove, named.publicOutputs, hnames, rfl⟩

end UltraHonkProvider

end Crucible
