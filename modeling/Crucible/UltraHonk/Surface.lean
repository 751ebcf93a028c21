import Crucible.ProverCore.Policy
import Crucible.UltraHonk.Provider

/-!
# The names of the public words

`nargo` and `bb` run on the circuit of a request, the names come from its operation, and what is
compared is two counts.

* `UltraHonkProvider.Reported`   the words `bb` reports for a request;
* `NamesWords`                   they are named by the surface of their circuit, or refused;
* `words_named_iff`              so they are, whatever the machine, exactly under the label of the
                                 circuit itself.
-/

namespace Crucible
open Checked Text Files Nargo

/-! ## surfaces -/

/-- an operation is known by its public names -/
theorem publicNames_injective {a b : Operation}
    (h : (expectations a).publicNames = (expectations b).publicNames) : a = b := by
  revert h
  cases a <;> cases b <;> decide

/-- the words that `bb` reports for the request, on the machine -/
def UltraHonkProvider.Reported (p : UltraHonkProvider) (m : Machine) (r : ProofRequest)
    (words : List String) : Prop :=
  ∃ bb pinned scratch witness outDir artifacts, p.gate m r = .ok (bb, pinned) ∧
    m.scratchDir = .ok scratch ∧ p.solveWitness m r scratch = .ok witness ∧
    m.outDir = .ok outDir ∧ prove m bb pinned.bytecode witness outDir true = .ok artifacts ∧
    artifacts.publicInputs.publicInputs = words

/-- the words of the circuit `c` are named by its surface; words of another count are refused -/
structure NamesWords (p : UltraHonkProvider) (m : Machine) (r : ProofRequest) (c : Operation) :
    Prop where
  named : ∀ words response disk, p.Reported m r words →
    words.length = (expectations c).publicNames.length →
    p.generate m r = (.ok response, disk) →
    response.publicOutputs.names = (expectations c).publicNames
  refused : ∀ words response disk, p.Reported m r words →
    words.length ≠ (expectations c).publicNames.length → p.generate m r ≠ (.ok response, disk)

section
variable {p : UltraHonkProvider} {m : Machine} {r : ProofRequest} {response : ProofResponse}
  {disk : Disk}

/-- what a response names, and how many words `bb` has reported for it -/
theorem names_of_generate (h : p.generate m r = (.ok response, disk)) :
    response.publicOutputs.names = (expectations r.operation).publicNames ∧
    ∀ words, p.Reported m r words →
      words.length = (expectations r.operation).publicNames.length := by
  obtain ⟨named, hnamed, _, hrespond⟩ := UltraHonkProvider.generate_ok.mp h
  obtain ⟨bb, scratch, witness, outDir, hgate, hscratch, hsolve, hout, hprove, hnames⟩ :=
    UltraHonkProvider.proveNamed_ok.mp hnamed
  obtain ⟨hlen, hnames, _⟩ := UltraHonkProvider.nameOutputs_ok hnames
  have houtputs : response.publicOutputs = named.publicOutputs := by
    obtain ⟨_, _, hresponse⟩ := bind_ok.mp hrespond
    rw [← pure_ok.mp hresponse]
  refine ⟨houtputs ▸ hnames, ?_⟩
  rintro words ⟨bb', pinned', scratch', witness', outDir', artifacts', hgate', hscratch', hsolve',
    hout', hprove', rfl⟩
  obtain ⟨rfl, rfl⟩ := Prod.mk.inj (Except.ok.inj (hgate.symm.trans hgate'))
  obtain rfl := Except.ok.inj (hscratch.symm.trans hscratch')
  obtain rfl := Except.ok.inj (hsolve.symm.trans hsolve')
  obtain rfl := Except.ok.inj (hout.symm.trans hout')
  obtain rfl := Except.ok.inj (hprove.symm.trans hprove')
  exact hlen

theorem namesWords_of_label {c : Operation} (hop : r.operation = c) : NamesWords p m r c := by
  subst hop
  refine ⟨fun _ _ _ _ _ hgen => (names_of_generate hgen).1, ?_⟩
  intro words response disk hreported hne hgen
  exact hne ((names_of_generate hgen).2 words hreported)

end

/-! ## a machine that proves one request -/

def sampleProvider : UltraHonkProvider where
  config := { circuitsRoot := ["circuits"], artifactRoot := ["artifacts"], vkStore := ⟨["store"]⟩ }

/-- the parameters of the circuit `c`, all zero, under the label `op` -/
def sampleRequest (op c : Operation) : ProofRequest :=
  { minimalRequest c (.forOperation c) ⟨0, 1, 0⟩ ultraHonkId with operation := op }

/-- the digest of an empty file -/
def sampleSha256 (_ : List UInt8) : List UInt8 :=
  [0xe3, 0xb0, 0xc4, 0x42, 0x98, 0xfc, 0x1c, 0x14, 0x9a, 0xfb, 0xf4, 0xc8, 0x99, 0x6f, 0xb9, 0x24,
    0x27, 0xae, 0x41, 0xe4, 0x64, 0x9b, 0x93, 0x4c, 0xa4, 0x95, 0x99, 0x1b, 0x78, 0x52, 0xb8, 0x55]

def sampleFile (c : Operation) : ManifestFile where
  path := c.asStr ++ ".json"
  sha256 := .fromBytes sampleSha256 []
  kind := none

/-- the identity of the artifact that the request is for -/
def sampleIdentity (c : Operation) : Identity where
  circuit := .forOperation c
  circuitVersion := ⟨0, 1, 0⟩
  artifactVersion := ⟨0, 1, 0⟩
  backend := ultraHonkId

def sampleManifest (i : Identity) (c : Operation) : ArtifactManifest where
  manifestVersion := 1
  circuit := i.circuit
  circuitVersion := i.circuitVersion
  artifactVersion := i.artifactVersion
  backend := i.backend
  verificationKeyId := none
  files := [sampleFile c]
  backendMetadata := []

/-- an artifact: the text of a manifest, and an empty bytecode -/
def sampleArtifact (manifest : List UInt8) (c : Operation) : Node :=
  .dir [(manifestFilename.toUTF8.data.toList, .file (.ok manifest)),
    ((c.asStr ++ ".json").toUTF8.data.toList, .file (.ok []))] none

/-- an artifact root with that artifact -/
def sampleArtifacts (manifest : List UInt8) (c : Operation) : Node :=
  .dir [(c.asStr.toUTF8.data.toList, sampleArtifact manifest c)] none

def sampleProof : ProofDocument where
  proof := ["0x01"]
  vkHash := "0x" ++ String.ofList (List.replicate 64 'a')
  bbVersion := testedBbVersion
  scheme := schemeUltraHonk

def samplePublicInputs (n : Nat) : PublicInputsDocument where
  publicInputs := List.replicate n "0x00"
  bbVersion := testedBbVersion
  scheme := schemeUltraHonk

def sampleKey : VkDocument where
  vk := ["0x0e"]
  hash := sampleProof.vkHash
  bbVersion := testedBbVersion
  scheme := schemeUltraHonk

def sampleDisk : Disk where
  cwd := []
  file _ := none
  device _ := none
  parseVk _ := .ok sampleKey
  sha256 := sampleSha256

/-- the `Prover.toml` of the request -/
def sampleToml (c : Operation) : String := encodeToml (.fromRequest (sampleRequest c c))

/-- `to_string_lossy`, of ASCII -/
def sampleLossy (bytes : List UInt8) : String :=
  String.ofList (bytes.map fun b => Char.ofNat b.toNat)

/-- the texts that `bb prove` leaves -/
def sampleRun (n : Nat) : ProveRun where
  exit := { success := true, stderr := "" }
  files name :=
    if name = "proof.json" then .ok sampleProof.json.compact
    else if name = "public_inputs.json" then .ok (samplePublicInputs n).json.compact
    else .ok sampleKey.json.compact

/-- everything is installed and every file is there, with an artifact for `c` that declares `i`;
`nargo` solves the parameters of `c`, all zero, and `bb` reports `n` words, all zero -/
def sampleMachine (i : Identity) (c : Operation) (n : Nat) : Machine where
  host :=
    { disk := sampleDisk
      binary := some "bb"
      version := .ok { raw := testedBbVersion, major := 6 }
      tempdir := .ok ["tmp"]
      write := fun _ => .ok ()
      isFile := fun _ => true
      run := fun _ _ _ => .ok { success := true, stderr := "" } }
  nargo :=
    { binary := some "nargo"
      version := .ok { raw := "1.0.0-beta.26", major := 1 }
      execute := fun package toml =>
        .ok { success := package = c.asStr ∧ toml = sampleToml c, code := some 0, stdout := ""
              witness := some [] } }
  writer :=
    { createDirAll := fun _ => .ok ()
      write := fun _ => none
      renderVk := fun vk => vk.json.compact }
  artifacts := .ok (sampleArtifacts (sampleManifest i c).toCanonicalJson c)
  parseManifest _ := .ok (sampleManifest i c)
  lossy := sampleLossy
  scratchDir := .ok ["scratch"]
  outDir := .ok ["out"]
  pathExists _ := true
  copyTree _ _ := .ok ()
  copyFile _ _ := .ok ()
  writeWitness _ _ := .ok ()
  bbProve _ _ _ := .ok (sampleRun n)
  parseProof _ := .ok sampleProof
  parsePublicInputs _ := .ok (samplePublicInputs n)

def sampleLoaded (i : Identity) (c : Operation) : LoadedArtifact where
  manifest := sampleManifest i c
  files := [(c.asStr ++ ".json", [])]

def samplePinned (i : Identity) (c : Operation) : PinnedArtifact where
  loaded := sampleLoaded i c
  bytecode := ⟨["artifacts", c.asStr, c.asStr ++ ".json"], []⟩
  checksum := .fromBytes sampleSha256 []
  vkId := ⟨VerificationKeyIdPolicy.idFor (.forOperation c) ⟨0, 1, 0⟩
    (.fromBytes sampleSha256 [])⟩

section
variable {i : Identity} {op c : Operation} {n : Nat}

theorem sample_checkRequest : UltraHonkProvider.checkRequest (sampleRequest op c) = .ok () := by
  have hpre : ProverService.preflight (minimalRequest c (.forOperation c) ⟨0, 1, 0⟩ ultraHonkId)
      = .ok () := minimalRequest_preflight
  obtain ⟨hwitness, hpublic, _, hroot⟩ :=
    ProofRequest.validate_ok.mp (ProverService.preflight_ok.mp hpre).1
  have hvalid : (sampleRequest op c).validate = .ok () :=
    ProofRequest.validate_ok.mpr ⟨hwitness, hpublic, fun _ => ⟨_, rfl⟩, hroot⟩
  have hsupports : UltraHonkBackend.supports (.forOperation c) ⟨0, 1, 0⟩ := by cases c <;> decide
  simp only [UltraHonkProvider.checkRequest, bind_ok, mapError_ok, ensure_ok, exists_const]
  exact ⟨(), hvalid, rfl, hsupports⟩

/-- the directory of the artifact, under any text of its manifest -/
def sampleDir (manifest : List UInt8) (c : Operation) : ArtifactDir where
  path := ["artifacts", c.asStr]
  root := .ok (sampleArtifact manifest c)

theorem sample_artifactDir : sampleProvider.artifactDir (sampleMachine i c n) (sampleRequest op c)
    = sampleDir (sampleManifest i c).toCanonicalJson c := by
  have hnames : pathNames c.asStr = [c.asStr.toUTF8.data.toList] := by cases c <;> decide +kernel
  show ArtifactDir.mk ["artifacts", c.asStr] ((sampleArtifacts _ c).find (pathNames c.asStr)) = _
  rw [hnames]
  simp [sampleArtifacts, Node.find, sampleDir]

theorem sample_safe : isSafeRelativePath (c.asStr ++ ".json") := by cases c <;> decide +kernel

section
variable {crates : ArtifactCrates} {manifest : List UInt8}

theorem sample_read : (sampleDir manifest c).read manifestFilename = .ok manifest ∧
    (sampleDir manifest c).read (c.asStr ++ ".json") = .ok [] := by
  have hmanifest : pathNames manifestFilename = [manifestFilename.toUTF8.data.toList] := by
    decide +kernel
  have hbytecode : pathNames (c.asStr ++ ".json") = [(c.asStr ++ ".json").toUTF8.data.toList] := by
    cases c <;> decide +kernel
  have hne : ((c.asStr ++ ".json").toUTF8.data.toList == manifestFilename.toUTF8.data.toList)
      = false := by cases c <;> decide +kernel
  constructor
  · refine bind_ok.mpr ⟨_, rfl, ?_⟩
    rw [hmanifest]
    simp [Node.read, sampleArtifact, Node.find, Node.contents]
  · refine bind_ok.mpr ⟨_, rfl, ?_⟩
    rw [hbytecode, Node.read, sampleArtifact, Node.find, List.lookup_cons, hne]
    simp [Node.find, Node.contents]

theorem sample_checkDeclared {i : Identity} (hlossy : crates.lossy = sampleLossy) :
    ArtifactLoader.checkDeclared crates (sampleDir manifest c) (sampleManifest i c) = .ok () := by
  have hwalk : ArtifactLoader.walkFiles crates (sampleDir manifest c) = .ok
      [relativePath crates.lossy [manifestFilename.toUTF8.data.toList],
        relativePath crates.lossy [(c.asStr ++ ".json").toUTF8.data.toList]] := rfl
  have hfirst : relativePath sampleLossy [manifestFilename.toUTF8.data.toList]
      = manifestFilename := by decide +kernel
  have hsecond : relativePath sampleLossy [(c.asStr ++ ".json").toUTF8.data.toList]
      = c.asStr ++ ".json" := by cases c <;> decide +kernel
  rw [hlossy, hfirst, hsecond] at hwalk
  refine bind_ok.mpr ⟨_, hwalk, ensureAll_ok.mpr fun entry hentry => ?_⟩
  rcases List.mem_cons.mp hentry with rfl | hentry
  · exact Or.inl rfl
  · obtain rfl := List.mem_singleton.mp hentry
    exact Or.inr List.mem_cons_self

theorem sample_verifyFile (hsha : crates.sha256 = sampleSha256) :
    ArtifactLoader.verifyFile crates (sampleDir manifest c) (sampleFile c)
      = .ok (c.asStr ++ ".json", []) := by
  refine bind_ok.mpr ⟨(), ensure_ok.mpr sample_safe, ?_⟩
  refine bind_ok.mpr ⟨[], mapError_ok.mpr sample_read.2, ?_⟩
  refine bind_ok.mpr ⟨(), ensure_ok.mpr ?_, rfl⟩
  rw [hsha]
  rfl

end

theorem sample_load : ArtifactLoader.new.load (sampleMachine i c n).crates
    (sampleDir (sampleManifest i c).toCanonicalJson c) = .ok (sampleLoaded i c) := by
  have hnormal : (sampleManifest i c).normalize = .ok (sampleManifest i c) := by
    refine ArtifactManifest.normalize_ok.mpr ⟨rfl, fun file hfile => ?_, ?_⟩
    · obtain rfl := List.mem_singleton.mp hfile
      exact sample_safe
    · simp [sampleManifest]
  have hparse : ArtifactManifest.parse (sampleMachine i c n).crates.parseManifest
      (sampleManifest i c).toCanonicalJson = .ok (sampleManifest i c) :=
    ArtifactManifest.parse_ok.mpr ⟨_, rfl, hnormal⟩
  have hfiles : (sampleManifest i c).files.mapM (ArtifactLoader.verifyFile
      (sampleMachine i c n).crates (sampleDir (sampleManifest i c).toCanonicalJson c))
      = .ok [(c.asStr ++ ".json", [])] := by
    rw [sampleManifest, List.mapM_cons, sample_verifyFile rfl]
    rfl
  refine bind_ok.mpr ⟨_, mapError_ok.mpr sample_read.1, bind_ok.mpr ⟨_, hparse, ?_⟩⟩
  exact bind_ok.mpr ⟨(), sample_checkDeclared rfl, bind_ok.mpr ⟨_, hfiles, rfl⟩⟩

theorem sample_gate : sampleProvider.gate (sampleMachine i c n) (sampleRequest op c)
    = .ok ("bb", samplePinned i c) := by
  have htools : UltraHonkProvider.locateToolchains (sampleMachine i c n) = .ok "bb" := rfl
  have hfile : (sampleLoaded i c).file (c.asStr ++ ".json") = some [] := by
    simp [sampleLoaded, LoadedArtifact.file]
  have hid : VerificationKeyId.new (VerificationKeyIdPolicy.idFor (.forOperation c) ⟨0, 1, 0⟩
      (.fromBytes sampleSha256 [])) = some (samplePinned i c).vkId := by
    show _ = some (VerificationKeyId.mk _)
    cases c <;> decide +kernel
  have hpinned : sampleProvider.loadPinned (sampleMachine i c n) (sampleRequest op c)
      = .ok (samplePinned i c) := by
    have hload : ArtifactLoader.new.load (sampleMachine i c n).crates
        (sampleProvider.artifactDir (sampleMachine i c n) (sampleRequest op c))
        = .ok (sampleLoaded i c) := by
      rw [sample_artifactDir]
      exact sample_load
    refine bind_ok.mpr ⟨_, mapError_ok.mpr hload, ?_⟩
    refine bind_ok.mpr ⟨_, fromOption_ok.mpr hfile, ?_⟩
    exact bind_ok.mpr ⟨_, fromOption_ok.mpr hid, rfl⟩
  refine bind_ok.mpr ⟨(), sample_checkRequest, bind_ok.mpr ⟨_, mapError_ok.mpr htools, ?_⟩⟩
  exact bind_ok.mpr ⟨_, mapError_ok.mpr hpinned, rfl⟩

theorem sample_solveWitness :
    sampleProvider.solveWitness (sampleMachine i c n) (sampleRequest op c) ["scratch"]
      = .ok ⟨["scratch", c.asStr, "target", "witness.gz"], []⟩ := by
  have hsuccess : decide (c.asStr = c.asStr ∧ sampleToml c = sampleToml c) = true :=
    decide_eq_true ⟨rfl, rfl⟩
  have hexecute : (sampleMachine i c n).nargo.execute c.asStr (sampleToml c)
      = .ok { success := true, code := some 0, stdout := "", witness := some [] } := by
    rw [← hsuccess]
    rfl
  have hcaptured : (sampleMachine i c n).nargo.executeCaptured ["scratch", c.asStr] c.asStr
      (sampleToml c) "witness" = .ok
        { solved := true, exitCode := some 0, stdout := ""
          witness := some ⟨["scratch", c.asStr, "target", "witness.gz"], []⟩ } :=
    bind_ok.mpr ⟨(), rfl, bind_ok.mpr ⟨_, mapError_ok.mpr hexecute, rfl⟩⟩
  refine bind_ok.mpr ⟨(), rfl, bind_ok.mpr ⟨(), rfl, bind_ok.mpr ⟨(), rfl, ?_⟩⟩⟩
  refine bind_ok.mpr ⟨(), rfl, bind_ok.mpr ⟨_, mapError_ok.mpr hcaptured, ?_⟩⟩
  exact bind_ok.mpr ⟨(), rfl, rfl⟩

/-- the documents of the machine -/
def sampleDocuments (n : Nat) : ProvenArtifacts where
  outputDir := ["out"]
  proof := sampleProof
  publicInputs := samplePublicInputs n
  vk := some sampleKey

/-- the run of `bb` is read whatever the words of the proof are -/
theorem sample_prove_words (words : List String) :
    prove { sampleMachine i c n with parseProof := fun _ => .ok { sampleProof with proof := words } }
      "bb" (samplePinned i c).bytecode ⟨["scratch", c.asStr, "target", "witness.gz"], []⟩ ["out"]
      true
      = .ok { sampleDocuments n with proof := { sampleProof with proof := words } } := by
  have hprovenance (what : String) :
      validateProvenance what schemeUltraHonk testedBbVersion = .ok () := by
    have htrim : trim testedBbVersion.toList ≠ [] := by decide +kernel
    simp only [validateProvenance, bind_ok, ensure_ok, exists_const]
    exact ⟨trivial, htrim⟩
  have hkey : checkKey { sampleProof with proof := words } sampleKey = .ok () := by
    have hsample : checkKey sampleProof sampleKey = .ok () := by decide +kernel
    exact hsample
  have hcheck : checkDocuments
      { sampleDocuments n with proof := { sampleProof with proof := words } } = .ok () := by
    refine bind_ok.mpr ⟨(), mapError_ok.mpr (hprovenance _), ?_⟩
    exact bind_ok.mpr ⟨(), mapError_ok.mpr (hprovenance _), hkey⟩
  refine bind_ok.mpr ⟨(), rfl, bind_ok.mpr ⟨(), rfl, bind_ok.mpr ⟨(), rfl, ?_⟩⟩⟩
  refine bind_ok.mpr ⟨(), rfl, bind_ok.mpr ⟨_, rfl, bind_ok.mpr ⟨(), rfl, ?_⟩⟩⟩
  exact bind_ok.mpr ⟨_, rfl, bind_ok.mpr ⟨(), hcheck, rfl⟩⟩

theorem sample_prove :
    prove (sampleMachine i c n) "bb" (samplePinned i c).bytecode
      ⟨["scratch", c.asStr, "target", "witness.gz"], []⟩ ["out"] true
      = .ok (sampleDocuments n) :=
  sample_prove_words sampleProof.proof

theorem sample_reported : sampleProvider.Reported (sampleMachine i c n)
    (sampleRequest op c) (List.replicate n "0x00") :=
  ⟨_, _, _, _, _, _, sample_gate, rfl, sample_solveWitness, rfl, sample_prove, rfl⟩

end

/-! ## labels -/

/-- the machine that reports as many words as the label `op` names -/
def labelMachine (op c : Operation) : Machine :=
  sampleMachine (sampleIdentity c) c (expectations op).publicNames.length

def labelNamed (op c : Operation) : Named where
  pinned := samplePinned (sampleIdentity c) c
  artifacts := sampleDocuments (expectations op).publicNames.length
  publicOutputs := .ofNames (expectations op).publicNames .zero

def labelResponse (op c : Operation) : ProofResponse where
  requestId := ⟨"minimal"⟩
  circuit := .forOperation c
  circuitVersion := ⟨0, 1, 0⟩
  backend := ultraHonkId
  proof := { format := ⟨proofFormatTag⟩, bytes := List.replicate 31 0 ++ [1] }
  publicOutputs := .ofNames (expectations op).publicNames .zero
  verificationKeyId := (samplePinned (sampleIdentity c) c).vkId
  artifactChecksum := (samplePinned (sampleIdentity c) c).checksum
  stateReference := some { root := .zero, sequence := 0, label := none }

def labelDisk (c : Operation) : Disk :=
  let id := (samplePinned (sampleIdentity c) c).vkId
  sampleDisk.hold (sampleProvider.config.vkStore.pathFor sampleDisk id) (.ok sampleKey.json.compact)

section
variable {op c : Operation}

theorem label_nameOutputs : UltraHonkProvider.nameOutputs (sampleRequest op c)
    (List.replicate (expectations op).publicNames.length "0x00")
    = .ok (.ofNames (expectations op).publicNames .zero) := by
  have hwords : nameWords (expectations op).publicNames
      (List.replicate (expectations op).publicNames.length "0x00")
      = .ok (.ofNames (expectations op).publicNames .zero) := by cases op <;> decide +kernel
  simp only [UltraHonkProvider.nameOutputs, bind_ok, ensure_ok, exists_const]
  exact ⟨List.length_replicate, hwords⟩

theorem label_proveNamed : sampleProvider.proveNamed (labelMachine op c) (sampleRequest op c)
    = .ok (labelNamed op c) :=
  UltraHonkProvider.proveNamed_ok.mpr
    ⟨_, _, _, _, sample_gate, rfl, sample_solveWitness, rfl, sample_prove, label_nameOutputs⟩

theorem label_generate : sampleProvider.generate (labelMachine op c) (sampleRequest op c)
    = (.ok (labelResponse op c), labelDisk c) := by
  have hbytes : Exec.concatWords sampleProof.proof = .ok (List.replicate 31 0 ++ [1]) := by
    decide +kernel
  refine UltraHonkProvider.generate_ok.mpr ⟨_, label_proveNamed, ?_, ?_⟩
  · rfl
  · exact bind_ok.mpr ⟨_, mapError_ok.mpr hbytes, rfl⟩

end

/-- **Under the label of another circuit words are misnamed, or a surface that has drifted is
accepted.**  A response has the names of its circuit exactly when the request has its label; and
the provider names the words of the circuit `c` under the label `op`, and refuses words of another
count, on every machine, exactly when `op` is `c`. -/
theorem words_named_iff {op c : Operation} :
    (∀ p m r response disk, r.circuit = .forOperation c →
      UltraHonkProvider.generate p m r = (.ok response, disk) →
      (response.publicOutputs.names = (expectations c).publicNames ↔ r.operation = c)) ∧
    ((∀ p m r, r.operation = op → r.circuit = .forOperation c → NamesWords p m r c) ↔ op = c) := by
  refine ⟨fun p m r response disk _ hgen => ?_, fun hall => ?_, ?_⟩
  · rw [(names_of_generate hgen).1]
    exact ⟨publicNames_injective, congrArg fun o => (expectations o).publicNames⟩
  · have hnames := hall sampleProvider (labelMachine op c) (sampleRequest op c) rfl rfl
    have hlen : (List.replicate (expectations op).publicNames.length "0x00").length
        = (expectations op).publicNames.length := List.length_replicate
    -- the machine reports the count of the label, which is the circuit's or is accepted although
    -- it is not
    by_cases hcount : (expectations op).publicNames.length = (expectations c).publicNames.length
    · have hnamed := hnames.named _ _ _ sample_reported (hlen.trans hcount) label_generate
      exact publicNames_injective ((Bag.ofNames_names _ _).symm.trans hnamed)
    · have hne := fun h => hcount (hlen.symm.trans h)
      exact absurd label_generate (hnames.refused _ _ _ sample_reported hne)
  · rintro rfl p m r hop _
    exact namesWords_of_label hop

/-- a transfer, labelled as a merge: nine words of the transfer circuit under the names of merge -/
theorem merge_label_misnames :
    sampleProvider.generate (labelMachine .merge .transfer) (sampleRequest .merge .transfer)
      = (.ok (labelResponse .merge .transfer), labelDisk .transfer) ∧
    sampleProvider.Reported (labelMachine .merge .transfer) (sampleRequest .merge .transfer)
      (List.replicate 9 "0x00") ∧
    (List.replicate 9 "0x00").length = (expectations .transfer).publicNames.length ∧
    (labelResponse .merge .transfer).publicOutputs.names ≠ (expectations .transfer).publicNames :=
  ⟨label_generate, sample_reported, rfl, by decide⟩

end Crucible
