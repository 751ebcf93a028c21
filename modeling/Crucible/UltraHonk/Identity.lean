import Crucible.UltraHonk.Surface

/-!
# The identity of an artifact

A manifest says which circuit, versions and backend an artifact is for.  The gate reads its files
and nothing else of it.

* `ProofRequest.identity`   the artifact that a request asks for;
* `manifest_of_gate`        the gate loads the manifest in the directory of the circuit;
* `load_declaring`, `gate_declaring`   and lets the same artifact through under any declared
                            identity;
* `artifact_identity_iff`   so an artifact root from which anything can be proven is also proven
                            from under an identity that was not asked for.
-/

namespace Crucible
open Checked

/-- the artifact that a request asks the UltraHonk backend for -/
def ProofRequest.identity (r : ProofRequest) : Identity where
  circuit := r.circuit
  circuitVersion := r.circuitVersion
  artifactVersion := r.artifactVersion
  backend := ultraHonkId

/-- the manifest in the directory of the circuit declares what is asked for -/
def UltraHonkProvider.Declares (p : UltraHonkProvider) (m : Machine) (r : ProofRequest) : Prop :=
  ∃ bytes document, (p.artifactDir m r).read manifestFilename = .ok bytes ∧
    m.parseManifest bytes = .ok document ∧ document.identity = r.identity

/-! ## the same artifact under another identity -/

def ArtifactManifest.declaring (i : Identity) (a : ArtifactManifest) : ArtifactManifest :=
  { a with
    circuit := i.circuit
    circuitVersion := i.circuitVersion
    artifactVersion := i.artifactVersion
    backend := i.backend }

theorem ArtifactManifest.identity_declaring (i : Identity) (a : ArtifactManifest) :
    (a.declaring i).identity = i := rfl

def LoadedArtifact.declaring (i : Identity) (loaded : LoadedArtifact) : LoadedArtifact :=
  { loaded with manifest := loaded.manifest.declaring i }

def PinnedArtifact.declaring (i : Identity) (pinned : PinnedArtifact) : PinnedArtifact :=
  { pinned with loaded := pinned.loaded.declaring i }

/-- manifests declare `i`, whatever they declared -/
def ArtifactCrates.declaring (i : Identity) (crates : ArtifactCrates) : ArtifactCrates :=
  { crates with parseManifest := fun bytes => (crates.parseManifest bytes).map (·.declaring i) }

/-- the machine with the identity `i` in every manifest of its artifact root -/
def Machine.declaring (i : Identity) (m : Machine) : Machine :=
  { m with parseManifest := fun bytes => (m.parseManifest bytes).map (·.declaring i) }

section
variable {i : Identity} {crates : ArtifactCrates}

theorem parse_declaring {json : List UInt8} {a : ArtifactManifest}
    (h : ArtifactManifest.parse crates.parseManifest json = .ok a) :
    ArtifactManifest.parse (crates.declaring i).parseManifest json = .ok (a.declaring i) := by
  obtain ⟨document, hdocument, hnormal⟩ := ArtifactManifest.parse_ok.mp h
  obtain ⟨hversion, hsafe, rfl⟩ := ArtifactManifest.normalize_ok.mp hnormal
  refine ArtifactManifest.parse_ok.mpr ⟨document.declaring i, ?_, ?_⟩
  · show (crates.parseManifest json).map (·.declaring i) = _
    rw [hdocument]
    rfl
  · exact ArtifactManifest.normalize_ok.mpr ⟨hversion, hsafe, rfl⟩

/-- the loader reads the files of a manifest, not its identity -/
theorem load_declaring {loader : ArtifactLoader} {dir : ArtifactDir} {loaded : LoadedArtifact}
    (h : loader.load crates dir = .ok loaded) :
    loader.load (crates.declaring i) dir = .ok (loaded.declaring i) := by
  obtain ⟨bytes, hread, hload⟩ := bind_ok.mp h
  obtain ⟨manifest, hparse, hload⟩ := bind_ok.mp hload
  obtain ⟨_, hstrict, hload⟩ := bind_ok.mp hload
  obtain ⟨files, hfiles, hloaded⟩ := bind_ok.mp hload
  obtain rfl := pure_ok.mp hloaded
  refine bind_ok.mpr ⟨bytes, hread, bind_ok.mpr ⟨_, parse_declaring hparse, ?_⟩⟩
  exact bind_ok.mpr ⟨(), hstrict, bind_ok.mpr ⟨files, hfiles, rfl⟩⟩

variable {p : UltraHonkProvider} {m : Machine} {r : ProofRequest} {bb : String}
  {pinned : PinnedArtifact}

theorem gate_declaring (h : p.gate m r = .ok (bb, pinned)) :
    p.gate (m.declaring i) r = .ok (bb, pinned.declaring i) := by
  obtain ⟨_, hrequest, hrest⟩ := bind_ok.mp h
  obtain ⟨_, htools, hrest⟩ := bind_ok.mp hrest
  obtain ⟨_, hpinned, hgate⟩ := bind_ok.mp hrest
  obtain ⟨rfl, rfl⟩ := Prod.mk.inj (pure_ok.mp hgate)
  obtain ⟨loaded, hload, hrest⟩ := bind_ok.mp (mapError_ok.mp hpinned)
  obtain ⟨bytecode, hfile, hrest⟩ := bind_ok.mp hrest
  obtain ⟨vkId, hid, hmade⟩ := bind_ok.mp hrest
  obtain rfl := pure_ok.mp hmade
  have hload' := load_declaring (i := i) (mapError_ok.mp hload)
  have hpinned' : p.loadPinned (m.declaring i) r = .ok _ :=
    bind_ok.mpr ⟨_, mapError_ok.mpr hload', bind_ok.mpr ⟨bytecode, hfile,
      bind_ok.mpr ⟨vkId, hid, rfl⟩⟩⟩
  exact bind_ok.mpr ⟨(), hrequest, bind_ok.mpr ⟨_, htools,
    bind_ok.mpr ⟨_, mapError_ok.mpr hpinned', rfl⟩⟩⟩

/-- the gate does not look at the artifact version of the request -/
theorem gate_artifactVersion {version : Version} :
    p.gate m { r with artifactVersion := version } = p.gate m r := rfl

/-- what the gate lets through was read from the directory of the circuit -/
theorem manifest_of_gate (h : p.gate m r = .ok (bb, pinned)) :
    ∃ bytes document, (p.artifactDir m r).read manifestFilename = .ok bytes ∧
      m.parseManifest bytes = .ok document ∧
      document.identity = pinned.loaded.manifest.identity := by
  obtain ⟨loaded, hload, hrest⟩ := bind_ok.mp (UltraHonkProvider.gate_ok h).2.2.2
  obtain ⟨_, _, hrest⟩ := bind_ok.mp hrest
  obtain ⟨_, _, hmade⟩ := bind_ok.mp hrest
  obtain rfl := pure_ok.mp hmade
  obtain ⟨bytes, hread, hparse⟩ := ArtifactLoader.load_manifest (mapError_ok.mp hload)
  obtain ⟨document, hdocument, hnormal⟩ := ArtifactManifest.parse_ok.mp hparse
  obtain ⟨_, _, heq⟩ := ArtifactManifest.normalize_ok.mp hnormal
  refine ⟨bytes, document, hread, hdocument, ?_⟩
  show document.identity = loaded.manifest.identity
  rw [heq]
  rfl

/-- **Every artifact root that lets a request through lets a request through that it was not made
for.**  A request that gets past the gate finds what it asks for exactly when the manifest in the
directory of its circuit says so; all of them do exactly when none gets past; and what gets past
does so under any declared identity. -/
theorem artifact_identity_iff :
    (∀ r bb pinned, p.gate m r = .ok (bb, pinned) →
      (pinned.loaded.manifest.identity = r.identity ↔ p.Declares m r)) ∧
    ((∀ r bb pinned, p.gate m r = .ok (bb, pinned) →
      pinned.loaded.manifest.identity = r.identity) ↔
      ∀ r bb pinned, p.gate m r ≠ .ok (bb, pinned)) ∧
    ∀ r bb pinned, p.gate m r = .ok (bb, pinned) → ∀ i : Identity, ∃ pinned',
      p.gate (m.declaring i) r = .ok (bb, pinned') ∧ pinned'.bytecode = pinned.bytecode ∧
      pinned'.vkId = pinned.vkId ∧ pinned'.loaded.manifest.identity = i := by
  refine ⟨fun r bb pinned hgate => ?_, ⟨fun hall r bb pinned hgate => ?_, ?_⟩, ?_⟩
  · obtain ⟨bytes, document, hread, hparse, hidentity⟩ := manifest_of_gate hgate
    constructor
    · intro heq
      exact ⟨bytes, document, hread, hparse, hidentity.trans heq⟩
    · rintro ⟨bytes', document', hread', hparse', heq⟩
      obtain rfl := Except.ok.inj (hread.symm.trans hread')
      obtain rfl := Except.ok.inj (hparse.symm.trans hparse')
      exact hidentity.symm.trans heq
  · have hidentity (version : Version) :=
      hall { r with artifactVersion := version } bb pinned (gate_artifactVersion.trans hgate)
    have hversions : (⟨0, 0, 0⟩ : Version) = ⟨0, 0, 1⟩ :=
      congrArg Identity.artifactVersion ((hidentity _).symm.trans (hidentity _))
    exact absurd hversions (by decide)
  · intro hnone r bb pinned hgate
    exact absurd hgate (hnone r bb pinned)
  · intro r bb pinned hgate i
    exact ⟨_, gate_declaring hgate, rfl, rfl, ArtifactManifest.identity_declaring i _⟩

end

/-- an artifact of merge, of a version that is not asked for, made for another backend -/
def foreignIdentity : Identity where
  circuit := .forOperation .merge
  circuitVersion := ⟨9, 9, 9⟩
  artifactVersion := ⟨7, 0, 0⟩
  backend := ⟨BackendId.mock⟩

/-- the transfer directory with that manifest in it, for a request of transfer -/
theorem foreign_artifact_passes :
    sampleProvider.gate (sampleMachine foreignIdentity .transfer 9)
      (sampleRequest .transfer .transfer) = .ok ("bb", samplePinned foreignIdentity .transfer) ∧
    (samplePinned foreignIdentity .transfer).loaded.manifest.identity = foreignIdentity ∧
    (sampleRequest .transfer .transfer).identity = sampleIdentity .transfer ∧
    foreignIdentity ≠ sampleIdentity .transfer :=
  ⟨sample_gate, rfl, rfl, by decide⟩

end Crucible
