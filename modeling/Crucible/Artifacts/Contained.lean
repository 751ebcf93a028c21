import Crucible.Artifacts.Loader
import Crucible.Lib.Paths
import Crucible.Lib.Utf8

/-!
# A loaded artifact is inside its directory, and authentic (`crates/artifacts/src/loader.rs`)

* `isSafeRelativePath_parts`   a safe path only goes down;
* `ArtifactDir.read_ok`, `ArtifactLoader.verifyFile_ok`, `ArtifactLoader.loadWithManifest_ok`
                               what a loaded artifact was read from;
* `loaded_contained`           every file of it.
-/

namespace Crucible
open Checked Text Files Paths

/-! ## safe paths -/

theorem isSafeRelativePath_parts {path : String} (h : isSafeRelativePath path) :
    (∀ segment ∈ split '/' path, Plain segment) ∧ '\\' ∉ path.toList := by
  simp only [isSafeRelativePath, Bool.and_eq_true, List.all_eq_true, decide_eq_true_eq,
    bne_iff_ne] at h
  obtain ⟨⟨⟨_, hback⟩, _⟩, hparts⟩ := h
  refine ⟨fun segment hsegment => ?_, hback⟩
  obtain ⟨⟨hempty, hdot⟩, hup⟩ := hparts segment hsegment
  exact ⟨hempty, hdot, hup⟩

/-- a safe path leads straight down from the root -/
theorem resolve_safe {root cwd : List String} {path : String} (h : isSafeRelativePath path) :
    resolve cwd (root ++ split '/' path) = resolve cwd root ++ split '/' path := by
  obtain ⟨hplain, _⟩ := isSafeRelativePath_parts h
  have hhead : (split '/' path).head? ≠ some "" := by
    intro hfirst
    exact (hplain "" (List.mem_of_head? hfirst)).1 rfl
  rw [resolve_append hhead, walk_of_plain hplain]

/-! ## what a loaded artifact was read from -/

theorem ArtifactDir.read_ok {dir : ArtifactDir} {path : String} {bytes : List UInt8} :
    dir.read path = .ok bytes ↔
      ∃ root, dir.root = .ok root ∧ root.read (pathNames path) = .ok bytes := bind_ok

namespace ArtifactLoader
variable {crates : ArtifactCrates} {loader : ArtifactLoader} {dir : ArtifactDir}

theorem verifyFile_ok {declared : ManifestFile} {entry : String × List UInt8} :
    verifyFile crates dir declared = .ok entry ↔ isSafeRelativePath declared.path ∧
      dir.read declared.path = .ok entry.2 ∧
      ArtifactChecksum.fromBytes crates.sha256 entry.2 = declared.sha256 ∧
      entry.1 = declared.path := by
  simp only [verifyFile, bind_ok, ensure_ok, mapError_ok, pure_ok, exists_const]
  refine and_congr_right fun _ => ⟨fun h => ?_, fun h => ?_⟩
  · obtain ⟨bytes, hread, hdigest, rfl⟩ := h
    exact ⟨hread, hdigest, rfl⟩
  · obtain ⟨hread, hdigest, hpath⟩ := h
    exact ⟨entry.2, hread, hdigest, by rw [← hpath]⟩

theorem loadWithManifest_ok {json : List UInt8} {loaded : LoadedArtifact} :
    loader.loadWithManifest crates dir json = .ok loaded ↔
      ArtifactManifest.parse crates.parseManifest json = .ok loaded.manifest ∧
      (loader.strict → checkDeclared crates dir loaded.manifest = .ok ()) ∧
      loaded.manifest.files.mapM (verifyFile crates dir) = .ok loaded.files := by
  simp only [loadWithManifest, bind_ok, pure_ok]
  refine ⟨fun hload => ?_, fun hchecks => ?_⟩
  · obtain ⟨manifest, hparse, _, hstrict, files, hfiles, rfl⟩ := hload
    refine ⟨hparse, fun h => ?_, hfiles⟩
    rwa [if_pos h] at hstrict
  · obtain ⟨hparse, hstrict, hfiles⟩ := hchecks
    refine ⟨_, hparse, (), ?_, _, hfiles, rfl⟩
    by_cases h : loader.strict
    · rw [if_pos h]
      exact hstrict h
    · rw [if_neg h]

end ArtifactLoader

/-! ## containment and authenticity -/

section
variable {crates : ArtifactCrates} {loader : ArtifactLoader} {dir : ArtifactDir}
  {json : List UInt8} {loaded : LoadedArtifact}

/-- every file of a loaded artifact was verified against a declaration -/
theorem LoadedArtifact.verified (h : loader.loadWithManifest crates dir json = .ok loaded) :
    List.Forall₂ (fun declared entry => ArtifactLoader.verifyFile crates dir declared = .ok entry)
      loaded.manifest.files loaded.files :=
  mapM_ok (ArtifactLoader.loadWithManifest_ok.mp h).2.2

/-- a path that is declared twice is declared with one digest, that of the bytes that are there -/
theorem LoadedArtifact.fileChecksum_of_verified
    (hfiles : List.Forall₂ (fun declared entry =>
      ArtifactLoader.verifyFile crates dir declared = .ok entry)
      loaded.manifest.files loaded.files)
    {declared : ManifestFile} (hdeclared : declared ∈ loaded.manifest.files)
    {bytes : List UInt8} (hread : dir.read declared.path = .ok bytes) :
    loaded.manifest.fileChecksum declared.path = some (.fromBytes crates.sha256 bytes) := by
  have hsome : (loaded.manifest.files.find? fun f => f.path == declared.path).isSome :=
    List.find?_isSome.mpr ⟨declared, hdeclared, beq_self_eq_true _⟩
  obtain ⟨first, hfirst⟩ := Option.isSome_iff_exists.mp hsome
  have hpath : first.path = declared.path := by
    have hfound := List.find?_some hfirst
    exact beq_iff_eq.mp hfound
  obtain ⟨entry, _, hverify⟩ := exists_of_forall₂ hfiles (List.mem_of_find?_eq_some hfirst)
  obtain ⟨_, hread', hdigest, _⟩ := ArtifactLoader.verifyFile_ok.mp hverify
  rw [hpath, hread] at hread'
  obtain rfl := Except.ok.inj hread'
  rw [ArtifactManifest.fileChecksum, hfirst, hdigest]
  rfl

/-- **A loaded artifact is contained and authentic.**  Its files are the declared paths, in order;
each path leads strictly below the root, no two paths lead to one place, and the bytes of each are
what is there and what `file_checksum` declares. -/
theorem loaded_contained (h : loader.loadWithManifest crates dir json = .ok loaded)
    (cwd : List String) :
    loaded.files.map Prod.fst = loaded.manifest.files.map ManifestFile.path ∧
    ∀ entry ∈ loaded.files,
      Below (resolve cwd dir.path) (resolve cwd (dir.path ++ split '/' entry.1)) ∧
      (∀ other ∈ loaded.files, resolve cwd (dir.path ++ split '/' entry.1)
        = resolve cwd (dir.path ++ split '/' other.1) → entry.1 = other.1) ∧
      (∃ root, dir.root = .ok root ∧ root.read (pathNames entry.1) = .ok entry.2) ∧
      loaded.manifest.fileChecksum entry.1 = some (.fromBytes crates.sha256 entry.2) := by
  have hfiles := LoadedArtifact.verified h
  have hdeclared : ∀ entry ∈ loaded.files, ∃ declared ∈ loaded.manifest.files,
      ArtifactLoader.verifyFile crates dir declared = .ok entry :=
    fun entry hentry => exists_of_forall₂ hfiles.flip hentry
  have hsafe : ∀ entry ∈ loaded.files, isSafeRelativePath entry.1 := by
    intro entry hentry
    obtain ⟨declared, _, hverify⟩ := hdeclared entry hentry
    obtain ⟨hsafe, _, _, hpath⟩ := ArtifactLoader.verifyFile_ok.mp hverify
    rw [hpath]
    exact hsafe
  refine ⟨?_, fun entry hentry => ⟨?_, fun other hother hsame => ?_, ?_, ?_⟩⟩
  · exact map_eq_of_forall₂ (hfiles.imp fun _ _ hverify =>
      (ArtifactLoader.verifyFile_ok.mp hverify).2.2.2)
  · rw [resolve_safe (hsafe entry hentry)]
    exact below_append (split_ne_nil _ _)
  · rw [resolve_safe (hsafe entry hentry), resolve_safe (hsafe other hother),
      List.append_cancel_left_eq] at hsame
    exact split_injective hsame
  · obtain ⟨declared, _, hverify⟩ := hdeclared entry hentry
    obtain ⟨_, hread, _, hpath⟩ := ArtifactLoader.verifyFile_ok.mp hverify
    rw [hpath]
    exact ArtifactDir.read_ok.mp hread
  · obtain ⟨declared, hmem, hverify⟩ := hdeclared entry hentry
    obtain ⟨_, hread, _, hpath⟩ := ArtifactLoader.verifyFile_ok.mp hverify
    rw [hpath]
    exact LoadedArtifact.fileChecksum_of_verified hfiles hmem hread

end

/-! ## an artifact -/

/-- `VK-BYTES` -/
def keyBytes : List UInt8 := "VK-BYTES".toUTF8.data.toList

/-- its digest -/
def keyDigest : List UInt8 :=
  [0xad, 0x20, 0xa3, 0x71, 0xb4, 0xfa, 0x44, 0xa1, 0x4b, 0xcd, 0x9a, 0xd2, 0xb1, 0x97, 0xb8, 0xd2,
    0xb6, 0x0b, 0x0d, 0x92, 0x3a, 0x7c, 0x68, 0xbc, 0x64, 0xf0, 0x06, 0x47, 0x57, 0x7d, 0x23, 0x4e]

/-- a manifest that declares `keys/vk.bin` -/
def keyManifest : ArtifactManifest where
  manifestVersion := 1
  circuit := ⟨"transfer"⟩
  circuitVersion := ⟨0, 1, 0⟩
  artifactVersion := ⟨0, 1, 0⟩
  backend := ⟨"ultrahonk"⟩
  verificationKeyId := none
  files := [{ path := "keys/vk.bin", sha256 := ⟨hexEncode keyDigest⟩, kind := none }]
  backendMetadata := []

def keyCrates : ArtifactCrates where
  parseManifest text :=
    if text = keyManifest.toCanonicalJson then .ok keyManifest
    else .error "expected value at line 1 column 1"
  lossy := Utf8.toStringLossy
  sha256 _ := keyDigest

/-- a directory with the manifest, `keys/vk.bin` and more -/
def keyTree (more : List (Name × Node)) : Node :=
  .dir ([(manifestFilename.toUTF8.data.toList, .file (.ok keyManifest.toCanonicalJson)),
    ("keys".toUTF8.data.toList,
      .dir [("vk.bin".toUTF8.data.toList, .file (.ok keyBytes))] none)] ++ more) none

def keyDir (more : List (Name × Node)) : ArtifactDir :=
  ⟨["", "srv", "transfer"], .ok (keyTree more)⟩

def keyLoaded : LoadedArtifact := ⟨keyManifest, [("keys/vk.bin", keyBytes)]⟩

theorem keyDir_loads : ArtifactLoader.new.loadWithManifest keyCrates (keyDir [])
    keyManifest.toCanonicalJson = .ok keyLoaded := by
  decide +kernel

theorem loaded_contained_key :
    Below ["srv", "transfer"] ["srv", "transfer", "keys", "vk.bin"] ∧
      keyManifest.fileChecksum "keys/vk.bin" = some ⟨hexEncode keyDigest⟩ := by
  obtain ⟨hbelow, _, _, hdigest⟩ :=
    (loaded_contained keyDir_loads []).2 ("keys/vk.bin", keyBytes) List.mem_cons_self
  have hresolve : resolve [] (["", "srv", "transfer"] ++ split '/' "keys/vk.bin")
      = ["srv", "transfer", "keys", "vk.bin"] := by decide +kernel
  refine ⟨?_, hdigest⟩
  rw [← hresolve]
  exact hbelow

end Crucible
