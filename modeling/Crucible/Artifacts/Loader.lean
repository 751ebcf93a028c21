import Crucible.Artifacts.Manifest
import Crucible.Lib.Files

/-!
# The artifact loader (`crates/artifacts/src/loader.rs`)

An artifact is a directory with a manifest.  The loader reads the declared files and compares their
digests; in strict mode it refuses files that are not declared.

* `ArtifactDir`                   a directory as the loader finds it;
* `ArtifactLoader.load_manifest`  a loaded artifact has the manifest of its directory.
-/

namespace Crucible
open Checked Text Files

/-- what the loader calls outside the crate -/
structure ArtifactCrates where
  /-- `serde_json::from_slice::<ArtifactManifest>` -/
  parseManifest : List UInt8 → Except String ArtifactManifest
  /-- `Path::to_string_lossy` -/
  lossy : List UInt8 → String
  sha256 : List UInt8 → List UInt8

/-- a directory: where it is, and what is there -/
structure ArtifactDir where
  path : List String
  root : Except String Node

/-- the names of a relative path -/
def pathNames (path : String) : List Name :=
  (split '/' path).map fun component => component.toUTF8.data.toList

/-- `std::fs::read` of a path below the directory -/
def ArtifactDir.read (dir : ArtifactDir) (path : String) : Except String (List UInt8) := do
  let root ← dir.root
  root.read (pathNames path)

structure LoadedArtifact where
  manifest : ArtifactManifest
  files : List (String × List UInt8)
deriving DecidableEq

/-- the bytes of a declared file -/
def LoadedArtifact.file (loaded : LoadedArtifact) (path : String) : Option (List UInt8) :=
  (loaded.files.find? fun f => f.1 == path).map Prod.snd

/-- names below a directory as a manifest would write them, which is not how they all are -/
def relativePath (lossy : List UInt8 → String) (names : List Name) : String :=
  String.ofList ((lossy ("/".toUTF8.data.toList.intercalate names)).toList.map fun c =>
    if c = '\\' then '/' else c)

structure ArtifactLoader where
  strict : Bool

def ArtifactLoader.new : ArtifactLoader := ⟨true⟩

namespace ArtifactLoader
variable (crates : ArtifactCrates) (loader : ArtifactLoader) (dir : ArtifactDir)

/-- `walk_files` -/
def walkFiles : Except ArtifactError (List String) := do
  let display (names : List Name) : String :=
    "/".intercalate (dir.path ++ names.map crates.lossy)
  let root ← dir.root.mapError fun e => .readFailure (display []) e
  match root with
  | .dir _ _ =>
    let found ← (root.files []).mapError fun failure => .readFailure (display failure.1) failure.2
    return found.map (relativePath crates.lossy)
  | _ => .error (.readFailure (display []) "Not a directory (os error 20)")

/-- the bytes of a declared file, if they are the declared ones; a safe path stays below the root -/
def verifyFile (declared : ManifestFile) : Except ArtifactError (String × List UInt8) := do
  ensure (isSafeRelativePath declared.path) (.unsafePath declared.path)
  let bytes ← (dir.read declared.path).mapError fun e => .readFailure declared.path e
  let actual := ArtifactChecksum.fromBytes crates.sha256 bytes
  ensure (actual = declared.sha256)
    (.checksumMismatch declared.path declared.sha256 actual)
  return (declared.path, bytes)

/-- every file of the directory is declared, or is the manifest -/
def checkDeclared (manifest : ArtifactManifest) : Except ArtifactError Unit := do
  let found ← walkFiles crates dir
  ensureAll (fun entry => entry = manifestFilename ∨ entry ∈ manifest.files.map ManifestFile.path)
    .unexpectedFile found

def loadWithManifest (manifestJson : List UInt8) : Except ArtifactError LoadedArtifact := do
  let manifest ← ArtifactManifest.parse crates.parseManifest manifestJson
  (if loader.strict then checkDeclared crates dir manifest else .ok ())
  let files ← manifest.files.mapM (verifyFile crates dir)
  return { manifest, files }

def load : Except ArtifactError LoadedArtifact := do
  let bytes ← (dir.read manifestFilename).mapError fun e => .readFailure manifestFilename e
  loader.loadWithManifest crates dir bytes

variable {crates loader dir}

/-- a loaded artifact has the manifest that is parsed from its directory -/
theorem load_manifest {loaded : LoadedArtifact} (h : loader.load crates dir = .ok loaded) :
    ∃ bytes, dir.read manifestFilename = .ok bytes ∧
      ArtifactManifest.parse crates.parseManifest bytes = .ok loaded.manifest := by
  obtain ⟨bytes, hread, hload⟩ := bind_ok.mp h
  refine ⟨bytes, mapError_ok.mp hread, ?_⟩
  simp only [loadWithManifest, bind_ok, pure_ok] at hload
  obtain ⟨manifest, hparse, _, _, _, _, rfl⟩ := hload
  exact hparse

end ArtifactLoader

end Crucible
