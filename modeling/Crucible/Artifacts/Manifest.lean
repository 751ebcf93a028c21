import Crucible.Interfaces.Proof
import Crucible.Lib.Json

/-!
# Artifact manifests (`crates/artifacts/src/manifest.rs`, `errors.rs`)

* `ArtifactManifest.normalize`   the checks of a manifest, and its files in the order of the paths;
* `isSafeRelativePath`           what a manifest may name;
* `Identity`                     which circuit, versions and backend a manifest declares;
* `ArtifactManifest.parse_ok`    a parsed manifest is a document's, normalized.
-/

namespace Crucible
open Checked Text Serde

/-! ## errors -/

inductive ArtifactError where
  | malformedManifest (reason : String)
  | unsupportedManifestVersion (actual supported : UInt32)
  | missingFile (path : String)
  | unexpectedFile (path : String)
  | checksumMismatch (path : String) (expected actual : ArtifactChecksum)
  | integrityMismatch
  | unsafePath (path : String)
  | readFailure (path reason : String)
deriving DecidableEq

def ArtifactError.message : ArtifactError → String
  | .malformedManifest reason => s!"artifact manifest is invalid: {reason}"
  | .unsupportedManifestVersion actual supported =>
    s!"manifest version {actual.toNat} is not supported by this loader (supported: " ++
      s!"{supported.toNat})"
  | .missingFile path => s!"artifact file `{path}` is missing from the artifact directory"
  | .unexpectedFile path =>
    s!"unexpected file `{path}` is not declared in the artifact manifest"
  | .checksumMismatch path expected actual =>
    s!"artifact file `{path}` failed checksum verification (expected {expected.hex}, computed " ++
      s!"{actual.hex})"
  | .integrityMismatch => "artifact tree failed integrity verification"
  | .unsafePath path => s!"artifact path `{path}` escapes the artifact directory"
  | .readFailure path reason => s!"could not read artifact file `{path}`: {reason}"

/-! ## manifests -/

/-- `MANIFEST_SCHEMA_VERSION` -/
def manifestSchemaVersion : UInt32 := 1

/-- `MANIFEST_FILENAME` -/
def manifestFilename : String := "manifest.json"

structure ManifestFile where
  path : String
  sha256 : ArtifactChecksum
  kind : Option String
deriving DecidableEq

structure ArtifactManifest where
  manifestVersion : UInt32
  circuit : CircuitId
  circuitVersion : Version
  artifactVersion : Version
  backend : BackendId
  verificationKeyId : Option VerificationKeyId
  files : List ManifestFile
  /-- ordered by key -/
  backendMetadata : List (String × String)
deriving DecidableEq

/-- a field that is left out when there is none -/
def optField (name : String) (value : Option String) : List (String × Json) :=
  (value.map fun text => (name, .str text)).toList

def ManifestFile.json (file : ManifestFile) : Json :=
  .obj ([("path", .str file.path), ("sha256", .str file.sha256.hex)] ++ optField "kind" file.kind)

/-- what the manifest is for -/
structure Identity where
  circuit : CircuitId
  circuitVersion : Version
  artifactVersion : Version
  backend : BackendId
deriving DecidableEq

def ArtifactManifest.identity (a : ArtifactManifest) : Identity where
  circuit := a.circuit
  circuitVersion := a.circuitVersion
  artifactVersion := a.artifactVersion
  backend := a.backend

/-- relative, between `/` only, and no component that is empty, `.` or `..` -/
def isSafeRelativePath (path : String) : Bool :=
  path.toList ≠ [] && path.toList.head? != some '/' && '\\' ∉ path.toList &&
    path.toList.all (fun c => c.toNat ≠ 0) &&
    (split '/' path).all fun component => component != "" && component != "." && component != ".."

namespace ArtifactManifest

/-- what the text of a manifest says -/
def document (m : ArtifactManifest) : Json :=
  .obj ([("manifest_version", .int m.manifestVersion.toNat), ("circuit", .str m.circuit.id),
    ("circuit_version", .str m.circuitVersion.display),
    ("artifact_version", .str m.artifactVersion.display), ("backend", .str m.backend.id)] ++
    optField "verification_key_id" (m.verificationKeyId.map VerificationKeyId.id) ++
    [("files", .arr (m.files.map ManifestFile.json)),
      ("backend_metadata", .obj (m.backendMetadata.map fun e => (e.1, .str e.2)))])

/-- the text of the manifest, with the fields in the order of the type -/
def toCanonicalJson (m : ArtifactManifest) : List UInt8 := m.document.compact.toUTF8.data.toList

def normalize (m : ArtifactManifest) : Except ArtifactError ArtifactManifest := do
  ensure (m.manifestVersion = manifestSchemaVersion)
    (.unsupportedManifestVersion m.manifestVersion manifestSchemaVersion)
  ensureAll (fun file => isSafeRelativePath file.path) (fun file => .unsafePath file.path) m.files
  return { m with files := m.files.mergeSort fun a b => decide (a.path ≤ b.path) }

/-- `file_checksum` -/
def fileChecksum (m : ArtifactManifest) (path : String) : Option ArtifactChecksum :=
  (m.files.find? fun f => f.path == path).map ManifestFile.sha256

/-- `fromSlice` is `serde_json::from_slice` -/
def parse (fromSlice : List UInt8 → Except String ArtifactManifest) (json : List UInt8) :
    Except ArtifactError ArtifactManifest := do
  let m ← (fromSlice json).mapError .malformedManifest
  m.normalize

theorem normalize_ok {m m' : ArtifactManifest} : m.normalize = .ok m' ↔
    m.manifestVersion = manifestSchemaVersion ∧ (∀ file ∈ m.files, isSafeRelativePath file.path) ∧
      m' = { m with files := m.files.mergeSort fun a b => decide (a.path ≤ b.path) } := by
  simp only [normalize, bind_ok, ensure_ok, ensureAll_ok, exists_const, pure_ok]
  exact and_congr_right fun _ => and_congr_right fun _ => eq_comm

theorem parse_ok {fromSlice : List UInt8 → Except String ArtifactManifest} {json : List UInt8}
    {m : ArtifactManifest} : parse fromSlice json = .ok m ↔
      ∃ document, fromSlice json = .ok document ∧ document.normalize = .ok m := by
  simp only [parse, bind_ok, mapError_ok]

end ArtifactManifest

end Crucible
