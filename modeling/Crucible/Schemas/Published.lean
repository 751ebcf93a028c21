import Crucible.Lib.JsonSchema

/-!
# The published schemas (`schemas/proof.schema.json`, `artifact.schema.json`)

Envelopes and manifests, with the definitions of `field-bag.schema.json` that they refer to.  The
keyword `prefixItems` of a bag is not one of draft 7, so it stands for nothing here: an entry is any
array of two.

The bytes of a proof are left open, to be filled in with what the schemas say of them.
-/

namespace Crucible.Schemas
open JsonSchema Text

/-! ## `field-bag.schema.json` -/

def string : Schema := type [.string]

/-- `[0-9a-f]+`, at most 64 of them -/
def hex : Schema := schema [string, pattern [⟨isLowerHex, 1, none⟩], maxLength 64]

/-- `[0-9a-f]{64}` -/
def hex64 : Schema := schema [string, pattern [⟨isLowerHex, 64, some 64⟩]]

/-- `[0-9]+\.[0-9]+\.[0-9]+` -/
def semver : Schema :=
  schema [string, pattern [⟨isAsciiDigit, 1, none⟩, ⟨(· == '.'), 1, some 1⟩,
    ⟨isAsciiDigit, 1, none⟩, ⟨(· == '.'), 1, some 1⟩, ⟨isAsciiDigit, 1, none⟩]]

def operation : Schema :=
  schema [string, enum [.str "register", .str "deposit", .str "merge", .str "transfer",
    .str "withdraw"]]

/-- `[A-Za-z0-9._-]{1,128}` -/
def circuitId : Schema :=
  schema [string, pattern
    [⟨fun c => isAsciiAlphanumeric c || c == '.' || c == '_' || c == '-', 1, some 128⟩]]

def stateReference : Schema :=
  schema [type [.object],
    properties
      [("root", hex64), ("sequence", schema [type [.integer], minimum 0]),
        ("label", type [.string, .null])]
      nothing,
    required ["root", "sequence"]]

def proofBlob (bytes : Schema) : Schema :=
  schema [type [.object],
    properties [("format", schema [string, maxLength 64]), ("bytes", bytes)] nothing,
    required ["format", "bytes"]]

def fieldBag : Schema :=
  schema [type [.object],
    properties
      [("entries", schema [type [.array],
        items (schema [type [.array], minItems 2, maxItems 2]), uniqueItems])]
      nothing,
    required ["entries"]]

/-! ## `proof.schema.json` -/

def metadata : Schema :=
  schema [type [.object],
    properties
      [("request_id", schema [string, minLength 1]), ("produced_by", schema [string, minLength 1])]
      nothing,
    required ["request_id", "produced_by"]]

/-- the schema of an envelope, with `bytes` for the bytes of its proof -/
def proofEnvelopeOf (bytes : Schema) : Schema :=
  schema [type [.object],
    properties
      [("version", schema [type [.integer], minimum 1]), ("operation", operation),
        ("circuit", circuitId), ("circuit_version", semver),
        ("backend", schema [string, maxLength 64]), ("proof", proofBlob bytes),
        ("public_outputs", fieldBag),
        ("verification_key_id", schema [string, minLength 1, maxLength 128]),
        ("artifact_checksum", hex64),
        ("state_reference", anyOf [stateReference, type [.null]]), ("metadata", metadata)]
      nothing,
    required ["version", "operation", "circuit", "circuit_version", "backend", "proof",
      "public_outputs", "verification_key_id", "artifact_checksum", "state_reference", "metadata"]]

def proofEnvelope : Schema := proofEnvelopeOf hex

/-! ## `artifact.schema.json` -/

def manifestFile : Schema :=
  schema [type [.object],
    properties
      [("path", schema [string, pattern
          [⟨fun c => c != '/' && c != '\\', 1, some 1⟩, ⟨fun c => c != '\\', 0, none⟩]]),
        ("sha256", hex64), ("kind", type [.string, .null])]
      nothing,
    required ["path", "sha256"]]

def artifactManifest : Schema :=
  schema [type [.object],
    properties
      [("manifest_version", schema [type [.integer], minimum 1]), ("circuit", circuitId),
        ("circuit_version", semver), ("artifact_version", semver),
        ("backend", schema [string, maxLength 64]),
        ("verification_key_id", schema [type [.string, .null], maxLength 128]),
        ("files", schema [type [.array], minItems 1, items manifestFile, uniqueItems]),
        ("backend_metadata", schema [type [.object], properties [] string])]
      nothing,
    required ["manifest_version", "circuit", "circuit_version", "artifact_version", "backend",
      "verification_key_id", "files", "backend_metadata"]]

end Crucible.Schemas
