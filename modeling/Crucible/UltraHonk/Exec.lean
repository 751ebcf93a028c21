import Crucible.Lib.Hex
import Crucible.Lib.Json
import Crucible.Lib.Lines
import Crucible.UltraHonk.VerificationKey

/-!
# What `bb` reads and writes (`crates/ultrahonk/src/exec.rs`)

* `Exec.wordBytes`, `Exec.concatWords`   field words as bytes, 32 a word;
* `validateProvenance`   a document of the scheme, from some version of `bb`;
* `excerpt`              what is kept of a diagnostic; `none` where cutting it panics.
-/

namespace Crucible
open Checked Text Serde

/-! ## documents -/

/-- `proof.json` -/
structure ProofDocument where
  proof : List String
  vkHash : String
  bbVersion : String
  scheme : String
deriving DecidableEq

/-- `public_inputs.json` -/
structure PublicInputsDocument where
  publicInputs : List String
  bbVersion : String
  scheme : String
deriving DecidableEq

/-! ### their JSON forms -/

def wordsJson (words : List String) : Json := .arr (words.map .str)

def VkDocument.json (d : VkDocument) : Json :=
  .obj [("vk", wordsJson d.vk), ("hash", .str d.hash), ("bb_version", .str d.bbVersion),
    ("scheme", .str d.scheme)]

def ProofDocument.json (d : ProofDocument) : Json :=
  .obj [("proof", wordsJson d.proof), ("vk_hash", .str d.vkHash), ("bb_version", .str d.bbVersion),
    ("scheme", .str d.scheme)]

def PublicInputsDocument.json (d : PublicInputsDocument) : Json :=
  .obj [("public_inputs", wordsJson d.publicInputs), ("bb_version", .str d.bbVersion),
    ("scheme", .str d.scheme)]

/-- `what` is the document in the error -/
def validateProvenance (what scheme bbVersion : String) : Except UltraHonkError Unit := do
  ensure (scheme = schemeUltraHonk) (.inconsistentArtifacts
    s!"{what} declares scheme `{scheme}`, expected `{schemeUltraHonk}`")
  ensure (trim bbVersion.toList ≠ []) (.malformedArtifact "<document>"
    s!"{what} carries no bb_version")

/-! ## words -/

namespace Exec

/-- `word_bytes` -/
def wordBytes (word : String) : Except (Fault UltraHonkError) (List UInt8) := do
  let hex := stripPrefix "0x".toList word.toList
  ensure (¬ (hex = [] ∨ byteLen hex > 64 ∨ ¬ hex.all isHexDigit)) (.error
    (.malformedArtifact "<field word>"
      s!"word `{word}` is not 0x-prefixed hex of at most 32 bytes"))
  fromOption .panic (hexDecode (padLeft '0' 64 hex))

def concatWords (words : List String) : Except (Fault UltraHonkError) (List UInt8) := do
  let parts ← words.mapM wordBytes
  return parts.flatten

/-- `proof_bytes` -/
def proofBytes (doc : ProofDocument) : Except (Fault UltraHonkError) (List UInt8) :=
  concatWords doc.proof

/-- `digest_bytes` -/
def digestBytes (hex : String) : Except (Fault UltraHonkError) (List UInt8) := do
  let bare := stripPrefix "0x".toList hex.toList
  ensure (¬ (byteLen bare ≠ 64 ∨ ¬ bare.all isHexDigit)) (.error
    (.malformedArtifact "<digest>" s!"digest `{hex}` is not exactly 32 bytes of hex"))
  wordBytes hex

end Exec

/-! ## diagnostics -/

/-- the last line that is not blank, without what follows ` (mem:`, cut after 200 bytes -/
def excerpt (stderr : String) : Option String :=
  let last := (lines stderr.toList).reverse.find? fun l => trim l ≠ []
  let line := trim (last.getD "bb failed (no diagnostic)".toList)
  let stripped := trimEnd (before " (mem:".toList line)
  if byteLen stripped > 200 then
    (splitBytes 200 stripped).map fun q => String.ofList (q.1 ++ ['…'])
  else some (String.ofList stripped)

end Crucible
