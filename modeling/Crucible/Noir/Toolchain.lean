import Crucible.Lib.Checked
import Mathlib.Data.List.Basic

/-!
# Running `nargo` (`crates/noir/src/toolchain.rs`, `compiler.rs`, `errors.rs`)

* `Nargo`             what `nargo` answers: a parameter;
* `executeCaptured`   one run of `nargo execute` over a `Prover.toml`.
-/

namespace Crucible
open Checked

inductive NoirError where
  | binaryNotFound
  | unsupportedVersion (found : String) (supported : UInt32)
  | versionParse (output : String)
  | expectedOutput (path command : String)
  | io (path reason : String)
deriving DecidableEq

def NoirError.message : NoirError → String
  | .binaryNotFound => "nargo binary not found on PATH; is the Noir toolchain installed?"
  | .unsupportedVersion found supported =>
    s!"unsupported nargo version `{found}` (this adapter supports major {supported.toNat})"
  | .versionParse output => s!"could not parse nargo version output: {output}"
  | .expectedOutput path command =>
    s!"expected `{path}` to exist after `nargo {command}`, but it does not"
  | .io path reason => s!"could not read `{path}`: {reason}"

structure NargoVersion where
  raw : String
  major : UInt32
deriving DecidableEq

/-- how one `nargo execute` ends -/
structure NargoRun where
  success : Bool
  code : Option Int
  stdout : String
  /-- the witness file, if there is one afterwards -/
  witness : Option (List UInt8)

structure Nargo where
  /-- `nargo` on `PATH` -/
  binary : Option String
  /-- `nargo --version`, parsed -/
  version : Except NoirError NargoVersion
  /-- `nargo execute` in a package, by its name, over the text of its `Prover.toml` -/
  execute : String → String → Except String NargoRun

/-- `MIN_NARGO_MAJOR` -/
def minNargoMajor : UInt32 := 1

namespace Nargo
variable (nargo : Nargo)

def checkVersion : Except NoirError Unit := do
  let version ← nargo.version
  ensure (minNargoMajor ≤ version.major) (.unsupportedVersion version.raw minNargoMajor)

/-- a file that another program reads by its path -/
structure File where
  path : List String
  content : List UInt8

structure CapturedExecute where
  solved : Bool
  exitCode : Option Int
  witness : Option File
  stdout : String

def executeCaptured (projectDir : List String) (package proverToml witnessName : String) :
    Except NoirError CapturedExecute := do
  nargo.checkVersion
  let witnessPath := projectDir ++ ["target", witnessName ++ ".gz"]
  let run ← (nargo.execute package proverToml).mapError fun e =>
    .io ("/".intercalate projectDir) e
  ensure (¬ (run.success ∧ run.witness.isNone))
    (.expectedOutput ("/".intercalate witnessPath) "execute")
  return { solved := run.success
           exitCode := run.code
           witness := if run.success then run.witness.map fun content => ⟨witnessPath, content⟩
            else none
           stdout := run.stdout }

end Nargo

end Crucible
