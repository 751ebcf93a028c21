import Crucible.Interfaces.Serde

/-!
# Test vectors (`crates/vectors/src/lib.rs`)

A vector file is read as it stands, its values are canonicalized, and its structure is checked.

* `RawVector`                     a file as JSON;
* `TestVector.load`               a vector that is ready for execution;
* `TestVector.validateStructure`  the checks of every entry of the catalog;
* `TestVector.toRequestFor`       the request a vector stands for; `none` where the source panics.
-/

namespace Crucible
open Checked Text Serde

/-! ## files -/

structure RawBag where
  entries : List (String × String)
deriving DecidableEq

structure RawWitness where
  operation : Operation
  priv : SortedMap String String
  pub : RawBag
deriving DecidableEq

structure RawVector where
  id : String
  operation : Operation
  category : String
  description : Option String
  circuit : CircuitId
  circuitVersion : Version
  witness : RawWitness
  expectedOutputs : RawBag
  stateReference : Option StateReference
  expectVerification : Bool
deriving DecidableEq

instance : Wire RawBag where
  toJson b := .obj [("entries", toJson b.entries)]
  fromJson j := do
    let fields ← fieldsOf ["entries"] j
    return { entries := ← required fields "entries" }
  fromJson_toJson b := by
    rw [fieldsOf_obj (by simp)]
    simp
  toJson_ne_null _ := by intro h; cases h

instance : Wire RawWitness where
  toJson w := .obj [("operation", toJson w.operation), ("private", toJson w.priv),
    ("public", toJson w.pub)]
  fromJson j := do
    let fields ← fieldsOf ["operation", "private", "public"] j
    return { operation := ← required fields "operation", priv := ← required fields "private"
             pub := ← required fields "public" }
  fromJson_toJson w := by
    rw [fieldsOf_obj (by simp)]
    simp
  toJson_ne_null _ := by intro h; cases h

instance : Wire RawVector where
  toJson v := .obj [("id", toJson v.id), ("operation", toJson v.operation),
    ("category", toJson v.category), ("description", optJson v.description),
    ("circuit", toJson v.circuit), ("circuit_version", toJson v.circuitVersion),
    ("witness", toJson v.witness), ("expected_public_outputs", toJson v.expectedOutputs),
    ("state_reference", optJson v.stateReference),
    ("expect_verification", toJson v.expectVerification)]
  fromJson j := do
    let fields ← fieldsOf ["id", "operation", "category", "description", "circuit",
      "circuit_version", "witness", "expected_public_outputs", "state_reference",
      "expect_verification"] j
    return { id := ← required fields "id", operation := ← required fields "operation"
             category := ← required fields "category"
             description := ← optional fields "description"
             circuit := ← required fields "circuit"
             circuitVersion := ← required fields "circuit_version"
             witness := ← required fields "witness"
             expectedOutputs := ← required fields "expected_public_outputs"
             stateReference := ← optional fields "state_reference"
             expectVerification := ← required fields "expect_verification" }
  fromJson_toJson v := by
    rw [fieldsOf_obj (by simp)]
    simp [-Bool.exists_bool]
  toJson_ne_null _ := by intro h; cases h

/-! ## vectors -/

structure Witness where
  operation : Operation
  /-- canonical digits, by name -/
  priv : SortedMap String String
  pub : PublicInputBag
deriving DecidableEq

structure TestVector where
  id : String
  operation : Operation
  category : String
  description : Option String
  circuit : CircuitId
  circuitVersion : Version
  witness : Witness
  expectedPublicOutputs : PublicInputBag
  stateReference : Option StateReference
  expectVerification : Bool
deriving DecidableEq

/-- `REJECT_CATEGORIES` -/
def rejectCategories : List String :=
  ["invalid", "wrong-owner", "insufficient-balance", "stale-state", "malformed-proof", "replay"]

/-- `KNOWN_CATEGORIES` -/
def knownCategories : List String :=
  ["valid", "invalid", "insufficient-balance", "wrong-owner", "stale-state", "malformed-proof",
    "replay", "state-transition", "commitment"]

section
variable (context : String)

/-- one entry of a public bag -/
def insertPublic (bag : PublicInputBag) (e : String × String) : Except String PublicInputBag := do
  let value ← (FieldValue.fromHex e.2).mapError fun err =>
    s!"{context}: field `{e.1}`: " ++ err.message
  (bag.insert e.1 value).mapError fun err => s!"{context}: " ++ err.message

def RawBag.intoBag (raw : RawBag) : Except String PublicInputBag :=
  raw.entries.foldlM (insertPublic context) Bag.new

/-- one private value -/
def insertPrivate (m : SortedMap String String) (e : String × String) :
    Except String (SortedMap String String) := do
  let value ← (SecretValue.fromHex e.2).mapError fun err =>
    s!"{context}: secret `{e.1}`: " ++ err.message
  return m.insert e.1 value.intoHex

def RawWitness.intoWitness (raw : RawWitness) : Except String Witness := do
  let priv ← raw.priv.entries.foldlM (insertPrivate context) SortedMap.empty
  let pub ← raw.pub.intoBag s!"{context}: public inputs"
  return { operation := raw.operation, priv, pub }

end

namespace TestVector

/-- the root of a state-bound vector is the one its public halves name -/
def validateRoot (v : TestVector) : Except (Fault String) Unit := do
  let fail (msg : String) : Fault String := .error s!"vector `{v.id}`: {msg}"
  let state ← fromOption
    (fail s!"operation {v.operation.asStr} requires a state reference") v.stateReference
  let (hi, lo) ← fromOption .panic state.rootHalves
  let hiEntry ← fromOption
    (fail "state-bound operation must expose `root_hi` as a public input")
    (v.witness.pub.get "root_hi")
  let loEntry ← fromOption
    (fail "state-bound operation must expose `root_lo` as a public input")
    (v.witness.pub.get "root_lo")
  ensure (hiEntry = hi) (fail (s!"`root_hi` ({hiEntry.hex}) does not match the state root's high " ++
    s!"half ({hi.hex})"))
  ensure (loEntry = lo) (fail (s!"`root_lo` ({loEntry.hex}) does not match the state root's low " ++
    s!"half ({lo.hex})"))

def validateStructure (v : TestVector) : Except (Fault String) Unit := do
  let fail (msg : String) : Fault String := .error s!"vector `{v.id}`: {msg}"
  ensure (v.category ∈ knownCategories) (fail s!"unknown category `{v.category}`")
  ensure (v.circuit.id = v.operation.asStr)
    (fail s!"circuit `{v.circuit.id}` does not match operation `{v.operation.asStr}`")
  ensure (v.witness.operation = v.operation)
    (fail (s!"witness operation `{v.witness.operation.asStr}` does not match vector operation " ++
      s!"`{v.operation.asStr}`"))
  ensure (v.witness.priv.entries ≠ []) (fail "operation requires a non-empty private witness")
  ensureAll (fun name => name ∉ v.witness.priv.keys)
    (fun name => fail s!"name `{name}` appears in both private witness and public inputs")
    v.witness.pub.names
  ensure (¬ (v.category = "valid" ∧ ¬ v.expectVerification))
    (fail "category `valid` requires expect_verification=true")
  ensure (¬ (v.category ∈ rejectCategories ∧ v.expectVerification))
    (fail s!"category `{v.category}` requires expect_verification=false")
  (if v.operation.stateBound then v.validateRoot else .ok ())
  ensure (¬ (v.operation = .register ∧ ¬ v.expectedPublicOutputs.isEmpty))
    (fail "register has no public return; expected_public_outputs must be empty")

/-- `path` as it is displayed, and what reading the file gives -/
def load (text : JsonText) (path : String) (content : Except String (List UInt8)) :
    Except (Fault String) TestVector := do
  let bytes ← content.mapError fun e => .error s!"cannot read `{path}`: {e}"
  let invalid (e : String) : Fault String := .error s!"`{path}` is not a valid test vector: {e}"
  let json ← (text.parse bytes).mapError invalid
  let raw : RawVector ← (fromJson json).mapError invalid
  let context := s!"vector `{raw.id}`"
  let located (e : String) : String := s!"{e} (in `{path}`)"
  let witness ← (raw.witness.intoWitness context).mapError fun e => Fault.error (located e)
  let expectedPublicOutputs ←
    (raw.expectedOutputs.intoBag s!"{context}: expected_public_outputs").mapError fun e =>
      Fault.error (located e)
  let vector : TestVector :=
    { id := raw.id, operation := raw.operation, category := raw.category
      description := raw.description, circuit := raw.circuit
      circuitVersion := raw.circuitVersion, witness, expectedPublicOutputs
      stateReference := raw.stateReference, expectVerification := raw.expectVerification }
  vector.validateStructure.mapError (Fault.map located)
  return vector

/-- one secret of a request -/
def insertSecret (bag : PrivateWitnessBag) (e : String × String) : Option PrivateWitnessBag := do
  let value ← (SecretValue.fromHex e.2).toOption
  (bag.insert e.1 value).toOption

def toRequestFor (v : TestVector) (backend : String) : Option ProofRequest := do
  let witness ← v.witness.priv.entries.foldlM insertSecret PrivateWitnessBag.new
  let backend ← (BackendId.new backend).toOption
  let name := String.ofList (v.id.toList.map fun c => if c = '/' ∨ c = '\\' then '-' else c)
  return {
    requestId := ⟨"vector-" ++ name⟩, operation := v.operation, circuit := v.circuit
    circuitVersion := v.circuitVersion, artifactVersion := ⟨0, 1, 0⟩, backend, witness
    publicInputs := v.witness.pub, stateReference := v.stateReference }

def toRequest (v : TestVector) : Option ProofRequest := v.toRequestFor BackendId.mock

end TestVector

end Crucible
