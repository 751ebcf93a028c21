import Crucible.Interfaces.Proof

/-!
# Witness data (`crates/witness/src/builder.rs`, `validation.rs`, `errors.rs`)

Public inputs and private values of one operation, put together either by the assembler, which
checks that no name is on both sides, or from a request, which checks nothing.

* `WitnessAssembler.assemble_ok`    what an assembled witness has passed;
* `WitnessValidation.validate_ok`   what the structural validation says.
-/

namespace Crucible
open Checked

inductive WitnessSide where
  | pub
  | priv
deriving DecidableEq

/-- `{:?}` -/
def WitnessSide.debug : WitnessSide → String
  | .pub => "Public"
  | .priv => "Private"

/-- the errors of the witness crate -/
inductive Witness.WitnessError where
  | missingRequired (operation : Operation) (side : WitnessSide) (name : String)
  | overlap (name : String)
  | invalidValue (e : FieldError)
  | io (reason : String)
  | encoding (reason : String)
deriving DecidableEq

def Witness.WitnessError.message : Witness.WitnessError → String
  | .missingRequired operation side name =>
    s!"operation {operation.asStr} requires {side.debug} witness `{name}`"
  | .overlap name => s!"witness name `{name}` appears on both the public and private side"
  | .invalidValue e => e.message
  | .io reason => s!"witness I/O error: {reason}"
  | .encoding reason => s!"witness encoding error: {reason}"

structure WitnessData where
  operation : Operation
  publicInputs : PublicInputBag
  priv : PrivateWitnessBag

def WitnessData.fromRequest (r : ProofRequest) : WitnessData where
  operation := r.operation
  publicInputs := r.publicInputs
  priv := r.witness

/-- no public name is a private name -/
def checkOverlap (publicInputs : PublicInputBag) (priv : PrivateWitnessBag) :
    Except Witness.WitnessError Unit :=
  ensureAll (fun name => (priv.get name).isNone) .overlap publicInputs.names

theorem checkOverlap_ok {publicInputs : PublicInputBag} {priv : PrivateWitnessBag} {w : Unit} :
    checkOverlap publicInputs priv = .ok w ↔ publicInputs.names.Disjoint priv.names := by
  unfold checkOverlap
  rw [ensureAll_ok]
  refine forall_congr' fun name => imp_congr_right fun _ => ?_
  show (priv.bag.get name).isNone ↔ name ∉ priv.bag.names
  rw [← Bag.get_isSome_iff, ← Option.not_isSome, Bool.not_eq_true', Bool.not_eq_true]

/-! ## the assembler -/

structure WitnessAssembler where
  operation : Operation
  publicInputs : PublicInputBag
  priv : PrivateWitnessBag
  requiredPublic : List String
  requiredPrivate : List String
  /-- public values come in through `insert` only -/
  wellFormed : publicInputs.WellFormed

namespace WitnessAssembler

def assemble (a : WitnessAssembler) : Except Witness.WitnessError WitnessData := do
  ensureAll (fun name => (a.publicInputs.get name).isSome)
    (.missingRequired a.operation .pub) a.requiredPublic
  ensureAll (fun name => (a.priv.get name).isSome)
    (.missingRequired a.operation .priv) a.requiredPrivate
  checkOverlap a.publicInputs a.priv
  return { operation := a.operation, publicInputs := a.publicInputs, priv := a.priv }

theorem assemble_ok {a : WitnessAssembler} {data : WitnessData} (h : a.assemble = .ok data) :
    data.publicInputs.WellFormed ∧ data.publicInputs.names.Disjoint data.priv.names := by
  simp only [assemble, bind_ok, checkOverlap_ok, pure_ok] at h
  obtain ⟨_, _, _, _, _, hdisjoint, rfl⟩ := h
  exact ⟨a.wellFormed, hdisjoint⟩

end WitnessAssembler

/-! ## validation -/

namespace WitnessValidation

def validate (data : WitnessData) : Except Witness.WitnessError Unit := do
  ensure (¬ data.publicInputs.isEmpty) (.missingRequired data.operation .pub "<any>")
  ensure (¬ data.priv.isEmpty) (.missingRequired data.operation .priv "<any>")
  checkOverlap data.publicInputs data.priv

theorem validate_ok {data : WitnessData} {w : Unit} : validate data = .ok w ↔
    data.publicInputs.isEmpty = false ∧ data.priv.isEmpty = false ∧
      data.publicInputs.names.Disjoint data.priv.names := by
  simp only [validate, bind_ok, ensure_ok, exists_const, checkOverlap_ok, Bool.not_eq_true]

end WitnessValidation

end Crucible
