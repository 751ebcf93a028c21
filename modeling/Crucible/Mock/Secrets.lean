import Crucible.Interfaces.Render
import Crucible.Mock.Prover
import Crucible.ProverCore.Envelope

/-!
# Private values on the mock path

Two requests with the same public view differ in their private values only.  What is the same for
any two such requests hides the values (`Hides`).

* `hides_of_witness`     the rule for what reads the witness by its names;
* `prove_hides`          a service hides what its providers hide, whatever its local verifier;
* `private_values_hidden`   the whole mock path, from the request to the text of the envelope.
-/

namespace Crucible
open Checked Function Serde

/-! ## the public view -/

/-- a request without its private values -/
structure PublicView where
  requestId : RequestId
  operation : Operation
  circuit : CircuitId
  circuitVersion : Version
  artifactVersion : Version
  backend : BackendId
  witnessNames : List String
  publicInputs : PublicInputBag
  stateReference : Option StateReference

def ProofRequest.publicView (r : ProofRequest) : PublicView where
  requestId := r.requestId
  operation := r.operation
  circuit := r.circuit
  circuitVersion := r.circuitVersion
  artifactVersion := r.artifactVersion
  backend := r.backend
  witnessNames := r.witness.names
  publicInputs := r.publicInputs
  stateReference := r.stateReference

/-- `f` is the same for any two requests with the same public view -/
abbrev Hides {α : Type} (f : ProofRequest → α) : Prop := FactorsThrough f ProofRequest.publicView

section
variable {α β : Type} {r r' : ProofRequest}

theorem eq_withWitness (h : r.publicView = r'.publicView) :
    r' = { r with witness := r'.witness } ∧ r'.witness.names = r.witness.names := by
  cases r
  cases r'
  simp only [ProofRequest.publicView, PublicView.mk.injEq] at h
  obtain ⟨rfl, rfl, rfl, rfl, rfl, rfl, hnames, rfl, rfl⟩ := h
  exact ⟨rfl, hnames.symm⟩

/-- what another witness with the same names does not change, is hidden -/
theorem hides_of_witness {f : ProofRequest → α}
    (h : ∀ (r : ProofRequest) (w : PrivateWitnessBag), w.names = r.witness.names →
      f { r with witness := w } = f r) : Hides f := by
  intro r r' hview
  obtain ⟨heq, hnames⟩ := eq_withWitness hview
  rw [heq]
  exact (h r r'.witness hnames).symm

end

/-! ## the request -/

section
variable {w w' : PrivateWitnessBag}

theorem isEmpty_congr (h : w.names = w'.names) : w.isEmpty = w'.isEmpty := by
  have hempty (b : PrivateWitnessBag) : b.isEmpty = b.names.isEmpty := (List.isEmpty_map).symm
  rw [hempty, hempty, h]

theorem len_congr (h : w.names = w'.names) : w.len = w'.len := by
  have hlen (b : PrivateWitnessBag) : b.len = b.names.length := (List.length_map _).symm
  rw [hlen, hlen, h]

theorem get_isNone_congr (h : w.names = w'.names) (name : String) :
    (w.get name).isNone = (w'.get name).isNone := by
  have hmem (b : PrivateWitnessBag) : (b.get name).isNone = ! decide (name ∈ b.names) := by
    rw [← Option.not_isSome]
    exact congrArg not (Bool.eq_iff_iff.mpr (by rw [decide_eq_true_iff]; exact Bag.get_isSome_iff))
  rw [hmem, hmem, h]

end

theorem validate_hides : Hides ProofRequest.validate := by
  refine hides_of_witness fun r w h => ?_
  unfold ProofRequest.validate
  rw [isEmpty_congr h]

theorem missingPrivateNames_hides : Hides missingPrivateNames := by
  refine hides_of_witness fun r w h => ?_
  unfold missingPrivateNames
  congr 1
  funext name
  exact get_isNone_congr h name

theorem missingPublicNames_hides : Hides missingPublicNames :=
  hides_of_witness fun _ _ _ => rfl

theorem redacted_hides : Hides ProofRequest.redacted := by
  refine hides_of_witness fun r w h => ?_
  unfold ProofRequest.redacted
  rw [h, len_congr h]

theorem debug_hides : Hides ProofRequest.debug := by
  refine hides_of_witness fun r w h => ?_
  unfold ProofRequest.debug PrivateWitnessBag.debug
  rw [h]

/-! ## the service -/

theorem operation_hides : Hides ProofRequest.operation := hides_of_witness fun _ _ _ => rfl

theorem select_hides {registry : ProviderRegistry} : Hides registry.select :=
  hides_of_witness fun _ _ _ => rfl

theorem preflight_hides : Hides ProverService.preflight := by
  intro r r' hview
  unfold ProverService.preflight
  rw [validate_hides hview, missingPrivateNames_hides hview, missingPublicNames_hides hview,
    operation_hides hview]

section
variable {service : ProverService}

theorem provide_hides {registry : ProviderRegistry}
    (hproviders : ∀ p ∈ registry.providers, Hides p.generate) : Hides registry.provide := by
  intro r r' hview
  unfold ProviderRegistry.provide
  rw [select_hides hview]
  cases hsel : registry.select r' with
  | error e => rfl
  | ok p =>
    have hmem : p ∈ registry.providers :=
      List.mem_of_find?_eq_some (ProviderRegistry.select_ok.mp hsel).1
    show (p.generate r).mapError _ = (p.generate r').mapError _
    rw [hproviders p hmem hview]

theorem proveCore_hides (hproviders : ∀ p ∈ service.registry.providers, Hides p.generate) :
    Hides service.proveCore :=
  factorsThrough_bind preflight_hides fun _ => provide_hides hproviders

theorem prove_hides (hproviders : ∀ p ∈ service.registry.providers, Hides p.generate) :
    Hides service.prove :=
  (proveCore_hides hproviders).comp_left (Except.mapError (Fault.map mapCoreError))

theorem proveAndVerifyCore_hides
    (hproviders : ∀ p ∈ service.registry.providers, Hides p.generate) :
    Hides service.proveAndVerifyCore :=
  factorsThrough_bind (proveCore_hides hproviders) fun _ => factorsThrough_const

theorem proveAndVerify_hides (hproviders : ∀ p ∈ service.registry.providers, Hides p.generate) :
    Hides service.proveAndVerify :=
  (proveAndVerifyCore_hides hproviders).comp_left (Except.mapError (Fault.map mapCoreError))

theorem proveEnveloped_hides (hproviders : ∀ p ∈ service.registry.providers, Hides p.generate) :
    Hides service.proveEnveloped := by
  refine factorsThrough_bind (proveCore_hides hproviders) fun response r r' hview => ?_
  show assembleEnvelope response r.operation _ = assembleEnvelope response r'.operation _
  rw [operation_hides hview]

end

/-! ## the mock -/

section
variable {sha256 : List UInt8 → List UInt8} {text : JsonText}

theorem generate_hides (prover : MockProver) : Hides (prover.generate sha256 text) := by
  refine factorsThrough_bind ?_ fun _ => hides_of_witness fun _ _ _ => rfl
  exact validate_hides.comp_left (Except.mapError (Fault.map ProviderError.invalidRequest))

/-- **Private values do not reach anything on the mock path.**  For two requests with the same
public view, and a service whose providers are mock provers, whatever its local verifier: the
checks, the renderings, the responses and the envelopes are the same, and so is every error. -/
theorem private_values_hidden {r r' : ProofRequest} {service : ProverService}
    (hview : r.publicView = r'.publicView)
    (hmock : ∀ p ∈ service.registry.providers,
      ∃ prover : MockProver, p = prover.provider sha256 text) :
    r.validate = r'.validate ∧
    missingPrivateNames r = missingPrivateNames r' ∧
    missingPublicNames r = missingPublicNames r' ∧
    r.redacted = r'.redacted ∧
    (∀ quote, r.debug.compact quote = r'.debug.compact quote) ∧
    (∀ prover : MockProver, prover.generate sha256 text r = prover.generate sha256 text r') ∧
    service.prove r = service.prove r' ∧
    service.proveAndVerify r = service.proveAndVerify r' ∧
    service.proveEnveloped r = service.proveEnveloped r' ∧
    (service.proveEnveloped r).map (ProofEnvelope.toJson text)
      = (service.proveEnveloped r').map (ProofEnvelope.toJson text) := by
  have hproviders : ∀ p ∈ service.registry.providers, Hides p.generate := by
    intro p hp
    obtain ⟨prover, rfl⟩ := hmock p hp
    exact generate_hides prover
  have henveloped := proveEnveloped_hides hproviders hview
  refine ⟨validate_hides hview, missingPrivateNames_hides hview, missingPublicNames_hides hview,
    redacted_hides hview, ?_, fun prover => generate_hides prover hview,
    prove_hides hproviders hview, proveAndVerify_hides hproviders hview, henveloped, ?_⟩
  · intro quote
    rw [debug_hides hview]
  · rw [henveloped]

end

/-- the transfer of zeros, with other private values -/
def transferOnes : ProofRequest :=
  { transferZeros with
    witness :=
      { bag := .ofNames (privateNames .transfer) ⟨⟨"1", canonical_one⟩⟩
        wellFormed := ⟨by decide, by decide⟩ } }

theorem private_values_hidden_transfer :
    transferZeros.witness.get "amount" ≠ transferOnes.witness.get "amount" ∧
    transferService.prove transferZeros = transferService.prove transferOnes := by
  have hmock : ∀ p ∈ transferService.registry.providers,
      ∃ prover : MockProver, p = prover.provider transferSha256 transferText := by
    intro p hp
    exact ⟨.new, List.mem_singleton.mp hp⟩
  have hview : transferZeros.publicView = transferOnes.publicView := rfl
  obtain ⟨_, _, _, _, _, _, hprove, _⟩ := private_values_hidden hview hmock
  exact ⟨by decide, hprove⟩

end Crucible
