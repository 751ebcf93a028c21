import Crucible.ProverCore.Policy
import Crucible.Witness.Toml

/-!
# Names on both sides

The assembler and the validation of the witness crate refuse a name that is public and private.
A request that is proven goes through neither: its witness data comes from `fromRequest`.

* `separated_iff_validate`   a dispatched request keeps the two sides apart exactly when it would
                             pass the validation, and its public names are distinct;
* `overlapping_dispatched`   a service that dispatches any request dispatches one whose private
                             parameter is a public input too.
-/

namespace Crucible
open Checked

/-- no name is on both sides, no private parameter of the operation is a public input, and every
key of `Prover.toml` occurs once -/
def Separated (r : ProofRequest) : Prop :=
  (∀ name ∈ r.witness.names, name ∉ r.publicInputs.names) ∧
  (∀ name ∈ privateNames r.operation, name ∉ r.publicInputs.names) ∧
  ((WitnessData.fromRequest r).entries.map Prod.fst).Nodup

theorem entries_names (data : WitnessData) :
    data.entries.map Prod.fst = data.publicInputs.names ++ data.priv.names := by
  rw [entries_eq, List.map_map, ← values_names]
  rfl

/-- the validation that the live path leaves out says what it takes -/
theorem separated_iff_validate {service : ProverService} {r : ProofRequest} {p : Provider}
    (h : service.Dispatched r p) : Separated r ↔
      WitnessValidation.validate (.fromRequest r) = .ok () ∧ r.publicInputs.names.Nodup := by
  obtain ⟨hvalid, hpriv, _⟩ := ProverService.preflight_ok.mp h.1
  obtain ⟨hwitness, hpublic, _⟩ := ProofRequest.validate_ok.mp hvalid
  rw [WitnessValidation.validate_ok]
  unfold Separated
  rw [entries_names]
  constructor
  · rintro ⟨hsides, _, hnodup⟩
    have hdisjoint : r.publicInputs.names.Disjoint r.witness.names :=
      fun name hpub hwit => hsides name hwit hpub
    exact ⟨⟨hpublic, hwitness, hdisjoint⟩, (List.nodup_append.mp hnodup).1⟩
  · rintro ⟨⟨_, _, hdisjoint⟩, hnodup⟩
    have hsides : ∀ name ∈ r.witness.names, name ∉ r.publicInputs.names :=
      fun name hwit hpub => hdisjoint hpub hwit
    refine ⟨hsides, fun name hn => hsides name (Bag.get_isSome_iff.mp (hpriv name hn)), ?_⟩
    refine List.nodup_append.mpr ⟨hnodup, r.witness.wellFormed.nodup, ?_⟩
    rintro name hpub _ hwit rfl
    exact hdisjoint hpub hwit

/-- the least request of `register`, with the secret key among the public inputs -/
def overlappingRequest (circuit : CircuitId) (version : Version) (backend : BackendId) :
    ProofRequest :=
  { minimalRequest .register circuit version backend with
    publicInputs := .ofNames ["account_address", "account_sk"] .zero }

section
variable {circuit : CircuitId} {version : Version} {backend : BackendId}

theorem overlapping_preflight :
    ProverService.preflight (overlappingRequest circuit version backend) = .ok () := by
  refine ProverService.preflight_ok.mpr ⟨ProofRequest.validate_ok.mpr ⟨rfl, rfl, ?_, ?_⟩, ?_, ?_⟩
  · exact fun _ => ⟨_, rfl⟩
  · intro s hi lo _ hhi _
    have hno : (overlappingRequest circuit version backend).publicInputs.get "root_hi" = none := rfl
    rw [hno] at hhi
    cases hhi
  · exact fun name hn => Bag.ofNames_get_isSome.mpr hn
  · intro name hn
    refine Bag.ofNames_get_isSome.mpr (List.mem_cons.mpr (.inl ?_))
    exact List.mem_singleton.mp hn

theorem overlapping_not_separated : ¬ Separated (overlappingRequest circuit version backend) := by
  intro h
  have hpriv : "account_sk" ∈ ["account_sk"] := by decide
  have hpub : "account_sk" ∈ ["account_address", "account_sk"] := by decide
  exact h.2.1 "account_sk" hpriv hpub

/-- a service that dispatches a request dispatches an overlapping one, for the same circuit -/
theorem overlapping_dispatched {service : ProverService} {r : ProofRequest} {p : Provider}
    (h : service.Dispatched r p) : service.Dispatched
      (overlappingRequest r.circuit r.circuitVersion r.backend) p :=
  ⟨overlapping_preflight, ProviderRegistry.select_ok.mpr (ProviderRegistry.select_ok.mp h.2)⟩

end

/-- **Names stay apart in a dispatched request exactly when it passes the validation that the
live path leaves out and its public names are distinct; and a service that dispatches anything
dispatches requests where they do not.** -/
theorem separated_iff (service : ProverService) :
    (∀ r p, service.Dispatched r p → (Separated r ↔
      WitnessValidation.validate (.fromRequest r) = .ok () ∧ r.publicInputs.names.Nodup)) ∧
    ((∀ r p, service.Dispatched r p → Separated r) ↔ ∀ r p, ¬ service.Dispatched r p) := by
  refine ⟨fun r p h => separated_iff_validate h, ?_⟩
  constructor
  · intro hall r p h
    exact overlapping_not_separated (hall _ p (overlapping_dispatched h))
  · exact fun hnone r p h => absurd h (hnone r p)

/-- `register` is dispatched with its secret key as a public input, and its `Prover.toml` has the
key twice -/
theorem public_secret_dispatched :
    idleService.Dispatched (overlappingRequest (.forOperation .register) ⟨0, 1, 0⟩
      ⟨BackendId.mock⟩) idleProvider ∧
    encodeToml (.fromRequest (overlappingRequest (.forOperation .register) ⟨0, 1, 0⟩
        ⟨BackendId.mock⟩))
      = "account_address = \"0x0\"\naccount_sk = \"0x0\"\naccount_sk = \"0x0\"\n" ∧
    ¬ Separated (overlappingRequest (.forOperation .register) ⟨0, 1, 0⟩ ⟨BackendId.mock⟩) := by
  refine ⟨⟨overlapping_preflight, ProviderRegistry.select_ok.mpr ⟨rfl, rfl⟩⟩, by decide +kernel,
    overlapping_not_separated⟩

end Crucible
