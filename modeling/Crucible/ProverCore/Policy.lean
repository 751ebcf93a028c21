import Crucible.Interfaces.Numbers
import Crucible.ProverCore.Service

/-!
# Which requests reach a provider

The checks of `preflight` are those of `request.operation`; the provider proves
`request.circuit`.  Nothing compares the two labels.

* `CarriesRest`             the request carries what the circuit needs beyond its label;
* `dispatched_policy_iff`   that is what a dispatched request lacks for the circuit's policy;
* `SubsumedBy`              the label demands everything that the circuit's own label demands:
                            it is the circuit's, or the circuit is `register` and the label is
                            not `transfer`;
* `minimalRequest`          the request that meets the policy of its label and nothing more: it
                            is dispatched for any circuit the provider supports;
* `policy_enforced_iff`     so the label is enough for the circuit exactly when it subsumes it.
-/

namespace Crucible
open Checked

/-- the policy of circuit `c`: every private and public name it expects, and the halves of the
referenced root where it is bound to one -/
def Policy (c : Operation) (r : ProofRequest) : Prop :=
  (∀ name ∈ (expectations c).priv, (r.witness.get name).isSome) ∧
  (∀ name ∈ (expectations c).publicParams, (r.publicInputs.get name).isSome) ∧
  (c.stateBound → ∃ state hi lo, r.stateReference = some state ∧
    state.rootHalves = some (hi, lo) ∧ r.publicInputs.get "root_hi" = some hi ∧
    r.publicInputs.get "root_lo" = some lo)

/-- the names and the state reference that the circuit `c` needs and the label of the request
does not demand are there anyway -/
def CarriesRest (c : Operation) (r : ProofRequest) : Prop :=
  (∀ name ∈ (expectations c).priv, name ∉ (expectations r.operation).priv →
    (r.witness.get name).isSome) ∧
  (∀ name ∈ (expectations c).publicParams, name ∉ (expectations r.operation).publicParams →
    (r.publicInputs.get name).isSome) ∧
  (c.stateBound → ¬ r.operation.stateBound → r.stateReference.isSome)

/-- a request that passes the checks of its label meets the policy of a circuit exactly when it
carries the rest: the root is compared whenever it is there, whatever the label -/
theorem dispatched_policy_iff {service : ProverService} {r : ProofRequest} {p : Provider}
    {c : Operation} (h : service.Dispatched r p) : Policy c r ↔ CarriesRest c r := by
  obtain ⟨hvalid, hpriv, hpub⟩ := ProverService.preflight_ok.mp h.1
  obtain ⟨_, _, hstate, hroot⟩ := ProofRequest.validate_ok.mp hvalid
  constructor
  · rintro ⟨hpriv', hpub', hstate'⟩
    refine ⟨fun name hn _ => hpriv' name hn, fun name hn _ => hpub' name hn, fun hc _ => ?_⟩
    obtain ⟨state, _, _, hs, _⟩ := hstate' hc
    rw [hs]
    rfl
  · rintro ⟨hprivRest, hpubRest, hstateRest⟩
    have hprivAll : ∀ name ∈ (expectations c).priv, (r.witness.get name).isSome := by
      intro name hn
      by_cases hop : name ∈ (expectations r.operation).priv
      · exact hpriv name hop
      · exact hprivRest name hn hop
    have hpubAll : ∀ name ∈ (expectations c).publicParams, (r.publicInputs.get name).isSome := by
      intro name hn
      by_cases hop : name ∈ (expectations r.operation).publicParams
      · exact hpub name hop
      · exact hpubRest name hn hop
    refine ⟨hprivAll, hpubAll, fun hbound => ?_⟩
    have hs : ∃ state, r.stateReference = some state := by
      by_cases hop : r.operation.stateBound
      · exact hstate hop
      · exact Option.isSome_iff_exists.mp (hstateRest hbound hop)
    obtain ⟨state, hs⟩ := hs
    have hmemHi := (root_mem_publicParams c).1.mpr hbound
    have hmemLo := (root_mem_publicParams c).2.mpr hbound
    obtain ⟨hi, hhi⟩ := Option.isSome_iff_exists.mp (hpubAll _ hmemHi)
    obtain ⟨lo, hlo⟩ := Option.isSome_iff_exists.mp (hpubAll _ hmemLo)
    exact ⟨state, hi, lo, hs, hroot state hi lo hs hhi hlo, hhi, hlo⟩

/-! ## labels that demand enough -/

/-- the label `op` demands what the circuit `c` needs -/
def SubsumedBy (c op : Operation) : Prop := op = c ∨ (c = .register ∧ op ≠ .transfer)

instance (c op : Operation) : Decidable (SubsumedBy c op) :=
  inferInstanceAs (Decidable (_ ∨ _))

theorem expectations_of_subsumed {c op : Operation} (h : SubsumedBy c op) :
    (expectations c).priv ⊆ (expectations op).priv ∧
    (expectations c).publicParams ⊆ (expectations op).publicParams ∧
    (c.stateBound → op.stateBound) := by
  rcases h with rfl | ⟨rfl, hne⟩
  · exact ⟨List.Subset.refl _, List.Subset.refl _, id⟩
  · cases op with
    | register => decide
    | deposit => decide
    | merge => decide
    | transfer => exact absurd rfl hne
    | withdraw => decide

/-- under a label that subsumes the circuit there is no rest -/
theorem carriesRest_of_subsumed {r : ProofRequest} {c : Operation}
    (hsub : SubsumedBy c r.operation) : CarriesRest c r := by
  obtain ⟨hsubPriv, hsubPub, hsubState⟩ := expectations_of_subsumed hsub
  exact ⟨fun name hn hno => absurd (hsubPriv hn) hno, fun name hn hno => absurd (hsubPub hn) hno,
    fun hc hno => absurd (hsubState hc) hno⟩

/-! ## the least that a label demands -/

def minimalWitness (op : Operation) : PrivateWitnessBag where
  bag := .ofNames (privateNames op) ⟨.zero⟩
  wellFormed := by
    obtain ⟨hvalid, hnodup, _⟩ := expectations_names op
    constructor
    · rw [Bag.ofNames_names]
      exact fun name hn => hvalid name (List.mem_append_left _ hn)
    · rw [Bag.ofNames_names]
      exact hnodup

/-- every name that `op` demands, with the value zero, and the zero root; any circuit -/
def minimalRequest (op : Operation) (circuit : CircuitId) (version : Version)
    (backend : BackendId) : ProofRequest where
  requestId := ⟨"minimal"⟩
  operation := op
  circuit := circuit
  circuitVersion := version
  artifactVersion := version
  backend := backend
  witness := minimalWitness op
  publicInputs := .ofNames (expectations op).publicParams .zero
  stateReference := some { root := .zero, sequence := 0, label := none }

section
variable {op c : Operation} {circuit : CircuitId} {version : Version} {backend : BackendId}

theorem minimalRequest_preflight :
    ProverService.preflight (minimalRequest op circuit version backend) = .ok () := by
  have hzero : StateReference.rootHalves { root := .zero, sequence := 0, label := none }
      = some (.zero, .zero) := by decide +kernel
  refine ProverService.preflight_ok.mpr ⟨ProofRequest.validate_ok.mpr ⟨?_, ?_, ?_, ?_⟩, ?_, ?_⟩
  · cases op <;> rfl
  · cases op <;> rfl
  · exact fun _ => ⟨_, rfl⟩
  · intro s hi lo hs hhi hlo
    obtain rfl := Option.some.inj hs
    rw [Bag.eq_of_ofNames_get hhi, Bag.eq_of_ofNames_get hlo]
    exact hzero
  · exact fun name hn => Bag.ofNames_get_isSome.mpr hn
  · exact fun name hn => Bag.ofNames_get_isSome.mpr hn

/-- it is built by the constructors, if its circuit and its backend are -/
theorem minimalRequest_built (hcircuit : CircuitId.new circuit.id = .ok circuit)
    (hbackend : BackendId.new backend.id = .ok backend) :
    (minimalRequest op circuit version backend).Built where
  circuit := hcircuit
  backend := hbackend
  publicInputs := by
    obtain ⟨hvalid, _, hnodup⟩ := expectations_names op
    refine ⟨fun name hname => hvalid name ?_, ?_⟩
    · rw [minimalRequest, Bag.ofNames_names] at hname
      exact List.mem_append_right _ (List.mem_append_left _ hname)
    · rw [minimalRequest, Bag.ofNames_names]
      exact (List.nodup_append.mp hnodup).1
  root := by
    intro s hs
    obtain rfl := Option.some.inj hs
    decide

theorem minimalRequest_dispatched {service : ProverService} {p : Provider}
    (hp : service.registry.provider backend = some p) (hsupports : p.supports circuit version) :
    service.Dispatched (minimalRequest op circuit version backend) p :=
  ⟨minimalRequest_preflight, ProviderRegistry.select_ok.mpr ⟨hp, hsupports⟩⟩

theorem names_of_minimal_policy (h : Policy c (minimalRequest op circuit version backend)) :
    (expectations c).priv ⊆ (expectations op).priv ∧
    (expectations c).publicParams ⊆ (expectations op).publicParams := by
  obtain ⟨hpriv, hpub, _⟩ := h
  exact ⟨fun name hn => Bag.ofNames_get_isSome.mp (hpriv name hn),
    fun name hn => Bag.ofNames_get_isSome.mp (hpub name hn)⟩

end

/-- no other label has all the names of a circuit -/
theorem subsumed_of_names {c op : Operation}
    (hpriv : (expectations c).priv ⊆ (expectations op).priv)
    (hpub : (expectations c).publicParams ⊆ (expectations op).publicParams) : SubsumedBy c op := by
  revert hpriv hpub
  cases c <;> cases op <;> decide

/-- **A dispatched request meets the policy of its circuit exactly when it carries what its label
does not demand; and the label `op` is enough for the circuit `c` exactly when it subsumes it**,
whatever the service, the provider it hands the request to, and the version of the circuit. -/
theorem policy_enforced_iff {service : ProverService} {p : Provider} {backend : BackendId}
    {version : Version} {op c : Operation} (hp : service.registry.provider backend = some p)
    (hsupports : p.supports (.forOperation c) version) :
    (∀ r : ProofRequest, service.Dispatched r p → (Policy c r ↔ CarriesRest c r)) ∧
    ((∀ r : ProofRequest, r.operation = op → r.circuit = .forOperation c →
      r.circuitVersion = version → r.backend = backend → service.Dispatched r p → Policy c r) ↔
    SubsumedBy c op) := by
  refine ⟨fun r hdisp => dispatched_policy_iff hdisp, ?_⟩
  constructor
  · intro hall
    have hpolicy := hall (minimalRequest op (.forOperation c) version backend) rfl rfl rfl rfl
      (minimalRequest_dispatched hp hsupports)
    obtain ⟨hpriv, hpub⟩ := names_of_minimal_policy hpolicy
    exact subsumed_of_names hpriv hpub
  · rintro hsub r rfl _ _ _ hdisp
    exact (dispatched_policy_iff hdisp).mpr (carriesRest_of_subsumed hsub)

/-- a service with one provider, which supports every circuit and proves nothing -/
def idleProvider : Provider where
  backend := ⟨BackendId.mock⟩
  supports := fun _ _ => true
  generate := fun _ => .error (.error (.internal "idle"))

def idleService : ProverService where
  registry := ProviderRegistry.new.register idleProvider
  localVerifier := none
  producedBy := "idle"

theorem policy_enforced_iff_idle :
    (∀ r : ProofRequest, idleService.Dispatched r idleProvider →
      (Policy .transfer r ↔ CarriesRest .transfer r)) ∧
    ((∀ r : ProofRequest, r.operation = .register → r.circuit = .forOperation .transfer →
      r.circuitVersion = ⟨0, 1, 0⟩ → r.backend = ⟨BackendId.mock⟩ →
      idleService.Dispatched r idleProvider → Policy .transfer r) ↔
    SubsumedBy .transfer .register) := by
  have hp : idleService.registry.provider ⟨BackendId.mock⟩ = some idleProvider := rfl
  exact policy_enforced_iff hp rfl

/-- a request for the transfer circuit with the label, and the names, of `register` -/
theorem mislabelled_transfer_dispatched :
    idleService.Dispatched (minimalRequest .register (.forOperation .transfer) ⟨0, 1, 0⟩
      ⟨BackendId.mock⟩) idleProvider ∧
    ¬ Policy .transfer (minimalRequest .register (.forOperation .transfer) ⟨0, 1, 0⟩
      ⟨BackendId.mock⟩) := by
  refine ⟨minimalRequest_dispatched rfl rfl, fun h => ?_⟩
  exact absurd (names_of_minimal_policy h).1 (by decide)

end Crucible
