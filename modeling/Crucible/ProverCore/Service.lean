import Crucible.Interfaces.Verifier

/-!
# The proving service (`crates/prover-core/src/prover.rs`, `witness.rs`, `backend.rs`,
`verification.rs`, `errors.rs`)

A provider is any implementation of the `ProofProvider` trait.  The service checks a request
(`preflight`), selects the provider registered for its backend, and calls it.

* `proveAndVerifyCore_ok`    what has been through the round trip is verified;
* `Dispatched`               the provider that a request is handed to;
* `proveCore_of_dispatched`  then the answer is the provider's, and
  `dispatched_of_proveCore`  no proof comes from anywhere else;
* `preflight_ok`             what a request that passes the checks carries.
-/

namespace Crucible
open Checked

/-! ## errors -/

inductive CoreError where
  | unknownBackend (backend : BackendId)
  | unsupportedCircuit (backend : BackendId) (circuit : CircuitId) (version : Version)
  | invalidRequest (reason : String)
  | generation (reason : String)
  | envelope (reason : String)
  | notVerified (failure : Option VerificationFailure)
  | noVerifier
  | internal (reason : String)
deriving DecidableEq

/-- `From<ProviderError>` -/
def CoreError.ofProvider (e : ProviderError) : CoreError := .generation e.message

inductive ProverError where
  | noProviderAvailable
  | provider (reason : String)
  | verificationFailed (reason : String)
  | notVerified (failure : Option VerificationFailure)
deriving DecidableEq

def mapCoreError : CoreError → ProverError
  | .unknownBackend _ => .noProviderAvailable
  | .unsupportedCircuit _ _ _ => .noProviderAvailable
  | .invalidRequest reason => .provider reason
  | .generation reason => .provider reason
  | .envelope reason => .provider reason
  | .notVerified failure => .notVerified failure
  | .noVerifier => .verificationFailed "no verifier configured"
  | .internal reason => .provider reason

/-! ## the registry -/

structure Provider where
  backend : BackendId
  supports : CircuitId → Version → Bool
  generate : ProofRequest → Except (Fault ProviderError) ProofResponse

structure ProviderRegistry where
  providers : List Provider

namespace ProviderRegistry

def new : ProviderRegistry := ⟨[]⟩

/-- a later registration for the same backend replaces the earlier one -/
def register (registry : ProviderRegistry) (provider : Provider) : ProviderRegistry :=
  ⟨(registry.providers.filter fun p => p.backend ≠ provider.backend) ++ [provider]⟩

def provider (registry : ProviderRegistry) (backend : BackendId) : Option Provider :=
  registry.providers.find? fun p => p.backend = backend

/-- the checks of `provide` that come before the provider is called -/
def select (registry : ProviderRegistry) (r : ProofRequest) : Except CoreError Provider := do
  let provider ← fromOption (.unknownBackend r.backend) (registry.provider r.backend)
  ensure (provider.supports r.circuit r.circuitVersion)
    (.unsupportedCircuit r.backend r.circuit r.circuitVersion)
  return provider

def provide (registry : ProviderRegistry) (r : ProofRequest) :
    Except (Fault CoreError) ProofResponse := do
  let provider ← (registry.select r).mapError .error
  (provider.generate r).mapError (.map .ofProvider)

theorem select_ok {registry : ProviderRegistry} {r : ProofRequest} {p : Provider} :
    registry.select r = .ok p ↔
      registry.provider r.backend = some p ∧ p.supports r.circuit r.circuitVersion := by
  simp only [select, bind_ok, fromOption_ok, ensure_ok, pure_ok, exists_const]
  constructor
  · rintro ⟨p, hp, hsupports, rfl⟩
    exact ⟨hp, hsupports⟩
  · rintro ⟨hp, hsupports⟩
    exact ⟨p, hp, hsupports, rfl⟩

end ProviderRegistry

/-! ## the witness policy -/

def requiredPrivateNames (operation : Operation) : List String := privateNames operation

def requiredPublicNames (operation : Operation) : List String :=
  (expectations operation).publicParams

def missingPrivateNames (r : ProofRequest) : List String :=
  (requiredPrivateNames r.operation).filter fun name => (r.witness.get name).isNone

def missingPublicNames (r : ProofRequest) : List String :=
  (requiredPublicNames r.operation).filter fun name => (r.publicInputs.get name).isNone

/-- `{:?}` of a list of names -/
def debugNames (names : List String) : String :=
  "[" ++ ", ".intercalate (names.map fun name => "\"" ++ name ++ "\"") ++ "]"

/-! ## the service -/

structure ProverService where
  registry : ProviderRegistry
  localVerifier : Option Verifies
  producedBy : String

namespace ProverService

def preflight (r : ProofRequest) : Except (Fault CoreError) Unit := do
  r.validate.mapError fun
    | .error e => .error (.invalidRequest e.message)
    | .panic => .panic
  ensure (missingPrivateNames r = []) (.error (.invalidRequest
    (s!"operation {r.operation.asStr} requires private witness names " ++
      debugNames (missingPrivateNames r))))
  ensure (missingPublicNames r = []) (.error (.invalidRequest
    (s!"operation {r.operation.asStr} requires public parameters " ++
      debugNames (missingPublicNames r))))

def proveCore (service : ProverService) (r : ProofRequest) :
    Except (Fault CoreError) ProofResponse := do
  preflight r
  service.registry.provide r

def prove (service : ProverService) (r : ProofRequest) :
    Except (Fault ProverError) ProofResponse :=
  (service.proveCore r).mapError (.map mapCoreError)

/-- `verify_round_trip`: a rejection is an error -/
def verifyRoundTrip (verify : Verifies) (response : ProofResponse) :
    Except (Fault CoreError) VerificationOutcome := do
  let outcome ← (verify (.fromResponse response)).mapError (.map fun e => .internal e.message)
  ensure outcome.verified (.error (.notVerified outcome.failure))
  return outcome

def proveAndVerifyCore (service : ProverService) (r : ProofRequest) :
    Except (Fault CoreError) (ProofResponse × VerificationOutcome) := do
  let response ← service.proveCore r
  let verify ← fromOption (.error .noVerifier) service.localVerifier
  let outcome ← verifyRoundTrip verify response
  return (response, outcome)

def proveAndVerify (service : ProverService) (r : ProofRequest) :
    Except (Fault ProverError) (ProofResponse × VerificationOutcome) :=
  (service.proveAndVerifyCore r).mapError (.map mapCoreError)

/-- `prove` calls `generate` of the provider `p` on the request -/
def Dispatched (service : ProverService) (r : ProofRequest) (p : Provider) : Prop :=
  preflight r = .ok () ∧ service.registry.select r = .ok p

theorem proveCore_of_dispatched {service : ProverService} {r : ProofRequest} {p : Provider}
    (h : service.Dispatched r p) : service.proveCore r =
      (p.generate r).mapError (.map .ofProvider) := by
  obtain ⟨hpre, hsel⟩ := h
  unfold proveCore ProviderRegistry.provide
  rw [hpre, hsel]
  rfl

theorem dispatched_of_proveCore {service : ProverService} {r : ProofRequest}
    {response : ProofResponse} (h : service.proveCore r = .ok response) :
    ∃ p, service.Dispatched r p ∧ p.generate r = .ok response := by
  simp only [proveCore, ProviderRegistry.provide, bind_ok, mapError_ok] at h
  obtain ⟨_, hpre, p, hsel, hgen⟩ := h
  exact ⟨p, ⟨hpre, hsel⟩, hgen⟩

theorem verifyRoundTrip_ok {verify : Verifies} {response : ProofResponse}
    {outcome : VerificationOutcome} : verifyRoundTrip verify response = .ok outcome ↔
      verify (.fromResponse response) = .ok outcome ∧ outcome.verified := by
  simp only [verifyRoundTrip, bind_ok, mapError_ok, ensure_ok, exists_const, pure_ok]
  constructor
  · rintro ⟨_, hverify, hverified, rfl⟩
    exact ⟨hverify, hverified⟩
  · rintro ⟨hverify, hverified⟩
    exact ⟨outcome, hverify, hverified, rfl⟩

/-- a proof that comes out of the round trip is a provider's, and the local verifier accepts it -/
theorem proveAndVerifyCore_ok {service : ProverService} {r : ProofRequest}
    {response : ProofResponse} {outcome : VerificationOutcome}
    (h : service.proveAndVerifyCore r = .ok (response, outcome)) :
    service.proveCore r = .ok response ∧
      ∃ verify, service.localVerifier = some verify ∧ Verified verify (.fromResponse response) := by
  simp only [proveAndVerifyCore, bind_ok, fromOption_ok, verifyRoundTrip_ok, pure_ok] at h
  obtain ⟨_, hprove, verify, hlocal, _, ⟨hverify, hverified⟩, heq⟩ := h
  obtain ⟨rfl, rfl⟩ := Prod.mk.inj heq
  exact ⟨hprove, verify, hlocal, _, hverify, hverified⟩

theorem filter_isNone_eq_nil {α : Type} {names : List String} {get : String → Option α} :
    (names.filter fun name => (get name).isNone) = [] ↔ ∀ name ∈ names, (get name).isSome := by
  rw [List.filter_eq_nil_iff]
  refine forall_congr' fun name => imp_congr_right fun _ => ?_
  rw [Bool.not_eq_true, Option.isNone_eq_false_iff]

theorem missingPrivateNames_nil {r : ProofRequest} : missingPrivateNames r = [] ↔
    ∀ name ∈ (expectations r.operation).priv, (r.witness.get name).isSome :=
  filter_isNone_eq_nil

theorem missingPublicNames_nil {r : ProofRequest} : missingPublicNames r = [] ↔
    ∀ name ∈ (expectations r.operation).publicParams, (r.publicInputs.get name).isSome :=
  filter_isNone_eq_nil

theorem preflight_ok {r : ProofRequest} {w : Unit} : preflight r = .ok w ↔
    r.validate = .ok () ∧
    (∀ name ∈ (expectations r.operation).priv, (r.witness.get name).isSome) ∧
    (∀ name ∈ (expectations r.operation).publicParams, (r.publicInputs.get name).isSome) := by
  simp only [preflight, bind_ok, mapError_ok, ensure_ok, exists_const, missingPrivateNames_nil,
    missingPublicNames_nil]
  constructor
  · rintro ⟨_, hv, hnames⟩
    exact ⟨hv, hnames⟩
  · rintro ⟨hv, hnames⟩
    exact ⟨(), hv, hnames⟩

end ProverService

end Crucible
