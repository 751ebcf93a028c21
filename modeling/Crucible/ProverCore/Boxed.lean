import Crucible.Mock.Prover
import Crucible.ProverCore.Service

/-!
# Provers behind a box (`interfaces/src/prover/prover.rs`, `crates/prover-core/src/prover.rs`)

The trait `Prover` has a method with a default body, `prove_and_verify`.  The service overrides it;
the implementation for `Box<T>` forwards the other two methods and leaves this one as it is.

* `Prover.default`        the body in the trait;
* `Prover.boxed`          the prover in a box;
* `boxed_proveAndVerify_iff`   where a box changes nothing: for any prover, and for a service.
-/

namespace Crucible
open Checked

/-- the methods of an implementation of the trait -/
structure Prover where
  prove : ProofRequest → Except (Fault ProverError) ProofResponse
  proveAndVerify : ProofRequest →
    Except (Fault ProverError) (ProofResponse × VerificationOutcome)
  /-- `none` panics -/
  localVerifier : Option Verifies

namespace Prover

/-- `prove_and_verify`, for implementations that do not override it -/
def default (prove : ProofRequest → Except (Fault ProverError) ProofResponse)
    (localVerifier : Option Verifies) (r : ProofRequest) :
    Except (Fault ProverError) (ProofResponse × VerificationOutcome) := do
  let response ← prove r
  let verify ← fromOption .panic localVerifier
  let outcome ← (verify (.fromResponse response)).mapError
    (.map fun e => .verificationFailed e.message)
  ensure outcome.verified (.error (.notVerified outcome.failure))
  return (response, outcome)

/-- `impl Prover for Box<T>` -/
def boxed (p : Prover) : Prover where
  prove := p.prove
  proveAndVerify := default p.prove p.localVerifier
  localVerifier := p.localVerifier

end Prover

/-- `impl Prover for ProverService` -/
def ProverService.prover (service : ProverService) : Prover where
  prove := service.prove
  proveAndVerify := service.proveAndVerify
  localVerifier := service.localVerifier

/-! ## one answer -/

section
variable {service : ProverService} {r : ProofRequest}

theorem default_of_error {p : Prover} {e : Fault ProverError} (h : p.prove r = .error e) :
    Prover.default p.prove p.localVerifier r = .error e := by
  unfold Prover.default
  rw [h]
  rfl

theorem default_of_ok {p : Prover} {response : ProofResponse} {verify : Verifies}
    (h : p.prove r = .ok response) (hlocal : p.localVerifier = some verify) :
    Prover.default p.prove p.localVerifier r = match verify (.fromResponse response) with
      | .error e => .error (e.map fun e => .verificationFailed e.message)
      | .ok outcome =>
        if outcome.verified then .ok (response, outcome)
        else .error (.error (.notVerified outcome.failure)) := by
  unfold Prover.default
  rw [h, hlocal]
  show (do
    let outcome ← (verify (.fromResponse response)).mapError _
    ensure outcome.verified _
    return (response, outcome) : Except (Fault ProverError) _) = _
  cases verify (.fromResponse response) with
  | error e => rfl
  | ok outcome =>
    by_cases hv : outcome.verified
    · show (ensure outcome.verified _ >>= fun _ => _) = if outcome.verified then _ else _
      rw [ensure_pos hv, if_pos hv]
      rfl
    · show (ensure outcome.verified _ >>= fun _ => _) = if outcome.verified then _ else _
      rw [ensure_neg hv, if_neg hv]

theorem ProverService.proveAndVerify_of_error {e : Fault CoreError}
    (h : service.proveCore r = .error e) : service.proveAndVerify r = .error (e.map mapCoreError) := by
  unfold proveAndVerify proveAndVerifyCore
  rw [h]
  rfl

theorem ProverService.proveAndVerify_of_ok {response : ProofResponse} {verify : Verifies}
    (h : service.proveCore r = .ok response) (hlocal : service.localVerifier = some verify) :
    service.proveAndVerify r = match verify (.fromResponse response) with
      | .error e => .error (e.map fun e => .provider e.message)
      | .ok outcome =>
        if outcome.verified then .ok (response, outcome)
        else .error (.error (.notVerified outcome.failure)) := by
  unfold proveAndVerify proveAndVerifyCore verifyRoundTrip
  rw [h, hlocal]
  show (do
    let outcome ← (do
      let outcome ← (verify (.fromResponse response)).mapError _
      ensure outcome.verified _
      return outcome)
    return (response, outcome) : Except (Fault CoreError) _).mapError _ = _
  cases verify (.fromResponse response) with
  | error e => cases e <;> rfl
  | ok outcome =>
    by_cases hv : outcome.verified
    · show ((ensure outcome.verified _ >>= fun _ => _) >>= fun _ => _).mapError _
        = if outcome.verified then _ else _
      rw [ensure_pos hv, if_pos hv]
      rfl
    · show ((ensure outcome.verified _ >>= fun _ => _) >>= fun _ => _).mapError _
        = if outcome.verified then _ else _
      rw [ensure_neg hv, if_neg hv]
      rfl

theorem ProverService.proveAndVerify_of_none {response : ProofResponse}
    (h : service.proveCore r = .ok response) (hlocal : service.localVerifier = none) :
    service.proveAndVerify r = .error (.error (.verificationFailed "no verifier configured")) := by
  unfold proveAndVerify proveAndVerifyCore
  rw [h, hlocal]
  rfl

/-- a proof is answered by the local verifier, with an outcome of either kind or a panic -/
def ProverService.Answered (service : ProverService) (r : ProofRequest) : Prop :=
  ∀ response, service.prove r = .ok response →
    ∃ verify, service.localVerifier = some verify ∧
      ∀ e, verify (.fromResponse response) ≠ .error (.error e)

theorem ProverService.answered_iff {response : ProofResponse}
    (h : service.prove r = .ok response) : service.Answered r ↔
      ∃ verify, service.localVerifier = some verify ∧
        ∀ e, verify (.fromResponse response) ≠ .error (.error e) := by
  constructor
  · exact fun hall => hall response h
  · intro hverify response' h'
    obtain rfl := Except.ok.inj (h.symm.trans h')
    exact hverify

/-- a box changes nothing about a service exactly where its local verifier is there for a proof,
and reports no error -/
theorem ProverService.boxed_iff : service.prover.boxed.proveAndVerify r
    = service.prover.proveAndVerify r ↔ service.Answered r := by
  show Prover.default service.prover.prove service.prover.localVerifier r
    = service.proveAndVerify r ↔ _
  have hprove : service.prover.prove r = (service.proveCore r).mapError (.map mapCoreError) := rfl
  cases hcore : service.proveCore r with
  | error e =>
    rw [hcore] at hprove
    rw [default_of_error hprove, proveAndVerify_of_error hcore]
    refine iff_of_true rfl fun response h => ?_
    have hnone := hprove.symm.trans h
    cases hnone
  | ok response =>
    rw [hcore] at hprove
    rw [answered_iff hprove]
    cases hlocal : service.localVerifier with
    | none =>
      -- the box asks for a verifier that is not there; the service says that there is none
      have hdefault : Prover.default service.prover.prove service.prover.localVerifier r
          = .error .panic := by
        unfold Prover.default
        rw [hprove, show service.prover.localVerifier = none from hlocal]
        rfl
      rw [hdefault, proveAndVerify_of_none hcore hlocal]
      refine iff_of_false (fun h => by cases h) fun h => ?_
      obtain ⟨_, hnone, _⟩ := h
      cases hnone
    | some verify =>
      rw [default_of_ok hprove hlocal, proveAndVerify_of_ok hcore hlocal]
      have hsome : (∃ verify', some verify = some verify' ∧
          ∀ e, verify' (.fromResponse response) ≠ .error (.error e)) ↔
          ∀ e, verify (.fromResponse response) ≠ .error (.error e) := by
        simp only [Option.some.injEq, exists_eq_left']
      rw [hsome]
      cases hverify : verify (.fromResponse response) with
      | ok outcome => exact iff_of_true rfl fun e h => by cases h
      | error e =>
        cases e with
        | panic => exact iff_of_true rfl fun e h => by cases h
        -- the two error mappings differ
        | error e => exact iff_of_false (fun h => by cases h) fun h => h e rfl

end

/-- **Where a box changes nothing**: where the prover does what the default body would, so always
for a prover that does not override it, such as another box; and for a service, where a proof finds
a local verifier that reports no error. -/
theorem boxed_proveAndVerify_iff (r : ProofRequest) :
    (∀ p : Prover, p.boxed.proveAndVerify r = p.proveAndVerify r ↔
      p.proveAndVerify r = Prover.default p.prove p.localVerifier r) ∧
    (∀ p : Prover, p.boxed.boxed.proveAndVerify r = p.boxed.proveAndVerify r) ∧
    ∀ service : ProverService,
      service.prover.boxed.proveAndVerify r = service.prover.proveAndVerify r ↔
        service.Answered r := by
  refine ⟨fun p => ?_, fun p => rfl, fun service => ProverService.boxed_iff⟩
  exact eq_comm

/-- the mock service of the run of a transfer, without its verifier -/
def unverifiedService : ProverService := { transferService with localVerifier := none }

theorem unverified_box_panics :
    unverifiedService.prover.proveAndVerify transferZeros
      = .error (.error (.verificationFailed "no verifier configured")) ∧
    unverifiedService.prover.boxed.proveAndVerify transferZeros = .error .panic := by
  have hselect : unverifiedService.registry.select transferZeros
      = .ok (MockProver.new.provider transferSha256 transferText) :=
    ProviderRegistry.select_ok.mpr ⟨rfl, rfl⟩
  have hcore : unverifiedService.proveCore transferZeros = .ok transferZerosResponse := by
    have hdispatched : unverifiedService.Dispatched transferZeros
        (MockProver.new.provider transferSha256 transferText) := ⟨minimalRequest_preflight, hselect⟩
    rw [ProverService.proveCore_of_dispatched hdispatched]
    exact mapError_ok.mpr transferZeros_generate
  have hprove : unverifiedService.prover.prove transferZeros = .ok transferZerosResponse := by
    show unverifiedService.prove transferZeros = _
    rw [ProverService.prove, hcore]
    rfl
  refine ⟨ProverService.proveAndVerify_of_none hcore rfl, ?_⟩
  show Prover.default unverifiedService.prover.prove none transferZeros = .error .panic
  unfold Prover.default
  rw [hprove]
  rfl

end Crucible
