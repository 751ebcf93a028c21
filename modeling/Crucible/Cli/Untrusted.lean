import Crucible.Cli.Verify
import Crucible.UltraHonk.Panics

/-!
# Envelopes from anywhere

The `verify` command takes any text that reads as an envelope.

* `label_unread`          the operation of an envelope changes nothing the command does: what an
                          accepted envelope is bound to is its circuit;
* `envelope_never_panics_iff`   the envelopes, and the machines, on which no verifier panics.
-/

namespace Crucible
open Checked Serde

/-! ## the command on an envelope that reads -/

namespace VerifyEnv
variable {env : VerifyEnv} {json line : String} {e : ProofEnvelope}

/-- the machine, with this text in the envelope file -/
def onText (env : VerifyEnv) (json : String) : VerifyEnv := { env with content := .ok json }

theorem run_onText (hread : ProofEnvelope.fromJson env.text json = .ok e) :
    (env.onText json).run = (do
      let outcome ← env.dispatch e.backend (.ofEnvelope e)
      ensure outcome.verified (.error (describeRejected e
        ((outcome.failure.map VerificationFailure.message).getD "unknown")))
      return "verified: " ++ describe e) := by
  show (ProofEnvelope.fromJson env.text json).mapError _ >>= _ = _
  rw [hread]
  rfl

theorem dispatch_ultraHonk {store : VkStore} {r : VerificationRequest}
    {outcome : VerificationOutcome} (hstore : env.store = .ok store)
    (h : (UltraHonkVerifier.mk store).verify env.host r = .ok outcome) :
    env.dispatch ultraHonkId r = .ok outcome := by
  have hmock : ¬ ultraHonkId.id = "mock" := by decide
  have hultra : ultraHonkId.id = "ultrahonk" := rfl
  unfold dispatch
  rw [if_neg hmock, if_pos hultra, hstore]
  show Except.mapError _ (UltraHonkVerifier.verify env.host ⟨store⟩ r) = _
  rw [h]
  rfl

/-- the verifier that has verified the request -/
theorem dispatch_verified {backend : BackendId} {r : VerificationRequest}
    {outcome : VerificationOutcome} (h : env.dispatch backend r = .ok outcome)
    (hverified : outcome.verified) :
    (backend.id = "mock" ∧ Verified (MockVerifier.new.verify env.crates) r) ∨
    (backend.id ≠ "mock" ∧ ∃ store, Verified ((UltraHonkVerifier.mk store).verify env.host) r) := by
  unfold dispatch at h
  by_cases hmock : backend.id = "mock"
  · rw [if_pos hmock] at h
    exact .inl ⟨hmock, outcome, mapError_ok.mp h, hverified⟩
  · rw [if_neg hmock] at h
    by_cases hultra : backend.id = "ultrahonk"
    · rw [if_pos hultra] at h
      obtain ⟨store, _, h⟩ := bind_ok.mp h
      exact .inr ⟨hmock, store, outcome, mapError_ok.mp h, hverified⟩
    · rw [if_neg hultra] at h
      cases h

theorem dispatch_of_run (hread : ProofEnvelope.fromJson env.text json = .ok e)
    (h : (env.onText json).run = .ok line) :
    ∃ outcome, env.dispatch e.backend (.ofEnvelope e) = .ok outcome ∧ outcome.verified := by
  rw [run_onText hread] at h
  obtain ⟨outcome, hdispatch, h⟩ := bind_ok.mp h
  obtain ⟨_, hverified, _⟩ := bind_ok.mp h
  exact ⟨outcome, hdispatch, ensure_ok.mp hverified⟩

theorem run_of_dispatch {outcome : VerificationOutcome}
    (hread : ProofEnvelope.fromJson env.text json = .ok e)
    (h : env.dispatch e.backend (.ofEnvelope e) = .ok outcome) (hverified : outcome.verified) :
    (env.onText json).run = .ok ("verified: " ++ describe e) := by
  rw [run_onText hread, h]
  exact ensure_pos hverified

/-! ## the label -/

/-- the circuit that the proof is for: of the envelope inside a mock proof, or of the key that an
UltraHonk proof is checked under -/
def boundCircuit (env : VerifyEnv) (r : VerificationRequest) : Option CircuitId :=
  if r.backend.id = "mock" then
    (env.crates.parseEnvelope (r.proof.bytes.take (r.proof.bytes.length - 32))).toOption.map
      MockEnvelope.circuit
  else (VerificationKeyIdPolicy.parse r.verificationKeyId.id).toOption.map Prod.fst

theorem boundCircuit_of_verified {r : VerificationRequest} {outcome : VerificationOutcome}
    (h : env.dispatch r.backend r = .ok outcome) (hverified : outcome.verified) :
    env.boundCircuit r = some r.circuit := by
  unfold boundCircuit
  rcases dispatch_verified h hverified with ⟨hmock, hv⟩ | ⟨hmock, store, hv⟩
  · obtain ⟨_, _, _, henvelope⟩ := MockVerifier.verified_iff.mp hv
    rw [if_pos hmock, henvelope]
    rfl
  · obtain ⟨⟨_, hparse, _⟩, _⟩ := verified_iff.mp hv
    rw [if_neg hmock, hparse]
    rfl

end VerifyEnv

/-- **The command authenticates the circuit and never reads the label.**  A proof that is accepted
is bound to the circuit of its envelope, and the envelope is answered in the same way under every
operation. -/
theorem label_unread {env : VerifyEnv} {json : String} {e : ProofEnvelope} {operation : Operation}
    (hread : ProofEnvelope.fromJson env.text json = .ok e)
    (hcircuit : e.circuit = .forOperation operation) :
    ((∃ line, (env.onText json).run = .ok line) →
      env.boundCircuit (.ofEnvelope e) = some (.forOperation operation)) ∧
    ∀ label json', ProofEnvelope.fromJson env.text json' = .ok { e with operation := label } →
      (env.onText json').run = (env.onText json).run := by
  refine ⟨fun ⟨line, h⟩ => ?_, fun label json' hread' => ?_⟩
  · obtain ⟨outcome, hdispatch, hverified⟩ := VerifyEnv.dispatch_of_run hread h
    have hbackend : (VerificationRequest.ofEnvelope e).backend = e.backend := rfl
    rw [← hcircuit]
    exact VerifyEnv.boundCircuit_of_verified (hbackend.symm ▸ hdispatch) hverified
  · rw [VerifyEnv.run_onText hread', VerifyEnv.run_onText hread]
    rfl

/-- the envelope of a transfer, under any operation and any state reference -/
def transferEnvelopeAs (operation : Operation) (state : Option StateReference) :
    ProofEnvelope where
  version := envelopeV1
  operation := operation
  circuit := transferRequest.circuit
  circuitVersion := transferRequest.circuitVersion
  backend := transferRequest.backend
  proof := transferRequest.proof
  publicOutputs := transferRequest.publicOutputs
  verificationKeyId := transferRequest.verificationKeyId
  artifactChecksum := transferRequest.artifactChecksum
  stateReference := state
  metadata := { requestId := transferRequest.requestId, producedBy := "crucible-prover/0.1.0" }

/-- the machine of the transfer, which reads the text of one envelope -/
def transferEnvOf (e : ProofEnvelope) : VerifyEnv where
  text := .knowing (toJson e)
  path := "envelope.json"
  content := .error "No such file or directory (os error 2)"
  crates := { sha256 := fun _ => [], parseEnvelope := fun _ => .error "expected value" }
  host := transferHost
  store := .ok transferVerifier.store

/-- the text of an envelope -/
def ProofEnvelope.compact (e : ProofEnvelope) : String := Json.compact (Serde.toJson e)

theorem transferEnvOf_read (e : ProofEnvelope) (h : e.version = envelopeV1) :
    ProofEnvelope.fromJson (transferEnvOf e).text e.compact = .ok e :=
  ProofEnvelope.fromJson_toJson JsonText.knowing_parse (h ▸ UInt32.le_refl _) rfl

/-- the transfer, labelled as a merge -/
def mislabelled : ProofEnvelope := transferEnvelopeAs .merge (some transferState)

theorem mislabelled_read :
    ProofEnvelope.fromJson (transferEnvOf mislabelled).text mislabelled.compact
      = .ok mislabelled := transferEnvOf_read mislabelled rfl

theorem label_unread_transfer :
    ((∃ line, ((transferEnvOf mislabelled).onText mislabelled.compact).run = .ok line) →
      (transferEnvOf mislabelled).boundCircuit (.ofEnvelope mislabelled)
        = some (.forOperation .transfer)) ∧
    ∀ label json', ProofEnvelope.fromJson (transferEnvOf mislabelled).text json'
        = .ok { mislabelled with operation := label } →
      ((transferEnvOf mislabelled).onText json').run
        = ((transferEnvOf mislabelled).onText mislabelled.compact).run :=
  label_unread mislabelled_read rfl

/-- a transfer is accepted as a merge -/
theorem transfer_accepted_as_merge :
    ProofEnvelope.fromJson (transferEnvOf mislabelled).text mislabelled.compact
      = .ok mislabelled ∧
    mislabelled.circuit = .forOperation .transfer ∧
    (∃ line, ((transferEnvOf mislabelled).onText mislabelled.compact).run = .ok line) ∧
    mislabelled.operation = .merge := by
  refine ⟨mislabelled_read, rfl, ?_, rfl⟩
  obtain ⟨outcome, hrun, hverified⟩ := transfer_verified
  have hdispatch : (transferEnvOf mislabelled).dispatch ultraHonkId transferRequest
      = .ok outcome := VerifyEnv.dispatch_ultraHonk rfl hrun
  exact ⟨_, VerifyEnv.run_of_dispatch mislabelled_read hdispatch hverified⟩

/-! ## panics -/

/-- **No verifier panics on an envelope exactly when no cut fails**: an envelope that passes the
checks in front of the state reference names both root halves and references a root that cannot be
cut in two, or `bb` fails on it with a diagnostic that cannot be cut at its 200th byte. -/
theorem envelope_never_panics_iff {text : JsonText} {json : String} {crates : MockCrates}
    {mock : MockVerifier} {host : Host} {v : UltraHonkVerifier} :
    ∀ e, ProofEnvelope.fromJson text json = .ok e →
      ((mock.verify crates (.ofEnvelope e) ≠ .error .panic ∧
          v.verify host (.ofEnvelope e) ≠ .error .panic) ↔
        ∀ vk, UltraHonkVerifier.Resolves host v (.ofEnvelope e) vk →
          ¬ RootUncuttable (.ofEnvelope e) ∧
          (StateAgrees (.ofEnvelope e) →
            ¬ DiagnosticUncuttable host e.proof e.publicOutputs vk)) := by
  intro e _
  rw [and_iff_right MockVerifier.verify_ne_panic, Ne, UltraHonkVerifier.verify_panic_iff]
  push Not
  exact Iff.rfl

/-- the envelope of a transfer against a root of two characters -/
def shortRoot : ProofEnvelope :=
  transferEnvelopeAs .transfer (some { root := ⟨"ab"⟩, sequence := 7, label := none })

theorem shortRoot_read :
    ProofEnvelope.fromJson (transferEnvOf shortRoot).text shortRoot.compact = .ok shortRoot :=
  transferEnvOf_read shortRoot rfl

theorem envelope_never_panics_iff_shortRoot :
    (MockVerifier.new.verify (transferEnvOf shortRoot).crates (.ofEnvelope shortRoot)
          ≠ .error .panic ∧
        transferVerifier.verify transferHost (.ofEnvelope shortRoot) ≠ .error .panic) ↔
      ∀ vk, UltraHonkVerifier.Resolves transferHost transferVerifier (.ofEnvelope shortRoot) vk →
        ¬ RootUncuttable (.ofEnvelope shortRoot) ∧
        (StateAgrees (.ofEnvelope shortRoot) →
          ¬ DiagnosticUncuttable transferHost shortRoot.proof shortRoot.publicOutputs vk) :=
  envelope_never_panics_iff shortRoot shortRoot_read

/-- the envelope reads, its key is in the store, and the verifier panics on it -/
theorem shortRoot_panics :
    ProofEnvelope.fromJson (transferEnvOf shortRoot).text shortRoot.compact = .ok shortRoot ∧
    transferVerifier.verify transferHost (.ofEnvelope shortRoot) = .error .panic := by
  obtain ⟨hroute, hparse, vk, hvk, hwords, _⟩ := transfer_content
  have hroot : RootUncuttable (.ofEnvelope shortRoot) := by
    refine ⟨rfl, rfl, _, rfl, fun first second h => ?_⟩
    cases h
  exact ⟨shortRoot_read, UltraHonkVerifier.verify_panic_iff.mpr
    ⟨vk, ⟨hroute, hparse, hvk, hwords⟩, .inl hroot⟩⟩

end Crucible
