import Crucible.ProofTypes.Envelope
import Crucible.ProverCore.Service

/-!
# Enveloped proofs (`crates/prover-core/src/prover.rs`, `proof.rs`)
-/

namespace Crucible
open Checked

/-- `assemble_envelope`, which does not fail -/
def assembleEnvelope (response : ProofResponse) (operation : Operation) (producedBy : String) :
    Except (Fault CoreError) ProofEnvelope :=
  .ok (.fromResponse response operation producedBy)

namespace ProverService

def proveEnveloped (service : ProverService) (r : ProofRequest) :
    Except (Fault CoreError) ProofEnvelope := do
  let response ← service.proveCore r
  assembleEnvelope response r.operation service.producedBy

def proveEnvelopedAndVerify (service : ProverService) (r : ProofRequest) :
    Except (Fault CoreError) ProofEnvelope := do
  let (response, _) ← service.proveAndVerifyCore r
  assembleEnvelope response r.operation service.producedBy

theorem proveEnvelopedAndVerify_ok {service : ProverService} {r : ProofRequest}
    {envelope : ProofEnvelope} (h : service.proveEnvelopedAndVerify r = .ok envelope) :
    ∃ response outcome, service.proveAndVerifyCore r = .ok (response, outcome) ∧
      envelope = .fromResponse response r.operation service.producedBy := by
  obtain ⟨p, hcore, henvelope⟩ := bind_ok.mp h
  exact ⟨p.1, p.2, hcore, (Except.ok.inj henvelope).symm⟩

end ProverService

end Crucible
