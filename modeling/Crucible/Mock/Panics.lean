import Crucible.Mock.Prover

/-!
# Where the mock prover panics (`crates/mock/src/prover.rs`)

The prover forms a key id from the names of circuit and version, and unwraps what the constructor
of ids says to it.

* `MockProver.verificationKeyIdFor_isSome_iff`   the names that fit into an id;
* `mock_total_iff`                               the requests that are answered, and as `validate`
                                                 says.
-/

namespace Crucible
open Checked Text Serde

/-- a request built by the constructors can be checked: its root has halves -/
theorem ProofRequest.Built.validate_ne_panic {r : ProofRequest} (h : r.Built) :
    r.validate ≠ .error .panic := by
  intro hpanic
  unfold validate at hpanic
  simp only [bind_error, ensure_error, reduceCtorEq, and_false, false_or, ensure_ok,
    exists_const] at hpanic
  obtain ⟨_, _, _, hpanic⟩ := hpanic
  split at hpanic
  · next state hi lo hstate _ _ =>
    obtain ⟨hi', lo', hhalves, _⟩ := StateReference.rootHalves_number (h.root state hstate)
    simp only [bind_error, hhalves, fromOption_error, ensure_error, reduceCtorEq, false_and,
      and_false, exists_false, or_false] at hpanic
  · cases hpanic

namespace MockProver
variable {sha256 : List UInt8 → List UInt8} {text : JsonText} {prover : MockProver}
  {r : ProofRequest}

/-- the names of circuit and version leave room for the rest of a key id -/
def NamesFit (r : ProofRequest) : Prop :=
  byteLen r.circuit.id.toList + byteLen r.circuitVersion.display.toList ≤ 119

instance (r : ProofRequest) : Decidable (NamesFit r) := inferInstanceAs (Decidable (_ ≤ _))

theorem verificationKeyIdFor_isSome_iff :
    (∃ vkId, verificationKeyIdFor r.circuit r.circuitVersion = some vkId) ↔ NamesFit r := by
  have hlist : ("mock-vk/" ++ r.circuit.id ++ "/" ++ r.circuitVersion.display).toList
      = "mock-vk/".toList ++ r.circuit.id.toList ++ "/".toList ++
        r.circuitVersion.display.toList := by
    rw [String.toList_append, String.toList_append, String.toList_append]
  have hscheme : byteLen "mock-vk/".toList = 8 := by decide
  have hslash : byteLen "/".toList = 1 := by decide
  have hne : "mock-vk/".toList ++ r.circuit.id.toList ++ "/".toList ++
      r.circuitVersion.display.toList ≠ [] := by
    rw [List.append_assoc, List.append_assoc]
    exact List.append_ne_nil_of_left_ne_nil (by decide) _
  have hlen : byteLen ("mock-vk/".toList ++ r.circuit.id.toList ++ "/".toList ++
      r.circuitVersion.display.toList)
      = 9 + byteLen r.circuit.id.toList + byteLen r.circuitVersion.display.toList := by
    rw [byteLen_append, byteLen_append, byteLen_append, hscheme, hslash]
    omega
  unfold verificationKeyIdFor VerificationKeyId.new NamesFit
  rw [hlist, hlen]
  by_cases hlong : 9 + byteLen r.circuit.id.toList + byteLen r.circuitVersion.display.toList > 128
  · rw [if_pos (Or.inr hlong)]
    refine iff_of_false (fun h => ?_) (by omega)
    obtain ⟨_, hnone⟩ := h
    cases hnone
  · rw [if_neg (not_or.mpr ⟨hne, hlong⟩)]
    exact iff_of_true ⟨_, rfl⟩ (by omega)

theorem generate_panic (hbackend : r.backend = mockBackend) :
    prover.generate sha256 text r = .error .panic ↔
      r.validate = .error .panic ∨ r.validate = .ok () ∧ ¬ NamesFit r := by
  have hvalidate : r.validate.mapError (Fault.map ProviderError.invalidRequest) = .error .panic ↔
      r.validate = .error .panic := by
    rw [mapError_error]
    constructor
    · intro h
      obtain ⟨fault, hfault, hmap⟩ := h
      cases fault with
      | error e => cases hmap
      | panic => exact hfault
    · intro h
      exact ⟨.panic, h, rfl⟩
  have hid : fromOption Fault.panic (verificationKeyIdFor r.circuit r.circuitVersion)
      = (.error .panic : Except (Fault ProviderError) VerificationKeyId) ↔ ¬ NamesFit r := by
    rw [fromOption_error, ← verificationKeyIdFor_isSome_iff]
    cases verificationKeyIdFor r.circuit r.circuitVersion with
    | none => simp
    | some vkId => simp
  unfold generate
  simp only [bind_error, hvalidate, mapError_ok, ensure_error, ensure_ok, hbackend, not_true,
    false_and, exists_const, true_and, false_or, hid, fromOption_ok]
  refine or_congr_right ?_
  constructor
  · intro h
    obtain ⟨_, hvalid, hlong | hrest⟩ := h
    · exact ⟨hvalid, hlong⟩
    · obtain ⟨_, _, hpure⟩ := hrest
      cases hpure
  · intro h
    exact ⟨(), h.1, Or.inl h.2⟩

end MockProver

/-- **The mock prover answers every request whose names fit into a key id, and no other that is
valid**: it never panics, and succeeds exactly where `validate` does. -/
theorem mock_total_iff {sha256 : List UInt8 → List UInt8} {text : JsonText} {prover : MockProver}
    {r : ProofRequest} (hbuilt : r.Built) (hbackend : r.backend = mockBackend) :
    (prover.generate sha256 text r ≠ .error .panic ∧
      ((∃ response, prover.generate sha256 text r = .ok response) ↔ r.validate = .ok ())) ↔
    (r.validate = .ok () → MockProver.NamesFit r) := by
  have hpanic : prover.generate sha256 text r = .error .panic ↔
      r.validate = .ok () ∧ ¬ MockProver.NamesFit r := by
    rw [MockProver.generate_panic hbackend]
    exact or_iff_right hbuilt.validate_ne_panic
  constructor
  · intro htotal hvalid
    by_contra hlong
    exact htotal.1 (hpanic.mpr ⟨hvalid, hlong⟩)
  · intro hfit
    refine ⟨fun h => (hpanic.mp h).2 (hfit (hpanic.mp h).1), ?_⟩
    constructor
    · intro hgen
      obtain ⟨response, hresponse⟩ := hgen
      exact (MockProver.generate_ok.mp hresponse).1
    · intro hvalid
      obtain ⟨vkId, hvkId⟩ := MockProver.verificationKeyIdFor_isSome_iff.mpr (hfit hvalid)
      exact ⟨_, MockProver.generate_ok.mpr ⟨hvalid, hbackend, vkId, hvkId, rfl⟩⟩

theorem mock_total_iff_transfer :
    (MockProver.new.generate transferSha256 transferText transferZeros ≠ .error .panic ∧
      ((∃ response, MockProver.new.generate transferSha256 transferText transferZeros
        = .ok response) ↔ transferZeros.validate = .ok ())) ↔
    (transferZeros.validate = .ok () → MockProver.NamesFit transferZeros) :=
  mock_total_iff (minimalRequest_built (by decide) (by decide)) rfl

/-- a circuit id of the full length -/
def longCircuit : CircuitId := ⟨String.ofList (List.replicate 128 'a')⟩

/-- no key id has room for it -/
theorem long_circuit_panics : ∃ r : ProofRequest, r.Built ∧ r.backend = mockBackend ∧
    r.validate = .ok () ∧ ∀ (sha256 : List UInt8 → List UInt8) (text : JsonText)
      (prover : MockProver), prover.generate sha256 text r = .error .panic := by
  have hpre : ProverService.preflight (minimalRequest .register longCircuit ⟨0, 1, 0⟩ mockBackend)
      = .ok () := minimalRequest_preflight
  have hvalid := (ProverService.preflight_ok.mp hpre).1
  have hlong : ¬ MockProver.NamesFit (minimalRequest .register longCircuit ⟨0, 1, 0⟩ mockBackend) := by
    decide +kernel
  refine ⟨_, minimalRequest_built ?_ (by decide), rfl, hvalid, ?_⟩
  · decide +kernel
  · intro sha256 text prover
    exact (MockProver.generate_panic rfl).mpr (Or.inr ⟨hvalid, hlong⟩)

end Crucible
