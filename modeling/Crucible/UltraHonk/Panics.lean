import Crucible.Mock.Verifier
import Crucible.UltraHonk.Binding

/-!
# Where a verification panics

The checks of a verifier stop with a rejection, with an error, or by a panic.  The mock has no
panic at all.  The UltraHonk verifier has two: it cuts the root of the state reference in two, and
it cuts the diagnostic of a `bb` that has failed.

* `MockVerifier.verify_ne_panic`         the mock answers every request;
* `checkState_panic`, `checkProof_panic` the two cuts;
* `UltraHonkVerifier.verify_panic_iff`   the requests and machines on which one is reached and
                                         fails.
-/

namespace Crucible
open Checked Text

theorem conclude_panic {checks : Except Halt Unit} :
    conclude checks = .error .panic ↔ checks = .error .panic := by
  rcases checks with (failure | e | _) | _
  · exact iff_of_false (fun h => by cases h) (fun h => by cases h)
  · exact iff_of_false (fun h => by cases h) (fun h => by cases h)
  · exact iff_of_true rfl rfl
  · exact iff_of_false (fun h => by cases h) (fun h => by cases h)

/-! ## the mock -/

namespace MockVerifier
variable {crates : MockCrates} {v : MockVerifier} {r : VerificationRequest}

theorem checkStateReference_ne_panic {embedded submitted : Option StateReference} :
    checkStateReference embedded submitted ≠ .error .panic := by
  rcases embedded with _ | embedded
  · rcases submitted with _ | submitted
    · intro h; cases h
    · intro h; cases h
  · rcases submitted with _ | submitted
    · intro h; cases h
    · intro h
      have hp := (ensure_error.mp h).2
      cases hp

theorem verify_ne_panic : v.verify crates r ≠ .error .panic := by
  intro h
  have hchecks := conclude_panic.mp h
  simp only [checks, bind_error, ensure_error, mapError_error, reduceCtorEq, and_false,
    exists_false, false_or, checkStateReference_ne_panic] at hchecks

end MockVerifier

/-! ## the two cuts -/

/-- the line of a diagnostic that is kept: the last that is not blank, without what follows
` (mem:` -/
def excerptLine (stderr : String) : List Char :=
  trimEnd (before " (mem:".toList (trim (((lines stderr.toList).reverse.find? fun l =>
    trim l ≠ []).getD "bb failed (no diagnostic)".toList)))

/-- a diagnostic cannot be cut where it is longer than 200 bytes and a character covers the
200th -/
theorem excerpt_eq_none_iff {stderr : String} : excerpt stderr = none ↔
    200 < byteLen (excerptLine stderr) ∧ splitBytes 200 (excerptLine stderr) = none := by
  show (if byteLen (excerptLine stderr) > 200 then
    (splitBytes 200 (excerptLine stderr)).map fun q => String.ofList (q.1 ++ ['…'])
    else some (String.ofList (excerptLine stderr))) = none ↔ _
  by_cases hlen : byteLen (excerptLine stderr) > 200
  · rw [if_pos hlen, Option.map_eq_none_iff]
    exact (and_iff_right hlen).symm
  · rw [if_neg hlen]
    exact iff_of_false (fun h => by cases h) fun h => hlen h.1

/-- the halves of the root are compared, and the referenced root has no halves -/
def RootUncuttable (r : VerificationRequest) : Prop :=
  (r.publicOutputs.get "root_hi").isSome ∧ (r.publicOutputs.get "root_lo").isSome ∧
    ∃ state, r.stateReference = some state ∧ state.root.Uncuttable

/-- `bb` runs on the documents, fails, and its diagnostic cannot be cut -/
def DiagnosticUncuttable (host : Host) (proof : ProofBlob) (outputs : OutputBag)
    (vk : VkDocument) : Prop :=
  ∃ dir exit, host.binary.isSome ∧ checkVersion host = .ok () ∧ host.tempdir = .ok dir ∧
    (∀ name ∈ ["proof.json", "vk.json", "public_inputs.json"],
      host.write (dir ++ [name]) = .ok () ∧ host.isFile (dir ++ [name])) ∧
    host.run (proofDocument proof vk) vk (publicInputsDocument outputs) = .ok exit ∧
    exit.success = false ∧ 200 < byteLen (excerptLine exit.stderr) ∧
    splitBytes 200 (excerptLine exit.stderr) = none

theorem checkState_panic {r : VerificationRequest} :
    checkState r = .error .panic ↔ RootUncuttable r := by
  unfold checkState RootUncuttable
  cases hhi : r.publicOutputs.get "root_hi" with
  | none => simp [pure, Except.pure]
  | some hi =>
    cases hlo : r.publicOutputs.get "root_lo" with
    | none => simp [pure, Except.pure]
    | some lo =>
      simp only [bind_error, fromOption_error, ensure_error, fromOption_ok, reduceCtorEq,
        and_false, exists_false, or_false, false_or, and_true, Option.isSome_some, true_and,
        StateReference.rootHalves_eq_none_iff]

theorem bbVerify_panic {host : Host} {bb : String} {dir : List String} {proof : ProofDocument}
    {vk : VkDocument} {publicInputs : PublicInputsDocument} :
    bbVerify host bb dir proof vk publicInputs = .error .panic ↔
      checkVersion host = .ok () ∧
      (∀ name ∈ ["proof.json", "vk.json", "public_inputs.json"], host.isFile (dir ++ [name])) ∧
      ∃ exit, host.run proof vk publicInputs = .ok exit ∧ exit.success = false ∧
        200 < byteLen (excerptLine exit.stderr) ∧
        splitBytes 200 (excerptLine exit.stderr) = none := by
  have hexit (exit : Exit) :
      (if exit.success then pure { verified := true, diagnostic := none }
        else do
          let diagnostic ← fromOption .panic (excerpt exit.stderr)
          return { verified := false, diagnostic := some diagnostic } :
        Except (Fault UltraHonkError) VerifyOutcome) = .error .panic ↔
      exit.success = false ∧ 200 < byteLen (excerptLine exit.stderr) ∧
        splitBytes 200 (excerptLine exit.stderr) = none := by
    rw [← excerpt_eq_none_iff]
    cases exit.success with
    | true => simp [pure, Except.pure]
    | false =>
      rw [if_neg Bool.false_ne_true, bind_error, fromOption_error]
      simp [pure, Except.pure]
  unfold bbVerify requireFile
  simp only [bind_error, mapError_error, mapError_ok, ensure_ok, reduceCtorEq, and_false,
    exists_false, false_or, exists_const, hexit]
  refine ⟨fun h => ?_, fun h => ?_⟩
  · obtain ⟨_, hversion, hproof, hvk, hinputs, hrun⟩ := h
    refine ⟨hversion, ?_, hrun⟩
    simp only [List.forall_mem_cons]
    exact ⟨hproof, hvk, hinputs, List.forall_mem_nil _⟩
  · obtain ⟨hversion, hfiles, hrun⟩ := h
    simp only [List.forall_mem_cons] at hfiles
    obtain ⟨hproof, hvk, hinputs, _⟩ := hfiles
    exact ⟨(), hversion, hproof, hvk, hinputs, hrun⟩

theorem checkProof_panic {host : Host} {proof : ProofBlob} {outputs : OutputBag}
    {vk : VkDocument} :
    checkProof host proof outputs vk = .error .panic ↔
      DiagnosticUncuttable host proof outputs vk := by
  unfold checkProof DiagnosticUncuttable
  simp only [bind_error, fromOption_error, fromOption_ok, mapError_error, mapError_ok,
    ensure_error, reduceCtorEq, and_false, exists_false, false_or, or_false]
  refine ⟨fun h => ?_, fun h => ?_⟩
  · obtain ⟨bb, hbb, _, hversion, dir, hdir, _, hproof, _, hvk, _, hinputs, e, hrun, hpanic⟩ := h
    cases e with
    | error e => cases hpanic
    | panic =>
      obtain ⟨_, hfiles, exit, hexit⟩ := bbVerify_panic.mp hrun
      refine ⟨dir, exit, hbb ▸ rfl, hversion, hdir, fun name hname => ⟨?_, hfiles name hname⟩, hexit⟩
      simp only [List.mem_cons, List.not_mem_nil, or_false] at hname
      rcases hname with rfl | rfl | rfl
      · exact hproof
      · exact hvk
      · exact hinputs
  · obtain ⟨dir, exit, hbb, hversion, hdir, hfiles, hexit⟩ := h
    obtain ⟨bb, hbb⟩ := Option.isSome_iff_exists.mp hbb
    have hrun : bbVerify host bb dir (proofDocument proof vk) vk (publicInputsDocument outputs)
        = .error .panic :=
      bbVerify_panic.mpr ⟨hversion, fun name hname => (hfiles name hname).2, exit, hexit⟩
    simp only [List.forall_mem_cons] at hfiles
    obtain ⟨⟨hproof, _⟩, ⟨hvk, _⟩, ⟨hinputs, _⟩, _⟩ := hfiles
    exact ⟨bb, hbb, (), hversion, dir, hdir, (), hproof, (), hvk, (), hinputs, .panic, hrun, rfl⟩

/-! ## the verifier -/

namespace UltraHonkVerifier
variable {host : Host} {v : UltraHonkVerifier} {r : VerificationRequest}

/-- the checks in front of the state reference pass, and find the key -/
def Resolves (host : Host) (v : UltraHonkVerifier) (r : VerificationRequest) (vk : VkDocument) :
    Prop :=
  (r.proof.format.tag = proofFormatTag ∧ r.backend = ultraHonkId) ∧
  VerificationKeyIdPolicy.parse r.verificationKeyId.id
    = .ok (r.circuit, r.circuitVersion, r.artifactChecksum) ∧
  v.store.get host.disk r.verificationKeyId = .ok vk ∧
  r.proof.bytes ≠ [] ∧ r.proof.bytes.length % wordBytes = 0

/-- the verifier panics exactly when it comes to a cut that fails -/
theorem verify_panic_iff : v.verify host r = .error .panic ↔
    ∃ vk, Resolves host v r vk ∧
      (RootUncuttable r ∨ StateAgrees r ∧
        DiagnosticUncuttable host r.proof r.publicOutputs vk) := by
  unfold verify
  rw [conclude_panic]
  unfold checks
  simp only [bind_error, mapError_error, mapError_ok, ensure_error, ensure_ok, reduceCtorEq,
    and_false, exists_false, false_or, exists_const, checkState_panic, checkState_ok,
    checkProof_panic, Prod.exists]
  refine ⟨fun h => ?_, fun h => ?_⟩
  · obtain ⟨hroute, circuit, version, artifact, hparse, hcircuit, hversion, hartifact, hrest⟩ := h
    subst hcircuit hversion hartifact
    rcases hrest with ⟨e, _, hhalt⟩ | ⟨vk, hvk, hwords, hcut⟩
    · cases e <;> cases hhalt
    · exact ⟨vk, ⟨hroute, hparse, hvk, hwords⟩, hcut⟩
  · obtain ⟨vk, ⟨hroute, hparse, hvk, hwords⟩, hcut⟩ := h
    exact ⟨hroute, _, _, _, hparse, rfl, rfl, rfl, .inr ⟨vk, hvk, hwords, hcut⟩⟩

end UltraHonkVerifier

end Crucible
