import Crucible.UltraHonk.Verifier

/-!
# What a verified UltraHonk request is bound to

`bb` checks the submitted words by position, `checkState` finds two of them by name, and nothing
compares the names with the circuit's surface.  So:

* `root_bound_iff`     a verified proof is bound to the root it was cut for, under every state
                       reference, exactly when the two names stand where the circuit has its
                       root words;
* `names_bound_iff`    a verified request is also verified under any other names, unless these
                       make `checkState` find words that are not the halves of the root.
-/

namespace Crucible
open Checked Text

/-! ## renaming a request -/

/-- the same words, under the names `ns` -/
def Bag.rename {α : Type} (b : Bag α) (ns : List String) : Bag α := ⟨ns.zip b.values⟩

theorem Bag.rename_names {α : Type} {b : Bag α} {ns : List String}
    (h : ns.length = b.entries.length) : (b.rename ns).names = ns := by
  have hlen : ns.length ≤ b.values.length := by simp [Bag.values, h]
  exact List.map_fst_zip hlen

theorem Bag.rename_values {α : Type} {b : Bag α} {ns : List String}
    (h : ns.length = b.entries.length) : (b.rename ns).values = b.values := by
  have hlen : b.values.length ≤ ns.length := by simp [Bag.values, h]
  exact List.map_snd_zip hlen

/-! ## the transfer that the counterexamples submit -/

def transferChecksum : String :=
  "aaaaaaaaaaaaaaaaaaaaaaaaaaaaaaaaaaaaaaaaaaaaaaaaaaaaaaaaaaaaaaaa"

def transferKey : VkDocument where
  vk := ["0x01"]
  hash := "0x02"
  bbVersion := testedBbVersion
  scheme := schemeUltraHonk

def transferRootHalf : FieldValue := ⟨"abababababababababababababababab", by decide⟩

/-- the public words, parameters then returns -/
def transferWords : List FieldValue :=
  [⟨"746f6b656e", by decide⟩, ⟨"687194", by decide⟩, ⟨"1ce5e6", by decide⟩,
    ⟨"76db33", by decide⟩, transferRootHalf, transferRootHalf,
    ⟨"c15c28", by decide⟩, ⟨"1b98de", by decide⟩, ⟨"153807", by decide⟩]

def transferState : StateReference where
  root := ⟨"abababababababababababababababababababababababababababababababab"⟩
  sequence := 7
  label := none

/-- the request as an honest prover submits it -/
def transferRequest : VerificationRequest where
  requestId := ⟨"transfer-valid-001"⟩
  proof := { format := ⟨proofFormatTag⟩, bytes := List.replicate 32 1 }
  circuit := .forOperation .transfer
  circuitVersion := { major := 0, minor := 1, patch := 0 }
  backend := ultraHonkId
  verificationKeyId := ⟨"uhk/transfer/0.1.0/" ++ transferChecksum⟩
  artifactChecksum := ⟨transferChecksum⟩
  publicOutputs := ⟨(expectations .transfer).publicNames.zip transferWords⟩
  stateReference := some transferState

/-- a machine on which the store holds one key, and `bb` accepts the proof and the words of
`transferRequest` under it and nothing else -/
def transferHost : Host where
  disk :=
    { cwd := []
      file := fun path =>
        if path = ["store", "transfer", "0.1.0", transferChecksum ++ ".json"] then some (.ok "vk")
        else none
      device := fun _ => none
      parseVk := fun text => if text = "vk" then .ok transferKey else .error "expected value"
      sha256 := fun _ => List.replicate 32 0 }
  binary := some "bb"
  version := .ok { raw := testedBbVersion, major := 6 }
  tempdir := .ok ["tmp"]
  write := fun _ => .ok ()
  isFile := fun _ => true
  run := fun proof vk publicInputs => .ok
    { success := proof = proofDocument transferRequest.proof transferKey ∧ vk = transferKey ∧
        publicInputs = publicInputsDocument transferRequest.publicOutputs
      stderr := "" }

def transferVerifier : UltraHonkVerifier := ⟨⟨["store"]⟩⟩

theorem transfer_content : transferVerifier.Content transferHost transferRequest := by
  have hparse : VerificationKeyIdPolicy.parse transferRequest.verificationKeyId.id
      = .ok (transferRequest.circuit, transferRequest.circuitVersion,
        transferRequest.artifactChecksum) := by decide +kernel
  have hkey : transferVerifier.store.get transferHost.disk transferRequest.verificationKeyId
      = .ok transferKey := VkStore.get_ok.mpr ⟨rfl, "vk", by decide +kernel, rfl⟩
  have hmajor : minBbMajor ≤ 6 := by decide
  have hproof : checkProof transferHost transferRequest.proof transferRequest.publicOutputs
      transferKey = .ok () := by
    simp [checkProof, bbVerify, transferHost, checkVersion, requireFile, hmajor]
  exact ⟨⟨rfl, rfl⟩, hparse, transferKey, hkey, ⟨List.cons_ne_nil _ _, rfl⟩, hproof⟩

theorem transfer_halves :
    transferState.rootHalves = some (transferRootHalf, transferRootHalf) := by decide +kernel

theorem transfer_verified : Verified (transferVerifier.verify transferHost) transferRequest := by
  refine verified_iff.mpr ⟨transfer_content, ?_⟩
  intro hi lo hhi hlo
  obtain rfl : transferRootHalf = hi := Option.some.inj hhi
  obtain rfl : transferRootHalf = lo := Option.some.inj hlo
  exact ⟨transferState, rfl, transfer_halves⟩

/-! ## the state root -/

/-- the request references a state, and the words at the positions of the root halves in the
surface of `operation` are the halves of its root -/
def BoundToRoot (operation : Operation) (r : VerificationRequest) : Prop :=
  ∃ state hi lo, r.stateReference = some state ∧ state.rootHalves = some (hi, lo) ∧
    pinnedWord operation "root_hi" r.publicOutputs.values = some hi ∧
    pinnedWord operation "root_lo" r.publicOutputs.values = some lo

/-- the words found under the names of the root halves are those at their positions -/
def NamesAtPins (operation : Operation) (outputs : OutputBag) : Prop :=
  ∃ hi lo, outputs.get "root_hi" = some hi ∧ outputs.get "root_lo" = some lo ∧
    pinnedWord operation "root_hi" outputs.values = some hi ∧
    pinnedWord operation "root_lo" outputs.values = some lo

section
variable {host : Host} {v : UltraHonkVerifier} {r : VerificationRequest}

theorem verified_withState {state : Option StateReference} (h : Verified (v.verify host) r)
    (hagrees : StateAgrees { r with stateReference := state }) :
    Verified (v.verify host) { r with stateReference := state } :=
  verified_iff.mpr ⟨(content_congr rfl).mpr (verified_iff.mp h).1, hagrees⟩

/-- **A verified request is bound to the root its words carry exactly when the names stand at
their positions.**  Where one of the two names is missing the proof is verified under every state
reference, and with none. -/
theorem root_bound_iff {operation : Operation} (h : Verified (v.verify host) r) :
    (∀ state, Verified (v.verify host) { r with stateReference := state } →
      BoundToRoot operation { r with stateReference := state }) ↔
    NamesAtPins operation r.publicOutputs := by
  constructor
  · intro hall
    -- without the two names the check is skipped, so no state reference at all passes it
    have hfound : ∃ hi lo, r.publicOutputs.get "root_hi" = some hi ∧
        r.publicOutputs.get "root_lo" = some lo := by
      by_contra hno
      have hagrees : StateAgrees { r with stateReference := none } :=
        fun hi lo hhi hlo => absurd ⟨hi, lo, hhi, hlo⟩ hno
      obtain ⟨state, _, _, hs, _⟩ := hall none (verified_withState h hagrees)
      cases hs
    obtain ⟨hi, lo, hhi, hlo⟩ := hfound
    obtain ⟨state, hs, hhalves⟩ := (verified_iff.mp h).2 hi lo hhi hlo
    obtain ⟨state', hi', lo', hs', hhalves', hp, hp'⟩ := hall r.stateReference h
    rw [hs] at hs'
    obtain rfl := Option.some.inj hs'
    rw [hhalves] at hhalves'
    obtain ⟨rfl, rfl⟩ := Prod.mk.inj (Option.some.inj hhalves')
    exact ⟨hi, lo, hhi, hlo, hp, hp'⟩
  · rintro ⟨hi, lo, hhi, hlo, hp, hp'⟩ state hver
    obtain ⟨s, hs, hhalves⟩ := (verified_iff.mp hver).2 hi lo hhi hlo
    exact ⟨s, hi, lo, hs, hhalves, hp, hp'⟩

theorem root_bound_iff_transfer :
    (∀ state, Verified (transferVerifier.verify transferHost)
        { transferRequest with stateReference := state } →
      BoundToRoot .transfer { transferRequest with stateReference := state }) ↔
    NamesAtPins .transfer transferRequest.publicOutputs :=
  root_bound_iff transfer_verified

/-- the same proof and words without the two names, and without a state reference -/
def unnamedTransfer : VerificationRequest :=
  { transferRequest with
    publicOutputs := transferRequest.publicOutputs.rename (List.replicate 9 "word")
    stateReference := none }

theorem unnamed_transfer_unbound :
    unnamedTransfer.circuit = .forOperation .transfer ∧
    Verified (transferVerifier.verify transferHost) unnamedTransfer ∧
    ¬ BoundToRoot .transfer unnamedTransfer := by
  have hvalues : unnamedTransfer.publicOutputs.values = transferRequest.publicOutputs.values :=
    Bag.rename_values rfl
  refine ⟨rfl, verified_iff.mpr ⟨(content_congr hvalues).mpr transfer_content, ?_⟩, ?_⟩
  · intro hi lo hhi
    cases hhi
  · rintro ⟨state, _, _, hs, _⟩
    cases hs

/-! ## the names -/

/-- the request with its words under other names -/
def VerificationRequest.rename (r : VerificationRequest) (ns : List String) :
    VerificationRequest :=
  { r with publicOutputs := r.publicOutputs.rename ns }

/-- both root names are found, on words that are not the halves of the referenced root -/
def RootConflict (r : VerificationRequest) : Prop :=
  ∃ hi lo, r.publicOutputs.get "root_hi" = some hi ∧ r.publicOutputs.get "root_lo" = some lo ∧
    ∀ state, r.stateReference = some state → state.rootHalves ≠ some (hi, lo)

theorem rootConflict_iff : RootConflict r ↔ ¬ StateAgrees r := by
  unfold RootConflict StateAgrees
  push Not
  exact Iff.rfl

theorem verified_rename_iff {ns : List String} (h : Verified (v.verify host) r)
    (hlen : ns.length = r.publicOutputs.entries.length) :
    Verified (v.verify host) (r.rename ns) ↔ ¬ RootConflict (r.rename ns) := by
  rw [rootConflict_iff, not_not, verified_iff]
  exact and_iff_right ((content_congr (Bag.rename_values hlen)).mpr (verified_iff.mp h).1)

theorem publicNames_ne_replicate (operation : Operation) (n : Nat) :
    List.replicate n "" ≠ (expectations operation).publicNames := by
  intro heq
  have hvalid := (expectations_names operation).1
  cases n with
  | zero => cases operation <;> exact absurd heq (by decide)
  | succ n =>
    have hmem : "" ∈ (expectations operation).publicNames :=
      heq ▸ List.mem_cons_self
    exact absurd (hvalid "" (List.mem_append_right _ hmem)) (by decide)

/-- **A verified request is verified under every naming that makes no conflict with the root**:
so a naming other than the circuit's is refused exactly when it makes one, and there always is a
wrong naming that is not refused. -/
theorem names_bound_iff {operation : Operation} (h : Verified (v.verify host) r) :
    (∀ ns : List String, ns.length = r.publicOutputs.entries.length →
      ((Verified (v.verify host) (r.rename ns) → ns = (expectations operation).publicNames) ↔
        (ns = (expectations operation).publicNames ∨ RootConflict (r.rename ns)))) ∧
    ∃ ns : List String, ns.length = r.publicOutputs.entries.length ∧
      Verified (v.verify host) (r.rename ns) ∧ ns ≠ (expectations operation).publicNames := by
  constructor
  · intro ns hlen
    rw [verified_rename_iff h hlen, imp_iff_or_not, not_not]
  · refine ⟨List.replicate r.publicOutputs.entries.length "", List.length_replicate, ?_,
      publicNames_ne_replicate operation _⟩
    rw [verified_rename_iff h List.length_replicate]
    rintro ⟨hi, lo, hhi, _⟩
    have hnames : (r.publicOutputs.rename
        (List.replicate r.publicOutputs.entries.length "")).get "root_hi" = none := by
      refine Bag.get_eq_none ?_
      rw [Bag.rename_names List.length_replicate, List.mem_replicate]
      exact fun hmem => absurd hmem.2 (by decide)
    cases hnames.symm.trans hhi

end

theorem names_bound_iff_transfer :
    (∀ ns : List String, ns.length = transferRequest.publicOutputs.entries.length →
      ((Verified (transferVerifier.verify transferHost) (transferRequest.rename ns) →
          ns = (expectations .transfer).publicNames) ↔
        (ns = (expectations .transfer).publicNames ∨
          RootConflict (transferRequest.rename ns)))) ∧
    ∃ ns : List String, ns.length = transferRequest.publicOutputs.entries.length ∧
      Verified (transferVerifier.verify transferHost) (transferRequest.rename ns) ∧
      ns ≠ (expectations .transfer).publicNames :=
  names_bound_iff transfer_verified

/-- the names of the recipient's and the change commitment, exchanged -/
def swappedNames : List String :=
  ["token_address", "sender_address", "recipient_address", "old_sender_commitment", "root_hi",
    "root_lo", "change_commitment", "recipient_commitment", "nullifier"]

theorem swapped_transfer_misnamed :
    Verified (transferVerifier.verify transferHost) transferRequest ∧
    Verified (transferVerifier.verify transferHost) (transferRequest.rename swappedNames) ∧
    (transferRequest.rename swappedNames).publicOutputs.names ≠
      (expectations .transfer).publicNames ∧
    (transferRequest.rename swappedNames).publicOutputs.get "recipient_commitment" ≠
      transferRequest.publicOutputs.get "recipient_commitment" := by
  refine ⟨transfer_verified, (verified_rename_iff transfer_verified rfl).mpr ?_, ?_, ?_⟩
  · rintro ⟨hi, lo, hhi, hlo, hno⟩
    obtain rfl : transferRootHalf = hi := Option.some.inj hhi
    obtain rfl : transferRootHalf = lo := Option.some.inj hlo
    exact hno transferState rfl transfer_halves
  · decide
  · decide

end Crucible
