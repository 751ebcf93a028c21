import Crucible.Cli.Prove
import Crucible.Lib.Utf8
import Crucible.Mock.Panics
import Crucible.Vectors.Catalog
import Crucible.Vectors.Requests
import Mathlib.Data.Nat.Digits.Defs

/-!
# Judging the catalog of vectors (`cli/src/commands/vectors.rs`)

The command proves each vector with the mock prover, and verifies the proofs of those that are
expected to verify.

* `VectorsEnv.judge`, `VectorsEnv.run`   one vector, and the command;
* `judge_ok`            a vector passes when it makes a request that passes the checks of the
                        service: whether it is expected to verify makes no difference;
* `run_vectors_iff`     what the verdict of the command says.
-/

namespace Crucible
open Checked Files Serde Text

def ProverError.message : ProverError → String
  | .noProviderAvailable => "no provider available for circuit/backend combination"
  | .provider reason => s!"provider error: {reason}"
  | .verificationFailed reason => s!"local verification could not run: {reason}"
  | .notVerified (some failure) =>
    s!"generated proof did not verify locally: Some({failure.debug})"
  | .notVerified none => "generated proof did not verify locally: None"

/-- what the command finds on the machine, with the catalog -/
structure VectorsEnv where
  catalog : CatalogDir
  text : JsonText
  sha256 : List UInt8 → List UInt8

namespace VectorsEnv
variable (env : VectorsEnv)

def verify : Verifies := MockVerifier.new.verify (.of env.sha256 env.text)

def service : ProverService :=
  ProveEnv.serviceOf (MockProver.new.provider env.sha256 env.text) env.verify

def judge (vector : TestVector) : Except (Fault String) Unit := do
  let r ← fromOption .panic vector.toRequest
  r.validate.mapError (.map fun e => s!"request is structurally invalid: {e.message}")
  let response ← (env.service.prove r).mapError
    (.map fun e => s!"mock could not prove the well-formed request: {e.message}")
  if vector.expectVerification then do
    let outcome ← (env.verify (.fromResponse response)).mapError
      (.map fun e => s!"verifier failed to run: {e.message}")
    ensure outcome.verified (.error ("proof did not verify: " ++
      (outcome.failure.map VerificationFailure.message).getD "unknown"))
  else .ok ()

/-- the reason for which a vector fails is kept; a panic ends the command -/
def outcome (vector : TestVector) : Except (Fault String) (TestVector × Option String) :=
  match env.judge vector with
  | .ok () => .ok (vector, none)
  | .error (.error reason) => .ok (vector, some reason)
  | .error .panic => .error .panic

/-- the vectors of an operation; there must be one, if an operation is named -/
def selectVectors (op : Option String) (vectors : List TestVector) :
    Except String (List TestVector) :=
  match op with
  | none => .ok vectors
  | some name =>
    let selected := vectors.filter fun v => v.operation.asStr = name
    if selected.isEmpty then
      .error s!"no vectors found for operation `{name}` in `{displayPath env.catalog.path}`"
    else .ok selected

/-- `run_catalog`, with what it prints when nothing fails -/
def run (op : Option String) : Except (Fault String) (List String) := do
  let vectors ← (env.catalog.loadCatalog env.text).mapError
    (.map fun e => s!"cannot load catalog from `{displayPath env.catalog.path}`: {e}")
  let vectors ← (env.selectVectors op vectors).mapError .error
  let results ← vectors.mapM env.outcome
  let failed := results.filter fun result => result.2.isSome
  ensure (failed = [])
    (.error s!"{failed.length} of {vectors.length} vector(s) failed the mock tier")
  let valid := vectors.countP TestVector.expectVerification
  return vectors.map (fun v => s!"ok   {v.id} ({v.operation.asStr}/{v.category})") ++
    [s!"{vectors.length} vector(s) judged ({valid} valid, {vectors.length - valid} rejecting), " ++
        "all green through the mock tier",
      "circuit tier: cargo test -p crucible-tests --test vectors (requires nargo on PATH)"]

end VectorsEnv

/-! ## one vector -/

/-- the display of a version is short -/
theorem Version.byteLen_display_le (v : Version) : byteLen v.display.toList ≤ 32 := by
  have hdigits (n : UInt32) : byteLen (Nat.toDigits 10 n.toNat) ≤ 10 := by
    have hhex : (Nat.toDigits 10 n.toNat).all isHexDigit :=
      List.all_eq_true.mpr fun c hc => by
        have hdigit := isAsciiDigit_toDigits hc
        rw [isAsciiDigit, Bool.and_eq_true, decide_eq_true_eq, decide_eq_true_eq] at hdigit
        exact isHexDigit_of_lower (isLowerHex_iff.mpr (Or.inl hdigit))
    rw [byteLen_of_hexDigits hhex]
    exact Nat.toDigits_length 10 n.toNat 10 (by decide) (n.toNat_lt.trans (by decide))
  have hlist : v.display.toList = Nat.toDigits 10 v.major.toNat ++
      '.' :: (Nat.toDigits 10 v.minor.toNat ++ '.' :: Nat.toDigits 10 v.patch.toNat) := by
    simp only [display, String.toList_append, Nat.toString_eq_ofList_toDigits,
      String.toList_ofList, List.append_assoc]
    rfl
  have hdot : ('.' : Char).utf8Size = 1 := by decide
  have hmajor := hdigits v.major
  have hminor := hdigits v.minor
  have hpatch := hdigits v.patch
  rw [hlist, byteLen_append, byteLen_cons, byteLen_append, byteLen_cons, hdot]
  omega

section
variable {env : VectorsEnv} {vector : TestVector}

/-- the text layer reads back the envelopes of the mock, for the vectors that are to verify -/
def VectorsEnv.ReadsBack (env : VectorsEnv) (vector : TestVector) : Prop :=
  vector.expectVerification → ∀ r response, vector.toRequest = some r →
    MockProver.new.generate env.sha256 env.text r = .ok response →
    env.text.parse (env.text.write (toJson (MockVerifier.envelopeOf (.fromResponse response))))
      = .ok (toJson (MockVerifier.envelopeOf (.fromResponse response)))

theorem service_prove_ok {r : ProofRequest} {response : ProofResponse} :
    env.service.prove r = .ok response ↔ ProverService.preflight r = .ok () ∧
      MockProver.new.generate env.sha256 env.text r = .ok response := by
  constructor
  · intro h
    obtain ⟨p, ⟨hpre, hselect⟩, hgen⟩ := ProverService.dispatched_of_proveCore (mapError_ok.mp h)
    have hfind := (ProviderRegistry.select_ok.mp hselect).1
    obtain rfl := List.mem_singleton.mp (List.mem_of_find?_eq_some hfind)
    exact ⟨hpre, hgen⟩
  · rintro ⟨hpre, hgen⟩
    have hbackend : r.backend = mockBackend := (MockProver.generate_ok.mp hgen).2.1
    have hfind : env.service.registry.provider r.backend
        = some (MockProver.new.provider env.sha256 env.text) := by
      rw [hbackend]
      rfl
    have hdispatched : env.service.Dispatched r (MockProver.new.provider env.sha256 env.text) :=
      ⟨hpre, ProviderRegistry.select_ok.mpr ⟨hfind, rfl⟩⟩
    refine mapError_ok.mpr ?_
    rw [ProverService.proveCore_of_dispatched hdispatched]
    exact mapError_ok.mpr hgen

/-- the request of a vector, for the mock, under the circuit of its label -/
theorem toRequest_parts {r : ProofRequest} (h : vector.toRequest = some r) :
    r.backend = mockBackend ∧ r.circuit = vector.circuit := by
  obtain ⟨_, _, h⟩ := Option.bind_eq_some_iff.mp h
  obtain ⟨backend, hbackend, h⟩ := Option.bind_eq_some_iff.mp h
  have hmock : (BackendId.new BackendId.mock).toOption = some mockBackend := by decide
  obtain rfl := Option.some.inj (hmock.symm.trans hbackend)
  obtain rfl := Option.some.inj h
  exact ⟨rfl, rfl⟩

/-- a vector that loads is labelled with its circuit -/
theorem circuit_of_load {text : JsonText} {path : String} {content : Except String (List UInt8)}
    (h : TestVector.load text path content = .ok vector) :
    vector.circuit.id = vector.operation.asStr := by
  obtain ⟨_, _, _, _, _, _, _, _, _, _, hvalid⟩ := TestVector.load_ok h
  simp only [TestVector.validateStructure, bind_ok, ensure_ok, exists_const] at hvalid
  exact hvalid.2.1

/-- **A vector passes when it makes a request that passes the checks of the service**, whether it is
expected to verify or not. -/
theorem judge_ok (hsha : ∀ bytes, (env.sha256 bytes).length = 32)
    (hcircuit : vector.circuit.id = vector.operation.asStr) (htext : env.ReadsBack vector) :
    env.judge vector = .ok () ↔
      ∃ r, vector.toRequest = some r ∧ ProverService.preflight r = .ok () := by
  constructor
  · intro h
    simp only [VectorsEnv.judge, bind_ok, fromOption_ok, mapError_ok] at h
    obtain ⟨r, hr, _, _, response, hresponse, _⟩ := h
    exact ⟨r, hr, (service_prove_ok.mp hresponse).1⟩
  · rintro ⟨r, hr, hpre⟩
    obtain ⟨hbackend, hlabel⟩ := toRequest_parts hr
    have hvalid := (ProverService.preflight_ok.mp hpre).1
    have hfit : MockProver.NamesFit r := by
      have hop : byteLen vector.operation.asStr.toList ≤ 8 := by
        cases vector.operation <;> decide
      have hversion := r.circuitVersion.byteLen_display_le
      rw [MockProver.NamesFit, hlabel, hcircuit]
      omega
    obtain ⟨vkId, hid⟩ := MockProver.verificationKeyIdFor_isSome_iff.mpr hfit
    obtain ⟨response, hgen⟩ : ∃ response,
        MockProver.new.generate env.sha256 env.text r = .ok response :=
      ⟨_, MockProver.generate_ok.mpr ⟨hvalid, hbackend, vkId, hid, rfl⟩⟩
    refine bind_ok.mpr ⟨r, fromOption_ok.mpr hr, bind_ok.mpr ⟨(), mapError_ok.mpr hvalid, ?_⟩⟩
    refine bind_ok.mpr ⟨_, mapError_ok.mpr (service_prove_ok.mpr ⟨hpre, hgen⟩), ?_⟩
    split
    · next hexpected =>
      have hverify : env.verify (.fromResponse response) = .ok .positive := by
        rw [← contextOutcome_self response]
        exact verify_response hsha hgen (htext hexpected r response hr hgen) rfl
      exact bind_ok.mpr ⟨.positive, mapError_ok.mpr hverify, ensure_ok.mpr rfl⟩
    · rfl

end

/-! ## the command -/

section
variable {env : VectorsEnv} {op : Option String}

/-- the vectors that the command judges -/
def Selected (op : Option String) (vector : TestVector) : Prop :=
  ∀ name, op = some name → vector.operation.asStr = name

instance (op : Option String) (vector : TestVector) : Decidable (Selected op vector) :=
  match op with
  | none => .isTrue fun _ h => by cases h
  | some name => decidable_of_iff (vector.operation.asStr = name)
      ⟨fun h _ heq => Option.some.inj heq ▸ h, fun h => h name rfl⟩

theorem selectVectors_ok {vectors selected : List TestVector} :
    env.selectVectors op vectors = .ok selected ↔
      (∀ name, op = some name → ∃ vector ∈ vectors, vector.operation.asStr = name) ∧
        selected = vectors.filter fun vector => decide (Selected op vector) := by
  have hall (name : String) : (fun vector => decide (Selected (some name) vector))
      = fun vector : TestVector => decide (vector.operation.asStr = name) :=
    funext fun vector => decide_eq_decide.mpr
      ⟨fun h => h name rfl, fun h _ heq => Option.some.inj heq ▸ h⟩
  cases op with
  | none =>
    have hkeep : (vectors.filter fun vector => decide (Selected none vector)) = vectors :=
      List.filter_eq_self.mpr fun vector _ => decide_eq_true fun _ h => by cases h
    rw [hkeep, VectorsEnv.selectVectors, Except.ok.injEq, @eq_comm _ selected]
    exact ⟨fun h => ⟨fun _ h => (by cases h), h⟩, And.right⟩
  | some name =>
    rw [hall, VectorsEnv.selectVectors]
    split
    · next hempty =>
      refine iff_of_false (fun h => by cases h) (fun ⟨hsome, _⟩ => ?_)
      obtain ⟨vector, hmem, hname⟩ := hsome name rfl
      have hnone := List.filter_eq_nil_iff.mp (List.isEmpty_iff.mp hempty) vector hmem
      exact hnone (decide_eq_true hname)
    · next hnonempty =>
      rw [Except.ok.injEq, @eq_comm _ selected]
      refine ⟨fun h => ⟨fun name' heq => ?_, h⟩, And.right⟩
      obtain rfl := Option.some.inj heq
      obtain ⟨vector, hin⟩ := List.exists_mem_of_ne_nil _ (mt List.isEmpty_iff.mpr hnonempty)
      obtain ⟨hmem, hname⟩ := List.mem_filter.mp hin
      exact ⟨vector, hmem, of_decide_eq_true hname⟩

theorem outcome_ok {vector : TestVector} {result : TestVector × Option String} :
    env.outcome vector = .ok result ∧ result.2 = none ↔
      env.judge vector = .ok () ∧ result = (vector, none) := by
  unfold VectorsEnv.outcome
  cases env.judge vector with
  | ok w =>
    simp only [Except.ok.injEq, true_and]
    exact ⟨fun h => h.1.symm, fun h => ⟨h.symm, congrArg Prod.snd h⟩⟩
  | error fault =>
    refine iff_of_false (fun ⟨houtcome, hnone⟩ => ?_) (fun h => by cases h.1)
    cases fault with
    | panic => cases houtcome
    | error reason =>
      obtain rfl := Except.ok.inj houtcome
      cases hnone

/-- nothing failed when every vector passes -/
theorem outcomes_ok {vectors : List TestVector} :
    (∃ results, vectors.mapM env.outcome = .ok results ∧
      results.filter (fun result => result.2.isSome) = []) ↔
      ∀ vector ∈ vectors, env.judge vector = .ok () := by
  constructor
  · rintro ⟨results, hresults, hnone⟩ vector hmem
    obtain ⟨result, hin, houtcome⟩ := exists_of_forall₂ (mapM_ok hresults) hmem
    have hresult : result.2 = none := by
      simpa using List.filter_eq_nil_iff.mp hnone result hin
    exact (outcome_ok.mp ⟨houtcome, hresult⟩).1
  · intro hall
    have hpass : ∀ vector ∈ vectors, ∃ result, env.outcome vector = .ok result ∧ result.2 = none :=
      fun vector hmem => ⟨_, outcome_ok.mpr ⟨hall vector hmem, rfl⟩⟩
    obtain ⟨results, hresults⟩ := forall₂_of_exists hpass
    refine ⟨results, mapM_of_forall₂ (hresults.imp fun _ _ h => h.1), ?_⟩
    refine List.filter_eq_nil_iff.mpr fun result hin => ?_
    obtain ⟨_, _, _, hnone⟩ := exists_of_forall₂ hresults.flip hin
    simp [hnone]

/-- **What the verdict of `vectors run` says.**  Over any tree of files the command succeeds when
every vector file below the catalog loads, the operation that it is asked for has one, and every
vector of it makes a request that passes the checks of the service.  What the vectors are expected
to do has no part in it. -/
theorem run_vectors_iff {entries : List (Name × Node)}
    (hroot : env.catalog.root = .ok (.dir entries none)) (hlisted : Listable (.dir entries none))
    (hsha : ∀ bytes, (env.sha256 bytes).length = 32)
    (htext : ∀ names vector, HasVector (.dir entries none) names →
      env.catalog.loadAt env.text entries names = .ok vector → env.ReadsBack vector) :
    (∃ lines, env.run op = .ok lines) ↔
      (∀ names, HasVector (.dir entries none) names →
        ∃ vector, env.catalog.loadAt env.text entries names = .ok vector) ∧
      (∀ name, op = some name → ∃ names vector, HasVector (.dir entries none) names ∧
        env.catalog.loadAt env.text entries names = .ok vector ∧ vector.operation.asStr = name) ∧
      ∀ names vector, HasVector (.dir entries none) names →
        env.catalog.loadAt env.text entries names = .ok vector → Selected op vector →
          ∃ r, vector.toRequest = some r ∧ ProverService.preflight r = .ok () := by
  obtain ⟨hloads, hvectors⟩ :
      ((∃ vectors, env.catalog.loadCatalog env.text = .ok vectors) ↔ _) ∧ _ :=
    loadCatalog_iff hroot hlisted
  have hjudge : ∀ names vector, HasVector (.dir entries none) names →
      env.catalog.loadAt env.text entries names = .ok vector → (env.judge vector = .ok () ↔
        ∃ r, vector.toRequest = some r ∧ ProverService.preflight r = .ok ()) :=
    fun names vector hvector hload =>
      judge_ok hsha (circuit_of_load hload) (htext names vector hvector hload)
  have hrun : (∃ lines, env.run op = .ok lines) ↔
      ∃ vectors, env.catalog.loadCatalog env.text = .ok vectors ∧
        ∃ selected, env.selectVectors op vectors = .ok selected ∧
          ∃ results, selected.mapM env.outcome = .ok results ∧
            results.filter (fun result => result.2.isSome) = [] := by
    simp only [VectorsEnv.run, bind_ok, mapError_ok, ensure_ok, pure_ok, exists_const]
    constructor
    · rintro ⟨_, vectors, hload, selected, hselect, results, hresults, hnone, _⟩
      exact ⟨vectors, hload, selected, hselect, results, hresults, hnone⟩
    · rintro ⟨vectors, hload, selected, hselect, results, hresults, hnone⟩
      exact ⟨_, vectors, hload, selected, hselect, results, hresults, hnone, rfl⟩
  simp only [hrun, outcomes_ok, selectVectors_ok]
  constructor
  · rintro ⟨vectors, hload, selected, ⟨hsome, rfl⟩, hpass⟩
    have hmem := hvectors vectors hload
    refine ⟨hloads.mp ⟨vectors, hload⟩, fun name hname => ?_, ?_⟩
    · obtain ⟨vector, hin, hop⟩ := hsome name hname
      obtain ⟨names, hvector, hat⟩ := (hmem vector).mp hin
      exact ⟨names, vector, hvector, hat, hop⟩
    · intro names vector hvector hat hsel
      refine (hjudge names vector hvector hat).mp (hpass vector ?_)
      exact List.mem_filter.mpr ⟨(hmem vector).mpr ⟨names, hvector, hat⟩, decide_eq_true hsel⟩
  · rintro ⟨hall, hsome, hrequests⟩
    obtain ⟨vectors, hload⟩ := hloads.mpr hall
    have hmem := hvectors vectors hload
    refine ⟨vectors, hload, _, ⟨fun name hname => ?_, rfl⟩, fun vector hin => ?_⟩
    · obtain ⟨names, vector, hvector, hat, hop⟩ := hsome name hname
      exact ⟨vector, (hmem vector).mpr ⟨names, hvector, hat⟩, hop⟩
    · obtain ⟨hin, hsel⟩ := List.mem_filter.mp hin
      obtain ⟨names, hvector, hat⟩ := (hmem vector).mp hin
      refine (hjudge names vector hvector hat).mpr ?_
      exact hrequests names vector hvector hat (of_decide_eq_true hsel)

end

/-- a catalog of one vector, a transfer of zeros -/
def zerosEntries : List (Name × Node) :=
  [("zeros.json".toUTF8.data.toList,
    .file (.ok (toJson zerosVector).compact.toUTF8.data.toList))]

def zerosCatalog : VectorsEnv where
  catalog :=
    { path := ["test-vectors"]
      root := .ok (.dir zerosEntries none)
      lossy := Utf8.toStringLossy }
  text := zerosText
  sha256 := transferSha256

theorem zeros_loadAt {names : List Name} (h : HasVector (.dir zerosEntries none) names) :
    zerosCatalog.catalog.loadAt zerosCatalog.text zerosEntries names = .ok zerosLoaded := by
  obtain ⟨name, node, hmem, hnames⟩ := (hasVector_dir (by decide)).mp h
  obtain ⟨rfl, rfl⟩ := Prod.mk.inj (List.mem_singleton.mp hmem)
  rcases hnames with ⟨rfl, _⟩ | ⟨rest, _, hne, hbelow⟩
  · have hparse : zerosText.parse (toJson zerosVector).compact.toUTF8.data.toList
        = (JsonText.knowing (toJson zerosVector)).parse
          (toJson zerosVector).compact.toUTF8.data.toList := by
      simp only [zerosText, JsonText.knowing, if_true]
    have hload : TestVector.load (.knowing (toJson zerosVector)) "test-vectors/zeros.json"
        (.ok (toJson zerosVector).compact.toUTF8.data.toList) = .ok zerosLoaded := by
      decide +kernel
    have hpath : zerosCatalog.catalog.display ["zeros.json".toUTF8.data.toList]
        = "test-vectors/zeros.json" := by decide +kernel
    rw [CatalogDir.loadAt, hpath]
    exact (TestVector.load_congr hparse).trans hload
  · obtain ⟨first, rest, rfl⟩ := List.exists_cons_of_ne_nil hne
    obtain ⟨_, _, _, hfound, _⟩ := hbelow
    cases hfound

theorem zeros_preflight : ProverService.preflight zerosRequest = .ok () := by
  obtain ⟨_, _, hcore, _⟩ := ProverService.proveEnvelopedAndVerify_ok zeros_proves
  obtain ⟨hprove, _⟩ := ProverService.proveAndVerifyCore_ok hcore
  obtain ⟨_, ⟨hpre, _⟩, _⟩ := ProverService.dispatched_of_proveCore hprove
  exact hpre

theorem zeros_readsBack : zerosCatalog.ReadsBack zerosLoaded := by
  intro _ r response hr hgen
  obtain rfl := Option.some.inj (zeros_request.symm.trans hr)
  obtain ⟨_, _, vkId, hid, rfl⟩ := MockProver.generate_ok.mp hgen
  have hkey : MockProver.verificationKeyIdFor zerosRequest.circuit zerosRequest.circuitVersion
      = some ⟨"mock-vk/transfer/0.1.0"⟩ := by decide
  obtain rfl := Option.some.inj (hkey.symm.trans hid)
  have hpayload : MockVerifier.envelopeOf (.fromResponse (MockProver.new.respond
      zerosCatalog.sha256 zerosCatalog.text zerosRequest ⟨"mock-vk/transfer/0.1.0"⟩))
      = transferEnvelope := by decide +kernel
  rw [hpayload]
  exact zeros_parse.1

/-- the catalog passes, for the operation it has -/
theorem run_vectors_iff_zeros : (∃ lines, zerosCatalog.run (some "transfer") = .ok lines) ∧
    ¬ ∃ lines, zerosCatalog.run (some "merge") = .ok lines := by
  have hlisted : Listable (.dir zerosEntries none) :=
    ⟨by decide, trivial, trivial⟩
  have hiff (op : Option String) : (∃ lines, zerosCatalog.run op = .ok lines) ↔ _ :=
    run_vectors_iff rfl hlisted transferSha256_length fun names vector hvector hload => by
      obtain rfl := Except.ok.inj ((zeros_loadAt hvector).symm.trans hload)
      exact zeros_readsBack
  have hvector : HasVector (.dir zerosEntries none) ["zeros.json".toUTF8.data.toList] :=
    ⟨_, _, rfl, rfl, by decide⟩
  constructor
  · refine (hiff _).mpr ⟨fun names h => ⟨_, zeros_loadAt h⟩, fun name hname => ?_, ?_⟩
    · obtain rfl := Option.some.inj hname
      exact ⟨_, _, hvector, zeros_loadAt hvector, rfl⟩
    · intro names vector h hload _
      obtain rfl := Except.ok.inj ((zeros_loadAt h).symm.trans hload)
      exact ⟨zerosRequest, zeros_request, zeros_preflight⟩
  · intro hrun
    obtain ⟨_, hsome, _⟩ := (hiff _).mp hrun
    obtain ⟨names, vector, h, hload, hop⟩ := hsome "merge" rfl
    obtain rfl := Except.ok.inj ((zeros_loadAt h).symm.trans hload)
    exact absurd hop (by decide)

end Crucible
