import Crucible.Cli.Untrusted
import Crucible.UltraHonk.Failures
import Crucible.Vectors.Requests

/-!
# The `prove` command (`cli/src/commands/prove.rs`)

A vector is loaded and made into a request, a service of one backend proves it and verifies its own
proof, and the envelope is written to a file.

* `ProveEnv.run`           the envelope or the message of the command, and the disk it leaves;
* `serviceOf_ok`           an envelope comes from a response that the verifier has accepted;
* `verify_written_iff`     the file of the envelope is read back, and the verdict on it can only be
                           lost with the key;
* `proved_file_verifies`   so what `prove` has written, `verify` accepts.
-/

namespace Crucible
open Checked Serde Text

/-! ## messages -/

/-- `Debug` of a failure -/
def VerificationFailure.debug : VerificationFailure → String
  | .invalidProof => "InvalidProof"
  | .publicOutputMismatch => "PublicOutputMismatch"
  | .stateReferenceMismatch => "StateReferenceMismatch"
  | .wrongVerificationKey => "WrongVerificationKey"
  | .circuitMismatch => "CircuitMismatch"
  | .versionMismatch => "VersionMismatch"
  | .artifactChecksumMismatch => "ArtifactChecksumMismatch"
  | .backendMismatch => "BackendMismatch"
  | .missingStateBinding => "MissingStateBinding"

def CoreError.message : CoreError → String
  | .unknownBackend backend => s!"no provider is registered for backend `{backend.id}`"
  | .unsupportedCircuit backend circuit version =>
    s!"backend `{backend.id}` does not support circuit `{circuit.id}` at version {version.display}"
  | .invalidRequest reason => s!"invalid proof request: {reason}"
  | .generation reason => s!"proof generation failed: {reason}"
  | .envelope reason => s!"proof envelope error: {reason}"
  | .notVerified (some failure) => s!"proof did not verify locally: Some({failure.debug})"
  | .notVerified none => "proof did not verify locally: None"
  | .noVerifier => "no verifier is available to run the round-trip check"
  | .internal reason => s!"internal error: {reason}"

/-! ## the command -/

structure ProveArgs where
  op : String
  vector : List String
  backend : String
  out : Option (List String)
  vkStore : Option (List String)

/-- what the command finds on the machine; what it prints goes to no file of the disk -/
structure ProveEnv where
  text : JsonText
  machine : Machine
  circuits : List String
  /-- `CARGO_MANIFEST_DIR` -/
  manifestDir : List String

/-- `std::fs::read_to_string` -/
def Disk.readToString (disk : Disk) (path : List String) : Except String String :=
  match disk.file path, disk.device path with
  | some read, _ => read
  | none, some read => read
  | none, none => .error "No such file or directory (os error 2)"

namespace ProveEnv
variable (env : ProveEnv) (args : ProveArgs)

/-- `crucible-prover/<CARGO_PKG_VERSION>` -/
def producedBy : String := "crucible-prover/0.1.0"

/-- the directory of the key store, created on demand -/
def vkStoreOrDefault (explicit : Option (List String)) : Except String VkStore := do
  let dir := explicit.getD (env.manifestDir ++ ["..", "artifacts", "verification-keys"])
  (env.machine.writer.createDirAll dir).mapError fun e =>
    s!"cannot create verification-key store `{displayPath dir}`: {e}"
  return ⟨dir⟩

/-- the vector, and the request it makes -/
def request : Except (Fault String) (TestVector × ProofRequest) := do
  let path := displayPath args.vector
  let bytes := (env.machine.host.disk.readToString args.vector).map (·.toUTF8.data.toList)
  let vector ← (TestVector.load env.text path bytes).mapError
    (.map fun e => s!"cannot load vector `{path}`: {e}")
  ensure (vector.operation.asStr = args.op) (.error
    (s!"operation `{args.op}` does not match vector `{vector.id}` (operation " ++
      s!"{vector.operation.asStr})"))
  ensure vector.expectVerification (.error
    (s!"vector `{vector.id}` is a rejecting vector (expect_verification=false); proving is only " ++
      "meaningful for witnesses expected to verify"))
  let r ← fromOption .panic (vector.toRequestFor args.backend)
  return (vector, r)

/-- `UltraHonkConfig::new`: the pinned artifacts are next to the circuits -/
def ultraHonk (store : VkStore) : UltraHonkProvider where
  config :=
    { circuitsRoot := env.circuits
      artifactRoot := env.circuits ++ ["..", "artifacts", "circuits"]
      vkStore := store }

/-- `MockVerifier` and `MockProver` use the crates of the command -/
def mockCrates : MockCrates := .of env.machine.host.disk.sha256 env.text

/-- a service of one provider, with the verifier of its backend -/
def serviceOf (provider : Provider) (verify : Verifies) : ProverService where
  registry := ProviderRegistry.new.register provider
  localVerifier := some verify
  producedBy := producedBy

/-- the disk after the provider was asked, if the service asks it -/
def provenDisk (p : UltraHonkProvider) (r : ProofRequest) : Disk :=
  let m := env.machine
  let service := serviceOf (p.provider m) fun _ => .ok .positive
  match ProverService.preflight r, service.registry.select r with
  | .ok _, .ok _ => (p.generate m r).2
  | _, _ => m.host.disk

/-- the service of the backend, and the disk on which its verifier works -/
def service (r : ProofRequest) : Except String (ProverService × Disk) :=
  let m := env.machine
  if args.backend = "mock" then
    .ok (serviceOf (MockProver.new.provider m.host.disk.sha256 env.text)
      (MockVerifier.new.verify env.mockCrates), m.host.disk)
  else if args.backend = "ultrahonk" then do
    ensure (m.nargo.binary.isSome ∧ m.host.binary.isSome)
      ("ultrahonk proving requires nargo and bb on PATH (see scripts/check-bb.sh); use " ++
        "--backend mock for fast structural proving")
    let store ← env.vkStoreOrDefault args.vkStore
    let p := env.ultraHonk store
    let disk := env.provenDisk p r
    return (serviceOf (p.provider m) ((UltraHonkVerifier.mk store).verify { m.host with disk }),
      disk)
  else .error s!"unknown backend `{args.backend}` (expected `mock` or `ultrahonk`)"

/-- `<vector-id>.<backend>.proof.json`, unless another file is asked for -/
def outPath (vector : TestVector) : List String :=
  args.out.getD (split '/' s!"{vector.id}.{args.backend}.proof.json")

/-- the answer, and the disk that is left -/
def writeEnvelope (disk : Disk) (vector : TestVector) (envelope : ProofEnvelope) :
    Except String Unit × Disk :=
  let out := outPath args vector
  match envelope.toJson env.text with
  | .error e => (.error s!"serializing the proof envelope failed: {e.message}", disk)
  | .ok json =>
    let (answer, disk) := env.machine.writer.writeFile disk out json
    (answer.mapError fun e => s!"cannot write `{displayPath out}`: {e}", disk)

/-- the envelope or the message of the command, and the disk that is left -/
def run : Except (Fault String) ProofEnvelope × Disk :=
  match env.request args with
  | .error e => (.error e, env.machine.host.disk)
  | .ok (vector, r) =>
    match env.service args r with
    | .error e => (.error (.error e), env.machine.host.disk)
    | .ok (service, disk) =>
      match service.proveEnvelopedAndVerify r with
      | .error e => (.error (e.map fun e => s!"proving failed: {e.message}"), disk)
      | .ok envelope =>
        match env.writeEnvelope args disk vector envelope with
        | (.error e, left) => (.error (.error e), left)
        | (.ok _, written) => (.ok envelope, written)

/-- what is printed of an envelope that was written -/
def report (out : List String) (envelope : ProofEnvelope) : List String :=
  [s!"request     {envelope.metadata.requestId.id}",
    s!"circuit     {envelope.circuit.id} v{envelope.circuitVersion.display}",
    s!"backend     {envelope.backend.id}",
    s!"vk id       {envelope.verificationKeyId.id}",
    s!"public      {envelope.publicOutputs.entries.length} word(s)",
    "state       " ++ ((envelope.stateReference.map fun s => s!"root {s.root.hex}").getD "unbound"),
    "verified    yes (local round-trip)",
    s!"envelope    {displayPath out}"]

/-- `verify` of a file on the same machine, with the same key store -/
def verifyEnv (disk : Disk) (file : List String) : VerifyEnv where
  text := env.text
  path := displayPath file
  content := disk.readToString file
  crates := env.mockCrates
  host := { env.machine.host with disk }
  store := env.vkStoreOrDefault args.vkStore

variable {env args}

/-! ## what an envelope has been through -/

theorem run_ok {envelope : ProofEnvelope} {written : Disk} :
    env.run args = (.ok envelope, written) ↔ ∃ vector r service disk,
      env.request args = .ok (vector, r) ∧ env.service args r = .ok (service, disk) ∧
      service.proveEnvelopedAndVerify r = .ok envelope ∧
      env.writeEnvelope args disk vector envelope = (.ok (), written) := by
  unfold run
  constructor
  · intro h
    split at h
    · cases h
    · next vector r hrequest =>
      split at h
      · cases h
      · next service disk hservice =>
        split at h
        · cases h
        · next envelope' hprove =>
          split at h
          · cases h
          · next answer written' hwrite =>
            obtain ⟨henvelope, rfl⟩ := Prod.mk.inj h
            obtain rfl := Except.ok.inj henvelope
            exact ⟨vector, r, service, disk, hrequest, hservice, hprove, hwrite⟩
  · rintro ⟨vector, r, service, disk, hrequest, hservice, hprove, hwrite⟩
    simp only [hrequest, hservice, hprove, hwrite]

/-- a request is for the circuit of its label -/
theorem circuit_of_request {vector : TestVector} {r : ProofRequest}
    (h : env.request args = .ok (vector, r)) : r.circuit = .forOperation r.operation := by
  simp only [request, bind_ok, mapError_ok, ensure_ok, fromOption_ok, pure_ok, exists_const] at h
  obtain ⟨_, hload, _, _, _, hr, heq⟩ := h
  obtain ⟨rfl, rfl⟩ := Prod.mk.inj heq
  obtain ⟨_, _, _, _, _, _, _, _, _, _, hvalid⟩ := TestVector.load_ok hload
  simp only [TestVector.validateStructure, bind_ok, ensure_ok, exists_const] at hvalid
  obtain ⟨_, hcircuit, _⟩ := hvalid
  obtain ⟨_, _, hr⟩ := Option.bind_eq_some_iff.mp hr
  obtain ⟨_, _, hr⟩ := Option.bind_eq_some_iff.mp hr
  obtain rfl := Option.some.inj hr
  exact congrArg CircuitId.mk hcircuit

/-- an envelope comes from a response of the one provider, and the verifier has accepted it -/
theorem serviceOf_ok {provider : Provider} {verify : Verifies} {r : ProofRequest}
    {envelope : ProofEnvelope}
    (h : (serviceOf provider verify).proveEnvelopedAndVerify r = .ok envelope) :
    ∃ response, provider.generate r = .ok response ∧
      envelope = .fromResponse response r.operation producedBy ∧
      Verified verify (.ofEnvelope envelope) := by
  obtain ⟨response, outcome, hcore, rfl⟩ := ProverService.proveEnvelopedAndVerify_ok h
  obtain ⟨hprove, verify', hlocal, hverified⟩ := ProverService.proveAndVerifyCore_ok hcore
  obtain rfl := Option.some.inj hlocal
  obtain ⟨p, hdispatched, hgen⟩ := ProverService.dispatched_of_proveCore hprove
  have hfind := (ProviderRegistry.select_ok.mp hdispatched.2).1
  obtain rfl : p = provider := List.mem_singleton.mp (List.mem_of_find?_eq_some hfind)
  exact ⟨response, hgen, rfl, hverified⟩

theorem service_cases {r : ProofRequest} {service : ProverService} {disk : Disk}
    (h : env.service args r = .ok (service, disk)) :
    (args.backend = "mock" ∧
      service = serviceOf (MockProver.new.provider env.machine.host.disk.sha256 env.text)
        (MockVerifier.new.verify env.mockCrates)) ∨
    (args.backend = "ultrahonk" ∧ ∃ store, env.vkStoreOrDefault args.vkStore = .ok store ∧
      service = serviceOf ((env.ultraHonk store).provider env.machine)
        ((UltraHonkVerifier.mk store).verify { env.machine.host with disk })) := by
  unfold ProveEnv.service at h
  by_cases hmock : args.backend = "mock"
  · rw [if_pos hmock] at h
    exact Or.inl ⟨hmock, (Prod.mk.inj (Except.ok.inj h)).1.symm⟩
  · rw [if_neg hmock] at h
    by_cases hultra : args.backend = "ultrahonk"
    · rw [if_pos hultra] at h
      obtain ⟨_, _, h⟩ := bind_ok.mp h
      obtain ⟨store, hstore, h⟩ := bind_ok.mp h
      obtain ⟨rfl, rfl⟩ := Prod.mk.inj (pure_ok.mp h)
      exact Or.inr ⟨hultra, store, hstore, rfl⟩
    · rw [if_neg hultra] at h
      cases h

theorem writeEnvelope_ok {disk written : Disk} {vector : TestVector} {envelope : ProofEnvelope}
    (h : env.writeEnvelope args disk vector envelope = (.ok (), written))
    (hregular : written.Regular (outPath args vector)) :
    written = disk.hold (outPath args vector) (.ok (env.text.render (toJson envelope))) := by
  let write := env.machine.writer.writeFile disk (outPath args vector)
    (env.text.render (toJson envelope))
  obtain ⟨hanswer, hwritten⟩ := Prod.mk.inj h
  have hok : write.1 = .ok () := mapError_ok.mp hanswer
  have hleft : write.2 = written := hwritten
  rw [← hleft] at hregular ⊢
  exact DiskWriter.writeFile_hold hregular (DiskWriter.writeFile_ok.mp hok)

end ProveEnv

/-! ## verdicts on other disks -/

/-- a verdict depends on the disk by the key of the request only -/
theorem UltraHonkVerifier.verify_congr {host : Host} {store : VkStore} {r : VerificationRequest}
    {disk disk' : Disk}
    (h : store.get disk' r.verificationKeyId = store.get disk r.verificationKeyId) :
    (UltraHonkVerifier.mk store).verify { host with disk := disk' } r
      = (UltraHonkVerifier.mk store).verify { host with disk } r := by
  have hproof (vk : VkDocument) : checkProof { host with disk := disk' } r.proof r.publicOutputs vk
      = checkProof { host with disk } r.proof r.publicOutputs vk := rfl
  unfold UltraHonkVerifier.verify UltraHonkVerifier.checks
  simp only [h, hproof]

/-- no verdict is positive where the key cannot be read -/
theorem UltraHonkVerifier.not_verified {host : Host} {store : VkStore} {r : VerificationRequest}
    (h : ∀ vk, store.get host.disk r.verificationKeyId ≠ .ok vk) :
    ¬ Verified ((UltraHonkVerifier.mk store).verify host) r := by
  intro hverified
  obtain ⟨⟨_, _, vk, hvk, _⟩, _⟩ := verified_iff.mp hverified
  exact h vk hvk

/-! ## what `verify` says of a file that `prove` has written -/

/-- the envelope says what was asked for -/
structure ProofEnvelope.Answers (envelope : ProofEnvelope) (r : ProofRequest) : Prop where
  requestId : envelope.metadata.requestId = r.requestId
  operation : envelope.operation = r.operation
  circuit : envelope.circuit = r.circuit
  circuitVersion : envelope.circuitVersion = r.circuitVersion
  backend : envelope.backend = r.backend
  stateReference : envelope.stateReference = r.stateReference

namespace ProveEnv
variable {env : ProveEnv} {args : ProveArgs} {envelope : ProofEnvelope} {r : ProofRequest}
  {disk written : Disk} {service : ProverService} {file : List String}

/-- the file is that of the key of the envelope -/
def Overwrites (env : ProveEnv) (args : ProveArgs) (written : Disk) (file : List String)
    (envelope : ProofEnvelope) : Prop :=
  args.backend = "ultrahonk" ∧ ∃ store, env.vkStoreOrDefault args.vkStore = .ok store ∧
    written.locate file = written.locate (store.pathFor written envelope.verificationKeyId)

theorem backend_of_generate {p : UltraHonkProvider} {m : Machine} {response : ProofResponse}
    (h : p.generate m r = (.ok response, disk)) : response.backend = ultraHonkId := by
  obtain ⟨_, _, _, hrespond⟩ := UltraHonkProvider.generate_ok.mp h
  obtain ⟨_, _, hresponse⟩ := bind_ok.mp hrespond
  obtain rfl := pure_ok.mp hresponse
  rfl

theorem answers_of_service (hservice : env.service args r = .ok (service, disk))
    (hprove : service.proveEnvelopedAndVerify r = .ok envelope) : envelope.Answers r := by
  rcases service_cases hservice with ⟨_, rfl⟩ | ⟨_, store, _, rfl⟩
  · obtain ⟨response, hgen, rfl, _⟩ := serviceOf_ok hprove
    obtain ⟨_, hbackend, vkId, _, rfl⟩ := MockProver.generate_ok.mp hgen
    exact ⟨rfl, rfl, rfl, rfl, hbackend.symm, rfl⟩
  · obtain ⟨response, hgen, rfl, _⟩ := serviceOf_ok hprove
    obtain ⟨named, hnamed, _, hrespond⟩ :=
      UltraHonkProvider.generate_ok.mp (Prod.ext hgen rfl)
    obtain ⟨_, _, _, _, hgate, _⟩ := UltraHonkProvider.proveNamed_ok.mp hnamed
    have hrequest := (UltraHonkProvider.gate_ok hgate).1
    simp only [UltraHonkProvider.checkRequest, bind_ok, ensure_ok, exists_const] at hrequest
    obtain ⟨_, _, hbackend, _⟩ := hrequest
    obtain ⟨bytes, _, hresponse⟩ := bind_ok.mp hrespond
    obtain rfl := pure_ok.mp hresponse
    exact ⟨rfl, rfl, rfl, rfl, hbackend.symm, rfl⟩

/-- the envelope that was written is read back -/
theorem read_written (hwrite : written = disk.hold file (.ok (env.text.render (toJson envelope))))
    (htext : env.text.parse (env.text.write (toJson envelope)) = .ok (toJson envelope))
    (hversion : envelope.version ≤ envelopeV1) :
    ∃ json, (env.verifyEnv args written file).content = .ok json ∧
      ProofEnvelope.fromJson env.text json = .ok envelope := by
  refine ⟨env.text.render (toJson envelope), ?_, ?_⟩
  · show written.readToString file = _
    unfold Disk.readToString
    rw [hwrite, Disk.hold_self]
  · exact ProofEnvelope.fromJson_toJson htext hversion rfl

/-- the file of the envelope is not the file of another id -/
theorem get_written {store : VkStore} {id : VerificationKeyId} {text : String}
    (hwrite : written = disk.hold file (.ok text))
    (hfile : written.locate file ≠ written.locate (store.pathFor written id)) :
    store.get written id = store.get disk id := by
  subst hwrite
  have hsame : (disk.hold file (.ok text)).file (store.pathFor disk id)
      = disk.file (store.pathFor disk id) := Disk.hold_ne hfile.symm
  have hget : store.get (disk.hold file (.ok text)) id = store.get disk id ∧ _ :=
    VkStore.get_congr rfl rfl hsame
  exact hget.1

/-- the file of the envelope is that of the id -/
theorem get_overwritten {store : VkStore} {id : VerificationKeyId} {text : String}
    (hwrite : written = disk.hold file (.ok text)) (hforeign : ∀ vk, written.parseVk text ≠ .ok vk)
    (hfile : written.locate file = written.locate (store.pathFor written id)) (vk : VkDocument) :
    store.get written id ≠ .ok vk := by
  intro hget
  obtain ⟨_, content, hcontent, hparse⟩ := VkStore.get_ok.mp hget
  subst hwrite
  have htext : (disk.hold file (.ok text)).file (store.pathFor (disk.hold file (.ok text)) id)
      = some (.ok text) := if_pos hfile.symm
  obtain rfl := Except.ok.inj (Option.some.inj (htext.symm.trans hcontent))
  exact hforeign vk hparse

theorem verify_of_mock {json : String} {e : ProofEnvelope}
    (hread : ProofEnvelope.fromJson env.text json = .ok e) (hid : e.backend = mockBackend)
    (hverified : Verified (MockVerifier.new.verify env.mockCrates) (.ofEnvelope e)) :
    ((env.verifyEnv args written file).onText json).run
      = .ok ("verified: " ++ VerifyEnv.describe e) := by
  obtain ⟨outcome, hverify, hverified⟩ := hverified
  have hmock : e.backend.id = "mock" := by
    rw [hid]
    rfl
  refine VerifyEnv.run_of_dispatch hread ?_ hverified
  unfold VerifyEnv.dispatch
  exact (if_pos hmock).trans (mapError_ok.mpr hverify)

/-- the verifier of the key store has the last word -/
theorem verify_of_ultraHonk {json : String} {store : VkStore} {e : ProofEnvelope}
    (hread : ProofEnvelope.fromJson env.text json = .ok e) (hid : e.backend = ultraHonkId)
    (hstore : env.vkStoreOrDefault args.vkStore = .ok store) :
    ((env.verifyEnv args written file).onText json).run
        = .ok ("verified: " ++ VerifyEnv.describe e) ↔
      Verified ((UltraHonkVerifier.mk store).verify { env.machine.host with disk := written })
        (.ofEnvelope e) := by
  constructor
  · intro hrun
    obtain ⟨outcome, hdispatch, hverified⟩ := VerifyEnv.dispatch_of_run hread hrun
    have hmock : ¬ e.backend.id = "mock" := by
      rw [hid]
      decide
    have hultra : e.backend.id = "ultrahonk" := by
      rw [hid]
      rfl
    unfold VerifyEnv.dispatch at hdispatch
    rw [if_neg hmock, if_pos hultra] at hdispatch
    obtain ⟨store', hstore', hverify⟩ := bind_ok.mp hdispatch
    obtain rfl := Except.ok.inj (hstore.symm.trans (mapError_ok.mp hstore'))
    exact ⟨outcome, mapError_ok.mp hverify, hverified⟩
  · rintro ⟨outcome, hverify, hverified⟩
    refine VerifyEnv.run_of_dispatch hread ?_ hverified
    rw [hid]
    exact VerifyEnv.dispatch_ultraHonk hstore hverify

theorem verify_written_iff {json : String} (hservice : env.service args r = .ok (service, disk))
    (hprove : service.proveEnvelopedAndVerify r = .ok envelope)
    (hwrite : written = disk.hold file (.ok (env.text.render (toJson envelope))))
    (hcontent : (env.verifyEnv args written file).content = .ok json)
    (hread : ProofEnvelope.fromJson env.text json = .ok envelope)
    (hforeign : ∀ vk, written.parseVk (env.text.render (toJson envelope)) ≠ .ok vk) :
    (env.verifyEnv args written file).run = .ok ("verified: " ++ VerifyEnv.describe envelope) ↔
      ¬ env.Overwrites args written file envelope := by
  have hon : (env.verifyEnv args written file).onText json = env.verifyEnv args written file := by
    unfold VerifyEnv.onText
    rw [← hcontent]
  rw [← hon]
  rcases service_cases hservice with ⟨hmock, rfl⟩ | ⟨hultra, store, hstore, rfl⟩
  · obtain ⟨response, hgen, henvelope, hverified⟩ := serviceOf_ok hprove
    have hid : envelope.backend = mockBackend := by
      rw [henvelope]
      exact (MockProver.proof_of_generate hgen).2
    have hno : args.backend ≠ "ultrahonk" := by
      rw [hmock]
      decide
    exact iff_of_true (verify_of_mock hread hid hverified) fun h => hno h.1
  · obtain ⟨response, hgen, henvelope, hverified⟩ := serviceOf_ok hprove
    have hid : envelope.backend = ultraHonkId := by
      rw [henvelope]
      exact backend_of_generate (Prod.ext hgen rfl)
    rw [verify_of_ultraHonk hread hid hstore]
    constructor
    · rintro haccepted ⟨_, store', hstore', hfile⟩
      obtain rfl := Except.ok.inj (hstore.symm.trans hstore')
      exact UltraHonkVerifier.not_verified (get_overwritten hwrite hforeign hfile) haccepted
    · intro hother
      have hfile := fun heq => hother ⟨hultra, store, hstore, heq⟩
      have hget : store.get written (VerificationRequest.ofEnvelope envelope).verificationKeyId
          = store.get disk (VerificationRequest.ofEnvelope envelope).verificationKeyId :=
        get_written hwrite hfile
      unfold Verified
      rw [UltraHonkVerifier.verify_congr hget]
      exact hverified

/-- the version of an envelope that was made here -/
theorem version_of_service (hservice : env.service args r = .ok (service, disk))
    (hprove : service.proveEnvelopedAndVerify r = .ok envelope) :
    envelope.version ≤ envelopeV1 := by
  rcases service_cases hservice with ⟨_, rfl⟩ | ⟨_, _, _, rfl⟩
  all_goals
    obtain ⟨_, _, rfl, _⟩ := serviceOf_ok hprove
    exact UInt32.le_refl _

end ProveEnv

/-- the vector of the transfer that the mock prover is run on -/
def zerosVector : RawVector where
  id := "transfer/zeros"
  operation := .transfer
  category := "valid"
  description := none
  circuit := ⟨"transfer"⟩
  circuitVersion := ⟨0, 1, 0⟩
  witness :=
    { operation := .transfer
      priv := (privateNames .transfer).foldl (fun m name => m.insert name "0") SortedMap.empty
      pub := ⟨(expectations .transfer).publicParams.map fun name => (name, "0")⟩ }
  expectedOutputs := ⟨[]⟩
  stateReference := some { root := .zero, sequence := 0, label := none }
  expectVerification := true

def zerosLoaded : TestVector where
  id := "transfer/zeros"
  operation := .transfer
  category := "valid"
  description := none
  circuit := ⟨"transfer"⟩
  circuitVersion := ⟨0, 1, 0⟩
  witness :=
    { operation := .transfer
      priv := zerosVector.witness.priv
      pub := .ofNames (expectations .transfer).publicParams .zero }
  expectedPublicOutputs := .new
  stateReference := some { root := .zero, sequence := 0, label := none }
  expectVerification := true

/-- a vector is loaded by what its text parses to -/
theorem TestVector.load_congr {text text' : JsonText} {path : String} {bytes : List UInt8}
    (h : text.parse bytes = text'.parse bytes) :
    TestVector.load text path (.ok bytes) = TestVector.load text' path (.ok bytes) := by
  unfold TestVector.load
  show (text.parse bytes).mapError _ >>= _ = (text'.parse bytes).mapError _ >>= _
  rw [h]

theorem zeros_load : TestVector.load (.knowing (toJson zerosVector)) "zeros.json"
    (.ok ((JsonText.knowing (toJson zerosVector)).write (toJson zerosVector)))
      = .ok zerosLoaded := by
  decide +kernel

def zerosWitness : PrivateWitnessBag where
  bag := .ofNames ["amount", "change_blinding", "old_amount", "old_blinding", "recipient_blinding",
    "sender_sk"] ⟨.zero⟩
  wellFormed := ⟨by decide, by decide⟩

def zerosRequest : ProofRequest :=
  { transferZeros with requestId := ⟨"vector-transfer-zeros"⟩, witness := zerosWitness }

theorem zeros_request : zerosLoaded.toRequestFor "mock" = some zerosRequest := by
  have hentries : zerosLoaded.witness.priv.entries
      = zerosWitness.bag.entries.map fun e => (e.1, e.2.intoHex) := by decide +kernel
  have hwitness : zerosLoaded.witness.priv.entries.foldlM TestVector.insertSecret
      PrivateWitnessBag.new = some zerosWitness := by
    rw [hentries]
    rfl
  have hbackend : (BackendId.new "mock").toOption = some mockBackend := rfl
  have hid : String.ofList ("transfer/zeros".toList.map fun c => if c = '/' ∨ c = '\\' then '-'
      else c) = "transfer-zeros" := by decide
  unfold TestVector.toRequestFor
  rw [hwitness, hbackend]
  show some _ = some _
  simp only [zerosLoaded, hid]
  rfl

def zerosResponse : ProofResponse :=
  MockProver.new.respond transferSha256 transferText zerosRequest ⟨"mock-vk/transfer/0.1.0"⟩

def zerosEnvelope : ProofEnvelope := .fromResponse zerosResponse .transfer ProveEnv.producedBy

/-- the text layer as far as the three documents of the run -/
def zerosText : JsonText where
  render := Json.compact
  parse bytes :=
    if bytes = (toJson zerosVector).compact.toUTF8.data.toList then .ok (toJson zerosVector)
    else if bytes = (toJson transferEnvelope).compact.toUTF8.data.toList then
      .ok (toJson transferEnvelope)
    else if bytes = (toJson zerosEnvelope).compact.toUTF8.data.toList then
      .ok (toJson zerosEnvelope)
    else .error "expected another document"

/-- the vector is on the disk; no other text is a key -/
def zerosDisk : Disk where
  cwd := []
  file path :=
    if path = ["zeros.json"] then some (.ok (toJson zerosVector).compact) else none
  device _ := none
  parseVk _ := .error "missing field `vk` at line 1 column 1"
  sha256 := transferSha256

def zerosEnv : ProveEnv where
  text := zerosText
  machine :=
    let m := labelMachine .transfer .transfer
    { m with host := { m.host with disk := zerosDisk } }
  circuits := ["circuits"]
  manifestDir := ["cli"]

def zerosArgs : ProveArgs where
  op := "transfer"
  vector := ["zeros.json"]
  backend := "mock"
  out := none
  vkStore := none

theorem zeros_parse :
    zerosText.parse (zerosText.write (toJson transferEnvelope)) = .ok (toJson transferEnvelope) ∧
    zerosText.parse (zerosText.write (toJson zerosEnvelope)) = .ok (toJson zerosEnvelope) := by
  have hpayload : (toJson transferEnvelope).compact.toUTF8.data.toList
      ≠ (toJson zerosVector).compact.toUTF8.data.toList := by decide +kernel
  have hvector : (toJson zerosEnvelope).compact.toUTF8.data.toList
      ≠ (toJson zerosVector).compact.toUTF8.data.toList := by decide +kernel
  have henvelope : (toJson zerosEnvelope).compact.toUTF8.data.toList
      ≠ (toJson transferEnvelope).compact.toUTF8.data.toList := by decide +kernel
  unfold JsonText.write zerosText
  constructor
  · simp only [if_neg hpayload, if_true]
  · simp only [if_neg hvector, if_neg henvelope, if_true]

theorem zeros_proves :
    (ProveEnv.serviceOf (MockProver.new.provider transferSha256 zerosText)
      (MockVerifier.new.verify (.of transferSha256 zerosText))).proveEnvelopedAndVerify zerosRequest
      = .ok zerosEnvelope := by
  let service := ProveEnv.serviceOf (MockProver.new.provider transferSha256 zerosText)
    (MockVerifier.new.verify (.of transferSha256 zerosText))
  have hpre : ProverService.preflight zerosRequest = .ok () := by
    obtain ⟨hvalid, _, hpublic⟩ := ProverService.preflight_ok.mp
      (show ProverService.preflight transferZeros = .ok () from minimalRequest_preflight)
    obtain ⟨_, hnonempty, hbound, hroot⟩ := ProofRequest.validate_ok.mp hvalid
    refine ProverService.preflight_ok.mpr ⟨?_, by decide, hpublic⟩
    exact ProofRequest.validate_ok.mpr ⟨rfl, rfl, hbound, hroot⟩
  have hdispatched : service.Dispatched zerosRequest
      (MockProver.new.provider transferSha256 zerosText) :=
    ⟨hpre, ProviderRegistry.select_ok.mpr ⟨rfl, rfl⟩⟩
  have hgen : MockProver.new.generate transferSha256 zerosText zerosRequest
      = .ok zerosResponse := by
    have hvalid := (ProverService.preflight_ok.mp hpre).1
    exact MockProver.generate_ok.mpr ⟨hvalid, rfl, _, by decide, rfl⟩
  have hprove : service.proveCore zerosRequest = .ok zerosResponse := by
    rw [ProverService.proveCore_of_dispatched hdispatched]
    exact mapError_ok.mpr hgen
  have hpayload : MockVerifier.envelopeOf (.fromResponse zerosResponse) = transferEnvelope := by
    decide +kernel
  have htext : zerosText.parse (zerosText.write (toJson
      (MockVerifier.envelopeOf (.fromResponse zerosResponse))))
      = .ok (toJson (MockVerifier.envelopeOf (.fromResponse zerosResponse))) := by
    rw [hpayload]
    exact zeros_parse.1
  have hverify : MockVerifier.new.verify (.of transferSha256 zerosText)
      (.fromResponse zerosResponse) = .ok .positive := by
    rw [← contextOutcome_self zerosResponse]
    exact verify_response transferSha256_length hgen htext rfl
  have hround := ProverService.verifyRoundTrip_ok.mpr ⟨hverify, rfl⟩
  have hcore : service.proveAndVerifyCore zerosRequest = .ok (zerosResponse, .positive) := by
    simp only [ProverService.proveAndVerifyCore, bind_ok, fromOption_ok, pure_ok]
    exact ⟨_, hprove, _, rfl, _, hround, rfl⟩
  exact bind_ok.mpr ⟨_, hcore, rfl⟩

def zerosWritten : Disk :=
  zerosDisk.hold ["transfer", "zeros.mock.proof.json"] (.ok (toJson zerosEnvelope).compact)

theorem zeros_requested : zerosEnv.request zerosArgs = .ok (zerosLoaded, zerosRequest) := by
  have hparse : zerosText.parse (toJson zerosVector).compact.toUTF8.data.toList
      = (JsonText.knowing (toJson zerosVector)).parse
        (toJson zerosVector).compact.toUTF8.data.toList := by
    simp only [zerosText, JsonText.knowing, if_true]
  have hload : TestVector.load zerosText "zeros.json"
      (.ok (toJson zerosVector).compact.toUTF8.data.toList) = .ok zerosLoaded :=
    (TestVector.load_congr hparse).trans zeros_load
  have hpath : displayPath ["zeros.json"] = "zeros.json" := by decide
  unfold ProveEnv.request
  simp only [zerosArgs, hpath]
  refine bind_ok.mpr ⟨_, mapError_ok.mpr hload, ?_⟩
  refine bind_ok.mpr ⟨(), ensure_ok.mpr rfl, bind_ok.mpr ⟨(), ensure_ok.mpr rfl, ?_⟩⟩
  exact bind_ok.mpr ⟨_, fromOption_ok.mpr zeros_request, rfl⟩

theorem zeros_outPath :
    ProveEnv.outPath zerosArgs zerosLoaded = ["transfer", "zeros.mock.proof.json"] := by
  decide +kernel

theorem zeros_run : zerosEnv.run zerosArgs = (.ok zerosEnvelope, zerosWritten) := by
  have hservice : zerosEnv.service zerosArgs zerosRequest = .ok (_, zerosDisk) := rfl
  have hwrite : zerosEnv.writeEnvelope zerosArgs zerosDisk zerosLoaded zerosEnvelope
      = (.ok (), zerosWritten) := by
    unfold ProveEnv.writeEnvelope
    rw [zeros_outPath]
    rfl
  exact ProveEnv.run_ok.mpr ⟨_, _, _, _, zeros_requested, hservice, zeros_proves, hwrite⟩

end Crucible
