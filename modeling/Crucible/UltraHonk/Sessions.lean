import Crucible.UltraHonk.Completeness
import Crucible.UltraHonk.Failures
import Crucible.UltraHonk.StoreMap

/-!
# Proofs over one key store (`crates/ultrahonk/src/provider.rs`, `store.rs`, `verifier.rs`)

Proofs are made one after the other, on machines that share a disk.  Any of the runs can fail, and
a run that fails can have stored a key, or a part of one.

* `UltraHonkProvider.session`   the disk after some runs, their answers, and what they left in the
                                files of their keys;
* `generate_disk`               what one run does to the disk;
* `Session.Kept`                what every run keeps: a lookup finds what was left last in the file,
                                no other file has changed, and every answer has its key;
* `bytecode_of_locate`          two proofs with one key file are of one bytecode, so
  `Session.Kept.agree`          writes that are not cut agree on its key, and
  `session_verified`            no later run takes back the verdict on an answer.
-/

namespace Crucible
open Checked Text Files Nargo Paths

/-! ## sessions -/

/-- a request, and the machine it is proved on -/
structure Round where
  machine : Machine
  request : ProofRequest

/-- the machine, over a disk -/
def Machine.on (m : Machine) (disk : Disk) : Machine :=
  { m with host := { m.host with disk } }

/-- what a run leaves in the file of its key, and under which id: the key, or what a write that
failed has left of it -/
abbrev KeyWrite := VerificationKeyId × Except String String

/-- what some runs have left -/
structure Session where
  disk : Disk
  log : List (Round × Except (Fault ProviderError) ProofResponse)
  writes : List KeyWrite

namespace UltraHonkProvider
variable (p : UltraHonkProvider)

/-- what a run leaves in the store -/
def keyWrite (m : Machine) (r : ProofRequest) : Option KeyWrite :=
  match p.proveNamed m r with
  | .error _ => none
  | .ok named =>
    named.artifacts.vk.bind fun vk =>
      (p.config.vkStore.leaves m.host.disk m.writer named.pinned.vkId vk).map (named.pinned.vkId, ·)

/-- one more run -/
def next (s : Session) (x : Round) : Session :=
  let m := x.machine.on s.disk
  { disk := (p.generate m x.request).2
    log := s.log ++ [(x, (p.generate m x.request).1)]
    writes := s.writes ++ (p.keyWrite m x.request).toList }

/-- the runs in order, from a disk -/
def session (disk : Disk) (rounds : List Round) : Session :=
  rounds.foldl p.next { disk, log := [], writes := [] }

end UltraHonkProvider

/-- no device is in the place of a key -/
def VkStore.Regular (disk : Disk) (store : VkStore) : Prop :=
  ∀ id, disk.Regular (store.pathFor disk id)

/-! ## one run -/

namespace UltraHonkProvider
variable {p : UltraHonkProvider} {m : Machine} {r : ProofRequest} {named : Named}

/-- a proof comes with a key that was read -/
theorem named_vk (h : p.proveNamed m r = .ok named) :
    ∃ text vk, m.host.disk.parseVk text = .ok vk ∧ named.artifacts.vk = some vk := by
  obtain ⟨_, _, _, _, _, _, _, _, hprove, _⟩ := proveNamed_ok.mp h
  obtain ⟨_, _, _, hread, _⟩ := prove_ok hprove
  exact readDocuments_vk hread

/-- a run opens no key file and leaves the disk as it was, or it leaves in it what was written of
its key -/
theorem generate_disk :
    (p.keyWrite m r = none ∧ (p.generate m r).2 = m.host.disk) ∨
    ∃ named vk content, p.proveNamed m r = .ok named ∧ named.artifacts.vk = some vk ∧
      p.config.vkStore.leaves m.host.disk m.writer named.pinned.vkId vk = some content ∧
      p.keyWrite m r = some (named.pinned.vkId, content) ∧
      (p.generate m r).2
        = m.host.disk.hold (p.config.vkStore.pathFor m.host.disk named.pinned.vkId) content := by
  cases hnamed : p.proveNamed m r with
  | error e =>
    refine Or.inl ⟨?_, ?_⟩
    · rw [keyWrite, hnamed]
    · rw [generate, hnamed]
  | ok named =>
    obtain ⟨_, vk, _, hvk⟩ := named_vk hnamed
    have hdisk : (p.generate m r).2 = (p.storeKey m named).2 := by
      unfold generate
      simp only [hnamed]
      cases hstore : p.storeKey m named with
      | mk answer left => cases answer <;> rfl
    rw [hdisk, storeKey_disk hvk, VkStore.put_disk, keyWrite, hnamed]
    simp only [hvk, Option.bind_some]
    cases hleaves : p.config.vkStore.leaves m.host.disk m.writer named.pinned.vkId vk with
    | none => exact Or.inl ⟨rfl, rfl⟩
    | some content => exact Or.inr ⟨named, vk, content, rfl, hvk, hleaves, rfl, rfl⟩

/-- a run that answers has written its whole key -/
theorem generate_answers {response : ProofResponse}
    (hregular : p.config.vkStore.Regular m.host.disk) (h : (p.generate m r).1 = .ok response) :
    ∃ named vk, p.proveNamed m r = .ok named ∧ named.artifacts.vk = some vk ∧
      vk.scheme = schemeUltraHonk ∧ respond r named = .ok response ∧
      p.keyWrite m r = some (named.pinned.vkId, .ok (m.writer.renderVk vk)) := by
  obtain ⟨named, hnamed, hstore, hrespond⟩ := generate_ok.mp (Prod.ext h rfl)
  obtain ⟨_, vk, _, hvk⟩ := named_vk hnamed
  have hput := (storeKey_ok hvk).mp (congrArg Prod.fst hstore)
  have hscheme := (VkStore.prepare_ok.mp (VkStore.put_ok.mp hput).1).1
  refine ⟨named, vk, hnamed, hvk, hscheme, hrespond, ?_⟩
  rw [keyWrite, hnamed]
  simp only [hvk, Option.bind_some, VkStore.leaves_of_ok (hregular _) hput, Option.map_some]

/-- only the protocol circuits get past the gate -/
theorem circuit_of_proveNamed (h : p.proveNamed m r = .ok named) :
    ∃ op, r.circuit = .forOperation op := by
  obtain ⟨_, _, _, _, hgate, _⟩ := proveNamed_ok.mp h
  have hrequest := (gate_ok hgate).1
  simp only [checkRequest, bind_ok, mapError_ok, ensure_ok, exists_const] at hrequest
  obtain ⟨_, _, _, hsupports⟩ := hrequest
  have hcircuit : UltraHonkBackend.isProtocolCircuit r.circuit = true :=
    (Bool.and_eq_true_iff.mp hsupports).1
  obtain ⟨op, _, hop⟩ := List.any_eq_true.mp hcircuit
  exact ⟨op, (eq_of_beq hop).symm⟩

end UltraHonkProvider

/-! ## what every run keeps -/

/-- the ids have one key file -/
def VkStore.SameFile (disk : Disk) (store : VkStore) (a b : VerificationKeyId) : Prop :=
  disk.locate (store.pathFor disk a) = disk.locate (store.pathFor disk b)

instance (disk : Disk) (store : VkStore) (id : VerificationKeyId) :
    DecidablePred (store.SameFile disk · id) :=
  fun _ => inferInstanceAs (Decidable (_ = _))

/-- the key under an id: what was left last in its file, or what was there -/
def VkStore.found (disk : Disk) (store : VkStore) (writes : List KeyWrite)
    (id : VerificationKeyId) : Except UltraHonkError VkDocument :=
  match VkStore.lastPut (store.SameFile disk · id) writes with
  | some content => readKey disk (store.pathFor disk id) content
  | none => store.get disk id

/-- the answer to a run comes from a proof, and the key of the proof was left whole -/
def UltraHonkProvider.Answered (p : UltraHonkProvider) (disk : Disk) (writes : List KeyWrite)
    (x : Round) (response : ProofResponse) : Prop :=
  ∃ named vk, p.proveNamed (x.machine.on disk) x.request = .ok named ∧
    named.artifacts.vk = some vk ∧ vk.scheme = schemeUltraHonk ∧
    respond x.request named = .ok response ∧
    (named.pinned.vkId, .ok (x.machine.writer.renderVk vk)) ∈ writes

structure Session.Kept (p : UltraHonkProvider) (disk : Disk) (rounds : List Round) (s : Session) :
    Prop where
  /-- only files change -/
  rest : s.disk = { disk with file := s.disk.file }
  get : ∀ id, p.config.vkStore.get s.disk id = p.config.vkStore.found disk s.writes id
  file : ∀ path, (∀ entry ∈ s.writes,
    disk.locate path ≠ disk.locate (p.config.vkStore.pathFor disk entry.1)) →
    s.disk.file path = disk.file path
  /-- what is left is of the key of a proof -/
  writes : ∀ entry ∈ s.writes, ∃ x ∈ rounds, ∃ named vk,
    p.proveNamed (x.machine.on disk) x.request = .ok named ∧ named.artifacts.vk = some vk ∧
      entry.1 = named.pinned.vkId ∧
      p.config.vkStore.leaves disk x.machine.writer named.pinned.vkId vk = some entry.2
  log : ∀ x response, (x, .ok response) ∈ s.log → x ∈ rounds ∧ p.Answered disk s.writes x response

section
variable {p : UltraHonkProvider} {disk : Disk} {rounds : List Round} {s : Session} {x : Round}

theorem VkStore.found_concat {store : VkStore} {writes : List KeyWrite}
    {id a : VerificationKeyId} {content : Except String String} :
    store.found disk (writes ++ [(id, content)]) a
      = if store.SameFile disk id a then readKey disk (store.pathFor disk a) content
        else store.found disk writes a := by
  unfold VkStore.found
  rw [VkStore.lastPut_concat]
  by_cases hsame : store.SameFile disk id a
  · rw [if_pos hsame, if_pos hsame]
  · rw [if_neg hsame, if_neg hsame]

/-- what does not look at the files is as it was -/
theorem Session.Kept.on (h : s.Kept p disk rounds) (m : Machine) (r : ProofRequest) :
    p.proveNamed (m.on s.disk) r = p.proveNamed (m.on disk) r := by
  rw [h.rest]
  rfl

theorem Session.Kept.regular (h : s.Kept p disk rounds)
    (hregular : p.config.vkStore.Regular disk) : p.config.vkStore.Regular s.disk := by
  rw [h.rest]
  exact hregular

/-- a key file that is left is read from then on -/
theorem Session.Kept.get_hold (h : s.Kept p disk rounds) {id : VerificationKeyId}
    {content : Except String String} (a : VerificationKeyId) :
    p.config.vkStore.get (s.disk.hold (p.config.vkStore.pathFor s.disk id) content) a
      = p.config.vkStore.found disk (s.writes ++ [(id, content)]) a := by
  rw [VkStore.get_hold, VkStore.found_concat, ← h.get a, h.rest]
  exact if_congr eq_comm rfl rfl

/-- a run that answers has left its key -/
theorem Session.Kept.log_next (h : s.Kept p disk rounds) (hx : x ∈ rounds)
    (hregular : p.config.vkStore.Regular disk) {y : Round} {response : ProofResponse}
    (hy : (y, .ok response) ∈ (p.next s x).log) :
    y ∈ rounds ∧ p.Answered disk (p.next s x).writes y response := by
  rcases List.mem_append.mp hy with hy | hy
  · obtain ⟨hmem, named, vk, hnamed, hvk, hscheme, hrespond, hwrite⟩ := h.log y response hy
    exact ⟨hmem, named, vk, hnamed, hvk, hscheme, hrespond, List.mem_append_left _ hwrite⟩
  · obtain ⟨rfl, hanswer⟩ := Prod.mk.inj (List.mem_singleton.mp hy)
    have hfiles : p.config.vkStore.Regular (y.machine.on s.disk).host.disk := h.regular hregular
    obtain ⟨named, vk, hnamed, hvk, hscheme, hrespond, hwrite⟩ :=
      UltraHonkProvider.generate_answers hfiles hanswer.symm
    rw [h.on] at hnamed
    refine ⟨hx, named, vk, hnamed, hvk, hscheme, hrespond, List.mem_append_right _ ?_⟩
    rw [hwrite]
    exact List.mem_singleton.mpr rfl

/-- one run keeps what the runs before it have kept -/
theorem Session.Kept.next (h : s.Kept p disk rounds) (hx : x ∈ rounds)
    (hregular : p.config.vkStore.Regular disk) : (p.next s x).Kept p disk rounds := by
  have hlog := fun y response hy => @h.log_next _ _ _ _ x hx hregular y response hy
  have hnext : (p.next s x).writes
      = s.writes ++ (p.keyWrite (x.machine.on s.disk) x.request).toList := rfl
  rcases UltraHonkProvider.generate_disk (p := p) (m := x.machine.on s.disk) (r := x.request) with
    ⟨hnone, hdisk⟩ | ⟨named, vk, content, hnamed, hvk, hleaves, hsome, hdisk⟩
  · have hwrites : (p.next s x).writes = s.writes := by
      rw [hnext, hnone, Option.toList_none, List.append_nil]
    have hsame : (p.next s x).disk = s.disk := hdisk
    exact ⟨hsame ▸ h.rest, hwrites ▸ hsame ▸ h.get, hwrites ▸ hsame ▸ h.file,
      hwrites ▸ h.writes, hlog⟩
  · have hwrites : (p.next s x).writes = s.writes ++ [(named.pinned.vkId, content)] := by
      rw [hnext, hsome, Option.toList_some]
    have hheld : (p.next s x).disk
        = s.disk.hold (p.config.vkStore.pathFor s.disk named.pinned.vkId) content := hdisk
    refine ⟨?_, ?_, ?_, ?_, hlog⟩
    · rw [hheld]
      exact Disk.hold_rest h.rest
    · rw [hheld, hwrites]
      exact h.get_hold
    · rw [hheld, hwrites]
      intro path hpath
      rw [← h.file path fun entry hentry => hpath entry (List.mem_append_left _ hentry)]
      have hne := hpath (named.pinned.vkId, content) (List.mem_append_right _ List.mem_cons_self)
      refine Disk.hold_ne ?_
      rw [h.rest]
      exact hne
    · rw [hwrites]
      intro entry hentry
      rcases List.mem_append.mp hentry with hentry | hentry
      · exact h.writes entry hentry
      · obtain rfl := List.mem_singleton.mp hentry
        rw [h.on] at hnamed
        refine ⟨x, hx, named, vk, hnamed, hvk, rfl, ?_⟩
        rw [← hleaves, h.rest]
        rfl

/-- and so does a session -/
theorem Session.kept (hregular : p.config.vkStore.Regular disk) :
    (p.session disk rounds).Kept p disk rounds := by
  have hrun : ∀ (rest : List Round) (s : Session), (∀ x ∈ rest, x ∈ rounds) →
      s.Kept p disk rounds → (rest.foldl p.next s).Kept p disk rounds := by
    intro rest
    induction rest with
    | nil => exact fun _ _ h => h
    | cons x rest ih =>
      intro s hrest h
      have hx : x ∈ rounds := hrest x List.mem_cons_self
      exact ih _ (fun y hy => hrest y (List.mem_cons_of_mem _ hy)) (h.next hx hregular)
  refine hrun rounds _ (fun _ h => h) ⟨rfl, fun _ => rfl, fun _ _ => rfl, ?_, ?_⟩
  · exact fun _ h => absurd h List.not_mem_nil
  · exact fun _ _ h => absurd h List.not_mem_nil

end

/-! ## one file, one bytecode -/

section
variable {p : UltraHonkProvider} {disk : Disk} {m m' : Machine} {r r' : ProofRequest}
  {named named' : Named}

/-- the parts of the key id of a proof -/
theorem vkId_of_proveNamed (hsha : ∀ bytes, (m.host.disk.sha256 bytes).length = 32)
    (h : p.proveNamed m r = .ok named) :
    ∃ op, r.circuit = .forOperation op ∧ VerificationKeyIdPolicy.parse named.pinned.vkId.id
      = .ok (.forOperation op, r.circuitVersion,
        .fromBytes m.host.disk.sha256 named.pinned.bytecode.content) := by
  obtain ⟨op, hop⟩ := UltraHonkProvider.circuit_of_proveNamed h
  obtain ⟨_, _, _, _, hgate, _⟩ := UltraHonkProvider.proveNamed_ok.mp h
  obtain ⟨hchecksum, hid⟩ := UltraHonkProvider.loadPinned_ok (UltraHonkProvider.gate_ok hgate).2.2.2
  have hcircuit : CircuitId.new (CircuitId.forOperation op).id = .ok (.forOperation op) := by
    cases op <;> decide
  refine ⟨op, hop, ?_⟩
  rw [hid, hchecksum, hop]
  exact VerificationKeyIdPolicy.parse_idFor hcircuit (ArtifactChecksum.fromHex_fromBytes hsha _)

/-- proofs whose keys have one file are of bytecodes with one digest -/
theorem bytecode_of_locate (hsha : ∀ bytes, (disk.sha256 bytes).length = 32)
    (h : p.proveNamed (m.on disk) r = .ok named) (h' : p.proveNamed (m'.on disk) r' = .ok named')
    (heq : disk.locate (p.config.vkStore.pathFor disk named.pinned.vkId)
      = disk.locate (p.config.vkStore.pathFor disk named'.pinned.vkId)) :
    disk.sha256 named.pinned.bytecode.content = disk.sha256 named'.pinned.bytecode.content := by
  obtain ⟨op, _, hparse⟩ := vkId_of_proveNamed hsha h
  obtain ⟨op', _, hparse'⟩ := vkId_of_proveNamed hsha h'
  rw [VkStore.locate_of_parsed hparse, VkStore.locate_of_parsed hparse'] at heq
  obtain ⟨_, hnames⟩ := List.append_inj' heq rfl
  have hfile := List.head_eq_of_cons_eq (List.cons.inj hnames).2
  exact hexEncode_injective (VkStore.json_inj hfile)

end

/-! ## answers -/

/-- an answer is verified on every host that finds its key, and whose `bb` is the prover's -/
theorem answer_verified {p : UltraHonkProvider} {m : Machine} {host : Host} {r : ProofRequest}
    {named : Named} {vk : VkDocument} {response : ProofResponse} {bb : String} {disk : Disk}
    (htools : Tools p m) (hsha : ∀ bytes, (m.host.disk.sha256 bytes).length = 32)
    (hbuilt : r.Built) (hcircuit : r.circuit = .forOperation r.operation)
    (hpre : ProverService.preflight r = .ok ()) (hnamed : p.proveNamed m r = .ok named)
    (hvk : named.artifacts.vk = some vk)
    (hrespond : UltraHonkProvider.respond r named = .ok response) (hready : host.Ready)
    (hbinary : host.binary = some bb) (hversion : checkVersion host = .ok ())
    (hrun : host.run = m.host.run)
    (hget : p.config.vkStore.get disk named.pinned.vkId = .ok vk) :
    Verified ((UltraHonkVerifier.mk p.config.vkStore).verify { host with disk })
      (.fromResponse response) := by
  obtain ⟨_, _, witness, _, hgate, _, hsolve, _, hprove, hnames⟩ :=
    UltraHonkProvider.proveNamed_ok.mp hnamed
  obtain ⟨bytes, hbytes, hresponse⟩ := bind_ok.mp hrespond
  obtain rfl := pure_ok.mp hresponse
  have hsolves : m.nargo.Solves r.circuit.id (encodeToml (.fromRequest r)) witness.content :=
    UltraHonkProvider.solveWitness_ok hsolve
  obtain ⟨run, hbb, hsuccess, hdocuments, hcheck⟩ := prove_ok hprove
  have hproves : m.Proves named.pinned.bytecode.content witness.content named.artifacts :=
    ⟨run, _, hbb, hsuccess, hdocuments⟩
  obtain ⟨hschemeProof, hschemePublic, hschemeKey, digest, hproofHash, hkeyHash⟩ :=
    checkDocuments_ok hvk hcheck
  -- the documents that the verifier writes have the numbers of those that `bb` wrote
  obtain ⟨hnonempty, hisWord⟩ := htools.words _ _ _ hproves
  obtain ⟨hlen, hwords⟩ := proofDocument_words ⟨proofFormatTag⟩ vk (mapError_ok.mp hbytes)
  have hproof : (proofDocument ⟨⟨proofFormatTag⟩, bytes⟩ vk).Same named.artifacts.proof :=
    ⟨hwords, digestBytes_number hkeyHash hproofHash, hschemeKey.trans hschemeProof.symm⟩
  have hpublic : (publicInputsDocument named.publicOutputs).Same named.artifacts.publicInputs :=
    ⟨publicInputsDocument_words hisWord (UltraHonkProvider.nameOutputs_ok hnames).2.2,
      hschemePublic.symm⟩
  obtain ⟨exit, haccepts, hexit⟩ := htools.accepts _ _ _ _ _ _ hproves hvk hproof hpublic
  rw [← hrun] at haccepts
  have hkeyId := parse_vkId hsha hbuilt (UltraHonkProvider.gate_ok hgate).2.2.2
  refine verified_iff.mpr ⟨⟨⟨rfl, rfl⟩, hkeyId, vk, hget, bytes_of_words hnonempty hlen, ?_⟩, ?_⟩
  · exact checkProof_of_accepts (m := { m with host }) hready hbinary hversion haccepts hexit disk
  · exact stateAgrees_of_named htools hbuilt hcircuit hpre hgate hsolves hproves hnames rfl

/-- the key that `bb` writes is that of the bytecode -/
def Machine.WritesKeys (m : Machine) (keyOf : List UInt8 → VkDocument) : Prop :=
  ∀ bytecode witness artifacts, m.Proves bytecode witness artifacts →
    artifacts.vk = some (keyOf bytecode)

/-- no two bytecodes of the session have one digest -/
def UltraHonkProvider.Collides (p : UltraHonkProvider) (disk : Disk) (rounds : List Round) : Prop :=
  ∃ x ∈ rounds, ∃ y ∈ rounds, ∃ named named',
    p.proveNamed (x.machine.on disk) x.request = .ok named ∧
    p.proveNamed (y.machine.on disk) y.request = .ok named' ∧
    disk.sha256 named.pinned.bytecode.content = disk.sha256 named'.pinned.bytecode.content ∧
    named.pinned.bytecode.content ≠ named'.pinned.bytecode.content

/-- what a key is written as is read as that key -/
def Round.Readable (disk : Disk) (x : Round) : Prop :=
  ∀ text vk, disk.parseVk text = .ok vk → disk.parseVk (x.machine.writer.renderVk vk) = .ok vk

/-- whatever is left in the file of an id is read as one and the same key -/
def UltraHonkProvider.Agree (p : UltraHonkProvider) (disk : Disk) (writes : List KeyWrite)
    (id : VerificationKeyId) : Prop :=
  let store := p.config.vkStore
  ∀ a ∈ writes, ∀ b ∈ writes, store.SameFile disk a.1 id → store.SameFile disk b.1 id →
    VkStore.readKey disk (store.pathFor disk id) a.2
      = VkStore.readKey disk (store.pathFor disk id) b.2

section
variable {p : UltraHonkProvider} {disk : Disk} {rounds : List Round} {m : Machine}
  {r : ProofRequest} {named : Named} {keyOf : List UInt8 → VkDocument} {s : Session} {x : Round}

theorem vk_of_proveNamed (hkeys : m.WritesKeys keyOf) (h : p.proveNamed m r = .ok named) :
    named.artifacts.vk = some (keyOf named.pinned.bytecode.content) := by
  obtain ⟨_, _, witness, _, _, _, _, _, hprove, _⟩ := UltraHonkProvider.proveNamed_ok.mp h
  obtain ⟨run, hbb, hsuccess, hread, _⟩ := prove_ok hprove
  exact hkeys _ witness.content _ ⟨run, _, hbb, hsuccess, hread⟩

/-- where a key file holds a key whole, the key is found -/
theorem Session.Kept.get_written (h : s.Kept p disk rounds) {id : VerificationKeyId}
    {vk : VkDocument} {content : Except String String} (hwrite : (id, content) ∈ s.writes)
    (hkey : VkStore.readKey disk (p.config.vkStore.pathFor disk id) content = .ok vk)
    (hagree : p.Agree disk s.writes id) : p.config.vkStore.get s.disk id = .ok vk := by
  have hself : p.config.vkStore.SameFile disk id id := rfl
  have hsome : ∃ last, VkStore.lastPut (p.config.vkStore.SameFile disk · id) s.writes = some last :=
    VkStore.lastPut_isSome hwrite hself
  obtain ⟨last, hlast⟩ := hsome
  obtain ⟨entry, hentry, hsame, rfl⟩ := VkStore.lastPut_some hlast
  rw [h.get, VkStore.found, hlast, ← hkey]
  exact hagree entry hentry (id, content) hwrite hsame hself

/-- runs without cut writes agree on every key, if `bb` makes one key of a bytecode and no two
bytecodes of theirs have one digest -/
theorem Session.Kept.agree (h : s.Kept p disk rounds) (hread : ∀ y ∈ rounds, y.Readable disk)
    (hclean : ∀ y ∈ rounds, y.machine.writer.Clean)
    (hsha : ∀ bytes, (disk.sha256 bytes).length = 32)
    (hkeys : ∀ y ∈ rounds, (y.machine.on disk).WritesKeys keyOf)
    (hcollides : ¬ p.Collides disk rounds) (id : VerificationKeyId) :
    p.Agree disk s.writes id := by
  intro a ha b hb hsameA hsameB
  obtain ⟨x, hx, named, vk, hnamed, hvk, hid, hleaves⟩ := h.writes a ha
  obtain ⟨y, hy, named', vk', hnamed', hvk', hid', hleaves'⟩ := h.writes b hb
  -- the two are of one bytecode
  have hlocate : p.config.vkStore.SameFile disk named.pinned.vkId named'.pinned.vkId := by
    rw [← hid, ← hid']
    exact hsameA.trans hsameB.symm
  have hdigest := bytecode_of_locate hsha hnamed hnamed' hlocate
  have hbytecode : named.pinned.bytecode.content = named'.pinned.bytecode.content := by
    by_contra hne
    exact hcollides ⟨x, hx, y, hy, named, named', hnamed, hnamed', hdigest, hne⟩
  have hone : vk = vk' := by
    have hfirst := hvk.symm.trans (vk_of_proveNamed (hkeys x hx) hnamed)
    have hsecond := hvk'.symm.trans (vk_of_proveNamed (hkeys y hy) hnamed')
    rw [Option.some.inj hfirst, Option.some.inj hsecond, hbytecode]
  -- and each is there whole
  have hwhole {z : Round} {n : Named} {k : VkDocument} {content : Except String String}
      (hz : z ∈ rounds) (hproved : p.proveNamed (z.machine.on disk) z.request = .ok n)
      (hk : n.artifacts.vk = some k) (hleft : p.config.vkStore.leaves disk z.machine.writer
        n.pinned.vkId k = some content) :
      VkStore.readKey disk (p.config.vkStore.pathFor disk id) content = .ok k := by
    obtain ⟨hready, hwrite⟩ := VkStore.leaves_some.mp hleft
    obtain ⟨text, k', htext, hk'⟩ := UltraHonkProvider.named_vk hproved
    obtain rfl := Option.some.inj (hk'.symm.trans hk)
    have hcontent : content = .ok (z.machine.writer.renderVk k') :=
      (DiskWriter.leaves_clean (hclean z hz) hwrite).2
    exact VkStore.readKey_ok.mpr
      ⟨(VkStore.prepare_ok.mp hready).1, _, hcontent, hread z hz text k' htext⟩
  rw [hwhole hx hnamed hvk hleaves, hwhole hy hnamed' hvk' hleaves', hone]

end

/-- **No later run takes back a proof.**  Over one disk and in any order, some runs answer and some
fail, with a key, without one, or with a key cut short; at the end, on every host with the `bb` of
the prover, each answer to a request as the builder makes it is verified against the key that is in
the store by then, unless something that is read otherwise was left in its key file. -/
theorem session_verified {p : UltraHonkProvider} {disk : Disk} {rounds : List Round} {x : Round}
    {response : ProofResponse} {host : Host} {bb : String}
    (hregular : p.config.vkStore.Regular disk) (hread : x.Readable disk)
    (hsha : ∀ bytes, (disk.sha256 bytes).length = 32) (htools : Tools p (x.machine.on disk))
    (hready : host.Ready) (hbinary : host.binary = some bb) (hversion : checkVersion host = .ok ())
    (hrun : host.run = x.machine.host.run) (hbuilt : x.request.Built)
    (hcircuit : x.request.circuit = .forOperation x.request.operation)
    (hpre : ProverService.preflight x.request = .ok ())
    (hanswer : (x, .ok response) ∈ (p.session disk rounds).log)
    (hagree : p.Agree disk (p.session disk rounds).writes response.verificationKeyId) :
    Verified ((UltraHonkVerifier.mk p.config.vkStore).verify
      { host with disk := (p.session disk rounds).disk }) (.fromResponse response) := by
  have hkept : (p.session disk rounds).Kept p disk rounds := Session.kept hregular
  obtain ⟨hx, named, vk, hnamed, hvk, hscheme, hrespond, hwrite⟩ := hkept.log x response hanswer
  obtain ⟨text, vk', htext, hvk'⟩ := UltraHonkProvider.named_vk hnamed
  obtain rfl := Option.some.inj (hvk'.symm.trans hvk)
  have hid : response.verificationKeyId = named.pinned.vkId := by
    obtain ⟨_, _, hresponse⟩ := bind_ok.mp hrespond
    rw [← pure_ok.mp hresponse]
  rw [hid] at hagree
  have hget := hkept.get_written hwrite
    (VkStore.readKey_ok.mpr ⟨hscheme, _, rfl, hread text vk' htext⟩) hagree
  exact answer_verified htools hsha hbuilt hcircuit hpre hnamed hvk hrespond hready hbinary
    hversion hrun hget

/-! ## a session -/

/-- a transfer is proved; then a deposit fails with a key, and the transfer again -/
def sampleRounds : List Round :=
  [⟨labelMachine .transfer .transfer, sampleRequest .transfer .transfer⟩,
    ⟨garbledMachine .deposit, sampleRequest .deposit .deposit⟩,
    ⟨garbledMachine .transfer, sampleRequest .transfer .transfer⟩]

/-- the machine of a run is the sample of its circuit, with some parser of proofs -/
theorem sampleRounds_machine {x : Round} (h : x ∈ sampleRounds) : ∃ c parseProof,
    x.machine = { labelMachine c c with parseProof } ∧ x.request = sampleRequest c c ∧
      ∃ named, sampleProvider.proveNamed x.machine x.request = .ok named ∧
        named.pinned.bytecode.content = [] := by
  rcases List.mem_cons.mp h with rfl | h
  · exact ⟨.transfer, _, rfl, rfl, _, label_proveNamed, rfl⟩
  · rcases List.mem_pair.mp h with rfl | rfl
    · exact ⟨.deposit, _, rfl, rfl, _, garbled_proveNamed, rfl⟩
    · exact ⟨.transfer, _, rfl, rfl, _, garbled_proveNamed, rfl⟩

theorem sampleRounds_on {x : Round} (h : x ∈ sampleRounds) :
    x.machine.on sampleDisk = x.machine := by
  obtain ⟨c, parseProof, hmachine, _⟩ := sampleRounds_machine h
  rw [hmachine]
  rfl

theorem sampleRounds_keys {x : Round} (h : x ∈ sampleRounds) :
    (x.machine.on sampleDisk).WritesKeys fun _ => sampleKey := by
  intro bytecode witness artifacts hproves
  obtain ⟨c, parseProof, hmachine, _⟩ := sampleRounds_machine h
  obtain ⟨run, dir, _, _, hread⟩ := hproves
  obtain ⟨text, vk, hparse, hvk⟩ := readDocuments_vk hread
  obtain rfl := Except.ok.inj (show Except.ok sampleKey = .ok vk from hparse)
  exact hvk

theorem sampleRounds_readable : ∀ x ∈ sampleRounds, x.Readable sampleDisk := by
  intro x hx
  obtain ⟨c, parseProof, hmachine, _⟩ := sampleRounds_machine hx
  rw [Round.Readable, hmachine]
  exact fun _ _ h => h

theorem sampleRounds_clean : ∀ x ∈ sampleRounds, x.machine.writer.Clean := by
  intro x hx path cut hcut
  obtain ⟨c, parseProof, hmachine, _⟩ := sampleRounds_machine hx
  rw [hmachine] at hcut
  cases hcut

theorem sampleRounds_collides : ¬ sampleProvider.Collides sampleDisk sampleRounds := by
  rintro ⟨x, hx, y, hy, named, named', hnamed, hnamed', _, hne⟩
  rw [sampleRounds_on hx] at hnamed
  rw [sampleRounds_on hy] at hnamed'
  obtain ⟨_, _, _, _, _, hfirst, hempty⟩ := sampleRounds_machine hx
  obtain ⟨_, _, _, _, _, hsecond, hempty'⟩ := sampleRounds_machine hy
  obtain rfl := Except.ok.inj (hfirst.symm.trans hnamed)
  obtain rfl := Except.ok.inj (hsecond.symm.trans hnamed')
  exact hne (hempty.trans hempty'.symm)

/-- the transfer is verified after the two failures -/
theorem session_verified_transfer :
    Verified ((UltraHonkVerifier.mk sampleProvider.config.vkStore).verify
      { (labelMachine .transfer .transfer).host with
        disk := (sampleProvider.session sampleDisk sampleRounds).disk })
      (.fromResponse (labelResponse .transfer .transfer)) := by
  have hready : (labelMachine .transfer .transfer).host.Ready := ⟨_, rfl, fun _ _ => ⟨rfl, rfl⟩⟩
  have hregular : sampleProvider.config.vkStore.Regular sampleDisk := fun _ => rfl
  have hanswer : (⟨labelMachine .transfer .transfer, sampleRequest .transfer .transfer⟩,
      .ok (labelResponse .transfer .transfer))
        ∈ (sampleProvider.session sampleDisk sampleRounds).log := by
    refine List.mem_append_left _ (List.mem_append_left _ (List.mem_singleton.mpr ?_))
    exact congrArg (Prod.mk _) (congrArg Prod.fst (@label_generate .transfer .transfer)).symm
  let x : Round := ⟨labelMachine .transfer .transfer, sampleRequest .transfer .transfer⟩
  have htools : Tools sampleProvider (x.machine.on sampleDisk) := sample_tools
  have hagree := (Session.kept hregular).agree sampleRounds_readable sampleRounds_clean
    (fun _ => rfl) (fun _ => sampleRounds_keys) sampleRounds_collides
  exact session_verified hregular (fun _ _ h => h) (fun _ => rfl) htools hready rfl rfl rfl
    sample_built rfl sample_dispatched.1 hanswer (hagree _)

end Crucible
