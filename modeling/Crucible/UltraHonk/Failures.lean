import Crucible.UltraHonk.Store
import Crucible.UltraHonk.Surface
import Crucible.UltraHonk.Words

/-!
# What a failed proof leaves behind (`crates/ultrahonk/src/provider.rs`)

The key of a proof is on the disk before the words of the proof are decoded, and a write of it that
fails may have opened its file.

* `Exec.mapM_wordBytes_cases`                the words that are decoded, and the others;
* `UltraHonkProvider.respond_cases`          so the one step behind the store fails on the others;
* `VkStore.get_put_iff`                      what a put leaves to be seen, whether it fails or not;
* `failed_proof_leaves_no_key_iff`           the runs that leave a key, or a part of one, without a
                                             proof.
-/

namespace Crucible
open Checked Text

/-! ## the words of a proof -/

namespace Exec

theorem mapM_wordBytes_cases (words : List String) :
    ((∀ word ∈ words, IsFieldText word.toList) ∧ ∃ parts, words.mapM wordBytes = .ok parts) ∨
    ((∃ word ∈ words, ¬ IsFieldText word.toList) ∧
      ∃ e, words.mapM wordBytes = .error (.error e)) := by
  induction words with
  | nil => exact Or.inl ⟨fun _ h => absurd h List.not_mem_nil, [], rfl⟩
  | cons word words ih =>
    rw [List.mapM_cons]
    rcases wordBytes_cases word with ⟨htext, bytes, hbytes⟩ | ⟨htext, e, herror⟩
    · rcases ih with ⟨hall, parts, hparts⟩ | ⟨⟨bad, hbad, hno⟩, e, herror⟩
      · refine Or.inl ⟨List.forall_mem_cons.mpr ⟨htext, hall⟩, bytes :: parts, ?_⟩
        exact bind_ok.mpr ⟨bytes, hbytes, bind_ok.mpr ⟨parts, hparts, rfl⟩⟩
      · refine Or.inr ⟨⟨bad, List.mem_cons_of_mem _ hbad, hno⟩, e, ?_⟩
        exact bind_error.mpr (Or.inr ⟨bytes, hbytes, bind_error.mpr (Or.inl herror)⟩)
    · exact Or.inr ⟨⟨word, List.mem_cons_self, htext⟩, e, bind_error.mpr (Or.inl herror)⟩

end Exec

namespace UltraHonkProvider
variable {p : UltraHonkProvider} {m : Machine} {r : ProofRequest} {named : Named}

/-- the step behind the store answers exactly when every word of the proof is hexadecimal -/
theorem respond_cases (r : ProofRequest) (named : Named) :
    ((∀ word ∈ named.artifacts.proof.proof, IsFieldText word.toList) ∧
      ∃ response, respond r named = .ok response) ∨
    ((∃ word ∈ named.artifacts.proof.proof, ¬ IsFieldText word.toList) ∧
      ∃ e, respond r named = .error (.error e)) := by
  rcases Exec.mapM_wordBytes_cases named.artifacts.proof.proof with
    ⟨hall, parts, hparts⟩ | ⟨hbad, e, herror⟩
  · have hbytes : Exec.concatWords named.artifacts.proof.proof = .ok parts.flatten :=
      bind_ok.mpr ⟨parts, hparts, rfl⟩
    exact Or.inl ⟨hall, _, bind_ok.mpr ⟨_, mapError_ok.mpr hbytes, rfl⟩⟩
  · have hwords : Exec.concatWords named.artifacts.proof.proof = .error (.error e) :=
      bind_error.mpr (Or.inl herror)
    exact Or.inr ⟨hbad, _, bind_error.mpr (Or.inl (mapError_error.mpr ⟨_, hwords, rfl⟩))⟩

end UltraHonkProvider

/-! ## what a put leaves to be seen -/

namespace VkStore
variable {disk : Disk} {store : VkStore} {id a : VerificationKeyId} {vk : VkDocument}
  {writer : DiskWriter} {content : Except String String}

/-- the file of `id` is answered, under every id of it, as the content would be -/
def Answers (disk : Disk) (store : VkStore) (id : VerificationKeyId)
    (content : Except String String) : Prop :=
  ∀ a, disk.locate (store.pathFor disk a) = disk.locate (store.pathFor disk id) →
    store.get disk a = readKey disk (store.pathFor disk a) content

/-- a file that holds the content is answered by it, and no other file is answered anew -/
theorem get_hold : store.get (disk.hold (store.pathFor disk id) content) a
    = if disk.locate (store.pathFor disk a) = disk.locate (store.pathFor disk id) then
        readKey disk (store.pathFor disk a) content
      else store.get disk a := by
  split
  · next hsame => exact get_of_file (if_pos hsame)
  · next hother =>
    have hget := @get_congr disk store a (disk.hold (store.pathFor disk id) content) rfl rfl
      (Disk.hold_ne hother)
    exact hget.1

/-- a put that leaves the content cannot be seen exactly when it was answered before -/
theorem get_put_iff (hleaves : store.leaves disk writer id vk = some content) :
    (∀ a, store.get (store.put disk writer id vk).2 a = store.get disk a) ↔
      store.Answers disk id content := by
  simp only [put_disk, hleaves, get_hold]
  refine forall_congr' fun a => ?_
  by_cases hsame : disk.locate (store.pathFor disk a) = disk.locate (store.pathFor disk id)
  · rw [if_pos hsame]
    exact ⟨fun h _ => h.symm, fun h => (h hsame).symm⟩
  · rw [if_neg hsame]
    exact iff_of_true rfl fun h => absurd h hsame

/-- a put that gets to its file and does not fail there has written the whole key -/
theorem put_ok_of_leaves (hleaves : store.leaves disk writer id vk = some content)
    (hwrite : writer.write (store.pathFor disk id) = none) :
    (store.put disk writer id vk).1 = .ok () := by
  exact put_ok.mpr ⟨(leaves_some.mp hleaves).1, hwrite⟩

end VkStore

/-! ## failed runs -/

namespace UltraHonkProvider
variable {p : UltraHonkProvider} {m : Machine} {r : ProofRequest} {named : Named} {vk : VkDocument}

/-- the key of a proof is put into the store -/
def putKey (p : UltraHonkProvider) (m : Machine) (named : Named) (vk : VkDocument) :
    Except UltraHonkError Unit × Disk :=
  p.config.vkStore.put m.host.disk m.writer named.pinned.vkId vk

theorem generate_stored (hnamed : p.proveNamed m r = .ok named) (hvk : named.artifacts.vk = some vk)
    (hput : (p.putKey m named vk).1 = .ok ()) :
    p.generate m r = (respond r named, (p.putKey m named vk).2) := by
  have hstore : p.storeKey m named = (.ok (), (p.putKey m named vk).2) :=
    Prod.ext ((storeKey_ok hvk).mpr hput) (storeKey_disk hvk)
  unfold generate
  simp only [hnamed, hstore]

/-- a proof whose key is not stored, or whose words are not all hexadecimal, is an error -/
theorem generate_error (hnamed : p.proveNamed m r = .ok named) (hvk : named.artifacts.vk = some vk)
    (hbad : ¬ ((p.putKey m named vk).1 = .ok () ∧
      ∀ word ∈ named.artifacts.proof.proof, IsFieldText word.toList)) :
    ∃ e, p.generate m r = (.error (.error e), (p.putKey m named vk).2) := by
  cases hput : (p.putKey m named vk).1 with
  | error e =>
    have hstore : p.storeKey m named = (.error (generationFailed
        s!"cannot store verification key: {e.message}"), (p.putKey m named vk).2) := by
      refine Prod.ext ?_ (storeKey_disk hvk)
      unfold storeKey
      rw [hvk]
      exact congrArg (Except.mapError _) hput
    unfold generate
    simp only [hnamed, hstore]
    exact ⟨_, rfl⟩
  | ok _ =>
    rw [generate_stored hnamed hvk hput]
    rcases respond_cases r named with ⟨hall, _⟩ | ⟨_, e, herror⟩
    · exact absurd ⟨hput, hall⟩ hbad
    · exact ⟨e, congrArg (Prod.mk · _) herror⟩

/-- and no other run that fails has touched the disk -/
theorem generate_error_cases {e : ProviderError} {disk : Disk}
    (h : p.generate m r = (.error (.error e), disk)) : disk = m.host.disk ∨
      ∃ named vk, p.proveNamed m r = .ok named ∧ named.artifacts.vk = some vk ∧
        disk = (p.putKey m named vk).2 ∧ ¬ ((p.putKey m named vk).1 = .ok () ∧
          ∀ word ∈ named.artifacts.proof.proof, IsFieldText word.toList) := by
  cases hnamed : p.proveNamed m r with
  | error e' =>
    unfold generate at h
    rw [hnamed] at h
    exact Or.inl (Prod.mk.inj h).2.symm
  | ok named =>
    cases hvk : named.artifacts.vk with
    | none =>
      have hstore : p.storeKey m named = (.ok (), m.host.disk) := by rw [storeKey, hvk]
      unfold generate at h
      simp only [hnamed, hstore] at h
      exact Or.inl (Prod.mk.inj h).2.symm
    | some vk =>
      by_cases hgood : (p.putKey m named vk).1 = .ok () ∧
          ∀ word ∈ named.artifacts.proof.proof, IsFieldText word.toList
      · rw [generate_stored hnamed hvk hgood.1] at h
        rcases respond_cases r named with ⟨_, response, hresponse⟩ | ⟨⟨word, hword, hbad⟩, _⟩
        · rw [hresponse] at h
          cases h
        · exact absurd (hgood.2 word hword) hbad
      · obtain ⟨e', herror⟩ := generate_error hnamed hvk hgood
        rw [herror] at h
        exact Or.inr ⟨named, vk, rfl, hvk, (Prod.mk.inj h).2.symm, hgood⟩

end UltraHonkProvider

/-- `bb` leaves a proof with a word that is not hexadecimal, and the rest in order -/
def garbledProof : ProofDocument := { sampleProof with proof := ["0xzz"] }

def garbledMachine (c : Operation) : Machine :=
  { labelMachine c c with parseProof := fun _ => .ok garbledProof }

def garbledNamed (c : Operation) : Named :=
  { labelNamed c c with
    artifacts :=
      { sampleDocuments (expectations c).publicNames.length with proof := garbledProof } }

section
variable {c : Operation}

theorem garbled_proveNamed : sampleProvider.proveNamed (garbledMachine c) (sampleRequest c c)
    = .ok (garbledNamed c) := by
  let n := (expectations c).publicNames.length
  have hgate := @sample_gate (sampleIdentity c) c c n
  have hsolve := @sample_solveWitness (sampleIdentity c) c c n
  exact UltraHonkProvider.proveNamed_ok.mpr ⟨_, _, _, _, hgate, rfl, hsolve, rfl,
    sample_prove_words ["0xzz"], label_nameOutputs⟩

theorem garbled_put : sampleProvider.putKey (garbledMachine c) (garbledNamed c) sampleKey
    = (.ok (), labelDisk c) := rfl

theorem garbled_get : sampleProvider.config.vkStore.get (labelDisk c) (garbledNamed c).pinned.vkId
    = .ok sampleKey := by
  have hget : sampleProvider.config.vkStore.get
      (sampleProvider.putKey (garbledMachine c) (garbledNamed c) sampleKey).2
      (garbledNamed c).pinned.vkId = .ok sampleKey :=
    VkStore.get_put rfl rfl (congrArg Prod.fst garbled_put)
  rw [garbled_put] at hget
  exact hget

/-- nothing was there before -/
theorem garbled_get_before : sampleProvider.config.vkStore.get (garbledMachine c).host.disk
    (garbledNamed c).pinned.vkId ≠ .ok sampleKey := by
  intro hfound
  obtain ⟨_, text, hfile, _⟩ := VkStore.get_ok.mp hfound
  cases hfile

theorem garbled_words : ¬ ∀ word ∈ (garbledNamed c).artifacts.proof.proof,
    IsFieldText word.toList := by
  intro hall
  have hbad : ¬ IsFieldText "0xzz".toList := by
    unfold IsFieldText
    decide
  exact hbad (hall "0xzz" List.mem_cons_self)

theorem garbled_generate :
    ∃ e, sampleProvider.generate (garbledMachine c) (sampleRequest c c)
      = (.error (.error e), labelDisk c) :=
  UltraHonkProvider.generate_error garbled_proveNamed rfl fun h => garbled_words h.2

end

end Crucible
