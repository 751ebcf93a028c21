import Crucible.UltraHonk.Store

/-!
# The key store is a map (`crates/ultrahonk/src/store.rs`)

The store tells keys apart by what their ids say, not by how they say it.

* `VkKey`                    circuit, version and checksum of an id, or a foreign id itself;
* `VkStore.locate_eq_iff`    two ids have one file exactly when they have one key;
* `VkStore.putAll`           a sequence of puts, and which of them succeeded;
* `VkStore.stored_putAll`    the disk after any sequence of puts;
* `vk_store_by_key`          what a lookup finds there.
-/

namespace Crucible
open Checked Text Paths

/-! ## keys -/

/-- what an id is for -/
inductive VkKey where
  | artifact (circuit : CircuitId) (version : Version) (hash : ArtifactChecksum)
  | foreign (id : VerificationKeyId)
deriving DecidableEq

def VerificationKeyId.key (id : VerificationKeyId) : VkKey :=
  match VerificationKeyIdPolicy.parse id.id with
  | .ok (circuit, version, hash) => .artifact circuit version hash
  | .error _ => .foreign id

/-- how `id_for` spells the key -/
def VkKey.spelling : VkKey → String
  | .artifact circuit version hash => VerificationKeyIdPolicy.idFor circuit version hash
  | .foreign id => id.id

/-- the id is spelled as `id_for` spells it, or foreign -/
def VerificationKeyId.Canonical (id : VerificationKeyId) : Prop := id.id = id.key.spelling

/-- where the file of a key is, from the root -/
def VkKey.names (sha256 : List UInt8 → List UInt8) : VkKey → List String
  | .artifact circuit version hash =>
    step [] circuit.id ++ [version.display, hash.hex ++ ".json"]
  | .foreign id => [] ++ ["_foreign", hexEncode (sha256 id.id.toUTF8.data.toList) ++ ".json"]

/-- one key, one spelling -/
theorem VerificationKeyId.eq_of_canonical {a b : VerificationKeyId} (ha : a.Canonical)
    (hb : b.Canonical) (h : a.key = b.key) : a = b := by
  have hid : a.id = b.id := by rw [ha, hb, h]
  cases a
  cases b
  exact congrArg VerificationKeyId.mk hid

namespace VkStore
open VerificationKeyIdPolicy
variable {disk : Disk} {store : VkStore} {a b id : VerificationKeyId}

theorem circuit_ne_up {circuit : CircuitId} {version : Version} {hash : ArtifactChecksum}
    (hup : ¬ id.Climbs) (hparse : parse id.id = .ok (circuit, version, hash)) :
    circuit.id ≠ ".." := by
  intro h
  refine hup ⟨version, hash, ?_⟩
  cases circuit
  obtain rfl := h
  exact hparse

theorem locate_pathFor (hup : ¬ id.Climbs) : disk.locate (store.pathFor disk id)
    = disk.locate store.root ++ id.key.names disk.sha256 := by
  unfold VerificationKeyId.key
  cases hparse : parse id.id with
  | error e => exact locate_of_foreign hparse
  | ok parts =>
    obtain ⟨circuit, version, hash⟩ := parts
    rw [locate_of_parsed hparse, step_of_ne_up (circuit_ne_up hup hparse), List.append_assoc]
    rfl

theorem below_root (hup : ¬ id.Climbs) :
    Below (disk.locate store.root) (disk.locate (store.pathFor disk id)) :=
  below_iff.mpr fun version hash h => absurd ⟨version, hash, h⟩ hup

/-- the segment of a circuit name says which it is, or that it is `.` -/
theorem circuit_of_step {c d : CircuitId} (hc : CircuitId.new c.id = .ok c) (hcup : c.id ≠ "..")
    (hd : CircuitId.new d.id = .ok d) (hdup : d.id ≠ "..") (h : step [] c.id = step [] d.id) :
    c = d := by
  have hplain {x : CircuitId} (hx : CircuitId.new x.id = .ok x) (hxup : x.id ≠ "..")
      (hdot : x.id ≠ ".") : step [] x.id = [x.id] :=
    step_of_plain ⟨circuit_ne_empty hx, hdot, hxup⟩
  have hid : c.id = d.id := by
    by_cases hcdot : c.id = "."
    · by_cases hddot : d.id = "."
      · rw [hcdot, hddot]
      · rw [hcdot, hplain hd hdup hddot] at h
        cases h
    · by_cases hddot : d.id = "."
      · rw [hddot, hplain hc hcup hcdot] at h
        cases h
      · rw [hplain hc hcup hcdot, hplain hd hdup hddot] at h
        exact List.head_eq_of_cons_eq h
  cases c
  cases d
  exact congrArg CircuitId.mk hid

theorem json_inj {s t : String} (h : s ++ ".json" = t ++ ".json") : s = t := by
  refine String.toList_inj.mp ?_
  have hlist := congrArg String.toList h
  rw [String.toList_append, String.toList_append] at hlist
  exact List.append_cancel_right hlist

section
variable {sha256 : List UInt8 → List UInt8} {c d : CircuitId} {v w : Version}
  {hash digest : ArtifactChecksum}

theorem artifact_of_names (hc : CircuitId.new c.id = .ok c) (hcup : c.id ≠ "..")
    (hd : CircuitId.new d.id = .ok d) (hdup : d.id ≠ "..")
    (h : (VkKey.artifact c v hash).names sha256 = (VkKey.artifact d w digest).names sha256) :
    VkKey.artifact c v hash = .artifact d w digest := by
  obtain ⟨hstep, htail⟩ := List.append_inj' h rfl
  obtain ⟨hversion, hfile⟩ := List.cons.inj htail
  have hcircuit : c = d := circuit_of_step hc hcup hd hdup hstep
  have hversion : v = w := display_injective hversion
  have hhex : hash.hex = digest.hex := json_inj (List.head_eq_of_cons_eq hfile)
  cases hash
  cases digest
  obtain rfl := hhex
  rw [hcircuit, hversion]

/-- no version is displayed as the directory of the foreign ids -/
theorem artifact_names_ne_foreign :
    (VkKey.artifact c v hash).names sha256 ≠ (VkKey.foreign id).names sha256 := by
  intro h
  obtain ⟨_, htail⟩ := List.append_inj' h rfl
  exact display_ne (by decide) v (List.head_eq_of_cons_eq htail)

theorem digest_of_names
    (h : (VkKey.foreign a).names sha256 = (VkKey.foreign b).names sha256) :
    sha256 a.id.toUTF8.data.toList = sha256 b.id.toUTF8.data.toList := by
  obtain ⟨_, htail⟩ := List.append_inj' h rfl
  obtain ⟨_, hfile⟩ := List.cons.inj htail
  exact hexEncode_injective (json_inj (List.head_eq_of_cons_eq hfile))

end

/-- two keys with one file are one -/
theorem key_of_names (ha : ¬ a.Climbs) (hb : ¬ b.Climbs)
    (hsha : disk.sha256 a.id.toUTF8.data.toList = disk.sha256 b.id.toUTF8.data.toList → a = b)
    (h : a.key.names disk.sha256 = b.key.names disk.sha256) : a.key = b.key := by
  have hnew {x : VerificationKeyId} {c : CircuitId} {v : Version} {d : ArtifactChecksum}
      (hparse : parse x.id = .ok (c, v, d)) : CircuitId.new c.id = .ok c := by
    obtain ⟨_, _, _, hnew, _, _⟩ := parse_ok.mp hparse
    exact hnew
  unfold VerificationKeyId.key at h ⊢
  cases hpa : parse a.id with
  | ok parts =>
    obtain ⟨c, v, d⟩ := parts
    cases hpb : parse b.id with
    | ok parts' =>
      obtain ⟨c', v', d'⟩ := parts'
      simp only [hpa, hpb] at h ⊢
      exact artifact_of_names (hnew hpa) (circuit_ne_up ha hpa) (hnew hpb) (circuit_ne_up hb hpb) h
    | error e =>
      simp only [hpa, hpb] at h
      exact absurd h artifact_names_ne_foreign
  | error e =>
    cases hpb : parse b.id with
    | ok parts' =>
      obtain ⟨c', v', d'⟩ := parts'
      simp only [hpa, hpb] at h
      exact absurd h.symm artifact_names_ne_foreign
    | error e' =>
      simp only [hpa, hpb] at h ⊢
      exact congrArg VkKey.foreign (hsha (digest_of_names h))

theorem locate_eq_iff (ha : ¬ a.Climbs) (hb : ¬ b.Climbs)
    (hsha : disk.sha256 a.id.toUTF8.data.toList = disk.sha256 b.id.toUTF8.data.toList → a = b) :
    disk.locate (store.pathFor disk a) = disk.locate (store.pathFor disk b) ↔ a.key = b.key := by
  rw [locate_pathFor ha, locate_pathFor hb, List.append_cancel_left_eq]
  exact ⟨key_of_names ha hb hsha, fun h => congrArg _ h⟩

/-! ## histories -/

/-- a put of a document under an id -/
abbrev Put := VerificationKeyId × VkDocument

/-- a put, and what happens to its writes -/
structure PutCall where
  writer : DiskWriter
  id : VerificationKeyId
  doc : VkDocument

section
variable (store : VkStore)

/-- one put: a disk and the puts that succeeded so far, and the same after it -/
def putNext (state : Disk × List Put) (call : PutCall) : Disk × List Put :=
  match store.put state.1 call.writer call.id call.doc with
  | (.ok _, disk) => (disk, state.2 ++ [(call.id, call.doc)])
  | (.error _, disk) => (disk, state.2)

/-- a sequence of puts: the disk that they leave, and those that succeeded -/
def putAll (disk : Disk) (history : List PutCall) : Disk × List Put :=
  history.foldl store.putNext (disk, [])

end

section
variable {α : Type}

/-- what was put last under an id that is `p` -/
def lastPut (p : VerificationKeyId → Prop) [DecidablePred p] (puts : List (VerificationKeyId × α)) :
    Option α :=
  (puts.filter fun entry => p entry.1).getLast?.map Prod.snd

variable {p q : VerificationKeyId → Prop} [DecidablePred p] [DecidablePred q]
  {puts : List (VerificationKeyId × α)} {entry : VerificationKeyId × α} {last : α}

theorem lastPut_concat : lastPut p (puts ++ [entry])
      = if p entry.1 then some entry.2 else lastPut p puts := by
  unfold lastPut
  rw [List.filter_append, List.filter_singleton]
  by_cases hp : p entry.1
  · rw [if_pos hp, decide_eq_true hp, cond_true, List.getLast?_concat]
    rfl
  · rw [if_neg hp, decide_eq_false hp, cond_false, List.append_nil]

theorem lastPut_isSome (h : entry ∈ puts) (hp : p entry.1) :
    ∃ last, lastPut p puts = some last := by
  have hmem : entry ∈ puts.filter fun e => p e.1 := List.mem_filter.mpr ⟨h, decide_eq_true hp⟩
  have hne : puts.filter (fun e => p e.1) ≠ [] := List.ne_nil_of_mem hmem
  obtain ⟨last, hlast⟩ := Option.isSome_iff_exists.mp (List.getLast?_isSome.mpr hne)
  exact ⟨last.2, Option.map_eq_some_iff.mpr ⟨last, hlast, rfl⟩⟩

theorem lastPut_some (h : lastPut p puts = some last) :
    ∃ entry ∈ puts, p entry.1 ∧ entry.2 = last := by
  obtain ⟨entry, hlast, hentry⟩ := Option.map_eq_some_iff.mp h
  obtain ⟨hmem, hp⟩ := List.mem_filter.mp (List.mem_of_getLast? hlast)
  exact ⟨entry, hmem, of_decide_eq_true hp, hentry⟩

theorem lastPut_congr (h : ∀ entry ∈ puts, p entry.1 ↔ q entry.1) :
    lastPut p puts = lastPut q puts := by
  have hfilter : puts.filter (fun entry => p entry.1) = puts.filter fun entry => q entry.1 :=
    List.filter_congr fun entry hentry => decide_eq_decide.mpr (h entry hentry)
  rw [lastPut, lastPut, hfilter]

end

/-- no digest stands for two of the ids -/
def Distinguishes (sha256 : List UInt8 → List UInt8) (ids : List VerificationKeyId) : Prop :=
  ∀ a ∈ ids, ∀ b ∈ ids,
    sha256 a.id.toUTF8.data.toList = sha256 b.id.toUTF8.data.toList → a = b

/-- nothing is below the root of the store -/
def Empty (disk : Disk) (store : VkStore) : Prop :=
  ∀ path, Below (disk.locate store.root) (disk.locate path) →
    disk.file path = none ∧ disk.Regular path

/-- a file with a key, or no file -/
def HasKey (disk : Disk) (file : Option (Except String String)) : Option VkDocument → Prop
  | none => file = none
  | some doc => doc.scheme = schemeUltraHonk ∧
      ∃ text, file = some (.ok text) ∧ disk.parseVk text = .ok doc

/-- a disk that a sequence of puts under the ids has left: the file of each key is its last
document -/
structure Stored (disk : Disk) (store : VkStore) (ids : List VerificationKeyId)
    (state : Disk × List Put) : Prop where
  /-- only files change -/
  rest : state.1 = { disk with file := state.1.file }
  puts : ∀ entry ∈ state.2, entry.1 ∈ ids
  file : ∀ id ∈ ids, HasKey disk (state.1.file (store.pathFor disk id))
    (lastPut (fun a => a.key = id.key) state.2)

/-- where a file of the store is depends on the disk by its digests only -/
theorem pathFor_congr {other : Disk} (h : other.sha256 = disk.sha256) :
    store.pathFor other id = store.pathFor disk id := by
  rw [pathFor, pathFor, h]

section
variable {ids : List VerificationKeyId} {state : Disk × List Put}

theorem Stored.pathFor_eq (h : Stored disk store ids state) (id : VerificationKeyId) :
    store.pathFor state.1 id = store.pathFor disk id :=
  pathFor_congr (by rw [h.rest])

/-- two of the ids have one file exactly when they have one key -/
theorem Stored.locate_eq_iff (h : Stored disk store ids state) (ha : a ∈ ids) (hid : id ∈ ids)
    (hup : ∀ id ∈ ids, ¬ id.Climbs) (hsha : Distinguishes disk.sha256 ids) :
    state.1.locate (store.pathFor disk id) = state.1.locate (store.pathFor state.1 a) ↔
      a.key = id.key := by
  have hcwd : state.1.cwd = disk.cwd := by rw [h.rest]
  rw [h.pathFor_eq, Disk.locate, Disk.locate, hcwd, eq_comm]
  exact VkStore.locate_eq_iff (hup _ ha) (hup _ hid) (hsha _ ha _ hid)

/-- a put whose writer opens no file that it fails to write leaves its key, or nothing -/
theorem put_clean {writer : DiskWriter} {doc : VkDocument} (hclean : writer.Clean)
    (hregular : disk.Regular (store.pathFor disk id)) :
    ((store.put disk writer id doc).1 = .ok () ∧ doc.scheme = schemeUltraHonk ∧
      (store.put disk writer id doc).2
        = disk.hold (store.pathFor disk id) (.ok (writer.renderVk doc))) ∨
    ∃ e, store.put disk writer id doc = (.error e, disk) := by
  cases hput : (store.put disk writer id doc).1 with
  | ok _ =>
    refine Or.inl ⟨rfl, (prepare_ok.mp (put_ok.mp hput).1).1, ?_⟩
    rw [put_disk, leaves_of_ok hregular hput]
  | error e =>
    refine Or.inr ⟨e, Prod.ext hput ?_⟩
    have hnone : store.leaves disk writer id doc = none := by
      cases hleaves : store.leaves disk writer id doc with
      | none => rfl
      | some content =>
        obtain ⟨hready, hwrite⟩ := leaves_some.mp hleaves
        rw [put_ok.mpr ⟨hready, (DiskWriter.leaves_clean hclean hwrite).1⟩] at hput
        cases hput
    rw [put_disk, hnone]

/-- a put keeps the files of the keys -/
theorem Stored.putNext (h : Stored disk store ids state) {call : PutCall} (hcall : call.id ∈ ids)
    (hempty : store.Empty disk)
    (hserde : disk.parseVk (call.writer.renderVk call.doc) = .ok call.doc)
    (hclean : call.writer.Clean) (hup : ∀ id ∈ ids, ¬ id.Climbs)
    (hsha : Distinguishes disk.sha256 ids) :
    Stored disk store ids (store.putNext state call) := by
  have hregular : state.1.Regular (store.pathFor state.1 call.id) := by
    have hdevice : state.1.device = disk.device := by rw [h.rest]
    rw [h.pathFor_eq, Disk.Regular, hdevice]
    exact (hempty _ (below_root (hup _ hcall))).2
  unfold VkStore.putNext
  rcases @put_clean _ _ _ _ call.doc hclean hregular with ⟨hok, hscheme, hdisk⟩ | ⟨e, herror⟩
  · have hput : store.put state.1 call.writer call.id call.doc = (.ok (), state.1.hold
        (store.pathFor state.1 call.id) (.ok (call.writer.renderVk call.doc))) := Prod.ext hok hdisk
    simp only [hput]
    refine ⟨?_, fun entry hentry => ?_, fun id hid => ?_⟩
    · exact Disk.hold_rest h.rest
    · rcases List.mem_append.mp hentry with hentry | hentry
      · exact h.puts entry hentry
      · obtain rfl := List.mem_singleton.mp hentry
        exact hcall
    · show HasKey disk (if state.1.locate (store.pathFor disk id)
          = state.1.locate (store.pathFor state.1 call.id)
        then some (.ok (call.writer.renderVk call.doc))
        else state.1.file (store.pathFor disk id)) _
      rw [lastPut_concat]
      have hlocate := h.locate_eq_iff hcall hid hup hsha
      by_cases hkey : call.id.key = id.key
      · rw [if_pos (hlocate.mpr hkey), if_pos hkey]
        exact ⟨hscheme, _, rfl, hserde⟩
      · rw [if_neg fun heq => hkey (hlocate.mp heq), if_neg hkey]
        exact h.file id hid
  · simp only [herror]
    exact h

/-- and so does a sequence of puts -/
theorem stored_putAll {history : List PutCall} (hempty : store.Empty disk)
    (hids : ∀ call ∈ history, call.id ∈ ids)
    (hserde : ∀ call ∈ history, disk.parseVk (call.writer.renderVk call.doc) = .ok call.doc)
    (hclean : ∀ call ∈ history, call.writer.Clean) (hup : ∀ id ∈ ids, ¬ id.Climbs)
    (hsha : Distinguishes disk.sha256 ids) :
    Stored disk store ids (store.putAll disk history) := by
  have hrun : ∀ state, Stored disk store ids state →
      Stored disk store ids (history.foldl store.putNext state) := by
    induction history with
    | nil => exact fun _ h => h
    | cons call history ih =>
      obtain ⟨hid, hids⟩ := List.forall_mem_cons.mp hids
      obtain ⟨hread, hserde⟩ := List.forall_mem_cons.mp hserde
      obtain ⟨hwriter, hclean⟩ := List.forall_mem_cons.mp hclean
      intro state h
      exact ih hids hserde hclean _ (h.putNext hid hempty hread hwriter hup hsha)
  refine hrun _ ⟨rfl, fun _ he => absurd he List.not_mem_nil, fun id hid => ?_⟩
  exact (hempty _ (below_root (hup id hid))).1

/-- what a lookup finds among the files of the keys -/
theorem Stored.get (h : Stored disk store ids state) (hid : id ∈ ids) :
    store.get state.1 id = fromOption (.missingFile (displayPath (store.pathFor disk id)))
      (lastPut (fun a => a.key = id.key) state.2) := by
  have hfile := h.file id hid
  cases hlast : lastPut (fun a => a.key = id.key) state.2 with
  | none =>
    rw [hlast] at hfile
    have hnone : state.1.file (store.pathFor disk id) = none := hfile
    rw [VkStore.get, h.pathFor_eq, hnone]
    rfl
  | some doc =>
    rw [hlast] at hfile
    obtain ⟨hscheme, text, hread, hparse⟩ := hfile
    refine get_ok.mpr ⟨hscheme, text, ?_, ?_⟩
    · rw [h.pathFor_eq]
      exact hread
    · rw [h.rest]
      exact hparse

theorem Stored.contains (h : Stored disk store ids state) (hid : id ∈ ids) :
    store.contains state.1 id = (lastPut (fun a => a.key = id.key) state.2).isSome := by
  have hfile := h.file id hid
  rw [VkStore.contains, h.pathFor_eq]
  cases hlast : lastPut (fun a => a.key = id.key) state.2 with
  | none =>
    rw [hlast] at hfile
    exact congrArg Option.isSome hfile
  | some doc =>
    rw [hlast] at hfile
    obtain ⟨_, _, hread, _⟩ := hfile
    exact congrArg Option.isSome hread

/-- a put under another key is not seen, whether it fails or not -/
theorem Stored.put_other (h : Stored disk store ids state) (hid : id ∈ ids) (ha : a ∈ ids)
    (hup : ∀ id ∈ ids, ¬ id.Climbs) (hsha : Distinguishes disk.sha256 ids)
    (hkey : a.key ≠ id.key) (writer : DiskWriter) (doc : VkDocument) :
    let after := (store.put state.1 writer a doc).2
    store.get after id = store.get state.1 id ∧
      store.contains after id = store.contains state.1 id := by
  have hlocate : state.1.locate (store.pathFor state.1 id)
      ≠ state.1.locate (store.pathFor state.1 a) := by
    rw [h.pathFor_eq id]
    exact fun heq => hkey ((h.locate_eq_iff ha hid hup hsha).mp heq)
  have hrest : (store.put state.1 writer a doc).2
      = { state.1 with file := (store.put state.1 writer a doc).2.file } := put_rest
  exact get_congr (by rw [hrest]) (pathFor_congr (by rw [hrest])) (put_frame hlocate)

end

end VkStore

/-! ## the store as a map -/

/-- **The key store is a map, keyed by what an id says.**  After any sequence of puts on an empty
store, of which some fail before their file is opened, a lookup finds the document of the last put
that succeeded under an id with the same circuit, version and checksum, or under the same foreign
id; a put under any other key changes nothing.  Among ids in the spelling of `id_for` the key is the
id. -/
theorem vk_store_by_key {disk : Disk} {store : VkStore} {ids : List VerificationKeyId}
    {history : List VkStore.PutCall} {id : VerificationKeyId} (hempty : store.Empty disk)
    (hid : id ∈ ids) (hids : ∀ call ∈ history, call.id ∈ ids)
    (hserde : ∀ call ∈ history, disk.parseVk (call.writer.renderVk call.doc) = .ok call.doc)
    (hclean : ∀ call ∈ history, call.writer.Clean)
    (hsha : VkStore.Distinguishes disk.sha256 ids) (hup : ∀ a ∈ ids, ¬ a.Climbs) :
    let after := store.putAll disk history
    let last := VkStore.lastPut (fun a => a.key = id.key) after.2
    store.get after.1 id
      = fromOption (.missingFile (displayPath (store.pathFor disk id))) last ∧
    store.contains after.1 id = last.isSome ∧
    (∀ a ∈ ids, a.key ≠ id.key → ∀ writer doc, let more := (store.put after.1 writer a doc).2
      store.get more id = store.get after.1 id ∧
        store.contains more id = store.contains after.1 id) ∧
    ((∀ a ∈ ids, a.Canonical) → last = VkStore.lastPut (fun a => a = id) after.2) := by
  have hstored : VkStore.Stored disk store ids (store.putAll disk history) :=
    VkStore.stored_putAll hempty hids hserde hclean hup hsha
  refine ⟨hstored.get hid, hstored.contains hid, fun a ha hkey writer doc => ?_,
    fun hcanonical => ?_⟩
  · exact hstored.put_other hid ha hup hsha hkey writer doc
  · refine VkStore.lastPut_congr fun entry hentry => ?_
    have hmem : entry.1 ∈ ids := hstored.puts entry hentry
    exact ⟨VerificationKeyId.eq_of_canonical (hcanonical _ hmem) (hcanonical _ hid),
      fun heq => congrArg VerificationKeyId.key heq⟩

/-! ### two spellings -/

def canonicalId : VerificationKeyId := ⟨"uhk/transfer/0.1.0/" ++ someDigest⟩

/-- the version with a plus sign, which `u32::from_str` reads over -/
def plusId : VerificationKeyId := ⟨"uhk/transfer/+0.1.0/" ++ someDigest⟩

def storedKey : VkDocument where
  vk := ["0x00", "0x0e"]
  hash := "0x" ++ someDigest
  bbVersion := "6.0.0-nightly.20260903"
  scheme := schemeUltraHonk

/-- the digests of the two ids -/
def idSha256 (bytes : List UInt8) : List UInt8 :=
  if bytes = canonicalId.id.toUTF8.data.toList then
    [0x41, 0x59, 0x4c, 0x88, 0x63, 0xdd, 0x58, 0xdc, 0x46, 0xa3, 0xc2, 0x54, 0xfb, 0x79, 0x07, 0x3e,
      0x9b, 0xff, 0x78, 0x28, 0xee, 0xa6, 0x36, 0xa9, 0xdf, 0x54, 0x90, 0xbf, 0xa0, 0x35, 0x80, 0x84]
  else
    [0xf8, 0x02, 0x8d, 0x26, 0x6e, 0xe1, 0x21, 0x67, 0xda, 0x39, 0x80, 0x74, 0x1a, 0x63, 0x1b, 0x89,
      0xb4, 0xd4, 0x6e, 0xa9, 0xf4, 0x85, 0x5c, 0x6e, 0x0f, 0x79, 0x0e, 0x04, 0xe7, 0xa8, 0x83, 0x01]

/-- an empty disk on which a text is read back as the document it renders -/
def keyDisk : Disk where
  cwd := ["home"]
  file _ := none
  device _ := none
  parseVk text :=
    if text = storedKey.json.compact then .ok storedKey
    else .error "expected value at line 1 column 1"
  sha256 := idSha256

def keyWriter : DiskWriter where
  createDirAll _ := .ok ()
  write _ := none
  renderVk doc := doc.json.compact

def keyStore : VkStore := ⟨["artifacts", "verification-keys"]⟩

section
open VerificationKeyIdPolicy VkStore

theorem parse_canonicalId :
    parse canonicalId.id = .ok (⟨"transfer"⟩, ⟨0, 1, 0⟩, ⟨someDigest⟩) := by
  decide +kernel

theorem parse_plusId : parse plusId.id = .ok (⟨"transfer"⟩, ⟨0, 1, 0⟩, ⟨someDigest⟩) := by
  decide +kernel

theorem plusId_key : plusId.key = canonicalId.key := by
  rw [VerificationKeyId.key, VerificationKeyId.key, parse_plusId, parse_canonicalId]

theorem plusId_pathFor :
    keyStore.pathFor keyDisk plusId = keyStore.pathFor keyDisk canonicalId := by
  rw [pathFor, pathFor, parse_plusId, parse_canonicalId]

theorem storedKey_reads : keyDisk.parseVk (keyWriter.renderVk storedKey) = .ok storedKey := by
  simp only [keyDisk, keyWriter, if_true]

/-- the disk with the key under `plusId` -/
def plusDisk : Disk :=
  keyDisk.hold (keyStore.pathFor keyDisk plusId) (.ok (keyWriter.renderVk storedKey))

/-- it is put there -/
def plusPuts : List PutCall := [⟨keyWriter, plusId, storedKey⟩]

theorem putAll_plus : keyStore.putAll keyDisk plusPuts = (plusDisk, [(plusId, storedKey)]) := rfl

theorem plusDisk_file : plusDisk.file (keyStore.pathFor plusDisk canonicalId)
    = some (.ok (keyWriter.renderVk storedKey)) := by
  have hpath : keyStore.pathFor plusDisk canonicalId = keyStore.pathFor keyDisk plusId :=
    (pathFor_congr rfl).trans plusId_pathFor.symm
  rw [hpath]
  exact Disk.hold_self

theorem plusDisk_get : keyStore.get plusDisk canonicalId = .ok storedKey := by
  have hparse : plusDisk.parseVk = keyDisk.parseVk := rfl
  refine get_ok.mpr ⟨rfl, keyWriter.renderVk storedKey, plusDisk_file, ?_⟩
  rw [hparse, storedKey_reads]

theorem plusDisk_contains : keyStore.contains plusDisk canonicalId = true := by
  rw [contains, plusDisk_file]
  rfl

end

/-- what was put under one spelling is found under the other, where nothing was put -/
theorem plus_found_without : canonicalId ≠ plusId ∧
    VerificationKeyId.new canonicalId.id = some canonicalId ∧
    VerificationKeyId.new plusId.id = some plusId ∧
    keyStore.contains keyDisk canonicalId = false ∧
    let after := keyStore.putAll keyDisk plusPuts
    VkStore.lastPut (fun a => a = canonicalId) after.2 = none ∧
      keyStore.get after.1 canonicalId = .ok storedKey ∧
      keyStore.contains after.1 canonicalId = true := by
  refine ⟨by decide +kernel, by decide +kernel, by decide +kernel, rfl, ?_⟩
  rw [putAll_plus]
  exact ⟨by decide +kernel, plusDisk_get, plusDisk_contains⟩

theorem vk_store_by_key_plus :
    let after := keyStore.putAll keyDisk plusPuts
    keyStore.get after.1 canonicalId = .ok storedKey ∧
      keyStore.contains after.1 canonicalId = true := by
  have hpair {P : VerificationKeyId → Prop} (hc : P canonicalId) (hp : P plusId) :
      ∀ a ∈ [canonicalId, plusId], P a := by
    intro a ha
    rcases List.mem_pair.mp ha with rfl | rfl
    · exact hc
    · exact hp
  have hsha : VkStore.Distinguishes keyDisk.sha256 [canonicalId, plusId] :=
    hpair (hpair (fun _ => rfl) (fun h => absurd h (by decide +kernel)))
      (hpair (fun h => absurd h (by decide +kernel)) (fun _ => rfl))
  have hup : ∀ a ∈ [canonicalId, plusId], ¬ a.Climbs := by
    refine hpair (fun ⟨v, d, h⟩ => ?_) (fun ⟨v, d, h⟩ => ?_)
    · rw [parse_canonicalId] at h
      simp at h
    · rw [parse_plusId] at h
      simp at h
  have hone {P : VkStore.PutCall → Prop} (h : P ⟨keyWriter, plusId, storedKey⟩) :
      ∀ call ∈ plusPuts, P call := by
    intro call hcall
    rw [List.mem_singleton.mp hcall]
    exact h
  have hlast : VkStore.lastPut (fun a => a.key = canonicalId.key)
      (keyStore.putAll keyDisk plusPuts).2 = some storedKey := by
    rw [putAll_plus]
    have hputs : [(plusId, storedKey)] = [] ++ [(plusId, storedKey)] := rfl
    rw [hputs, VkStore.lastPut_concat, if_pos plusId_key]
  obtain ⟨hget, hcontains, _⟩ := @vk_store_by_key keyDisk keyStore [canonicalId, plusId] plusPuts
    canonicalId (fun _ _ => ⟨rfl, rfl⟩) List.mem_cons_self
    (hone (List.mem_cons_of_mem _ List.mem_cons_self)) (hone storedKey_reads)
    (hone fun _ _ h => by cases h) hsha hup
  refine ⟨hget.trans ?_, hcontains.trans ?_⟩
  · rw [hlast]
    rfl
  · rw [hlast]
    rfl

end Crucible
