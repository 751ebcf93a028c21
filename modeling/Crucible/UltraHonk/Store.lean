import Crucible.UltraHonk.Exec

/-!
# Where the key store keeps its keys (`crates/ultrahonk/src/store.rs`)

A circuit name can be `.` or `..`, and becomes a segment of the path.

* `VkStore.locate_of_parsed`, `VkStore.locate_of_foreign`   the two layouts under the root;
* `VkStore.put_frame`, `VkStore.get_congr`   what a put changes, and what a lookup reads;
* `vk_store_confined_iff`                    when the store stays below its root.
-/

namespace Crucible
open Checked Text Paths

/-! ## the parts of an id -/

namespace VerificationKeyIdPolicy

theorem parse_ok {id : String} {circuit : CircuitId} {version : Version} {hash : ArtifactChecksum} :
    parse id = .ok (circuit, version, hash) ↔ ∃ text digest,
      split '/' id = [vkScheme, circuit.id, text, digest] ∧
        CircuitId.new circuit.id = .ok circuit ∧ Version.parse text = some version ∧
        ArtifactChecksum.fromHex digest = some hash := by
  have hnew {name : String} {c : CircuitId} (h : CircuitId.new name = .ok c) : c.id = name :=
    congrArg CircuitId.id (CircuitId.new_ok.mp h).2.2
  unfold parse
  split
  · next scheme name text digest hsplit =>
    simp only [bind_ok, ensure_ok, mapError_ok, fromOption_ok, exists_const, pure_ok, hsplit]
    refine ⟨?_, ?_⟩
    · intro hparts
      obtain ⟨rfl, c, hc, v, hv, d, hd, heq⟩ := hparts
      obtain ⟨rfl, rfl, rfl⟩ : c = circuit ∧ v = version ∧ d = hash := by simpa using heq
      obtain rfl := hnew hc
      exact ⟨text, digest, rfl, hc, hv, hd⟩
    · intro hparts
      obtain ⟨text', digest', heq, hc, hv, hd⟩ := hparts
      obtain ⟨rfl, rfl, rfl, rfl⟩ : scheme = vkScheme ∧ name = circuit.id ∧ text = text' ∧
        digest = digest' := by simpa using heq
      exact ⟨rfl, circuit, hc, version, hv, hash, hd, rfl⟩
  · next hother =>
    refine iff_of_false (fun h => by cases h) ?_
    intro hparts
    obtain ⟨text, digest, heq, _⟩ := hparts
    exact hother _ _ _ _ heq

theorem circuit_ne_empty {circuit : CircuitId} (h : CircuitId.new circuit.id = .ok circuit) :
    circuit.id ≠ "" := by
  intro hempty
  rw [hempty] at h
  cases h

/-- a text that is no version is not the display of one -/
theorem display_ne {text : String} (h : Version.parse text = none) (version : Version) :
    version.display ≠ text := by
  intro heq
  have hread : Version.parse version.display = some version := version.parse_display
  rw [heq, h] at hread
  cases hread

theorem display_plain (version : Version) : Plain version.display :=
  ⟨display_ne (by decide) version, display_ne (by decide) version, display_ne (by decide) version⟩

theorem display_injective {a b : Version} (h : a.display = b.display) : a = b :=
  Option.some.inj (a.parse_display.symm.trans ((congrArg Version.parse h).trans b.parse_display))

theorem json_plain (stem : String) : Plain (stem ++ ".json") := by
  have hlen : 5 ≤ (stem ++ ".json").length := by
    rw [String.length_append]
    exact Nat.le_add_left 5 stem.length
  refine ⟨fun h => ?_, fun h => ?_, fun h => ?_⟩ <;>
  · rw [h] at hlen
    exact absurd hlen (by decide)

end VerificationKeyIdPolicy

/-- the id parses, and its circuit goes up -/
def VerificationKeyId.Climbs (id : VerificationKeyId) : Prop :=
  ∃ version hash, VerificationKeyIdPolicy.parse id.id = .ok (⟨".."⟩, version, hash)

/-! ## the files of the store -/

namespace VkStore
open VerificationKeyIdPolicy
variable {disk : Disk} {store : VkStore} {id : VerificationKeyId}

/-- `<root>/<circuit>/<version>/<artifact-hash>.json` -/
theorem locate_of_parsed {circuit : CircuitId} {version : Version} {hash : ArtifactChecksum}
    (h : parse id.id = .ok (circuit, version, hash)) :
    disk.locate (store.pathFor disk id)
      = step (disk.locate store.root) circuit.id ++ [version.display, hash.hex ++ ".json"] := by
  obtain ⟨_, _, _, hcircuit, _, _⟩ := parse_ok.mp h
  have hpath : store.pathFor disk id
      = store.root ++ [circuit.id, version.display, hash.hex ++ ".json"] := by
    rw [pathFor, h]
  have hhead : [circuit.id, version.display, hash.hex ++ ".json"].head? ≠ some "" := by
    rw [List.head?_cons]
    exact fun h => circuit_ne_empty hcircuit (Option.some.inj h)
  have hdown : ∀ s ∈ [version.display, hash.hex ++ ".json"], Plain s := by
    intro s hs
    rcases List.mem_pair.mp hs with rfl | rfl
    · exact display_plain version
    · exact json_plain hash.hex
  rw [Disk.locate, hpath, resolve_append hhead, walk_cons, walk_of_plain hdown]
  rfl

/-- `<root>/_foreign/<digest of the id>.json` -/
theorem locate_of_foreign {e : UltraHonkError} (h : parse id.id = .error e) :
    disk.locate (store.pathFor disk id) = disk.locate store.root ++
      ["_foreign", hexEncode (disk.sha256 id.id.toUTF8.data.toList) ++ ".json"] := by
  have hpath : store.pathFor disk id = store.root ++
      ["_foreign", hexEncode (disk.sha256 id.id.toUTF8.data.toList) ++ ".json"] := by
    rw [pathFor, h]
  have hhead : ["_foreign", hexEncode (disk.sha256 id.id.toUTF8.data.toList) ++ ".json"].head?
      ≠ some "" := by
    rw [List.head?_cons]
    exact fun h => absurd (Option.some.inj h) (by decide)
  have hdown : ∀ s ∈ ["_foreign", hexEncode (disk.sha256 id.id.toUTF8.data.toList) ++ ".json"],
      Plain s := by
    intro s hs
    rcases List.mem_pair.mp hs with rfl | rfl
    · decide
    · exact json_plain _
  rw [Disk.locate, hpath, resolve_append hhead, walk_of_plain hdown]
  rfl

/-- only a circuit that goes up can lead out of the root, and it does unless the root is `/` or the
version leads back into it -/
theorem below_iff_of_parsed {circuit : CircuitId} {version : Version} {hash : ArtifactChecksum}
    (h : parse id.id = .ok (circuit, version, hash)) :
    Below (disk.locate store.root) (disk.locate (store.pathFor disk id)) ↔
      (circuit.id = ".." → disk.locate store.root = [] ∨
        (disk.locate store.root).getLast? = some version.display) := by
  obtain ⟨_, _, _, hcircuit, _, _⟩ := parse_ok.mp h
  have hfile : [hash.hex ++ ".json"] ≠ [] := List.cons_ne_nil _ _
  rw [locate_of_parsed h]
  by_cases hup : circuit.id = ".."
  · have hstep : step (disk.locate store.root) circuit.id = (disk.locate store.root).dropLast := by
      rw [hup]
      rfl
    rw [hstep, below_dropLast_append hfile]
    exact ⟨fun h _ => h, fun h => h hup⟩
  · refine iff_of_true ?_ (fun h => absurd h hup)
    by_cases hdot : circuit.id = "."
    · have hstep : step (disk.locate store.root) circuit.id = disk.locate store.root := by
        rw [hdot]
        rfl
      rw [hstep]
      exact below_append (List.cons_ne_nil _ _)
    · rw [step_of_plain ⟨circuit_ne_empty hcircuit, hdot, hup⟩, List.append_assoc]
      exact below_append (List.cons_ne_nil _ _)

/-- the exact condition on an id and a root -/
theorem below_iff : Below (disk.locate store.root) (disk.locate (store.pathFor disk id)) ↔
    ∀ version hash, parse id.id = .ok (⟨".."⟩, version, hash) →
      disk.locate store.root = [] ∨
        (disk.locate store.root).getLast? = some version.display := by
  cases hparse : parse id.id with
  | error e =>
    refine iff_of_true ?_ (fun _ _ h => by cases h)
    rw [locate_of_foreign hparse]
    exact below_append (List.cons_ne_nil _ _)
  | ok parts =>
    obtain ⟨circuit, version, hash⟩ := parts
    rw [below_iff_of_parsed hparse]
    refine ⟨fun h v d heq => ?_, fun h hup => ?_⟩
    · obtain ⟨rfl, rfl, rfl⟩ : circuit = ⟨".."⟩ ∧ version = v ∧ hash = d := by simpa using heq
      exact h rfl
    · refine h version hash ?_
      cases circuit
      obtain rfl := hup
      rfl

/-! ## what a put leaves -/

/-- only files change -/
theorem put_rest {writer : DiskWriter} {doc : VkDocument} :
    (store.put disk writer id doc).2
      = { disk with file := (store.put disk writer id doc).2.file } := by
  rw [put_disk]
  split <;> rfl

/-- a put changes the file of its key, and no other -/
theorem put_frame {writer : DiskWriter} {doc : VkDocument} {path : List String}
    (hpath : disk.locate path ≠ disk.locate (store.pathFor disk id)) :
    (store.put disk writer id doc).2.file path = disk.file path := by
  rw [put_disk]
  split
  · exact Disk.hold_ne hpath
  · rfl

/-- a lookup reads the file of its key, and no other -/
theorem get_congr {other : Disk} (hparse : other.parseVk = disk.parseVk)
    (hpath : store.pathFor other id = store.pathFor disk id)
    (hfile : other.file (store.pathFor disk id) = disk.file (store.pathFor disk id)) :
    store.get other id = store.get disk id ∧ store.contains other id = store.contains disk id := by
  refine ⟨?_, ?_⟩
  · rw [get, get, hpath, hfile]
    unfold readKey
    rw [hparse]
  · rw [contains, contains, hpath, hfile]

end VkStore

/-! ## the root of the store -/

/-- the store stays below its root under this id -/
structure VkStore.Confined (disk : Disk) (store : VkStore) (id : VerificationKeyId) : Prop where
  below : Below (disk.locate store.root) (disk.locate (store.pathFor disk id))
  /-- a put changes no file outside, whether it fails or not -/
  put_outside : ∀ writer doc path, ¬ Below (disk.locate store.root) (disk.locate path) →
    (store.put disk writer id doc).2.file path = disk.file path
  /-- a lookup sees no file outside -/
  get_outside : ∀ file : List String → Option (Except String String),
    (∀ path, Below (disk.locate store.root) (disk.locate path) → file path = disk.file path) →
    store.get { disk with file := file } id = store.get disk id ∧
      store.contains { disk with file := file } id = store.contains disk id

/-- **A key file can be outside of the store.**  Under an id the store stays below its root, unless
the circuit of the id is `..`; then it leaves the root, except for `/` itself and for a root that
is named like the version. -/
theorem vk_store_confined_iff {disk : Disk} {store : VkStore} {id : VerificationKeyId} :
    store.Confined disk id ↔
      ∀ version hash, VerificationKeyIdPolicy.parse id.id = .ok (⟨".."⟩, version, hash) →
        disk.locate store.root = [] ∨
          (disk.locate store.root).getLast? = some version.display := by
  rw [← VkStore.below_iff]
  refine ⟨VkStore.Confined.below, fun hbelow => ⟨hbelow, fun writer doc path hpath => ?_,
    fun file hfile => ?_⟩⟩
  · refine VkStore.put_frame fun heq => hpath ?_
    rw [heq]
    exact hbelow
  · exact VkStore.get_congr rfl rfl (hfile _ hbelow)

/-- a digest of 64 digits -/
def someDigest : String := String.ofList (List.replicate 64 'a')

def emptyDisk : Disk where
  cwd := []
  file _ := none
  device _ := none
  parseVk _ := .error "EOF while parsing a value at line 1 column 0"
  sha256 _ := []

/-- an id that is accepted, and its file is next to the store -/
theorem dotdot_leaves_store :
    let store : VkStore := ⟨["", "srv", "keys"]⟩
    let text := "uhk/../0.1.0/" ++ someDigest
    ∃ id, VerificationKeyId.new text = some id ∧
      emptyDisk.locate (store.pathFor emptyDisk id) = ["srv", "0.1.0", someDigest ++ ".json"] ∧
      ¬ Below (emptyDisk.locate store.root) (emptyDisk.locate (store.pathFor emptyDisk id)) := by
  refine ⟨⟨"uhk/../0.1.0/" ++ someDigest⟩, ?_, ?_, ?_⟩ <;> decide +kernel

end Crucible
