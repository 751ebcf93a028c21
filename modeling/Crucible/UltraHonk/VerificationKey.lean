import Crucible.Interfaces.Numbers
import Crucible.Lib.Paths
import Crucible.Lib.Utf8
import Crucible.Lib.Writes

/-!
# Verification keys (`crates/ultrahonk/src/vk.rs`, `store.rs`)

A key id names circuit, version and artifact; the store resolves it to a document on disk.  A path
is the list of its segments.  What lives outside the crate (the disk, `serde_json`, SHA-256) is a
parameter, `Disk`.  Links are not modelled.

* `VerificationKeyIdPolicy.parse_idFor`   an id is read back as its parts;
* `VkStore.get_ok`, `VkStore.get_put`     what a successful lookup has read, and that it finds a
                                          key that was put;
* `VkStore.put_disk`, `VkStore.put_ok`    what a put leaves on the disk, and when it succeeds.
-/

namespace Crucible
open Checked Text

/-! ## errors -/

inductive UltraHonkError where
  | badVerificationKeyId (id : String)
  | binaryNotFound
  | unsupportedBbVersion (found : String) (supported : UInt32)
  | versionParse (output : String)
  | missingFile (path : String)
  | io (path reason : String)
  | spawn (reason : String)
  | commandFailed (command reason : String)
  | malformedArtifact (path reason : String)
  | inconsistentArtifacts (reason : String)
  | encode (name reason : String)
  | truncated (expected actual : Nat)
deriving DecidableEq

def UltraHonkError.message : UltraHonkError → String
  | .badVerificationKeyId id =>
    s!"verification key id `{id}` does not follow the expected scheme"
  | .binaryNotFound =>
    "barretenberg binary not found on PATH; is bb installed? (see scripts/check-bb.sh)"
  | .unsupportedBbVersion found supported =>
    s!"unsupported bb version `{found}` (this adapter requires major {supported.toNat})"
  | .versionParse output => s!"could not parse bb version output: {output}"
  | .missingFile path => s!"missing required file `{path}`"
  | .io path reason => s!"file operation failed on `{path}`: {reason}"
  | .spawn reason => s!"could not run bb: {reason}"
  | .commandFailed command reason => s!"bb command `{command}` failed: {reason}"
  | .malformedArtifact path reason => s!"bb artifact `{path}` is malformed: {reason}"
  | .inconsistentArtifacts reason => s!"bb artifacts disagree: {reason}"
  | .encode name reason => s!"public input `{name}` could not be encoded: {reason}"
  | .truncated expected actual =>
    s!"calldata declares {expected} public inputs but carries {actual}"

/-! ## key ids -/

/-- `VK_SCHEME` -/
def vkScheme : String := "uhk"

namespace VerificationKeyIdPolicy

def idFor (circuit : CircuitId) (version : Version) (artifactHash : ArtifactChecksum) : String :=
  vkScheme ++ "/" ++ circuit.id ++ "/" ++ version.display ++ "/" ++ artifactHash.hex

def parse (id : String) : Except UltraHonkError (CircuitId × Version × ArtifactChecksum) :=
  match split '/' id with
  | [scheme, circuit, version, hash] => do
    ensure (scheme = vkScheme) (.badVerificationKeyId id)
    let circuit ← (CircuitId.new circuit).mapError fun _ => .badVerificationKeyId id
    let version ← fromOption (.badVerificationKeyId id) (Version.parse version)
    let hash ← fromOption (.badVerificationKeyId id) (ArtifactChecksum.fromHex hash)
    return (circuit, version, hash)
  | _ => .error (.badVerificationKeyId id)

end VerificationKeyIdPolicy

namespace VerificationKeyIdPolicy

section
variable {circuit : CircuitId} {version : Version} {hash : ArtifactChecksum}

theorem slash_not_mem_circuit (h : CircuitId.new circuit.id = .ok circuit) :
    '/' ∉ circuit.id.toList := by
  intro hmem
  exact absurd (List.all_eq_true.mp (CircuitId.new_ok.mp h).2.1 _ hmem) (by decide)

theorem slash_not_mem_version : '/' ∉ version.display.toList := by
  have hdigits (n : Nat) : '/' ∉ Nat.toDigits 10 n :=
    fun h => absurd (isAsciiDigit_toDigits h) (by decide)
  have hdot : '/' ∉ (toString ".").toList := by decide
  simp [Version.display, hdigits, hdot]

theorem slash_not_mem_hash (h : ArtifactChecksum.fromHex hash.hex = some hash) :
    '/' ∉ hash.hex.toList := by
  intro hmem
  obtain ⟨digest, hdigest, rfl⟩ := Option.map_eq_some_iff.mp h
  exact absurd (List.all_eq_true.mp (digest256_wellFormed hdigest).2 _ hmem) (by decide)

theorem split_idFor (hcircuit : CircuitId.new circuit.id = .ok circuit)
    (hhash : ArtifactChecksum.fromHex hash.hex = some hash) :
    split '/' (idFor circuit version hash)
      = [vkScheme, circuit.id, version.display, hash.hex] := by
  have hlist : (idFor circuit version hash).toList = vkScheme.toList ++
      '/' :: (circuit.id.toList ++ '/' :: (version.display.toList ++ '/' :: hash.hex.toList)) := by
    simp [idFor]
  have hscheme : '/' ∉ vkScheme.toList := by decide
  rw [split, hlist, List.splitOn_append_cons_self_of_not_mem hscheme,
    List.splitOn_append_cons_self_of_not_mem (slash_not_mem_circuit hcircuit),
    List.splitOn_append_cons_self_of_not_mem slash_not_mem_version,
    List.splitOn_eq_singleton (slash_not_mem_hash hhash)]
  simp

/-- an id is read back as the parts it was formed from -/
theorem parse_idFor (hcircuit : CircuitId.new circuit.id = .ok circuit)
    (hhash : ArtifactChecksum.fromHex hash.hex = some hash) :
    parse (idFor circuit version hash) = .ok (circuit, version, hash) := by
  unfold parse
  rw [split_idFor hcircuit hhash]
  simp only [bind_ok, ensure_ok, mapError_ok, fromOption_ok, exists_const, pure_ok]
  exact ⟨trivial, circuit, hcircuit, version, version.parse_display, hash, hhash, rfl⟩

end

end VerificationKeyIdPolicy

/-! ## the store -/

/-- `SCHEME_ULTRA_HONK` -/
def schemeUltraHonk : String := "ultra_honk"

/-- `vk.json` -/
structure VkDocument where
  vk : List String
  hash : String
  bbVersion : String
  scheme : String
deriving DecidableEq

/-- what the store finds outside the crate -/
structure Disk where
  /-- the working directory, where relative paths begin -/
  cwd : List String
  /-- the regular file at a path: its text, or the error of reading it -/
  file : List String → Option (Except String String)
  /-- the device or pipe at a path: what reading it gives; what is written there is not kept -/
  device : List String → Option (Except String String)
  /-- `serde_json::from_str::<VkDocument>` -/
  parseVk : String → Except String VkDocument
  /-- `Sha256::digest` -/
  sha256 : List UInt8 → List UInt8

/-- where a path leads -/
def Disk.locate (disk : Disk) (path : List String) : List String := Paths.resolve disk.cwd path

/-- a path at which there is a regular file, or can be one -/
def Disk.Regular (disk : Disk) (path : List String) : Prop := disk.device path = none

instance (disk : Disk) (path : List String) : Decidable (disk.Regular path) :=
  inferInstanceAs (Decidable (disk.device path = none))

/-- the disk with a regular file: every path that leads there finds it -/
def Disk.hold (disk : Disk) (path : List String) (content : Except String String) : Disk :=
  { disk with
    file := fun p => if disk.locate p = disk.locate path then some content else disk.file p }

theorem Disk.hold_self {disk : Disk} {path : List String} {content : Except String String} :
    (disk.hold path content).file path = some content := if_pos rfl

theorem Disk.hold_ne {disk : Disk} {path other : List String} {content : Except String String}
    (h : disk.locate other ≠ disk.locate path) :
    (disk.hold path content).file other = disk.file other := if_neg h

/-- only files change -/
theorem Disk.hold_rest {disk other : Disk} {path : List String} {content : Except String String}
    (h : other = { disk with file := other.file }) :
    other.hold path content = { disk with file := (other.hold path content).file } := by
  rw [h]
  rfl

/-- what the store calls to write -/
structure DiskWriter where
  /-- `std::fs::create_dir_all` -/
  createDirAll : List String → Except String Unit
  /-- how `std::fs::write` fails, if it does -/
  write : List String → Option Files.Cut
  /-- `serde_json::to_string` of a `VkDocument` -/
  renderVk : VkDocument → String

/-- what `std::fs::write` leaves in the regular file at a path, if it opens one: a file that is
opened is cut to nothing first -/
def DiskWriter.leaves (writer : DiskWriter) (disk : Disk) (path : List String) (text : String) :
    Option (Except String String) :=
  if disk.Regular path then
    match writer.write path with
    | none => some (.ok text)
    | some cut => cut.written.map fun n => Utf8.readToString (text.toUTF8.data.toList.take n)
  else none

/-- `std::fs::write`: the answer, and the disk that is left -/
def DiskWriter.writeFile (writer : DiskWriter) (disk : Disk) (path : List String) (text : String) :
    Except String Unit × Disk :=
  (match writer.write path with
    | none => .ok ()
    | some cut => .error cut.reason,
  match writer.leaves disk path text with
    | some content => disk.hold path content
    | none => disk)

theorem DiskWriter.writeFile_ok {writer : DiskWriter} {disk : Disk} {path : List String}
    {text : String} : (writer.writeFile disk path text).1 = .ok () ↔ writer.write path = none := by
  unfold DiskWriter.writeFile
  cases writer.write path with
  | none => exact iff_of_true rfl rfl
  | some cut => exact iff_of_false (fun h => by cases h) (fun h => by cases h)

/-- the whole text is there after a write that succeeds, where a regular file can be -/
theorem DiskWriter.leaves_of_ok {writer : DiskWriter} {disk : Disk} {path : List String}
    {text : String} (hregular : disk.Regular path) (h : writer.write path = none) :
    writer.leaves disk path text = some (.ok text) := by
  rw [leaves, if_pos hregular, h]

/-- the disk after a write that succeeds, where a regular file can be -/
theorem DiskWriter.writeFile_hold {writer : DiskWriter} {disk : Disk} {path : List String}
    {text : String} (hregular : (writer.writeFile disk path text).2.Regular path)
    (h : writer.write path = none) :
    (writer.writeFile disk path text).2 = disk.hold path (.ok text) := by
  have hdevice : (writer.writeFile disk path text).2.device = disk.device := by
    unfold writeFile
    split <;> split <;> rfl
  rw [Disk.Regular, hdevice] at hregular
  unfold writeFile
  rw [leaves_of_ok hregular h]

/-- a write that fails has not opened its file -/
def DiskWriter.Clean (writer : DiskWriter) : Prop :=
  ∀ path cut, writer.write path = some cut → cut.written = none

theorem DiskWriter.leaves_clean {writer : DiskWriter} {disk : Disk} {path : List String}
    {text : String} {content : Except String String} (hclean : writer.Clean)
    (h : writer.leaves disk path text = some content) :
    writer.write path = none ∧ content = .ok text := by
  unfold DiskWriter.leaves at h
  split at h
  · cases hcut : writer.write path with
    | none =>
      rw [hcut] at h
      exact ⟨rfl, (Option.some.inj h).symm⟩
    | some cut =>
      simp only [hcut, hclean _ _ hcut, Option.map_none] at h
      cases h
  · cases h

/-- `Path::display` -/
def displayPath (path : List String) : String := "/".intercalate path

structure VkStore where
  root : List String

namespace VkStore
variable (disk : Disk) (store : VkStore)

def pathFor (id : VerificationKeyId) : List String :=
  match VerificationKeyIdPolicy.parse id.id with
  | .ok (circuit, version, artifact) =>
    store.root ++ [circuit.id, version.display, artifact.hex ++ ".json"]
  | .error _ =>
    store.root ++ ["_foreign", hexEncode (disk.sha256 id.id.toUTF8.data.toList) ++ ".json"]

/-- the key in a file -/
def readKey (path : List String) (read : Except String String) :
    Except UltraHonkError VkDocument := do
  let text ← read.mapError fun e => .io (displayPath path) e
  let doc ← (disk.parseVk text).mapError fun e => .malformedArtifact (displayPath path) e
  ensure (doc.scheme = schemeUltraHonk)
    (.malformedArtifact (displayPath path) s!"stored VK has scheme `{doc.scheme}`")
  return doc

def get (id : VerificationKeyId) : Except UltraHonkError VkDocument := do
  let path := store.pathFor disk id
  let read ← fromOption (.missingFile (displayPath path)) (disk.file path)
  readKey disk path read

/-- what a put does before it writes -/
def prepare (writer : DiskWriter) (id : VerificationKeyId) (doc : VkDocument) :
    Except UltraHonkError Unit := do
  ensure (doc.scheme = schemeUltraHonk) (.inconsistentArtifacts
    s!"refusing to store a VK with scheme `{doc.scheme}` under an UltraHonk id")
  let parent := (store.pathFor disk id).dropLast
  (writer.createDirAll parent).mapError fun e => .io (displayPath parent) e

/-- the answer, and the disk that is left -/
def put (writer : DiskWriter) (id : VerificationKeyId) (doc : VkDocument) :
    Except UltraHonkError Unit × Disk :=
  match store.prepare disk writer id doc with
  | .error e => (.error e, disk)
  | .ok _ =>
    let path := store.pathFor disk id
    let (answer, disk) := writer.writeFile disk path (writer.renderVk doc)
    (answer.mapError fun e => .io (displayPath path) e, disk)

def contains (id : VerificationKeyId) : Bool := (disk.file (store.pathFor disk id)).isSome

/-- what a put leaves in the file of the key, if it gets there -/
def leaves (writer : DiskWriter) (id : VerificationKeyId) (doc : VkDocument) :
    Option (Except String String) :=
  match store.prepare disk writer id doc with
  | .error _ => none
  | .ok _ => writer.leaves disk (store.pathFor disk id) (writer.renderVk doc)

variable {disk store}
variable {writer : DiskWriter} {id : VerificationKeyId} {doc : VkDocument}

theorem prepare_ok : store.prepare disk writer id doc = .ok () ↔ doc.scheme = schemeUltraHonk ∧
    writer.createDirAll (store.pathFor disk id).dropLast = .ok () := by
  simp only [prepare, bind_ok, ensure_ok, mapError_ok, exists_const]

theorem readKey_ok {path : List String} {read : Except String String} :
    readKey disk path read = .ok doc ↔ doc.scheme = schemeUltraHonk ∧
      ∃ text, read = .ok text ∧ disk.parseVk text = .ok doc := by
  simp only [readKey, bind_ok, mapError_ok, ensure_ok, pure_ok, exists_const]
  constructor
  · rintro ⟨text, hread, doc, hdoc, hscheme, rfl⟩
    exact ⟨hscheme, text, hread, hdoc⟩
  · rintro ⟨hscheme, text, hread, hdoc⟩
    exact ⟨text, hread, doc, hdoc, hscheme, rfl⟩

theorem get_of_file {read : Except String String}
    (h : disk.file (store.pathFor disk id) = some read) :
    store.get disk id = readKey disk (store.pathFor disk id) read := by
  rw [get, h]
  rfl

theorem get_ok : store.get disk id = .ok doc ↔ doc.scheme = schemeUltraHonk ∧
    ∃ text, disk.file (store.pathFor disk id) = some (.ok text) ∧
      disk.parseVk text = .ok doc := by
  simp only [get, bind_ok, fromOption_ok, readKey_ok]
  constructor
  · rintro ⟨_, hread, hscheme, text, rfl, hdoc⟩
    exact ⟨hscheme, text, hread, hdoc⟩
  · rintro ⟨hscheme, text, hread, hdoc⟩
    exact ⟨_, hread, hscheme, text, rfl, hdoc⟩

/-- **A put changes the file of its key, or nothing.** -/
theorem put_disk : (store.put disk writer id doc).2 =
    match store.leaves disk writer id doc with
    | some content => disk.hold (store.pathFor disk id) content
    | none => disk := by
  unfold put leaves
  cases store.prepare disk writer id doc with
  | error e => rfl
  | ok _ => rfl

theorem put_ok : (store.put disk writer id doc).1 = .ok () ↔
    store.prepare disk writer id doc = .ok () ∧ writer.write (store.pathFor disk id) = none := by
  unfold put
  cases store.prepare disk writer id doc with
  | error e => exact iff_of_false (fun h => by cases h) (fun h => by cases h.1)
  | ok _ =>
    show (writer.writeFile disk (store.pathFor disk id) (writer.renderVk doc)).1.mapError _ = _ ↔ _
    rw [mapError_ok, DiskWriter.writeFile_ok]
    exact ⟨fun h => ⟨rfl, h⟩, And.right⟩

theorem leaves_some {content : Except String String} :
    store.leaves disk writer id doc = some content ↔ store.prepare disk writer id doc = .ok () ∧
      writer.leaves disk (store.pathFor disk id) (writer.renderVk doc) = some content := by
  unfold leaves
  cases store.prepare disk writer id doc with
  | error e => exact iff_of_false (fun h => by cases h) (fun h => by cases h.1)
  | ok _ => exact ⟨fun h => ⟨rfl, h⟩, And.right⟩

/-- a put that succeeds leaves the whole key, where a regular file can be -/
theorem leaves_of_ok (hregular : disk.Regular (store.pathFor disk id))
    (h : (store.put disk writer id doc).1 = .ok ()) :
    store.leaves disk writer id doc = some (.ok (writer.renderVk doc)) := by
  obtain ⟨hready, hwrite⟩ := put_ok.mp h
  rw [leaves, hready]
  exact DiskWriter.leaves_of_ok hregular hwrite

/-- a key that was put is found under its id -/
theorem get_put (hserde : disk.parseVk (writer.renderVk doc) = .ok doc)
    (hregular : disk.Regular (store.pathFor disk id))
    (h : (store.put disk writer id doc).1 = .ok ()) :
    store.get (store.put disk writer id doc).2 id = .ok doc := by
  have hscheme := (prepare_ok.mp (put_ok.mp h).1).1
  rw [put_disk, leaves_of_ok hregular h]
  exact get_ok.mpr ⟨hscheme, writer.renderVk doc, Disk.hold_self, hserde⟩

end VkStore

end Crucible
