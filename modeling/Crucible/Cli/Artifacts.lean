import Crucible.Artifacts.Exact
import Crucible.Lib.Writes
import Crucible.UltraHonk.Provider

/-!
# Pinning, checking and inspecting artifacts (`cli/src/commands/artifacts.rs`)

`generate` copies the compiled bytecode of a circuit below the artifact root and writes a manifest
beside it.  Any of its reads and writes can fail, and a failed write can leave a file cut short.

* `ArtifactsEnv.generate`, `ArtifactsEnv.check`, `ArtifactsEnv.inspect`   the three commands, over
                        the tree that is at the root;
* `Slot`                what a directory of the root is for the loader: bytecode and manifest;
* `Tidy`                what every run keeps, so that a run is one of slots (`generate_shelved`);
* `load_pin_iff`        what the loader accepts of a slot.
-/

namespace Crucible
open Checked Text Files

/-! ## the commands -/

/-- `OPERATIONS` -/
def operations : List String := ["register", "deposit", "merge", "transfer", "withdraw"]

/-- a write that fails: why, and how much of the text is in the file by then, if it was opened -/
structure Broken where
  reason : String
  written : Option Nat

/-- what the commands find on the machine, besides the tree at the root -/
structure ArtifactsEnv where
  circuits : List String
  root : List String
  /-- `std::fs::read`, below the circuits workspace -/
  readFile : List String → Except String (List UInt8)
  /-- why a directory is not made, or a file not written, where the tree does not say -/
  createFails : List String → Option String
  writeFails : List String → Option Broken

/-- the name of a path segment -/
def nameOf (segment : String) : Name := segment.toUTF8.data.toList

/-- `paths::artifact_path` -/
def artifactPath (circuits : List String) (package : String) : List String :=
  circuits ++ ["target", package ++ ".json"]

def CircuitIdError.message : CircuitIdError → String
  | .invalidLength actual max => s!"circuit id must be 1..={max} characters, got {actual}"
  | .invalidCharacters =>
    "circuit id contains invalid characters (allowed: alphanumeric, '-', '_', '.')"

def BackendIdError.message : BackendIdError → String
  | .invalidLength => "backend id must be 1..=64 characters"
  | .invalidCharacters => "backend id contains invalid characters"

/-- the manifest that `generate` writes beside the bytecode -/
def manifestFor (crates : ArtifactCrates) (op : String) (bytes : List UInt8) :
    Except String ArtifactManifest := do
  let circuit ← (CircuitId.new op).mapError fun e => s!"cannot form circuit id: {e.message}"
  let backend ← (BackendId.new BackendId.ultrahonk).mapError fun e =>
    s!"cannot form backend id: {e.message}"
  return { manifestVersion := manifestSchemaVersion
           circuit
           circuitVersion := ⟨0, 1, 0⟩
           artifactVersion := ⟨0, 1, 0⟩
           backend
           verificationKeyId := none
           files := [{ path := op ++ ".json"
                       sha256 := .fromBytes crates.sha256 bytes
                       kind := some "acir" }]
           backendMetadata := [("generated_by", "crucible-prover/0.1.0")] }

/-- `{:<width}` and `{:>width}` -/
def alignLeft (width : Nat) (text : String) : String :=
  text ++ String.ofList (List.replicate (width - text.length) ' ')

def alignRight (width : Nat) (text : String) : String :=
  String.ofList (List.replicate (width - text.length) ' ') ++ text

namespace ArtifactsEnv
variable (crates : ArtifactCrates) (env : ArtifactsEnv)

/-- `std::fs::create_dir_all` of a path below the root -/
def createDirAll (path : List String) (tree : Option Node) : Except String Unit × Option Node :=
  match env.createFails (env.root ++ path) with
  | some reason => (.error reason, tree)
  | none =>
    match Node.createDirAll (path.map nameOf) tree with
    | .error reason => (.error reason, tree)
    | .ok made => (.ok (), some made)

/-- `std::fs::write` of a path below the root -/
def write (path : List String) (bytes : List UInt8) (tree : Option Node) :
    Except String Unit × Option Node :=
  match env.writeFails (env.root ++ path) with
  | none =>
    match Node.write bytes (path.map nameOf) tree with
    | .error reason => (.error reason, tree)
    | .ok written => (.ok (), some written)
  | some ⟨reason, none⟩ => (.error reason, tree)
  | some ⟨reason, some n⟩ =>
    (.error reason, (Node.write (bytes.take n) (path.map nameOf) tree).toOption.or tree)

/-- one turn of the loop of `generate` -/
def pin (op : String) (tree : Option Node) : Except String Unit × Option Node :=
  let bytecodePath := artifactPath env.circuits op
  match env.readFile bytecodePath with
  | .error e => (.error (s!"cannot read compiled bytecode `{displayPath bytecodePath}` for " ++
      s!"`{op}` (run `crucible-prover circuits compile` first): {e}"), tree)
  | .ok bytes =>
    match env.createDirAll [op] tree with
    | (.error e, tree) => (.error s!"cannot create `{displayPath (env.root ++ [op])}`: {e}", tree)
    | (.ok (), tree) =>
      match manifestFor crates op bytes with
      | .error e => (.error e, tree)
      | .ok manifest =>
        let artifactFile := [op, op ++ ".json"]
        let manifestFile := [op, manifestFilename]
        match env.write artifactFile bytes tree with
        | (.error e, tree) =>
          (.error s!"cannot write `{displayPath (env.root ++ artifactFile)}`: {e}", tree)
        | (.ok (), tree) =>
          match env.write manifestFile manifest.toCanonicalJson tree with
          | (.error e, tree) =>
            (.error s!"cannot write `{displayPath (env.root ++ manifestFile)}`: {e}", tree)
          | (.ok (), tree) => (.ok (), tree)

/-- the first failure ends the loop; what was pinned before stays -/
def pinAll : List String → Option Node → Except String Unit × Option Node
  | [], tree => (.ok (), tree)
  | op :: ops, tree =>
    match env.pin crates op tree with
    | (.error e, tree) => (.error e, tree)
    | (.ok (), tree) => pinAll ops tree

/-- `selected_ops` -/
def selectedOps : Option String → Except String (List String)
  | some name =>
    if name ∈ operations then .ok [name]
    else
      let expected := ", ".intercalate operations
      .error s!"unknown circuit `{name}` (expected one of {expected})"
  | none => .ok operations

def generate (op : Option String) (tree : Option Node) : Except String Unit × Option Node :=
  match selectedOps op with
  | .error e => (.error e, tree)
  | .ok selected => env.pinAll crates selected tree

/-- the directory of an operation -/
def artifactDir (tree : Option Node) (op : String) : ArtifactDir where
  path := env.root ++ [op]
  root := fromOption "No such file or directory (os error 2)" tree >>= fun root =>
    root.find (pathNames op)

/-- what is printed, and the verdict -/
def check (tree : Option Node) : List String × Except String Unit :=
  let loads := operations.map fun op =>
    (op, ArtifactLoader.new.load crates (env.artifactDir tree op))
  let lines := loads.map fun (op, loaded) =>
    match loaded with
    | .ok artifact => s!"ok   {op}: manifest v{artifact.manifest.manifestVersion.toNat} — " ++
        s!"{artifact.manifest.files.length} file(s) verified"
    | .error e => s!"FAIL {op}: {e.message}"
  let problems := loads.filter fun (_, loaded) => !loaded.isOk
  if problems.isEmpty then
    (lines ++ [s!"all {operations.length} pinned artifacts verified"], .ok ())
  else
    (lines, .error (s!"{problems.length} of {operations.length} pinned artifacts failed " ++
      "integrity verification (run `crucible-prover artifacts generate` to re-pin from current " ++
      "bytecode)"))

/-- what `inspect` prints of an artifact that loads -/
def describe (artifact : LoadedArtifact) : List String :=
  let manifest := artifact.manifest
  [s!"  integrity   ok (manifest v{manifest.manifestVersion.toNat}; {manifest.files.length} " ++
      "file(s) verified)",
    s!"  circuit     {manifest.circuit.id} v{manifest.circuitVersion.display}",
    s!"  artifact    v{manifest.artifactVersion.display}",
    s!"  backend     {manifest.backend.id}",
    "  vk id       " ++ (manifest.verificationKeyId.map VerificationKeyId.id).getD "(none)"] ++
  manifest.backendMetadata.map (fun (key, value) => s!"  metadata    {key}={value}") ++
  ["  files"] ++
  manifest.files.map fun declared =>
    let size := ((artifact.file declared.path).map List.length).getD 0
    let kind := declared.kind.getD "file"
    s!"    {alignLeft 20 declared.path} {alignRight 8 (toString size)} B  " ++
      s!"kind={alignLeft 15 kind} sha256 {declared.sha256.hex}"

/-- a manifest that the loader refuses is printed as it is, if it is text -/
def inspect (op : Option String) (tree : Option Node) : List String × Except String Unit :=
  match selectedOps op with
  | .error e => ([], .error e)
  | .ok selected =>
    let loads := selected.map fun op =>
      (op, ArtifactLoader.new.load crates (env.artifactDir tree op))
    let lines := loads.flatMap fun (op, loaded) => s!"{op}:" ::
      match loaded with
      | .ok artifact => describe artifact
      | .error e => s!"  integrity   FAIL: {e.message}" ::
        match (env.artifactDir tree op).read manifestFilename with
        | .ok bytes => ((String.fromUTF8? ⟨bytes.toArray⟩).map (s!"  manifest    {·}")).toList
        | .error _ => []
    let problems := loads.filter fun (_, loaded) => !loaded.isOk
    if problems.isEmpty then (lines, .ok ())
    else (lines, .error (s!"{problems.length} pinned artifact(s) failed integrity verification " ++
      "(run `crucible-prover artifacts generate` to re-pin from current bytecode)"))

end ArtifactsEnv

/-! ## the names of the operations -/

/-- what the name of an operation is good for -/
structure IsSegment (op : String) : Prop where
  name : Node.IsName (nameOf op)
  file : Node.IsName (nameOf (op ++ ".json"))
  apart : op ++ ".json" ≠ manifestFilename
  safe : isSafeRelativePath (op ++ ".json")
  path : pathNames op = [nameOf op]
  filePath : pathNames (op ++ ".json") = [nameOf (op ++ ".json")]
  circuit : CircuitId.new op = .ok ⟨op⟩

theorem isSegment {op : String} (h : op ∈ operations) : IsSegment op := by
  simp only [operations, List.mem_cons, List.not_mem_nil, or_false] at h
  rcases h with rfl | rfl | rfl | rfl | rfl <;>
    exact ⟨by decide, by decide, by decide, by decide, by decide, by decide, by decide⟩

theorem nameOf_injective {a b : String} (h : nameOf a = nameOf b) : a = b := Utf8.toUTF8_injective h

/-! ## the directories of the root -/

/-- a directory with regular files under the two names of a pin, and nothing else -/
def IsPin (op : String) (node : Node) : Prop :=
  ∃ files, node = .dir files none ∧ ∀ f ∈ files,
    (f.1 = nameOf (op ++ ".json") ∨ f.1 = nameOf manifestFilename) ∧
      ∃ bytes, f.2 = .file (.ok bytes)

/-- a tree that the runs of `generate` leave: missing, or a directory in which an operation has a
pin, if it has anything -/
structure Tidy (tree : Option Node) : Prop where
  root : ∀ node, tree = some node → node.Sound ∧ ∃ entries, node = .dir entries none
  pins : ∀ op ∈ operations, ∀ node, Node.entry tree (nameOf op) = some node → IsPin op node

theorem tidy_missing : Tidy none :=
  ⟨fun _ h => (by cases h), fun _ _ _ h => (by cases h)⟩

/-- the directory of one operation takes another pin -/
theorem Tidy.setDir {entries : List (Name × Node)} {op : String} {node : Node}
    (h : Tidy (some (.dir entries none))) (hop : op ∈ operations) (hpin : IsPin op node)
    (hsound : node.Sound) : Tidy (some (.dir (Node.setEntry (nameOf op) node entries) none)) := by
  refine ⟨fun root hroot => ?_, fun other hother node' hnode => ?_⟩
  · obtain rfl := Option.some.inj hroot
    exact ⟨(h.root _ rfl).1.dir_setEntry (isSegment hop).name hsound, _, rfl⟩
  · by_cases heq : other = op
    · subst heq
      have hself : some node = some node' := Node.lookup_setEntry_self.symm.trans hnode
      obtain rfl := Option.some.inj hself
      exact hpin
    · have hne : nameOf other ≠ nameOf op := fun h => heq (nameOf_injective h)
      exact h.pins other hother node' ((Node.lookup_setEntry_of_ne hne).symm.trans hnode)

theorem Tidy.sound_pin {tree : Option Node} {op : String} {node : Node} (h : Tidy tree)
    (hnode : Node.entry tree (nameOf op) = some node) : node.Sound := by
  cases htree : tree with
  | none =>
    rw [htree] at hnode
    cases hnode
  | some root =>
    obtain ⟨hsound, entries, rfl⟩ := h.root root htree
    rw [htree] at hnode
    exact hsound.lookup hnode

/-- there is no device among the files of a pin -/
theorem IsPin.kindAt_ne {op : String} {node : Node} (h : IsPin op node) (name : Name) :
    Node.kindAt (some node) [name] ≠ some .special := by
  obtain ⟨files, rfl, hfiles⟩ := h
  show Node.kindAt (files.lookup name) [] ≠ some .special
  cases hfound : files.lookup name with
  | none => exact nofun
  | some leaf =>
    obtain ⟨_, bytes, hleaf⟩ := hfiles _ (Node.mem_of_lookup hfound)
    obtain rfl : leaf = .file (.ok bytes) := hleaf
    exact nofun

theorem isPin_empty (op : String) : IsPin op (.dir [] none) :=
  ⟨[], rfl, fun _ h => absurd h List.not_mem_nil⟩

/-- the directory of an operation can be made, if it is not there -/
theorem Tidy.makeDir {tree : Option Node} {op : String} (h : Tidy tree)
    (hop : op ∈ operations) : ∃ made, Node.createDirAll [nameOf op] tree = .ok made ∧
      Tidy (some made) ∧ ∃ node, Node.entry (some made) (nameOf op) = some node := by
  cases htree : tree with
  | none =>
    refine ⟨.dir [(nameOf op, .dir [] none)] none, rfl, ?_, _, List.lookup_cons_self⟩
    have hempty : Tidy (some (.dir [] none)) := by
      refine ⟨fun node hnode => ?_, fun _ _ _ hnode => by cases hnode⟩
      obtain rfl := Option.some.inj hnode
      exact ⟨⟨List.nodup_nil, trivial⟩, _, rfl⟩
    exact hempty.setDir hop (isPin_empty op) ⟨List.nodup_nil, trivial⟩
  | some root =>
    obtain ⟨_, entries, rfl⟩ := h.root root htree
    rw [htree] at h
    cases hentry : entries.lookup (nameOf op) with
    | none =>
      refine ⟨.dir (Node.setEntry (nameOf op) (.dir [] none) entries) none, ?_,
        h.setDir hop (isPin_empty op) ⟨List.nodup_nil, trivial⟩, _, Node.lookup_setEntry_self⟩
      rw [Node.createDirAll, Node.updateAt, hentry]
      rfl
    | some node =>
      obtain ⟨files, rfl, hfiles⟩ := h.pins op hop node hentry
      refine ⟨.dir (Node.setEntry (nameOf op) (.dir files none) entries) none, ?_,
        h.setDir hop ⟨files, rfl, hfiles⟩ (h.sound_pin hentry), _, Node.lookup_setEntry_self⟩
      rw [Node.createDirAll, Node.updateAt, hentry]
      rfl

/-- the files of a pin can be written -/
theorem Tidy.writeFile {tree : Option Node} {op : String} {file : Name} {node : Node}
    (h : Tidy tree) (hop : op ∈ operations) (hnode : Node.entry tree (nameOf op) = some node)
    (hfile : file = nameOf (op ++ ".json") ∨ file = nameOf manifestFilename) (bytes : List UInt8) :
    ∃ written, Node.write bytes [nameOf op, file] tree = .ok written ∧ Tidy (some written) ∧
      ∃ node, Node.entry (some written) (nameOf op) = some node := by
  cases htree : tree with
  | none =>
    rw [htree] at hnode
    cases hnode
  | some root =>
    obtain ⟨_, entries, rfl⟩ := h.root root htree
    rw [htree] at h hnode
    obtain ⟨files, rfl, hfiles⟩ := h.pins op hop node hnode
    have hname : Node.IsName file := by
      rcases hfile with rfl | rfl
      · exact (isSegment hop).file
      · decide
    have hleaf : Node.writeFile bytes (files.lookup file) = .ok (.file (.ok bytes)) := by
      cases hfound : files.lookup file with
      | none => rfl
      | some leaf =>
        have hmem := (Node.lookup_iff (h.sound_pin hnode).1).mp hfound
        obtain ⟨_, content, rfl⟩ := hfiles _ hmem
        rfl
    have hpin : IsPin op (.dir (Node.setEntry file (.file (.ok bytes)) files) none) := by
      refine ⟨_, rfl, fun f hf => ?_⟩
      rcases Node.mem_of_mem_setEntry hf with rfl | hold
      · exact ⟨hfile, bytes, rfl⟩
      · exact hfiles f hold
    refine ⟨.dir (Node.setEntry (nameOf op)
      (.dir (Node.setEntry file (.file (.ok bytes)) files) none) entries) none, ?_,
      h.setDir hop hpin ((h.sound_pin hnode).dir_setEntry hname ⟨bytes, rfl⟩), _,
      Node.lookup_setEntry_self⟩
    have hentry : entries.lookup (nameOf op) = some (.dir files none) := hnode
    rw [Node.write, Node.updateAt, hentry, Node.updateAt, Node.updateAt, hleaf]
    rfl

/-! ## runs of slots -/

/-- what a directory of the root is for the loader -/
structure Slot where
  code : Option (List UInt8)
  manifest : Option (List UInt8)
deriving DecidableEq

def slotOf (tree : Option Node) (op : String) : Slot where
  code := Node.bytesAt tree [nameOf op, nameOf (op ++ ".json")]
  manifest := Node.bytesAt tree [nameOf op, nameOf manifestFilename]

/-- what a write leaves of a file -/
def leaves (broken : Option Broken) (bytes : List UInt8) (old : Option (List UInt8)) :
    Option (List UInt8) :=
  match broken with
  | none => some bytes
  | some broken => (broken.written.map bytes.take).or old

/-- the manifest of a pin of an operation -/
def pinManifest (crates : ArtifactCrates) (op : String) (bytes : List UInt8) :
    ArtifactManifest where
  manifestVersion := manifestSchemaVersion
  circuit := ⟨op⟩
  circuitVersion := ⟨0, 1, 0⟩
  artifactVersion := ⟨0, 1, 0⟩
  backend := ultraHonkId
  verificationKeyId := none
  files := [{ path := op ++ ".json"
              sha256 := .fromBytes crates.sha256 bytes
              kind := some "acir" }]
  backendMetadata := [("generated_by", "crucible-prover/0.1.0")]

namespace ArtifactsEnv

/-- what a run makes of the slot of an operation, and whether it goes on -/
def pinSlot (crates : ArtifactCrates) (env : ArtifactsEnv) (op : String) (slot : Slot) :
    Bool × Slot :=
  match env.readFile (artifactPath env.circuits op), env.createFails (env.root ++ [op]) with
  | .ok bytes, none =>
    let broken := env.writeFails (env.root ++ [op, op ++ ".json"])
    let slot := { slot with code := leaves broken bytes slot.code }
    if broken.isSome then (false, slot)
    else
      let broken := env.writeFails (env.root ++ [op, manifestFilename])
      let text := (pinManifest crates op bytes).toCanonicalJson
      (broken.isNone, { slot with manifest := leaves broken text slot.manifest })
  | _, _ => (false, slot)

def pinShelf (crates : ArtifactCrates) (env : ArtifactsEnv) :
    List String → (String → Slot) → Bool × (String → Slot)
  | [], shelf => (true, shelf)
  | op :: ops, shelf =>
    match env.pinSlot crates op (shelf op) with
    | (false, slot) => (false, Function.update shelf op slot)
    | (true, slot) => pinShelf crates env ops (Function.update shelf op slot)

def generateShelf (crates : ArtifactCrates) (env : ArtifactsEnv) (op : Option String)
    (shelf : String → Slot) : Bool × (String → Slot) :=
  match selectedOps op with
  | .error _ => (false, shelf)
  | .ok selected => env.pinShelf crates selected shelf

end ArtifactsEnv

/-- the tree is tidy, and its slots are those of the shelf -/
structure Shelved (tree : Option Node) (shelf : String → Slot) : Prop where
  tidy : Tidy tree
  slots : ∀ op ∈ operations, slotOf tree op = shelf op

theorem manifestFor_ok {crates : ArtifactCrates} {op : String} (h : op ∈ operations)
    (bytes : List UInt8) : manifestFor crates op bytes = .ok (pinManifest crates op bytes) := by
  have hbackend : BackendId.new BackendId.ultrahonk = .ok ⟨BackendId.ultrahonk⟩ := by decide
  rw [manifestFor, (isSegment h).circuit, hbackend]
  rfl

section
variable {crates : ArtifactCrates} {env : ArtifactsEnv} {tree : Option Node}
  {shelf : String → Slot} {op : String}

/-- a write below the directory of another operation leaves the slot -/
theorem slotOf_update {other : String} {path : List Name} {bytes : Option (List UInt8)}
    {tree' : Option Node} (hne : other ≠ op)
    (h : Node.bytesAt tree' = Function.update (Node.bytesAt tree) (nameOf op :: path) bytes) :
    slotOf tree' other = slotOf tree other := by
  have hpath (rest : List Name) : nameOf other :: rest ≠ nameOf op :: path :=
    fun heq => hne (nameOf_injective (List.cons.inj heq).1)
  rw [slotOf, slotOf, h, Function.update_of_ne (hpath _), Function.update_of_ne (hpath _)]

variable (env) in
theorem createDirAll_shelved (h : Shelved tree shelf) (hop : op ∈ operations) :
    ∃ tree', Shelved tree' shelf ∧ match env.createFails (env.root ++ [op]) with
      | some reason => env.createDirAll [op] tree = (.error reason, tree')
      | none => env.createDirAll [op] tree = (.ok (), tree') ∧
          ∃ node, Node.entry tree' (nameOf op) = some node := by
  unfold ArtifactsEnv.createDirAll
  cases env.createFails (env.root ++ [op]) with
  | some reason => exact ⟨tree, h, rfl⟩
  | none =>
    obtain ⟨made, hmade, htidy, hnode⟩ := h.tidy.makeDir hop
    refine ⟨some made, ⟨htidy, fun other hother => ?_⟩, ?_, hnode⟩
    · rw [← h.slots other hother, slotOf, slotOf, Node.bytesAt_createDirAll hmade]
    · show (match Node.createDirAll [nameOf op] tree with
        | .error reason => (Except.error reason, tree)
        | .ok made => (Except.ok (), some made)) = _
      rw [hmade]

variable (env) in
theorem write_tidy {file : String} (h : Tidy tree) (hop : op ∈ operations)
    (hnode : ∃ node, Node.entry tree (nameOf op) = some node)
    (hfile : file = op ++ ".json" ∨ file = manifestFilename) (bytes : List UInt8) :
    ∃ tree', env.write [op, file] bytes tree = (match env.writeFails (env.root ++ [op, file]) with
        | none => .ok ()
        | some broken => .error broken.reason, tree') ∧
      Tidy tree' ∧ (∃ node, Node.entry tree' (nameOf op) = some node) ∧
      Node.bytesAt tree' = Function.update (Node.bytesAt tree) [nameOf op, nameOf file]
        (leaves (env.writeFails (env.root ++ [op, file])) bytes
          (Node.bytesAt tree [nameOf op, nameOf file])) := by
  have hwrites (content : List UInt8) : ∃ written,
      Node.write content ([op, file].map nameOf) tree = .ok written ∧ Tidy (some written) ∧
        (∃ node, Node.entry (some written) (nameOf op) = some node) ∧
        Node.bytesAt (some written)
          = Function.update (Node.bytesAt tree) [nameOf op, nameOf file] (some content) := by
    obtain ⟨node, hnode⟩ := hnode
    have hname : nameOf file = nameOf (op ++ ".json") ∨ nameOf file = nameOf manifestFilename :=
      hfile.imp (congrArg nameOf) (congrArg nameOf)
    obtain ⟨written, hwrite, htidy, hentry⟩ := h.writeFile hop hnode hname content
    have hplace : Node.kindAt tree ([op, file].map nameOf) ≠ some .special := by
      show Node.kindAt tree [nameOf op, nameOf file] ≠ _
      rw [Node.kindAt_cons, hnode]
      exact (h.pins op hop node hnode).kindAt_ne _
    exact ⟨written, hwrite, htidy, hentry, Node.bytesAt_write hplace hwrite⟩
  unfold ArtifactsEnv.write
  rcases env.writeFails (env.root ++ [op, file]) with _ | ⟨reason, _ | n⟩
  · obtain ⟨written, hwrite, hspec⟩ := hwrites bytes
    refine ⟨some written, ?_, hspec⟩
    show (match Node.write bytes ([op, file].map nameOf) tree with
      | .error reason => (Except.error reason, tree)
      | .ok written => (Except.ok (), some written)) = _
    rw [hwrite]
  · exact ⟨tree, rfl, h, hnode, (Function.update_eq_self _ _).symm⟩
  · obtain ⟨written, hwrite, hspec⟩ := hwrites (bytes.take n)
    refine ⟨some written, ?_, hspec⟩
    show (Except.error reason,
      (Node.write (bytes.take n) ([op, file].map nameOf) tree).toOption.or tree) = _
    rw [hwrite]
    rfl

theorem file_ne_manifest (hop : op ∈ operations) :
    nameOf (op ++ ".json") ≠ nameOf manifestFilename :=
  fun h => (isSegment hop).apart (nameOf_injective h)

theorem Shelved.code {tree' : Option Node} {bytes : Option (List UInt8)} (h : Shelved tree shelf)
    (hop : op ∈ operations) (htidy : Tidy tree')
    (hread : Node.bytesAt tree' = Function.update (Node.bytesAt tree)
      [nameOf op, nameOf (op ++ ".json")] bytes) :
    Shelved tree' (Function.update shelf op { shelf op with code := bytes }) := by
  refine ⟨htidy, fun other hother => ?_⟩
  by_cases heq : other = op
  · subst heq
    have hne : [nameOf other, nameOf manifestFilename]
        ≠ [nameOf other, nameOf (other ++ ".json")] :=
      fun h => file_ne_manifest hother (List.cons.inj (List.cons.inj h).2).1.symm
    rw [Function.update_self, ← h.slots other hother, slotOf, hread, Function.update_self,
      Function.update_of_ne hne]
    rfl
  · rw [Function.update_of_ne heq, slotOf_update heq hread, h.slots other hother]

theorem Shelved.manifest {tree' : Option Node} {bytes : Option (List UInt8)}
    (h : Shelved tree shelf) (hop : op ∈ operations) (htidy : Tidy tree')
    (hread : Node.bytesAt tree' = Function.update (Node.bytesAt tree)
      [nameOf op, nameOf manifestFilename] bytes) :
    Shelved tree' (Function.update shelf op { shelf op with manifest := bytes }) := by
  refine ⟨htidy, fun other hother => ?_⟩
  by_cases heq : other = op
  · subst heq
    have hne : [nameOf other, nameOf (other ++ ".json")]
        ≠ [nameOf other, nameOf manifestFilename] :=
      fun h => file_ne_manifest hother (List.cons.inj (List.cons.inj h).2).1
    rw [Function.update_self, ← h.slots other hother, slotOf, hread, Function.update_self,
      Function.update_of_ne hne]
    rfl
  · rw [Function.update_of_ne heq, slotOf_update heq hread, h.slots other hother]

/-- a turn of the loop is one of slots -/
theorem pin_shelved (h : Shelved tree shelf) (hop : op ∈ operations) :
    Shelved (env.pin crates op tree).2
        (Function.update shelf op (env.pinSlot crates op (shelf op)).2) ∧
      ((env.pin crates op tree).1 = .ok () ↔ (env.pinSlot crates op (shelf op)).1 = true) := by
  have hfailed (e : String) : (Except.error e : Except String Unit) = .ok () ↔ false = true :=
    iff_of_false (fun h => by cases h) (fun h => by cases h)
  have hkept {tree' : Option Node} (h : Shelved tree' shelf) :
      Shelved tree' (Function.update shelf op (shelf op)) := by
    rwa [Function.update_eq_self]
  cases hfile : env.readFile (artifactPath env.circuits op) with
  | error e =>
    simp only [ArtifactsEnv.pin, ArtifactsEnv.pinSlot, hfile]
    exact ⟨hkept h, hfailed _⟩
  | ok bytes =>
    obtain ⟨made, hmade, hcreate⟩ := createDirAll_shelved env h hop
    cases hfails : env.createFails (env.root ++ [op]) with
    | some reason =>
      simp only [hfails] at hcreate
      simp only [ArtifactsEnv.pin, ArtifactsEnv.pinSlot, hfile, hfails, hcreate]
      exact ⟨hkept hmade, hfailed _⟩
    | none =>
      simp only [hfails] at hcreate
      obtain ⟨hcreate, hnode⟩ := hcreate
      obtain ⟨coded, hcode, htidy, hnode', hread⟩ :=
        write_tidy env hmade.tidy hop hnode (Or.inl rfl) bytes
      obtain ⟨pinned, hpin, htidy', _, hread'⟩ := write_tidy env htidy hop hnode'
        (Or.inr rfl) (pinManifest crates op bytes).toCanonicalJson
      have hold : Node.bytesAt made [nameOf op, nameOf (op ++ ".json")] = (shelf op).code :=
        congrArg Slot.code (hmade.slots op hop)
      rw [hold] at hread
      have hshelved := hmade.code hop htidy hread
      cases hbroken : env.writeFails (env.root ++ [op, op ++ ".json"]) with
      | some broken =>
        rw [hbroken] at hcode hshelved
        simp only [ArtifactsEnv.pin, ArtifactsEnv.pinSlot, hfile, hfails, hcreate,
          manifestFor_ok hop, hcode, hbroken, Option.isSome_some, if_true]
        exact ⟨hshelved, hfailed _⟩
      | none =>
        rw [hbroken] at hcode hshelved
        have hold' : Node.bytesAt coded [nameOf op, nameOf manifestFilename]
            = (shelf op).manifest := by
          have h := congrArg Slot.manifest (hshelved.slots op hop)
          rwa [Function.update_self] at h
        rw [hold'] at hread'
        have hshelved' := hshelved.manifest hop htidy' hread'
        rw [Function.update_self, Function.update_idem] at hshelved'
        simp only [ArtifactsEnv.pin, ArtifactsEnv.pinSlot, hfile, hfails, hcreate,
          manifestFor_ok hop, hcode, hbroken, hpin]
        cases hlast : env.writeFails (env.root ++ [op, manifestFilename]) with
        | some broken =>
          rw [hlast] at hshelved'
          exact ⟨hshelved', hfailed _⟩
        | none =>
          rw [hlast] at hshelved'
          exact ⟨hshelved', iff_of_true rfl rfl⟩

theorem pinAll_shelved {ops : List String} (h : Shelved tree shelf)
    (hops : ∀ op ∈ ops, op ∈ operations) :
    Shelved (env.pinAll crates ops tree).2 (env.pinShelf crates ops shelf).2 ∧
      ((env.pinAll crates ops tree).1 = .ok () ↔ (env.pinShelf crates ops shelf).1 = true) := by
  induction ops generalizing tree shelf with
  | nil => exact ⟨h, iff_of_true rfl rfl⟩
  | cons op ops ih =>
    obtain ⟨hop, hops⟩ := List.forall_mem_cons.mp hops
    obtain ⟨hpin, hresult⟩ : Shelved (env.pin crates op tree).2 _ ∧ _ := pin_shelved h hop
    rw [ArtifactsEnv.pinAll, ArtifactsEnv.pinShelf]
    revert hpin hresult
    obtain ⟨result, tree'⟩ := env.pin crates op tree
    obtain ⟨goesOn, slot⟩ := env.pinSlot crates op (shelf op)
    intro hpin hresult
    cases result with
    | error e =>
      cases goesOn with
      | true => exact absurd (hresult.mpr rfl) (by simp)
      | false => exact ⟨hpin, iff_of_false (fun h => by cases h) (fun h => by cases h)⟩
    | ok w =>
      cases goesOn with
      | true => exact ih hpin hops
      | false => exact absurd (hresult.mp rfl) (by simp)

theorem selectedOps_mem {name : Option String} {ops : List String}
    (h : ArtifactsEnv.selectedOps name = .ok ops) : ∀ op ∈ ops, op ∈ operations := by
  cases name with
  | none =>
    obtain rfl := Except.ok.inj h
    exact fun _ h => h
  | some name =>
    rw [ArtifactsEnv.selectedOps] at h
    split at h
    · next hmem =>
      obtain rfl := Except.ok.inj h
      exact fun op hop => List.mem_singleton.mp hop ▸ hmem
    · cases h

/-- **A run of `generate` is one of slots**, with the same verdict. -/
theorem generate_shelved {name : Option String} (h : Shelved tree shelf) :
    Shelved (env.generate crates name tree).2 (env.generateShelf crates name shelf).2 ∧
      ((env.generate crates name tree).1 = .ok () ↔
        (env.generateShelf crates name shelf).1 = true) := by
  unfold ArtifactsEnv.generate ArtifactsEnv.generateShelf
  cases hselected : ArtifactsEnv.selectedOps name with
  | error e => exact ⟨h, iff_of_false (fun h => by cases h) (fun h => by cases h)⟩
  | ok ops => exact pinAll_shelved h (selectedOps_mem hselected)

end

/-! ## what the loader makes of a slot -/

section
variable {crates : ArtifactCrates} {env : ArtifactsEnv} {tree : Option Node} {op : String}

theorem find_pathNames (hop : op ∈ operations) {root : Node} {node : Node} :
    (env.artifactDir (some root) op).root = .ok node ↔
      Node.entry (some root) (nameOf op) = some node := by
  show root.find (pathNames op) = .ok node ↔ _
  rw [(isSegment hop).path]
  cases root with
  | file content => exact iff_of_false (fun h => by cases h) (fun h => by cases h)
  | special content => exact iff_of_false (fun h => by cases h) (fun h => by cases h)
  | dir entries failure =>
    rw [Node.find]
    show _ ↔ entries.lookup (nameOf op) = some node
    cases hnode : entries.lookup (nameOf op) with
    | none => exact iff_of_false (fun h => by cases h) (fun h => by cases h)
    | some found =>
      show found.find [] = .ok node ↔ _
      rw [Node.find, Except.ok.injEq, Option.some.injEq]

/-- the files of a pin are read as the slot has them -/
theorem artifactDir_read (h : Tidy tree) (hop : op ∈ operations) {path : String}
    {bytes : List UInt8} (hpath : pathNames path = [nameOf path]) :
    (env.artifactDir tree op).read path = .ok bytes ↔
      Node.bytesAt tree [nameOf op, nameOf path] = some bytes := by
  rw [ArtifactDir.read_ok, hpath, Node.bytesAt_cons]
  cases tree with
  | none =>
    refine iff_of_false (fun ⟨_, hroot, _⟩ => ?_) (fun h => by cases h)
    cases hroot
  | some root =>
    simp only [find_pathNames hop]
    cases hentry : Node.entry (some root) (nameOf op) with
    | none =>
      refine iff_of_false (fun ⟨_, h, _⟩ => by cases h) (fun h => ?_)
      rw [Node.bytesAt_none] at h
      cases h
    | some node =>
      have hread : node.read [nameOf path] = .ok bytes ↔
          node.find [nameOf path] = .ok (.file (.ok bytes)) := by
        refine read_iff.trans (or_iff_left fun hdevice => ?_)
        exact (h.pins op hop node hentry).kindAt_ne _ (Node.kindAt_of_find hdevice)
      rw [Node.bytesAt_eq, ← hread]
      refine ⟨fun ⟨_, h, hfound⟩ => ?_, fun hfound => ⟨node, rfl, hfound⟩⟩
      obtain rfl := Option.some.inj h
      exact hfound

theorem pinManifest_parse (hop : op ∈ operations) {text bytes : List UInt8}
    (h : crates.parseManifest text = .ok (pinManifest crates op bytes)) :
    ArtifactManifest.parse crates.parseManifest text = .ok (pinManifest crates op bytes) := by
  refine ArtifactManifest.parse_ok.mpr ⟨_, h, ArtifactManifest.normalize_ok.mpr ⟨rfl, ?_, ?_⟩⟩
  · intro file hfile
    obtain rfl := List.mem_singleton.mp hfile
    exact (isSegment hop).safe
  · have hsort : (pinManifest crates op bytes).files.mergeSort (fun a b => decide (a.path ≤ b.path))
        = (pinManifest crates op bytes).files := List.mergeSort_singleton _
    rw [hsort]

/-- a pin has no file that its manifest does not declare -/
theorem checkDeclared_pin (hop : op ∈ operations) (hlossy : crates.lossy = Utf8.toStringLossy)
    (h : Tidy tree) {node : Node} (hnode : Node.entry tree (nameOf op) = some node)
    {bytes : List UInt8} : ArtifactLoader.checkDeclared crates (env.artifactDir tree op)
      (pinManifest crates op bytes) = .ok () := by
  have hroot : (env.artifactDir tree op).root = .ok node := by
    cases tree with
    | none => cases hnode
    | some root => exact (find_pathNames hop).mpr hnode
  have hsound : node.Sound := h.sound_pin hnode
  obtain ⟨files, rfl, hfiles⟩ := h.pins op hop node hnode
  refine (checkDeclared_iff hroot hsound).mpr fun names hfile => ?_
  obtain ⟨name, rest, leaf, rfl, hmem, hleaf⟩ := (Node.hasFile_dir hsound.1).mp hfile
  obtain ⟨hname, content, heq⟩ := hfiles _ hmem
  obtain rfl : leaf = .file (.ok content) := heq
  have hrest : rest = [] := by
    cases rest with
    | nil => rfl
    | cons first rest =>
      obtain ⟨_, hfind⟩ := hleaf
      cases hfind
  rw [hrest, hlossy]
  rcases hname with hname | hname
  · have hpath : name :: [] = pathNames (op ++ ".json") := by
      rw [(isSegment hop).filePath]
      exact congrArg (· :: []) hname
    rw [hpath, relativePath_pathNames (isSegment hop).safe]
    exact Or.inr (List.mem_singleton.mpr rfl)
  · have hpath : name :: [] = pathNames manifestFilename := congrArg (· :: []) hname
    rw [hpath, relativePath_pathNames (by decide)]
    exact Or.inl rfl

/-- **The loader accepts a slot** with the manifest of a pin when the bytecode has its digest. -/
theorem load_pin_iff (hop : op ∈ operations) (hlossy : crates.lossy = Utf8.toStringLossy)
    (h : Tidy tree) {text bytes : List UInt8} (htext : (slotOf tree op).manifest = some text)
    (hparse : crates.parseManifest text = .ok (pinManifest crates op bytes))
    {loaded : LoadedArtifact} :
    ArtifactLoader.new.load crates (env.artifactDir tree op) = .ok loaded ↔
      ∃ code, (slotOf tree op).code = some code ∧
        ArtifactChecksum.fromBytes crates.sha256 code = .fromBytes crates.sha256 bytes ∧
        loaded = ⟨pinManifest crates op bytes, [(op ++ ".json", code)]⟩ := by
  have hread : (env.artifactDir tree op).read manifestFilename = .ok text :=
    (artifactDir_read h hop (by decide)).mpr htext
  have hcode (code : List UInt8) : (env.artifactDir tree op).read (op ++ ".json") = .ok code ↔
      (slotOf tree op).code = some code := artifactDir_read h hop (isSegment hop).filePath
  have hnode : ∃ node, Node.entry tree (nameOf op) = some node := by
    have hbytes : Node.bytesAt (Node.entry tree (nameOf op)) [nameOf manifestFilename]
        = some text := Node.bytesAt_cons.symm.trans htext
    cases hentry : Node.entry tree (nameOf op) with
    | none =>
      rw [hentry] at hbytes
      cases hbytes
    | some node => exact ⟨node, rfl⟩
  obtain ⟨node, hnode⟩ := hnode
  have hload : ArtifactLoader.new.load crates (env.artifactDir tree op) = .ok loaded ↔
      ArtifactLoader.new.loadWithManifest crates (env.artifactDir tree op) text = .ok loaded := by
    simp only [ArtifactLoader.load, bind_ok, mapError_ok, hread]
    constructor
    · rintro ⟨_, heq, hload⟩
      exact Except.ok.inj heq ▸ hload
    · exact fun hload => ⟨text, rfl, hload⟩
  rw [hload, ArtifactLoader.loadWithManifest_ok, pinManifest_parse hop hparse]
  constructor
  · rintro ⟨hmanifest, _, hfiles⟩
    obtain ⟨manifest, files⟩ := loaded
    obtain rfl := Except.ok.inj hmanifest
    obtain ⟨entry, rest, hverify, hrest, rfl⟩ := List.forall₂_cons_left_iff.mp (mapM_ok hfiles)
    obtain rfl := List.forall₂_nil_left_iff.mp hrest
    obtain ⟨_, hcoded, hdigest, hpath⟩ := ArtifactLoader.verifyFile_ok.mp hverify
    obtain ⟨path, code⟩ := entry
    obtain rfl : path = op ++ ".json" := hpath
    exact ⟨code, (hcode code).mp hcoded, hdigest, rfl⟩
  · rintro ⟨code, hslot, hdigest, rfl⟩
    refine ⟨rfl, fun _ => checkDeclared_pin hop hlossy h hnode, mapM_of_forall₂ ?_⟩
    refine .cons (ArtifactLoader.verifyFile_ok.mpr ?_) .nil
    exact ⟨(isSegment hop).safe, (hcode code).mpr hslot, hdigest, rfl⟩

end

end Crucible
