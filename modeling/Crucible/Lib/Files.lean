import Crucible.Lib.Checked

/-!
# Directory trees, as `std::fs` shows them on Unix

A name is any list of bytes; a path is the list of its names.  Links are not modelled.

* `Node`          a file with its bytes, a directory with its entries, or a device or pipe;
* `Node.find`     the node at a path; `Node.read` what `std::fs::read` returns there;
* `Node.files`    the regular files below a node, in the order of a recursive listing;
* `Node.Sound`    a tree that can be on a disk, and be read; its devices may give anything;
* `Node.files_sound`   the listing of one is the paths at which a regular file is found.
-/

namespace Files
open Checked

abbrev Name := List UInt8

/-- how the listing of a directory fails -/
inductive ListFailure where
  /-- before the first entry -/
  | opening (reason : String)
  /-- behind the last -/
  | entry (reason : String)
deriving DecidableEq

inductive Node where
  /-- a regular file: its bytes, or the reason reading it fails -/
  | file (content : Except String (List UInt8))
  /-- a directory: the entries that are listed, and how the listing fails, if it does -/
  | dir (entries : List (Name × Node)) (failure : Option ListFailure)
  /-- a device, a pipe or a socket: what reading it gives; what is written there is not kept -/
  | special (content : Except String (List UInt8))

namespace Node

def find : Node → List Name → Except String Node
  | node, [] => .ok node
  | .dir entries _, name :: path =>
    match entries.lookup name with
    | some node => node.find path
    | none => .error "No such file or directory (os error 2)"
  | .file _, _ :: _ => .error "Not a directory (os error 20)"
  | .special _, _ :: _ => .error "Not a directory (os error 20)"

def contents : Node → Except String (List UInt8)
  | .file content => content
  | .dir _ _ => .error "Is a directory (os error 21)"
  | .special content => content

def read (root : Node) (path : List Name) : Except String (List UInt8) := do
  let node ← root.find path
  node.contents

mutual

/-- the paths of the regular files at and below a node that is itself at `path`; a directory that
cannot be listed ends the listing -/
def files (path : List Name) : Node → Except (List Name × String) (List (List Name))
  | .file _ => .ok [path]
  | .special _ => .ok []
  | .dir entries none => filesIn path entries
  | .dir _ (some (.opening reason)) => .error (path, reason)
  | .dir entries (some (.entry reason)) => do
    let _ ← filesIn path entries
    .error (path, reason)

def filesIn (path : List Name) :
    List (Name × Node) → Except (List Name × String) (List (List Name))
  | [] => .ok []
  | entry :: entries => do
    let first ← filesAt path entry
    let rest ← filesIn path entries
    return first ++ rest

def filesAt (path : List Name) : Name × Node → Except (List Name × String) (List (List Name))
  | (name, node) => node.files (path ++ [name])

end

/-! ## what is listed is what is found -/

/-- what a directory entry can be called -/
def IsName (name : Name) : Prop :=
  name ≠ [] ∧ name ≠ [0x2e] ∧ name ≠ [0x2e, 0x2e] ∧ 0x2f ∉ name ∧ 0 ∉ name

instance (name : Name) : Decidable (IsName name) :=
  inferInstanceAs (Decidable (_ ∧ _ ∧ _ ∧ _ ∧ _))

mutual

/-- no two entries of a directory have one name, and every directory and file can be read -/
def Sound : Node → Prop
  | .file content => ∃ bytes, content = .ok bytes
  | .special _ => True
  | .dir entries none => (entries.map Prod.fst).Nodup ∧ SoundIn entries
  | .dir _ (some _) => False

def SoundIn : List (Name × Node) → Prop
  | [] => True
  | entry :: entries => SoundAt entry ∧ SoundIn entries

def SoundAt : Name × Node → Prop
  | (name, node) => IsName name ∧ node.Sound

end

/-- a regular file is found at the path -/
def HasFile (root : Node) (path : List Name) : Prop :=
  ∃ bytes, root.find path = .ok (.file (.ok bytes))

/-- entries with different names are found under their names -/
theorem lookup_iff {entries : List (Name × Node)} (h : (entries.map Prod.fst).Nodup) {name : Name}
    {node : Node} : entries.lookup name = some node ↔ (name, node) ∈ entries := by
  induction entries with
  | nil => exact ⟨fun h => (by cases h), fun h => absurd h List.not_mem_nil⟩
  | cons entry entries ih =>
    obtain ⟨first, node'⟩ := entry
    rw [List.map_cons, List.nodup_cons] at h
    rw [List.lookup_cons, List.mem_cons, Prod.mk.injEq]
    by_cases hname : name = first
    · subst hname
      rw [beq_self_eq_true]
      refine ⟨fun h => Or.inl ⟨rfl, (Option.some.inj h).symm⟩, fun hmem => ?_⟩
      rcases hmem with ⟨_, rfl⟩ | hmem
      · rfl
      · exact absurd (List.mem_map_of_mem hmem) h.1
    · rw [beq_eq_false_iff_ne.mpr hname]
      refine (ih h.2).trans ⟨Or.inr, fun hmem => hmem.resolve_left fun heq => hname heq.1⟩

theorem mem_of_lookup {entries : List (Name × Node)} {name : Name} {node : Node}
    (h : entries.lookup name = some node) : (name, node) ∈ entries := by
  induction entries with
  | nil => cases h
  | cons entry entries ih =>
    obtain ⟨first, node'⟩ := entry
    rw [List.lookup_cons] at h
    split at h
    · next heq =>
      obtain rfl := eq_of_beq heq
      obtain rfl := Option.some.inj h
      exact List.mem_cons_self
    · exact List.mem_cons_of_mem _ (ih h)

theorem hasFile_dir {entries : List (Name × Node)} {failure : Option ListFailure}
    (h : (entries.map Prod.fst).Nodup) {path : List Name} :
    (Node.dir entries failure).HasFile path ↔
      ∃ name rest node, path = name :: rest ∧ (name, node) ∈ entries ∧ node.HasFile rest := by
  cases path with
  | nil =>
    refine iff_of_false (fun ⟨_, hfind⟩ => ?_) (fun ⟨_, _, _, hpath, _⟩ => ?_)
    · rw [find] at hfind
      cases hfind
    · cases hpath
  | cons name rest =>
    unfold HasFile
    rw [find]
    refine ⟨fun ⟨bytes, hfind⟩ => ?_, fun ⟨name', rest', node, hpath, hmem, bytes, hfind⟩ => ?_⟩
    · split at hfind
      · next node hnode =>
        exact ⟨name, rest, node, rfl, (lookup_iff h).mp hnode, bytes, hfind⟩
      · cases hfind
    · obtain ⟨rfl, rfl⟩ := List.cons.inj hpath
      rw [(lookup_iff h).mpr hmem]
      exact ⟨bytes, hfind⟩

mutual

theorem files_spec : ∀ (node : Node) (path : List Name), node.Sound →
    ∃ found, node.files path = .ok found ∧
      ∀ names, names ∈ found ↔ ∃ rest, names = path ++ rest ∧ node.HasFile rest
  | .file content, path, h => by
    obtain ⟨bytes, rfl⟩ := h
    refine ⟨[path], rfl, fun names => ?_⟩
    rw [List.mem_singleton]
    refine ⟨fun hnames => ⟨[], by rw [hnames, List.append_nil], bytes, rfl⟩, ?_⟩
    intro hbelow
    obtain ⟨rest, rfl, _, hfind⟩ := hbelow
    cases rest with
    | nil => exact List.append_nil path
    | cons _ _ => cases hfind
  | .special _, path, _ => by
    refine ⟨[], rfl, fun names => iff_of_false List.not_mem_nil ?_⟩
    intro hbelow
    obtain ⟨rest, _, _, hfind⟩ := hbelow
    cases rest with
    | nil => cases hfind
    | cons _ _ => cases hfind
  | .dir entries none, path, ⟨hnodup, hentries⟩ => by
    obtain ⟨found, hfound, hmem⟩ := filesIn_spec entries path hentries
    refine ⟨found, hfound, fun names => (hmem names).trans ⟨?_, ?_⟩⟩
    · intro hbelow
      obtain ⟨name, rest, node, rfl, hentry, hfile⟩ := hbelow
      exact ⟨name :: rest, rfl, (hasFile_dir hnodup).mpr ⟨name, rest, node, rfl, hentry, hfile⟩⟩
    · intro hbelow
      obtain ⟨rest, rfl, hfile⟩ := hbelow
      obtain ⟨name, rest', node, rfl, hentry, hfile⟩ := (hasFile_dir hnodup).mp hfile
      exact ⟨name, rest', node, rfl, hentry, hfile⟩
  | .dir _ (some _), _, h => absurd h id

theorem filesIn_spec : ∀ (entries : List (Name × Node)) (path : List Name), SoundIn entries →
    ∃ found, filesIn path entries = .ok found ∧ ∀ names, names ∈ found ↔
      ∃ name rest node, names = path ++ name :: rest ∧ (name, node) ∈ entries ∧ node.HasFile rest
  | [], path, _ => by
    refine ⟨[], rfl, fun names => iff_of_false List.not_mem_nil ?_⟩
    intro hbelow
    obtain ⟨_, _, _, _, hmem, _⟩ := hbelow
    exact absurd hmem List.not_mem_nil
  | (name, node) :: entries, path, ⟨⟨_, hnode⟩, hentries⟩ => by
    obtain ⟨first, hfirst, hmemFirst⟩ := files_spec node (path ++ [name]) hnode
    obtain ⟨rest, hrest, hmemRest⟩ := filesIn_spec entries path hentries
    refine ⟨first ++ rest, bind_ok.mpr ⟨first, hfirst, bind_ok.mpr ⟨rest, hrest, rfl⟩⟩, ?_⟩
    intro names
    rw [List.mem_append, hmemFirst, hmemRest]
    refine ⟨fun h => ?_, ?_⟩
    · rcases h with ⟨below, rfl, hfile⟩ | ⟨name', below, node', rfl, hentry, hfile⟩
      · exact ⟨name, below, node, by rw [List.append_assoc]; rfl, List.mem_cons_self, hfile⟩
      · exact ⟨name', below, node', rfl, List.mem_cons_of_mem _ hentry, hfile⟩
    · intro hbelow
      obtain ⟨name', below, node', rfl, hentry, hfile⟩ := hbelow
      rcases List.mem_cons.mp hentry with heq | hentry
      · obtain ⟨rfl, rfl⟩ := Prod.mk.inj heq
        exact Or.inl ⟨below, by rw [List.append_assoc]; rfl, hfile⟩
      · exact Or.inr ⟨name', below, node', rfl, hentry, hfile⟩

end

/-- a sound tree is listed, and the listing is where a regular file is found -/
theorem files_sound {root : Node} (h : root.Sound) :
    ∃ found, root.files [] = .ok found ∧ ∀ names, names ∈ found ↔ root.HasFile names := by
  obtain ⟨found, hfound, hmem⟩ := files_spec root [] h
  refine ⟨found, hfound, fun names => (hmem names).trans ⟨?_, fun hfile => ⟨names, rfl, hfile⟩⟩⟩
  intro hbelow
  obtain ⟨rest, rfl, hfile⟩ := hbelow
  exact hfile

end Node

end Files
