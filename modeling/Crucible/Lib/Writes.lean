import Crucible.Lib.Files

/-!
# What writing does to a directory tree

A tree may be missing: then making a directory below it makes it.

* `Node.updateAt`      one node is changed, and the directories on the way to it stay or are made;
* `Node.write`, `Node.createDirAll`   `std::fs::write` and `std::fs::create_dir_all`;
* `Node.bytesAt`       the bytes of the regular file at a path: what a tree is for its readers;
* `Node.kindAt`        what is at a path: what a tree is for the calls that make directories;
* `Node.bytesAt_write`, `Node.bytesAt_createDirAll`   a write changes the bytes at its path alone,
                       and making directories does not;
* `Node.Sound.dir_setEntry`   a changed directory is still one that can be on a disk.
-/

namespace Files

/-- how a write of a file fails: why, and how much is in the file by then, if it was opened -/
structure Cut where
  reason : String
  written : Option Nat

/-- what is at a path, without what is below it -/
inductive Kind where
  | dir
  | file (content : Except String (List UInt8))
  | special

namespace Node

def kind : Node → Kind
  | .file content => .file content
  | .dir _ _ => .dir
  | .special _ => .special

def kindAt : Option Node → List Name → Option Kind
  | none, _ => none
  | some node, [] => some node.kind
  | some (.dir entries _), name :: path => kindAt (entries.lookup name) path
  | some (.file _), _ :: _ => none
  | some (.special _), _ :: _ => none

end Node

end Files

namespace Files.Node
open Checked

/-- the entries with the node under the name, at the place the name has -/
def setEntry (name : Name) (node : Node) : List (Name × Node) → List (Name × Node)
  | [] => [(name, node)]
  | entry :: entries =>
    if entry.1 = name then (name, node) :: entries else entry :: setEntry name node entries

/-- `change` is applied to what is at the path; `make` says whether directories on the way are made
where there is nothing -/
def updateAt (make : Bool) (change : Option Node → Except String Node) :
    List Name → Option Node → Except String Node
  | [], node => change node
  | name :: path, some (.dir entries failure) => do
    let node ← updateAt make change path (entries.lookup name)
    return .dir (setEntry name node entries) failure
  | name :: path, none =>
    if make then do
      let node ← updateAt make change path none
      return .dir [(name, node)] none
    else .error "No such file or directory (os error 2)"
  | _ :: _, some (.file _) => .error "Not a directory (os error 20)"
  | _ :: _, some (.special _) => .error "Not a directory (os error 20)"

def writeFile (bytes : List UInt8) : Option Node → Except String Node
  | none => .ok (.file (.ok bytes))
  | some (.file _) => .ok (.file (.ok bytes))
  | some (.dir _ _) => .error "Is a directory (os error 21)"
  | some (.special content) => .ok (.special content)

def makeDir : Option Node → Except String Node
  | none => .ok (.dir [] none)
  | some (.dir entries failure) => .ok (.dir entries failure)
  | some (.file _) => .error "File exists (os error 17)"
  | some (.special _) => .error "File exists (os error 17)"

def write (bytes : List UInt8) (path : List Name) (tree : Option Node) : Except String Node :=
  updateAt false (writeFile bytes) path tree

def createDirAll (path : List Name) (tree : Option Node) : Except String Node :=
  updateAt true makeDir path tree

/-- the bytes of the regular file at a path -/
def bytesAt : Option Node → List Name → Option (List UInt8)
  | some (.file (.ok bytes)), [] => some bytes
  | some (.dir entries _), name :: path => bytesAt (entries.lookup name) path
  | _, _ => none

/-- the node under a name of the directory at the top -/
def entry : Option Node → Name → Option Node
  | some (.dir entries _), name => entries.lookup name
  | _, _ => none

/-! ## entries -/

section
variable {name other : Name} {node : Node} {entries : List (Name × Node)}

theorem lookup_setEntry_self : (setEntry name node entries).lookup name = some node := by
  induction entries with
  | nil => exact List.lookup_cons_self
  | cons entry entries ih =>
    rw [setEntry]
    by_cases h : entry.1 = name
    · rw [if_pos h, List.lookup_cons_self]
    · rw [if_neg h, List.lookup_cons, beq_eq_false_iff_ne.mpr (Ne.symm h), ih]

theorem lookup_setEntry_of_ne (hne : other ≠ name) :
    (setEntry name node entries).lookup other = entries.lookup other := by
  induction entries with
  | nil =>
    rw [setEntry, List.lookup_cons, beq_eq_false_iff_ne.mpr hne]
  | cons entry entries ih =>
    rw [setEntry]
    by_cases h : entry.1 = name
    · rw [if_pos h, List.lookup_cons, List.lookup_cons, beq_eq_false_iff_ne.mpr hne,
        beq_eq_false_iff_ne.mpr (h ▸ hne)]
    · rw [if_neg h, List.lookup_cons, List.lookup_cons, ih]

theorem mem_of_mem_setEntry {entry : Name × Node} (h : entry ∈ setEntry name node entries) :
    entry = (name, node) ∨ entry ∈ entries := by
  induction entries with
  | nil => exact Or.inl (List.mem_singleton.mp h)
  | cons first entries ih =>
    rw [setEntry] at h
    split at h
    · rcases List.mem_cons.mp h with heq | hmem
      · exact Or.inl heq
      · exact Or.inr (List.mem_cons_of_mem _ hmem)
    · rcases List.mem_cons.mp h with rfl | hmem
      · exact Or.inr List.mem_cons_self
      · exact (ih hmem).imp_right (List.mem_cons_of_mem _)

theorem setEntry_nodup (h : (entries.map Prod.fst).Nodup) :
    ((setEntry name node entries).map Prod.fst).Nodup := by
  induction entries with
  | nil => exact List.nodup_cons.mpr ⟨List.not_mem_nil, List.nodup_nil⟩
  | cons first entries ih =>
    obtain ⟨hnot, hrest⟩ := List.nodup_cons.mp h
    rw [setEntry]
    split
    · next heq =>
      rw [List.map_cons, ← heq]
      exact h
    · next hne =>
      refine List.nodup_cons.mpr ⟨fun hmem => ?_, ih hrest⟩
      obtain ⟨entry, hentry, hname⟩ := List.mem_map.mp hmem
      rcases mem_of_mem_setEntry hentry with rfl | hold
      · exact hne hname.symm
      · exact hnot (hname ▸ List.mem_map_of_mem hold)

theorem soundIn_iff : SoundIn entries ↔ ∀ entry ∈ entries, IsName entry.1 ∧ entry.2.Sound := by
  induction entries with
  | nil => exact iff_of_true trivial fun _ h => absurd h List.not_mem_nil
  | cons entry entries ih =>
    obtain ⟨name, node⟩ := entry
    rw [SoundIn, ih, List.forall_mem_cons, SoundAt]

theorem Sound.lookup (h : (Node.dir entries none).Sound)
    (hfound : entries.lookup name = some node) : node.Sound :=
  (soundIn_iff.mp h.2 _ ((lookup_iff h.1).mp hfound)).2

/-- a changed directory can still be on a disk -/
theorem Sound.dir_setEntry (h : (Node.dir entries none).Sound) (hname : IsName name)
    (hnode : node.Sound) : (Node.dir (setEntry name node entries) none).Sound := by
  refine ⟨setEntry_nodup h.1, soundIn_iff.mpr fun entry hentry => ?_⟩
  rcases mem_of_mem_setEntry hentry with rfl | hold
  · exact ⟨hname, hnode⟩
  · exact soundIn_iff.mp h.2 entry hold

end

/-! ## what is read after a change -/

theorem kindAt_cons {tree : Option Node} {name : Name} {path : List Name} :
    kindAt tree (name :: path) = kindAt (entry tree name) path := by
  cases tree with
  | none => simp [kindAt, entry]
  | some node => cases node <;> simp [kindAt, entry]

theorem kindAt_of_find {root node : Node} {path : List Name} (h : root.find path = .ok node) :
    kindAt (some root) path = some node.kind := by
  induction path generalizing root with
  | nil =>
    rw [find] at h
    obtain rfl := Except.ok.inj h
    rfl
  | cons name path ih =>
    cases root with
    | file content => cases h
    | special content => cases h
    | dir entries failure =>
      rw [find] at h
      split at h
      · next child hchild =>
        show kindAt (entries.lookup name) path = _
        rw [hchild]
        exact ih h
      · cases h

theorem bytesAt_none (path : List Name) : bytesAt none path = none := by
  cases path <;> rfl

theorem bytesAt_cons {tree : Option Node} {name : Name} {path : List Name} :
    bytesAt tree (name :: path) = bytesAt (entry tree name) path := by
  cases tree with
  | none => exact (bytesAt_none path).symm
  | some node =>
    cases node with
    | file content =>
      refine Eq.trans ?_ (bytesAt_none path).symm
      cases content <;> rfl
    | dir entries failure => rfl
    | special content => exact (bytesAt_none path).symm

theorem bytesAt_eq {root : Node} {path : List Name} {bytes : List UInt8} :
    bytesAt (some root) path = some bytes ↔ root.find path = .ok (.file (.ok bytes)) := by
  induction path generalizing root with
  | nil =>
    rw [find]
    cases root with
    | file content =>
      cases content with
      | ok content => simp [bytesAt]
      | error reason => simp [bytesAt]
    | dir entries failure => simp [bytesAt]
    | special content => simp [bytesAt]
  | cons name path ih =>
    cases root with
    | file content => simp [bytesAt, find]
    | dir entries failure =>
      rw [bytesAt, find]
      cases hnode : entries.lookup name with
      | none => simp [bytesAt_none]
      | some node => exact ih
    | special content => simp [bytesAt, find]

/-- below a directory that is changed under one name -/
theorem bytesAt_setEntry {entries : List (Name × Node)} {failure : Option ListFailure}
    {name : Name} {node : Node} {old : Option Node} {path : List Name} {bytes : Option (List UInt8)}
    (hold : bytesAt old = bytesAt (entries.lookup name))
    (h : bytesAt (some node) = Function.update (bytesAt old) path bytes) :
    bytesAt (some (.dir (setEntry name node entries) failure))
      = Function.update (bytesAt (some (.dir entries failure))) (name :: path) bytes := by
  funext names
  cases names with
  | nil =>
    rw [Function.update_of_ne (by simp)]
    rfl
  | cons other rest =>
    show bytesAt ((setEntry name node entries).lookup other) rest = _
    by_cases hname : other = name
    · subst hname
      rw [lookup_setEntry_self, h, hold]
      by_cases hrest : rest = path
      · subst hrest
        rw [Function.update_self, Function.update_self]
      · rw [Function.update_of_ne hrest, Function.update_of_ne (by simpa using hrest)]
        rfl
    · rw [lookup_setEntry_of_ne hname, Function.update_of_ne (by simp [hname])]
      rfl

/-- **A write changes what is read at its path, and nowhere else.** -/
theorem bytesAt_write {bytes : List UInt8} {path : List Name} {tree : Option Node} {tree' : Node}
    (hplace : kindAt tree path ≠ some .special) (h : write bytes path tree = .ok tree') :
    bytesAt (some tree') = Function.update (bytesAt tree) path (some bytes) := by
  unfold write at h
  induction path generalizing tree tree' with
  | nil =>
    -- there was a file or nothing, so nothing is read below the path, before or after
    have hfile : tree' = .file (.ok bytes) ∧ ∀ name rest, bytesAt tree (name :: rest) = none := by
      rw [updateAt] at h
      cases tree with
      | none => exact ⟨(Except.ok.inj h).symm, fun _ _ => rfl⟩
      | some node =>
        cases node with
        | file content =>
          refine ⟨(Except.ok.inj h).symm, fun name rest => ?_⟩
          cases content <;> rfl
        | dir entries failure => cases h
        | special content => exact absurd rfl hplace
    obtain ⟨rfl, hbelow⟩ := hfile
    funext names
    cases names with
    | nil =>
      rw [Function.update_self]
      rfl
    | cons name rest =>
      rw [Function.update_of_ne (List.cons_ne_nil _ _), hbelow]
      rfl
  | cons name path ih =>
    cases tree with
    | none => cases h
    | some node =>
      cases node with
      | file content => cases h
      | special content => cases h
      | dir entries failure =>
        obtain ⟨node, hnode, heq⟩ := bind_ok.mp h
        obtain rfl := Except.ok.inj heq
        exact bytesAt_setEntry rfl (ih hplace hnode)

/-- a device takes what is written, and nothing is read anew -/
theorem bytesAt_write_special {bytes : List UInt8} {path : List Name} {tree : Option Node}
    {tree' : Node} (hplace : kindAt tree path = some .special)
    (h : write bytes path tree = .ok tree') : bytesAt (some tree') = bytesAt tree := by
  unfold write at h
  induction path generalizing tree tree' with
  | nil =>
    obtain ⟨content, rfl⟩ : ∃ content, tree = some (.special content) := by
      match tree, hplace with
      | some (.special content), _ => exact ⟨content, rfl⟩
    obtain rfl := Except.ok.inj h
    rfl
  | cons name path ih =>
    cases tree with
    | none => cases h
    | some node =>
      cases node with
      | file content => cases h
      | special content => cases h
      | dir entries failure =>
        obtain ⟨node, hnode, heq⟩ := bind_ok.mp h
        obtain rfl := Except.ok.inj heq
        have hkept : bytesAt (some node) = Function.update (bytesAt (entries.lookup name)) path
            (bytesAt (entries.lookup name) path) :=
          (ih hplace hnode).trans (Function.update_eq_self path _).symm
        exact (bytesAt_setEntry rfl hkept).trans (Function.update_eq_self (name :: path) _)

/-- **Making directories changes nothing that is read.** -/
theorem bytesAt_createDirAll {path : List Name} {tree : Option Node} {tree' : Node}
    (h : createDirAll path tree = .ok tree') : bytesAt (some tree') = bytesAt tree := by
  unfold createDirAll at h
  induction path generalizing tree tree' with
  | nil =>
    rw [updateAt] at h
    cases tree with
    | none =>
      obtain rfl := Except.ok.inj h
      funext names
      cases names with
      | nil => rfl
      | cons name rest => exact bytesAt_none rest
    | some node =>
      cases node with
      | file content => cases h
      | dir entries failure =>
        exact congrArg (fun node => bytesAt (some node)) (Except.ok.inj h).symm
      | special content => cases h
  | cons name path ih =>
    cases tree with
    | none =>
      obtain ⟨node, hnode, heq⟩ := bind_ok.mp h
      obtain rfl := Except.ok.inj heq
      funext names
      cases names with
      | nil => rfl
      | cons other rest =>
        show bytesAt ([(name, node)].lookup other) rest = none
        rw [List.lookup_cons]
        split
        · rw [ih hnode, bytesAt_none]
        · exact bytesAt_none rest
    | some node =>
      cases node with
      | file content => cases h
      | special content => cases h
      | dir entries failure =>
        obtain ⟨node, hnode, heq⟩ := bind_ok.mp h
        obtain rfl := Except.ok.inj heq
        have hkept : bytesAt (some node) = Function.update (bytesAt (entries.lookup name)) path
            (bytesAt (entries.lookup name) path) :=
          (ih hnode).trans (Function.update_eq_self path _).symm
        exact (bytesAt_setEntry rfl hkept).trans (Function.update_eq_self (name :: path) _)

end Files.Node
