import Crucible.Lib.Writes

/-!
# Copying trees

The calls a copy makes are a parameter, so that one definition runs on a tree and runs without one,
where every call is only answered.

* `CopyCalls`, `Node.copyTree`   the recursive copy, by the calls it makes;
* `CopyIo.onTree`, `CopyIo.answers`   the calls on a tree, and the answers they give by themselves;
* `Preserves`, `Says`   what a run that can fail keeps, and what it answers, by its steps;
* `copyTree_answers`    in a vacant place the answer is that of the calls, and the copy is exact;
* `Built`               the files after several copies, each beside the others;
* `copyTree_preserves`  however a copy ends, there are only copies, whole or cut.
-/

namespace Files
open Checked

namespace Node

section
variable {tree : Option Node} {path rest : List Name} {name other : Name} {k : Kind}

@[simp] theorem kindAt_none : kindAt none path = none := by rw [kindAt]

theorem kindAt_eq_none : kindAt tree [] = none ↔ tree = none := by
  cases tree with
  | none => exact iff_of_true kindAt_none rfl
  | some node => exact iff_of_false nofun nofun

theorem bytesAt_iff {bytes : List UInt8} :
    bytesAt tree path = some bytes ↔ kindAt tree path = some (.file (.ok bytes)) := by
  induction path generalizing tree with
  | nil =>
    cases tree with
    | none => simp [bytesAt]
    | some node =>
      cases node with
      | file content => cases content <;> simp [bytesAt, kindAt, kind]
      | dir entries failure => simp [bytesAt, kindAt, kind]
      | special content => simp [bytesAt, kindAt, kind]
  | cons name path ih =>
    cases tree with
    | none => simp [bytesAt]
    | some node =>
      cases node with
      | file content => cases content <;> simp [bytesAt, kindAt]
      | dir entries failure => exact ih
      | special content => simp [bytesAt, kindAt]

theorem bytesAt_congr {tree' : Option Node} {path' : List Name}
    (h : kindAt tree path = kindAt tree' path') : bytesAt tree path = bytesAt tree' path' := by
  apply Option.ext
  intro bytes
  rw [bytesAt_iff, bytesAt_iff, h]

theorem find_append {root : Node} :
    root.find (path ++ rest) = root.find path >>= fun node => node.find rest := by
  induction path generalizing root with
  | nil => rw [find]; rfl
  | cons name path ih =>
    cases root with
    | file content => rfl
    | special content => rfl
    | dir entries failure =>
      rw [List.cons_append, find, find]
      cases entries.lookup name with
      | none => rfl
      | some node => exact ih

theorem bytesAt_append {root : Node} : bytesAt (some root) (path ++ rest) =
    match root.find path with
    | .ok node => bytesAt (some node) rest
    | .error _ => none := by
  induction path generalizing root with
  | nil => rw [find]; rfl
  | cons name path ih =>
    cases root with
    | file content => rw [find]; cases content <;> rfl
    | special content => rfl
    | dir entries failure =>
      show bytesAt (entries.lookup name) (path ++ rest) = _
      rw [find]
      cases entries.lookup name with
      | none => exact bytesAt_none _
      | some node => exact ih

/-- what has something below it is a directory -/
theorem kindAt_of_append (h : kindAt tree (path ++ name :: rest) = some k) :
    kindAt tree path = some .dir := by
  induction path generalizing tree with
  | nil =>
    cases tree with
    | none => cases h
    | some node =>
      cases node with
      | file content => cases h
      | dir entries failure => rfl
      | special content => cases h
  | cons first path ih =>
    cases tree with
    | none => cases h
    | some node =>
      cases node with
      | file content => cases h
      | dir entries failure => exact ih h
      | special content => cases h

theorem kindAt_setEntry {entries : List (Name × Node)} {failure : Option ListFailure}
    {node : Node} :
    kindAt (some (.dir (setEntry name node entries) failure)) (other :: rest)
      = if other = name then kindAt (some node) rest else kindAt (entries.lookup other) rest := by
  show kindAt ((setEntry name node entries).lookup other) rest = _
  by_cases h : other = name
  · rw [if_pos h, h, lookup_setEntry_self]
  · rw [if_neg h, lookup_setEntry_of_ne h]

/-! ## what the calls do -/

/-- directories are made where the way is free -/
theorem createDirAll_kindAt
    (h : ∀ q, q <+: path → kindAt tree q = none ∨ kindAt tree q = some .dir) :
    ∃ made, createDirAll path tree = .ok made ∧ ∀ q, kindAt (some made) q
      = if q <+: path then some .dir else kindAt tree q := by
  unfold createDirAll
  induction path generalizing tree with
  | nil =>
    cases tree with
    | none =>
      refine ⟨.dir [] none, rfl, fun q => ?_⟩
      cases q with
      | nil => rfl
      | cons name q => simp [kindAt]
    | some node =>
      cases node with
      | dir entries failure =>
        refine ⟨.dir entries failure, rfl, fun q => ?_⟩
        cases q with
        | nil => rfl
        | cons name q => simp
      | file content => simpa [kindAt, kind] using h [] List.nil_prefix
      | special content => simpa [kindAt, kind] using h [] List.nil_prefix
  | cons name path ih =>
    cases tree with
    | none =>
      obtain ⟨node, hnode, hkinds⟩ := @ih none fun q _ => Or.inl kindAt_none
      refine ⟨.dir [(name, node)] none, bind_ok.mpr ⟨node, hnode, rfl⟩, fun q => ?_⟩
      cases q with
      | nil => rw [if_pos List.nil_prefix]; rfl
      | cons other q =>
        have hset : kindAt (some (.dir (setEntry name node []) none)) (other :: q) = _ :=
          kindAt_setEntry
        refine hset.trans ?_
        by_cases hname : other = name
        · subst hname
          rw [if_pos rfl, hkinds]
          simp only [List.prefix_cons_inj, kindAt_none]
        · rw [if_neg hname, if_neg fun hq => hname (List.cons_prefix_cons.mp hq).1]
          exact kindAt_none.trans kindAt_none.symm
    | some node =>
      cases node with
      | dir entries failure =>
        obtain ⟨node, hnode, hkinds⟩ := @ih (entries.lookup name) fun q hq =>
          h (name :: q) (List.cons_prefix_cons.mpr ⟨rfl, hq⟩)
        refine ⟨.dir (setEntry name node entries) failure, bind_ok.mpr ⟨node, hnode, rfl⟩,
          fun q => ?_⟩
        cases q with
        | nil => rw [if_pos List.nil_prefix]; rfl
        | cons other q =>
          rw [kindAt_setEntry]
          by_cases hname : other = name
          · subst hname
            rw [if_pos rfl, hkinds]
            simp only [List.prefix_cons_inj]
            rfl
          · rw [if_neg hname, if_neg fun hq => hname (List.cons_prefix_cons.mp hq).1]
            rfl
      | file content => simpa [kindAt, kind] using h [] List.nil_prefix
      | special content => simpa [kindAt, kind] using h [] List.nil_prefix

/-- a file is written where there is none, in a directory -/
theorem write_kindAt (bytes : List UInt8) (hparent : kindAt tree path = some .dir)
    (hfree : kindAt tree (path ++ [name]) = none) :
    ∃ written, write bytes (path ++ [name]) tree = .ok written ∧ ∀ q, kindAt (some written) q
      = if q = path ++ [name] then some (.file (.ok bytes)) else kindAt tree q := by
  unfold write
  induction path generalizing tree with
  | nil =>
    cases tree with
    | none => cases hparent
    | some node =>
      cases node with
      | file content => cases hparent
      | special content => cases hparent
      | dir entries failure =>
        have hnone : entries.lookup name = none := kindAt_eq_none.mp hfree
        refine ⟨.dir (setEntry name (.file (.ok bytes)) entries) failure, ?_, fun q => ?_⟩
        · show updateAt false (writeFile bytes) [name] _ = _
          rw [updateAt, updateAt, hnone]
          rfl
        · cases q with
          | nil => rfl
          | cons other q =>
            rw [kindAt_setEntry]
            by_cases hname : other = name
            · subst hname
              rw [if_pos rfl]
              cases q with
              | nil => simp [kindAt, kind]
              | cons first q => simp [kindAt, hnone]
            · rw [if_neg hname, if_neg (by simp [hname])]
              rfl
  | cons first path ih =>
    cases tree with
    | none => cases hparent
    | some node =>
      cases node with
      | file content => cases hparent
      | special content => cases hparent
      | dir entries failure =>
        obtain ⟨node, hnode, hkinds⟩ := @ih (entries.lookup first) hparent hfree
        refine ⟨.dir (setEntry first node entries) failure, bind_ok.mpr ⟨node, hnode, rfl⟩,
          fun q => ?_⟩
        cases q with
        | nil => rfl
        | cons other q =>
          rw [kindAt_setEntry]
          by_cases hname : other = first
          · subst hname
            rw [if_pos rfl, hkinds]
            simp only [List.cons_append, List.cons.injEq, true_and]
            rfl
          · rw [if_neg hname, if_neg (by simp [hname])]
            rfl

end

/-! ## the copy -/

/-- in no directory two entries have one name -/
def Distinct (node : Node) : Prop :=
  ∀ path entries failure, node.find path = .ok (.dir entries failure) →
    (entries.map Prod.fst).Nodup

section
variable {entries : List (Name × Node)} {failure : Option ListFailure}

theorem Distinct.nodup (h : (Node.dir entries failure).Distinct) : (entries.map Prod.fst).Nodup :=
  h [] entries failure rfl

theorem distinct_file {content : Except String (List UInt8)} : (Node.file content).Distinct := by
  intro path entries failure hfind
  cases path <;> cases hfind

theorem distinct_dir (h : (entries.map Prod.fst).Nodup) (hentries : ∀ e ∈ entries, e.2.Distinct) :
    (Node.dir entries failure).Distinct := by
  intro path below reason hfind
  cases path with
  | nil =>
    cases hfind
    exact h
  | cons name path =>
    rw [find] at hfind
    cases hfound : entries.lookup name with
    | none =>
      rw [hfound] at hfind
      cases hfind
    | some node =>
      rw [hfound] at hfind
      exact hentries _ ((lookup_iff h).mp hfound) path below reason hfind

theorem Distinct.found {root node : Node} {path : List Name} (h : root.Distinct)
    (hfound : root.find path = .ok node) : node.Distinct := by
  intro below entries failure hfind
  apply h (path ++ below) entries failure
  rw [find_append, hfound]
  exact hfind

theorem Distinct.entry (h : (Node.dir entries failure).Distinct) {entry : Name × Node}
    (hentry : entry ∈ entries) : entry.2.Distinct := by
  intro path below reason hfind
  apply h (entry.1 :: path) below reason
  rw [find, (lookup_iff h.nodup).mpr hentry]
  exact hfind

end

end Node

/-- the call that failed, by the paths it was given -/
inductive CopyError where
  | create (path : List Name) (reason : String)
  | list (path : List Name) (reason : String)
  | entry (reason : String)
  | copy (source target : List Name) (reason : String)
deriving DecidableEq

/-- the calls that a copy makes -/
structure CopyCalls (m : Type → Type) where
  /-- for what is copied to the first path -/
  createDirAll : List Name → List Name → m Unit
  /-- `std::fs::copy`, of the bytes at the source or of the reason they cannot be read -/
  copy : List Name → List Name → Except String (List UInt8) → m Unit
  refuse : CopyError → m Unit

namespace Node

section
variable {m : Type → Type} [Monad m] (calls : CopyCalls m)

mutual

/-- what is neither a directory nor a file is passed over -/
def copyTree (source target : List Name) : Node → m Unit
  | .special _ => pure ()
  | .file content => do
    calls.createDirAll target target.dropLast
    calls.copy source target content
  | .dir entries none => do
    calls.createDirAll target target
    copyEntries source target entries
  | .dir _ (some (.opening reason)) => do
    calls.createDirAll target target
    calls.refuse (.list source reason)
  | .dir entries (some (.entry reason)) => do
    calls.createDirAll target target
    copyEntries source target entries
    calls.refuse (.entry reason)

def copyEntries (source target : List Name) : List (Name × Node) → m Unit
  | [] => pure ()
  | entry :: entries => do
    copyEntry source target entry
    copyEntries source target entries

def copyEntry (source target : List Name) : Name × Node → m Unit
  | (name, node) => node.copyTree (source ++ [name]) (target ++ [name])

end

end

end Node

/-- which calls fail, where the trees do not say, by the path that is copied to -/
structure CopyIo where
  createFails : List Name → Option String
  copyFails : List Name → Option Cut

/-- what a call says, and the tree it leaves -/
abbrev OnTree (ε : Type) := ExceptT ε (StateM (Option Node))

namespace Node

/-- `create_dir_all` -/
def makeDirs (fails : Option String) (path : List Name) : OnTree String Unit := fun tree =>
  match fails with
  | some reason => (.error reason, tree)
  | none =>
    match createDirAll path tree with
    | .error reason => (.error reason, tree)
    | .ok made => (.ok (), some made)

/-- a file is opened, cut to nothing and written -/
def put (fails : Option Cut) (bytes : List UInt8) (path : List Name) : OnTree String Unit :=
  fun tree =>
  match fails with
  | none =>
    match write bytes path tree with
    | .error reason => (.error reason, tree)
    | .ok written => (.ok (), some written)
  | some ⟨reason, none⟩ => (.error reason, tree)
  | some ⟨reason, some n⟩ => (.error reason, (write (bytes.take n) path tree).toOption.or tree)

end Node

namespace CopyIo
variable (io : CopyIo)

def onTree : CopyCalls (OnTree CopyError) where
  createDirAll target path := (Node.makeDirs (io.createFails target) path).adapt (.create path)
  copy source target
    | .error reason => throw (.copy source target reason)
    | .ok bytes => (Node.put (io.copyFails target) bytes target).adapt (.copy source target)
  refuse e := throw e

/-- what a call says where no tree is in the way -/
def verdict : Option String → Except String Unit
  | some reason => .error reason
  | none => .ok ()

def answers : CopyCalls (Except CopyError) where
  createDirAll target path := (verdict (io.createFails target)).mapError (.create path)
  copy source target
    | .error reason => .error (.copy source target reason)
    | .ok _ => (verdict ((io.copyFails target).map Cut.reason)).mapError (.copy source target)
  refuse e := .error e

end CopyIo

/-! ## runs that can fail -/

section
variable {σ ε ε' α β : Type}

/-- what a run says, and the state it leaves -/
def outcome (x : ExceptT ε (StateM σ) α) (s : σ) : Except ε α × σ := x.run.run s

/-- however the run ends -/
def Preserves (P : σ → Prop) (x : ExceptT ε (StateM σ) α) : Prop := ∀ s, P s → P (outcome x s).2

/-- the answer of a run, and what holds where it is not a failure -/
def Says (x : ExceptT ε (StateM σ) α) (s : σ) (r : Except ε α) (Q : σ → Prop) : Prop :=
  (outcome x s).1 = r ∧ ∀ a, r = .ok a → Q (outcome x s).2

section
variable {x : ExceptT ε (StateM σ) α} {f : α → ExceptT ε (StateM σ) β} {s : σ} {P Q R : σ → Prop}
  {r : Except ε α} {g : α → Except ε β}

theorem outcome_bind : outcome (x >>= f) s =
    match outcome x s with
    | (.ok a, t) => outcome (f a) t
    | (.error e, t) => (.error e, t) := by
  show (ExceptT.run (x >>= f)).run s = _
  rw [ExceptT.run_bind, StateT.run_bind]
  unfold outcome
  generalize x.run.run s = y
  obtain ⟨a | a, t⟩ := y <;> rfl

theorem outcome_adapt {f : ε → ε'} :
    outcome (x.adapt f) s = ((outcome x s).1.mapError f, (outcome x s).2) := by
  show (StateT.run (Except.mapError f <$> x.run) s) = _
  rw [StateT.run_map]
  rfl

theorem Preserves.pure {a : α} : Preserves P (Pure.pure a : ExceptT ε (StateM σ) α) := fun _ h => h

theorem Preserves.bind (hx : Preserves P x) (hf : ∀ a, Preserves P (f a)) :
    Preserves P (x >>= f) := by
  intro s hs
  have hmid := hx s hs
  rw [outcome_bind]
  split
  · next a t heq =>
    rw [heq] at hmid
    exact hf a t hmid
  · next e t heq =>
    rw [heq] at hmid
    exact hmid

theorem Preserves.adapt {f : ε → ε'} (hx : Preserves P x) : Preserves P (x.adapt f) := by
  intro s hs
  rw [outcome_adapt]
  exact hx s hs

theorem Says.pure {a : α} (h : Q s) : Says (Pure.pure a : ExceptT ε (StateM σ) α) s (.ok a) Q :=
  ⟨rfl, fun _ _ => h⟩

theorem Says.bind (hx : Says x s r Q)
    (hf : ∀ a t, r = .ok a → Q t → Says (f a) t (g a) R) : Says (x >>= f) s (r >>= g) R := by
  obtain ⟨rfl, hQ⟩ := hx
  unfold Says
  rw [outcome_bind]
  cases hout : outcome x s with
  | mk answer t =>
    rw [hout] at hQ hf
    cases answer with
    | error e => exact ⟨rfl, fun _ h => by cases h⟩
    | ok a => exact hf a t rfl (hQ a rfl)

theorem Says.adapt {f : ε → ε'} (hx : Says x s r Q) : Says (x.adapt f) s (r.mapError f) Q := by
  obtain ⟨rfl, hQ⟩ := hx
  unfold Says
  rw [outcome_adapt]
  refine ⟨rfl, fun a ha => ?_⟩
  exact hQ a (mapError_ok.mp ha)

theorem Says.mono (hx : Says x s r Q) (h : ∀ t, Q t → R t) : Says x s r R :=
  ⟨hx.1, fun a ha => h _ (hx.2 a ha)⟩

end

end

/-! ## a copy in a vacant place -/

open Node

/-- nothing is at the path, nor in the way to it -/
structure Vacant (path : List Name) (tree : Option Node) : Prop where
  way : ∀ q, q <+: path → kindAt tree q = none ∨ kindAt tree q = some .dir
  free : ∀ rest, kindAt tree (path ++ rest) = none

/-- the files below the path are the given ones, and beside it nothing changed but that directories
were made on the way -/
structure Grafted (path : List Name) (files : List Name → Option (List UInt8))
    (before after : Option Node) : Prop where
  files : ∀ rest, bytesAt after (path ++ rest) = files rest
  beside : ∀ q, ¬ path <+: q →
    kindAt after q = kindAt before q ∨ q <+: path ∧ kindAt after q = some .dir

section
variable {io : CopyIo} {s : Option Node} {path source : List Name} {name : Name}

theorem createDirAll_answers {fails : Option String}
    (h : ∀ q, q <+: path → kindAt s q = none ∨ kindAt s q = some .dir) :
    Says (makeDirs fails path) s (CopyIo.verdict fails) fun t =>
      ∀ q, kindAt t q = if q <+: path then some .dir else kindAt s q := by
  obtain ⟨made, hmade, hkinds⟩ := createDirAll_kindAt h
  cases fails with
  | some reason => exact ⟨rfl, fun _ h => by cases h⟩
  | none =>
    have hout : outcome (makeDirs none path) s = (.ok (), some made) := by
      show (match createDirAll path s with
        | .error reason => (.error reason, s)
        | .ok made => (.ok (), some made) : Except String Unit × Option Node) = _
      rw [hmade]
    unfold Says
    rw [hout]
    exact ⟨rfl, fun _ _ => hkinds⟩

theorem put_answers {fails : Option Cut} {bytes : List UInt8} (hparent : kindAt s path = some .dir)
    (hfree : kindAt s (path ++ [name]) = none) :
    Says (put fails bytes (path ++ [name])) s (CopyIo.verdict (fails.map Cut.reason)) fun t =>
      ∀ q, kindAt t q
        = if q = path ++ [name] then some (.file (.ok bytes)) else kindAt s q := by
  obtain ⟨written, hwritten, hkinds⟩ := write_kindAt bytes hparent hfree
  cases fails with
  | some cut =>
    obtain ⟨reason, n⟩ := cut
    cases n <;> exact ⟨rfl, fun _ h => by cases h⟩
  | none =>
    have hout : outcome (put none bytes (path ++ [name])) s = (.ok (), some written) := by
      show (match write bytes (path ++ [name]) s with
        | .error reason => (.error reason, s)
        | .ok written => (.ok (), some written) : Except String Unit × Option Node) = _
      rw [hwritten]
    unfold Says
    rw [hout]
    exact ⟨rfl, fun _ _ => hkinds⟩

theorem prefix_irrefl_concat : ¬ path ++ [name] <+: path := fun h => by
  have hlen := h.length_le
  rw [List.length_append] at hlen
  exact absurd hlen (by simp)

/-- a file in a directory that was made for it -/
theorem grafted_file {t t' : Option Node} {bytes : List UInt8} (h : Vacant (path ++ [name]) s)
    (ht : ∀ q, kindAt t q = if q <+: path then some .dir else kindAt s q)
    (ht' : ∀ q, kindAt t' q
      = if q = path ++ [name] then some (.file (.ok bytes)) else kindAt t q) :
    Grafted (path ++ [name]) (bytesAt (some (.file (.ok bytes)))) s t' := by
  refine ⟨fun rest => ?_, fun q hq => ?_⟩
  · cases rest with
    | nil =>
      rw [List.append_nil]
      apply bytesAt_iff.mpr
      rw [ht', if_pos rfl]
    | cons first rest =>
      have hnone : kindAt t' (path ++ [name] ++ first :: rest) = none := by
        rw [ht', if_neg (by simp), ht, if_neg fun hq =>
          prefix_irrefl_concat ((List.prefix_append _ _).trans hq)]
        exact h.free _
      exact bytesAt_congr (hnone.trans (by rw [kindAt]))
  · have hne : q ≠ path ++ [name] := fun heq => hq (heq ▸ List.prefix_rfl)
    rw [ht', if_neg hne, ht]
    by_cases hbefore : q <+: path
    · exact Or.inr ⟨hbefore.trans (List.prefix_append _ _), if_pos hbefore⟩
    · exact Or.inl (if_neg hbefore)

/-- a directory that was made for one file -/
theorem grafted_dir {t t' : Option Node} {bytes : List UInt8} (h : Vacant path s)
    (ht : ∀ q, kindAt t q = if q <+: path then some .dir else kindAt s q)
    (ht' : ∀ q, kindAt t' q
      = if q = path ++ [name] then some (.file (.ok bytes)) else kindAt t q) :
    Grafted path (bytesAt (some (.dir [(name, .file (.ok bytes))] none))) s t' := by
  refine ⟨fun rest => bytesAt_congr ?_, fun q hq => ?_⟩
  · cases rest with
    | nil =>
      rw [List.append_nil, ht', if_neg (by simp), ht, if_pos List.prefix_rfl]
      rfl
    | cons other rest =>
      have hbelow : kindAt t (path ++ other :: rest) = none := by
        rw [ht, if_neg fun hq => absurd hq.length_le (by simp)]
        exact h.free _
      rw [ht', hbelow]
      have hset : kindAt (some (.dir (setEntry name (.file (.ok bytes)) []) none)) (other :: rest)
          = _ := kindAt_setEntry
      refine Eq.trans ?_ hset.symm
      by_cases hname : other = name
      · subst hname
        rw [if_pos rfl]
        cases rest with
        | nil => simp [kindAt, kind]
        | cons first rest => simp [kindAt]
      · rw [if_neg hname, if_neg (by simp [hname])]
        exact kindAt_none.symm
  · have hne : q ≠ path ++ [name] := fun heq => hq (heq ▸ List.prefix_append _ _)
    rw [ht', if_neg hne, ht]
    by_cases hbefore : q <+: path
    · exact Or.inr ⟨hbefore, if_pos hbefore⟩
    · exact Or.inl (if_neg hbefore)

/-- a file is copied to a vacant path -/
theorem copyFile_answers {content : Except String (List UInt8)} (h : Vacant (path ++ [name]) s) :
    Says (copyTree io.onTree source (path ++ [name]) (.file content)) s
      (copyTree io.answers source (path ++ [name]) (.file content))
      (Grafted (path ++ [name]) (bytesAt (some (.file content))) s) := by
  rw [copyTree, copyTree, List.dropLast_concat]
  have hway : ∀ q, q <+: path → kindAt s q = none ∨ kindAt s q = some .dir := fun q hq =>
    h.way q (hq.trans (List.prefix_append _ _))
  refine (createDirAll_answers hway).adapt.bind fun _ t _ ht => ?_
  cases content with
  | error reason => exact ⟨rfl, fun _ h => by cases h⟩
  | ok bytes =>
    have hparent : kindAt t path = some .dir := by rw [ht, if_pos List.prefix_rfl]
    have hfree : kindAt t (path ++ [name]) = none := by
      rw [ht, if_neg prefix_irrefl_concat]
      simpa using h.free []
    exact (put_answers hparent hfree).adapt.mono fun t' ht' => grafted_file h ht ht'

section
variable {t : Option Node} {other : Name} {files : List Name → Option (List UInt8)}

/-- a copy into a directory that is there changes nothing beside it -/
theorem Grafted.frame (h : Grafted (path ++ [name]) files s t)
    (hdir : kindAt s path = some .dir) {q : List Name} (hq : ¬ path ++ [name] <+: q) :
    kindAt t q = kindAt s q := by
  rcases h.beside q hq with heq | ⟨hbefore, hmade⟩
  · exact heq
  · rcases List.prefix_concat_iff.mp hbefore with rfl | hbefore
    · exact absurd List.prefix_rfl hq
    · obtain ⟨below, rfl⟩ := hbefore
      cases below with
      | nil =>
        rw [List.append_nil] at hdir
        rw [hmade, hdir]
      | cons first below => rw [hmade, kindAt_of_append hdir]

theorem not_prefix_of_ne {rest : List Name} (hne : other ≠ name) :
    ¬ path ++ [name] <+: path ++ other :: rest := fun h =>
  hne (List.cons_prefix_cons.mp ((List.prefix_append_right_inj path).mp h)).1.symm

theorem Vacant.frame (h : Vacant (path ++ [other]) s) (hne : other ≠ name)
    (hframe : ∀ q, ¬ path ++ [name] <+: q → kindAt t q = kindAt s q) :
    Vacant (path ++ [other]) t := by
  refine ⟨fun q hq => ?_, fun rest => ?_⟩
  · rw [hframe q fun h => not_prefix_of_ne hne (h.trans hq)]
    exact h.way q hq
  · rw [hframe _ (by rw [List.append_assoc]; exact not_prefix_of_ne hne)]
    exact h.free rest

end

/-- a directory that is made in a vacant place is empty -/
theorem Vacant.made {t : Option Node} (h : Vacant path s)
    (ht : ∀ q, kindAt t q = if q <+: path then some .dir else kindAt s q) (name : Name)
    (rest : List Name) : kindAt t (path ++ name :: rest) = none := by
  rw [ht, if_neg fun hq => @prefix_irrefl_concat path name
    (((List.prefix_append_right_inj path).mpr (List.cons_prefix_cons.mpr
      ⟨rfl, List.nil_prefix⟩)).trans hq)]
  exact h.free _

theorem Vacant.below {t : Option Node} (h : Vacant path s)
    (ht : ∀ q, kindAt t q = if q <+: path then some .dir else kindAt s q) (name : Name) :
    Vacant (path ++ [name]) t := by
  refine ⟨fun q hq => ?_, fun rest => ?_⟩
  · rcases List.prefix_concat_iff.mp hq with rfl | hq
    · exact Or.inl (h.made ht name [])
    · exact Or.inr (by rw [ht, if_pos hq])
  · rw [List.append_assoc]
    exact h.made ht name rest

mutual

/-- **In a vacant place the answer is that of the calls, and a copy that is not a failure is
exact.** -/
theorem copyTree_answers : ∀ (node : Node) (source path : List Name) (s : Option Node),
    node.Distinct → path ≠ [] → Vacant path s →
    Says (node.copyTree io.onTree source path) s (node.copyTree io.answers source path)
      (Grafted path (bytesAt (some node)) s)
  | .special _, source, path, s, _, _, h => by
    rw [copyTree, copyTree]
    refine Says.pure ⟨fun rest => ?_, fun q _ => Or.inl rfl⟩
    have hnone : bytesAt s (path ++ rest) = bytesAt none [] :=
      bytesAt_congr ((h.free rest).trans kindAt_none.symm)
    rw [hnone]
    cases rest <;> rfl
  | .file content, source, path, s, _, hpath, h => by
    obtain ⟨parent, name, rfl⟩ := (List.eq_nil_or_concat path).resolve_left hpath
    rw [List.concat_eq_append] at h ⊢
    exact copyFile_answers h
  | .dir _ (some (.opening reason)), source, path, s, _, _, h => by
    rw [copyTree, copyTree]
    exact (createDirAll_answers h.way).adapt.bind fun _ _ _ _ => ⟨rfl, fun _ h => by cases h⟩
  | .dir entries (some (.entry reason)), source, path, s, hdistinct, _, h => by
    rw [copyTree, copyTree]
    refine (createDirAll_answers h.way).adapt.bind fun _ t _ ht => ?_
    have hdir : kindAt t path = some .dir := by rw [ht, if_pos List.prefix_rfl]
    exact (copyEntries_answers entries source path t hdir (fun e _ => h.below ht e.1)
      hdistinct.nodup fun e he => hdistinct.entry he).bind fun _ _ _ _ =>
        ⟨rfl, fun _ h => by cases h⟩
  | .dir entries none, source, path, s, hdistinct, _, h => by
    rw [copyTree, copyTree]
    refine (createDirAll_answers h.way).adapt.bind fun _ t _ ht => ?_
    have hdir : kindAt t path = some .dir := by rw [ht, if_pos List.prefix_rfl]
    have hbelow : ∀ name rest, kindAt t (path ++ name :: rest) = none := h.made ht
    have hvacant : ∀ e ∈ entries, Vacant (path ++ [e.1]) t := fun e _ => h.below ht e.1
    refine (copyEntries_answers entries source path t hdir hvacant hdistinct.nodup
      fun e he => hdistinct.entry he).mono fun t' ⟨hfiles, hframe⟩ =>
        ⟨fun rest => ?_, fun q hq => ?_⟩
    · cases rest with
      | nil =>
        refine bytesAt_congr ?_
        rw [List.append_nil, hframe path fun _ _ => prefix_irrefl_concat, hdir]
        rfl
      | cons name rest =>
        cases hfound : entries.lookup name with
        | some node =>
          have hentry : (name, node) ∈ entries := (lookup_iff hdistinct.nodup).mp hfound
          rw [hfiles _ hentry]
          show _ = bytesAt (entries.lookup name) rest
          rw [hfound]
        | none =>
          have hother : ∀ e ∈ entries, name ≠ e.1 := by
            intro e he heq
            rw [heq, (lookup_iff hdistinct.nodup).mpr he] at hfound
            cases hfound
          refine bytesAt_congr ?_
          rw [hframe _ fun e he => not_prefix_of_ne (hother e he), hbelow]
          show _ = kindAt (entries.lookup name) rest
          rw [hfound, kindAt_none]
    · rw [hframe q fun e _ he => hq ((List.prefix_append _ _).trans he), ht]
      by_cases hbefore : q <+: path
      · exact Or.inr ⟨hbefore, if_pos hbefore⟩
      · exact Or.inl (if_neg hbefore)

theorem copyEntries_answers : ∀ (entries : List (Name × Node)) (source path : List Name)
    (s : Option Node), kindAt s path = some .dir → (∀ e ∈ entries, Vacant (path ++ [e.1]) s) →
    (entries.map Prod.fst).Nodup → (∀ e ∈ entries, e.2.Distinct) →
    Says (copyEntries io.onTree source path entries) s (copyEntries io.answers source path entries)
      fun t => (∀ e ∈ entries, ∀ rest, bytesAt t (path ++ e.1 :: rest) = bytesAt (some e.2) rest) ∧
        ∀ q, (∀ e ∈ entries, ¬ path ++ [e.1] <+: q) → kindAt t q = kindAt s q
  | [], source, path, s, _, _, _, _ => by
    rw [copyEntries, copyEntries]
    exact Says.pure ⟨fun _ h => absurd h List.not_mem_nil, fun _ _ => rfl⟩
  | (name, node) :: entries, source, path, s, hdir, hvacant, hnodup, hdistinct => by
    obtain ⟨hnot, hnodup⟩ := List.nodup_cons.mp hnodup
    obtain ⟨hhead, hvacant⟩ := List.forall_mem_cons.mp hvacant
    obtain ⟨hnode, hdistinct⟩ := List.forall_mem_cons.mp hdistinct
    have hne : ∀ e ∈ entries, e.1 ≠ name := fun e he heq =>
      hnot (List.mem_map.mpr ⟨e, he, heq⟩)
    rw [copyEntries, copyEntries, copyEntry, copyEntry]
    refine (copyTree_answers node (source ++ [name]) (path ++ [name]) s hnode (by simp) hhead).bind
      fun _ t _ ht => ?_
    have hframe : ∀ q, ¬ path ++ [name] <+: q → kindAt t q = kindAt s q := fun q =>
      ht.frame hdir
    have hstill : kindAt t path = some .dir := (hframe path prefix_irrefl_concat).trans hdir
    refine (copyEntries_answers entries source path t hstill
      (fun e he => (hvacant e he).frame (hne e he) hframe) hnodup hdistinct).mono
      fun t' ⟨hfiles, hbeside⟩ => ⟨List.forall_mem_cons.mpr ⟨fun rest => ?_, hfiles⟩, ?_⟩
    · rw [bytesAt_congr (hbeside (path ++ name :: rest) fun e he =>
        not_prefix_of_ne (hne e he).symm)]
      simpa using ht.files rest
    · intro q hq
      obtain ⟨hfirst, hrest⟩ := List.forall_mem_cons.mp hq
      rw [hbeside q hrest, hframe q hfirst]

end

end

/-! ## one copy beside another -/

/-- neither path is below the other -/
def Beside (p q : List Name) : Prop := ¬ p <+: q ∧ ¬ q <+: p

/-- the files that are on a tree, and where nothing was put yet -/
structure Built (done : List (List Name)) (files : List Name → Option (List UInt8))
    (tree : Option Node) : Prop where
  files : bytesAt tree = files
  room : ∀ q, q ≠ [] → (∀ p ∈ done, Beside p q) → Vacant q tree

/-- other files below a path -/
def placed (path : List Name) (new old : List Name → Option (List UInt8)) (q : List Name) :
    Option (List UInt8) :=
  if path <+: q then new (q.drop path.length) else old q

section
variable {s t : Option Node} {p q : List Name} {new old : List Name → Option (List UInt8)}
  {done : List (List Name)}

theorem Vacant.graft (h : Vacant q s) (hg : Grafted p new s t) (hpq : Beside p q) :
    Vacant q t := by
  refine ⟨fun r hr => ?_, fun rest => ?_⟩
  · rcases hg.beside r fun hp => hpq.1 (hp.trans hr) with heq | ⟨_, hdir⟩
    · rw [heq]
      exact h.way r hr
    · exact Or.inr hdir
  · have hnot : ¬ p <+: q ++ rest := fun hp =>
      (List.prefix_or_prefix_of_prefix hp (List.prefix_append q rest)).elim hpq.1 hpq.2
    rcases hg.beside _ hnot with heq | ⟨hbefore, _⟩
    · rw [heq]
      exact h.free rest
    · exact absurd ((List.prefix_append q rest).trans hbefore) hpq.2

theorem Grafted.bytesAt_eq (h : Vacant p s) (hg : Grafted p new s t) :
    bytesAt t = placed p new (bytesAt s) := by
  funext q
  unfold placed
  split
  · next hp =>
    obtain ⟨rest, rfl⟩ := hp
    rw [hg.files, List.drop_left]
  · next hp =>
    rcases hg.beside q hp with heq | ⟨hbefore, hdir⟩
    · exact bytesAt_congr heq
    · -- a directory, where there was one or nothing
      have hbytes {tree : Option Node} (hkind : kindAt tree q = none ∨ kindAt tree q = some .dir) :
          bytesAt tree q = none := by
        apply Option.eq_none_iff_forall_ne_some.mpr
        intro bytes hbytes
        rw [bytesAt_iff] at hbytes
        rcases hkind with hkind | hkind <;> rw [hkind] at hbytes <;> cases hbytes
      rw [hbytes (Or.inr hdir), hbytes (h.way q hbefore)]

theorem Built.graft (h : Built done old s) (hp : p ≠ []) (hdone : ∀ d ∈ done, Beside d p)
    (hg : Grafted p new s t) : Built (p :: done) (placed p new old) t := by
  have hvacant := h.room p hp hdone
  refine ⟨by rw [hg.bytesAt_eq hvacant, h.files], fun q hq hall => ?_⟩
  obtain ⟨hpq, hall⟩ := List.forall_mem_cons.mp hall
  exact (h.room q hq hall).graft hg hpq

/-- an empty directory -/
theorem built_empty : Built [] (fun _ => none) (some (.dir [] none)) := by
  refine ⟨funext fun q => ?_, fun q hq _ => ⟨fun r _ => ?_, fun rest => ?_⟩⟩
  · cases q with
    | nil => rfl
    | cons name q => exact bytesAt_none q
  · cases r with
    | nil => exact Or.inr rfl
    | cons name r => exact Or.inl kindAt_none
  · cases q with
    | nil => exact absurd rfl hq
    | cons name q => exact kindAt_none

end

/-! ## a copy that fails -/

/-- every file is one of the given ones, or the beginning of it -/
def CopiesOf (files : List Name → Option (List UInt8)) (tree : Option Node) : Prop :=
  ∀ path bytes, bytesAt tree path = some bytes → ∃ whole, files path = some whole ∧ bytes <+: whole

section
variable {io : CopyIo} {files : List Name → Option (List UInt8)} {path : List Name}

theorem CopiesOf.update {tree : Option Node} {written : Node} {bytes whole : List UInt8}
    (h : CopiesOf files tree) (hfile : files path = some whole) (hbytes : bytes <+: whole)
    (hwritten : write bytes path tree = .ok written) : CopiesOf files (some written) := by
  intro q b hb
  by_cases hplace : kindAt tree path = some .special
  · rw [bytesAt_write_special hplace hwritten] at hb
    exact h q b hb
  rw [bytesAt_write hplace hwritten] at hb
  by_cases hq : q = path
  · subst hq
    rw [Function.update_self] at hb
    obtain rfl := Option.some.inj hb
    exact ⟨whole, hfile, hbytes⟩
  · rw [Function.update_of_ne hq] at hb
    exact h q b hb

theorem makeDirs_preserves {fails : Option String} :
    Preserves (CopiesOf files) (makeDirs fails path) := by
  intro tree h
  unfold outcome makeDirs
  cases fails with
  | some reason => exact h
  | none =>
    show CopiesOf files (match createDirAll path tree with
      | .error reason => (.error reason, tree)
      | .ok made => (.ok (), some made) : Except String Unit × Option Node).2
    cases hmade : createDirAll path tree with
    | error reason => exact h
    | ok made =>
      intro q b hb
      rw [bytesAt_createDirAll hmade] at hb
      exact h q b hb

theorem put_preserves {fails : Option Cut} {bytes : List UInt8} (hfile : files path = some bytes) :
    Preserves (CopiesOf files) (put fails bytes path) := by
  intro tree h
  unfold outcome put
  match fails with
  | some ⟨reason, none⟩ => exact h
  | some ⟨reason, some n⟩ =>
    show CopiesOf files ((write (bytes.take n) path tree).toOption.or tree)
    cases hwritten : write (bytes.take n) path tree with
    | error reason => exact h
    | ok written => exact h.update hfile (List.take_prefix n bytes) hwritten
  | none =>
    show CopiesOf files (match write bytes path tree with
      | .error reason => (.error reason, tree)
      | .ok written => (.ok (), some written) : Except String Unit × Option Node).2
    cases hwritten : write bytes path tree with
    | error reason => exact h
    | ok written => exact h.update hfile List.prefix_rfl hwritten

/-- the files below an entry are files below its directory -/
theorem below_entries {entries : List (Name × Node)} {failure : Option ListFailure}
    (hdistinct : (Node.dir entries failure).Distinct)
    (h : ∀ rest bytes, bytesAt (some (.dir entries failure)) rest = some bytes →
      files (path ++ rest) = some bytes) :
    ∀ e ∈ entries, ∀ rest bytes, bytesAt (some e.2) rest = some bytes →
      files (path ++ e.1 :: rest) = some bytes := by
  intro e he rest bytes hbytes
  apply h (e.1 :: rest)
  show bytesAt (entries.lookup e.1) rest = _
  rw [(lookup_iff hdistinct.nodup).mpr he]
  exact hbytes

mutual

/-- **However a copy ends, there are only copies, whole or cut.** -/
theorem copyTree_preserves : ∀ (node : Node) (source path : List Name), node.Distinct →
    (∀ rest bytes, bytesAt (some node) rest = some bytes → files (path ++ rest) = some bytes) →
    Preserves (CopiesOf files) (node.copyTree io.onTree source path)
  | .special _, source, path, _, _ => by
    rw [copyTree]
    exact Preserves.pure
  | .file content, source, path, _, h => by
    rw [copyTree]
    refine makeDirs_preserves.adapt.bind fun _ => ?_
    cases content with
    | error reason => exact fun _ h => h
    | ok bytes => exact (put_preserves (by simpa using h [] bytes rfl)).adapt
  | .dir _ (some (.opening reason)), source, path, _, _ => by
    rw [copyTree]
    exact makeDirs_preserves.adapt.bind fun _ _ h => h
  | .dir entries (some (.entry reason)), source, path, hdistinct, h => by
    rw [copyTree]
    refine makeDirs_preserves.adapt.bind fun _ => ?_
    exact (copyEntries_preserves entries source path (fun e he => hdistinct.entry he)
      (below_entries hdistinct h)).bind fun _ _ h => h
  | .dir entries none, source, path, hdistinct, h => by
    rw [copyTree]
    refine makeDirs_preserves.adapt.bind fun _ => ?_
    exact copyEntries_preserves entries source path (fun e he => hdistinct.entry he)
      (below_entries hdistinct h)

theorem copyEntries_preserves : ∀ (entries : List (Name × Node)) (source path : List Name),
    (∀ e ∈ entries, e.2.Distinct) →
    (∀ e ∈ entries, ∀ rest bytes, bytesAt (some e.2) rest = some bytes →
      files (path ++ e.1 :: rest) = some bytes) →
    Preserves (CopiesOf files) (copyEntries io.onTree source path entries)
  | [], source, path, _, _ => by
    rw [copyEntries]
    exact Preserves.pure
  | (name, node) :: entries, source, path, hdistinct, h => by
    obtain ⟨hnode, hdistinct⟩ := List.forall_mem_cons.mp hdistinct
    obtain ⟨hhead, hrest⟩ := List.forall_mem_cons.mp h
    rw [copyEntries, copyEntry]
    refine (copyTree_preserves node (source ++ [name]) (path ++ [name]) hnode
      fun rest bytes hbytes => ?_).bind fun _ =>
        copyEntries_preserves entries source path hdistinct hrest
    rw [List.append_assoc]
    exact hhead rest bytes hbytes

end

end

end Files
