import Crucible.Lib.Files
import Crucible.Lib.StableSort
import Crucible.Lib.Utf8
import Crucible.Vectors.Vector
import Crucible.UltraHonk.VerificationKey
import Mathlib.Data.List.Lex

/-!
# The catalog of test vectors (`crates/vectors/src/lib.rs`)

* `extension`, `collectJson`, `discover`   the vector files below a directory, in the order of
                        their paths;
* `loadCatalog`         each of them, loaded in that order;
* `collectJson_spec`    what is collected, once each;
* `discover_iff`        so the paths that are found are those of the `.json` files, and
  `discover_reordered`  neither they nor their order depend on how the directories are listed;
* `loadCatalog_iff`     what it means that a catalog loads.
-/

namespace Crucible
open Checked Files Serde StableSort

/-- `Path::extension` of a file name: what is behind its last dot, if that is not its first byte -/
def extension (name : Name) : Option Name :=
  let behind := name.reverse.takeWhile (· ≠ 0x2e)
  match name.reverse.dropWhile (· ≠ 0x2e) with
  | [] => none
  | _ :: before => if before = [] then none else some behind.reverse

def jsonExtension : Name := "json".toUTF8.data.toList

/-- not a directory, by a name with the extension of vectors -/
def isVectorFile (name : Name) : Node → Bool
  | .dir _ _ => false
  | .file _ => extension name = some jsonExtension
  | .special _ => extension name = some jsonExtension

mutual

/-- `collect_json` of what is at `path`; a directory that cannot be listed ends it -/
def collectJson (path : List Name) : Node → Except (List Name × ListFailure) (List (List Name))
  | .file _ => .error (path, .opening "Not a directory (os error 20)")
  | .special _ => .error (path, .opening "Not a directory (os error 20)")
  | .dir entries none => collectIn path entries
  | .dir _ (some (.opening reason)) => .error (path, .opening reason)
  | .dir entries (some (.entry reason)) => do
    let _ ← collectIn path entries
    .error (path, .entry reason)

def collectIn (path : List Name) :
    List (Name × Node) → Except (List Name × ListFailure) (List (List Name))
  | [] => .ok []
  | entry :: entries => do
    let first ← collectAt path entry
    let rest ← collectIn path entries
    return first ++ rest

def collectAt (path : List Name) :
    Name × Node → Except (List Name × ListFailure) (List (List Name))
  | (name, .dir entries failure) => collectJson (path ++ [name]) (.dir entries failure)
  | (name, .file content) =>
    .ok (if isVectorFile name (.file content) then [path ++ [name]] else [])
  | (name, .special content) =>
    .ok (if isVectorFile name (.special content) then [path ++ [name]] else [])

end

/-- paths are compared name by name, and names byte by byte -/
def pathKey (names : List Name) : List (List Nat) := names.map fun name => name.map UInt8.toNat

/-- where the catalog is, and what is there -/
structure CatalogDir where
  path : List String
  root : Except String Node
  /-- `Path::display` of a name -/
  lossy : List UInt8 → String

namespace CatalogDir
variable (dir : CatalogDir)

def display (names : List Name) : String := displayPath (dir.path ++ names.map dir.lossy)

def discover : Except String (List (List Name)) := do
  let failure : List Name × ListFailure → String
    | (names, .opening e) => s!"cannot read test-vector directory `{dir.display names}`: {e}"
    | (names, .entry e) => s!"cannot read entry in `{dir.display names}`: {e}"
  let root ← dir.root.mapError fun e => failure ([], .opening e)
  let found ← (collectJson [] root).mapError failure
  return sortByKey pathKey found

/-- `load_catalog` -/
def loadCatalog (text : JsonText) : Except (Fault String) (List TestVector) := do
  let found ← dir.discover.mapError .error
  found.mapM fun names =>
    TestVector.load text (dir.display names) (dir.root >>= fun root => root.read names)

end CatalogDir

/-! ## what is collected -/

mutual

/-- every directory can be listed, and names each entry once -/
def Listable : Node → Prop
  | .file _ => True
  | .special _ => True
  | .dir entries none => (entries.map Prod.fst).Nodup ∧ ListableIn entries
  | .dir _ (some _) => False

def ListableIn : List (Name × Node) → Prop
  | [] => True
  | (_, node) :: entries => Listable node ∧ ListableIn entries

end

/-- a vector file is at the path below the node -/
def HasVector (root : Node) (path : List Name) : Prop :=
  ∃ name node, path.getLast? = some name ∧ root.find path = .ok node ∧ isVectorFile name node

theorem pathKey_injective {a b : List Name} (h : pathKey a = pathKey b) : a = b := by
  have hname : Function.Injective fun name : Name => name.map UInt8.toNat :=
    List.map_injective_iff.mpr fun _ _ h => UInt8.toNat_inj.mp h
  exact List.map_injective_iff.mpr hname h

theorem hasVector_dir {entries : List (Name × Node)} {failure : Option ListFailure}
    (h : (entries.map Prod.fst).Nodup) {path : List Name} :
    HasVector (.dir entries failure) path ↔ ∃ name node, (name, node) ∈ entries ∧
      ((path = [name] ∧ isVectorFile name node) ∨
        ∃ rest, path = name :: rest ∧ rest ≠ [] ∧ HasVector node rest) := by
  have hfind {name : Name} {rest : List Name} {leaf : Node} :
      (Node.dir entries failure).find (name :: rest) = .ok leaf ↔
        ∃ node, (name, node) ∈ entries ∧ node.find rest = .ok leaf := by
    rw [Node.find]
    constructor
    · intro hfound
      split at hfound
      · next node hnode => exact ⟨node, (Node.lookup_iff h).mp hnode, hfound⟩
      · cases hfound
    · rintro ⟨node, hmem, hfound⟩
      rw [(Node.lookup_iff h).mpr hmem]
      exact hfound
  constructor
  · rintro ⟨last, leaf, hlast, hfound, hleaf⟩
    cases path with
    | nil => cases hlast
    | cons name rest =>
      obtain ⟨node, hmem, hrest⟩ := hfind.mp hfound
      refine ⟨name, node, hmem, ?_⟩
      cases rest with
      | nil =>
        rw [Node.find] at hrest
        obtain rfl := Except.ok.inj hrest
        obtain rfl := Option.some.inj hlast
        exact Or.inl ⟨rfl, hleaf⟩
      | cons second rest =>
        refine Or.inr ⟨second :: rest, rfl, List.cons_ne_nil _ _, last, leaf, ?_, hrest, hleaf⟩
        rwa [List.getLast?_cons_cons] at hlast
  · rintro ⟨name, node, hmem, ⟨rfl, hleaf⟩ | ⟨rest, rfl, hne, last, leaf, hlast, hfound, hleaf⟩⟩
    · exact ⟨name, node, rfl, hfind.mpr ⟨node, hmem, by rw [Node.find]⟩, hleaf⟩
    · refine ⟨last, leaf, ?_, hfind.mpr ⟨node, hmem, hfound⟩, hleaf⟩
      obtain ⟨second, rest, rfl⟩ := List.exists_cons_of_ne_nil hne
      rwa [List.getLast?_cons_cons]

/-- what one entry adds to a listing at `path` -/
def Collects (path : List Name) (entry : Name × Node) (names : List Name) : Prop :=
  (names = path ++ [entry.1] ∧ isVectorFile entry.1 entry.2) ∨
    ∃ rest, names = path ++ entry.1 :: rest ∧ rest ≠ [] ∧ HasVector entry.2 rest

theorem Collects.through {path names : List Name} {entry : Name × Node}
    (h : Collects path entry names) : ∃ rest, names = path ++ entry.1 :: rest := by
  rcases h with ⟨rfl, _⟩ | ⟨rest, rfl, _⟩
  · exact ⟨[], rfl⟩
  · exact ⟨rest, rfl⟩

/-- an entry that is no directory adds itself, or nothing -/
theorem collectAt_leaf {name : Name} {node : Node} {path : List Name}
    (hcollect : collectAt path (name, node)
      = .ok (if isVectorFile name node then [path ++ [name]] else []))
    (hbelow : ∀ rest, rest ≠ [] → ¬ HasVector node rest) :
    ∃ found, collectAt path (name, node) = .ok found ∧ found.Nodup ∧
      ∀ names, names ∈ found ↔ Collects path (name, node) names := by
  refine ⟨_, hcollect, ?_, fun names => ?_⟩
  · split
    · exact List.nodup_cons.mpr ⟨List.not_mem_nil, List.nodup_nil⟩
    · exact List.nodup_nil
  · have hadds : Collects path (name, node) names ↔
        names = path ++ [name] ∧ isVectorFile name node := by
      refine ⟨fun h => h.resolve_right ?_, Or.inl⟩
      rintro ⟨rest, _, hne, hvector⟩
      exact hbelow rest hne hvector
    rw [hadds]
    split
    · next hleaf => simp [hleaf]
    · next hleaf => simp [hleaf]

mutual

/-- a directory is listed: the vector files below it, once each -/
theorem collectJson_spec : ∀ (entries : List (Name × Node)) (path : List Name),
    Listable (.dir entries none) → ∃ found, collectJson path (.dir entries none) = .ok found ∧
      found.Nodup ∧ ∀ names, names ∈ found ↔
        ∃ rest, names = path ++ rest ∧ HasVector (.dir entries none) rest
  | entries, path, hlisted => by
    obtain ⟨found, hfound, hnodup, hmem⟩ := collectIn_spec entries path hlisted.1 hlisted.2
    refine ⟨found, hfound, hnodup, fun names => (hmem names).trans ⟨?_, ?_⟩⟩
    · rintro ⟨entry, hentry, hadds⟩
      rcases hadds with ⟨rfl, hleaf⟩ | ⟨rest, rfl, hne, hrest⟩
      · exact ⟨[entry.1], rfl, (hasVector_dir hlisted.1).mpr
          ⟨entry.1, entry.2, hentry, Or.inl ⟨rfl, hleaf⟩⟩⟩
      · exact ⟨entry.1 :: rest, rfl, (hasVector_dir hlisted.1).mpr
          ⟨entry.1, entry.2, hentry, Or.inr ⟨rest, rfl, hne, hrest⟩⟩⟩
    · rintro ⟨rest, rfl, hvector⟩
      obtain ⟨name, node, hentry, ⟨rfl, hleaf⟩ | ⟨rest, rfl, hne, hrest⟩⟩ :=
        (hasVector_dir hlisted.1).mp hvector
      · exact ⟨(name, node), hentry, Or.inl ⟨rfl, hleaf⟩⟩
      · exact ⟨(name, node), hentry, Or.inr ⟨rest, rfl, hne, hrest⟩⟩

theorem collectIn_spec : ∀ (entries : List (Name × Node)) (path : List Name),
    (entries.map Prod.fst).Nodup → ListableIn entries →
    ∃ found, collectIn path entries = .ok found ∧ found.Nodup ∧
      ∀ names, names ∈ found ↔ ∃ entry ∈ entries, Collects path entry names
  | [], path, _, _ => by
    refine ⟨[], rfl, List.nodup_nil, fun names => iff_of_false List.not_mem_nil ?_⟩
    rintro ⟨_, hmem, _⟩
    exact absurd hmem List.not_mem_nil
  | entry :: entries, path, hnodup, ⟨hentry, hentries⟩ => by
    obtain ⟨hnew, hnodup⟩ := List.nodup_cons.mp hnodup
    obtain ⟨first, hfirst, hnodupFirst, hmemFirst⟩ := collectAt_spec entry path hentry
    obtain ⟨rest, hrest, hnodupRest, hmemRest⟩ := collectIn_spec entries path hnodup hentries
    refine ⟨first ++ rest, bind_ok.mpr ⟨first, hfirst, bind_ok.mpr ⟨rest, hrest, rfl⟩⟩, ?_, ?_⟩
    · -- what another entry adds goes through another name
      refine List.nodup_append.mpr ⟨hnodupFirst, hnodupRest, ?_⟩
      rintro names hinFirst names' hinRest rfl
      obtain ⟨other, hother, hadds⟩ := (hmemRest names).mp hinRest
      obtain ⟨tail, rfl⟩ := ((hmemFirst names).mp hinFirst).through
      obtain ⟨tail', heq⟩ := hadds.through
      have hname : entry.1 = other.1 := (List.cons.inj (List.append_cancel_left heq)).1
      exact hnew (hname ▸ List.mem_map_of_mem hother)
    · intro names
      rw [List.mem_append, hmemFirst, hmemRest]
      simp only [List.mem_cons, exists_eq_or_imp]

theorem collectAt_spec : ∀ (entry : Name × Node) (path : List Name), Listable entry.2 →
    ∃ found, collectAt path entry = .ok found ∧ found.Nodup ∧
      ∀ names, names ∈ found ↔ Collects path entry names
  | (name, .dir entries none), path, hlisted => by
    obtain ⟨found, hfound, hnodup, hmem⟩ := collectJson_spec entries (path ++ [name]) hlisted
    refine ⟨found, hfound, hnodup, fun names => (hmem names).trans ⟨?_, ?_⟩⟩
    · rintro ⟨rest, rfl, hvector⟩
      refine Or.inr ⟨rest, by rw [List.append_assoc]; rfl, ?_, hvector⟩
      rintro rfl
      obtain ⟨_, _, hlast, _⟩ := hvector
      cases hlast
    · rintro (⟨_, hleaf⟩ | ⟨rest, rfl, _, hvector⟩)
      · cases hleaf
      · exact ⟨rest, by rw [List.append_assoc]; rfl, hvector⟩
  | (_, .dir _ (some _)), _, hlisted => absurd hlisted id
  | (name, .file content), path, _ => by
    refine collectAt_leaf rfl fun rest hne hvector => ?_
    obtain ⟨first, rest, rfl⟩ := List.exists_cons_of_ne_nil hne
    obtain ⟨_, _, _, hfound, _⟩ := hvector
    cases hfound
  | (name, .special content), path, _ => by
    refine collectAt_leaf rfl fun rest hne hvector => ?_
    obtain ⟨first, rest, rfl⟩ := List.exists_cons_of_ne_nil hne
    obtain ⟨_, _, _, hfound, _⟩ := hvector
    cases hfound

end

/-! ## what is found -/

section
variable {dir : CatalogDir} {entries : List (Name × Node)}

/-- the paths that are found are those of the vector files, once each, in their order -/
theorem discover_iff (hroot : dir.root = .ok (.dir entries none))
    (hlisted : Listable (.dir entries none)) : ∃ found, dir.discover = .ok found ∧ found.Nodup ∧
      (found.Pairwise fun a b => pathKey a < pathKey b) ∧
      ∀ names, names ∈ found ↔ HasVector (.dir entries none) names := by
  obtain ⟨found, hfound, hnodup, hmem⟩ := collectJson_spec entries [] hlisted
  have hdiscover : dir.discover = .ok (sortByKey pathKey found) := by
    refine bind_ok.mpr ⟨_, mapError_ok.mpr hroot, ?_⟩
    exact bind_ok.mpr ⟨found, mapError_ok.mpr hfound, rfl⟩
  have hperm : (sortByKey pathKey found).Perm found := sortByKey_perm found
  have hsorted : (sortByKey pathKey found).Nodup := hperm.nodup_iff.mpr hnodup
  refine ⟨_, hdiscover, hsorted, ?_, fun names => ?_⟩
  · refine ((sortByKey_sorted found).and hsorted).imp fun ⟨hle, hne⟩ => ?_
    exact lt_of_le_of_ne (of_decide_eq_true hle) fun h => hne (pathKey_injective h)
  · rw [hperm.mem_iff, hmem]
    simp only [List.nil_append, exists_eq_left']

/-- **The catalog is the vector files in the order of their paths, each once**, whatever the order
in which the directories list their entries. -/
theorem discover_reordered {dir' : CatalogDir} {entries' : List (Name × Node)}
    (hroot : dir.root = .ok (.dir entries none)) (hlisted : Listable (.dir entries none))
    (hroot' : dir'.root = .ok (.dir entries' none)) (hlisted' : Listable (.dir entries' none))
    (hsame : ∀ names, HasVector (.dir entries none) names ↔ HasVector (.dir entries' none) names) :
    ∃ found, dir.discover = .ok found ∧ dir'.discover = .ok found ∧
      (found.Pairwise fun a b => pathKey a < pathKey b) ∧
      ∀ names, names ∈ found ↔ HasVector (.dir entries none) names := by
  obtain ⟨found, hfound, hnodup, hsorted, hmem⟩ := discover_iff hroot hlisted
  obtain ⟨found', hfound', hnodup', hsorted', hmem'⟩ := discover_iff hroot' hlisted'
  have hperm : found.Perm found' := (List.perm_ext_iff_of_nodup hnodup hnodup').mpr fun names =>
    (hmem names).trans ((hsame names).trans (hmem' names).symm)
  have heq : found = found' := hperm.eq_of_pairwise
    (fun a b _ _ hab hba => absurd hba (lt_asymm hab)) hsorted hsorted'
  exact ⟨found, hfound, heq ▸ hfound', hsorted, hmem⟩

/-- vectors at two depths, beside a file that is none -/
def nestedEntries : List (Name × Node) :=
  [("zeros.json".toUTF8.data.toList, .file (.ok [])),
    ("transfer".toUTF8.data.toList, .dir
      [("readme.md".toUTF8.data.toList, .file (.ok [])),
        ("all.json".toUTF8.data.toList, .file (.ok []))] none)]

theorem discover_reordered_nested :
    let listing (entries : List (Name × Node)) : CatalogDir :=
      ⟨["test-vectors"], .ok (.dir entries none), Utf8.toStringLossy⟩
    ∃ found, (listing nestedEntries).discover = .ok found ∧
      (listing nestedEntries.reverse).discover = .ok found ∧
      (found.Pairwise fun a b => pathKey a < pathKey b) ∧
      ∀ names, names ∈ found ↔ HasVector (.dir nestedEntries none) names := by
  have hlisted : Listable (.dir nestedEntries none) :=
    ⟨by decide +kernel, trivial, ⟨by decide +kernel, trivial, trivial, trivial⟩, trivial⟩
  have hlisted' : Listable (.dir nestedEntries.reverse none) :=
    ⟨by decide +kernel, ⟨by decide +kernel, trivial, trivial, trivial⟩, trivial, trivial⟩
  refine discover_reordered rfl hlisted rfl hlisted' fun names => ?_
  rw [hasVector_dir hlisted.1, hasVector_dir hlisted'.1]
  simp only [List.mem_reverse]

/-- the file at the path, as the catalog loads it -/
def CatalogDir.loadAt (dir : CatalogDir) (text : JsonText) (entries : List (Name × Node))
    (names : List Name) : Except (Fault String) TestVector :=
  TestVector.load text (dir.display names) ((Node.dir entries none).read names)

/-- the catalog is its vector files, loaded in the order of their paths -/
theorem loadCatalog_ok {text : JsonText} {vectors : List TestVector}
    (hroot : dir.root = .ok (.dir entries none)) :
    dir.loadCatalog text = .ok vectors ↔ ∃ found, dir.discover = .ok found ∧
      List.Forall₂ (fun names vector => dir.loadAt text entries names = .ok vector)
        found vectors := by
  have hread (names : List Name) : (dir.root >>= fun root => root.read names)
      = (Node.dir entries none).read names := by
    rw [hroot]
    rfl
  simp only [CatalogDir.loadCatalog, bind_ok, mapError_ok, hread]
  exact exists_congr fun found => and_congr_right fun _ => ⟨mapM_ok, mapM_of_forall₂⟩

/-- a catalog loads when each of its vector files does, and then has their vectors -/
theorem loadCatalog_iff {text : JsonText} (hroot : dir.root = .ok (.dir entries none))
    (hlisted : Listable (.dir entries none)) :
    ((∃ vectors, dir.loadCatalog text = .ok vectors) ↔
      ∀ names, HasVector (.dir entries none) names →
        ∃ vector, dir.loadAt text entries names = .ok vector) ∧
    ∀ vectors, dir.loadCatalog text = .ok vectors → ∀ vector, vector ∈ vectors ↔
      ∃ names, HasVector (.dir entries none) names ∧
        dir.loadAt text entries names = .ok vector := by
  obtain ⟨found, hfound, _, _, hmem⟩ := discover_iff hroot hlisted
  have hloads {vectors : List TestVector} : dir.loadCatalog text = .ok vectors ↔
      List.Forall₂ (fun names vector => dir.loadAt text entries names = .ok vector)
        found vectors := by
    rw [loadCatalog_ok hroot]
    refine ⟨fun ⟨found', hfound', hall⟩ => ?_, fun hall => ⟨found, hfound, hall⟩⟩
    obtain rfl := Except.ok.inj (hfound.symm.trans hfound')
    exact hall
  refine ⟨⟨fun ⟨vectors, h⟩ names hvector => ?_, fun hall => ?_⟩, fun vectors h vector => ?_⟩
  · obtain ⟨vector, _, hload⟩ := exists_of_forall₂ (hloads.mp h) ((hmem names).mpr hvector)
    exact ⟨vector, hload⟩
  · obtain ⟨vectors, h⟩ := forall₂_of_exists fun names hnames => hall names ((hmem names).mp hnames)
    exact ⟨vectors, hloads.mpr h⟩
  · constructor
    · intro hin
      obtain ⟨names, hnames, hload⟩ := exists_of_forall₂ (hloads.mp h).flip hin
      exact ⟨names, (hmem names).mp hnames, hload⟩
    · rintro ⟨names, hvector, hload⟩
      obtain ⟨other, hin, hother⟩ :=
        exists_of_forall₂ (hloads.mp h) ((hmem names).mpr hvector)
      obtain rfl := Except.ok.inj (hload.symm.trans hother)
      exact hin

end

end Crucible
