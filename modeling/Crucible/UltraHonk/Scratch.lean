import Crucible.Cli.Artifacts
import Crucible.Lib.Copies
import Crucible.UltraHonk.Surface

/-!
# The package a proof is made in (`crates/ultrahonk/src/provider.rs`)

`solve_witness` copies the sources of a circuit and of `lib/` to an empty directory, puts the
compiled bytecode and the witness beside them, and runs `nargo` there.  Here the directories are
trees, any call can fail, and `nargo` sees every file.

* `CircuitSources`         the circuits workspace, and copying from it;
* `Workspace`              the same with `nargo`;
* `Workspace.package`      the package that is made; `Workspace.solveWitness`   the run in it;
* `Workspace.packageFiles` which files it holds;
* `Workspace.machine`      the machine on which `nargo` runs a circuit by its name;
* `scratch_package`        the run is the one of that machine, and the files are these.
-/

namespace Crucible
open Checked Text Files

/-- the circuits workspace, and the calls that fail where something of it is copied -/
structure CircuitSources where
  circuits : Node
  /-- by their paths in the scratch directory -/
  io : CopyIo

/-- and where a package is made of it, with `nargo` in it -/
structure Workspace extends CircuitSources where
  /-- of `Prover.toml` -/
  witnessFails : Option Cut
  /-- `nargo execute` in a package, over all files of the scratch directory -/
  execute : String → (List Name → Option (List UInt8)) → Except String NargoRun

/-- `to_string_lossy` of a path below a root -/
def displayBelow (root : List String) (path : List Name) : String :=
  displayPath (root ++ path.map Utf8.toStringLossy)

/-- the texts of `copy_tree` -/
def copyMessage (sourceRoot targetRoot : List String) : CopyError → String
  | .entry reason => reason
  | .create path reason => s!"cannot create `{displayBelow targetRoot path}`: {reason}"
  | .list path reason => s!"cannot read `{displayBelow sourceRoot path}`: {reason}"
  | .copy source target reason => s!"cannot copy `{displayBelow sourceRoot source}` -> " ++
      s!"`{displayBelow targetRoot target}`: {reason}"

namespace CircuitSources
variable (ws : CircuitSources)

/-- `copy_tree` of what is at a path, to the same path -/
def copyTree {m : Type → Type} [Monad m] (calls : CopyCalls m) (path : List String) : m Unit :=
  match ws.circuits.find (path.map nameOf) with
  | .ok node => node.copyTree calls (path.map nameOf) (path.map nameOf)
  | .error _ => pure ()

/-- what `std::fs::copy` reads of a path -/
def copyContents (path : List String) : Except String (List UInt8) := do
  match ← ws.circuits.find (path.map nameOf) with
  | .file content => content
  | _ => .error "the source path is neither a regular file nor a symlink to a regular file"

def hasPath (path : List String) : Bool := (ws.circuits.find (path.map nameOf)).isOk

/-- `std::fs::copy` of the compiled bytecode -/
def copyBytecode (op : String) : OnTree String Unit :=
  let target := [op, "target", op ++ ".json"].map nameOf
  match ws.copyContents ["target", op ++ ".json"] with
  | .error reason => fun tree => (.error reason, tree)
  | .ok bytes => Node.put (ws.io.copyFails target) bytes target

end CircuitSources

namespace Workspace
variable (ws : Workspace)

/-- an answer that changes nothing -/
def answered {ε : Type} (x : Except ε Unit) : OnTree ε Unit := fun tree => (x, tree)

section
variable (p : UltraHonkProvider) (scratchRoot : List String)

def copyPackageSources (op : String) : OnTree String Unit := do
  let circuits := p.config.circuitsRoot
  answered (ensureAll (fun required => ws.hasPath [op, required])
    (fun required => s!"circuit package `{op}` is missing `{required}` under " ++
      s!"`{displayPath circuits}`") ["Nargo.toml", "src"])
  (ws.copyTree ws.io.onTree [op, "Nargo.toml"]).adapt (copyMessage circuits scratchRoot)
  (ws.copyTree ws.io.onTree [op, "src"]).adapt (copyMessage circuits scratchRoot)
  (ws.copyTree ws.io.onTree ["lib", "Nargo.toml"]).adapt (copyMessage circuits scratchRoot)
  (ws.copyTree ws.io.onTree ["lib", "src"]).adapt (copyMessage circuits scratchRoot)

/-- `solve_witness`, before `nargo` runs -/
def package (op toml : String) : OnTree ProviderError Unit := do
  let target := [op, "target"].map nameOf
  (ws.copyPackageSources p scratchRoot op).adapt generationFailed
  (Node.makeDirs (ws.io.createFails target) target).adapt fun e =>
    generationFailed s!"cannot create scratch target dir: {e}"
  (ws.copyBytecode op).adapt fun e =>
    generationFailed s!"cannot copy bytecode into scratch: {e}"
  (Node.put ws.witnessFails (nameOf toml) ([op, "Prover.toml"].map nameOf)).adapt fun e =>
    generationFailed
      s!"cannot write witness Prover.toml: {(Witness.WitnessError.io e).message}"

end

/-- the files of a package: the sources of the circuit and of `lib/`, the compiled bytecode, and the
witness -/
def packageFiles (op toml : String) (path : List Name) : Option (List UInt8) :=
  if path = [op, "Prover.toml"].map nameOf then some (nameOf toml)
  else if path = [op, "target", op ++ ".json"].map nameOf then
    (ws.copyContents ["target", op ++ ".json"]).toOption
  else if [[op, "Nargo.toml"], [op, "src"], ["lib", "Nargo.toml"], ["lib", "src"]].any
      fun source => (source.map nameOf).isPrefixOf path then
    Node.bytesAt (some ws.circuits) path
  else none

end Workspace

section
variable (p : UltraHonkProvider) (r : ProofRequest) (scratchRoot : List String)

/-- what a run of `nargo` has to leave -/
def solvedBy (nargo : Nargo) (proverToml : String) : Except ProviderError Nargo.File := do
  let operationName := r.circuit.id
  let captured ← (nargo.executeCaptured (scratchRoot ++ [operationName]) operationName proverToml
    "witness").mapError fun e => unavailable s!"nargo execute failed: {e.message}"
  ensure captured.solved (generationFailed
    ("the witness did not solve: the request's private values do not satisfy the circuit " ++
      "constraints (wrong owner, overdraw, or opening mismatch)"))
  fromOption
    (generationFailed "nargo reported a solved witness but wrote no witness file") captured.witness

/-- `solve_witness` in an empty scratch directory: the answer, and the tree as `nargo` finds it -/
def UltraHonkProvider.solveWitnessIn (ws : Workspace) (m : Machine) :
    Except ProviderError Nargo.File × Option Node :=
  let proverToml := encodeToml (.fromRequest r)
  match outcome (ws.package p scratchRoot r.circuit.id proverToml) (some (.dir [] none)) with
  | (.error e, tree) => (.error e, tree)
  | (.ok (), tree) =>
    let nargo := { m.nargo with execute := fun package _ => ws.execute package (Node.bytesAt tree) }
    (solvedBy r scratchRoot nargo proverToml, tree)

end

/-- a machine that makes its packages from the workspace; `nargo` is given a circuit and a
witness -/
def Workspace.machine (ws : Workspace) (p : UltraHonkProvider) (scratchRoot : List String)
    (m : Machine) : Machine :=
  let below (path : List String) := path.drop scratchRoot.length
  let inCircuits (path : List String) := path.drop p.config.circuitsRoot.length
  { m with
    pathExists := fun path => ws.hasPath (inCircuits path)
    copyTree := fun source _ => (ws.copyTree ws.io.answers (inCircuits source)).mapError
      (copyMessage p.config.circuitsRoot scratchRoot)
    copyFile := fun source target => do
      let _ ← ws.copyContents (inCircuits source)
      CopyIo.verdict ((ws.io.copyFails ((below target).map nameOf)).map Cut.reason)
    writeWitness := fun _ _ => CopyIo.verdict (ws.witnessFails.map Cut.reason)
    writer := { m.writer with
      createDirAll := fun path =>
        if scratchRoot <+: path then CopyIo.verdict (ws.io.createFails ((below path).map nameOf))
        else m.writer.createDirAll path }
    nargo := { m.nargo with
      execute := fun package toml => ws.execute package (ws.packageFiles package toml) } }

/-! ## the files of a package -/

section
variable {ws : CircuitSources} {s : Option Node}

theorem map_nameOf_ne_nil {path : List String} (h : path ≠ []) : path.map nameOf ≠ [] := by
  simpa using h

theorem CircuitSources.copyTree_answers {path : List String} (hws : ws.circuits.Distinct)
    (hpath : path ≠ []) (h : Vacant (path.map nameOf) s) :
    Says (ws.copyTree ws.io.onTree path) s (ws.copyTree ws.io.answers path)
      (Grafted (path.map nameOf)
        (fun rest => Node.bytesAt (some ws.circuits) (path.map nameOf ++ rest)) s) := by
  unfold CircuitSources.copyTree
  simp only [Node.bytesAt_append]
  cases hfound : ws.circuits.find (path.map nameOf) with
  | ok node =>
    exact Files.copyTree_answers node _ _ s (hws.found hfound) (map_nameOf_ne_nil hpath) h
  | error reason =>
    refine Says.pure ⟨fun rest => ?_, fun q _ => Or.inl rfl⟩
    exact (Node.bytesAt_congr ((h.free rest).trans Node.kindAt_none.symm)).trans
      (Node.bytesAt_none [])

theorem answered_answers {ε : Type} {x : Except ε Unit} :
    Says (Workspace.answered x) s x fun t => t = s := ⟨rfl, fun _ _ => rfl⟩

end

/-- the files with those of the workspace below a path -/
def CircuitSources.withSource (ws : CircuitSources) (path : List String)
    (old : List Name → Option (List UInt8)) (q : List Name) : Option (List UInt8) :=
  if path.map nameOf <+: q then Node.bytesAt (some ws.circuits) q else old q

/-- what the calls say while a package is made -/
def Workspace.packageAnswer (ws : Workspace) (p : UltraHonkProvider) (scratchRoot : List String)
    (m : Machine) (op : String) : Except ProviderError Unit := do
  (p.copyPackageSources (ws.machine p scratchRoot m) op scratchRoot).mapError generationFailed
  (CopyIo.verdict (ws.io.createFails ([op, "target"].map nameOf))).mapError fun e =>
    generationFailed s!"cannot create scratch target dir: {e}"
  (do
    let _ ← ws.copyContents ["target", op ++ ".json"]
    CopyIo.verdict ((ws.io.copyFails ([op, "target", op ++ ".json"].map nameOf)).map
      Cut.reason)).mapError fun e => generationFailed s!"cannot copy bytecode into scratch: {e}"
  (CopyIo.verdict (ws.witnessFails.map Cut.reason)).mapError fun e =>
    generationFailed
      s!"cannot write witness Prover.toml: {(Witness.WitnessError.io e).message}"

section
variable {ws : Workspace} {p : UltraHonkProvider} {scratchRoot : List String} {m : Machine}
  {s : Option Node} {op toml : String} {done : List (List Name)}
  {old : List Name → Option (List UInt8)}

theorem beside_of_ne {a b c d : String} (h : a ≠ c ∨ b ≠ d) :
    Beside ([a, b].map nameOf) ([c, d].map nameOf) := by
  have hne : ¬ (nameOf a = nameOf c ∧ nameOf b = nameOf d) := fun ⟨hac, hbd⟩ =>
    h.elim (fun h => h (nameOf_injective hac)) (fun h => h (nameOf_injective hbd))
  constructor
  · intro hbelow
    simp only [List.map_cons, List.map_nil, List.cons_prefix_cons] at hbelow
    exact hne ⟨hbelow.1, hbelow.2.1⟩
  · intro hbelow
    simp only [List.map_cons, List.map_nil, List.cons_prefix_cons] at hbelow
    exact hne ⟨hbelow.1.symm, hbelow.2.1.symm⟩

/-- what is put beside the sources -/
theorem beside_sources {file : String} (h : file ≠ "src" ∧ file ≠ "Nargo.toml") :
    ∀ d ∈ [["lib", "src"], ["lib", "Nargo.toml"], [op, "src"], [op, "Nargo.toml"]].map
      (·.map nameOf), Beside d ([op, file].map nameOf) := by
  simp only [List.map_cons, List.map_nil, List.forall_mem_cons]
  exact ⟨beside_of_ne (Or.inr h.1.symm), beside_of_ne (Or.inr h.2.symm),
    beside_of_ne (Or.inr h.1.symm), beside_of_ne (Or.inr h.2.symm), List.forall_mem_nil _⟩

theorem CircuitSources.copyTree_built {ws : CircuitSources} {path : List String}
    (hws : ws.circuits.Distinct) (hpath : path ≠ []) (h : Built done old s)
    (hdone : ∀ d ∈ done, Beside d (path.map nameOf)) :
    Says (ws.copyTree ws.io.onTree path) s (ws.copyTree ws.io.answers path)
      (Built (path.map nameOf :: done) (ws.withSource path old)) := by
  have hvacant := h.room _ (map_nameOf_ne_nil hpath) hdone
  refine (CircuitSources.copyTree_answers hws hpath hvacant).mono fun t ht => ?_
  have hbuilt := h.graft (map_nameOf_ne_nil hpath) hdone ht
  have hplaced : placed (path.map nameOf)
      (fun rest => Node.bytesAt (some ws.circuits) (path.map nameOf ++ rest)) old
      = ws.withSource path old := by
    funext q
    unfold placed CircuitSources.withSource
    split
    · next hq =>
      obtain ⟨rest, rfl⟩ := hq
      rw [List.drop_left]
    · rfl
  rw [hplaced] at hbuilt
  exact hbuilt

theorem machine_copyPackageSources :
    p.copyPackageSources (ws.machine p scratchRoot m) op scratchRoot = (do
      ensureAll (fun required => ws.hasPath [op, required])
        (fun required => s!"circuit package `{op}` is missing `{required}` under " ++
          s!"`{displayPath p.config.circuitsRoot}`") ["Nargo.toml", "src"]
      let message := copyMessage p.config.circuitsRoot scratchRoot
      (ws.copyTree ws.io.answers [op, "Nargo.toml"]).mapError message
      (ws.copyTree ws.io.answers [op, "src"]).mapError message
      (ws.copyTree ws.io.answers ["lib", "Nargo.toml"]).mapError message
      (ws.copyTree ws.io.answers ["lib", "src"]).mapError message) := by
  simp only [UltraHonkProvider.copyPackageSources, Workspace.machine, List.drop_left]

theorem copyPackageSources_answers (hws : ws.circuits.Distinct) (hop : op ≠ "lib") :
    Says (ws.copyPackageSources p scratchRoot op) (some (.dir [] none))
      (p.copyPackageSources (ws.machine p scratchRoot m) op scratchRoot)
      (Built ([["lib", "src"], ["lib", "Nargo.toml"], [op, "src"], [op, "Nargo.toml"]].map
        (·.map nameOf)) (ws.withSource ["lib", "src"] (ws.withSource ["lib", "Nargo.toml"]
          (ws.withSource [op, "src"] (ws.withSource [op, "Nargo.toml"] fun _ => none))))) := by
  rw [machine_copyPackageSources]
  refine answered_answers.bind fun _ t _ ht => ?_
  subst ht
  refine (CircuitSources.copyTree_built hws (by simp) built_empty
    (List.forall_mem_nil _)).adapt.bind fun _ t _ hmanifest => ?_
  refine (CircuitSources.copyTree_built hws (by simp) hmanifest ?_).adapt.bind fun _ t _ hsrc => ?_
  · exact List.forall_mem_singleton.mpr (beside_of_ne (Or.inr (by decide)))
  refine (CircuitSources.copyTree_built hws (by simp) hsrc ?_).adapt.bind fun _ t _ hlib => ?_
  · simp only [List.forall_mem_cons]
    exact ⟨beside_of_ne (Or.inl hop), beside_of_ne (Or.inl hop), List.forall_mem_nil _⟩
  refine (CircuitSources.copyTree_built hws (by simp) hlib ?_).adapt
  simp only [List.forall_mem_cons]
  exact ⟨beside_of_ne (Or.inr (by decide)), beside_of_ne (Or.inl hop), beside_of_ne (Or.inl hop),
    List.forall_mem_nil _⟩

theorem if_chain {α : Type} {a b c d : Prop} [Decidable a] [Decidable b] [Decidable c] [Decidable d]
    [Decidable (d ∨ c ∨ b ∨ a)] {x y : α} :
    (if a then x else if b then x else if c then x else if d then x else y)
      = if d ∨ c ∨ b ∨ a then x else y := by
  by_cases ha : a <;> by_cases hb : b <;> by_cases hc : c <;> by_cases hd : d <;> simp [*]

/-- the files of the steps, one after the other, are those of the package -/
theorem packageFiles_eq {bytes : List UInt8} (hbytes : ws.copyContents ["target", op ++ ".json"]
    = .ok bytes) :
    placed ([op, "Prover.toml"].map nameOf) (Node.bytesAt (some (.file (.ok (nameOf toml)))))
      (placed ([op, "target"].map nameOf)
        (Node.bytesAt (some (.dir [(nameOf (op ++ ".json"), .file (.ok bytes))] none)))
        (ws.withSource ["lib", "src"] (ws.withSource ["lib", "Nargo.toml"]
          (ws.withSource [op, "src"] (ws.withSource [op, "Nargo.toml"] fun _ => none)))))
      = ws.packageFiles op toml := by
  have hwitness : nameOf "Prover.toml" ≠ nameOf "target" ∧ nameOf "Prover.toml" ≠ nameOf "src" ∧
      nameOf "Prover.toml" ≠ nameOf "Nargo.toml" := by decide
  have htarget : nameOf "target" ≠ nameOf "src" ∧ nameOf "target" ≠ nameOf "Nargo.toml" := by
    decide
  funext q
  unfold placed CircuitSources.withSource Workspace.packageFiles
  rw [hbytes]
  cases q with
  | nil => simp
  | cons first q =>
    cases q with
    | nil => simp
    | cons second rest =>
      simp only [List.map_cons, List.map_nil, List.cons_prefix_cons, List.nil_prefix, and_true,
        List.cons.injEq, List.any_cons, List.any_nil, List.isPrefixOf_iff_prefix, Bool.or_eq_true,
        Bool.or_false, List.length_cons, List.length_nil, List.drop_succ_cons, List.drop_zero]
      by_cases hp : nameOf op = first ∧ nameOf "Prover.toml" = second
      · obtain ⟨rfl, rfl⟩ := hp
        cases rest with
        | nil => simp [Node.bytesAt]
        | cons third rest =>
          simp [hwitness, hwitness.2.1.symm, hwitness.2.2.symm, Node.bytesAt]
      by_cases ht : nameOf op = first ∧ nameOf "target" = second
      · obtain ⟨rfl, rfl⟩ := ht
        have hother : nameOf "src" ≠ nameOf "target" ∧ nameOf "Nargo.toml" ≠ nameOf "target" :=
          ⟨htarget.1.symm, htarget.2.symm⟩
        cases rest with
        | nil => simp [hwitness, hwitness.1.symm, hother, Node.bytesAt]
        | cons third rest =>
          simp only [hwitness, hwitness.1.symm, hother, false_and, and_false, if_false, true_and,
            if_true, or_self, List.cons.injEq]
          show Node.bytesAt ([(nameOf (op ++ ".json"), _)].lookup third) rest = _
          rw [List.lookup_cons]
          by_cases hthird : third = nameOf (op ++ ".json")
          · rw [hthird, beq_self_eq_true]
            cases rest <;> simp [Node.bytesAt, Except.toOption]
          · rw [beq_eq_false_iff_ne.mpr hthird, if_neg fun h => hthird h.1]
            exact Node.bytesAt_none rest
      · have hwitness' : ¬ (first = nameOf op ∧ second = nameOf "Prover.toml" ∧ rest = []) :=
          fun h => hp ⟨h.1.symm, h.2.1.symm⟩
        have htarget' : ¬ (first = nameOf op ∧ second = nameOf "target" ∧
            rest = [nameOf (op ++ ".json")]) := fun h => ht ⟨h.1.symm, h.2.1.symm⟩
        rw [if_neg hp, if_neg ht, if_neg hwitness', if_neg htarget']
        exact if_chain

/-- the bytecode is put into the directory that was made for it, or nothing is -/
theorem copyBytecode_answers {t : Option Node} (h : Built done old s)
    (hdone : ∀ d ∈ done, Beside d ([op, "target"].map nameOf))
    (ht : ∀ q, Node.kindAt t q
      = if q <+: [op, "target"].map nameOf then some .dir else Node.kindAt s q) :
    Says (ws.copyBytecode op) t
      (do
        let _ ← ws.copyContents ["target", op ++ ".json"]
        CopyIo.verdict ((ws.io.copyFails ([op, "target", op ++ ".json"].map nameOf)).map
          Cut.reason))
      fun t' => ∃ bytes, ws.copyContents ["target", op ++ ".json"] = .ok bytes ∧
        Built ([op, "target"].map nameOf :: done) (placed ([op, "target"].map nameOf)
          (Node.bytesAt (some (.dir [(nameOf (op ++ ".json"), .file (.ok bytes))] none))) old) t' ∧
        Node.kindAt t' [nameOf op] = some .dir := by
  have hvacant := h.room _ (map_nameOf_ne_nil (by simp)) hdone
  have hparent : Node.kindAt t ([op, "target"].map nameOf) = some .dir := by
    rw [ht, if_pos List.prefix_rfl]
  have hfree : Node.kindAt t ([op, "target"].map nameOf ++ [nameOf (op ++ ".json")]) = none := by
    rw [ht, if_neg prefix_irrefl_concat]
    exact hvacant.free _
  unfold CircuitSources.copyBytecode
  cases hbytes : ws.copyContents ["target", op ++ ".json"] with
  | error reason => exact ⟨rfl, fun _ h => by cases h⟩
  | ok bytes =>
    refine (put_answers hparent hfree).mono fun t' ht' => ⟨bytes, rfl, ?_, ?_⟩
    · exact h.graft (map_nameOf_ne_nil (by simp)) hdone (grafted_dir hvacant ht ht')
    · rw [ht', if_neg (by simp), ht, if_pos]
      exact ⟨[nameOf "target"], rfl⟩

/-- **The answer is that of the calls, and a package that is made holds these files.** -/
theorem package_answers (hws : ws.circuits.Distinct) (hop : op ≠ "lib") :
    Says (ws.package p scratchRoot op toml) (some (.dir [] none))
      (ws.packageAnswer p scratchRoot m op)
      fun t => Node.bytesAt t = ws.packageFiles op toml := by
  refine (copyPackageSources_answers hws hop).adapt.bind fun _ s _ hs => ?_
  have htarget := @beside_sources op "target" (by decide)
  have hvacant := hs.room _ (map_nameOf_ne_nil (by simp)) htarget
  refine (createDirAll_answers hvacant.way).adapt.bind fun _ t _ ht => ?_
  refine (copyBytecode_answers hs htarget ht).adapt.bind fun _ t' _ ht' => ?_
  obtain ⟨bytes, hbytes, hbuilt, hdir⟩ := ht'
  have hbeside : Beside ([op, "target"].map nameOf) ([op, "Prover.toml"].map nameOf) :=
    beside_of_ne (Or.inr (by decide))
  have hwitness : ∀ d ∈ [op, "target"].map nameOf :: _, Beside d ([op, "Prover.toml"].map nameOf) :=
    List.forall_mem_cons.mpr ⟨hbeside, beside_sources (by decide)⟩
  have hroom := hbuilt.room _ (map_nameOf_ne_nil (by simp)) hwitness
  have hfree : Node.kindAt t' ([nameOf op] ++ [nameOf "Prover.toml"]) = none := hroom.free []
  refine (put_answers hdir hfree).adapt.mono fun t'' ht'' => ?_
  have hway : ∀ q, Node.kindAt t' q
      = if q <+: [nameOf op] then some .dir else Node.kindAt t' q := by
    intro q
    split
    · next hq =>
      rcases List.prefix_concat_iff.mp (show q <+: [] ++ [nameOf op] from hq) with rfl | hq
      · exact hdir
      · rw [List.prefix_nil.mp hq]
        exact Node.kindAt_of_append hdir
    · rfl
  have hlast := hbuilt.graft (map_nameOf_ne_nil (by simp)) hwitness (grafted_file hroom hway ht'')
  rw [hlast.files]
  exact packageFiles_eq hbytes

/-! ## a package that is not made -/

theorem packageFiles_source {path : List String} {rest : List Name}
    (hpath : path ∈ [[op, "Nargo.toml"], [op, "src"], ["lib", "Nargo.toml"], ["lib", "src"]]) :
    ws.packageFiles op toml (path.map nameOf ++ rest)
      = Node.bytesAt (some ws.circuits) (path.map nameOf ++ rest) := by
  obtain ⟨dir, file, rfl, hwitness, htarget⟩ : ∃ dir file, path = [dir, file] ∧
      nameOf file ≠ nameOf "Prover.toml" ∧ nameOf file ≠ nameOf "target" := by
    simp only [List.mem_cons, List.not_mem_nil, or_false] at hpath
    rcases hpath with rfl | rfl | rfl | rfl <;>
      exact ⟨_, _, rfl, by decide, by decide⟩
  have hany : [[op, "Nargo.toml"], [op, "src"], ["lib", "Nargo.toml"], ["lib", "src"]].any
      fun source => (source.map nameOf).isPrefixOf ([dir, file].map nameOf ++ rest) :=
    List.any_eq_true.mpr ⟨_, hpath, List.isPrefixOf_iff_prefix.mpr (List.prefix_append _ _)⟩
  unfold Workspace.packageFiles
  rw [if_neg (by simp [hwitness]), if_neg (by simp [htarget]), if_pos hany]

theorem copyTree_preserves {path : List String} (hws : ws.circuits.Distinct)
    (hpath : path ∈ [[op, "Nargo.toml"], [op, "src"], ["lib", "Nargo.toml"], ["lib", "src"]]) :
    Preserves (CopiesOf (ws.packageFiles op toml)) (ws.copyTree ws.io.onTree path) := by
  unfold CircuitSources.copyTree
  cases hfound : ws.circuits.find (path.map nameOf) with
  | error reason => exact Preserves.pure
  | ok node =>
    refine Files.copyTree_preserves node _ _ (hws.found hfound) fun rest bytes hbytes => ?_
    rw [packageFiles_source hpath, Node.bytesAt_append, hfound]
    exact hbytes

/-- however making a package ends, there are only files of it, whole or cut -/
theorem package_preserves (hws : ws.circuits.Distinct) :
    Preserves (CopiesOf (ws.packageFiles op toml)) (ws.package p scratchRoot op toml) := by
  have hsource {path : List String} (hpath : path ∈
      [[op, "Nargo.toml"], [op, "src"], ["lib", "Nargo.toml"], ["lib", "src"]]) :=
    @copyTree_preserves ws op toml path hws hpath
  have hsources : Preserves (CopiesOf (ws.packageFiles op toml))
      (ws.copyPackageSources p scratchRoot op) := by
    refine Preserves.bind (fun _ h => h) fun _ => ?_
    refine (hsource (by simp)).adapt.bind fun _ => (hsource (by simp)).adapt.bind fun _ => ?_
    exact (hsource (by simp)).adapt.bind fun _ => (hsource (by simp)).adapt
  refine hsources.adapt.bind fun _ => makeDirs_preserves.adapt.bind fun _ => ?_
  refine Preserves.bind (Preserves.adapt ?_) fun _ => (put_preserves (if_pos rfl)).adapt
  unfold CircuitSources.copyBytecode
  cases hbytes : ws.copyContents ["target", op ++ ".json"] with
  | error reason => exact fun _ h => h
  | ok bytes =>
    refine put_preserves ?_
    unfold Workspace.packageFiles
    rw [if_neg (by simp), if_pos rfl, hbytes]
    rfl

/-! ## the run in a package -/

theorem solveWitness_answer {r : ProofRequest} :
    p.solveWitness (ws.machine p scratchRoot m) r scratchRoot
      = ws.packageAnswer p scratchRoot m r.circuit.id >>= fun _ =>
          solvedBy r scratchRoot (ws.machine p scratchRoot m).nargo
            (encodeToml (.fromRequest r)) := by
  simp only [UltraHonkProvider.solveWitness, Workspace.packageAnswer, solvedBy, bind_assoc]
  simp only [Workspace.machine, List.append_assoc, List.drop_left, if_pos (List.prefix_append _ _),
    List.cons_append, List.nil_append]

/-- a run depends on what `nargo` answers to it -/
theorem solvedBy_congr {r : ProofRequest} {nargo nargo' : Nargo}
    (hversion : nargo.version = nargo'.version)
    (hexecute : nargo.execute r.circuit.id toml = nargo'.execute r.circuit.id toml) :
    solvedBy r scratchRoot nargo toml = solvedBy r scratchRoot nargo' toml := by
  simp only [solvedBy, Nargo.executeCaptured, Nargo.checkVersion, hversion, hexecute]

theorem supports_ne_lib {r : ProofRequest}
    (h : UltraHonkBackend.supports r.circuit r.circuitVersion) : r.circuit.id ≠ "lib" := by
  intro hlib
  have hnot : ¬ UltraHonkBackend.isProtocolCircuit ⟨"lib"⟩ := by decide
  have hcircuit : r.circuit = ⟨"lib"⟩ := congrArg CircuitId.mk hlib
  rw [hcircuit] at h
  exact hnot (Bool.and_eq_true_iff.mp h).1

/-- **In a scratch directory of its own a run answers as if `nargo` were given the circuit and the
witness alone: in every package that is made, whatever `nargo` says in it, the files are those of
the package.  A package that is not made has only such files, whole or cut.** -/
theorem scratch_package {r : ProofRequest} (hws : ws.circuits.Distinct)
    (hsupported : UltraHonkBackend.supports r.circuit r.circuitVersion) :
    let run := p.solveWitnessIn r scratchRoot ws m
    let toml := encodeToml (.fromRequest r)
    let made := outcome (ws.package p scratchRoot r.circuit.id toml) (some (.dir [] none))
    let files := ws.packageFiles r.circuit.id toml
    run.1 = p.solveWitness (ws.machine p scratchRoot m) r scratchRoot ∧
      (made.1 = .ok () → Node.bytesAt run.2 = files) ∧
      (∀ witness, run.1 = .ok witness → Node.bytesAt run.2 = files) ∧ CopiesOf files run.2 := by
  intro run toml made files
  have hsays : Says (ws.package p scratchRoot r.circuit.id toml) _
      (ws.packageAnswer p scratchRoot m r.circuit.id) fun t => Node.bytesAt t = files :=
    package_answers hws (supports_ne_lib hsupported)
  have hcopies : CopiesOf files made.2 := by
    refine package_preserves hws _ fun path bytes hbytes => ?_
    rw [built_empty.files] at hbytes
    cases hbytes
  have hrun : run = p.solveWitnessIn r scratchRoot ws m := rfl
  simp only [UltraHonkProvider.solveWitnessIn] at hrun
  rw [solveWitness_answer]
  unfold Says at hsays
  simp only [made] at hcopies ⊢
  cases hout : outcome (ws.package p scratchRoot r.circuit.id toml) (some (.dir [] none)) with
  | mk answer tree =>
    rw [hout] at hsays hcopies hrun
    cases answer with
    | error e =>
      have hrun : run = (.error e, tree) := hrun
      rw [← hsays.1, hrun]
      exact ⟨rfl, nofun, nofun, hcopies⟩
    | ok _ =>
      have hfiles := hsays.2 () hsays.1.symm
      rw [← hsays.1, hrun]
      refine ⟨solvedBy_congr rfl ?_, fun _ => hfiles, fun _ _ => hfiles, hcopies⟩
      show ws.execute _ (Node.bytesAt tree) = ws.execute _ files
      rw [hfiles]

end

/-- the package of one circuit with its library, and a witness and a solution of earlier runs -/
def depositCircuits : Node :=
  .dir [(nameOf "deposit", .dir
      [(nameOf "Nargo.toml", .file (.ok [])),
        (nameOf "src", .dir [(nameOf "main.nr", .file (.ok [0x66, 0x6e]))] none),
        (nameOf "Prover.toml", .file (.ok [0x78])),
        (nameOf "target", .dir [(nameOf "witness.gz", .file (.ok [0x79]))] none)] none),
    (nameOf "lib", .dir
      [(nameOf "Nargo.toml", .file (.ok [])), (nameOf "src", .dir [] none)] none),
    (nameOf "target", .dir [(nameOf "deposit.json", .file (.ok [0x7b]))] none)] none

def depositBase : Machine := sampleMachine (sampleIdentity .deposit) .deposit 0

/-- `nargo` reads the witness from its file -/
def depositWorkspace : Workspace where
  circuits := depositCircuits
  io := { createFails := fun _ => none, copyFails := fun _ => none }
  witnessFails := none
  execute package files :=
    match files ([package, "Prover.toml"].map nameOf) with
    | some bytes => depositBase.nargo.execute package (Utf8.toStringLossy bytes)
    | none => .error "No such file or directory (os error 2)"

theorem depositCircuits_distinct : depositCircuits.Distinct := by
  have hone (name : String) (bytes : List UInt8) :
      (Node.dir [(nameOf name, .file (.ok bytes))] none).Distinct :=
    Node.distinct_dir (by simp) (List.forall_mem_singleton.mpr Node.distinct_file)
  have hempty : (Node.dir [] none).Distinct :=
    Node.distinct_dir List.nodup_nil (List.forall_mem_nil _)
  refine Node.distinct_dir (by decide) ?_
  simp only [List.forall_mem_cons]
  refine ⟨Node.distinct_dir (by decide) ?_, Node.distinct_dir (by decide) ?_, hone _ _,
    List.forall_mem_nil _⟩
  · simp only [List.forall_mem_cons]
    exact ⟨Node.distinct_file, hone _ _, Node.distinct_file, hone _ _, List.forall_mem_nil _⟩
  · simp only [List.forall_mem_cons]
    exact ⟨Node.distinct_file, hempty, List.forall_mem_nil _⟩

/-- the witness is the one of the request, and nothing of the earlier run is there -/
theorem scratch_package_deposit :
    let run := sampleProvider.solveWitnessIn (sampleRequest .deposit .deposit) ["scratch"]
      depositWorkspace depositBase
    run.1 = .ok ⟨["scratch", "deposit", "target", "witness.gz"], []⟩ ∧
      Node.bytesAt run.2 (["deposit", "Prover.toml"].map nameOf)
        = some (nameOf (sampleToml .deposit)) ∧
      Node.bytesAt run.2 (["deposit", "target", "witness.gz"].map nameOf) = none := by
  obtain ⟨hanswer, -, hfiles, -⟩ := @scratch_package depositWorkspace sampleProvider ["scratch"]
    depositBase (sampleRequest .deposit .deposit) depositCircuits_distinct (by decide)
  have hfile : depositWorkspace.packageFiles "deposit" (sampleToml .deposit)
      (["deposit", "Prover.toml"].map nameOf) = some (nameOf (sampleToml .deposit)) := if_pos rfl
  have hexecute : depositWorkspace.execute "deposit"
      (depositWorkspace.packageFiles "deposit" (sampleToml .deposit))
      = .ok { success := true, code := some 0, stdout := "", witness := some [] } := by
    have hsuccess : decide ("deposit" = "deposit" ∧ sampleToml .deposit = sampleToml .deposit)
        = true := decide_eq_true ⟨rfl, rfl⟩
    show (match depositWorkspace.packageFiles "deposit" (sampleToml .deposit)
        (["deposit", "Prover.toml"].map nameOf) with
      | some bytes => depositBase.nargo.execute "deposit" (Utf8.toStringLossy bytes)
      | none => .error "No such file or directory (os error 2)") = _
    rw [hfile]
    show depositBase.nargo.execute "deposit" (Utf8.toStringLossy (nameOf (sampleToml .deposit))) = _
    rw [nameOf, Utf8.toStringLossy_toUTF8, ← hsuccess]
    rfl
  have hcaptured : (depositWorkspace.machine sampleProvider ["scratch"]
      depositBase).nargo.executeCaptured ["scratch", "deposit"] "deposit" (sampleToml .deposit)
      "witness" = .ok
        { solved := true, exitCode := some 0, stdout := ""
          witness := some ⟨["scratch", "deposit", "target", "witness.gz"], []⟩ } :=
    bind_ok.mpr ⟨(), rfl, bind_ok.mpr ⟨_, mapError_ok.mpr hexecute, rfl⟩⟩
  have hsolve : sampleProvider.solveWitness
      (depositWorkspace.machine sampleProvider ["scratch"] depositBase)
      (sampleRequest .deposit .deposit) ["scratch"]
      = .ok ⟨["scratch", "deposit", "target", "witness.gz"], []⟩ := by
    rw [solveWitness_answer]
    exact bind_ok.mpr ⟨(), rfl, bind_ok.mpr ⟨_, mapError_ok.mpr hcaptured, rfl⟩⟩
  rw [hsolve] at hanswer
  have hall := hfiles _ hanswer
  refine ⟨hanswer, ?_, ?_⟩
  · rw [hall]
    exact hfile
  · rw [hall]
    show depositWorkspace.packageFiles "deposit" (sampleToml .deposit) _ = none
    unfold Workspace.packageFiles
    rw [if_neg (by decide), if_neg (by decide), if_neg (by decide)]

end Crucible
