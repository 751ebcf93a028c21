import Crucible.Interfaces.Canonical
import Crucible.Lib.Debug
import Crucible.Noir.Outputs
import Crucible.UltraHonk.Effects
import Crucible.UltraHonk.Scratch
import Crucible.Vectors.Requests
import Mathlib.Data.Nat.Digits.Lemmas

/-!
# The circuit tier (`tests/src/circuit_runner.rs`, `tests/tests/vectors.rs`)

Each vector's values are written to one `Prover.toml` of a scratch package, `nargo` executes the
package, and what it reports is compared.  The vectors of a circuit share the package.

* `CircuitScratch.prepare`        the package, with whatever lies in the one of the workspace;
* `proverToml`, `executeVector`, `assertOutputsMatch`   the steps for one vector;
* `validTier`, `rejectTier`       the loops of the two tests, over the vectors of one circuit;
* `circuitTierValid`, `circuitTierRejects`   the tests, over the groups of a catalog;
* `RunsCircuits`                  what `nargo` documents: it runs the `main` of the package on the
                                  values of the file, and prints what it returns;
* `assignments_lines`, `assignments_proverToml`   what the file says, and to which circuit;
* `executeCapturedIn_fresh`       where no witness is left, the run is the one of the provider;
* `executeVector_eq`              what earlier runs left in the package does not matter;
* `circuit_tier_iff`              the tests decide what the circuits of the source do;
* `circuitNargo`                  runs these circuits over a standard library.
-/

namespace Crucible
open Checked Text Serde Files

/-! ## the package -/

/-- what a scratch package holds beside its sources -/
structure CircuitScratch where
  packageDir : List String
  toml : Option String
  /-- at `target/vector.gz` -/
  witness : Option (List UInt8)
deriving DecidableEq

namespace CircuitSources
variable (ws : CircuitSources)

/-- `Path::is_file` -/
def isFile (path : List String) : Bool :=
  match ws.circuits.find (path.map nameOf) with
  | .ok (.file _) => true
  | _ => false

/-- all of the package and of `lib/`, and the compiled bytecode if there is one -/
def copyPackage (root dir : List String) (op : String) : OnTree String Unit := do
  (ws.copyTree ws.io.onTree [op]).adapt (copyMessage root dir)
  (ws.copyTree ws.io.onTree ["lib"]).adapt (copyMessage root dir)
  if ws.isFile ["target", op ++ ".json"] then
    let target := [op, "target"].map nameOf
    let artifact := displayPath (root ++ ["target", op ++ ".json"])
    (Node.makeDirs (ws.io.createFails target) target).adapt fun e =>
      s!"cannot create target dir: {e}"
    (ws.copyBytecode op).adapt fun e => s!"cannot copy artifact `{artifact}`: {e}"

end CircuitSources

/-- `CircuitScratch::prepare` in a new directory, `temp`; what lies in the package is copied too -/
def CircuitScratch.prepare (ws : CircuitSources) (root : List String)
    (temp : Except String (List String)) (op : String) : Except String CircuitScratch := do
  ensure (ws.isFile [op, "Nargo.toml"])
    s!"circuit package `{op}` not found under `{displayPath root}`"
  let dir ← temp.mapError fun e => s!"cannot create scratch dir: {e}"
  match outcome (ws.copyPackage root dir op) (some (.dir [] none)) with
  | (.error e, _) => .error e
  | (.ok _, tree) =>
    return { packageDir := dir ++ [op]
             toml := (Node.bytesAt tree ([op, "Prover.toml"].map nameOf)).map Utf8.toStringLossy
             witness := Node.bytesAt tree ([op, "target", "vector.gz"].map nameOf) }

/-! ## one vector -/

/-- names and digits, private values first -/
def TestVector.lines (v : TestVector) : List (String × String) :=
  v.witness.priv.entries ++ v.witness.pub.entries.map fun e => (e.1, e.2.hex)

/-- the text of `write_prover_toml` -/
def TestVector.proverToml (v : TestVector) : String :=
  String.ofList (['\n'].intercalate (v.lines.map tomlLine) ++ ['\n'])

/-- how the calls for one vector end -/
structure TierIo where
  /-- why `Prover.toml` cannot be written, and what is there then -/
  write : Option (String × Option String)
  /-- the witness of an earlier run is removed -/
  removed : Bool

section
variable (nargo : Nargo)

/-- `execute_captured`, where an earlier run may have left a witness: the answer, and the witness
that is there afterwards -/
def Nargo.executeCapturedIn (projectDir : List String)
    (package proverToml witnessName : String) (removed : Bool) (stale : Option (List UInt8)) :
    Except NoirError Nargo.CapturedExecute × Option (List UInt8) :=
  match nargo.checkVersion with
  | .error e => (.error e, stale)
  | .ok () =>
    let left := if removed then none else stale
    let witnessPath := projectDir ++ ["target", witnessName ++ ".gz"]
    match nargo.execute package proverToml with
    | .error e => (.error (.io ("/".intercalate projectDir) e), left)
    | .ok run =>
      let witness := run.witness.or left
      if run.success ∧ witness.isNone then
        (.error (.expectedOutput ("/".intercalate witnessPath) "execute"), witness)
      else
        (.ok { solved := run.success
               exitCode := run.code
               witness := if run.success then witness.map fun content => ⟨witnessPath, content⟩
                else none
               stdout := run.stdout }, witness)

/-- `CircuitScratch::execute` of the package -/
def CircuitScratch.execute (package : String) (removed : Bool) (s : CircuitScratch) :
    Except String Nargo.CapturedExecute × CircuitScratch :=
  match s.toml with
  | none => (.error s!"missing Prover.toml in {displayPath s.packageDir}", s)
  | some toml =>
    let (captured, witness) :=
      nargo.executeCapturedIn s.packageDir package toml "vector" removed s.witness
    (captured.mapError fun e => s!"nargo execute failed: {e.message}", { s with witness })

structure CircuitVerdict where
  solved : Bool
  reported : ReportedOutputs
deriving DecidableEq

def executeVector (package : String) (io : TierIo) (v : TestVector) (s : CircuitScratch) :
    Except (Fault String) CircuitVerdict × CircuitScratch :=
  match io.write with
  | some (reason, left) =>
    (.error (.error s!"cannot write Prover.toml: {reason}"), { s with toml := left })
  | none =>
    match { s with toml := some v.proverToml }.execute nargo package io.removed with
    | (.error e, s) => (.error (.error e), s)
    | (.ok captured, s) =>
      (do
        let reported ← fromOption .panic (ReportedOutputs.parseStdout captured.stdout)
        return ⟨captured.solved, reported⟩, s)

end

/-- `assert_outputs_match`: by position; `quote` is how `Debug` writes a string -/
def assertOutputsMatch (quote : String → String) (v : TestVector) (reported : ReportedOutputs) :
    Except String Unit := do
  let expected := v.expectedPublicOutputs.entries
  let names := ", ".intercalate (expected.map Prod.fst)
  ensure (expected.length = reported.values.length)
    (s!"vector `{v.id}`: circuit reported {reported.values.length} outputs, expected " ++
      s!"{expected.length} ({names}): reported " ++
      (Format.Debug.list (reported.values.map .str)).compact quote)
  (expected.zip reported.values).forM fun (e, hex) => do
    let value ← (FieldValue.fromHex hex).mapError fun err =>
      s!"vector `{v.id}`: circuit output `{hex}`: " ++ err.message
    ensure (value = e.2) (s!"vector `{v.id}`: output `{e.1}` mismatch: expected {e.2.hex}, " ++
      s!"circuit reported {value.hex}")

/-! ## the tests -/

section
variable (nargo : Nargo) (quote : String → String)

section
variable (package : String)

/-- the loop of `circuit_tier_valid_vectors_solve_with_expected_outputs` for one circuit -/
def validTier : List (TierIo × TestVector) → CircuitScratch → Except (Fault String) Unit
  | [], _ => .ok ()
  | (io, v) :: runs, s =>
    let (verdict, s) := executeVector nargo package io v s
    do
      let verdict ← verdict.mapError (Fault.map fun e => s!"vector {v.id} execution: {e}")
      let values := ", ".intercalate verdict.reported.values
      ensure verdict.solved (Fault.error
        s!"valid vector {v.id} must solve the {package} circuit (stdout: {values})")
      (assertOutputsMatch quote v verdict.reported).mapError Fault.error
      validTier runs s

/-- the loop of `circuit_tier_rejecting_vectors_do_not_solve` for one circuit -/
def rejectTier : List (TierIo × TestVector) → CircuitScratch → Except (Fault String) Unit
  | [], _ => .ok ()
  | (io, v) :: runs, s =>
    let (verdict, s) := executeVector nargo package io v s
    do
      let verdict ← verdict.mapError (Fault.map fun e => s!"vector {v.id} execution: {e}")
      ensure (¬ verdict.solved) (Fault.error
        s!"rejecting vector {v.id} must NOT solve the {package} circuit")
      rejectTier runs s

end

/-- `group_by_operation`, in the order that the map has its keys -/
def groupByOperation (keys : List String) (runs : List (TierIo × TestVector)) :
    List (String × List (TierIo × TestVector)) :=
  keys.map fun op => (op, runs.filter fun q => q.2.circuit.id = op)

section
variable (prepare : String → Except String CircuitScratch) (keep : TestVector → Bool)
  (test : String → List (TierIo × TestVector) → CircuitScratch → Except (Fault String) Unit)

/-- what is kept of a group is tested in a package prepared for it -/
def testCircuit (op : String) (runs : List (TierIo × TestVector)) : Except (Fault String) Unit :=
  let kept := runs.filter fun q => keep q.2
  if kept.isEmpty then .ok ()
  else do
    let scratch ← (prepare op).mapError fun e =>
      Fault.error ("scratch package prepared: " ++ quote e)
    test op kept scratch

def eachCircuit (groups : List (String × List (TierIo × TestVector))) :
    Except (Fault String) Unit :=
  groups.forM fun (op, runs) => testCircuit quote prepare keep test op runs

end

section
variable (ws : CircuitSources) (root : List String) (temp : String → Except String (List String))

/-- the package of a circuit, in a directory of its own -/
def scratchOf (op : String) : Except String CircuitScratch :=
  CircuitScratch.prepare ws root (temp op) op

/-- `circuit_tier_valid_vectors_solve_with_expected_outputs` -/
def circuitTierValid : List (String × List (TierIo × TestVector)) → Except (Fault String) Unit :=
  eachCircuit quote (scratchOf ws root temp) (fun v => v.expectVerification) (validTier nargo quote)

/-- `circuit_tier_rejecting_vectors_do_not_solve` -/
def circuitTierRejects : List (String × List (TierIo × TestVector)) → Except (Fault String) Unit :=
  eachCircuit quote (scratchOf ws root temp) (fun v => !v.expectVerification) (rejectTier nargo)

end

end

/-! ## what `nargo` documents -/

/-- the file gives each parameter of `main` its value, and nothing else -/
structure GivesAll (toml : String) (c : Operation) (v : String → Field) : Prop where
  names : ((assignments toml).map Prod.fst).Perm (c.parameters.map Prod.fst)
  values : ∀ e ∈ assignments toml, hexValue e.2 = (v e.1).val

/-- `0x`, and the digits of the value -/
def PrintsValue (text : List Char) (x : Field) : Prop :=
  ∃ digits, text = '0' :: 'x' :: digits ∧ 1 ≤ digits.length ∧ digits.length ≤ 64 ∧
    digits.all isHexDigit ∧ hexValue digits = x.val

/-- what `main` returns is printed as a tuple, if it returns anything -/
def Prints (stdout : String) (returned : List Field) : Prop :=
  if returned = [] then outputLine stdout = none
  else ∃ lead texts, '(' ∉ lead ∧ outputLine stdout = some (tupleLine lead texts) ∧
    List.Forall₂ PrintsValue texts returned

/-- `nargo execute` runs the `main` of the package on the values of the file.  What `main` accepts
is solved, the witness is written, and what it returns is printed; otherwise nothing is printed. -/
structure Nargo.RunsCircuits (nargo : Nargo) (std : Std) : Prop where
  supported : nargo.checkVersion = .ok ()
  runs : ∀ (c : Operation) toml v, Plain toml → GivesAll toml c v →
    ∃ run, nargo.execute c.asStr toml = .ok run ∧
      (∀ returned, c.call std v = .ok returned →
        run.success ∧ run.witness.isSome ∧ Prints run.stdout returned) ∧
      ∀ e, c.call std v = .error e → run.success = false ∧ outputLine run.stdout = none

/-! ## the file -/

namespace TestVector
variable {v : TestVector} {c : Operation}

/-- the vector was loaded -/
def Loaded (v : TestVector) : Prop := ∃ text path content, load text path content = .ok v

/-- the names of the vector are the parameters of `main`, and its values are field elements -/
structure Fits (v : TestVector) (c : Operation) : Prop where
  names : (v.lines.map Prod.fst).Perm (c.parameters.map Prod.fst)
  values : ∀ e ∈ v.lines, hexValue e.2.toList < modulus

/-- the value under a name -/
def field (v : TestVector) (name : String) : Field :=
  match (Bag.mk v.lines).get name with
  | some hex => felt (hexValue hex.toList)
  | none => 0

theorem canonicalSecrets_values {raws entries : List (String × String)}
    (h : List.Forall₂ CanonicalSecret raws entries) :
    ∃ es : List (String × FieldValue), entries = es.map fun e => (e.1, e.2.hex) := by
  induction h with
  | nil => exact ⟨[], rfl⟩
  | @cons raw entry raws entries hsecret _ ih =>
    obtain ⟨_, value, _, htext⟩ := hsecret
    obtain ⟨es, rfl⟩ := ih
    refine ⟨(entry.1, value.value) :: es, ?_⟩
    rw [List.map_cons, ← SecretValue.intoHex, ← htext]

/-- every value of a loaded vector is canonical, and there is one -/
theorem lines_values (h : v.Loaded) :
    v.lines ≠ [] ∧ ∃ es : List (String × FieldValue), v.lines = es.map fun e => (e.1, e.2.hex) := by
  obtain ⟨text, path, content, hload⟩ := h
  obtain ⟨_, _, raw, _, _, _, _, hwitness, _, _, hvalid⟩ := load_ok hload
  obtain ⟨hsecrets, _, _⟩ := RawWitness.intoWitness_ok hwitness
  refine ⟨fun hnil => (validateStructure_ok hvalid).1 (List.append_eq_nil_iff.mp hnil).1, ?_⟩
  obtain ⟨es, hes⟩ := canonicalSecrets_values hsecrets
  refine ⟨es ++ v.witness.pub.entries, ?_⟩
  rw [lines, hes, List.map_append]

/-- the circuit is the one of the operation -/
theorem Loaded.circuit (h : v.Loaded) : v.circuit.id = v.operation.asStr := by
  obtain ⟨text, path, content, hload⟩ := h
  obtain ⟨_, _, _, _, _, _, _, _, _, _, hvalid⟩ := load_ok hload
  obtain ⟨_, _, hvalid⟩ := bind_ok.mp hvalid
  obtain ⟨_, hcircuit, _⟩ := bind_ok.mp hvalid
  exact ensure_ok.mp hcircuit

end TestVector

theorem intercalate_newline (part : List Char) (parts : List (List Char)) :
    ['\n'].intercalate (part :: parts) ++ ['\n'] = (part :: parts).flatMap (· ++ ['\n']) := by
  induction parts generalizing part with
  | nil => simp
  | cons next parts ih =>
    rw [List.intercalate_cons_cons, List.append_assoc, ih, List.append_assoc]
    simp

theorem parameters_valid (c : Operation) :
    ∀ name ∈ c.parameters.map Prod.fst, validateName name = .ok () := by
  cases c <;> decide

theorem parameters_nodup (c : Operation) : (c.parameters.map Prod.fst).Nodup := by
  cases c <;> decide

/-- a line for each value, under its name -/
theorem assignments_lines {v : TestVector} (hloaded : v.Loaded)
    (hvalid : ∀ e ∈ v.lines, validateName e.1 = .ok ()) :
    Plain v.proverToml ∧ assignments v.proverToml = v.lines.map fun e => (e.1, e.2.toList) := by
  obtain ⟨hne, es, hes⟩ := TestVector.lines_values hloaded
  have hvalid : ∀ e ∈ es, validateName e.1 = .ok () := fun e he =>
    hvalid (e.1, e.2.hex) (hes ▸ List.mem_map.mpr ⟨e, he, rfl⟩)
  have htext : v.proverToml.toList = es.flatMap fun e => tomlLine (e.1, e.2.hex) ++ ['\n'] := by
    rw [TestVector.proverToml, String.toList_ofList, hes, List.map_map]
    obtain ⟨e, es, rfl⟩ := List.exists_cons_of_ne_nil
      (fun hnil => hne (by rw [hes, hnil]; rfl) : es ≠ [])
    rw [List.map_cons, intercalate_newline, ← List.map_cons, List.flatMap_map]
    rfl
  have hlines : Text.lines v.proverToml.toList = es.map fun e => tomlLine (e.1, e.2.hex) := by
    rw [htext]
    exact lines_flatMap (fun e he => newline_not_mem_tomlLine (hvalid e he))
      fun e _ => dropCr_tomlLine
  refine ⟨fun line hline => ?_, ?_⟩
  · rw [hlines] at hline
    obtain ⟨e, he, rfl⟩ := List.mem_map.mp hline
    exact ⟨e.1, _, assignment_tomlLine (hvalid e he), hvalid e he, e.2.isHexDigit_hex⟩
  · rw [assignments, hlines, hes, List.filterMap_map, List.map_map, ← List.filterMap_eq_map]
    exact List.filterMap_congr fun e he => assignment_tomlLine (hvalid e he)

/-- in any order, the values of a vector that fits are those of the parameters -/
theorem givesAll_of_perm {v : TestVector} {c : Operation} {toml : String} (hfits : v.Fits c)
    (h : (assignments toml).Perm (v.lines.map fun e => (e.1, e.2.toList))) :
    GivesAll toml c v.field where
  names := by
    have hnames := h.map Prod.fst
    rw [List.map_map] at hnames
    exact hnames.trans hfits.names
  values e he := by
    obtain ⟨e, hmem, rfl⟩ := List.mem_map.mp (h.mem_iff.mp he)
    have hnodup : (v.lines.map Prod.fst).Nodup :=
      hfits.names.nodup_iff.mpr (parameters_nodup c)
    show hexValue e.2.toList = (v.field e.1).val
    rw [TestVector.field, Bag.get_of_mem (b := ⟨v.lines⟩) hnodup hmem]
    exact (ZMod.val_natCast_of_lt (hfits.values _ hmem)).symm

/-- **what the file says**: the values of the vector, each name once -/
theorem assignments_proverToml {v : TestVector} {c : Operation} (hloaded : v.Loaded)
    (hfits : v.Fits c) : Plain v.proverToml ∧ GivesAll v.proverToml c v.field := by
  have hvalid : ∀ e ∈ v.lines, validateName e.1 = .ok () := fun e he =>
    parameters_valid c _ (hfits.names.mem_iff.mp (List.mem_map_of_mem he))
  obtain ⟨hplain, hassignments⟩ := assignments_lines hloaded hvalid
  exact ⟨hplain, givesAll_of_perm hfits (hassignments ▸ List.Perm.refl _)⟩

/-! ## one run -/

/-- where no witness was left, or it is removed, the run is that of `executeCaptured` -/
theorem Nargo.executeCapturedIn_fresh (nargo : Nargo) {dir : List String}
    {package toml name : String} {removed : Bool} {stale : Option (List UInt8)}
    (h : removed ∨ stale = none) :
    (nargo.executeCapturedIn dir package toml name removed stale).1
      = nargo.executeCaptured dir package toml name := by
  have hleft : (if removed then none else stale) = none := by
    rcases h with rfl | rfl <;> simp
  unfold executeCapturedIn executeCaptured
  rw [hleft]
  cases nargo.checkVersion with
  | error e => rfl
  | ok _ =>
    cases nargo.execute package toml with
    | error e => rfl
    | ok run =>
      by_cases hmissing : run.success ∧ run.witness.isNone
      · simp only [Option.or_none, if_pos hmissing]
        show _ = (ensure (¬ (run.success ∧ run.witness.isNone)) _ >>= _)
        rw [ensure_neg (not_not.mpr hmissing)]
      · simp only [Option.or_none, if_neg hmissing]
        show _ = (ensure (¬ (run.success ∧ run.witness.isNone)) _ >>= _)
        rw [ensure_pos hmissing]
        rfl

section
variable {nargo : Nargo} {std : Std} {c : Operation} {v : TestVector}

/-- a printed value is read as the field element -/
theorem PrintsValue.denotes {text : List Char} {x : Field} (h : PrintsValue text x) :
    Denotes (String.ofList (text.map lower)) x.val := by
  obtain ⟨digits, rfl, hpos, hlen, hall, hvalue⟩ := h
  refine ⟨digits.map lower, ⟨Or.inr ?_, ?_, ?_, ?_⟩, ?_⟩
  · rw [String.toList_ofList]
    rfl
  · rwa [List.length_map]
  · rwa [List.length_map]
  · intro d hd
    obtain ⟨digit, hdigit, rfl⟩ := List.mem_map.mp hd
    exact isHexDigit_of_lower (isLowerHex_lower (List.all_eq_true.mp hall digit hdigit))
  · rw [hexValue_map_lower hall, hvalue]

theorem PrintsValue.isHexValue {text : List Char} {x : Field} (h : PrintsValue text x) :
    IsHexValue text := by
  obtain ⟨digits, rfl, _, _, hall, _⟩ := h
  exact ⟨'x', digits, Or.inl rfl, rfl, hall⟩

/-- what is printed is read back, in order -/
theorem parseStdout_of_prints {stdout : String} {returned : List Field}
    (h : Prints stdout returned) : ∃ values, ReportedOutputs.parseStdout stdout = some ⟨values⟩ ∧
      List.Forall₂ (fun text x => Denotes text x.val) values returned := by
  unfold Prints at h
  split at h
  · next hnil =>
    subst hnil
    refine ⟨[], ?_, .nil⟩
    rw [ReportedOutputs.parseStdout, h]
  · obtain ⟨lead, texts, hlead, hline, htexts⟩ := h
    refine ⟨texts.map fun text => String.ofList (text.map lower), ?_, ?_⟩
    · have hall : ∀ text ∈ texts, IsHexValue text := fun text htext => by
        obtain ⟨x, _, hx⟩ := exists_of_forall₂ htexts htext
        exact hx.isHexValue
      rw [ReportedOutputs.parseStdout, hline]
      simp only [extractParenthesizedHex_tuple hlead hall, Option.map_some]
    · exact List.forall₂_map_left_iff.mpr (htexts.imp fun _ _ h => h.denotes)

/-- **One vector, in a package that earlier runs have used**: the verdict is what `main` does on
its values. -/
theorem executeVector_eq (hnargo : nargo.RunsCircuits std) {io : TierIo} (hwrite : io.write = none)
    (hloaded : v.Loaded) (hfits : v.Fits c) (s : CircuitScratch) :
    ∃ verdict s', executeVector nargo c.asStr io v s = (.ok verdict, s') ∧
      (∀ returned, c.call std v.field = .ok returned → verdict.solved = true ∧
        List.Forall₂ (fun text x => Denotes text x.val) verdict.reported.values returned) ∧
      ∀ e, c.call std v.field = .error e → verdict.solved = false := by
  obtain ⟨hplain, hgives⟩ := assignments_proverToml hloaded hfits
  obtain ⟨run, hrun, hok, herror⟩ := hnargo.runs c v.proverToml v.field hplain hgives
  have hexec (hwitness : ¬ (run.success ∧ (run.witness.or
      (if io.removed then none else s.witness)).isNone)) {reported : ReportedOutputs}
      (hparse : ReportedOutputs.parseStdout run.stdout = some reported) :
      ∃ s', executeVector nargo c.asStr io v s = (.ok ⟨run.success, reported⟩, s') := by
    simp only [executeVector, hwrite, CircuitScratch.execute, Nargo.executeCapturedIn,
      hnargo.supported, hrun, if_neg hwitness, Except.mapError, hparse]
    exact ⟨_, rfl⟩
  cases hcall : c.call std v.field with
  | ok returned =>
    obtain ⟨hsuccess, hwitness, hprints⟩ := hok returned hcall
    obtain ⟨values, hparse, hvalues⟩ := parseStdout_of_prints hprints
    obtain ⟨bytes, hbytes⟩ := Option.isSome_iff_exists.mp hwitness
    obtain ⟨s', hs'⟩ := hexec (fun h => by rw [hbytes] at h; cases h.2) hparse
    refine ⟨_, s', hs', fun other heq => ?_, fun e h => by cases h⟩
    obtain rfl := Except.ok.inj heq
    exact ⟨hsuccess, hvalues⟩
  | error e =>
    obtain ⟨hfail, hnone⟩ := herror e hcall
    have hparse : ReportedOutputs.parseStdout run.stdout = some ⟨[]⟩ := by
      rw [ReportedOutputs.parseStdout, hnone]
    obtain ⟨s', hs'⟩ := hexec (fun h => by rw [hfail] at h; cases h.1) hparse
    exact ⟨_, s', hs', fun other heq => (by cases heq), fun _ _ => hfail⟩

/-- the outputs match when each is read as the value at its position -/
theorem assertOutputsMatch_ok {quote : String → String} {reported : ReportedOutputs} :
    assertOutputsMatch quote v reported = .ok () ↔
      List.Forall₂ (fun e hex => FieldValue.fromHex hex = .ok e.2)
        v.expectedPublicOutputs.entries reported.values := by
  rw [List.forall₂_iff_zip]
  simp only [assertOutputsMatch, bind_ok, ensure_ok, exists_const, forM_ok, mapError_ok]
  refine and_congr_right fun _ => ⟨fun h e hex hmem => ?_, fun h pair hmem => ?_⟩
  · obtain ⟨value, hvalue, rfl⟩ := h (e, hex) hmem
    exact hvalue
  · exact ⟨pair.1.2, h hmem, rfl⟩

/-- the values that are read are the expected ones when their numbers are -/
theorem outputs_match_iff {quote : String → String} {reported : ReportedOutputs}
    {returned : List Field}
    (h : List.Forall₂ (fun text x => Denotes text x.val) reported.values returned) :
    assertOutputsMatch quote v reported = .ok () ↔
      v.expectedPublicOutputs.entries.map (fun e => e.2.number) = returned.map ZMod.val := by
  rw [assertOutputsMatch_ok]
  generalize v.expectedPublicOutputs.entries = expected
  generalize reported.values = texts at h
  induction h generalizing expected with
  | nil =>
    rw [List.forall₂_nil_right_iff, List.map_nil, List.map_eq_nil_iff]
  | @cons text x texts xs hx _ ih =>
    rw [List.forall₂_cons_right_iff, List.map_cons, List.map_eq_cons_iff]
    constructor
    · rintro ⟨e, rest, hread, hrest, rfl⟩
      exact ⟨e, rest, rfl, hx.number_eq hread, (ih rest).mp hrest⟩
    · rintro ⟨e, rest, rfl, hnumber, hrest⟩
      exact ⟨e, rest, FieldValue.fromHex_ok.mpr (hnumber ▸ hx), (ih rest).mpr hrest, rfl⟩

/-! ## the tests -/

variable {quote : String → String} {runs : List (TierIo × TestVector)}

/-- what a test may rely on, of each vector -/
structure Runnable (c : Operation) (q : TierIo × TestVector) : Prop where
  write : q.1.write = none
  loaded : q.2.Loaded
  fits : q.2.Fits c

theorem validTier_iff (hnargo : nargo.RunsCircuits std) (h : ∀ q ∈ runs, Runnable c q)
    (s : CircuitScratch) : validTier nargo quote c.asStr runs s = .ok () ↔
      ∀ q ∈ runs, ∃ returned, c.call std q.2.field = .ok returned ∧
        q.2.expectedPublicOutputs.entries.map (fun e => e.2.number)
          = returned.map ZMod.val := by
  induction runs generalizing s with
  | nil => exact iff_of_true rfl fun _ h => absurd h List.not_mem_nil
  | cons q runs ih =>
    obtain ⟨io, v⟩ := q
    obtain ⟨hq, hruns⟩ := List.forall_mem_cons.mp h
    obtain ⟨verdict, s', hrun, hok, herror⟩ :=
      executeVector_eq hnargo hq.write hq.loaded hq.fits s
    rw [validTier, List.forall_mem_cons, ← ih hruns s', hrun]
    simp only [bind_ok, mapError_ok, ensure_ok, Except.ok.injEq, exists_eq_left', exists_const]
    constructor
    · rintro ⟨hsolved, ⟨⟩, hmatch, hrest⟩
      refine ⟨?_, hrest⟩
      cases hcall : c.call std v.field with
      | error e =>
        rw [herror e hcall] at hsolved
        cases hsolved
      | ok returned => exact ⟨returned, rfl, (outputs_match_iff (hok returned hcall).2).mp hmatch⟩
    · rintro ⟨⟨returned, hcall, hexpected⟩, hrest⟩
      obtain ⟨hsolved, hvalues⟩ := hok returned hcall
      exact ⟨hsolved, (), (outputs_match_iff hvalues).mpr hexpected, hrest⟩

theorem rejectTier_iff (hnargo : nargo.RunsCircuits std) (h : ∀ q ∈ runs, Runnable c q)
    (s : CircuitScratch) : rejectTier nargo c.asStr runs s = .ok () ↔
      ∀ q ∈ runs, ¬ ∃ returned, c.call std q.2.field = .ok returned := by
  induction runs generalizing s with
  | nil => exact iff_of_true rfl fun _ h => absurd h List.not_mem_nil
  | cons q runs ih =>
    obtain ⟨io, v⟩ := q
    obtain ⟨hq, hruns⟩ := List.forall_mem_cons.mp h
    obtain ⟨verdict, s', hrun, hok, herror⟩ :=
      executeVector_eq hnargo hq.write hq.loaded hq.fits s
    rw [rejectTier, List.forall_mem_cons, ← ih hruns s', hrun]
    simp only [bind_ok, mapError_ok, ensure_ok, Except.ok.injEq, exists_eq_left', exists_const]
    refine and_congr_left fun _ => ⟨?_, fun hnone => ?_⟩
    · rintro hunsolved ⟨returned, hcall⟩
      exact hunsolved (hok returned hcall).1
    · cases hcall : c.call std v.field with
      | error e =>
        rw [herror e hcall]
        exact Bool.false_ne_true
      | ok returned => exact absurd ⟨returned, hcall⟩ hnone

section
variable {prepare : String → Except String CircuitScratch} {keep : TestVector → Bool}
  {test : String → List (TierIo × TestVector) → CircuitScratch → Except (Fault String) Unit}
  {P : Operation → TestVector → Prop}

theorem testCircuit_iff (htest : ∀ s kept, (∀ q ∈ kept, Runnable c q) →
      (test c.asStr kept s = .ok () ↔ ∀ q ∈ kept, P c q.2))
    (hprepare : ∃ s, prepare c.asStr = .ok s) (h : ∀ q ∈ runs, Runnable c q) :
    testCircuit quote prepare keep test c.asStr runs = .ok () ↔
      ∀ q ∈ runs, keep q.2 → P c q.2 := by
  obtain ⟨scratch, hscratch⟩ := hprepare
  have hkept : (∀ q ∈ runs.filter fun q => keep q.2, P c q.2) ↔
      ∀ q ∈ runs, keep q.2 → P c q.2 := by
    simp only [List.mem_filter, and_imp]
  rw [← hkept, testCircuit]
  split
  · next hempty =>
    rw [List.isEmpty_iff.mp hempty]
    exact iff_of_true rfl fun _ h => absurd h List.not_mem_nil
  · rw [hscratch]
    exact htest scratch _ fun q hq => h q (List.mem_of_mem_filter hq)

/-- a test passes when each vector that it keeps does what its loop asks for -/
theorem eachCircuit_iff (htest : ∀ (c : Operation) s kept, (∀ q ∈ kept, Runnable c q) →
      (test c.asStr kept s = .ok () ↔ ∀ q ∈ kept, P c q.2))
    (hprepare : ∀ q ∈ runs, ∃ s, prepare q.2.circuit.id = .ok s) {keys : List String}
    (hkeys : ∀ op, op ∈ keys ↔ ∃ q ∈ runs, q.2.circuit.id = op)
    (h : ∀ q ∈ runs, Runnable q.2.operation q) :
    eachCircuit quote prepare keep test (groupByOperation keys runs) = .ok () ↔
      ∀ q ∈ runs, keep q.2 → P q.2.operation q.2 := by
  have hgroup (c : Operation) (hscratch : ∃ s, prepare c.asStr = .ok s) :
      testCircuit quote prepare keep test c.asStr
        (runs.filter fun q => q.2.circuit.id = c.asStr) = .ok () ↔
        ∀ q ∈ runs, q.2.operation = c → keep q.2 → P c q.2 := by
    have hmem (q : TierIo × TestVector) : q ∈ runs.filter (fun q => q.2.circuit.id = c.asStr) ↔
        q ∈ runs ∧ q.2.operation = c := by
      rw [List.mem_filter, decide_eq_true_eq]
      refine and_congr_right fun hq => ?_
      rw [(h q hq).loaded.circuit]
      exact ⟨Operation.asStr_injective, congrArg Operation.asStr⟩
    rw [testCircuit_iff (htest c) hscratch fun q hq => by
      obtain ⟨hin, rfl⟩ := (hmem q).mp hq
      exact h q hin]
    simp only [hmem, and_imp]
  have hscratch : ∀ q ∈ runs, ∃ s, prepare q.2.operation.asStr = .ok s := by
    intro q hq
    rw [← (h q hq).loaded.circuit]
    exact hprepare q hq
  rw [eachCircuit, groupByOperation, forM_ok, List.forall_mem_map]
  constructor
  · intro hall q hq
    have hop := hall _ ((hkeys _).mpr ⟨q, hq, (h q hq).loaded.circuit⟩)
    exact (hgroup _ (hscratch q hq)).mp hop q hq rfl
  · intro hall op hop
    obtain ⟨q, hq, rfl⟩ := (hkeys op).mp hop
    rw [(h q hq).loaded.circuit]
    refine (hgroup _ (hscratch q hq)).mpr fun q' hq' heq => ?_
    exact heq ▸ hall q' hq'

/-- `main` accepts the values of the vector, and returns what is expected -/
def TestVector.SolvesAsExpected (std : Std) (v : TestVector) : Prop :=
  ∃ returned, v.operation.call std v.field = .ok returned ∧
    v.expectedPublicOutputs.entries.map (fun e => e.2.number) = returned.map ZMod.val

/-- **The circuit tier decides what the circuits of the source do**: whatever order the groups have
and whatever the runs leave in their packages, the first test passes exactly when `main` accepts the
values of every vector that should verify and returns the outputs it expects, and the second exactly
when it refuses the values of every other vector. -/
theorem circuit_tier_iff {ws : CircuitSources} {root : List String}
    {temp : String → Except String (List String)} (hnargo : nargo.RunsCircuits std)
    (hprepare : ∀ q ∈ runs, ∃ s, scratchOf ws root temp q.2.circuit.id = .ok s) {keys : List String}
    (hkeys : ∀ op, op ∈ keys ↔ ∃ q ∈ runs, q.2.circuit.id = op)
    (h : ∀ q ∈ runs, Runnable q.2.operation q) :
    (circuitTierValid nargo quote ws root temp (groupByOperation keys runs) = .ok () ↔
      ∀ q ∈ runs, q.2.expectVerification → q.2.SolvesAsExpected std) ∧
    (circuitTierRejects nargo quote ws root temp (groupByOperation keys runs) = .ok () ↔
      ∀ q ∈ runs, q.2.expectVerification = false →
        ∀ returned, q.2.operation.call std q.2.field ≠ .ok returned) := by
  constructor
  · exact eachCircuit_iff (P := fun c v => ∃ returned, c.call std v.field = .ok returned ∧
      v.expectedPublicOutputs.entries.map (fun e => e.2.number) = returned.map ZMod.val)
      (fun c s kept hkept => validTier_iff hnargo hkept s) hprepare hkeys h
  · refine (eachCircuit_iff (P := fun c v => ¬ ∃ returned, c.call std v.field = .ok returned)
      (fun c s kept hkept => rejectTier_iff hnargo hkept s) hprepare hkeys h).trans ?_
    simp only [Bool.not_eq_true', not_exists, ne_eq]

end

end

/-! ## the source's circuits, run -/

/-- a field element as 64 digits -/
def printField (x : Field) : List Char :=
  '0' :: 'x' :: padLeft '0' 64 ((Nat.digits 16 x.val).reverse.map hexDigit)

/-- the value of the first assignment to the name -/
def assigned (toml name : String) : Field :=
  felt (hexValue (((Bag.mk (assignments toml)).get name).getD []))

/-- what `nargo` reports of a call of `main` -/
def reportCall : Except String (List Field) → NargoRun
  | .ok returned =>
    { success := true
      code := some 0
      stdout := if returned = [] then ""
        else String.ofList (tupleLine [] (returned.map printField) ++ ['\n'])
      witness := some [] }
  | .error _ => { success := false, code := some 1, stdout := "", witness := none }

/-- runs the circuits of the source over `std` -/
def circuitNargo (std : Std) : Nargo where
  binary := some "nargo"
  version := .ok { raw := "1.0.0-beta.26", major := 1 }
  execute package toml :=
    (Operation.ofName package).map fun c => reportCall (c.call std (assigned toml))

theorem printField_prints (x : Field) : PrintsValue (printField x) x := by
  have hlt : ∀ d ∈ Nat.digits 16 x.val, d < 16 := fun d hd => Nat.digits_lt_base (by decide) hd
  have hall : ((Nat.digits 16 x.val).reverse.map hexDigit).all isLowerHex := by
    simp only [List.all_eq_true, List.mem_map, List.mem_reverse]
    rintro _ ⟨d, hd, rfl⟩
    exact hexDigit_isLowerHex (hlt d hd)
  have hlen : ((Nat.digits 16 x.val).reverse.map hexDigit).length ≤ 64 := by
    rw [List.length_map, List.length_reverse]
    exact (Nat.digits_length_le_iff (by decide) _).mpr ((ZMod.val_lt x).trans (by decide))
  refine ⟨_, rfl, ?_, (length_padLeft hlen).le, isHexDigit_padLeft (all_isHexDigit hall), ?_⟩
  · rw [length_padLeft hlen]
    decide
  · have hdigits : (Nat.digits 16 x.val).map (digitValue ∘ hexDigit) = Nat.digits 16 x.val :=
      (List.map_congr_left fun d hd => digitValue_hexDigit (hlt d hd)).trans (List.map_id _)
    rw [hexValue_padLeft, hexValue, ← List.map_reverse, List.reverse_reverse, List.map_map,
      hdigits, Nat.ofDigits_digits]

theorem call_congr {std : Std} {c : Operation} {v w : String → Field}
    (h : ∀ q ∈ c.parameters, v q.1 = w q.1) : c.call std v = c.call std w := by
  cases c <;>
  · simp only [Operation.parameters, List.forall_mem_cons] at h
    simp only [Operation.call, Operation.execution, h]

theorem call_assigned {std : Std} {c : Operation} {toml : String} {v : String → Field}
    (h : GivesAll toml c v) : c.call std (assigned toml) = c.call std v := by
  refine call_congr fun q hq => ?_
  have hmem : q.1 ∈ (assignments toml).map Prod.fst :=
    h.names.mem_iff.mpr (List.mem_map_of_mem hq)
  obtain ⟨e, he, hname⟩ := List.mem_map.mp hmem
  have hget : (Bag.mk (assignments toml)).get e.1 = some e.2 :=
    Bag.get_of_mem (b := ⟨assignments toml⟩) (h.names.nodup_iff.mpr (parameters_nodup c)) he
  rw [assigned, ← hname, hget, Option.getD_some, h.values e he]
  exact ZMod.natCast_zmod_val (v e.1)

theorem newline_not_mem_tupleLine {values : List (List Char)}
    (h : ∀ value ∈ values, IsHexValue value) : '\n' ∉ tupleLine [] values := by
  have hvalue : ∀ value ∈ values, '\n' ∉ value := by
    intro value hvalue hmem
    obtain ⟨x, digits, hx, rfl, hdigits⟩ := h value hvalue
    rcases List.mem_cons.mp hmem with heq | hmem
    · cases heq
    · rcases List.mem_cons.mp hmem with heq | hmem
      · rcases hx with rfl | rfl <;> cases heq
      · exact absurd (List.all_eq_true.mp hdigits _ hmem) (by decide)
  have hvalues : '\n' ∉ ", ".toList.intercalate values := by
    induction values with
    | nil => exact List.not_mem_nil
    | cons value values ih =>
      cases values with
      | nil => simpa using hvalue value List.mem_cons_self
      | cons next values =>
        have hrest := ih (fun v hv => h v (List.mem_cons_of_mem _ hv))
          fun v hv => hvalue v (List.mem_cons_of_mem _ hv)
        rw [List.intercalate_cons_cons]
        simp only [List.mem_append, not_or]
        exact ⟨⟨hvalue value List.mem_cons_self, by decide⟩, hrest⟩
  simp only [tupleLine, List.nil_append, List.mem_append, List.mem_cons, not_or]
  exact ⟨by decide, by decide, by decide, hvalues, by decide⟩

theorem outputLine_tuple {values : List (List Char)} (h : ∀ value ∈ values, IsHexValue value) :
    outputLine (String.ofList (tupleLine [] values ++ ['\n'])) = some (tupleLine [] values) := by
  have hcr : dropCr (tupleLine [] values) = tupleLine [] values := by
    have hend : tupleLine [] values
        = (outputMarker ++ ' ' :: '(' :: ", ".toList.intercalate values) ++ [')'] := by
      simp only [tupleLine, List.nil_append, List.append_assoc, List.cons_append]
    rw [hend]
    exact dropCr_of_ne (by decide)
  have hlines : lines (tupleLine [] values ++ ['\n']) = [tupleLine [] values] := by
    rw [lines_cons (newline_not_mem_tupleLine h), hcr, lines_nil]
  rw [outputLine, String.toList_ofList, hlines]
  exact List.find?_cons_of_pos rfl

theorem reportCall_prints (returned : List Field) :
    Prints (reportCall (.ok returned)).stdout returned := by
  by_cases hnil : returned = []
  · subst hnil
    rfl
  · have hprints : List.Forall₂ PrintsValue (returned.map printField) returned :=
      List.forall₂_map_left_iff.mpr (List.forall₂_same.mpr fun x _ => printField_prints x)
    have hvalues : ∀ value ∈ returned.map printField, IsHexValue value := fun value hvalue => by
      obtain ⟨x, _, hx⟩ := exists_of_forall₂ hprints hvalue
      exact hx.isHexValue
    rw [Prints, if_neg hnil]
    refine ⟨[], _, List.not_mem_nil, ?_, hprints⟩
    rw [reportCall, if_neg hnil]
    exact outputLine_tuple hvalues

theorem circuitNargo_runs (std : Std) : (circuitNargo std).RunsCircuits std where
  supported := rfl
  runs c toml v _ hgives := by
    have hname : Operation.ofName c.asStr = .ok c := by cases c <;> rfl
    have hrun : (circuitNargo std).execute c.asStr toml = .ok (reportCall (c.call std v)) := by
      show (Operation.ofName c.asStr).map _ = _
      rw [← call_assigned hgives, hname]
      rfl
    refine ⟨_, hrun, fun returned hcall => ?_, fun e hcall => ?_⟩
    · rw [hcall]
      exact ⟨rfl, rfl, reportCall_prints returned⟩
    · rw [hcall]
      exact ⟨rfl, rfl⟩

theorem new_commitment_canonical : Canonical maxHexLen
    "2ada0e1d82b51171a820c69368c30cba60b0bfec8537ef5b84d09f99ed50dce9".toList := by decide

theorem nullifier_canonical : Canonical maxHexLen
    "2c90bd0611da2c636e3c6c872866e363641a0ed7c3e063384311fa2add839740".toList := by decide

theorem stranger_canonical : Canonical maxHexLen
    "1ce5e69979131d8a3a1e3aa8ce0e39ce0f0e17b3de32aed85907b1adfa7a8e22".toList := by decide

/-- the recorded deposit, without the root that its circuit does not see -/
def depositVector : TestVector where
  id := "deposit-valid-001"
  operation := .deposit
  category := "valid"
  description := none
  circuit := ⟨"deposit"⟩
  circuitVersion := ⟨0, 1, 0⟩
  witness :=
    { operation := .deposit
      priv := ((((SortedMap.empty.insert "account_sk" "1234").insert "old_amount" "3e8").insert
        "old_blinding" "5").insert "amount" "1f4").insert "blinding" "9"
      pub := depositInputs }
  expectedPublicOutputs := ⟨[("new_commitment", ⟨_, new_commitment_canonical⟩),
    ("nullifier", ⟨_, nullifier_canonical⟩)]⟩
  stateReference := none
  expectVerification := true

/-- the recorded registration, under the address of another key -/
def strangerVector : TestVector where
  id := "register-wrong-owner-001"
  operation := .register
  category := "wrong-owner"
  description := none
  circuit := ⟨"register"⟩
  circuitVersion := ⟨0, 1, 0⟩
  witness :=
    { operation := .register
      priv := SortedMap.empty.insert "account_sk" "1234"
      pub := ⟨[("account_address", ⟨_, stranger_canonical⟩)]⟩ }
  expectedPublicOutputs := .new
  stateReference := none
  expectVerification := false

/-- the file of a vector -/
def TestVector.raw (v : TestVector) : RawVector :=
  let bag (b : PublicInputBag) : RawBag := ⟨b.entries.map fun e => (e.1, e.2.hex)⟩
  { id := v.id, operation := v.operation, category := v.category, description := v.description
    circuit := v.circuit, circuitVersion := v.circuitVersion
    witness :=
      { operation := v.witness.operation, priv := v.witness.priv, pub := bag v.witness.pub }
    expectedOutputs := bag v.expectedPublicOutputs, stateReference := v.stateReference
    expectVerification := v.expectVerification }

def loadRaw (raw : RawVector) : Except (Fault String) TestVector :=
  let text := JsonText.knowing (toJson raw)
  TestVector.load text "vector.json" (.ok (text.write (toJson raw)))

theorem deposit_loaded : loadRaw depositVector.raw = .ok depositVector := by decide +kernel

theorem stranger_loaded : loadRaw strangerVector.raw = .ok strangerVector := by decide +kernel

theorem deposit_call : Operation.deposit.call Std.vectors depositVector.field
    = .ok [felt 0x2ada0e1d82b51171a820c69368c30cba60b0bfec8537ef5b84d09f99ed50dce9,
      felt 0x2c90bd0611da2c636e3c6c872866e363641a0ed7c3e063384311fa2add839740] := by
  decide +kernel

theorem deposit_fits : depositVector.Fits .deposit where
  names := by decide +kernel
  values := by decide +kernel

theorem stranger_fits : strangerVector.Fits .register where
  names := by decide +kernel
  values := by decide +kernel

/-- the address is that of another key -/
theorem stranger_refused (returned : List Field) :
    strangerVector.operation.call Std.vectors strangerVector.field ≠ .ok returned := by
  have h : strangerVector.operation.call Std.vectors strangerVector.field
      = .error "account secret does not match the address" := by decide +kernel
  rw [h]
  nofun

theorem deposit_solves : depositVector.SolvesAsExpected Std.vectors :=
  ⟨_, deposit_call, by decide +kernel⟩

def recordedRuns : List (TierIo × TestVector) :=
  [(⟨none, false⟩, depositVector), (⟨none, false⟩, strangerVector)]

theorem recorded_runnable : ∀ q ∈ recordedRuns, Runnable q.2.operation q := by
  refine List.forall_mem_cons.mpr ⟨?_, List.forall_mem_cons.mpr ⟨?_, List.forall_mem_nil _⟩⟩
  · exact ⟨rfl, ⟨_, _, _, deposit_loaded⟩, deposit_fits⟩
  · exact ⟨rfl, ⟨_, _, _, stranger_loaded⟩, stranger_fits⟩

theorem recorded_keys (op : String) :
    op ∈ ["register", "deposit"] ↔ ∃ q ∈ recordedRuns, q.2.circuit.id = op := by
  simp only [recordedRuns, List.mem_cons, List.not_mem_nil, or_false, exists_eq_or_imp,
    exists_eq_left]
  exact ⟨fun h => h.symm.imp Eq.symm Eq.symm, fun h => h.symm.imp Eq.symm Eq.symm⟩

/-- a package, with a witness that an earlier run has left in it -/
def usedPackage : Node :=
  .dir [(nameOf "Nargo.toml", .file (.ok [])),
    (nameOf "src", .dir [(nameOf "main.nr", .file (.ok [0x66, 0x6e]))] none),
    (nameOf "target", .dir [(nameOf "vector.gz", .file (.ok []))] none)] none

/-- two such packages and the library, with the bytecode of one -/
def usedSources : CircuitSources where
  circuits :=
    .dir [(nameOf "register", usedPackage), (nameOf "deposit", usedPackage),
      (nameOf "lib", .dir [(nameOf "Nargo.toml", .file (.ok []))] none),
      (nameOf "target", .dir [(nameOf "deposit.json", .file (.ok [0x7b]))] none)] none
  io := { createFails := fun _ => none, copyFails := fun _ => none }

/-- the directory of a package -/
def usedTemp (op : String) : Except String (List String) := .ok ["tmp", op ++ "-package"]

theorem usedScratch_prepared :
    ∀ q ∈ recordedRuns, scratchOf usedSources ["circuits"] usedTemp q.2.circuit.id
      = .ok { packageDir := ["tmp", q.2.circuit.id ++ "-package", q.2.circuit.id], toml := none
              witness := some [] } := by
  refine List.forall_mem_cons.mpr ⟨?_, List.forall_mem_cons.mpr ⟨?_, List.forall_mem_nil _⟩⟩ <;>
    decide +kernel

/-- both tests pass on the two vectors, where a witness is left in the packages and stays there -/
theorem circuit_tier_iff_recorded :
    circuitTierValid (circuitNargo Std.vectors) id usedSources ["circuits"] usedTemp
        (groupByOperation ["register", "deposit"] recordedRuns) = .ok () ∧
      circuitTierRejects (circuitNargo Std.vectors) id usedSources ["circuits"] usedTemp
        (groupByOperation ["register", "deposit"] recordedRuns) = .ok () := by
  have hprepare : ∀ q ∈ recordedRuns,
      ∃ s, scratchOf usedSources ["circuits"] usedTemp q.2.circuit.id = .ok s :=
    fun q hq => ⟨_, usedScratch_prepared q hq⟩
  have hnargo := circuitNargo_runs Std.vectors
  refine ⟨(circuit_tier_iff hnargo hprepare recorded_keys recorded_runnable).1.mpr ?_,
    (circuit_tier_iff hnargo hprepare recorded_keys recorded_runnable).2.mpr ?_⟩
  · refine List.forall_mem_cons.mpr ⟨fun _ => deposit_solves, ?_⟩
    exact List.forall_mem_cons.mpr ⟨fun h => (by cases h), List.forall_mem_nil _⟩
  · refine List.forall_mem_cons.mpr ⟨fun h => (by cases h), ?_⟩
    exact List.forall_mem_cons.mpr ⟨fun _ => stranger_refused, List.forall_mem_nil _⟩

end Crucible
