import Crucible.Cli.Vectors
import Crucible.Lib.Buffered
import Crucible.Mock.Secrets
import Crucible.Vectors.CircuitTier

/-!
# The `witness build` command (`cli/src/commands/witness.rs`, `crates/witness/src/encoder.rs`)

The witness of a vector is written to a restricted file, or only summed up.  What is printed is for
everyone to read, the file is for its owner.

* `RestrictedFile`, `OutputPlace`   a file with its permission bits, and where a path can lead;
* `writeRestricted`          writing a file; one that was there keeps its bits;
* `runBuild`                 what the command prints or why not, and what it leaves;
* `TestVector.publicPart`    a vector without its private values;
* `vector_values_hidden`     neither this command nor `vectors run` shows more than that;
* `witness_build_file`       what the file says, and who can read it.
-/

namespace Crucible
open Checked Serde Text Function

/-! ## restricted files -/

/-- a regular file, with its permission bits -/
structure RestrictedFile where
  mode : BitVec 9
  content : List UInt8
deriving DecidableEq

/-- where an output path leads -/
inductive OutputPlace where
  /-- nowhere yet: opening it makes a file -/
  | vacant
  /-- a regular file, to which neither stdout nor stderr goes -/
  | file (file : RestrictedFile)
  /-- a device or a pipe, which keeps nothing -/
  | device
  /-- where stdout or stderr goes: what is written there is shown -/
  | console
deriving DecidableEq

/-- the file there -/
def OutputPlace.regular : OutputPlace → Option RestrictedFile
  | .file old => some old
  | _ => none

/-- a regular file is there, or can be made there -/
def OutputPlace.Writable (place : OutputPlace) : Prop := place ≠ .device ∧ place ≠ .console

/-- what a run leaves: the bytes that it has shown by way of its output path, and what is at that
path -/
structure BuildLeft where
  shown : List UInt8
  place : OutputPlace

/-- how the calls for one file end -/
structure RestrictedIo where
  umask : BitVec 9
  /-- why the file cannot be opened -/
  opening : Option String
  writing : Option Buffered.Stop
  syncing : Option String

/-- `open_for_witness`, on Unix -/
def openForWitness (umask : BitVec 9) : Option RestrictedFile → RestrictedFile
  | some file => { file with content := [] }
  | none => { mode := 0o600 &&& ~~~umask, content := [] }

/-- the bytes, after the place was opened -/
def OutputPlace.receive (umask : BitVec 9) (bytes : List UInt8) : OutputPlace → BuildLeft
  | .device => ⟨[], .device⟩
  | .console => ⟨bytes, .console⟩
  | place => ⟨[], .file { openForWitness umask place.regular with content := bytes }⟩

def writeRestricted (contents : List UInt8) (io : RestrictedIo) (place : OutputPlace) :
    Except String Unit × BuildLeft :=
  match io.opening, io.writing, io.syncing with
  | some reason, _, _ => (.error reason, ⟨[], place⟩)
  | none, some stop, _ => (.error stop.reason, place.receive io.umask (contents.take stop.written))
  | none, none, some reason => (.error reason, place.receive io.umask contents)
  | none, none, none => (.ok (), place.receive io.umask contents)

def writeProverToml (data : WitnessData) (io : RestrictedIo) (place : OutputPlace) :
    Except Witness.WitnessError Unit × BuildLeft :=
  let (answer, left) := writeRestricted (encodeToml data).toUTF8.data.toList io place
  (answer.mapError .io, left)

/-- no one but the owner may do anything with it -/
def RestrictedFile.Restricted (file : RestrictedFile) : Prop := file.mode &&& 0o077 = 0

/-! ## the command -/

structure BuildArgs where
  op : String
  vector : List String
  out : Option (List String)

/-- the witness of a loaded vector -/
def buildWitness (op : String) (vector : TestVector) : Except (Fault String) WitnessData := do
  ensure (vector.operation.asStr = op) (.error
    (s!"operation `{op}` does not match vector `{vector.id}` (operation " ++
      s!"{vector.operation.asStr})"))
  let r ← fromOption .panic vector.toRequest
  r.validate.mapError (.map fun e => s!"request is structurally invalid: {e.message}")
  return .fromRequest r

/-- public values, and private names -/
def printSummary (vector : TestVector) (witness : WitnessData) : List String :=
  [s!"vector      {vector.id} ({vector.category})",
    s!"operation   {witness.operation.asStr}",
    s!"public      {witness.publicInputs.entries.length} value(s)"] ++
  (witness.publicInputs.entries.map fun e => s!"  {e.1} = {e.2.hex}") ++
  [s!"private     {witness.priv.len} value(s)"] ++
  (witness.priv.names.map fun name => s!"  {name} (redacted)") ++
  match vector.stateReference with
  | some state => [s!"state       root {state.root.hex} seq {state.sequence.toNat}"]
  | none => []

section
variable (io : RestrictedIo) (place : OutputPlace)

/-- the witness is written, where a file is asked for -/
def emitWitness (out : Option (List String)) (witness : WitnessData) :
    Except (Fault String) String × BuildLeft :=
  match out with
  | some path =>
    let (answer, left) := writeProverToml witness io place
    (do
      answer.mapError fun e =>
        Fault.error s!"cannot write witness `{displayPath path}`: {e.message}"
      return s!"wrote {displayPath path} (private values, 0600)", left)
  | none => (.ok "summary only; pass --out <path> to write a Prover.toml", ⟨[], place⟩)

/-- `run_build`: the lines that are printed or why not, and what is left -/
def runBuild (text : JsonText) (args : BuildArgs) (content : Except String (List UInt8)) :
    Except (Fault String) (List String) × BuildLeft :=
  let path := displayPath args.vector
  match (TestVector.load text path content).mapError
    (Fault.map fun e => s!"cannot load vector `{path}`: {e}") with
  | .error e => (.error e, ⟨[], place⟩)
  | .ok vector =>
    match buildWitness args.op vector with
    | .error e => (.error e, ⟨[], place⟩)
    | .ok witness =>
      let (line, left) := emitWitness io place args.out witness
      (line.map (· :: printSummary vector witness), left)

end

/-! ## without the private values -/

namespace TestVector
variable {v v' : TestVector}

/-- the vector without its private values, and their names -/
def publicPart (v : TestVector) : TestVector × List String :=
  ({ v with witness := { v.witness with priv := .empty } }, v.witness.priv.keys)

theorem eq_withPriv (h : v.publicPart = v'.publicPart) :
    v' = { v with witness := { v.witness with priv := v'.witness.priv } } ∧
      v'.witness.priv.keys = v.witness.priv.keys := by
  obtain ⟨hvector, hkeys⟩ := Prod.mk.inj h
  refine ⟨?_, hkeys.symm⟩
  cases v
  cases v'
  simp only [mk.injEq, Witness.mk.injEq] at hvector ⊢
  obtain ⟨rfl, rfl, rfl, rfl, rfl, rfl, ⟨hop, -, hpub⟩, rfl, rfl, rfl⟩ := hvector
  refine ⟨rfl, rfl, rfl, rfl, rfl, rfl, ?_, rfl, rfl, rfl⟩
  rw [hop, hpub]

theorem Loaded.canonicalized (h : v.Loaded) : Canonicalized v.witness.priv.entries := by
  obtain ⟨text, path, content, hload⟩ := h
  obtain ⟨_, _, _, _, _, _, _, hwitness, _, _, _⟩ := load_ok hload
  obtain ⟨es, hes⟩ := canonicalSecrets_values (RawWitness.intoWitness_ok hwitness).1
  rw [hes]
  intro e he
  obtain ⟨e, _, rfl⟩ := List.mem_map.mp he
  exact ⟨⟨e.2⟩, rfl⟩

theorem Loaded.public_wellFormed (h : v.Loaded) : v.witness.pub.WellFormed := by
  obtain ⟨text, path, content, hload⟩ := h
  obtain ⟨_, _, _, _, _, _, _, hwitness, _, _, _⟩ := load_ok hload
  exact (RawWitness.intoWitness_ok hwitness).2.1

/-- what a request shows of its vector -/
theorem toRequestFor_publicView (h : v.Loaded) (backend : String) :
    (v.toRequestFor backend).map ProofRequest.publicView =
      if ∀ name ∈ v.witness.priv.keys, validateName name = .ok () then
        (BackendId.new backend).toOption.map fun backend =>
          let name := String.ofList (v.id.toList.map fun c => if c = '/' ∨ c = '\\' then '-' else c)
          { requestId := ⟨"vector-" ++ name⟩, operation := v.operation, circuit := v.circuit
            circuitVersion := v.circuitVersion, artifactVersion := ⟨0, 1, 0⟩, backend
            witnessNames := v.witness.priv.keys, publicInputs := v.witness.pub
            stateReference := v.stateReference }
      else none := by
  have hcanonical := h.canonicalized
  have hnodup : (PrivateWitnessBag.new.names ++ v.witness.priv.entries.map Prod.fst).Nodup :=
    v.witness.priv.keys_nodup
  have hkeys : (∀ name ∈ v.witness.priv.keys, validateName name = .ok ()) ↔
      ∀ e ∈ v.witness.priv.entries, validateName e.1 = .ok () := List.forall_mem_map
  unfold toRequestFor
  cases hsecrets : v.witness.priv.entries.foldlM insertSecret PrivateWitnessBag.new with
  | none =>
    rw [if_neg fun hvalid => ?_]
    · rfl
    · obtain ⟨b, hb⟩ := insertSecrets_of_valid hcanonical (hkeys.mp hvalid) hnodup
      rw [hsecrets] at hb
      cases hb
  | some b =>
    obtain ⟨hvalid, htexts⟩ := insertSecrets_some hcanonical hsecrets
    have hnames : b.names = v.witness.priv.keys := by
      rw [← b.texts_names, htexts]
      rfl
    rw [if_pos (hkeys.mpr hvalid), ← hnames]
    cases (BackendId.new backend).toOption with
    | none => rfl
    | some id => rfl

/-- two vectors with one public part have requests with one public view, or none -/
theorem toRequestFor_view (hv : v.Loaded) (hv' : v'.Loaded) (h : v.publicPart = v'.publicPart)
    (backend : String) : (v.toRequestFor backend).map ProofRequest.publicView
      = (v'.toRequestFor backend).map ProofRequest.publicView := by
  rw [toRequestFor_publicView hv, toRequestFor_publicView hv']
  obtain ⟨heq, hkeys⟩ := eq_withPriv h
  rw [hkeys, heq]

end TestVector

/-! ## what is shown -/

section
variable {v v' : TestVector} {text : JsonText}

/-- what is done with the request of a vector hides its private values when it hides those of the
request -/
theorem request_hides {α : Type} (hv : v.Loaded) (hv' : v'.Loaded)
    (h : v.publicPart = v'.publicPart) {f : ProofRequest → Except (Fault String) α}
    (hf : Hides f) :
    (fromOption .panic v.toRequest >>= f) = fromOption .panic v'.toRequest >>= f := by
  have hview := TestVector.toRequestFor_view hv hv' h BackendId.mock
  show (fromOption .panic (v.toRequestFor BackendId.mock) >>= f)
    = fromOption .panic (v'.toRequestFor BackendId.mock) >>= f
  cases hr : v.toRequestFor BackendId.mock with
  | none =>
    rw [hr] at hview
    rw [Option.map_eq_none_iff.mp hview.symm]
  | some r =>
    rw [hr] at hview
    obtain ⟨r', hr', hrr⟩ := Option.map_eq_some_iff.mp hview.symm
    rw [hr']
    exact hf hrr.symm

theorem judge_hides (env : VectorsEnv) (hv : v.Loaded) (hv' : v'.Loaded)
    (h : v.publicPart = v'.publicPart) : env.judge v = env.judge v' := by
  have hexpect : v'.expectVerification = v.expectVerification := by
    rw [(TestVector.eq_withPriv h).1]
  unfold VectorsEnv.judge
  rw [hexpect]
  have hproviders : ∀ p ∈ env.service.registry.providers, Hides p.generate := by
    intro p hp
    obtain rfl := List.mem_singleton.mp hp
    exact generate_hides .new
  refine request_hides hv hv' h fun r r' hview => ?_
  show (r.validate.mapError _ >>= _) = r'.validate.mapError _ >>= _
  rw [validate_hides hview, prove_hides hproviders hview]

/-- two witnesses with the same names sum up the same -/
theorem printSummary_congr {data data' : WitnessData} (h : v.publicPart = v'.publicPart)
    (hop : data.operation = data'.operation) (hpub : data.publicInputs = data'.publicInputs)
    (hnames : data.priv.names = data'.priv.names) :
    printSummary v data = printSummary v' data' := by
  rw [(TestVector.eq_withPriv h).1, printSummary, printSummary, hop, hpub, hnames,
    len_congr hnames]

variable {io : RestrictedIo} {place : OutputPlace}

/-- whether a file is written does not depend on what is written -/
theorem writeRestricted_answer (contents contents' : List UInt8) :
    (writeRestricted contents io place).1 = (writeRestricted contents' io place).1 := by
  unfold writeRestricted
  split <;> rfl

theorem emitWitness_answer (io : RestrictedIo) (place : OutputPlace)
    (out : Option (List String)) (data data' : WitnessData) :
    (emitWitness io place out data).1 = (emitWitness io place out data').1 := by
  cases out with
  | none => rfl
  | some path =>
    simp only [emitWitness, writeProverToml]
    rw [writeRestricted_answer]

/-- a place is as it was, or some bytes were written there -/
theorem writeRestricted_left (contents : List UInt8) :
    (writeRestricted contents io place).2 = ⟨[], place⟩ ∨
      ∃ bytes, (writeRestricted contents io place).2 = place.receive io.umask bytes := by
  unfold writeRestricted
  split
  · exact Or.inl rfl
  · exact Or.inr ⟨_, rfl⟩
  · exact Or.inr ⟨_, rfl⟩
  · exact Or.inr ⟨_, rfl⟩

/-- and so is the place of a run -/
theorem runBuild_left (args : BuildArgs) (content : Except String (List UInt8)) :
    (runBuild io place text args content).2 = ⟨[], place⟩ ∨
      ∃ bytes, (runBuild io place text args content).2 = place.receive io.umask bytes := by
  unfold runBuild
  dsimp only
  split
  · exact Or.inl rfl
  · split
    · exact Or.inl rfl
    · cases args.out with
      | none => exact Or.inl rfl
      | some path => exact writeRestricted_left _

/-- nothing is shown by way of another place -/
theorem runBuild_shown (hplace : place ≠ .console) (args : BuildArgs)
    (content : Except String (List UInt8)) :
    (runBuild io place text args content).2.shown = [] := by
  rcases @runBuild_left text io place args content with
    hleft | ⟨bytes, hleft⟩
  · rw [hleft]
  · rw [hleft]
    cases place with
    | vacant => rfl
    | file file => rfl
    | device => rfl
    | console => exact absurd rfl hplace

/-- the answer comes from the witness -/
theorem runBuild_answer {path : List String} {content : Except String (List UInt8)}
    (hload : TestVector.load text (displayPath path) content = .ok v) (op : String)
    (out : Option (List String)) :
    (runBuild io place text ⟨op, path, out⟩ content).1 = buildWitness op v >>= fun data =>
      (emitWitness io place out data).1.map (· :: printSummary v data) := by
  simp only [runBuild, hload, Except.mapError]
  cases buildWitness op v with
  | error e => rfl
  | ok data => rfl

theorem buildWitness_hides {α : Type} (hv : v.Loaded) (hv' : v'.Loaded)
    (h : v.publicPart = v'.publicPart) (op : String) {f : WitnessData → Except (Fault String) α}
    (hf : Hides fun r => f (.fromRequest r)) :
    (buildWitness op v >>= f) = buildWitness op v' >>= f := by
  obtain ⟨heq, _⟩ := TestVector.eq_withPriv h
  have hop : v'.operation = v.operation := by rw [heq]
  have hid : v'.id = v.id := by rw [heq]
  simp only [buildWitness, bind_assoc, pure_bind, hop, hid]
  refine congrArg _ (funext fun _ => request_hides hv hv' h ?_)
  exact factorsThrough_bind (validate_hides.comp_left (Except.mapError _)) fun _ => hf

/-- **The private values of a vector are not shown.**  For two vectors with one public part, the
judgement of `vectors run` is the same, and so is what `witness build` prints or why it fails,
whatever happens to its file, unless the file is what it prints to. -/
theorem vector_values_hidden (env : VectorsEnv) {path : List String}
    {content content' : Except String (List UInt8)}
    (hload : TestVector.load text (displayPath path) content = .ok v)
    (hload' : TestVector.load text (displayPath path) content' = .ok v')
    (h : v.publicPart = v'.publicPart) :
    env.judge v = env.judge v' ∧
    ∀ (op : String) (out : Option (List String)) (io : RestrictedIo) (place : OutputPlace),
      place ≠ .console →
      (runBuild io place text ⟨op, path, out⟩ content).1
          = (runBuild io place text ⟨op, path, out⟩ content').1 ∧
        (runBuild io place text ⟨op, path, out⟩ content).2.shown
          = (runBuild io place text ⟨op, path, out⟩ content').2.shown := by
  have hv : v.Loaded := ⟨_, _, _, hload⟩
  have hv' : v'.Loaded := ⟨_, _, _, hload'⟩
  refine ⟨judge_hides env hv hv' h, fun op out io place hplace => ⟨?_, ?_⟩⟩
  · rw [runBuild_answer hload, runBuild_answer hload']
    have hsummary (data : WitnessData) : printSummary v' data = printSummary v data :=
      printSummary_congr h.symm rfl rfl rfl
    simp only [hsummary]
    refine buildWitness_hides hv hv' h op (hides_of_witness fun r w hnames => ?_)
    have hanswer := emitWitness_answer io place out (.fromRequest { r with witness := w })
      (.fromRequest r)
    have hprinted : printSummary v (.fromRequest { r with witness := w })
        = printSummary v (.fromRequest r) := printSummary_congr rfl rfl rfl hnames
    rw [hanswer, hprinted]
  · rw [runBuild_shown hplace, runBuild_shown hplace]

/-! ## the file -/

variable {file : RestrictedFile}

theorem openForWitness_restricted (umask : BitVec 9) {before : Option RestrictedFile} :
    (openForWitness umask before).Restricted ↔ ∀ old, before = some old → old.Restricted := by
  cases before with
  | none =>
    refine iff_of_true ?_ fun _ h => by cases h
    show (0o600 &&& ~~~umask) &&& 0o077 = 0
    rw [BitVec.and_assoc, BitVec.and_comm (~~~umask), ← BitVec.and_assoc]
    exact BitVec.zero_and
  | some old =>
    refine ⟨fun h _ heq => ?_, fun h => h old rfl⟩
    obtain rfl := Option.some.inj heq
    exact h

/-- a file that received bytes has the bits it was opened with -/
theorem receive_mode {umask : BitVec 9} {bytes : List UInt8}
    (h : (place.receive umask bytes).place = .file file) :
    file.mode = (openForWitness umask place.regular).mode := by
  cases place with
  | vacant => rw [← OutputPlace.file.inj h]
  | file old => rw [← OutputPlace.file.inj h]
  | device => cases h
  | console => cases h

/-- **No one but the owner can read what is written exactly when no one could before**: a file that
was there keeps its bits, whatever the command says. -/
theorem runBuild_restricted {args : BuildArgs} {content : Except String (List UInt8)}
    (h : (runBuild io place text args content).2.place = .file file) :
    file.Restricted ↔ ∀ old, place = .file old → old.Restricted := by
  have hold : (∀ old, place = .file old → old.Restricted) ↔
      ∀ old, place.regular = some old → old.Restricted := by
    cases place <;> simp [OutputPlace.regular]
  rw [hold, ← openForWitness_restricted io.umask]
  have hmode : file.mode = (openForWitness io.umask place.regular).mode := by
    rcases @runBuild_left text io place args content with
      hleft | ⟨bytes, hleft⟩
    · rw [hleft] at h
      obtain rfl : place = .file file := h
      rfl
    · rw [hleft] at h
      exact receive_mode h
  rw [RestrictedFile.Restricted, hmode, RestrictedFile.Restricted]

theorem writeRestricted_ok {contents : List UInt8} (hplace : place.Writable)
    (h : (writeRestricted contents io place).1 = .ok ()) :
    (writeRestricted contents io place).2.place
      = .file { openForWitness io.umask place.regular with content := contents } := by
  unfold writeRestricted at h ⊢
  split at h
  · cases h
  · cases h
  · cases h
  · obtain ⟨hdevice, hconsole⟩ := hplace
    cases place with
    | vacant => rfl
    | file old => rfl
    | device => exact absurd rfl hdevice
    | console => exact absurd rfl hconsole

theorem buildWitness_ok {op : String} {data : WitnessData} (h : buildWitness op v = .ok data) :
    ∃ r, v.toRequest = some r ∧ data = .fromRequest r := by
  simp only [buildWitness, bind_ok, fromOption_ok, pure_ok] at h
  obtain ⟨_, _, r, hr, _, _, rfl⟩ := h
  exact ⟨r, hr, rfl⟩

/-- the witness of a vector says the same values as the vector, public ones first -/
theorem assignments_witness {r : ProofRequest} (hv : v.Loaded) (hr : v.toRequest = some r) :
    (∀ e ∈ v.lines, validateName e.1 = .ok ()) ∧ Plain (encodeToml (.fromRequest r)) ∧
      (assignments (encodeToml (.fromRequest r))).Perm
        (v.lines.map fun e => (e.1, e.2.toList)) := by
  obtain ⟨_, hpub, _⟩ := TestVector.toRequestFor_parts hr
  obtain ⟨hpriv, htexts⟩ := TestVector.insertSecrets_some hv.canonicalized
    (TestVector.toRequestFor_some hr)
  have htexts : v.witness.priv.entries = r.witness.bag.entries.map fun e => (e.1, e.2.intoHex) :=
    htexts.symm
  have hnames : ∀ name ∈ r.publicInputs.names, validateName name = .ok () := by
    rw [hpub]
    exact hv.public_wellFormed.valid
  obtain ⟨hplain, hassignments⟩ := assignments_encodeToml (.fromRequest r) hnames
  refine ⟨fun e he => ?_, hplain, ?_⟩
  · rcases List.mem_append.mp he with he | he
    · exact hpriv e he
    · obtain ⟨entry, hin, rfl⟩ := List.mem_map.mp he
      exact hv.public_wellFormed.valid _ (List.mem_map_of_mem hin)
  · rw [hassignments, TestVector.lines, htexts, ← hpub, List.map_append, List.map_map,
      List.map_map, WitnessData.values, List.map_append, List.map_map]
    exact List.perm_append_comm

/-- **What `witness build` leaves at its path.**  In every run, the file that is there afterwards is
closed to others exactly when there was none or it was closed.  In a run that succeeds with a path
where a file is or can be made, it holds the text of a `Prover.toml` that assigns the values of the
vector, as the circuit tier does, and nothing else: where they fit a circuit, its `main` is called
with them. -/
theorem witness_build_file (args : BuildArgs) (io : RestrictedIo) (place : OutputPlace)
    {content : Except String (List UInt8)}
    (hload : TestVector.load text (displayPath args.vector) content = .ok v) :
    (∀ file, (runBuild io place text args content).2.place = .file file →
      (file.Restricted ↔ ∀ old, place = .file old → old.Restricted)) ∧
    ∀ lines path, (runBuild io place text args content).1 = .ok lines → args.out = some path →
      place.Writable →
      ∃ file toml, (runBuild io place text args content).2.place = .file file ∧
        file.content = toml.toUTF8.data.toList ∧ Plain toml ∧
        (assignments toml).Perm (assignments v.proverToml) ∧
        ∀ c, v.Fits c → GivesAll toml c v.field := by
  refine ⟨fun file h => runBuild_restricted h, fun lines path hanswer hout hplace => ?_⟩
  have hv : v.Loaded := ⟨_, _, _, hload⟩
  simp only [runBuild, hload, Except.mapError] at hanswer ⊢
  cases hwitness : buildWitness args.op v with
  | error e =>
    rw [hwitness] at hanswer
    cases hanswer
  | ok data =>
    obtain ⟨r, hr, rfl⟩ := buildWitness_ok hwitness
    obtain ⟨hvalid, hplain, hperm⟩ := assignments_witness hv hr
    simp only [hwitness, hout, emitWitness, writeProverToml] at hanswer
    obtain ⟨_, hline, _⟩ := map_ok.mp hanswer
    obtain ⟨⟨⟩, hwritten, _⟩ := bind_ok.mp hline
    have hfile := writeRestricted_ok hplace (mapError_ok.mp (mapError_ok.mp hwritten))
    rw [hout]
    refine ⟨_, _, hfile, rfl, hplain, ?_, fun c hfits => givesAll_of_perm hfits hperm⟩
    rwa [(assignments_lines hv hvalid).2]

end

/-! ## a deposit -/

/-- the recorded deposit, with a key and amounts of someone else -/
def otherDeposit : TestVector :=
  { depositVector with
    witness :=
      { depositVector.witness with
        priv := ((((SortedMap.empty.insert "account_sk" "5678").insert "old_amount" "7d0").insert
          "old_blinding" "6").insert "amount" "1").insert "blinding" "a" } }

theorem otherDeposit_loaded : loadRaw otherDeposit.raw = .ok otherDeposit := by decide +kernel

/-- the text of its file -/
def TestVector.bytes (v : TestVector) : List UInt8 := (toJson v.raw).compact.toUTF8.data.toList

/-- the two files, read back -/
def depositText : JsonText where
  render := Json.compact
  parse bytes :=
    if bytes = depositVector.bytes then .ok (toJson depositVector.raw)
    else if bytes = otherDeposit.bytes then .ok (toJson otherDeposit.raw)
    else .error "expected another document"

theorem load_bytes {v : TestVector} {text : JsonText}
    (hparse : text.parse v.bytes = .ok (toJson v.raw)) (h : loadRaw v.raw = .ok v) :
    TestVector.load text (displayPath ["vector.json"]) (.ok v.bytes) = .ok v := by
  have hpath : displayPath ["vector.json"] = "vector.json" := by decide +kernel
  have hknown : (JsonText.knowing (toJson v.raw)).parse v.bytes = .ok (toJson v.raw) :=
    JsonText.knowing_parse
  rw [hpath]
  exact (TestVector.load_congr (hparse.trans hknown.symm)).trans h

theorem deposit_file : TestVector.load depositText (displayPath ["vector.json"])
    (.ok depositVector.bytes) = .ok depositVector := by
  refine load_bytes ?_ deposit_loaded
  simp only [depositText, if_true]

theorem otherDeposit_file : TestVector.load depositText (displayPath ["vector.json"])
    (.ok otherDeposit.bytes) = .ok otherDeposit := by
  have hne : otherDeposit.bytes ≠ depositVector.bytes := by decide +kernel
  refine load_bytes ?_ otherDeposit_loaded
  simp only [depositText, if_neg hne, if_true]

/-- everything works -/
def plainIo : RestrictedIo where
  umask := 0o022
  opening := none
  writing := none
  syncing := none

theorem vector_values_hidden_deposit :
    depositVector.field "amount" ≠ otherDeposit.field "amount" ∧
    zerosCatalog.judge depositVector = zerosCatalog.judge otherDeposit ∧
    (runBuild plainIo .vacant depositText ⟨"deposit", ["vector.json"], some ["Prover.toml"]⟩
        (.ok depositVector.bytes)).1
      = (runBuild plainIo .vacant depositText ⟨"deposit", ["vector.json"], some ["Prover.toml"]⟩
        (.ok otherDeposit.bytes)).1 := by
  obtain ⟨hjudge, hprinted⟩ :=
    vector_values_hidden zerosCatalog deposit_file otherDeposit_file (by decide +kernel)
  exact ⟨by decide +kernel, hjudge, (hprinted "deposit" _ plainIo .vacant (by decide)).1⟩

theorem depositVector_built : ∃ data, buildWitness "deposit" depositVector = .ok data := by
  have hvalid : depositVector.toRequest.map ProofRequest.validate = some (.ok ()) := by
    decide +kernel
  obtain ⟨r, hr, hvalid⟩ := Option.map_eq_some_iff.mp hvalid
  refine ⟨.fromRequest r, bind_ok.mpr ⟨(), ensure_ok.mpr rfl, ?_⟩⟩
  exact bind_ok.mpr ⟨r, fromOption_ok.mpr hr, bind_ok.mpr ⟨(), mapError_ok.mpr hvalid, rfl⟩⟩

/-- everyone can read it -/
def openFile : RestrictedFile := ⟨0o644, []⟩

/-- over such a file the private values are written for everyone to read -/
theorem witness_build_file_deposit : ∃ file toml,
    (runBuild plainIo (.file openFile) depositText
      ⟨"deposit", ["vector.json"], some ["Prover.toml"]⟩ (.ok depositVector.bytes)).2.place
        = .file file ∧
    file.content = toml.toUTF8.data.toList ∧ GivesAll toml .deposit depositVector.field ∧
    ¬ file.Restricted := by
  obtain ⟨hbits, hwritten⟩ := witness_build_file ⟨"deposit", ["vector.json"], some ["Prover.toml"]⟩
    plainIo (.file openFile) deposit_file
  obtain ⟨data, hdata⟩ := depositVector_built
  have hanswer : (runBuild plainIo (.file openFile) depositText
      ⟨"deposit", ["vector.json"], some ["Prover.toml"]⟩ (.ok depositVector.bytes)).1 = _ :=
    runBuild_answer deposit_file "deposit" (some ["Prover.toml"])
  rw [hdata] at hanswer
  obtain ⟨file, toml, hfile, hcontent, _, _, hgives⟩ :=
    hwritten _ ["Prover.toml"] hanswer rfl ⟨by decide, by decide⟩
  refine ⟨file, toml, hfile, hcontent, hgives .deposit deposit_fits, fun h => ?_⟩
  have hopen : openFile.Restricted := (hbits file hfile).mp h _ rfl
  exact absurd hopen (show openFile.mode &&& 0o077 ≠ 0 by decide)

end Crucible
