import Crucible.Cli.Artifacts
import Crucible.UltraHonk.Surface
import Mathlib.Data.List.Induction

/-!
# Pins over many runs (`cli/src/commands/artifacts.rs`)

Runs of `generate` follow each other over one artifact root, and each can stop anywhere.

* `pinnedTree`, `pinnedShelf`   the tree they leave, and its slots (`shelved_pinnedTree`);
* `WrittenBy`             no manifest is there that no run has written, or begun to;
* `pins_checked`          what `check` and the strict loader accept after any runs;
* `repinned_proves`       a run that reports no failure repairs its circuits, and leaves the others.
-/

namespace Crucible
open Checked Text Files

/-! ## histories of runs -/

structure PinRun where
  env : ArtifactsEnv
  name : Option String

/-- the bytecode that a run finds compiled -/
def PinRun.compiled (run : PinRun) (op : String) : Except String (List UInt8) :=
  run.env.readFile (artifactPath run.env.circuits op)

/-- the tree that the runs make, and their shelf -/
def pinnedTree (crates : ArtifactCrates) (runs : List PinRun) : Option Node :=
  runs.foldl (fun tree run => (run.env.generate crates run.name tree).2) none

def pinnedShelf (crates : ArtifactCrates) (runs : List PinRun) : String → Slot :=
  runs.foldl (fun shelf run => (run.env.generateShelf crates run.name shelf).2)
    fun _ => ⟨none, none⟩

/-- the text of the manifest of a pin -/
def pinText (crates : ArtifactCrates) (op : String) (bytes : List UInt8) : List UInt8 :=
  (pinManifest crates op bytes).toCanonicalJson

/-- the manifests of the runs are read as they were written, and none that is cut short is read -/
def ReadsPins (crates : ArtifactCrates) (runs : List PinRun) : Prop :=
  ∀ run ∈ runs, ∀ op ∈ operations, ∀ bytes, run.compiled op = .ok bytes →
    crates.parseManifest (pinText crates op bytes) = .ok (pinManifest crates op bytes) ∧
      ∀ n < (pinText crates op bytes).length,
        ∃ e, crates.parseManifest ((pinText crates op bytes).take n) = .error e

/-- the slot holds a whole manifest, of bytes that one of the runs found compiled, and bytecode with
the digest of these; so it is loaded -/
def Slot.Loads (crates : ArtifactCrates) (runs : List PinRun) (op : String) (slot : Slot)
    (loaded : LoadedArtifact) : Prop :=
  ∃ code bytes, slot = ⟨some code, some (pinText crates op bytes)⟩ ∧
    (∃ run ∈ runs, run.compiled op = .ok bytes) ∧
    ArtifactChecksum.fromBytes crates.sha256 code = .fromBytes crates.sha256 bytes ∧
    loaded = ⟨pinManifest crates op bytes, [(op ++ ".json", code)]⟩

/-- the manifest of every slot is a part of one that a run has written -/
def WrittenBy (crates : ArtifactCrates) (runs : List PinRun) (shelf : String → Slot) : Prop :=
  ∀ op text, (shelf op).manifest = some text → ∃ run ∈ runs, ∃ bytes n,
    run.compiled op = .ok bytes ∧ text = (pinText crates op bytes).take n

section
variable {crates : ArtifactCrates} {runs : List PinRun} {shelf : String → Slot} {run : PinRun}

theorem shelved_pinnedTree : Shelved (pinnedTree crates runs) (pinnedShelf crates runs) := by
  induction runs using List.reverseRecOn with
  | nil => exact ⟨tidy_missing, fun _ _ => rfl⟩
  | append_singleton runs run ih =>
    unfold pinnedTree pinnedShelf
    rw [List.foldl_append, List.foldl_append]
    exact (generate_shelved ih).1

theorem WrittenBy.mono {more : List PinRun} (h : WrittenBy crates runs shelf)
    (hsub : ∀ run ∈ runs, run ∈ more) : WrittenBy crates more shelf := by
  intro op text htext
  obtain ⟨run, hrun, hspec⟩ := h op text htext
  exact ⟨run, hsub run hrun, hspec⟩

/-- a turn of the loop leaves the manifest, or writes a part of its own -/
theorem pinSlot_manifest {op : String} {slot : Slot} {text : List UInt8}
    (h : (run.env.pinSlot crates op slot).2.manifest = some text) :
    slot.manifest = some text ∨ ∃ bytes n, run.compiled op = .ok bytes ∧
      text = (pinText crates op bytes).take n := by
  unfold ArtifactsEnv.pinSlot at h
  split at h
  · next bytes hbytes _ =>
    dsimp only at h
    split at h
    · exact Or.inl h
    · refine or_iff_not_imp_left.mpr fun hold => ?_
      have hleaves : leaves (run.env.writeFails (run.env.root ++ [op, manifestFilename]))
        (pinText crates op bytes) slot.manifest = some text := h
      unfold leaves at hleaves
      split at hleaves
      · obtain rfl := Option.some.inj hleaves
        exact ⟨bytes, _, hbytes, (List.take_length).symm⟩
      · next broken _ =>
        cases hcut : broken.written with
        | none =>
          rw [hcut] at hleaves
          exact absurd hleaves hold
        | some n =>
          rw [hcut] at hleaves
          exact ⟨bytes, n, hbytes, (Option.some.inj hleaves).symm⟩
  · exact Or.inl h

theorem WrittenBy.pinShelf {ops : List String} (h : WrittenBy crates runs shelf)
    (hrun : run ∈ runs) : WrittenBy crates runs (run.env.pinShelf crates ops shelf).2 := by
  induction ops generalizing shelf with
  | nil => exact h
  | cons op ops ih =>
    have hstep : WrittenBy crates runs
        (Function.update shelf op (run.env.pinSlot crates op (shelf op)).2) := by
      intro other text htext
      by_cases heq : other = op
      · subst heq
        rw [Function.update_self] at htext
        rcases pinSlot_manifest htext with hold | hnew
        · exact h other text hold
        · exact ⟨run, hrun, hnew⟩
      · rw [Function.update_of_ne heq] at htext
        exact h other text htext
    rw [ArtifactsEnv.pinShelf]
    revert hstep
    obtain ⟨goesOn, slot⟩ := run.env.pinSlot crates op (shelf op)
    intro hstep
    cases goesOn with
    | true => exact ih hstep
    | false => exact hstep

theorem writtenBy_pinnedShelf : WrittenBy crates runs (pinnedShelf crates runs) := by
  induction runs using List.reverseRecOn with
  | nil => exact fun _ _ h => by cases h
  | append_singleton runs run ih =>
    have hold : WrittenBy crates (runs ++ [run]) (pinnedShelf crates runs) :=
      ih.mono fun run h => List.mem_append_left _ h
    rw [pinnedShelf, List.foldl_append, List.foldl_cons, List.foldl_nil,
      ArtifactsEnv.generateShelf]
    split
    · exact hold
    · exact hold.pinShelf (List.mem_append_right _ List.mem_cons_self)

/-- **What the strict loader accepts after any runs**: whole manifests, with bytecode that has the
digest of theirs. -/
theorem load_pinned_iff {env : ArtifactsEnv} {op : String} {loaded : LoadedArtifact}
    (hop : op ∈ operations) (hlossy : crates.lossy = Utf8.toStringLossy)
    (hreads : ReadsPins crates runs) :
    ArtifactLoader.new.load crates (env.artifactDir (pinnedTree crates runs) op) = .ok loaded ↔
      (pinnedShelf crates runs op).Loads crates runs op loaded := by
  have hshelved : Shelved (pinnedTree crates runs) (pinnedShelf crates runs) := shelved_pinnedTree
  have hslot : slotOf (pinnedTree crates runs) op = pinnedShelf crates runs op :=
    hshelved.slots op hop
  constructor
  · intro hload
    obtain ⟨text, hread, hparse⟩ := ArtifactLoader.load_manifest hload
    have htext : (slotOf (pinnedTree crates runs) op).manifest = some text :=
      (artifactDir_read hshelved.tidy hop (by decide)).mp hread
    obtain ⟨run, hrun, bytes, n, hbytes, rfl⟩ :=
      writtenBy_pinnedShelf op text (by rw [← hslot, htext])
    obtain ⟨hwhole, hcut⟩ := hreads run hrun op hop bytes hbytes
    -- a manifest that is cut short is not read, so this one is whole
    have hlength : (pinText crates op bytes).length ≤ n := by
      by_contra hshort
      obtain ⟨e, he⟩ := hcut n (not_le.mp hshort)
      obtain ⟨document, hdocument, _⟩ := ArtifactManifest.parse_ok.mp hparse
      rw [he] at hdocument
      cases hdocument
    rw [List.take_of_length_le hlength] at htext
    obtain ⟨code, hcode, hdigest, rfl⟩ :=
      (load_pin_iff hop hlossy hshelved.tidy htext hwhole).mp hload
    refine ⟨code, bytes, ?_, ⟨run, hrun, hbytes⟩, hdigest, rfl⟩
    rw [← hslot]
    exact congrArg₂ Slot.mk hcode htext
  · rintro ⟨code, bytes, heq, ⟨run, hrun, hbytes⟩, hdigest, rfl⟩
    rw [heq] at hslot
    obtain ⟨hwhole, _⟩ := hreads run hrun op hop bytes hbytes
    exact (load_pin_iff hop hlossy hshelved.tidy (congrArg Slot.manifest hslot) hwhole).mpr
      ⟨code, congrArg Slot.code hslot, hdigest, rfl⟩

/-- no problem is listed when everything loads -/
theorem problems_isEmpty {ε α : Type} {load : String → Except ε α} {ops : List String} :
    ((ops.map fun op => (op, load op)).filter fun (_, loaded) => !loaded.isOk).isEmpty = true ↔
      ∀ op ∈ ops, ∃ loaded, load op = .ok loaded := by
  rw [List.isEmpty_iff, List.filter_eq_nil_iff, List.forall_mem_map]
  refine forall₂_congr fun op _ => ?_
  cases load op with
  | ok loaded => exact iff_of_true (by simp [Except.isOk, Except.toBool]) ⟨loaded, rfl⟩
  | error e =>
    refine iff_of_false (fun h => h rfl) (fun h => ?_)
    obtain ⟨_, h⟩ := h
    cases h

theorem check_ok {env : ArtifactsEnv} {tree : Option Node} :
    (env.check crates tree).2 = .ok () ↔ ∀ op ∈ operations, ∃ loaded,
      ArtifactLoader.new.load crates (env.artifactDir tree op) = .ok loaded := by
  rw [← problems_isEmpty, ArtifactsEnv.check]
  dsimp only
  split
  · next h => exact iff_of_true rfl h
  · next h => exact iff_of_false (fun h => by cases h) h

theorem inspect_ok {env : ArtifactsEnv} {name : Option String} {tree : Option Node} :
    (env.inspect crates name tree).2 = .ok () ↔
      ∃ ops, ArtifactsEnv.selectedOps name = .ok ops ∧ ∀ op ∈ ops, ∃ loaded,
        ArtifactLoader.new.load crates (env.artifactDir tree op) = .ok loaded := by
  rw [ArtifactsEnv.inspect]
  cases ArtifactsEnv.selectedOps name with
  | error e =>
    refine iff_of_false (fun h => by cases h) (fun ⟨_, h, _⟩ => by cases h)
  | ok ops =>
    have hops : (∃ ops', (Except.ok ops : Except String (List String)) = .ok ops' ∧
        ∀ op ∈ ops', ∃ loaded, ArtifactLoader.new.load crates (env.artifactDir tree op)
          = .ok loaded) ↔ ∀ op ∈ ops, ∃ loaded,
        ArtifactLoader.new.load crates (env.artifactDir tree op) = .ok loaded :=
      ⟨fun ⟨_, heq, h⟩ => Except.ok.inj heq ▸ h, fun h => ⟨ops, rfl, h⟩⟩
    rw [hops, ← problems_isEmpty]
    dsimp only
    split
    · next h => exact iff_of_true rfl h
    · next h => exact iff_of_false (fun h => by cases h) h

/-- **The verdicts of `check` and `inspect` are exact over histories.**  After any runs of
`generate` over an artifact root that was not there, whatever failed in them and wherever a write
was cut short, the commands and the strict loader accept the circuits whose directory holds a whole
manifest, of bytecode that one of the runs found compiled, and bytecode with the digest of this. -/
theorem pins_checked {env : ArtifactsEnv} (hlossy : crates.lossy = Utf8.toStringLossy)
    (hreads : ReadsPins crates runs) :
    (∀ op ∈ operations, ∀ loaded,
      ArtifactLoader.new.load crates (env.artifactDir (pinnedTree crates runs) op) = .ok loaded ↔
        (pinnedShelf crates runs op).Loads crates runs op loaded) ∧
    ((env.check crates (pinnedTree crates runs)).2 = .ok () ↔
      ∀ op ∈ operations, ∃ loaded, (pinnedShelf crates runs op).Loads crates runs op loaded) ∧
    ∀ name, (env.inspect crates name (pinnedTree crates runs)).2 = .ok () ↔
      ∃ ops, ArtifactsEnv.selectedOps name = .ok ops ∧
        ∀ op ∈ ops, ∃ loaded, (pinnedShelf crates runs op).Loads crates runs op loaded := by
  have hload {op : String} (hop : op ∈ operations) {loaded : LoadedArtifact} :
      ArtifactLoader.new.load crates (env.artifactDir (pinnedTree crates runs) op) = .ok loaded ↔
        (pinnedShelf crates runs op).Loads crates runs op loaded :=
    load_pinned_iff hop hlossy hreads
  refine ⟨fun op hop loaded => hload hop, ?_, fun name => ?_⟩
  · rw [check_ok]
    exact forall₂_congr fun op hop => exists_congr fun loaded => hload hop
  · rw [inspect_ok]
    refine exists_congr fun ops => and_congr_right fun hselected => ?_
    exact forall₂_congr fun op hop => exists_congr fun loaded =>
      hload (selectedOps_mem hselected op hop)

end

/-! ## a pin that is cut short -/

def emptyObject : List UInt8 := "{}".toUTF8.data.toList

def emptyArray : List UInt8 := "[]".toUTF8.data.toList

/-- the digests of the two texts -/
def pinSha256 (bytes : List UInt8) : List UInt8 :=
  if bytes = emptyObject then
    [0x44, 0x13, 0x6f, 0xa3, 0x55, 0xb3, 0x67, 0x8a, 0x11, 0x46, 0xad, 0x16, 0xf7, 0xe8,
      0x64, 0x9e, 0x94, 0xfb, 0x4f, 0xc2, 0x1f, 0xe7, 0x7e, 0x83, 0x10, 0xc0, 0x60, 0xf6,
      0x1c, 0xaa, 0xff, 0x8a]
  else if bytes = emptyArray then
    [0x4f, 0x53, 0xcd, 0xa1, 0x8c, 0x2b, 0xaa, 0x0c, 0x03, 0x54, 0xbb, 0x5f, 0x9a, 0x3e,
      0xcb, 0xe5, 0xed, 0x12, 0xab, 0x4d, 0x8e, 0x11, 0xba, 0x87, 0x3c, 0x2f, 0x11, 0x16,
      0x12, 0x02, 0xb9, 0x45]
  else List.replicate 32 0

def digestCrates : ArtifactCrates where
  parseManifest _ := .error "EOF while parsing an object"
  lossy := Utf8.toStringLossy
  sha256 := pinSha256

/-- the manifests of the two texts are read, and nothing else -/
def pinCrates : ArtifactCrates where
  parseManifest text :=
    if text = pinText digestCrates "deposit" emptyObject then
      .ok (pinManifest digestCrates "deposit" emptyObject)
    else if text = pinText digestCrates "deposit" emptyArray then
      .ok (pinManifest digestCrates "deposit" emptyArray)
    else digestCrates.parseManifest text
  lossy := Utf8.toStringLossy
  sha256 := pinSha256

/-- `deposit` is compiled to the bytes, and pinned by itself -/
def depositRun (bytes : List UInt8) (writeFails : List String → Option Broken) : PinRun where
  env :=
    { circuits := ["circuits"]
      root := ["artifacts", "circuits"]
      readFile := fun path =>
        if path = ["circuits", "target", "deposit.json"] then .ok bytes
        else .error "No such file or directory (os error 2)"
      createFails := fun _ => none
      writeFails }
  name := some "deposit"

/-- the disk is full by the second run, after ten bytes of its manifest -/
def cutRuns : List PinRun :=
  [depositRun emptyObject fun _ => none,
    depositRun emptyArray fun path =>
      if path.getLast? = some manifestFilename then
        some ⟨"No space left on device (os error 28)", some 10⟩
      else none]

theorem deposit_compiled {bytes bytes' : List UInt8} {writeFails : List String → Option Broken}
    {op : String} (hop : op ∈ operations)
    (h : (depositRun bytes writeFails).compiled op = .ok bytes') :
    op = "deposit" ∧ bytes' = bytes := by
  simp only [operations, List.mem_cons, List.not_mem_nil, or_false] at hop
  rcases hop with rfl | rfl | rfl | rfl | rfl
  all_goals first
    | exact ⟨rfl, (Except.ok.inj h).symm⟩
    | cases h

theorem pinText_length :
    (pinText digestCrates "deposit" emptyObject).length = 301 ∧
      (pinText digestCrates "deposit" emptyArray).length = 301 := by decide +kernel

/-- a text of another length is not read -/
theorem pinCrates_short {text : List UInt8} (h : text.length < 301) :
    ∃ e, pinCrates.parseManifest text = .error e := by
  have hne {text' : List UInt8} (hlength : text'.length = 301) : text ≠ text' := by
    rintro rfl
    omega
  have hread : pinCrates.parseManifest text = digestCrates.parseManifest text := by
    show (if text = pinText digestCrates "deposit" emptyObject then _ else _) = _
    rw [if_neg (hne pinText_length.1), if_neg (hne pinText_length.2)]
  exact ⟨_, hread⟩

theorem deposit_reads {runs : List PinRun} (h : ∀ run ∈ runs, ∃ bytes writeFails,
    (bytes = emptyObject ∨ bytes = emptyArray) ∧ run = depositRun bytes writeFails) :
    ReadsPins pinCrates runs := by
  intro run hrun op hop bytes hbytes
  obtain ⟨content, writeFails, hcontent, rfl⟩ := h run hrun
  obtain ⟨rfl, rfl⟩ := deposit_compiled hop hbytes
  rcases hcontent with rfl | rfl
  · refine ⟨by decide +kernel, fun n hn => pinCrates_short ?_⟩
    exact (List.length_take_le n _).trans_lt (pinText_length.1 ▸ hn)
  · refine ⟨by decide +kernel, fun n hn => pinCrates_short ?_⟩
    exact (List.length_take_le n _).trans_lt (pinText_length.2 ▸ hn)

theorem cutRuns_reads : ReadsPins pinCrates cutRuns :=
  deposit_reads fun run hrun => by
    rcases List.mem_pair.mp hrun with rfl | rfl
    · exact ⟨emptyObject, _, Or.inl rfl, rfl⟩
    · exact ⟨emptyArray, _, Or.inr rfl, rfl⟩

theorem cutRuns_shelf : pinnedShelf pinCrates cutRuns "deposit"
    = ⟨some emptyArray, some ((pinText pinCrates "deposit" emptyArray).take 10)⟩ := by
  decide +kernel

/-- after the write that was cut short `deposit` is refused; neither pin passes for the other -/
theorem pins_checked_cut : ¬ ∃ loaded, ArtifactLoader.new.load pinCrates
    ((depositRun emptyArray fun _ => none).env.artifactDir (pinnedTree pinCrates cutRuns) "deposit")
      = .ok loaded := by
  intro h
  obtain ⟨loaded, hload⟩ := h
  obtain ⟨code, bytes, hslot, ⟨run, hrun, hbytes⟩, _⟩ :=
    ((pins_checked rfl cutRuns_reads).1 "deposit" (by decide) loaded).mp hload
  have hlength : (pinText pinCrates "deposit" bytes).length = 301 := by
    rcases List.mem_pair.mp hrun with rfl | rfl
    · rw [(deposit_compiled (by decide) hbytes).2]
      exact pinText_length.1
    · rw [(deposit_compiled (by decide) hbytes).2]
      exact pinText_length.2
  have hcut := congrArg Slot.manifest (cutRuns_shelf.symm.trans hslot)
  rw [← Option.some.inj hcut, List.length_take] at hlength
  omega

/-! ## a run that does not fail -/

section
variable {crates : ArtifactCrates} {runs : List PinRun} {shelf : String → Slot} {run : PinRun}

theorem pinSlot_true {op : String} {slot : Slot} (h : (run.env.pinSlot crates op slot).1 = true) :
    ∃ bytes, run.compiled op = .ok bytes ∧
      (run.env.pinSlot crates op slot).2 = ⟨some bytes, some (pinText crates op bytes)⟩ := by
  revert h
  unfold ArtifactsEnv.pinSlot
  split
  · next bytes hbytes _ =>
    dsimp only
    split
    · exact fun h => by cases h
    · next hcode =>
      intro hlast
      refine ⟨bytes, hbytes, ?_⟩
      rw [Option.not_isSome_iff_eq_none.mp hcode, Option.isNone_iff_eq_none.mp hlast]
      rfl
  · exact fun h => by cases h

theorem pinShelf_other {ops : List String} {op : String} (h : op ∉ ops) :
    (run.env.pinShelf crates ops shelf).2 op = shelf op := by
  induction ops generalizing shelf with
  | nil => rfl
  | cons first ops ih =>
    obtain ⟨hne, hrest⟩ := not_or.mp (mt List.mem_cons.mpr h)
    rw [ArtifactsEnv.pinShelf]
    split
    · exact Function.update_of_ne hne _ _
    · rw [ih hrest, Function.update_of_ne hne]

/-- a loop that ends pins its circuits -/
theorem pinShelf_true {ops : List String} (h : (run.env.pinShelf crates ops shelf).1 = true) :
    ∀ op ∈ ops, ∃ bytes, run.compiled op = .ok bytes ∧
      (run.env.pinShelf crates ops shelf).2 op = ⟨some bytes, some (pinText crates op bytes)⟩ := by
  induction ops generalizing shelf with
  | nil => exact fun _ h => absurd h List.not_mem_nil
  | cons first ops ih =>
    intro op hop
    rw [ArtifactsEnv.pinShelf] at h ⊢
    split at h
    · cases h
    · next slot heq =>
      by_cases hrest : op ∈ ops
      · exact ih h op hrest
      · obtain rfl : op = first := (List.mem_cons.mp hop).resolve_right hrest
        have hslot : (run.env.pinSlot crates op (shelf op)).1 = true := congrArg Prod.fst heq
        obtain ⟨bytes, hbytes, hwhole⟩ := pinSlot_true hslot
        refine ⟨bytes, hbytes, ?_⟩
        show (run.env.pinShelf crates ops (Function.update shelf op slot)).2 op = _
        rw [pinShelf_other hrest, Function.update_self, ← hwhole, heq]

/-- the digest of the pins is 32 bytes, so their ids are not too long -/
theorem vkId_of_pin {op : String} (hop : op ∈ operations) {bytes : List UInt8}
    (hsha : (crates.sha256 bytes).length = 32) : ∃ vkId, VerificationKeyId.new
      (VerificationKeyIdPolicy.idFor ⟨op⟩ ⟨0, 1, 0⟩ (.fromBytes crates.sha256 bytes))
        = some vkId := by
  have hhex : byteLen (hexEncode (crates.sha256 bytes)).toList = 64 := by
    rw [byteLen_of_hexDigits isHexDigit_hexEncode, hexEncode_length, hsha]
  have htext : (VerificationKeyIdPolicy.idFor ⟨op⟩ ⟨0, 1, 0⟩
      (.fromBytes crates.sha256 bytes)).toList
      = (VerificationKeyIdPolicy.idFor ⟨op⟩ ⟨0, 1, 0⟩ ⟨""⟩).toList
        ++ (hexEncode (crates.sha256 bytes)).toList := by
    simp [VerificationKeyIdPolicy.idFor, ArtifactChecksum.fromBytes]
  have hshort : byteLen (VerificationKeyIdPolicy.idFor ⟨op⟩ ⟨0, 1, 0⟩ ⟨""⟩).toList ≤ 64 := by
    simp only [operations, List.mem_cons, List.not_mem_nil, or_false] at hop
    rcases hop with rfl | rfl | rfl | rfl | rfl <;> decide
  refine ⟨_, VerificationKeyId.new_eq_some.mpr ⟨fun hbad => ?_, rfl⟩⟩
  rw [htext] at hbad
  rcases hbad with hempty | hlong
  · rw [(List.append_eq_nil_iff.mp hempty).2] at hhex
    cases hhex
  · rw [byteLen_append, hhex] at hlong
    omega

/-- what the other circuits have is from the runs before -/
theorem Slot.Loads.of_before {op : String} {slot : Slot} {loaded : LoadedArtifact}
    (hop : op ∈ operations) (hreads : ReadsPins crates (runs ++ [run]))
    (hslot : pinnedShelf crates runs op = slot) (h : slot.Loads crates (runs ++ [run]) op loaded) :
    slot.Loads crates runs op loaded := by
  obtain ⟨code, bytes, rfl, ⟨last, hlast, hbytes⟩, hdigest, rfl⟩ := h
  obtain ⟨first, hfirst, bytes', n, hbytes', htext⟩ :=
    writtenBy_pinnedShelf op (pinText crates op bytes) (by rw [hslot])
  obtain ⟨hread, _⟩ := hreads last hlast op hop bytes hbytes
  obtain ⟨hread', hcut⟩ := hreads first (List.mem_append_left _ hfirst) op hop bytes' hbytes'
  have hlength : (pinText crates op bytes').length ≤ n := by
    by_contra hshort
    obtain ⟨e, he⟩ := hcut n (not_le.mp hshort)
    rw [← htext, hread] at he
    cases he
  rw [List.take_of_length_le hlength] at htext
  have hmanifest : pinManifest crates op bytes = pinManifest crates op bytes' := by
    rw [htext, hread'] at hread
    exact (Except.ok.inj hread).symm
  have hsame : ArtifactChecksum.fromBytes crates.sha256 bytes
      = .fromBytes crates.sha256 bytes' := by
    have hfiles := congrArg ArtifactManifest.files hmanifest
    exact congrArg ManifestFile.sha256 (List.cons.inj hfiles).1
  refine ⟨code, bytes', by rw [htext], ⟨first, hfirst, hbytes'⟩, hdigest.trans hsame, ?_⟩
  rw [hmanifest]

/-- **A run that reports no failure repairs its circuits.**  Whatever the runs before left, after a
run of `generate` that succeeds the provider's artifact gate passes for every circuit the run was
for, with the bytecode that it found compiled; and the loader sees the other circuits as before. -/
theorem repinned_proves (hlossy : crates.lossy = Utf8.toStringLossy)
    (hreads : ReadsPins crates (runs ++ [run])) (hsha : ∀ bytes, (crates.sha256 bytes).length = 32)
    {ops : List String} (hselected : ArtifactsEnv.selectedOps run.name = .ok ops)
    (hran : (run.env.generate crates run.name (pinnedTree crates runs)).1 = .ok ()) :
    (∀ op ∈ ops, ∃ bytes, run.compiled op = .ok bytes ∧
      ∀ (p : UltraHonkProvider) (m : Machine) (r : ProofRequest), m.crates = crates →
        m.artifacts = fromOption "No such file or directory (os error 2)"
          (pinnedTree crates (runs ++ [run])) →
        r.circuit = ⟨op⟩ → r.circuitVersion = ⟨0, 1, 0⟩ → ∃ pinned, p.loadPinned m r = .ok pinned ∧
          pinned.bytecode.content = bytes ∧ pinned.checksum = .fromBytes crates.sha256 bytes) ∧
    ∀ op ∈ operations, op ∉ ops → ∀ (env : ArtifactsEnv) (loaded : LoadedArtifact),
      ArtifactLoader.new.load crates (env.artifactDir (pinnedTree crates (runs ++ [run])) op)
          = .ok loaded ↔
        ArtifactLoader.new.load crates (env.artifactDir (pinnedTree crates runs) op)
          = .ok loaded := by
  have hbefore : ReadsPins crates runs := fun run h => hreads run (List.mem_append_left _ h)
  have hshelf : pinnedShelf crates (runs ++ [run])
      = (run.env.pinShelf crates ops (pinnedShelf crates runs)).2 := by
    rw [pinnedShelf, List.foldl_append, List.foldl_cons, List.foldl_nil,
      ArtifactsEnv.generateShelf, hselected]
    rfl
  have hverdict : (run.env.pinShelf crates ops (pinnedShelf crates runs)).1 = true := by
    have h : (run.env.generateShelf crates run.name (pinnedShelf crates runs)).1 = true :=
      (generate_shelved shelved_pinnedTree).2.mp hran
    rwa [ArtifactsEnv.generateShelf, hselected] at h
  refine ⟨fun op hop => ?_, fun op hop hother env loaded => ?_⟩
  · obtain ⟨bytes, hbytes, hslot⟩ := pinShelf_true hverdict op hop
    rw [← hshelf] at hslot
    have hmem : op ∈ operations := selectedOps_mem hselected op hop
    refine ⟨bytes, hbytes, fun p m r hcrates hartifacts hcircuit hversion => ?_⟩
    let env : ArtifactsEnv := { run.env with root := p.config.artifactRoot }
    have hdir : p.artifactDir m r = env.artifactDir (pinnedTree crates (runs ++ [run])) op := by
      unfold UltraHonkProvider.artifactDir
      rw [hartifacts, hcircuit]
      rfl
    have hload : ArtifactLoader.new.load m.crates (p.artifactDir m r)
        = .ok ⟨pinManifest crates op bytes, [(op ++ ".json", bytes)]⟩ := by
      rw [hcrates, hdir, load_pinned_iff hmem hlossy hreads]
      have hrun : run ∈ runs ++ [run] := List.mem_append_right _ List.mem_cons_self
      exact ⟨bytes, bytes, hslot, ⟨run, hrun, hbytes⟩, rfl, rfl⟩
    have hfile : LoadedArtifact.file ⟨pinManifest crates op bytes, [(op ++ ".json", bytes)]⟩
        (r.circuit.id ++ ".json") = some bytes := by
      simp [LoadedArtifact.file, hcircuit]
    have hdigest : m.host.disk.sha256 = crates.sha256 := congrArg ArtifactCrates.sha256 hcrates
    obtain ⟨vkId, hid⟩ := vkId_of_pin hmem (hsha bytes)
    rw [← hdigest, ← hcircuit, ← hversion] at hid
    have hpinned : p.loadPinned m r = .ok
        { loaded := ⟨pinManifest crates op bytes, [(op ++ ".json", bytes)]⟩
          bytecode := ⟨(p.artifactDir m r).path ++ [r.circuit.id ++ ".json"], bytes⟩
          checksum := .fromBytes m.host.disk.sha256 bytes
          vkId } := by
      refine bind_ok.mpr ⟨_, mapError_ok.mpr hload, ?_⟩
      refine bind_ok.mpr ⟨_, fromOption_ok.mpr hfile, ?_⟩
      exact bind_ok.mpr ⟨_, fromOption_ok.mpr hid, rfl⟩
    exact ⟨_, hpinned, rfl, congrArg (ArtifactChecksum.fromBytes · bytes) hdigest⟩
  · rw [load_pinned_iff hop hlossy hreads, load_pinned_iff hop hlossy hbefore, hshelf,
      pinShelf_other hother]
    refine ⟨fun h => h.of_before hop hreads rfl, fun h => ?_⟩
    obtain ⟨code, bytes, heq, ⟨first, hfirst, hbytes⟩, hrest⟩ := h
    exact ⟨code, bytes, heq, ⟨first, List.mem_append_left _ hfirst, hbytes⟩, hrest⟩

end

/-- the run that pins what the second one could not -/
def repairRun : PinRun := depositRun emptyArray fun _ => none

theorem repaired_reads : ReadsPins pinCrates (cutRuns ++ [repairRun]) :=
  deposit_reads fun run hrun => by
    rcases List.mem_append.mp hrun with hold | hnew
    · rcases List.mem_pair.mp hold with rfl | rfl
      · exact ⟨emptyObject, _, Or.inl rfl, rfl⟩
      · exact ⟨emptyArray, _, Or.inr rfl, rfl⟩
    · exact ⟨emptyArray, _, Or.inr rfl, List.mem_singleton.mp hnew⟩

theorem pinSha256_length (bytes : List UInt8) : (pinSha256 bytes).length = 32 := by
  unfold pinSha256
  split
  · rfl
  · split
    · rfl
    · exact List.length_replicate

/-- a machine with the repaired root -/
def repairedMachine : Machine :=
  { sampleMachine (sampleIdentity .deposit) .deposit 0 with
    host :=
      { (sampleMachine (sampleIdentity .deposit) .deposit 0).host with
        disk := { sampleDisk with sha256 := pinSha256 } }
    artifacts := fromOption "No such file or directory (os error 2)"
      (pinnedTree pinCrates (cutRuns ++ [repairRun]))
    parseManifest := pinCrates.parseManifest
    lossy := Utf8.toStringLossy }

/-- after the repair the second bytecode is proved from -/
theorem repinned_proves_deposit : ∃ pinned,
    sampleProvider.loadPinned repairedMachine (sampleRequest .deposit .deposit) = .ok pinned ∧
      pinned.bytecode.content = emptyArray ∧
      pinned.checksum = .fromBytes pinSha256 emptyArray := by
  have hran : (repairRun.env.generate pinCrates repairRun.name (pinnedTree pinCrates cutRuns)).1
      = .ok () := by decide +kernel
  obtain ⟨bytes, hbytes, hproves⟩ :=
    (repinned_proves rfl repaired_reads pinSha256_length rfl hran).1 "deposit" List.mem_cons_self
  obtain ⟨_, rfl⟩ := deposit_compiled (by decide) hbytes
  exact hproves sampleProvider repairedMachine (sampleRequest .deposit .deposit) rfl rfl rfl rfl

end Crucible
