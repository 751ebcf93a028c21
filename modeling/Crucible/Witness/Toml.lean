import Crucible.Interfaces.Numbers
import Crucible.Lib.Lines
import Crucible.Witness.Assembly

/-!
# `Prover.toml` (`crates/witness/src/encoder.rs`, `decoder.rs`)

One line `name = "0x…"` a value, public values first.  The text does not say where the public
values end, and the decoder reads it to the end.

* `WitnessData.entries`      what the file says, a name and its digits a line;
* `decodePublicOutputs`      line by line: `decodeLine_line` is the step, `decode_lines` the run;
* `assignments_encodeToml`   what the lines say to `nargo`;
* `decode_public_iff`        reading back what was written gives the values of both sides, so it
                             gives the public bag exactly when there is no private value.
-/

namespace Crucible
open Checked Text

/-! ## the encoder -/

/-- what the file says, line by line -/
def WitnessData.entries (data : WitnessData) : List (String × String) :=
  (data.publicInputs.entries.map fun e => (e.1, e.2.hex)) ++
    data.priv.names.filterMap fun name => (data.priv.get name).map fun v => (name, v.intoHex)

/-- `name = "0x…"` -/
def tomlLine (e : String × String) : List Char :=
  e.1.toList ++ " = \"0x".toList ++ e.2.toList ++ "\"".toList

def encodeToml (data : WitnessData) : String :=
  String.ofList (data.entries.flatMap fun e => tomlLine e ++ ['\n'])

/-! ## the decoder -/

/-- one line, read into the bag; other lines than `name = "hex"` are skipped, but an unquoted
value is an error -/
def decodeLine (bag : PublicInputBag) (text : List Char) :
    Except Witness.WitnessError PublicInputBag :=
  let line := trim text
  if line = [] ∨ line.head? = some '#' then .ok bag
  else
    match splitOnce '=' line with
    | none => .ok bag
    | some (name, raw) => do
      let value ← fromOption (.encoding s!"unquoted value on line `{String.ofList line}`")
        ((stripStart '\"' (trim raw)).bind (stripEnd '\"'))
      let value ← (FieldValue.fromHex (String.ofList value)).mapError .invalidValue
      (bag.insert (String.ofList (trim name)) value).mapError .invalidValue

def decodePublicOutputs (text : String) : Except Witness.WitnessError PublicInputBag :=
  (lines text.toList).foldlM decodeLine .new

/-! ## reading back what was written -/

theorem isNameChar_iff {c : Char} : isNameChar c ↔
    (97 ≤ c.toNat ∧ c.toNat ≤ 122) ∨ (48 ≤ c.toNat ∧ c.toNat ≤ 57) ∨ c.toNat = 95 := by
  have heq : c = '_' ↔ c.toNat = 95 :=
    ⟨fun h => h ▸ rfl, fun h => by rw [← Char.ofNat_toNat c, h]⟩
  simp [isNameChar, isAsciiLower, isAsciiDigit, heq, or_assoc]

/-- the characters of a name stand for themselves in a line -/
theorem nameChar_plain {c : Char} (h : isNameChar c) :
    isWhitespace c = false ∧ c ≠ '=' ∧ c ≠ '#' ∧ c ≠ '\n' := by
  rw [isNameChar_iff] at h
  refine ⟨?_, ?_, ?_, ?_⟩
  · simp [isWhitespace]
    omega
  · rintro rfl
    exact absurd h (by decide)
  · rintro rfl
    exact absurd h (by decide)
  · rintro rfl
    exact absurd h (by decide)

section
variable {name : String} {value : FieldValue}

theorem fromHex_prefixed : FieldValue.fromHex (String.ofList ("0x".toList ++ value.hex.toList))
    = .ok value := by
  have hstrip : stripPrefix "0x".toList (String.ofList ("0x".toList ++ value.hex.toList)).toList
      = stripPrefix "0x".toList value.hex.toList := by
    rw [stripPrefix_of_hexDigits value.isHexDigit_hex,
      String.toList_ofList (l := "0x".toList ++ value.hex.toList)]
    rfl
  rw [← FieldValue.fromHex_hex value]
  simp only [FieldValue.fromHex, hstrip]

/-- a line is cut at its `=` into the name and the quoted digits -/
theorem tomlLine_parts (value : FieldValue) (h : validateName name = .ok ()) :
    trim (tomlLine (name, value.hex)) = tomlLine (name, value.hex) ∧
    ∃ raw, splitOnce '=' (tomlLine (name, value.hex)) = some (name.toList ++ [' '], raw) ∧
      trim (name.toList ++ [' ']) = name.toList ∧
      (stripStart '\"' (trim raw)).bind (stripEnd '\"')
        = some ("0x".toList ++ value.hex.toList) := by
  obtain ⟨hne, _, hall⟩ := validateName_ok.mp h
  have hplain (c : Char) (hc : c ∈ name.toList) :=
    nameChar_plain (List.all_eq_true.mp hall c hc)
  let digits := "0x".toList ++ value.hex.toList
  have hline : tomlLine (name, value.hex) =
      (name.toList ++ [' ']) ++ '=' :: (' ' :: '\"' :: digits ++ ['\"']) := by
    simp [tomlLine, digits]
  have htrim : trim (tomlLine (name, value.hex)) = tomlLine (name, value.hex) := by
    obtain ⟨c, cs, hc⟩ := List.exists_cons_of_ne_nil hne
    have hws := (hplain c (by rw [hc]; exact List.mem_cons_self)).1
    have hedges : tomlLine (name, value.hex) =
        c :: (cs ++ " = \"0x".toList ++ value.hex.toList) ++ ['\"'] := by
      simp [tomlLine, hc]
    rw [hedges]
    exact trim_of_edges hws (by decide)
  have hsplit : splitOnce '=' (tomlLine (name, value.hex)) =
      some (name.toList ++ [' '], ' ' :: '\"' :: digits ++ ['\"']) := by
    rw [hline]
    refine splitOnce_append fun hmem => ?_
    rcases List.mem_append.mp hmem with hmem | hmem
    · exact (hplain _ hmem).2.1 rfl
    · exact absurd (List.mem_singleton.mp hmem) (by decide)
  have hname : trim (name.toList ++ [' ']) = name.toList :=
    trim_append_blank fun c hc => (hplain c hc).1
  have hraw : trim (' ' :: '\"' :: digits ++ ['\"']) = '\"' :: digits ++ ['\"'] := by
    show trim ('\"' :: digits ++ ['\"']) = _
    exact trim_of_edges (by decide) (by decide)
  have hquoted : (stripStart '\"' ('\"' :: digits ++ ['\"'])).bind (stripEnd '\"')
      = some digits := by
    rw [List.cons_append, stripStart_cons, Option.bind_some, stripEnd_append]
  refine ⟨htrim, _, hsplit, hname, ?_⟩
  rw [hraw]
  exact hquoted

/-- a line reads back as the insertion of what it was written from -/
theorem decodeLine_line (bag : PublicInputBag) (h : validateName name = .ok ()) :
    decodeLine bag (tomlLine (name, value.hex))
      = (bag.insert name value).mapError .invalidValue := by
  obtain ⟨hne, _, hall⟩ := validateName_ok.mp h
  obtain ⟨htrim, raw, hsplit, hname, hquoted⟩ := tomlLine_parts value h
  have hskip : ¬ (tomlLine (name, value.hex) = [] ∨
      (tomlLine (name, value.hex)).head? = some '#') := by
    obtain ⟨c, cs, hc⟩ := List.exists_cons_of_ne_nil hne
    have hmem : c ∈ name.toList := by rw [hc]; exact List.mem_cons_self
    have hhash := (nameChar_plain (List.all_eq_true.mp hall c hmem)).2.2.1
    simp [tomlLine, hc, hhash]
  unfold decodeLine
  simp only [htrim, if_neg hskip, hsplit, hname, hquoted]
  show ((FieldValue.fromHex (String.ofList ("0x".toList ++ value.hex.toList))).mapError
    Witness.WitnessError.invalidValue
    >>= fun value => (bag.insert (String.ofList name.toList) value).mapError
      Witness.WitnessError.invalidValue) = _
  rw [fromHex_prefixed, String.ofList_toList]
  rfl

theorem newline_not_mem_tomlLine (h : validateName name = .ok ()) :
    '\n' ∉ tomlLine (name, value.hex) := by
  obtain ⟨_, _, hall⟩ := validateName_ok.mp h
  have hname : '\n' ∉ name.toList := fun hmem =>
    (nameChar_plain (List.all_eq_true.mp hall _ hmem)).2.2.2 rfl
  have hvalue : '\n' ∉ value.hex.toList := fun hmem =>
    absurd (List.all_eq_true.mp value.isHexDigit_hex _ hmem) (by decide)
  simp [tomlLine, hname, hvalue]

theorem dropCr_tomlLine : dropCr (tomlLine (name, value.hex)) = tomlLine (name, value.hex) :=
  dropCr_of_ne (by decide)

end

/-- lines with valid and distinct names are read in order -/
theorem decode_lines {es : List (String × FieldValue)} (bag : PublicInputBag)
    (hvalid : ∀ e ∈ es, validateName e.1 = .ok ()) (hnodup : (bag.names ++ es.map Prod.fst).Nodup) :
    (es.map fun e => tomlLine (e.1, e.2.hex)).foldlM decodeLine bag
      = .ok ⟨bag.entries ++ es⟩ := by
  induction es generalizing bag with
  | nil =>
    rw [List.append_nil]
    rfl
  | cons e es ih =>
    have he := hvalid e List.mem_cons_self
    have hnew : e.1 ∉ bag.names := by
      intro hmem
      exact (List.nodup_append.mp hnodup).2.2 _ hmem _ List.mem_cons_self rfl
    have hstep : decodeLine bag (tomlLine (e.1, e.2.hex)) = .ok ⟨bag.entries ++ [e]⟩ := by
      rw [decodeLine_line bag he, Bag.insert_new he hnew]
      rfl
    have htail := ih ⟨bag.entries ++ [e]⟩ (fun e' he' => hvalid e' (List.mem_cons_of_mem _ he'))
      (by simpa [Bag.names] using hnodup)
    rw [List.map_cons, List.foldlM_cons, hstep]
    show List.foldlM decodeLine _ _ = _
    rw [htail, List.append_assoc]
    rfl

/-- the values of both sides, in the order of the file -/
def WitnessData.values (data : WitnessData) : List (String × FieldValue) :=
  data.publicInputs.entries ++ data.priv.bag.entries.map fun e => (e.1, e.2.value)

theorem entries_eq (data : WitnessData) :
    data.entries = data.values.map fun e => (e.1, e.2.hex) := by
  have hpriv : (data.priv.names.filterMap fun name =>
      (data.priv.get name).map fun v => (name, v.intoHex))
      = data.priv.bag.entries.map fun e => (e.1, e.2.value.hex) := by
    show (data.priv.bag.entries.map Prod.fst).filterMap _ = _
    rw [List.filterMap_map, ← List.filterMap_eq_map]
    refine List.filterMap_congr fun e he => ?_
    show (data.priv.bag.get e.1).map _ = _
    rw [Bag.get_of_mem data.priv.wellFormed.nodup he]
    rfl
  unfold WitnessData.entries WitnessData.values
  rw [hpriv, List.map_append, List.map_map]
  rfl

theorem values_names (data : WitnessData) :
    data.values.map Prod.fst = data.publicInputs.names ++ data.priv.names := by
  unfold WitnessData.values
  rw [List.map_append, List.map_map]
  rfl

/-- valid names make one line a value -/
theorem lines_encodeToml {data : WitnessData}
    (hvalid : ∀ name ∈ data.publicInputs.names, validateName name = .ok ()) :
    (∀ e ∈ data.values, validateName e.1 = .ok ()) ∧
    lines (encodeToml data).toList = data.values.map fun e => tomlLine (e.1, e.2.hex) := by
  have hall : ∀ e ∈ data.values, validateName e.1 = .ok () := by
    intro e he
    have hname : e.1 ∈ data.publicInputs.names ++ data.priv.names := by
      rw [← values_names]
      exact List.mem_map.mpr ⟨e, he, rfl⟩
    rcases List.mem_append.mp hname with hname | hname
    · exact hvalid _ hname
    · exact data.priv.wellFormed.valid _ hname
  have htext : (encodeToml data).toList =
      data.values.flatMap fun e => tomlLine (e.1, e.2.hex) ++ ['\n'] := by
    rw [encodeToml, String.toList_ofList, entries_eq, List.flatMap_map]
  refine ⟨hall, ?_⟩
  rw [htext]
  exact lines_flatMap (fun e he => newline_not_mem_tomlLine (hall e he))
    (fun e _ => dropCr_tomlLine)

/-- reading back an assembled witness gives the values of both sides -/
theorem decode_encodeToml {a : WitnessAssembler} {data : WitnessData}
    (h : a.assemble = .ok data) :
    decodePublicOutputs (encodeToml data) = .ok ⟨data.values⟩ := by
  obtain ⟨hpub, hdisjoint⟩ := WitnessAssembler.assemble_ok h
  have hnodup : (data.values.map Prod.fst).Nodup := by
    rw [values_names]
    refine List.nodup_append.mpr ⟨hpub.nodup, data.priv.wellFormed.nodup, ?_⟩
    rintro n hn _ hn' rfl
    exact hdisjoint hn hn'
  obtain ⟨hvalid, hlines⟩ := lines_encodeToml hpub.valid
  unfold decodePublicOutputs
  rw [hlines]
  exact decode_lines .new hvalid hnodup

/-! ## what `nargo` reads -/

/-- the name and the digits of a line `name = "0x…"` -/
def assignment (line : List Char) : Option (String × List Char) := do
  let (name, raw) ← splitOnce '=' (trim line)
  let quoted ← (stripStart '\"' (trim raw)).bind (stripEnd '\"')
  let digits ← (stripStart '0' quoted).bind (stripStart 'x')
  return (String.ofList (trim name), digits)

def assignments (toml : String) : List (String × List Char) :=
  (lines toml.toList).filterMap assignment

/-- every line gives digits to a valid name -/
def Plain (toml : String) : Prop :=
  ∀ line ∈ lines toml.toList, ∃ name digits, assignment line = some (name, digits) ∧
    validateName name = .ok () ∧ digits.all isHexDigit

theorem assignment_tomlLine {name : String} {value : FieldValue} (h : validateName name = .ok ()) :
    assignment (tomlLine (name, value.hex)) = some (name, value.hex.toList) := by
  obtain ⟨htrim, raw, hsplit, hname, hquoted⟩ := tomlLine_parts value h
  unfold assignment
  simp [htrim, hsplit, hname, hquoted]

/-- the file assigns the values of both sides, and nothing else -/
theorem assignments_encodeToml (data : WitnessData)
    (hvalid : ∀ name ∈ data.publicInputs.names, validateName name = .ok ()) :
    Plain (encodeToml data) ∧
    assignments (encodeToml data) = data.values.map fun e => (e.1, e.2.hex.toList) := by
  obtain ⟨hall, hlines⟩ := lines_encodeToml hvalid
  constructor
  · intro line hline
    rw [hlines] at hline
    obtain ⟨e, he, rfl⟩ := List.mem_map.mp hline
    exact ⟨e.1, _, assignment_tomlLine (hall e he), hall e he, e.2.isHexDigit_hex⟩
  · unfold assignments
    rw [hlines, List.filterMap_map, ← List.filterMap_eq_map]
    exact List.filterMap_congr fun e he => assignment_tomlLine (hall e he)

/-- **What the decoder reads back from an assembled witness is the public bag exactly when there
is no private value**: it returns the private ones after the public ones. -/
theorem decode_public_iff {a : WitnessAssembler} {data : WitnessData}
    (h : a.assemble = .ok data) :
    decodePublicOutputs (encodeToml data) = .ok data.publicInputs ↔ data.priv.isEmpty := by
  rw [decode_encodeToml h]
  have hempty : data.priv.isEmpty ↔ data.priv.bag.entries = [] := List.isEmpty_iff
  rw [hempty]
  constructor
  · intro heq
    have hentries := congrArg Bag.entries (Except.ok.inj heq)
    have hnil := List.append_right_eq_self.mp hentries
    exact List.map_eq_nil_iff.mp hnil
  · intro hnil
    unfold WitnessData.values
    rw [hnil, List.map_nil, List.append_nil]

/-- the sample of the encoder's tests: a public token and a private amount -/
def sampleAssembler : WitnessAssembler where
  operation := .transfer
  publicInputs := ⟨[("token", ⟨"1", canonical_one⟩)]⟩
  priv := ⟨⟨[("amount", ⟨⟨"ab", by decide⟩⟩)]⟩, ⟨by decide, by decide⟩⟩
  requiredPublic := []
  requiredPrivate := []
  wellFormed := ⟨by decide, by decide⟩

def sampleData : WitnessData where
  operation := .transfer
  publicInputs := sampleAssembler.publicInputs
  priv := sampleAssembler.priv

theorem decode_public_iff_sample :
    decodePublicOutputs (encodeToml sampleData) = .ok sampleData.publicInputs ↔
      sampleData.priv.isEmpty := by
  have h : sampleAssembler.assemble = .ok sampleData := rfl
  exact decode_public_iff h

/-- the private amount of the sample is read back as a public value -/
theorem sample_amount_decoded : sampleAssembler.assemble = .ok sampleData ∧
    encodeToml sampleData = "token = \"0x1\"\namount = \"0xab\"\n" ∧
    decodePublicOutputs (encodeToml sampleData)
      = .ok ⟨[("token", ⟨"1", by decide⟩), ("amount", ⟨"ab", by decide⟩)]⟩ ∧
    decodePublicOutputs (encodeToml sampleData) ≠ .ok sampleData.publicInputs := by
  have h : sampleAssembler.assemble = .ok sampleData := rfl
  refine ⟨h, by decide +kernel, decode_encodeToml h, ?_⟩
  rw [decode_encodeToml h]
  intro heq
  exact absurd (congrArg (fun b : PublicInputBag => b.entries.length) (Except.ok.inj heq))
    (by decide)

end Crucible
