import Crucible.Interfaces.Numbers
import Crucible.ProofTypes.Envelope

/-!
# What parsing keeps of the constructors' rules

The identifiers, the digests and the bags of an envelope have constructors that check.  Values and
versions are checked by their readers too; the others are read as they stand in the document.

* `ProofEnvelope.Constructible`   every part of an envelope is one its constructor could have built;
* `ObeysRules`                    the same rules, of the strings that a document has at those places;
* `ProofEnvelope.texts`           reading copies the strings;
* `parsed_constructible_iff`      so what is read is constructible exactly when the document obeys.
-/

namespace Crucible
open Checked Text Serde

/-! ## what the constructors build -/

def CircuitId.Constructible (c : CircuitId) : Prop := ∃ text, CircuitId.new text = .ok c
def BackendId.Constructible (b : BackendId) : Prop := ∃ text, BackendId.new text = .ok b
def ProofFormat.Constructible (f : ProofFormat) : Prop := ∃ text, ProofFormat.new text = some f
def VerificationKeyId.Constructible (k : VerificationKeyId) : Prop :=
  ∃ text, VerificationKeyId.new text = some k
def ArtifactChecksum.Constructible (c : ArtifactChecksum) : Prop :=
  ∃ text, ArtifactChecksum.fromHex text = some c
def RootDigest.Constructible (root : RootDigest) : Prop := ∃ text, RootDigest.fromHex text = some root

/-- a bag that insertions into the empty bag have built -/
def Bag.Constructible {α : Type} (b : Bag α) : Prop :=
  ∃ entries : List (String × α), entries.foldlM (fun b e => b.insert e.1 e.2) Bag.new = .ok b

theorem CircuitId.constructible_iff {c : CircuitId} :
    c.Constructible ↔ ∃ c', CircuitId.new c.id = .ok c' := by
  refine ⟨fun h => ?_, fun h => ?_⟩
  · obtain ⟨text, h⟩ := h
    obtain ⟨_, _, rfl⟩ := new_ok.mp h
    exact ⟨_, h⟩
  · obtain ⟨c', h⟩ := h
    obtain ⟨_, _, rfl⟩ := new_ok.mp h
    exact ⟨c.id, h⟩

theorem BackendId.constructible_iff {b : BackendId} :
    b.Constructible ↔ ∃ b', BackendId.new b.id = .ok b' := by
  refine ⟨fun h => ?_, fun h => ?_⟩
  · obtain ⟨text, h⟩ := h
    obtain ⟨_, _, rfl⟩ := new_ok.mp h
    exact ⟨_, h⟩
  · obtain ⟨b', h⟩ := h
    obtain ⟨_, _, rfl⟩ := new_ok.mp h
    exact ⟨b.id, h⟩

theorem ProofFormat.constructible_iff {f : ProofFormat} :
    f.Constructible ↔ ∃ f', ProofFormat.new f.tag = some f' := by
  unfold Constructible ProofFormat.new
  simp only [Option.ite_none_left_eq_some, Option.some.injEq]
  refine ⟨fun h => ?_, fun h => ?_⟩
  · obtain ⟨text, hlen, h⟩ := h
    exact ⟨f, h ▸ hlen, rfl⟩
  · obtain ⟨_, hlen, _⟩ := h
    exact ⟨f.tag, hlen, rfl⟩

theorem VerificationKeyId.constructible_iff {k : VerificationKeyId} :
    k.Constructible ↔ ∃ k', VerificationKeyId.new k.id = some k' := by
  unfold Constructible VerificationKeyId.new
  simp only [Option.ite_none_left_eq_some, Option.some.injEq]
  refine ⟨fun h => ?_, fun h => ?_⟩
  · obtain ⟨text, hlen, h⟩ := h
    exact ⟨k, h ▸ hlen, rfl⟩
  · obtain ⟨_, hlen, _⟩ := h
    exact ⟨k.id, hlen, rfl⟩

/-- digests are built from 64 digits, in lower case -/
theorem exists_digest256_iff {digest : String} :
    (∃ text, digest256 text = some digest) ↔ IsDigestText digest :=
  ⟨fun ⟨_, h⟩ => digest256_wellFormed h, fun h => ⟨digest, digest256_of_lower h.1 h.2⟩⟩

theorem ArtifactChecksum.constructible_iff {c : ArtifactChecksum} :
    c.Constructible ↔ IsDigestText c.hex := by
  rw [← exists_digest256_iff]
  refine exists_congr fun text => ?_
  rw [fromHex, Option.map_eq_some_iff]
  exact ⟨fun ⟨_, h, hc⟩ => hc ▸ h, fun h => ⟨_, h, rfl⟩⟩

theorem RootDigest.constructible_iff {root : RootDigest} :
    root.Constructible ↔ IsDigestText root.hex := by
  rw [← exists_digest256_iff]
  refine exists_congr fun text => ?_
  rw [fromHex, Option.map_eq_some_iff]
  exact ⟨fun ⟨_, h, hroot⟩ => hroot ▸ h, fun h => ⟨_, h, rfl⟩⟩

section
variable {α : Type} {b b' : Bag α} {entries : List (String × α)}

/-- insertions keep the names valid and distinct -/
theorem Bag.foldlM_insert_wellFormed (hb : b.WellFormed)
    (h : entries.foldlM (fun b e => b.insert e.1 e.2) b = .ok b') : b'.WellFormed := by
  induction entries generalizing b with
  | nil =>
    obtain rfl := pure_ok.mp h
    exact hb
  | cons e entries ih =>
    obtain ⟨b₁, hinsert, h⟩ := bind_ok.mp h
    exact ih (Bag.insert_wellFormed hb hinsert) h

/-- and a bag with valid and distinct names can be inserted entry by entry -/
theorem Bag.foldlM_insert_of_wellFormed (h : Bag.WellFormed ⟨b.entries ++ entries⟩) :
    entries.foldlM (fun b e => b.insert e.1 e.2) b = .ok ⟨b.entries ++ entries⟩ := by
  induction entries generalizing b with
  | nil =>
    rw [List.append_nil]
    rfl
  | cons e entries ih =>
    have hnames : Bag.names ⟨b.entries ++ e :: entries⟩ = b.names ++ e.1 :: entries.map Prod.fst := by
      simp [Bag.names]
    have hvalid : validateName e.1 = .ok () := h.valid e.1 (by rw [hnames]; simp)
    have hnew : e.1 ∉ b.names := by
      have hnodup := h.nodup
      rw [hnames] at hnodup
      exact fun hmem => (List.nodup_append.mp hnodup).2.2 _ hmem _ List.mem_cons_self rfl
    have hassoc : b.entries ++ e :: entries = b.entries ++ [e] ++ entries := by simp
    rw [List.foldlM_cons, Bag.insert_new hvalid hnew]
    show entries.foldlM _ (⟨b.entries ++ [e]⟩ : Bag α) = _
    rw [hassoc] at h ⊢
    exact ih h

theorem Bag.constructible_iff : b.Constructible ↔ b.WellFormed :=
  ⟨fun ⟨_, h⟩ => Bag.foldlM_insert_wellFormed Bag.new_wellFormed h,
    fun h => ⟨b.entries, Bag.foldlM_insert_of_wellFormed (b := Bag.new) h⟩⟩

end

/-- every part of the envelope is one its validating constructor could have built; its values and
versions are by their types -/
structure ProofEnvelope.Constructible (e : ProofEnvelope) : Prop where
  circuit : e.circuit.Constructible
  backend : e.backend.Constructible
  format : e.proof.format.Constructible
  verificationKeyId : e.verificationKeyId.Constructible
  artifactChecksum : e.artifactChecksum.Constructible
  root : ∀ state, e.stateReference = some state → state.root.Constructible
  publicOutputs : e.publicOutputs.Constructible

/-! ## what a document says -/

def envelopeFields : List String :=
  ["version", "operation", "circuit", "circuit_version", "backend", "proof", "public_outputs",
    "verification_key_id", "artifact_checksum", "state_reference", "metadata"]

/-- the name in an entry of a bag -/
def entryName : Json → Option String
  | .arr (.str name :: _) => some name
  | _ => none

/-- the names in the entries of a bag -/
def entryNames (bag : Json) : List String :=
  match bag.part ["entries"] "entries" with
  | some (.arr items) => items.filterMap entryName
  | _ => []

/-- the strings of the document obey the rules of the constructors -/
structure ObeysRules (j : Json) : Prop where
  circuit : ∀ s, j.textAt envelopeFields "circuit" = some s → ∃ c, CircuitId.new s = .ok c
  backend : ∀ s, j.textAt envelopeFields "backend" = some s → ∃ b, BackendId.new s = .ok b
  format : ∀ proof s, j.part envelopeFields "proof" = some proof →
    proof.textAt ["format", "bytes"] "format" = some s → ∃ f, ProofFormat.new s = some f
  verificationKeyId : ∀ s, j.textAt envelopeFields "verification_key_id" = some s →
    ∃ k, VerificationKeyId.new s = some k
  artifactChecksum : ∀ s, j.textAt envelopeFields "artifact_checksum" = some s → IsDigestText s
  root : ∀ state s, j.part envelopeFields "state_reference" = some state →
    state.textAt ["root", "sequence", "label"] "root" = some s → IsDigestText s
  publicOutputs : ∀ bag, j.part envelopeFields "public_outputs" = some bag →
    (∀ name ∈ entryNames bag, validateName name = .ok ()) ∧ (entryNames bag).Nodup

/-! ## reading copies the strings -/

section
variable {j : Json}

theorem entryName_of_read {α : Type} [Wire α] {entry : String × α} (h : fromJson j = .ok entry) :
    entryName j = some entry.1 := by
  cases j with
  | arr items =>
    rcases items with _ | ⟨name, _ | ⟨value, _ | ⟨_, _⟩⟩⟩
    · cases h
    · cases h
    · obtain ⟨s, hs, h⟩ := bind_ok.mp h
      obtain ⟨v, _, h⟩ := bind_ok.mp h
      obtain rfl := pure_ok.mp h
      rw [string_ok.mp hs]
      rfl
    · cases h
  | _ => cases h

theorem filterMap_entryName {α : Type} [Wire α] {items : List Json} {entries : List (String × α)}
    (h : List.Forall₂ (fun item entry => fromJson item = .ok entry) items entries) :
    items.filterMap entryName = entries.map Prod.fst := by
  induction h with
  | nil => rfl
  | cons hentry _ ih => rw [List.filterMap_cons_some (entryName_of_read hentry), ih, List.map_cons]

theorem entryNames_of_read {b : PublicInputBag} (h : fromJson j = .ok b) :
    entryNames j = b.names := by
  obtain ⟨fields, hfields, h⟩ := bind_ok.mp h
  obtain ⟨entries, hentries, h⟩ := bind_ok.mp h
  obtain rfl := pure_ok.mp h
  obtain ⟨list, hlookup, hlist⟩ := required_ok.mp hentries
  unfold entryNames
  rw [part_of_fieldsOf hfields, hlookup]
  cases list with
  | arr items =>
    exact filterMap_entryName (mapM_ok (show items.mapM fromJson = .ok entries from hlist))
  | _ => cases hlist

theorem formatText_of_read {p : ProofBlob} (h : fromJson j = .ok p) :
    j.textAt ["format", "bytes"] "format" = some p.format.tag := by
  obtain ⟨fields, hfields, h⟩ := bind_ok.mp h
  obtain ⟨format, hformat, h⟩ := bind_ok.mp h
  obtain ⟨digits, _, h⟩ := bind_ok.mp h
  obtain ⟨bytes, _, h⟩ := bind_ok.mp h
  obtain rfl := pure_ok.mp h
  exact textAt_of_required (fun _ => rfl) (fun _ => rfl) hfields hformat

theorem rootText_of_read {state : StateReference} (h : fromJson j = .ok state) :
    j.textAt ["root", "sequence", "label"] "root" = some state.root.hex := by
  obtain ⟨fields, hfields, h⟩ := bind_ok.mp h
  obtain ⟨root, hroot, h⟩ := bind_ok.mp h
  obtain ⟨sequence, _, h⟩ := bind_ok.mp h
  obtain ⟨label, _, h⟩ := bind_ok.mp h
  obtain rfl := pure_ok.mp h
  exact textAt_of_required (fun _ => rfl) (fun _ => rfl) hfields hroot

/-- the strings of the document are those of the envelope that is read from it -/
theorem ProofEnvelope.texts {e : ProofEnvelope} (h : Serde.fromJson j = .ok e) :
    j.textAt envelopeFields "circuit" = some e.circuit.id ∧
    j.textAt envelopeFields "backend" = some e.backend.id ∧
    (∃ proof, j.part envelopeFields "proof" = some proof ∧
      proof.textAt ["format", "bytes"] "format" = some e.proof.format.tag) ∧
    (∃ bag, j.part envelopeFields "public_outputs" = some bag ∧
      entryNames bag = e.publicOutputs.names) ∧
    j.textAt envelopeFields "verification_key_id" = some e.verificationKeyId.id ∧
    j.textAt envelopeFields "artifact_checksum" = some e.artifactChecksum.hex ∧
    ((e.stateReference = none ∧
        ∀ state, j.part envelopeFields "state_reference" = some state → state = .null) ∨
      ∃ json state, j.part envelopeFields "state_reference" = some json ∧
        e.stateReference = some state ∧
        json.textAt ["root", "sequence", "label"] "root" = some state.root.hex) := by
  obtain ⟨fields, hfields, h⟩ := bind_ok.mp h
  obtain ⟨version, _, h⟩ := bind_ok.mp h
  obtain ⟨operation, _, h⟩ := bind_ok.mp h
  obtain ⟨circuit, hcircuit, h⟩ := bind_ok.mp h
  obtain ⟨circuitVersion, _, h⟩ := bind_ok.mp h
  obtain ⟨backend, hbackend, h⟩ := bind_ok.mp h
  obtain ⟨proof, hproof, h⟩ := bind_ok.mp h
  obtain ⟨outputs, houtputs, h⟩ := bind_ok.mp h
  obtain ⟨key, hkey, h⟩ := bind_ok.mp h
  obtain ⟨checksum, hchecksum, h⟩ := bind_ok.mp h
  obtain ⟨state, hstate, h⟩ := bind_ok.mp h
  obtain ⟨metadata, _, h⟩ := bind_ok.mp h
  obtain rfl := pure_ok.mp h
  obtain ⟨proofJson, hproofJson, hproof⟩ := required_ok.mp hproof
  obtain ⟨outputsJson, houtputsJson, houtputs⟩ := required_ok.mp houtputs
  refine ⟨textAt_of_required (fun _ => rfl) (fun _ => rfl) hfields hcircuit,
    textAt_of_required (fun _ => rfl) (fun _ => rfl) hfields hbackend,
    ⟨proofJson, (part_of_fieldsOf hfields).trans hproofJson, formatText_of_read hproof⟩,
    ⟨outputsJson, (part_of_fieldsOf hfields).trans houtputsJson, entryNames_of_read houtputs⟩,
    textAt_of_required (fun _ => rfl) (fun _ => rfl) hfields hkey,
    textAt_of_required (fun _ => rfl) (fun _ => rfl) hfields hchecksum, ?_⟩
  rcases optional_ok hstate with ⟨hnone, hnull⟩ | ⟨json, s, hjson, hs, hread⟩
  · exact .inl ⟨hnone, fun json hj => hnull json ((part_of_fieldsOf hfields).symm.trans hj)⟩
  · exact .inr ⟨json, s, (part_of_fieldsOf hfields).trans hjson, hs, rootText_of_read hread⟩

end

/-- **What is read from a text is constructible exactly when its document obeys the rules of the
constructors**: the readers check none of them. -/
theorem parsed_constructible_iff {text : JsonText} {json : String} {e : ProofEnvelope}
    (h : ProofEnvelope.fromJson text json = .ok e) :
    ∃ j, text.parse json.toUTF8.data.toList = .ok j ∧ (e.Constructible ↔ ObeysRules j) := by
  obtain ⟨_, j, hparse, hread⟩ := ProofEnvelope.fromJson_ok.mp h
  obtain ⟨hcircuit, hbackend, ⟨proof, hproof, hformat⟩, ⟨bag, hbag, hnames⟩, hkey, hchecksum,
    hstate⟩ := ProofEnvelope.texts hread
  refine ⟨j, hparse, ?_⟩
  refine ⟨fun hc => ?_, fun ho => ?_⟩
  · refine ⟨fun s hs => ?_, fun s hs => ?_, fun p s hp hs => ?_, fun s hs => ?_, fun s hs => ?_,
      fun p s hp hs => ?_, fun p hp => ?_⟩
    · obtain rfl := Option.some.inj (hcircuit.symm.trans hs)
      exact CircuitId.constructible_iff.mp hc.circuit
    · obtain rfl := Option.some.inj (hbackend.symm.trans hs)
      exact BackendId.constructible_iff.mp hc.backend
    · obtain rfl := Option.some.inj (hproof.symm.trans hp)
      obtain rfl := Option.some.inj (hformat.symm.trans hs)
      exact ProofFormat.constructible_iff.mp hc.format
    · obtain rfl := Option.some.inj (hkey.symm.trans hs)
      exact VerificationKeyId.constructible_iff.mp hc.verificationKeyId
    · obtain rfl := Option.some.inj (hchecksum.symm.trans hs)
      exact ArtifactChecksum.constructible_iff.mp hc.artifactChecksum
    · rcases hstate with ⟨_, hnull⟩ | ⟨p', state, hp', hstate, hroot⟩
      · rw [hnull p hp] at hs
        cases hs
      · obtain rfl := Option.some.inj (hp'.symm.trans hp)
        obtain rfl := Option.some.inj (hroot.symm.trans hs)
        exact RootDigest.constructible_iff.mp (hc.root state hstate)
    · obtain rfl := Option.some.inj (hbag.symm.trans hp)
      obtain ⟨hvalid, hnodup⟩ := Bag.constructible_iff.mp hc.publicOutputs
      rw [hnames]
      exact ⟨hvalid, hnodup⟩
  · refine ⟨CircuitId.constructible_iff.mpr (ho.circuit _ hcircuit),
      BackendId.constructible_iff.mpr (ho.backend _ hbackend),
      ProofFormat.constructible_iff.mpr (ho.format _ _ hproof hformat),
      VerificationKeyId.constructible_iff.mpr (ho.verificationKeyId _ hkey),
      ArtifactChecksum.constructible_iff.mpr (ho.artifactChecksum _ hchecksum),
      fun state hs => ?_, Bag.constructible_iff.mpr ?_⟩
    · rcases hstate with ⟨hnone, _⟩ | ⟨p, state', hp, hstate, hroot⟩
      · cases hnone.symm.trans hs
      · obtain rfl := Option.some.inj (hstate.symm.trans hs)
        exact RootDigest.constructible_iff.mpr (ho.root _ _ hp hroot)
    · obtain ⟨hvalid, hnodup⟩ := ho.publicOutputs _ hbag
      rw [hnames] at hvalid hnodup
      exact ⟨hvalid, hnodup⟩

/-- an envelope that breaks the rule of every part -/
def lawlessEnvelope : ProofEnvelope where
  version := envelopeV1
  operation := .register
  circuit := ⟨"a/b"⟩
  circuitVersion := { major := 0, minor := 1, patch := 0 }
  backend := ⟨""⟩
  proof := { format := ⟨""⟩, bytes := [] }
  publicOutputs := ⟨[("Root", .zero), ("Root", .zero)]⟩
  verificationKeyId := ⟨""⟩
  artifactChecksum := ⟨"AB"⟩
  stateReference := some { root := ⟨"ab"⟩, sequence := 0, label := none }
  metadata := { requestId := ⟨"r"⟩, producedBy := "" }

theorem lawlessEnvelope_read : ProofEnvelope.fromJson (.knowing (toJson lawlessEnvelope))
    (Json.compact (toJson lawlessEnvelope)) = .ok lawlessEnvelope :=
  ProofEnvelope.fromJson_toJson JsonText.knowing_parse (UInt32.le_refl _) rfl

theorem parsed_constructible_iff_lawless : ∃ j,
    (JsonText.knowing (toJson lawlessEnvelope)).parse
      (Json.compact (toJson lawlessEnvelope)).toUTF8.data.toList = .ok j ∧
    (lawlessEnvelope.Constructible ↔ ObeysRules j) :=
  parsed_constructible_iff lawlessEnvelope_read

/-- it is read, and no constructor builds any of its parts -/
theorem lawless_read_unconstructible :
    ProofEnvelope.fromJson (.knowing (toJson lawlessEnvelope))
      (Json.compact (toJson lawlessEnvelope)) = .ok lawlessEnvelope ∧
    ¬ lawlessEnvelope.circuit.Constructible ∧ ¬ lawlessEnvelope.backend.Constructible ∧
    ¬ lawlessEnvelope.proof.format.Constructible ∧
    ¬ lawlessEnvelope.verificationKeyId.Constructible ∧
    ¬ lawlessEnvelope.artifactChecksum.Constructible ∧
    ¬ (∀ state, lawlessEnvelope.stateReference = some state → state.root.Constructible) ∧
    ¬ lawlessEnvelope.publicOutputs.Constructible := by
  refine ⟨lawlessEnvelope_read, ?_, ?_, ?_, ?_, ?_, ?_, ?_⟩
  · intro h
    obtain ⟨c, hc⟩ := CircuitId.constructible_iff.mp h
    exact absurd (CircuitId.new_ok.mp hc).2.1 (by decide)
  · intro h
    obtain ⟨b, hb⟩ := BackendId.constructible_iff.mp h
    exact (BackendId.new_ok.mp hb).1 (.inl rfl)
  · intro h
    obtain ⟨f, hf⟩ := ProofFormat.constructible_iff.mp h
    cases hf
  · intro h
    obtain ⟨k, hk⟩ := VerificationKeyId.constructible_iff.mp h
    cases hk
  · intro h
    exact absurd (ArtifactChecksum.constructible_iff.mp h).1 (by decide)
  · intro h
    exact absurd (RootDigest.constructible_iff.mp (h _ rfl)).1 (by decide)
  · intro h
    exact absurd (Bag.constructible_iff.mp h).nodup (by decide)

end Crucible
