import Crucible.Artifacts.Manifest
import Crucible.Mock.Tamper
import Crucible.ProofTypes.Envelope
import Crucible.Schemas.Published

/-!
# Whether what is emitted is what is published

The envelope of a proof and the text of a manifest, against the schemas.

* `Schemas.…_str`, `Schemas.…_json`   what the schemas say of the documents of the types;
* `MockProver.envelope_conforms`      an envelope is as published where the bytes of its proof are,
* `MockProver.bytes_not_hex`          and they are not: there are too many of them;
* `ArtifactManifest.Conforms`         what a manifest has to be, to be as published;
* `emitted_published_iff`             both together.
-/

namespace Crucible
open Checked Text Serde JsonSchema

namespace Schemas

section
variable {s : String}

@[simp] theorem string_str : string (.str s) := rfl

theorem maxLength_str {n : Nat} : maxLength n (.str s) ↔ s.toList.length ≤ n := decide_eq_true_iff

theorem minLength_str {n : Nat} : minLength n (.str s) ↔ n ≤ s.toList.length := decide_eq_true_iff

/-- one repeated class -/
theorem pattern_str {p : Piece} : pattern [p] (.str s) ↔ p.admits s.toList := fits_singleton

theorem hex_str : hex (.str s) ↔
    s.toList ≠ [] ∧ s.toList.length ≤ 64 ∧ ∀ c ∈ s.toList, isLowerHex c := by
  unfold hex
  simp only [schema_iff, List.forall_mem_cons, List.not_mem_nil, false_implies, implies_true,
    and_true, string_str, true_and, pattern_str, maxLength_str, Piece.admits_iff, reduceCtorEq]
  constructor
  · intro h
    exact ⟨List.length_pos_iff.mp h.1.2, h.2, h.1.1⟩
  · intro h
    exact ⟨⟨h.2.2, List.length_pos_iff.mpr h.1⟩, h.2.1⟩

theorem hex64_str : hex64 (.str s) ↔ s.toList.length = 64 ∧ ∀ c ∈ s.toList, isLowerHex c := by
  unfold hex64
  simp only [schema_iff, List.forall_mem_cons, List.not_mem_nil, false_implies, implies_true,
    and_true, string_str, true_and, pattern_str, Piece.admits_iff, Option.some.injEq,
    forall_eq']
  constructor
  · intro h
    exact ⟨Nat.le_antisymm h.2.2 h.2.1, h.1⟩
  · intro h
    exact ⟨h.2, h.1.ge, h.1.le⟩

theorem circuitId_str : circuitId (.str s) ↔
    s.toList ≠ [] ∧ s.toList.length ≤ 128 ∧ ∀ c ∈ s.toList, isCircuitIdChar c := by
  have hchar (c : Char) : (isAsciiAlphanumeric c || c == '.' || c == '_' || c == '-')
      = isCircuitIdChar c := by
    unfold isCircuitIdChar
    cases isAsciiAlphanumeric c <;> cases c == '.' <;> cases c == '_' <;> cases c == '-' <;> rfl
  unfold circuitId
  simp only [schema_iff, List.forall_mem_cons, List.not_mem_nil, false_implies, implies_true,
    and_true, string_str, true_and, pattern_str, Piece.admits_iff, Option.some.injEq,
    forall_eq', hchar]
  constructor
  · intro h
    exact ⟨List.length_pos_iff.mp h.2.1, h.2.2, h.1⟩
  · intro h
    exact ⟨h.2.2, List.length_pos_iff.mpr h.1, h.2.1⟩

end

/-- a version is three numbers -/
theorem semver_display (v : Version) : semver (.str v.display) := by
  have hdigits (n : Nat) : (Piece.mk isAsciiDigit 1 none).admits (Nat.toDigits 10 n) := by
    rw [Piece.admits_iff]
    refine ⟨fun c hc => isAsciiDigit_toDigits hc, Nat.length_toDigits_pos, ?_⟩
    intro most hmost
    cases hmost
  have hdot : (Piece.mk (· == '.') 1 (some 1)).admits ['.'] := by decide
  have hlist : v.display.toList = Nat.toDigits 10 v.major.toNat ++ (['.'] ++
      (Nat.toDigits 10 v.minor.toNat ++ (['.'] ++ Nat.toDigits 10 v.patch.toNat))) := by
    simp only [Version.display, String.toList_append, Nat.toString_eq_ofList_toDigits,
      String.toList_ofList, List.append_assoc]
    rfl
  have hfits : fits [⟨isAsciiDigit, 1, none⟩, ⟨(· == '.'), 1, some 1⟩, ⟨isAsciiDigit, 1, none⟩,
      ⟨(· == '.'), 1, some 1⟩, ⟨isAsciiDigit, 1, none⟩] v.display.toList := by
    rw [hlist]
    apply fits_append (hdigits _)
    apply fits_append hdot
    apply fits_append (hdigits _)
    apply fits_append hdot
    exact fits_singleton.mpr (hdigits _)
  exact schema_pair.mpr ⟨rfl, hfits⟩

theorem stateReference_json {s : StateReference} (h : s.root.WellFormed) :
    stateReference (toJson s) := by
  have hroot : hex64 (toJson s.root) := hex64_str.mpr ⟨h.1, List.all_eq_true.mp h.2⟩
  have hsequence : schema [type [.integer], minimum 0] (toJson s.sequence) :=
    schema_pair.mpr ⟨integer_natCast _, minimum_natCast (Nat.zero_le _)⟩
  have hlabel : type [.string, .null] (optJson s.label) := by
    cases s.label <;> rfl
  show stateReference (.obj [("root", toJson s.root), ("sequence", toJson s.sequence),
    ("label", optJson s.label)])
  unfold stateReference
  rw [object_iff]
  refine ⟨?_, by simp⟩
  simp only [List.forall_mem_cons, List.not_mem_nil, false_implies, implies_true, and_true]
  exact ⟨hroot, hsequence, hlabel⟩

/-- an entry of a bag is an array of two, and no two of the entries are the same document -/
theorem fieldBag_json {b : PublicInputBag} (h : b.names.Nodup) : fieldBag (toJson b) := by
  have hsame (a c : String × FieldValue) : same (toJson a) (toJson c) ↔ a = c := by
    show same (.arr [.str a.1, .str a.2.hex]) (.arr [.str c.1, .str c.2.hex]) ↔ _
    simp only [same, sameItems, Bool.and_eq_true, beq_iff_eq, List.isEmpty_nil, and_true]
    constructor
    · intro hboth
      exact Prod.ext hboth.1 (FieldValue.eq_of_hex hboth.2)
    · rintro rfl
      exact ⟨rfl, rfl⟩
  have hentries : schema [type [.array],
      items (schema [type [.array], minItems 2, maxItems 2]), uniqueItems] (toJson b.entries) := by
    rw [schema_iff, List.forall_mem_cons, List.forall_mem_cons, List.forall_mem_singleton]
    refine ⟨rfl, ?_, (distinct_map hsame b.entries).mpr h.of_map⟩
    show items _ (.arr (b.entries.map toJson))
    rw [items_arr, List.forall_mem_map]
    intro entry _
    rfl
  show fieldBag (.obj [("entries", toJson b.entries)])
  unfold fieldBag
  rw [object_iff]
  refine ⟨?_, by simp⟩
  rw [List.forall_mem_singleton]
  exact hentries

/-- what is said of the bytes is said of their digits -/
theorem proofBlob_json {p : ProofBlob} {bytes : Schema} (h : p.format.tag.toList.length ≤ 64) :
    proofBlob bytes (toJson p) ↔ bytes (.str (hexEncode p.bytes)) := by
  have hformat : schema [string, maxLength 64] (toJson p.format) :=
    schema_pair.mpr ⟨rfl, maxLength_str.mpr h⟩
  show proofBlob bytes (.obj [("format", toJson p.format),
    ("bytes", .str (hexEncode p.bytes))]) ↔ _
  unfold proofBlob
  rw [object_iff]
  constructor
  · intro hall
    exact hall.1 _ (List.mem_cons_of_mem _ List.mem_cons_self)
  · intro hbytes
    refine ⟨?_, by simp⟩
    simp only [List.forall_mem_cons, List.not_mem_nil, false_implies, implies_true, and_true]
    exact ⟨hformat, hbytes⟩

theorem metadata_json {m : EnvelopeMetadata} (hid : m.requestId.id.toList ≠ [])
    (hproducer : m.producedBy.toList ≠ []) : metadata (toJson m) := by
  have hstring {s : String} (hs : s.toList ≠ []) : schema [string, minLength 1] (.str s) :=
    schema_pair.mpr ⟨rfl, minLength_str.mpr (List.length_pos_iff.mpr hs)⟩
  show metadata (.obj [("request_id", toJson m.requestId), ("produced_by", toJson m.producedBy)])
  unfold metadata
  rw [object_iff]
  refine ⟨?_, by simp⟩
  simp only [List.forall_mem_cons, List.not_mem_nil, false_implies, implies_true, and_true]
  exact ⟨hstring hid, hstring hproducer⟩

theorem operation_json (op : Operation) : operation (toJson op) := by
  show operation (.str op.asStr)
  refine schema_pair.mpr ⟨rfl, enum_iff.mpr ⟨.str op.asStr, ?_, same_str.mpr rfl⟩⟩
  cases op <;> simp [Operation.asStr]

/-- every part of an envelope but the bytes of its proof is as published, so these decide -/
theorem proofEnvelopeOf_json {e : ProofEnvelope} {bytes : Schema}
    (hversion : 1 ≤ e.version.toNat) (hcircuit : circuitId (toJson e.circuit))
    (hbackend : e.backend.id.toList.length ≤ 64) (hformat : e.proof.format.tag.toList.length ≤ 64)
    (houtputs : e.publicOutputs.names.Nodup)
    (hkey : VerificationKeyId.new e.verificationKeyId.id = some e.verificationKeyId)
    (hchecksum : hex64 (toJson e.artifactChecksum))
    (hroot : ∀ s, e.stateReference = some s → s.root.WellFormed)
    (hid : e.metadata.requestId.id.toList ≠ []) (hproducer : e.metadata.producedBy.toList ≠ []) :
    proofEnvelopeOf bytes (toJson e) ↔ bytes (.str (hexEncode e.proof.bytes)) := by
  have hversion : schema [type [.integer], minimum 1] (toJson e.version) :=
    schema_pair.mpr ⟨integer_natCast _, minimum_natCast hversion⟩
  have hsemver : semver (toJson e.circuitVersion) := semver_display e.circuitVersion
  have hbackend : schema [string, maxLength 64] (toJson e.backend) :=
    schema_pair.mpr ⟨rfl, maxLength_str.mpr hbackend⟩
  have hkey : schema [string, minLength 1, maxLength 128] (toJson e.verificationKeyId) := by
    obtain ⟨hne, hlen⟩ := not_or.mp (VerificationKeyId.new_eq_some.mp hkey).1
    rw [schema_iff, List.forall_mem_cons, List.forall_mem_cons, List.forall_mem_singleton]
    refine ⟨rfl, minLength_str.mpr (List.length_pos_iff.mpr hne), maxLength_str.mpr ?_⟩
    exact (length_le_byteLen _).trans (Nat.le_of_not_lt hlen)
  have hstate : anyOf [stateReference, type [.null]] (optJson e.stateReference) := by
    show (stateReference (optJson e.stateReference) ||
      (type [.null] (optJson e.stateReference) || false)) = true
    cases hs : e.stateReference with
    | none => rfl
    | some s =>
      show (stateReference (toJson s) || _) = true
      rw [stateReference_json (hroot s hs)]
      rfl
  show proofEnvelopeOf bytes (.obj [("version", toJson e.version),
    ("operation", toJson e.operation), ("circuit", toJson e.circuit),
    ("circuit_version", toJson e.circuitVersion), ("backend", toJson e.backend),
    ("proof", toJson e.proof), ("public_outputs", toJson e.publicOutputs),
    ("verification_key_id", toJson e.verificationKeyId),
    ("artifact_checksum", toJson e.artifactChecksum),
    ("state_reference", optJson e.stateReference), ("metadata", toJson e.metadata)]) ↔ _
  rw [← proofBlob_json hformat]
  unfold proofEnvelopeOf
  rw [object_iff]
  constructor
  · intro hall
    exact hall.1 ("proof", toJson e.proof)
      (by simp only [List.mem_cons, true_or, or_true])
  · intro hproof
    refine ⟨?_, by simp⟩
    simp only [List.forall_mem_cons, List.not_mem_nil, false_implies, implies_true, and_true,
      List.lookup_cons, String.reduceBEq, Option.getD_some]
    exact ⟨hversion, operation_json e.operation, hcircuit, hsemver, hbackend, hproof,
      fieldBag_json houtputs, hkey, hchecksum, hstate, metadata_json hid hproducer⟩

end Schemas

/-! ## envelopes of the mock prover -/

section
variable {sha256 : List UInt8 → List UInt8} {text : JsonText} {prover : MockProver}
  {r : ProofRequest} {response : ProofResponse} {op : Operation} {producedBy : String}

/-- the envelope of a mock response is as published, up to the bytes of the proof -/
theorem MockProver.envelope_conforms {bytes : Schema} (hsha : ∀ bytes, (sha256 bytes).length = 32)
    (hbuilt : r.Built) (hid : r.requestId.id.toList ≠ [])
    (hgen : prover.generate sha256 text r = .ok response) (hproducer : producedBy.toList ≠ []) :
    Schemas.proofEnvelopeOf bytes (toJson (ProofEnvelope.fromResponse response op producedBy)) ↔
      bytes (.str (hexEncode response.proof.bytes)) := by
  obtain ⟨_, _, vkId, hvkId, rfl⟩ := generate_ok.mp hgen
  have hcircuit : Schemas.circuitId (toJson r.circuit) := by
    obtain ⟨hlen, hchars, _⟩ := CircuitId.new_ok.mp hbuilt.circuit
    obtain ⟨hne, hlen⟩ := not_or.mp hlen
    refine Schemas.circuitId_str.mpr ⟨hne, ?_, List.all_eq_true.mp hchars⟩
    exact (length_le_byteLen _).trans (Nat.le_of_not_lt hlen)
  have hchecksum : Schemas.hex64 (toJson (artifactChecksumFor sha256 r.circuit r.circuitVersion)) := by
    refine Schemas.hex64_str.mpr ⟨?_, List.all_eq_true.mp hexEncode_isLowerHex⟩
    exact hexEncode_length.trans (congrArg (2 * ·) (hsha _))
  have hkey : VerificationKeyId.new vkId.id = some vkId := by
    obtain ⟨hlen, rfl⟩ := VerificationKeyId.new_eq_some.mp hvkId
    exact VerificationKeyId.new_eq_some.mpr ⟨hlen, rfl⟩
  have hbackend : mockBackend.id.toList.length ≤ 64 := by decide
  have hformat : mockFormat.toList.length ≤ 64 := by decide
  exact Schemas.proofEnvelopeOf_json (Nat.le_refl 1) hcircuit hbackend hformat
    hbuilt.publicInputs.nodup hkey hchecksum hbuilt.root hid hproducer

/-- a mock proof is longer than what the schema takes for its bytes -/
theorem MockProver.bytes_not_hex (hsha : ∀ bytes, (sha256 bytes).length = 32)
    (htext : ∀ fields, text.render (.obj fields) ≠ "") (hgen : prover.generate sha256 text r = .ok response) :
    ¬ Schemas.hex (.str (hexEncode response.proof.bytes)) := by
  intro hhex
  have hlen := (Schemas.hex_str.mp hhex).2.1
  obtain ⟨hpayload, hdigest⟩ := parts_of_generate hsha hgen
  have hpos : 0 < (payloadOf response.proof.bytes).length := by
    rw [hpayload]
    exact List.length_pos_iff.mpr (Utf8.toUTF8_ne_nil (htext _))
  have htail : (digestOf response.proof.bytes).length = 32 := by
    rw [hdigest]
    exact hsha _
  rw [hexEncode_length, ← payloadOf_append_digestOf response.proof.bytes, List.length_append,
    htail] at hlen
  omega

end

/-! ## manifests -/

/-- a manifest that is as published: it has a key id, no file is listed twice, and what the types
leave open is within the bounds -/
structure ArtifactManifest.Conforms (m : ArtifactManifest) : Prop where
  circuit : m.circuit.id.toList ≠ [] ∧ m.circuit.id.toList.length ≤ 128 ∧
    ∀ c ∈ m.circuit.id.toList, isCircuitIdChar c
  backend : m.backend.id.toList.length ≤ 64
  key : ∃ id, m.verificationKeyId = some id ∧ id.id.toList.length ≤ 128
  checksums : ∀ file ∈ m.files, file.sha256.hex.toList.length = 64 ∧
    ∀ c ∈ file.sha256.hex.toList, isLowerHex c
  files : m.files.Nodup

namespace Schemas

/-- a safe path does not start at the root, and has no backslash -/
theorem path_str {path : String} (h : isSafeRelativePath path) :
    pattern [⟨fun c => c != '/' && c != '\\', 1, some 1⟩, ⟨fun c => c != '\\', 0, none⟩]
      (.str path) := by
  simp only [isSafeRelativePath, Bool.and_eq_true, decide_eq_true_eq] at h
  obtain ⟨⟨⟨⟨hne, hroot⟩, hslash⟩, _⟩, _⟩ := h
  show fits _ path.toList
  cases hlist : path.toList with
  | nil => exact absurd hlist hne
  | cons c cs =>
    rw [hlist] at hroot hslash
    have hc : c ≠ '/' := by simpa using hroot
    obtain ⟨hc', hcs⟩ := not_or.mp fun h => hslash (List.mem_cons.mpr h)
    have hfirst : (Piece.mk (fun c => c != '/' && c != '\\') 1 (some 1)).admits [c] := by
      simp [Piece.admits, hc, Ne.symm hc']
    have hrest : (Piece.mk (fun c => c != '\\') 0 none).admits cs := by
      rw [Piece.admits_iff]
      refine ⟨fun d hd => bne_iff_ne.mpr fun heq => hcs (heq ▸ hd), Nat.zero_le _, ?_⟩
      intro most hmost
      cases hmost
    exact fits_append hfirst (fits_singleton.mpr hrest)

/-- files with the same document are the same: the kind that is missing is not one that is there -/
theorem same_file {f g : ManifestFile} : same f.json g.json ↔ f = g := by
  have hhex {a b : ArtifactChecksum} : a = b ↔ a.hex = b.hex :=
    ⟨fun h => congrArg ArtifactChecksum.hex h, fun h => congrArg ArtifactChecksum.mk h⟩
  obtain ⟨path, sha256, kind⟩ := f
  obtain ⟨path', sha256', kind'⟩ := g
  cases kind <;> cases kind' <;>
    simp [ManifestFile.json, optField, same, sameFields, sameField, List.lookup_cons, hhex]

/-- a file of a manifest is as published, up to its digest -/
theorem manifestFile_json {file : ManifestFile} (h : isSafeRelativePath file.path) :
    manifestFile file.json ↔ hex64 (.str file.sha256.hex) := by
  have hkind (kind : String) : type [.string, .null] (.str kind) := rfl
  unfold manifestFile ManifestFile.json optField
  rw [object_iff]
  cases file.kind <;> simp [List.lookup_cons, path_str h, hkind]

/-- the files are as published where their digests are, and none of them is there twice -/
theorem files_json {files : List ManifestFile}
    (hpaths : ∀ file ∈ files, isSafeRelativePath file.path) (hne : files ≠ []) :
    schema [type [.array], minItems 1, items manifestFile, uniqueItems]
        (.arr (files.map ManifestFile.json)) ↔
      (∀ file ∈ files, hex64 (.str file.sha256.hex)) ∧ files.Nodup := by
  have hmin : minItems 1 (.arr (files.map ManifestFile.json)) := by
    show decide (1 ≤ (files.map ManifestFile.json).length) = true
    rw [decide_eq_true_eq, List.length_map]
    exact List.length_pos_iff.mpr hne
  have hitems : items manifestFile (.arr (files.map ManifestFile.json)) ↔
      ∀ file ∈ files, hex64 (.str file.sha256.hex) := by
    rw [items_arr, List.forall_mem_map]
    exact forall₂_congr fun file hfile => manifestFile_json (hpaths file hfile)
  have hunique : uniqueItems (.arr (files.map ManifestFile.json)) ↔ files.Nodup :=
    distinct_map (fun _ _ => same_file) files
  rw [schema_iff, List.forall_mem_cons, List.forall_mem_cons, List.forall_mem_cons,
    List.forall_mem_singleton, hitems, hunique]
  exact ⟨fun h => h.2.2, fun h => ⟨rfl, hmin, h⟩⟩

theorem artifactManifest_document {m : ArtifactManifest}
    (hversion : m.manifestVersion = manifestSchemaVersion)
    (hpaths : ∀ file ∈ m.files, isSafeRelativePath file.path) (hne : m.files ≠ []) :
    artifactManifest m.document ↔ m.Conforms := by
  have hversion : schema [type [.integer], minimum 1] (.int m.manifestVersion.toNat) := by
    rw [hversion]
    exact schema_pair.mpr ⟨integer_natCast _, minimum_natCast (Nat.le_refl 1)⟩
  have hmetadata : schema [type [.object], properties [] string]
      (.obj (m.backendMetadata.map fun e => (e.1, .str e.2))) := by
    rw [schema_pair, properties_obj, List.forall_mem_map]
    exact ⟨rfl, fun _ _ => rfl⟩
  have hbackend : schema [string, maxLength 64] (.str m.backend.id) ↔
      m.backend.id.toList.length ≤ 64 := by
    rw [schema_pair, maxLength_str]
    exact and_iff_right rfl
  unfold artifactManifest ArtifactManifest.document
  rw [object_iff]
  cases hid : m.verificationKeyId with
  | none =>
    -- the schema requires the field that is left out
    refine iff_of_false (fun h => ?_) fun h => ?_
    · have hkey := h.2 "verification_key_id" (by simp)
      simp [optField] at hkey
    · obtain ⟨id, hsome, _⟩ := h.key
      rw [hid] at hsome
      cases hsome
  | some id =>
    have hkey : schema [type [.string, .null], maxLength 128] (.str id.id) ↔
        id.id.toList.length ≤ 128 := by
      rw [schema_pair, maxLength_str]
      exact and_iff_right rfl
    simp only [optField, Option.map_some, Option.toList_some, List.cons_append, List.nil_append,
      List.forall_mem_cons, List.not_mem_nil, false_implies, implies_true, and_true,
      List.lookup_cons, String.reduceBEq, Option.getD_some, hbackend, hkey,
      files_json hpaths hne, circuitId_str, hex64_str]
    constructor
    · intro h
      obtain ⟨⟨_, hcircuit, _, _, hback, hlen, ⟨hsums, hfiles⟩, _⟩, _⟩ := h
      exact ⟨hcircuit, hback, ⟨id, hid, hlen⟩, hsums, hfiles⟩
    · intro h
      obtain ⟨id', hsome, hlen⟩ := h.key
      obtain rfl := Option.some.inj (hid.symm.trans hsome)
      refine ⟨⟨hversion, h.circuit, semver_display _, semver_display _, h.backend, hlen,
        ⟨h.checksums, h.files⟩, hmetadata⟩, by simp⟩

end Schemas

/-- sorting the files changes nothing of it -/
theorem ArtifactManifest.normalize_conforms {m m' : ArtifactManifest} (h : m.normalize = .ok m') :
    m'.Conforms ↔ m.Conforms := by
  obtain ⟨_, _, rfl⟩ := normalize_ok.mp h
  have hperm := List.mergeSort_perm m.files fun a b => decide (a.path ≤ b.path)
  constructor
  · intro hc
    exact ⟨hc.circuit, hc.backend, hc.key, fun file hfile => hc.checksums file
      (hperm.mem_iff.mpr hfile), hperm.nodup_iff.mp hc.files⟩
  · intro hc
    exact ⟨hc.circuit, hc.backend, hc.key, fun file hfile => hc.checksums file
      (hperm.mem_iff.mp hfile), hperm.nodup_iff.mpr hc.files⟩

/-- the document of a normalized manifest is as published exactly where the manifest is -/
theorem ArtifactManifest.document_published_iff {m m' : ArtifactManifest} (hne : m.files ≠ [])
    (h : m.normalize = .ok m') : Schemas.artifactManifest m'.document ↔ m.Conforms := by
  rw [← normalize_conforms h]
  obtain ⟨hversion, hpaths, rfl⟩ := normalize_ok.mp h
  have hperm := List.mergeSort_perm m.files fun a b => decide (a.path ≤ b.path)
  refine Schemas.artifactManifest_document hversion (fun file hfile => ?_) fun hempty => ?_
  · exact hpaths file (hperm.mem_iff.mp hfile)
  · exact hne (List.perm_nil.mp (hempty ▸ hperm.symm))

/-! ## what is emitted -/

/-- **No envelope of a mock proof is as published**, for its bytes are longer than a field value:
with any other schema for the bytes, it is as published when these are.  **A manifest is as
published when it has a key id**, no file twice, and its names and digests are within bounds. -/
theorem emitted_published_iff {sha256 : List UInt8 → List UInt8} {text : JsonText}
    (hsha : ∀ bytes, (sha256 bytes).length = 32)
    (htext : ∀ fields, text.render (.obj fields) ≠ "") :
    (∀ (prover : MockProver) r response op producedBy, r.Built → r.requestId.id.toList ≠ [] →
      prover.generate sha256 text r = .ok response → producedBy.toList ≠ [] →
        ¬ Schemas.proofEnvelope (toJson (ProofEnvelope.fromResponse response op producedBy)) ∧
        ∀ bytes, Schemas.proofEnvelopeOf bytes
            (toJson (ProofEnvelope.fromResponse response op producedBy)) ↔
          bytes (.str (hexEncode response.proof.bytes))) ∧
    ∀ m m' : ArtifactManifest, m.files ≠ [] → m.normalize = .ok m' →
      m'.toCanonicalJson = m'.document.compact.toUTF8.data.toList ∧
        (Schemas.artifactManifest m'.document ↔ m.Conforms) := by
  constructor
  · intro prover r response op producedBy hbuilt hid hgen hproducer
    refine ⟨fun h => ?_, fun bytes => prover.envelope_conforms hsha hbuilt hid hgen hproducer⟩
    have hhex := (prover.envelope_conforms hsha hbuilt hid hgen hproducer).mp h
    exact prover.bytes_not_hex hsha htext hgen hhex
  · intro m m' hne h
    exact ⟨rfl, ArtifactManifest.document_published_iff hne h⟩

/-- the manifest of `artifacts/circuits/register` -/
def registerManifest : ArtifactManifest where
  manifestVersion := 1
  circuit := ⟨"register"⟩
  circuitVersion := ⟨0, 1, 0⟩
  artifactVersion := ⟨0, 1, 0⟩
  backend := ⟨BackendId.ultrahonk⟩
  verificationKeyId := none
  files := [{ path := "register.json"
              sha256 := ⟨"9cfe6ded69a0828b09c9fbc30426d6f337fa5464832aff152b1fcc523c686bb2"⟩
              kind := some "acir" }]
  backendMetadata := [("generated_by", "crucible-prover/0.1.0")]

/-- and as it would be with a key id -/
def keyedManifest : ArtifactManifest :=
  { registerManifest with verificationKeyId := some ⟨"register-vk"⟩ }

/-- a manifest of one file is normal -/
theorem ArtifactManifest.normalize_single {m : ArtifactManifest} {file : ManifestFile}
    (hversion : m.manifestVersion = manifestSchemaVersion) (hfiles : m.files = [file])
    (hpath : isSafeRelativePath file.path) : m.normalize = .ok m := by
  refine normalize_ok.mpr ⟨hversion, ?_, ?_⟩
  · rw [hfiles, List.forall_mem_singleton]
    exact hpath
  · rw [hfiles, List.mergeSort_singleton, ← hfiles]

theorem emitted_published_iff_transfer :
    ¬ Schemas.proofEnvelope
        (toJson (ProofEnvelope.fromResponse transferZerosResponse .transfer "mock/0.1.0")) ∧
      (Schemas.artifactManifest keyedManifest.document ↔ keyedManifest.Conforms) := by
  obtain ⟨henvelope, hmanifest⟩ := emitted_published_iff transferSha256_length transferText_render
  refine ⟨?_, (hmanifest keyedManifest keyedManifest (by decide) ?_).2⟩
  · exact (henvelope MockProver.new transferZeros transferZerosResponse .transfer "mock/0.1.0"
      (minimalRequest_built (by decide) (by decide)) (by decide) transferZeros_generate
      (by decide)).1
  · exact ArtifactManifest.normalize_single rfl rfl (by decide)

/-- neither of these is as published -/
theorem transfer_and_register_not_published :
    (transferZeros.Built ∧ MockProver.new.generate transferSha256 transferText transferZeros
        = .ok transferZerosResponse ∧
      ¬ Schemas.proofEnvelope
        (toJson (ProofEnvelope.fromResponse transferZerosResponse .transfer "mock/0.1.0"))) ∧
    registerManifest.files ≠ [] ∧ registerManifest.normalize = .ok registerManifest ∧
      ¬ Schemas.artifactManifest registerManifest.document := by
  have hbuilt : transferZeros.Built := minimalRequest_built (by decide) (by decide)
  have hnormal : registerManifest.normalize = .ok registerManifest :=
    ArtifactManifest.normalize_single rfl rfl (by decide)
  refine ⟨⟨hbuilt, transferZeros_generate, fun h => ?_⟩, by decide, hnormal, fun h => ?_⟩
  · have hhex := (MockProver.new.envelope_conforms transferSha256_length hbuilt (by decide)
      transferZeros_generate (by decide)).mp h
    exact MockProver.new.bytes_not_hex transferSha256_length transferText_render
      transferZeros_generate hhex
  · obtain ⟨id, hid, _⟩ := ((ArtifactManifest.document_published_iff (by decide) hnormal).mp h).key
    cases hid

end Crucible
