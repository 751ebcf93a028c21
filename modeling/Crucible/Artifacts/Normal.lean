import Crucible.Artifacts.Manifest
import Crucible.Interfaces.Serde
import Crucible.Lib.JsonCodes
import Crucible.Lib.StableSort
import Crucible.Lib.Utf8

/-!
# Normal manifests (`crates/artifacts/src/manifest.rs`)

A normalized manifest lists its files in the order of their paths; the files of one path stay in
the order they came in.

* `ArtifactManifest.fromJson`     the readers of the documents, with their defaults;
                                  `fromJson_document`: what is written is read back;
* `normalize_idem`, `parse_canonical`   a normal manifest is normal, and its text says which it is;
* `toCanonicalJson_files`         the text says which files there are, in which order;
* `manifest_stable_iff`           so the text depends on the order of the files where two entries
                                  have one path.
-/

namespace Crucible
open Checked Serde Framing StableSort

/-! ## documents -/

/-- the named parts of a struct whose last fields have defaults -/
def fieldsOfDefaulted (names : List String) (least : Nat) :
    Json → Except String (List (String × Json))
  | .arr items => do
    ensure (least ≤ items.length ∧ items.length ≤ names.length) s!"invalid length {items.length}"
    return names.zip items
  | j => fieldsOf names j

theorem fieldsOfDefaulted_obj {names : List String} {least : Nat} {fields : List (String × Json)}
    (h : (fields.map Prod.fst).Nodup) :
    fieldsOfDefaulted names least (.obj fields) = .ok fields := fieldsOf_obj h

section
variable {α : Type} [Wire α] {fields : List (String × Json)} {name key : String}

/-- a field that was left out when there was nothing -/
theorem optional_optField {text : α → String} (htext : ∀ a, toJson a = .str (text a))
    {value : Option α} (hfields : fields.lookup name = none) :
    optional (optField name (value.map text) ++ fields) name = .ok value := by
  cases value with
  | none =>
    show optional fields name = .ok none
    unfold Serde.optional
    rw [hfields]
  | some a =>
    show optional ((name, .str (text a)) :: fields) name = Except.ok (some a)
    rw [← htext]
    exact optional_cons (a := some a)

theorem required_optField {value : Option String} (h : name ≠ key) :
    (required (optField key value ++ fields) name : Except String α) = required fields name := by
  cases value with
  | none => rfl
  | some text => exact required_cons_ne h

end

instance : Wire ManifestFile where
  toJson := ManifestFile.json
  fromJson j := do
    let fields ← fieldsOfDefaulted ["path", "sha256", "kind"] 2 j
    return { path := ← required fields "path", sha256 := ← required fields "sha256"
             kind := ← optional fields "kind" }
  fromJson_toJson file := by
    obtain ⟨path, sha256, kind⟩ := file
    have hpath (rest : List (String × Json)) :
        required (("path", Json.str path) :: rest) "path" = .ok path := required_cons
    have hsha256 (rest : List (String × Json)) :
        required (("sha256", Json.str sha256.hex) :: rest) "sha256" = .ok sha256 := required_cons
    have hkind : optional (optField "kind" kind) "kind" = .ok kind := by
      have h : optional (optField "kind" (kind.map id) ++ []) "kind" = .ok kind :=
        optional_optField (fun _ => rfl) rfl
      rwa [Option.map_id, List.append_nil] at h
    have hnames : ([("path", Json.str path), ("sha256", .str sha256.hex)] ++ optField "kind" kind
        |>.map Prod.fst).Nodup := by
      cases kind <;> simp [optField]
    show (fieldsOfDefaulted _ 2 (.obj _) >>= fun fields => _) = _
    rw [fieldsOfDefaulted_obj hnames]
    simp [hpath, hsha256, hkind]
  toJson_ne_null _ := by intro h; cases h

namespace ArtifactManifest

/-- `serde(default)`: no metadata where there is no such field -/
def readMetadata (fields : List (String × Json)) : Except String (List (String × String)) :=
  match fields.lookup "backend_metadata" with
  | none => .ok []
  | some j => SortedMap.entries <$> fromJson j

def fromJson (j : Json) : Except String ArtifactManifest := do
  let fields ← fieldsOfDefaulted ["manifest_version", "circuit", "circuit_version",
    "artifact_version", "backend", "verification_key_id", "files", "backend_metadata"] 7 j
  return { manifestVersion := ← required fields "manifest_version"
           circuit := ← required fields "circuit"
           circuitVersion := ← required fields "circuit_version"
           artifactVersion := ← required fields "artifact_version"
           backend := ← required fields "backend"
           verificationKeyId := ← optional fields "verification_key_id"
           files := ← required fields "files"
           backendMetadata := ← readMetadata fields }

/-- `serde_json::from_slice` -/
def fromSlice (text : JsonText) (bytes : List UInt8) : Except String ArtifactManifest := do
  fromJson (← text.parse bytes)

/-- `manifest_checksum` -/
def manifestChecksum (sha256 : List UInt8 → List UInt8) (m : ArtifactManifest) :
    ArtifactChecksum :=
  .fromBytes sha256 m.toCanonicalJson

/-- the metadata of a `BTreeMap`: by key, and no key twice -/
def OrderedMetadata (m : ArtifactManifest) : Prop :=
  (m.backendMetadata.map Prod.fst).Pairwise (· < ·)

instance (m : ArtifactManifest) : Decidable m.OrderedMetadata :=
  inferInstanceAs (Decidable (List.Pairwise _ _))

/-- a manifest is read back from its document -/
theorem fromJson_document {m : ArtifactManifest} (h : m.OrderedMetadata) :
    fromJson m.document = .ok m := by
  obtain ⟨version, circuit, circuitVersion, artifactVersion, backend, keyId, files, metadata⟩ := m
  let tail : List (String × Json) := [("files", toJson files),
    ("backend_metadata", toJson (⟨metadata, h⟩ : SortedMap String String))]
  let optTail := optField "verification_key_id" (keyId.map VerificationKeyId.id) ++ tail
  let fields : List (String × Json) := ("manifest_version", toJson version) ::
    ("circuit", toJson circuit) :: ("circuit_version", toJson circuitVersion) ::
    ("artifact_version", toJson artifactVersion) :: ("backend", toJson backend) :: optTail
  have hdocument : document ⟨version, circuit, circuitVersion, artifactVersion, backend, keyId,
      files, metadata⟩ = .obj fields := by
    simp only [document, fields, optTail, tail, List.cons_append, List.nil_append]
    rfl
  have hnames : (fields.map Prod.fst).Nodup := by
    cases keyId <;> simp [fields, optTail, tail, optField]
  have hkey : optional optTail "verification_key_id" = .ok keyId :=
    optional_optField (fun _ => rfl) rfl
  have hfiles : required optTail "files" = .ok files := by
    rw [required_optField (by decide)]
    exact required_cons
  have hmetadata : readMetadata fields = .ok metadata := by
    have hlookup : fields.lookup "backend_metadata"
        = some (toJson (⟨metadata, h⟩ : SortedMap String String)) := by
      cases keyId <;> rfl
    rw [readMetadata, hlookup]
    show SortedMap.entries <$> Serde.fromJson (toJson (⟨metadata, h⟩ : SortedMap String String)) = _
    rw [fromJson_toJson]
    rfl
  rw [hdocument, fromJson, fieldsOfDefaulted_obj hnames]
  simp [fields, hkey, hfiles, hmetadata]

/-! ## what the text says -/

/-- the end of a file's text: its kind, if it has one -/
def kindCode (kind : Option String) : List Char :=
  kind.elim ['\x7d'] fun k =>
    [','] ++ ((quote "kind").toList ++ [':'] ++ (quote k).toList ++ ['\x7d'])

/-- the text of a file, in its parts -/
theorem manifestFile_code (file : ManifestFile) : file.json.compact.toList
    = ['\x7b'] ++ (quote "path").toList ++ [':'] ++ ((quote file.path).toList ++
      ([','] ++ (quote "sha256").toList ++ [':'] ++ (quote file.sha256.hex).toList ++
        kindCode file.kind)) := by
  unfold ManifestFile.json
  rw [compact_obj_toList]
  cases file.kind <;>
    simp [optField, kindCode, compactField_toList, Json.compact, List.intercalate_cons_cons]

theorem kindCode_selfDelimiting : SelfDelimiting (fun _ => True) kindCode :=
  (((quote_selfDelimiting.after ((quote "kind").toList ++ [':'])).upTo ['\x7d']).option
    (by decide)).mono fun _ _ _ _ => trivial

theorem manifestFile_selfDelimiting :
    SelfDelimiting (fun _ => True) fun file : ManifestFile => file.json.compact.toList := by
  have hparts : Function.Injective fun file : ManifestFile =>
      (file.path, file.sha256.hex, file.kind) := by
    rintro ⟨path, ⟨hex⟩, kind⟩ ⟨path', ⟨hex'⟩, kind'⟩ h
    obtain ⟨hpath, hrest⟩ := Prod.mk.inj h
    obtain ⟨hhex, hkind⟩ := Prod.mk.inj hrest
    cases hpath
    cases hhex
    cases hkind
    rfl
  have hcode := (quote_selfDelimiting.pair
    ((quote_selfDelimiting.after ([','] ++ (quote "sha256").toList ++ [':'])).pair
      kindCode_selfDelimiting)).comap hparts
  have htext := hcode.after (['\x7b'] ++ (quote "path").toList ++ [':'])
  rw [funext manifestFile_code]
  exact htext.mono fun _ _ => ⟨trivial, trivial, trivial⟩

theorem manifestFile_notFirst :
    NotFirst (fun _ => True) (fun file : ManifestFile => file.json.compact.toList) ']' := by
  intro file _
  exact ⟨'\x7b', _, manifestFile_code file, by decide⟩

/-- the text says which files there are, in which order -/
theorem toCanonicalJson_files {m : ArtifactManifest} {files files' : List ManifestFile}
    (h : toCanonicalJson { m with files } = toCanonicalJson { m with files := files' }) :
    files = files' := by
  have hdocument := Utf8.toUTF8_injective h
  have hfield := compact_field_inj hdocument
  exact compact_arr_inj manifestFile_selfDelimiting manifestFile_notFirst (fun _ _ => trivial)
    (fun _ _ => trivial) hfield

/-! ## normal manifests -/

theorem normalize_eq {m n : ArtifactManifest} : m.normalize = .ok n ↔
    m.manifestVersion = manifestSchemaVersion ∧ (∀ file ∈ m.files, isSafeRelativePath file.path) ∧
      n = { m with files := sortByKey ManifestFile.path m.files } := normalize_ok

section
variable {m n : ArtifactManifest}

/-- **normalizing twice is normalizing once** -/
theorem normalize_idem (h : m.normalize = .ok n) : n.normalize = .ok n := by
  obtain ⟨hversion, hpaths, rfl⟩ := normalize_eq.mp h
  refine normalize_eq.mpr ⟨hversion, fun file hfile => ?_, ?_⟩
  · exact hpaths file ((sortByKey_perm m.files).mem_iff.mp hfile)
  · rw [sortByKey_idem]

/-- **the text of a normal manifest is parsed as that manifest** -/
theorem parse_canonical {text : JsonText} (h : m.normalize = .ok n) (hmeta : m.OrderedMetadata)
    (htext : text.parse n.toCanonicalJson = .ok n.document) :
    parse (fromSlice text) n.toCanonicalJson = .ok n := by
  have hread : fromSlice text n.toCanonicalJson = .ok n := by
    have hordered : n.OrderedMetadata := by
      obtain ⟨_, _, rfl⟩ := normalize_eq.mp h
      exact hmeta
    rw [fromSlice, htext]
    exact fromJson_document hordered
  exact parse_ok.mpr ⟨n, hread, normalize_idem h⟩

/-- files in another order are normalized as well -/
theorem normalize_perm {files : List ManifestFile} (h : m.normalize = .ok n)
    (hperm : files.Perm m.files) : normalize { m with files }
      = .ok { n with files := sortByKey ManifestFile.path files } := by
  obtain ⟨hversion, hpaths, rfl⟩ := normalize_eq.mp h
  exact normalize_eq.mpr ⟨hversion, fun file hfile => hpaths file (hperm.mem_iff.mp hfile), rfl⟩

end

/-- what a checksum that is pinned elsewhere rests on -/
structure Stable (sha256 : List UInt8 → List UInt8) (text : JsonText) (m n : ArtifactManifest) :
    Prop where
  permuted : ∀ files, files.Perm m.files → ∃ n', normalize { m with files } = .ok n' ∧
    n'.toCanonicalJson = n.toCanonicalJson ∧
    n'.manifestChecksum sha256 = n.manifestChecksum sha256
  idempotent : n.normalize = .ok n
  parsed : parse (fromSlice text) n.toCanonicalJson = .ok n

end ArtifactManifest

open ArtifactManifest in
/-- **Where the text of a manifest does not depend on the order of its files**: where no path has
two entries that differ. -/
theorem manifest_stable_iff {sha256 : List UInt8 → List UInt8} {text : JsonText}
    {m n : ArtifactManifest} (h : m.normalize = .ok n) (hmeta : m.OrderedMetadata)
    (htext : text.parse n.toCanonicalJson = .ok n.document) :
    Stable sha256 text m n ↔ ∀ a ∈ m.files, ∀ b ∈ m.files, a.path = b.path → a = b := by
  obtain ⟨_, _, hn⟩ := normalize_eq.mp h
  have hfiles : n = { n with files := sortByKey ManifestFile.path m.files } := by rw [hn]
  rw [← sortByKey_perm_inv_iff]
  constructor
  · intro hstable files hperm
    obtain ⟨n', hn', htext', _⟩ := hstable.permuted files hperm
    obtain rfl := Except.ok.inj ((normalize_perm h hperm).symm.trans hn')
    rw [hfiles] at htext'
    exact toCanonicalJson_files htext'
  · intro hinv
    refine ⟨fun files hperm => ⟨n, ?_, rfl, rfl⟩, normalize_idem h, parse_canonical h hmeta htext⟩
    rw [normalize_perm h hperm, hinv files hperm, ← hfiles]

/-- two files, the second first -/
def reversedManifest : ArtifactManifest where
  manifestVersion := manifestSchemaVersion
  circuit := ⟨"transfer"⟩
  circuitVersion := ⟨0, 1, 0⟩
  artifactVersion := ⟨0, 1, 0⟩
  backend := ⟨BackendId.ultrahonk⟩
  verificationKeyId := some ⟨"vk-transfer-0.1.0"⟩
  files := [⟨"vk.bin", ⟨String.ofList (List.replicate 64 'b')⟩, some "verification-key"⟩,
    ⟨"acir.msgpack", ⟨String.ofList (List.replicate 64 'a')⟩, some "acir"⟩]
  backendMetadata := []

def orderedManifest : ArtifactManifest :=
  { reversedManifest with files := reversedManifest.files.reverse }

/-- the digest of the text of the ordered one -/
def orderedSha256 (_ : List UInt8) : List UInt8 :=
  [0x94, 0x30, 0xee, 0x63, 0xa5, 0x69, 0x37, 0x15, 0x27, 0x70, 0x08, 0xe7, 0x8b, 0x2f, 0x3b,
    0xc5, 0xbb, 0x75, 0xcd, 0x26, 0xd2, 0x90, 0x86, 0xab, 0x84, 0x94, 0x28, 0x58, 0x2b, 0xf0,
    0xb5, 0x40]

theorem normalize_reversed : reversedManifest.normalize = .ok orderedManifest := by
  refine ArtifactManifest.normalize_eq.mpr ⟨rfl, by decide +kernel, ?_⟩
  have hordered : orderedManifest.files.Pairwise fun a b => decide (a.path ≤ b.path) = true := by
    decide
  have hsorted : sortByKey ManifestFile.path reversedManifest.files = orderedManifest.files :=
    (sortByKey_of_perm (by decide) (List.reverse_perm _).symm).trans
      (List.mergeSort_of_pairwise hordered)
  rw [hsorted]
  rfl

theorem manifest_stable_iff_reversed :
    ArtifactManifest.Stable orderedSha256 (.knowing orderedManifest.document) reversedManifest
        orderedManifest ↔
      ∀ a ∈ reversedManifest.files, ∀ b ∈ reversedManifest.files, a.path = b.path → a = b :=
  manifest_stable_iff normalize_reversed (by decide) JsonText.knowing_parse

/-- two entries for one file -/
def sharedManifest : ArtifactManifest :=
  { reversedManifest with
    files := [⟨"vk.bin", ⟨String.ofList (List.replicate 64 'b')⟩, none⟩,
      ⟨"vk.bin", ⟨String.ofList (List.replicate 64 'a')⟩, none⟩] }

theorem normalize_shared {files : List ManifestFile} (h : ∀ file ∈ files, file.path = "vk.bin") :
    ArtifactManifest.normalize { sharedManifest with files }
      = .ok { sharedManifest with files } := by
  have hordered : files.Pairwise fun a b => decide (a.path ≤ b.path) = true :=
    List.pairwise_of_forall_mem_list fun a ha b hb =>
      decide_eq_true (le_of_eq ((h a ha).trans (h b hb).symm))
  refine ArtifactManifest.normalize_eq.mpr ⟨rfl, fun file hfile => ?_, ?_⟩
  · rw [h file hfile]
    decide +kernel
  · rw [sortByKey, List.mergeSort_of_pairwise hordered]

/-- the order of the two stays in the text -/
theorem shared_path_reordered : ∃ n n', sharedManifest.normalize = .ok n ∧
    ArtifactManifest.normalize
      { sharedManifest with files := sharedManifest.files.reverse } = .ok n' ∧
    n.toCanonicalJson ≠ n'.toCanonicalJson := by
  refine ⟨_, _, normalize_shared (by decide), normalize_shared (by decide), fun h => ?_⟩
  exact absurd (ArtifactManifest.toCanonicalJson_files h) (by decide)

end Crucible
