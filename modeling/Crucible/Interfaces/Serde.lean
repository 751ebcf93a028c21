import Crucible.Interfaces.Numbers
import Crucible.Lib.Json
import Crucible.Lib.SortedMap
import Mathlib.Data.String.Basic

/-!
# The JSON forms of the interface types (the `serde` implementations)

Values and versions are strings that their readers canonicalize; the identifiers are transparent,
so a reader takes any string; the bytes of a proof are hexadecimal.  Every form reads back.
-/

namespace Crucible
open Checked Text Serde

/-! ## strings -/

instance : Wire FieldValue :=
  Wire.viaString FieldValue.hex (fun s => (FieldValue.fromHex s).mapError FieldError.message)
    fun v => by rw [FieldValue.fromHex_hex]; rfl

instance : Wire Version :=
  Wire.viaString Version.display
    (fun s => fromOption "version must be formatted as major.minor.patch, e.g. 1.4.2"
      (Version.parse s))
    fun v => by rw [Version.parse_display]; rfl

instance : Wire CircuitId := Wire.transparent CircuitId.id .mk fun _ => rfl
instance : Wire RequestId := Wire.transparent RequestId.id .mk fun _ => rfl
instance : Wire BackendId := Wire.transparent BackendId.id .mk fun _ => rfl
instance : Wire ProofFormat := Wire.transparent ProofFormat.tag .mk fun _ => rfl
instance : Wire VerificationKeyId := Wire.transparent VerificationKeyId.id .mk fun _ => rfl
instance : Wire ArtifactChecksum := Wire.transparent ArtifactChecksum.hex .mk fun _ => rfl
instance : Wire RootDigest := Wire.transparent RootDigest.hex .mk fun _ => rfl

/-! ## operations -/

def Operation.ofName (name : String) : Except String Operation :=
  fromOption s!"unknown variant `{name}`" <|
    [Operation.register, .deposit, .merge, .transfer, .withdraw].find? fun o => o.asStr == name

/-- the name of a variant without data, which may also be the key of a `null` -/
instance : Wire Operation where
  toJson o := .str o.asStr
  fromJson
    | .str name => Operation.ofName name
    | .obj [(name, .null)] => Operation.ofName name
    | _ => .error "invalid type: expected an enum"
  fromJson_toJson o := by cases o <;> rfl
  toJson_ne_null _ := by intro h; cases h

/-! ## maps -/

/-- `BTreeMap<String, String>`: an object; of two fields with one name the later counts -/
instance : Wire (SortedMap String String) where
  toJson m := .obj (m.entries.map fun e => (e.1, toJson e.2))
  fromJson
    | .obj fields => fields.foldlM
        (fun m field => do return m.insert field.1 (← fromJson field.2)) SortedMap.empty
    | _ => .error "invalid type: expected a map"
  fromJson_toJson m := by
    have hread : ∀ (es : List (String × String)) (m : SortedMap String String),
        (es.map fun e => (e.1, toJson e.2)).foldlM (fun (m : SortedMap String String) field => do
          return m.insert field.1 (← fromJson field.2)) m
        = (.ok (es.foldl (fun m e => m.insert e.1 e.2) m) : Except String _) := by
      intro es
      induction es with
      | nil => exact fun _ => rfl
      | cons e es ih => exact fun m => ih (m.insert e.1 e.2)
    show (m.entries.map fun e => (e.1, toJson e.2)).foldlM _ _ = _
    rw [hread, SortedMap.foldl_insert_entries]
  toJson_ne_null _ := by intro h; cases h

/-! ## structs -/

instance : Wire StateReference where
  toJson s := .obj [("root", toJson s.root), ("sequence", toJson s.sequence),
    ("label", optJson s.label)]
  fromJson j := do
    let fields ← fieldsOf ["root", "sequence", "label"] j
    return { root := ← required fields "root", sequence := ← required fields "sequence"
             label := ← optional fields "label" }
  fromJson_toJson s := by
    rw [fieldsOf_obj (by simp)]
    simp
  toJson_ne_null _ := by intro h; cases h

instance : Wire PublicInputBag where
  toJson b := .obj [("entries", toJson b.entries)]
  fromJson j := do
    let fields ← fieldsOf ["entries"] j
    return { entries := ← required fields "entries" }
  fromJson_toJson b := by
    rw [fieldsOf_obj (by simp)]
    simp
  toJson_ne_null _ := by intro h; cases h

/-- the bytes of a proof, as digits -/
def readHexBytes (s : String) : Except String (List UInt8) :=
  fromOption "invalid hexadecimal bytes" (hexDecode s.toList)

instance : Wire ProofBlob where
  toJson p := .obj [("format", toJson p.format), ("bytes", .str (hexEncode p.bytes))]
  fromJson j := do
    let fields ← fieldsOf ["format", "bytes"] j
    return { format := ← required fields "format"
             bytes := ← readHexBytes (← required fields "bytes") }
  fromJson_toJson p := by
    rw [fieldsOf_obj (by simp)]
    have hbytes : required [("bytes", Json.str (hexEncode p.bytes))] "bytes"
        = .ok (hexEncode p.bytes) := required_cons
    simp [hbytes, readHexBytes, hexDecode_hexEncode]
  toJson_ne_null _ := by intro h; cases h

end Crucible
