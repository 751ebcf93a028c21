import Crucible.Lib.Hex
import Crucible.Interfaces.Proof

/-!
# The numbers behind values and roots

A value has one text, and a root falls into two values.

* `FieldValue.fromHex_hex`     a value is read back from its own text;
* `FieldValue.eq_of_number`    and is determined by its number;
* `StateReference.rootHalves_number`   the halves of a root from the constructor: both below
                               `2^128`, and together the number of the root;
* `rootHalves_eq_none_iff`     the roots that have no halves;
* `ProofRequest.Built`         every part of the request has been through its constructor.
-/

namespace Crucible
open Checked Text

/-! ## values -/

/-- the integer a value denotes -/
def FieldValue.number (v : FieldValue) : Nat := hexValue v.hex.toList

section
variable {cs : List Char}

theorem FieldValue.fromHex_ofList (hne : cs ≠ []) (hlen : cs.length ≤ maxHexLen)
    (h : cs.all isHexDigit) : fromHex (String.ofList cs) = .ok (ofDigits cs hlen h) := by
  have hs : stripPrefix "0x".toList (String.ofList cs).toList = cs := by
    rw [String.toList_ofList (l := cs), stripPrefix_of_hexDigits h]
  have hbytes : ¬ byteLen cs > maxHexLen := by
    rw [byteLen_of_hexDigits h]
    omega
  simp only [fromHex, hs]
  rw [if_neg hne, dif_neg hbytes, dif_pos h]

theorem FieldValue.number_ofDigits {hlen : cs.length ≤ maxHexLen} {h : cs.all isHexDigit} :
    (ofDigits cs hlen h).number = hexValue cs := by
  unfold number ofDigits
  rw [String.toList_ofList, hexValue_canonicalHex h]

end

theorem FieldValue.eq_of_hex {v w : FieldValue} (h : v.hex = w.hex) : v = w := by
  cases v
  cases w
  obtain rfl := h
  rfl

theorem FieldValue.isHexDigit_hex (v : FieldValue) : v.hex.toList.all isHexDigit :=
  all_isHexDigit v.canonical.2.2.1

/-- a value is read back from its own text -/
theorem FieldValue.fromHex_hex (v : FieldValue) : fromHex v.hex = .ok v := by
  obtain ⟨hne, hlen, _, _⟩ := v.canonical
  rw [← String.ofList_toList (s := v.hex), fromHex_ofList hne hlen v.isHexDigit_hex]
  refine congrArg Except.ok (eq_of_hex ?_)
  show String.ofList (canonicalHex v.hex.toList) = v.hex
  rw [canonicalHex_of_canonical v.canonical, String.ofList_toList]

theorem FieldValue.eq_of_number {v w : FieldValue} (h : v.number = w.number) : v = w := by
  refine eq_of_hex (String.toList_inj.mp ?_)
  exact v.canonical.eq_of_hexValue w.canonical h

/-! ## roots -/

/-- 64 lower-case digits, as the constructors leave them -/
def RootDigest.WellFormed (root : RootDigest) : Prop :=
  root.hex.toList.length = 64 ∧ root.hex.toList.all isLowerHex

instance (root : RootDigest) : Decidable root.WellFormed := inferInstanceAs (Decidable (_ ∧ _))

/-- the 256-bit integer of a root -/
def RootDigest.number (root : RootDigest) : Nat := hexValue root.hex.toList

theorem digest256_wellFormed {hex digest : String} (h : digest256 hex = some digest) :
    digest.toList.length = 64 ∧ digest.toList.all isLowerHex := by
  rw [digest256, Option.ite_none_right_eq_some] at h
  obtain ⟨⟨hlen, hall⟩, hd⟩ := h
  obtain rfl := Option.some.inj hd
  rw [String.toList_ofList]
  refine ⟨?_, ?_⟩
  · rw [List.length_map, ← byteLen_of_hexDigits hall, hlen]
  · rw [List.all_map, List.all_eq_true]
    exact fun c hc => isLowerHex_lower (List.all_eq_true.mp hall c hc)

/-- 64 lower-case digits are their own digest -/
theorem digest256_of_lower {digest : String} (hlen : digest.toList.length = 64)
    (hlow : digest.toList.all isLowerHex) : digest256 digest = some digest := by
  have hall : digest.toList.all isHexDigit := all_isHexDigit hlow
  have hmap : digest.toList.map lower = digest.toList :=
    (List.map_congr_left fun c hc => lower_of_lower (List.all_eq_true.mp hlow c hc)).trans
      (List.map_id _)
  simp only [digest256, stripPrefix_of_hexDigits hall, byteLen_of_hexDigits hall]
  rw [if_pos ⟨hlen, hall⟩, hmap, String.ofList_toList]

/-- a checksum that was computed is one that the constructor accepts -/
theorem ArtifactChecksum.fromHex_fromBytes {sha256 : List UInt8 → List UInt8}
    (hsha : ∀ bytes, (sha256 bytes).length = 32) (bytes : List UInt8) :
    fromHex (fromBytes sha256 bytes).hex = some (fromBytes sha256 bytes) := by
  have hlen : (hexEncode (sha256 bytes)).toList.length = 64 := by rw [hexEncode_length, hsha]
  unfold fromHex fromBytes
  rw [digest256_of_lower hlen hexEncode_isLowerHex]
  rfl

theorem RootDigest.eq_of_number {a b : RootDigest} (ha : a.WellFormed) (hb : b.WellFormed)
    (h : a.number = b.number) : a = b := by
  have hhex : a.hex.toList = b.hex.toList :=
    eq_of_hexValue (by rw [ha.1, hb.1]) ha.2 hb.2 h
  cases a
  cases b
  obtain rfl := String.toList_inj.mp hhex
  rfl

/-- **A well-formed root is its two halves**: they exist, are below `2^128`, and make up the
number of the root. -/
theorem StateReference.rootHalves_number {s : StateReference} (h : s.root.WellFormed) :
    ∃ hi lo, s.rootHalves = some (hi, lo) ∧ hi.number < 2^128 ∧ lo.number < 2^128 ∧
      hi.number * 2^128 + lo.number = s.root.number := by
  obtain ⟨hlen, hlow⟩ := h
  have hall : s.root.hex.toList.all isHexDigit := all_isHexDigit hlow
  obtain ⟨first, second, hcut, hfirst, hsecond⟩ : ∃ first second : List Char,
      s.root.hex.toList = first ++ second ∧ first.length = 32 ∧ second.length = 32 := by
    refine ⟨s.root.hex.toList.take 32, s.root.hex.toList.drop 32, ?_, ?_, ?_⟩
    · exact (List.take_append_drop 32 _).symm
    · rw [List.length_take]
      omega
    · rw [List.length_drop]
      omega
  have hsplit : splitBytes 32 s.root.hex.toList = some (first, second) := by
    rw [splitBytes_of_hexDigits hall (by omega), hcut, ← hfirst, List.take_left, List.drop_left]
  rw [hcut, List.all_append, Bool.and_eq_true] at hall
  obtain ⟨hall1, hall2⟩ := hall
  have hpow : (16 : Nat)^32 = 2^128 := by decide
  refine ⟨.ofDigits first (by rw [hfirst]; decide) hall1,
    .ofDigits second (by rw [hsecond]; decide) hall2, ?_, ?_, ?_, ?_⟩
  · unfold rootHalves
    rw [hsplit]
    show ((FieldValue.fromHex (String.ofList first)).toOption.bind fun hi =>
      (FieldValue.fromHex (String.ofList second)).toOption.bind fun lo => some (hi, lo)) = _
    rw [FieldValue.fromHex_ofList (List.ne_nil_of_length_pos (by omega)) _ hall1,
      FieldValue.fromHex_ofList (List.ne_nil_of_length_pos (by omega)) _ hall2]
    rfl
  · rw [FieldValue.number_ofDigits, ← hpow, ← hfirst]
    exact hexValue_lt hall1
  · rw [FieldValue.number_ofDigits, ← hpow, ← hsecond]
    exact hexValue_lt hall2
  · rw [FieldValue.number_ofDigits, FieldValue.number_ofDigits, RootDigest.number, hcut,
      hexValue_append, hsecond, hpow]

/-- a text that `FieldValue::from_hex` reads -/
def IsFieldText (cs : List Char) : Prop :=
  stripPrefix "0x".toList cs ≠ [] ∧ byteLen (stripPrefix "0x".toList cs) ≤ maxHexLen ∧
    (stripPrefix "0x".toList cs).all isHexDigit

theorem FieldValue.fromHex_eq_none_iff (cs : List Char) :
    (fromHex (String.ofList cs)).toOption = none ↔ ¬ IsFieldText cs := by
  simp only [fromHex, String.toList_ofList, IsFieldText]
  split
  · next hnil => exact iff_of_true rfl fun h => h.1 hnil
  · next hne =>
    split
    · next hlen => exact iff_of_true rfl fun h => absurd h.2.1 (Nat.not_le_of_lt hlen)
    · next hlen =>
      split
      · next hall =>
        refine iff_of_false (fun h => by cases h) (not_not.mpr ?_)
        exact ⟨hne, Nat.le_of_not_lt hlen, hall⟩
      · next hall => exact iff_of_true rfl fun h => hall h.2.2

/-- the text of a root cannot be sliced at byte 32, or a slice is not the text of a value -/
def RootDigest.Uncuttable (root : RootDigest) : Prop :=
  ∀ first second, splitBytes 32 root.hex.toList = some (first, second) →
    ¬ (IsFieldText first ∧ IsFieldText second)

theorem StateReference.rootHalves_eq_none_iff {s : StateReference} :
    s.rootHalves = none ↔ s.root.Uncuttable := by
  unfold rootHalves RootDigest.Uncuttable
  cases hcut : splitBytes 32 s.root.hex.toList with
  | none => exact iff_of_true rfl fun _ _ h => by cases h
  | some q =>
    obtain ⟨first, second⟩ := q
    show (FieldValue.fromHex (String.ofList first)).toOption.bind (fun hi =>
      (FieldValue.fromHex (String.ofList second)).toOption.bind fun lo => some (hi, lo)) = none ↔ _
    have hfirst := FieldValue.fromHex_eq_none_iff first
    have hsecond := FieldValue.fromHex_eq_none_iff second
    cases hhi : (FieldValue.fromHex (String.ofList first)).toOption with
    | none =>
      refine iff_of_true rfl fun a b h => ?_
      cases h
      exact fun hboth => hfirst.mp hhi hboth.1
    | some hi =>
      cases hlo : (FieldValue.fromHex (String.ofList second)).toOption with
      | none =>
        refine iff_of_true rfl fun a b h => ?_
        cases h
        exact fun hboth => hsecond.mp hlo hboth.2
      | some lo =>
        refine iff_of_false (fun h => by cases h) fun h => ?_
        rw [hhi] at hfirst
        rw [hlo] at hsecond
        refine h first second rfl ⟨?_, ?_⟩
        · by_contra hno
          cases hfirst.mpr hno
        · by_contra hno
          cases hsecond.mpr hno

/-! ## requests -/

/-- every part of the request has been through its constructor -/
structure ProofRequest.Built (r : ProofRequest) : Prop where
  circuit : CircuitId.new r.circuit.id = .ok r.circuit
  backend : BackendId.new r.backend.id = .ok r.backend
  publicInputs : r.publicInputs.WellFormed
  root : ∀ s, r.stateReference = some s → s.root.WellFormed

end Crucible
