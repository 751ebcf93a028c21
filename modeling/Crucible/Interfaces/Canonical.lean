import Crucible.Interfaces.Serde

/-!
# Values as canonical forms of integers

`FieldValue.fromHex` reads a numeral, and every numeral of one integer as the same text.

* `FieldValue.fromHex_ok`      what is read, and as what;
* `fieldValue_canonical`       values are compared, printed, read back and tested for zero as the
                               integers they stand for, and all readers agree.
-/

namespace Crucible
open Checked Text Serde

/-- `s` is an optional `0x` followed by 1 to 64 hexadecimal digits, which are `digits` -/
structure Spells (s : String) (digits : List Char) : Prop where
  text : s.toList = digits ∨ s.toList = "0x".toList ++ digits
  nonempty : 1 ≤ digits.length
  bounded : digits.length ≤ 64
  hex : ∀ c ∈ digits, isHexDigit c

/-- the text `s` denotes the integer `n` -/
def Denotes (s : String) (n : Nat) : Prop := ∃ digits, Spells s digits ∧ hexValue digits = n

section
variable {s : String} {digits : List Char} {n : Nat} {v : FieldValue}

theorem Spells.all (h : Spells s digits) : digits.all isHexDigit := List.all_eq_true.mpr h.hex

/-- no digit is an `x`, so only one list of digits is spelled -/
theorem Spells.stripPrefix_eq (h : Spells s digits) : stripPrefix "0x".toList s.toList = digits := by
  rcases h.text with ht | ht
  · rw [ht, stripPrefix_of_hexDigits h.all]
  · rw [ht, stripPrefix_append]

/-- digits behind an optional prefix are spelled -/
theorem Spells.of_stripPrefix (hne : stripPrefix "0x".toList s.toList ≠ [])
    (hlen : (stripPrefix "0x".toList s.toList).length ≤ 64)
    (hall : (stripPrefix "0x".toList s.toList).all isHexDigit) :
    Spells s (stripPrefix "0x".toList s.toList) := by
  refine ⟨?_, List.length_pos_iff.mpr hne, hlen, List.all_eq_true.mp hall⟩
  unfold stripPrefix
  by_cases hpre : "0x".toList.isPrefixOf s.toList
  · rw [if_pos hpre]
    obtain ⟨rest, hrest⟩ := List.isPrefixOf_iff_prefix.mp hpre
    rw [← hrest, List.drop_left]
    exact Or.inr rfl
  · rw [if_neg hpre]
    exact Or.inl rfl

/-- which integer a text denotes, by its digits -/
theorem denotes_iff : Denotes s n ↔ stripPrefix "0x".toList s.toList ≠ [] ∧
    (stripPrefix "0x".toList s.toList).length ≤ 64 ∧
    (stripPrefix "0x".toList s.toList).all isHexDigit ∧
    hexValue (stripPrefix "0x".toList s.toList) = n := by
  constructor
  · intro h
    obtain ⟨digits, hspells, hvalue⟩ := h
    rw [hspells.stripPrefix_eq]
    exact ⟨List.length_pos_iff.mp hspells.nonempty, hspells.bounded, hspells.all, hvalue⟩
  · intro h
    obtain ⟨hne, hlen, hall, hvalue⟩ := h
    exact ⟨_, .of_stripPrefix hne hlen hall, hvalue⟩

theorem Spells.of_fromHex (h : FieldValue.fromHex s = .ok v) :
    Spells s (stripPrefix "0x".toList s.toList) := by
  have htext : IsFieldText s.toList := by
    by_contra hno
    have hnone := (FieldValue.fromHex_eq_none_iff s.toList).mpr hno
    rw [String.ofList_toList, h] at hnone
    cases hnone
  obtain ⟨hne, hlen, hall⟩ := htext
  rw [byteLen_of_hexDigits hall] at hlen
  exact .of_stripPrefix hne hlen hall

theorem Spells.fromHex_ofDigits (h : Spells s digits) :
    FieldValue.fromHex s = .ok (.ofDigits digits h.bounded h.all) := by
  have hne : digits ≠ [] := List.length_pos_iff.mp h.nonempty
  rw [← FieldValue.fromHex_ofList hne h.bounded h.all]
  simp only [FieldValue.fromHex, h.stripPrefix_eq, String.toList_ofList,
    stripPrefix_of_hexDigits h.all]

/-- **A text is read exactly when it denotes an integer, as the value with that number.** -/
theorem FieldValue.fromHex_ok : fromHex s = .ok v ↔ Denotes s v.number := by
  constructor
  · intro h
    have hspells := Spells.of_fromHex h
    rw [hspells.fromHex_ofDigits] at h
    obtain rfl := Except.ok.inj h
    exact ⟨_, hspells, number_ofDigits.symm⟩
  · intro h
    obtain ⟨digits, hspells, hvalue⟩ := h
    rw [hspells.fromHex_ofDigits]
    apply congrArg Except.ok
    apply eq_of_number
    exact number_ofDigits.trans hvalue

theorem Denotes.unique {m : Nat} (h : Denotes s m) (h' : Denotes s n) : m = n := by
  obtain ⟨digits, hspells, rfl⟩ := h
  obtain ⟨digits', hspells', rfl⟩ := h'
  rw [← hspells.stripPrefix_eq, ← hspells'.stripPrefix_eq]

theorem Denotes.number_eq (h : Denotes s n) (hv : FieldValue.fromHex s = .ok v) : v.number = n :=
  (FieldValue.fromHex_ok.mp hv).unique h

theorem FieldValue.isZero_iff : v.isZero ↔ v.number = 0 := by
  have hzero : zero.number = 0 := by decide
  unfold isZero
  rw [beq_iff_eq]
  constructor
  · intro h
    have heq : v = zero := eq_of_hex h
    rw [heq, hzero]
  · intro h
    have heq : v = zero := eq_of_number (h.trans hzero.symm)
    rw [heq]
    rfl

theorem fromJson_str_fieldValue : (fromJson (.str s) : Except String FieldValue) = .ok v ↔
    FieldValue.fromHex s = .ok v :=
  mapError_ok

theorem SecretValue.fromHex_ok {w : SecretValue} :
    fromHex s = .ok w ↔ FieldValue.fromHex s = .ok w.value := by
  simp only [fromHex, bind_ok, pure_ok]
  constructor
  · intro h
    obtain ⟨v, hv, rfl⟩ := h
    exact hv
  · intro h
    exact ⟨w.value, h, rfl⟩

end

/-- **A value is the canonical form of an integer.**  The texts that are read are those that denote
an integer; two of them give one value exactly when they denote one integer; a value is read back
from its text; zero is zero; and `serde` and the private values read the same texts as the same. -/
theorem fieldValue_canonical :
    (∀ s, (∃ v, FieldValue.fromHex s = .ok v) ↔ ∃ digits, Spells s digits) ∧
    (∀ s s' v v' n n', FieldValue.fromHex s = .ok v → FieldValue.fromHex s' = .ok v' →
      Denotes s n → Denotes s' n' → (v = v' ↔ n = n')) ∧
    (∀ v : FieldValue, FieldValue.fromHex v.hex = .ok v) ∧
    (∀ s v n, FieldValue.fromHex s = .ok v → Denotes s n → (v.isZero ↔ n = 0)) ∧
    (∀ s v, (fromJson (.str s) : Except String FieldValue) = .ok v ↔
      FieldValue.fromHex s = .ok v) ∧
    ∀ s text, (∃ v, (fromJson (.str s) : Except String FieldValue) = .ok v ∧ v.hex = text) ↔
      ∃ w, SecretValue.fromHex s = .ok w ∧ w.intoHex = text := by
  refine ⟨?_, ?_, FieldValue.fromHex_hex, ?_, fun s v => fromJson_str_fieldValue, ?_⟩
  · intro s
    constructor
    · intro h
      obtain ⟨v, hv⟩ := h
      exact ⟨_, Spells.of_fromHex hv⟩
    · intro h
      obtain ⟨digits, hspells⟩ := h
      exact ⟨_, hspells.fromHex_ofDigits⟩
  · intro s s' v v' n n' hv hv' hn hn'
    rw [← hn.number_eq hv, ← hn'.number_eq hv']
    exact ⟨congrArg FieldValue.number, FieldValue.eq_of_number⟩
  · intro s v n hv hn
    rw [FieldValue.isZero_iff, hn.number_eq hv]
  · intro s text
    constructor
    · intro h
      obtain ⟨v, hv, htext⟩ := h
      exact ⟨⟨v⟩, SecretValue.fromHex_ok.mpr (fromJson_str_fieldValue.mp hv), htext⟩
    · intro h
      obtain ⟨w, hw, htext⟩ := h
      exact ⟨w.value, fromJson_str_fieldValue.mpr (SecretValue.fromHex_ok.mp hw), htext⟩

end Crucible
