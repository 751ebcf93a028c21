import Crucible.Interfaces.Numbers
import Crucible.Lib.Bytes
import Crucible.UltraHonk.Provider

/-!
# Field words as numbers

Public words are read into values and written back padded; proof words are read into bytes, joined,
cut again and written back.  Neither changes the number of a word.

* `wordNumber`, `SameWords`   the number of a word; lists of words with the same numbers, in order;
* `fieldFromWord_number`, `publicWord_number`   a public word and back;
* `wordBytes_number`, `chunks_flatten`, `proofDocument_words`   the words of a proof and back.
-/

namespace Crucible
open Bytes Checked Text

/-! ## numbers -/

/-- the number of a word, with or without the prefix -/
def wordNumber (word : String) : Option Nat :=
  let digits := stripPrefix "0x".toList word.toList
  if digits ≠ [] ∧ digits.all isHexDigit then some (hexValue digits) else none

/-- word for word and in order, the same numbers -/
def SameWords (a b : List String) : Prop := a.map wordNumber = b.map wordNumber

/-- `0x`, and 1 to 64 digits -/
def IsWord (word : String) : Prop :=
  ∃ digits, word.toList = "0x".toList ++ digits ∧ digits ≠ [] ∧ digits.length ≤ 64 ∧
    digits.all isHexDigit

section
variable {word : String} {digits : List Char} {value : FieldValue}

theorem wordNumber_prefixed (hword : word.toList = "0x".toList ++ digits) (hne : digits ≠ [])
    (hall : digits.all isHexDigit) : wordNumber word = some (hexValue digits) := by
  simp only [wordNumber, hword, stripPrefix_append]
  exact if_pos ⟨hne, hall⟩

/-- the value of a public word has its number -/
theorem fieldFromWord_number (hword : IsWord word) (h : fieldFromWord word = .ok value) :
    wordNumber word = some value.number := by
  obtain ⟨digits, hword, hne, hlen, hall⟩ := hword
  rw [wordNumber_prefixed hword hne hall]
  simp only [fieldFromWord, hword, stripPrefix_append, mapError_ok] at h
  have hsub := List.dropWhile_sublist (l := digits) (· == '0')
  by_cases htrimmed : digits.dropWhile (· == '0') = []
  · rw [if_pos htrimmed] at h
    have hzero : FieldValue.fromHex (String.ofList ['0']) = .ok .zero := by decide
    obtain rfl := Except.ok.inj (hzero.symm.trans h)
    rw [← hexValue_dropWhile, htrimmed]
    rfl
  · have hallTrimmed : (digits.dropWhile (· == '0')).all isHexDigit :=
      List.all_eq_true.mpr fun c hc => List.all_eq_true.mp hall c (hsub.subset hc)
    have hlenTrimmed : (digits.dropWhile (· == '0')).length ≤ maxHexLen :=
      Nat.le_trans hsub.length_le hlen
    rw [if_neg htrimmed, FieldValue.fromHex_ofList htrimmed hlenTrimmed hallTrimmed] at h
    obtain rfl := Except.ok.inj h
    rw [FieldValue.number_ofDigits, hexValue_dropWhile]

/-- a public value is written with its number -/
theorem publicWord_number : wordNumber (publicWord value) = some value.number := by
  have hword : (publicWord value).toList = "0x".toList ++ padLeft '0' 64 value.hex.toList := by
    rw [publicWord, String.toList_append, String.toList_ofList (l := padLeft '0' 64 _)]
  have hne : padLeft '0' 64 value.hex.toList ≠ [] :=
    List.append_ne_nil_of_right_ne_nil _ value.canonical.1
  rw [wordNumber_prefixed hword hne (isHexDigit_padLeft value.isHexDigit_hex), hexValue_padLeft]
  rfl

/-! ## proof words -/

/-- a word is read exactly when it is the text of a value, and it is never a panic -/
theorem Exec.wordBytes_cases (word : String) :
    (IsFieldText word.toList ∧ ∃ bytes, wordBytes word = .ok bytes) ∨
    (¬ IsFieldText word.toList ∧ ∃ e, wordBytes word = .error (.error e)) := by
  by_cases htext : IsFieldText word.toList
  · refine Or.inl ⟨htext, ?_⟩
    obtain ⟨hne, hlen, hall⟩ := htext
    have hcheck : ¬ (stripPrefix "0x".toList word.toList = [] ∨
        byteLen (stripPrefix "0x".toList word.toList) > 64 ∨
        ¬ (stripPrefix "0x".toList word.toList).all isHexDigit) := by
      rw [not_or, not_or, not_not]
      exact ⟨hne, Nat.not_lt_of_le hlen, hall⟩
    have heven : (padLeft '0' 64 (stripPrefix "0x".toList word.toList)).length % 2 = 0 := by
      rw [byteLen_of_hexDigits hall] at hlen
      rw [length_padLeft (n := 64) hlen]
    obtain ⟨bytes, hbytes⟩ := hexDecode_of_even (isHexDigit_padLeft hall) heven
    exact ⟨bytes, bind_ok.mpr ⟨(), ensure_ok.mpr hcheck, fromOption_ok.mpr hbytes⟩⟩
  · refine Or.inr ⟨htext, _, bind_error.mpr (Or.inl (ensure_error.mpr ⟨?_, rfl⟩))⟩
    intro hcheck
    rw [not_or, not_or, not_not] at hcheck
    exact htext ⟨hcheck.1, Nat.le_of_not_lt hcheck.2.1, hcheck.2.2⟩

/-- a word that is read is 32 bytes, and they are its number -/
theorem wordBytes_number {bytes : List UInt8} (h : Exec.wordBytes word = .ok bytes) :
    bytes.length = 32 ∧ wordNumber word = some (hexValue (hexEncode bytes).toList) := by
  simp only [Exec.wordBytes, bind_ok, ensure_ok, fromOption_ok, exists_const, not_or,
    not_not] at h
  obtain ⟨⟨hne, hlen, hall⟩, hdecode⟩ := h
  rw [byteLen_of_hexDigits hall] at hlen
  have htext := hexEncode_hexDecode hdecode
  refine ⟨?_, ?_⟩
  · have hlength := congrArg List.length htext
    rw [hexEncode_length, List.length_map, length_padLeft (Nat.le_of_not_lt hlen)] at hlength
    omega
  · rw [htext, hexValue_map_lower (isHexDigit_padLeft hall), hexValue_padLeft]
    exact if_pos ⟨hne, hall⟩

/-- 32 bytes are written as a word with their number -/
theorem hexEncode_number {bytes : List UInt8} (hne : bytes ≠ []) :
    wordNumber ("0x" ++ hexEncode bytes) = some (hexValue (hexEncode bytes).toList) := by
  refine wordNumber_prefixed String.toList_append ?_ isHexDigit_hexEncode
  intro hnil
  have hlength := congrArg List.length hnil
  rw [hexEncode_length] at hlength
  exact hne (List.length_eq_zero_iff.mp (by simpa using hlength))

end

/-- a text of whole words is cut into them without a rest -/
theorem chunks_eq_asChunks {bytes : List UInt8} (h : bytes.length % wordBytes = 0) :
    chunks bytes = asChunks wordBytes bytes := by
  have hcount : (bytes.length + wordBytes - 1) / wordBytes = bytes.length / wordBytes := by
    show (bytes.length + 32 - 1) / 32 = bytes.length / 32
    have h32 : bytes.length % 32 = 0 := h
    omega
  unfold chunks asChunks
  rw [cut_eq_map_range, hcount]

/-- what was joined from whole words is cut into them -/
theorem chunks_flatten {parts : List (List UInt8)}
    (h : ∀ part ∈ parts, part.length = wordBytes) : chunks parts.flatten = parts := by
  have hwhole : parts.flatten.length % wordBytes = 0 := by
    rw [length_flatten_of_parts h]
    exact Nat.mul_mod_left _ _
  rw [chunks_eq_asChunks hwhole]
  exact asChunks_flatten (by decide) h

/-- words that are read one by one are written back one by one -/
theorem words_of_parts {words : List String} {parts : List (List UInt8)}
    (h : List.Forall₂ (fun word part => Exec.wordBytes word = .ok part) words parts) :
    (∀ part ∈ parts, part.length = wordBytes) ∧
      SameWords (parts.map fun part => "0x" ++ hexEncode part) words := by
  induction h with
  | nil => exact ⟨fun _ hpart => absurd hpart List.not_mem_nil, rfl⟩
  | @cons word part words parts hword _ ih =>
    obtain ⟨hlen, hnumber⟩ := wordBytes_number hword
    have hne : part ≠ [] := List.ne_nil_of_length_pos (by omega)
    refine ⟨List.forall_mem_cons.mpr ⟨hlen, ih.1⟩, ?_⟩
    show wordNumber ("0x" ++ hexEncode part) :: _ = wordNumber word :: _
    rw [hexEncode_number hne, hnumber]
    exact congrArg _ ih.2

/-- the bytes of a proof are written back as its words -/
theorem proofDocument_words {words : List String} {bytes : List UInt8} (format : ProofFormat)
    (vk : VkDocument) (h : Exec.concatWords words = .ok bytes) :
    bytes.length = wordBytes * words.length ∧
      SameWords (proofDocument { format, bytes } vk).proof words := by
  obtain ⟨parts, hparts, hbytes⟩ := bind_ok.mp h
  obtain rfl := pure_ok.mp hbytes
  have hall := mapM_ok hparts
  obtain ⟨hlen, hsame⟩ := words_of_parts hall
  refine ⟨?_, ?_⟩
  · rw [length_flatten_of_parts hlen, hall.length_eq, Nat.mul_comm]
  · show SameWords ((chunks parts.flatten).map fun chunk => "0x" ++ hexEncode chunk) words
    rw [chunks_flatten hlen]
    exact hsame

/-- two texts of one digest have one number -/
theorem digestBytes_number {a b : String} {bytes : List UInt8}
    (ha : Exec.digestBytes a = .ok bytes) (hb : Exec.digestBytes b = .ok bytes) :
    wordNumber a = wordNumber b := by
  obtain ⟨_, _, ha⟩ := bind_ok.mp ha
  obtain ⟨_, _, hb⟩ := bind_ok.mp hb
  rw [(wordBytes_number ha).2, (wordBytes_number hb).2]

/-- public words are written back with the numbers they were read with -/
theorem publicInputsDocument_words {words : List String} {outputs : OutputBag}
    (hwords : ∀ word ∈ words, IsWord word)
    (h : List.Forall₂ (fun word value => fieldFromWord word = .ok value) words outputs.values) :
    SameWords (publicInputsDocument outputs).publicInputs words := by
  unfold SameWords publicInputsDocument
  show (outputs.values.map publicWord).map wordNumber = words.map wordNumber
  generalize outputs.values = values at h
  induction h with
  | nil => rfl
  | @cons word value words values hvalue _ ih =>
    obtain ⟨hword, hwords⟩ := List.forall_mem_cons.mp hwords
    rw [List.map_cons, List.map_cons, List.map_cons, ih hwords, publicWord_number,
      fieldFromWord_number hword hvalue]

end Crucible
