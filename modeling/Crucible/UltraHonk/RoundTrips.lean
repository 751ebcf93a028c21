import Mathlib.Data.List.TakeWhile
import Crucible.Interfaces.Canonical
import Crucible.UltraHonk.Words

/-!
# Field words, their bytes and their values

`bb` writes a field element as a word.  A proof keeps the bytes of its words and is written back
from them; a public word is parsed on its own, by other rules.

* `wordBytes_ok`        a word is read exactly when it denotes an integer, as its 32 bytes;
* `proofBytes_round_trip`   the words of a proof and its bytes, both ways;
* `fieldFromWord_ok`    which words are read as values;
* `fieldFromWord_agrees`    where the two readers of a word agree.
-/

namespace Crucible
open Bytes Checked Text

/-- the digits of a word, without the prefix -/
def wordDigits (word : String) : List Char := stripPrefix "0x".toList word.toList

/-! ## bytes -/

section
variable {word : String} {bytes : List UInt8}

theorem denotes_of_wordBytes (h : Exec.wordBytes word = .ok bytes) :
    bytes.length = 32 ∧ Denotes word (beValue bytes) := by
  obtain ⟨hlength, hnumber⟩ := wordBytes_number h
  simp only [Exec.wordBytes, bind_ok, ensure_ok, exists_const, not_or, not_not] at h
  obtain ⟨⟨hne, hlen, hall⟩, _⟩ := h
  have hvalue : wordNumber word = some (hexValue (wordDigits word)) := if_pos ⟨hne, hall⟩
  rw [hvalue, hexValue_hexEncode] at hnumber
  rw [byteLen_of_hexDigits hall] at hlen
  exact ⟨hlength, denotes_iff.mpr ⟨hne, Nat.le_of_not_lt hlen, hall, Option.some.inj hnumber⟩⟩

theorem isFieldText_iff : IsFieldText word.toList ↔
    wordDigits word ≠ [] ∧ (wordDigits word).length ≤ 64 ∧ (wordDigits word).all isHexDigit := by
  unfold IsFieldText wordDigits
  refine and_congr_right fun _ => and_congr_left fun hall => ?_
  rw [byteLen_of_hexDigits hall]
  rfl

theorem exists_wordBytes_iff : (∃ bytes, Exec.wordBytes word = .ok bytes) ↔
    wordDigits word ≠ [] ∧ (wordDigits word).length ≤ 64 ∧ (wordDigits word).all isHexDigit := by
  rw [← isFieldText_iff]
  rcases Exec.wordBytes_cases word with ⟨htext, hbytes⟩ | ⟨hno, e, herror⟩
  · exact iff_of_true hbytes htext
  · refine iff_of_false (fun h => ?_) hno
    obtain ⟨bytes, hbytes⟩ := h
    cases hbytes.symm.trans herror

/-- **A word is read exactly when it denotes an integer, as the 32 bytes of it.** -/
theorem wordBytes_ok : Exec.wordBytes word = .ok bytes ↔
    bytes.length = 32 ∧ Denotes word (beValue bytes) := by
  constructor
  · exact denotes_of_wordBytes
  · intro h
    obtain ⟨hlen, hdenotes⟩ := h
    obtain ⟨hne, hmax, hall, _⟩ := denotes_iff.mp hdenotes
    obtain ⟨bytes', hread⟩ := exists_wordBytes_iff.mpr ⟨hne, hmax, hall⟩
    obtain ⟨hlen', hdenotes'⟩ := denotes_of_wordBytes hread
    rw [hread, beValue_inj (hlen'.trans hlen.symm) (hdenotes'.unique hdenotes)]

/-- bytes are written as a word that denotes their number -/
theorem denotes_hexEncode (hlen : bytes.length = 32) :
    Denotes ("0x" ++ hexEncode bytes) (beValue bytes) := by
  have hdigits : stripPrefix "0x".toList ("0x" ++ hexEncode bytes).toList
      = (hexEncode bytes).toList := by
    rw [String.toList_append, stripPrefix_append]
  have hlength : (hexEncode bytes).toList.length = 64 := by rw [hexEncode_length, hlen]
  rw [denotes_iff, hdigits]
  exact ⟨List.ne_nil_of_length_pos (by omega), Nat.le_of_eq hlength, isHexDigit_hexEncode,
    hexValue_hexEncode⟩

theorem wordBytes_hexEncode (hlen : bytes.length = 32) :
    Exec.wordBytes ("0x" ++ hexEncode bytes) = .ok bytes :=
  wordBytes_ok.mpr ⟨hlen, denotes_hexEncode hlen⟩

end

/-! ## proofs -/

section
variable {words : List String} {bytes : List UInt8}

theorem concatWords_ok (h : Exec.concatWords words = .ok bytes) :
    ∃ parts : List (List UInt8), bytes = parts.flatten ∧
      List.Forall₂ (fun word part => Exec.wordBytes word = .ok part) words parts := by
  obtain ⟨parts, hparts, hbytes⟩ := bind_ok.mp h
  exact ⟨parts, (pure_ok.mp hbytes).symm, mapM_ok hparts⟩

theorem concatWords_of_parts {parts : List (List UInt8)}
    (h : List.Forall₂ (fun word part => Exec.wordBytes word = .ok part) words parts) :
    Exec.concatWords words = .ok parts.flatten :=
  bind_ok.mpr ⟨parts, mapM_of_forall₂ h, rfl⟩

/-- **The words of a proof and its bytes**: the bytes of words are written back as words of the same
integers, one by one and in order, and the words that bytes are written as are read as the bytes. -/
theorem proofBytes_round_trip :
    (∀ (doc : ProofDocument) (bytes : List UInt8), Exec.proofBytes doc = .ok bytes →
      bytes.length = 32 * doc.proof.length ∧
      ∀ (format : ProofFormat) (vk : VkDocument),
        List.Forall₂ (fun word written => ∃ n, Denotes word n ∧ Denotes written n)
          doc.proof (proofDocument { format, bytes } vk).proof) ∧
    ∀ (proof : ProofBlob) (vk : VkDocument), 0 < proof.bytes.length →
      proof.bytes.length % 32 = 0 →
      Exec.proofBytes (proofDocument proof vk) = .ok proof.bytes := by
  refine ⟨fun doc bytes h => ?_, fun proof vk _ hwhole => ?_⟩
  · obtain ⟨parts, rfl, hall⟩ := concatWords_ok h
    have hlen : ∀ part ∈ parts, part.length = 32 := (words_of_parts hall).1
    refine ⟨?_, fun format vk => ?_⟩
    · rw [length_flatten_of_parts hlen, hall.length_eq, Nat.mul_comm]
    · show List.Forall₂ _ doc.proof ((chunks parts.flatten).map _)
      rw [chunks_flatten hlen, List.forall₂_map_right_iff]
      refine hall.imp fun word part hword => ?_
      obtain ⟨hpart, hdenotes⟩ := wordBytes_ok.mp hword
      exact ⟨beValue part, hdenotes, denotes_hexEncode hpart⟩
  · have hjoin : (chunks proof.bytes).flatten = proof.bytes := by
      rw [chunks_eq_asChunks hwhole]
      exact flatten_asChunks hwhole
    have hall : List.Forall₂ (fun word part => Exec.wordBytes word = .ok part)
        (proofDocument proof vk).proof (chunks proof.bytes) := by
      show List.Forall₂ _ ((chunks proof.bytes).map _) _
      rw [List.forall₂_map_left_iff, List.forall₂_same, chunks_eq_asChunks hwhole]
      exact fun part hpart => wordBytes_hexEncode (length_of_mem_asChunks hpart)
    have hread := concatWords_of_parts hall
    rw [hjoin] at hread
    exact hread

end

/-! ## values -/

section
variable {word : String} {value : FieldValue} {bytes : List UInt8}

/-- the digits of a word, without the zeros in front -/
def significant (word : String) : List Char := (wordDigits word).dropWhile (· == '0')

theorem length_significant_le : (significant word).length ≤ (wordDigits word).length :=
  (List.dropWhile_sublist _).length_le

/-- the zeros that are dropped are digits -/
theorem isHexDigit_significant :
    (significant word).all isHexDigit ↔ (wordDigits word).all isHexDigit := by
  have hzeros : ((wordDigits word).takeWhile (· == '0')).all isHexDigit := by
    rw [List.all_eq_true]
    intro c hc
    have hzero : c = '0' := by simpa using List.mem_takeWhile_imp hc
    rw [hzero]
    decide
  have hcut : (wordDigits word).all isHexDigit = (significant word).all isHexDigit := by
    rw [← List.takeWhile_append_dropWhile (p := (· == '0')) (l := wordDigits word),
      List.all_append, hzeros, Bool.true_and]
    rfl
  rw [hcut]

/-- what does not begin with a zero has no prefix to take off -/
theorem stripPrefix_significant : stripPrefix "0x".toList (significant word) = significant word := by
  have hhead := List.head?_dropWhile_not (· == '0') (wordDigits word)
  refine if_neg fun hpre => ?_
  obtain ⟨rest, hrest⟩ := List.isPrefixOf_iff_prefix.mp hpre
  have hzero : (significant word).head? = some '0' := by
    rw [← hrest]
    rfl
  rw [significant] at hzero
  rw [hzero] at hhead
  cases hhead

/-- **Which words are read as values**: no digits at all are zero, and zeros in front are not
counted. -/
theorem fieldFromWord_ok : fieldFromWord word = .ok value ↔
    (wordDigits word).all isHexDigit ∧ (significant word).length ≤ 64 ∧
      hexValue (wordDigits word) = value.number := by
  have hread (digits : List Char) (hstrip : stripPrefix "0x".toList digits = digits) :
      FieldValue.fromHex (String.ofList digits) = .ok value ↔ digits ≠ [] ∧ digits.length ≤ 64 ∧
        digits.all isHexDigit ∧ hexValue digits = value.number := by
    rw [FieldValue.fromHex_ok, denotes_iff, String.toList_ofList (l := digits), hstrip]
  have hvalue : hexValue (significant word) = hexValue (wordDigits word) := hexValue_dropWhile
  unfold fieldFromWord
  show (FieldValue.fromHex (String.ofList (if significant word = [] then ['0'] else
    significant word))).mapError _ = _ ↔ _
  rw [mapError_ok, ← isHexDigit_significant, ← hvalue]
  by_cases hnil : significant word = []
  · rw [if_pos hnil, hnil, hread ['0'] rfl]
    simp [isHexDigit, isLowerHex, isAsciiDigit, hexValue, digitValue]
  · rw [if_neg hnil, hread _ stripPrefix_significant]
    exact ⟨fun h => ⟨h.2.2.1, h.2.1, h.2.2.2⟩, fun h => ⟨hnil, h.2.1, h.1, h.2.2⟩⟩

theorem exists_fieldFromWord_iff : (∃ value, fieldFromWord word = .ok value) ↔
    (wordDigits word).all isHexDigit ∧ (significant word).length ≤ 64 := by
  constructor
  · intro h
    obtain ⟨value, h⟩ := h
    obtain ⟨hall, hlen, _⟩ := fieldFromWord_ok.mp h
    exact ⟨hall, hlen⟩
  · intro h
    obtain ⟨hall, hlen⟩ := h
    have hmax : (significant word).length ≤ maxHexLen := hlen
    have hvalue : (FieldValue.ofDigits (significant word) hmax
        (isHexDigit_significant.mpr hall)).number = hexValue (wordDigits word) := by
      rw [FieldValue.number_ofDigits]
      exact hexValue_dropWhile
    exact ⟨_, fieldFromWord_ok.mpr ⟨hall, hlen, hvalue.symm⟩⟩

/-- a word that both read has one number -/
theorem fieldFromWord_number_eq (hvalue : fieldFromWord word = .ok value)
    (hbytes : Exec.wordBytes word = .ok bytes) : value.number = beValue bytes := by
  obtain ⟨_, _, _, hnumber⟩ := denotes_iff.mp (denotes_of_wordBytes hbytes).2
  rw [← (fieldFromWord_ok.mp hvalue).2.2]
  exact hnumber

/-- **Where the two readers of a word agree**: where there are digits, and no more than 64 of them
unless more than 64 are left without the zeros in front. -/
theorem fieldFromWord_agrees (word : String) :
    (((∃ value, fieldFromWord word = .ok value) ↔ ∃ bytes, Exec.wordBytes word = .ok bytes) ∧
      ∀ value bytes, fieldFromWord word = .ok value → Exec.wordBytes word = .ok bytes →
        value.number = beValue bytes) ↔
    wordDigits word ≠ [] ∧ ((wordDigits word).all isHexDigit → (significant word).length ≤ 64 →
      (wordDigits word).length ≤ 64) := by
  rw [exists_fieldFromWord_iff, exists_wordBytes_iff]
  constructor
  · intro h
    obtain ⟨hiff, _⟩ := h
    refine ⟨fun hnil => ?_, fun hall hlen => (hiff.mp ⟨hall, hlen⟩).2.1⟩
    have hempty : (wordDigits word).all isHexDigit ∧ (significant word).length ≤ 64 := by
      unfold significant
      rw [hnil]
      exact ⟨rfl, Nat.zero_le _⟩
    exact (hiff.mp hempty).1 hnil
  · intro h
    obtain ⟨hne, hshort⟩ := h
    refine ⟨⟨fun hread => ?_, fun hread => ?_⟩, fun value bytes => fieldFromWord_number_eq⟩
    · obtain ⟨hall, hlen⟩ := hread
      exact ⟨hne, hshort hall hlen, hall⟩
    · obtain ⟨_, hlen, hall⟩ := hread
      exact ⟨hall, Nat.le_trans length_significant_le hlen⟩

/-- the empty word is zero to the one, and no word to the other -/
theorem fieldFromWord_disagrees : ¬ ∀ word : String,
    ((∃ value, fieldFromWord word = .ok value) ↔ ∃ bytes, Exec.wordBytes word = .ok bytes) ∧
      ∀ value bytes, fieldFromWord word = .ok value → Exec.wordBytes word = .ok bytes →
        value.number = beValue bytes := by
  intro h
  have hread : fieldFromWord "" = .ok .zero := rfl
  obtain ⟨bytes, hbytes⟩ := (h "").1.mp ⟨_, hread⟩
  exact absurd hbytes (by rintro ⟨⟩)

end

end Crucible
