import Mathlib.Data.List.Basic

/-!
# UTF-8: bytes read as text, as the Rust standard library reads them

* `toStringLossy`          the text of some bytes; `U+FFFD` stands for each longest start of a
                           character that is not one;
* `toStringLossy_toUTF8`   the bytes of a text are read back;
* `toUTF8_injective`       and say which text it is;
* `zero_not_mem_toUTF8`    none of them is zero, but for the character `U+0000`;
* `utf8EncodeChar_ascii`   bytes below 128 stand for themselves;
* `readToString`           the text of some bytes, or why they are none.
-/

namespace Utf8

def isContinuation (b : UInt8) : Bool := b &&& 0xc0 == 0x80

/-- the second bytes after the first of three or four -/
def isSecond (lead second : UInt8) : Bool :=
  (lead == 0xe0 && 0xa0 ≤ second && second ≤ 0xbf) ||
    (0xe1 ≤ lead && lead ≤ 0xec && isContinuation second) ||
    (lead == 0xed && 0x80 ≤ second && second ≤ 0x9f) ||
    (0xee ≤ lead && lead ≤ 0xef && isContinuation second) ||
    (lead == 0xf0 && 0x90 ≤ second && second ≤ 0xbf) ||
    (0xf1 ≤ lead && lead ≤ 0xf3 && isContinuation second) ||
    (lead == 0xf4 && 0x80 ≤ second && second ≤ 0x8f)

/-- the length of what one `U+FFFD` stands for, where the bytes begin with no character -/
def badLength (bytes : List UInt8) : Nat :=
  if isSecond (bytes.getD 0 0) (bytes.getD 1 0) then
    if 0xf0 ≤ bytes.getD 0 0 && isContinuation (bytes.getD 2 0) then 3 else 2
  else 1

/-- at most `n` characters -/
def lossyChars : Nat → List UInt8 → List Char
  | 0, _ => []
  | _ + 1, [] => []
  | n + 1, b :: bytes =>
    match (b :: bytes).toByteArray.utf8DecodeChar? 0 with
    | some c => c :: lossyChars n ((b :: bytes).drop c.utf8Size)
    | none => '\uFFFD' :: lossyChars n ((b :: bytes).drop (badLength (b :: bytes)))

/-- `String::from_utf8_lossy` -/
def toStringLossy (bytes : List UInt8) : String :=
  String.ofList (lossyChars bytes.length bytes)

/-- `std::fs::read_to_string`, of the bytes in a file -/
def readToString (bytes : List UInt8) : Except String String :=
  match String.fromUTF8? ⟨bytes.toArray⟩ with
  | some text => .ok text
  | none => .error "stream did not contain valid UTF-8"

/-- a character is read, and the text goes on behind it -/
theorem lossyChars_encode {n : Nat} {c : Char} {rest : List UInt8} :
    lossyChars (n + 1) (String.utf8EncodeChar c ++ rest) = c :: lossyChars n rest := by
  have hdecode : (String.utf8EncodeChar c ++ rest).toByteArray.utf8DecodeChar? 0 = some c := by
    rw [List.toByteArray_append]
    exact ByteArray.utf8DecodeChar?_utf8EncodeChar_append
  have hdrop : (String.utf8EncodeChar c ++ rest).drop c.utf8Size = rest :=
    List.drop_left' (String.length_utf8EncodeChar c)
  cases hbytes : String.utf8EncodeChar c ++ rest with
  | nil => exact absurd (List.append_eq_nil_iff.mp hbytes).1 String.utf8EncodeChar_ne_nil
  | cons b bytes =>
    rw [hbytes] at hdecode hdrop
    rw [lossyChars, hdecode]
    show c :: lossyChars n ((b :: bytes).drop c.utf8Size) = _
    rw [hdrop]

theorem lossyChars_flatMap {cs : List Char} : ∀ n, (cs.flatMap String.utf8EncodeChar).length ≤ n →
    lossyChars n (cs.flatMap String.utf8EncodeChar) = cs := by
  induction cs with
  | nil => intro n _; cases n <;> rfl
  | cons c cs ih =>
    intro n hn
    rw [List.flatMap_cons, List.length_append, String.length_utf8EncodeChar] at hn
    have hpos : 0 < c.utf8Size := c.utf8Size_pos
    obtain ⟨m, rfl⟩ : ∃ m, n = m + 1 := ⟨n - 1, by omega⟩
    rw [List.flatMap_cons, lossyChars_encode, ih m (by omega)]

theorem toUTF8_toList (s : String) :
    s.toUTF8.data.toList = s.toList.flatMap String.utf8EncodeChar := by
  have hencode : s.toList.utf8Encode = s.toByteArray := String.utf8Encode_toList
  show s.toByteArray.data.toList = _
  rw [← hencode, List.utf8Encode, List.data_toByteArray]

theorem toStringLossy_toUTF8 (s : String) : toStringLossy s.toUTF8.data.toList = s := by
  rw [toStringLossy, toUTF8_toList, lossyChars_flatMap _ (Nat.le_refl _), String.ofList_toList]

theorem toUTF8_ne_nil {s : String} (h : s ≠ "") : s.toUTF8.data.toList ≠ [] := by
  intro hnil
  apply h
  rw [← toStringLossy_toUTF8 s, hnil]
  rfl

theorem toUTF8_injective {s t : String} (h : s.toUTF8.data.toList = t.toUTF8.data.toList) :
    s = t := by
  rw [← toStringLossy_toUTF8 s, h, toStringLossy_toUTF8]

theorem ofNat_ne_zero {n : Nat} (hpos : 0 < n) (hlt : n < 256) : UInt8.ofNat n ≠ 0 := by
  intro h
  have hnat := congrArg UInt8.toNat h
  rw [UInt8.toNat_ofNat', UInt8.toNat_zero] at hnat
  omega

/-- the only character with a zero byte is `U+0000` -/
theorem utf8EncodeChar_ne_zero {c : Char} (h : c.toNat ≠ 0) :
    ∀ b ∈ String.utf8EncodeChar c, b ≠ 0 := by
  have hpos : c.val.toNat ≠ 0 := h
  unfold String.utf8EncodeChar
  dsimp only
  split_ifs <;>
    simp only [List.forall_mem_cons, List.not_mem_nil, false_imp_iff, implies_true, and_true]
  · exact ofNat_ne_zero (by omega) (by omega)
  · exact ⟨ofNat_ne_zero (by omega) (by omega), ofNat_ne_zero (by omega) (by omega)⟩
  · exact ⟨ofNat_ne_zero (by omega) (by omega), ofNat_ne_zero (by omega) (by omega),
      ofNat_ne_zero (by omega) (by omega)⟩
  · exact ⟨ofNat_ne_zero (by omega) (by omega), ofNat_ne_zero (by omega) (by omega),
      ofNat_ne_zero (by omega) (by omega), ofNat_ne_zero (by omega) (by omega)⟩

theorem zero_not_mem_toUTF8 {s : String} (h : ∀ c ∈ s.toList, c.toNat ≠ 0) :
    0 ∉ s.toUTF8.data.toList := by
  intro hmem
  rw [toUTF8_toList, List.mem_flatMap] at hmem
  obtain ⟨c, hc, hzero⟩ := hmem
  exact utf8EncodeChar_ne_zero (h c hc) 0 hzero rfl

/-- a byte is its character, or 128 and above -/
theorem utf8EncodeChar_ascii (c : Char) :
    ∀ b ∈ String.utf8EncodeChar c, b.toNat = c.toNat ∨ 128 ≤ b.toNat := by
  have hbyte {n : Nat} (hlt : n < 256) : (UInt8.ofNat n).toNat = n :=
    UInt8.toNat_ofNat_of_lt' hlt
  have hhigh {n : Nat} (hle : 128 ≤ n) (hlt : n < 256) :
      (UInt8.ofNat n).toNat = c.toNat ∨ 128 ≤ (UInt8.ofNat n).toNat := by
    rw [hbyte hlt]
    exact Or.inr hle
  unfold String.utf8EncodeChar
  dsimp only
  split_ifs <;>
    simp only [List.forall_mem_cons, List.not_mem_nil, false_imp_iff, implies_true, and_true]
  · exact Or.inl (hbyte (by omega))
  · exact ⟨hhigh (by omega) (by omega), hhigh (by omega) (by omega)⟩
  · exact ⟨hhigh (by omega) (by omega), hhigh (by omega) (by omega), hhigh (by omega) (by omega)⟩
  · exact ⟨hhigh (by omega) (by omega), hhigh (by omega) (by omega), hhigh (by omega) (by omega),
      hhigh (by omega) (by omega)⟩

example : toStringLossy [0x61, 0xf0, 0x90, 0x41, 0xff, 0xc3, 0xa9] = "a\uFFFDA\uFFFDé" := by
  decide +kernel

end Utf8
