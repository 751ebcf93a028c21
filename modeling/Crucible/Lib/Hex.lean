import Mathlib.Data.Nat.Digits.Defs
import Crucible.Lib.Text

/-!
# The number a hexadecimal text denotes

* `hexValue`               the number, most significant digit first; `hexValue_append`,
                           `hexValue_lt`: cut texts and bounds;
* `hexValue_canonicalHex`  lower case and dropped zeros change the text and not the number;
* `Canonical.eq_of_hexValue`   and a number has one canonical text;
* `hexDecode`              the bytes of a text of digit pairs; `hexDecode_hexEncode`,
                           `hexEncode_hexDecode`.
-/

namespace Text

/-! ## digits -/

/-- the value of a hexadecimal digit, in either case -/
def digitValue (c : Char) : Nat :=
  if c.toNat < 58 then c.toNat - 48
  else if c.toNat < 97 then c.toNat - 55
  else c.toNat - 87

section
variable {c d : Char}

theorem isHexDigit_of_lower (h : isLowerHex c) : isHexDigit c := isHexDigit_iff.mpr (.inl h)

theorem digitValue_lt (h : isHexDigit c) : digitValue c < 16 := by
  have h' := isHexDigit_iff.mp h
  rw [isLowerHex_iff] at h'
  unfold digitValue
  split
  · omega
  · split <;> omega

theorem lower_of_lower (h : isLowerHex c) : lower c = c := by
  have hnot : ¬ isAsciiUpper c := by
    rw [isAsciiUpper_iff]
    have := isLowerHex_iff.mp h
    omega
  exact if_neg hnot

theorem digitValue_lower (h : isHexDigit c) : digitValue (lower c) = digitValue c := by
  rcases isHexDigit_iff.mp h with hlow | ⟨h1, h2⟩
  · rw [lower_of_lower hlow]
  · unfold lower digitValue
    rw [if_pos (isAsciiUpper_iff.mpr ⟨h1, by omega⟩), toNat_ofNat (by omega), if_neg (by omega),
      if_neg (by omega), if_neg (by omega), if_pos (by omega)]
    omega

theorem hexDigit_toNat {n : Nat} (h : n < 16) :
    (hexDigit n).toNat = if n < 10 then 48 + n else 87 + n := by
  unfold hexDigit
  split
  · exact toNat_ofNat (by omega)
  · exact toNat_ofNat (by omega)

theorem hexDigit_isLowerHex {n : Nat} (h : n < 16) : isLowerHex (hexDigit n) := by
  rw [isLowerHex_iff, hexDigit_toNat h]
  split <;> omega

theorem digitValue_hexDigit {n : Nat} (h : n < 16) : digitValue (hexDigit n) = n := by
  unfold digitValue
  rw [hexDigit_toNat h]
  by_cases hn : n < 10
  · rw [if_pos hn, if_pos (by omega)]
    omega
  · rw [if_neg hn, if_neg (by omega), if_neg (by omega)]
    omega

/-- the lower-case digit of a digit's value is the digit -/
theorem hexDigit_digitValue (h : isLowerHex c) : hexDigit (digitValue c) = c := by
  have hlt := digitValue_lt (isHexDigit_of_lower h)
  rw [isLowerHex_iff] at h
  have hn : (hexDigit (digitValue c)).toNat = c.toNat := by
    rw [hexDigit_toNat hlt]
    by_cases hc : c.toNat < 58
    · have hv : digitValue c = c.toNat - 48 := if_pos hc
      rw [hv, if_pos (by omega)]
      omega
    · have hv : digitValue c = c.toNat - 87 := by
        rw [digitValue, if_neg hc, if_neg (by omega)]
      rw [hv, if_neg (by omega)]
      omega
  rw [← Char.ofNat_toNat (hexDigit _), hn, Char.ofNat_toNat]

end

/-! ## numbers -/

/-- the number, most significant digit first -/
def hexValue (cs : List Char) : Nat := Nat.ofDigits 16 (cs.reverse.map digitValue)

section
variable {cs a b : List Char}

theorem hexValue_append : hexValue (a ++ b) = hexValue a * 16^b.length + hexValue b := by
  unfold hexValue
  rw [List.reverse_append, List.map_append, Nat.ofDigits_append, List.length_map,
    List.length_reverse, Nat.mul_comm, Nat.add_comm]

theorem hexValue_lt (h : cs.all isHexDigit) : hexValue cs < 16^cs.length := by
  have hlt : ∀ x ∈ cs.reverse.map digitValue, x < 16 := by
    intro x hx
    obtain ⟨c, hc, rfl⟩ := List.mem_map.mp hx
    exact digitValue_lt (List.all_eq_true.mp h c (List.mem_reverse.mp hc))
  have := Nat.ofDigits_lt_base_pow_length (by decide) hlt
  rwa [List.length_map, List.length_reverse] at this

theorem hexValue_map_lower (h : cs.all isHexDigit) : hexValue (cs.map lower) = hexValue cs := by
  unfold hexValue
  rw [← List.map_reverse, List.map_map]
  congr 1
  refine List.map_congr_left fun c hc => ?_
  exact digitValue_lower (List.all_eq_true.mp h c (List.mem_reverse.mp hc))

theorem hexValue_zero_cons : hexValue ('0' :: cs) = hexValue cs := by
  unfold hexValue
  rw [List.reverse_cons, List.map_append]
  exact Nat.ofDigits_append_zero _

theorem hexValue_padLeft {n : Nat} : hexValue (padLeft '0' n cs) = hexValue cs := by
  unfold padLeft
  induction n - cs.length with
  | zero => rfl
  | succ k ih => rw [List.replicate_succ, List.cons_append, hexValue_zero_cons, ih]

theorem hexValue_dropWhile : hexValue (cs.dropWhile (· == '0')) = hexValue cs := by
  induction cs with
  | nil => rfl
  | cons c cs ih =>
    by_cases h : c = '0'
    · subst h
      rw [List.dropWhile_cons_of_pos (by rfl), ih, hexValue_zero_cons]
    · rw [List.dropWhile_cons_of_neg (by simpa using h)]

/-- lower case and dropped zeros do not change the number -/
theorem hexValue_canonicalHex (h : cs.all isHexDigit) :
    hexValue (canonicalHex cs) = hexValue cs := by
  have hdrop : hexValue ((cs.map lower).dropWhile (· == '0')) = hexValue cs := by
    rw [hexValue_dropWhile, hexValue_map_lower h]
  unfold canonicalHex
  cases hd : (cs.map lower).dropWhile (· == '0') with
  | nil =>
    rw [hd] at hdrop
    exact hdrop
  | cons d ds =>
    rw [hd] at hdrop
    exact hdrop

theorem eq_of_hexValue (hlen : a.length = b.length) (ha : a.all isLowerHex)
    (hb : b.all isLowerHex) (h : hexValue a = hexValue b) : a = b := by
  have hlt {cs : List Char} (hcs : cs.all isLowerHex) :
      ∀ x ∈ cs.reverse.map digitValue, x < 16 := by
    intro x hx
    obtain ⟨c, hc, rfl⟩ := List.mem_map.mp hx
    have hlow := List.all_eq_true.mp hcs c (List.mem_reverse.mp hc)
    exact digitValue_lt (isHexDigit_of_lower hlow)
  have hmap : a.reverse.map digitValue = b.reverse.map digitValue :=
    Nat.ofDigits_inj_of_len_eq (by decide) (by simpa using hlen) (hlt ha) (hlt hb) h
  rw [List.map_reverse, List.map_reverse, List.reverse_inj] at hmap
  have hback {cs : List Char} (hcs : cs.all isLowerHex) :
      (cs.map digitValue).map hexDigit = cs := by
    rw [List.map_map]
    refine (List.map_congr_left fun c hc => ?_).trans (List.map_id cs)
    exact hexDigit_digitValue (List.all_eq_true.mp hcs c hc)
  rw [← hback ha, hmap, hback hb]

/-! ## padded texts -/

theorem all_isHexDigit (h : cs.all isLowerHex) : cs.all isHexDigit :=
  List.all_eq_true.mpr fun c hc => isHexDigit_of_lower (List.all_eq_true.mp h c hc)

theorem length_padLeft {c : Char} {n : Nat} (h : cs.length ≤ n) : (padLeft c n cs).length = n := by
  rw [padLeft, List.length_append, List.length_replicate]
  omega

theorem isLowerHex_padLeft {n : Nat} (h : cs.all isLowerHex) :
    (padLeft '0' n cs).all isLowerHex := by
  rw [padLeft, List.all_append, h]
  simp [isLowerHex, isAsciiDigit]

theorem isHexDigit_padLeft {n : Nat} (h : cs.all isHexDigit) :
    (padLeft '0' n cs).all isHexDigit := by
  rw [padLeft, List.all_append, h]
  simp [isHexDigit, isLowerHex, isAsciiDigit]

/-! ## canonical texts -/

theorem dropWhile_padLeft {n : Nat} :
    (padLeft '0' n cs).dropWhile (· == '0') = cs.dropWhile (· == '0') := by
  unfold padLeft
  induction n - cs.length with
  | zero => rfl
  | succ k ih =>
    rw [List.replicate_succ, List.cons_append, List.dropWhile_cons_of_pos (by rfl), ih]

/-- a canonical text is what is left of it after padding -/
theorem canonicalHex_padLeft {m n : Nat} (h : Canonical n cs) :
    canonicalHex (padLeft '0' m cs) = cs := by
  obtain ⟨hne, _, hall, hhead⟩ := h
  have hlower : (padLeft '0' m cs).map lower = padLeft '0' m cs := by
    refine (List.map_congr_left fun c hc => ?_).trans (List.map_id _)
    rcases List.mem_append.mp hc with h0 | hc
    · rw [List.eq_of_mem_replicate h0]
      rfl
    · exact lower_of_lower (List.all_eq_true.mp hall c hc)
  unfold canonicalHex
  rw [hlower, dropWhile_padLeft]
  cases cs with
  | nil => exact absurd rfl hne
  | cons c cs =>
    by_cases hc : c = '0'
    · subst hc
      obtain rfl := (List.cons.inj (hhead rfl)).2
      rfl
    · rw [List.dropWhile_cons_of_neg (by simpa using hc)]

theorem canonicalHex_of_canonical {n : Nat} (h : Canonical n cs) : canonicalHex cs = cs := by
  have := canonicalHex_padLeft (m := 0) h
  rwa [show padLeft '0' 0 cs = cs by simp [padLeft]] at this

/-- a number has one canonical text -/
theorem Canonical.eq_of_hexValue {n : Nat} (ha : Canonical n a) (hb : Canonical n b)
    (h : hexValue a = hexValue b) : a = b := by
  have hpad : padLeft '0' n a = padLeft '0' n b := by
    refine Text.eq_of_hexValue ?_ (isLowerHex_padLeft ha.2.2.1) (isLowerHex_padLeft hb.2.2.1) ?_
    · rw [length_padLeft ha.2.1, length_padLeft hb.2.1]
    · rw [hexValue_padLeft, hexValue_padLeft, h]
  rw [← canonicalHex_padLeft (m := n) ha, hpad, canonicalHex_padLeft hb]

end

/-! ## one byte a digit -/

section
variable {cs : List Char}

theorem utf8Size_of_hexDigit {c : Char} (h : isHexDigit c) : c.utf8Size = 1 := by
  have h' := isHexDigit_iff.mp h
  rw [isLowerHex_iff] at h'
  rw [Char.utf8Size_eq_one_iff, UInt32.le_iff_toNat_le]
  show c.toNat ≤ 127
  omega

theorem byteLen_of_hexDigits (h : cs.all isHexDigit) : byteLen cs = cs.length := by
  induction cs with
  | nil => rfl
  | cons c cs ih =>
    rw [List.all_cons, Bool.and_eq_true] at h
    show c.utf8Size + byteLen cs = cs.length + 1
    rw [utf8Size_of_hexDigit h.1, ih h.2, Nat.add_comm]

theorem splitBytes_of_hexDigits {n : Nat} (h : cs.all isHexDigit) (hn : n ≤ cs.length) :
    splitBytes n cs = some (cs.take n, cs.drop n) := by
  induction cs generalizing n with
  | nil =>
    obtain rfl := Nat.le_zero.mp hn
    rfl
  | cons c cs ih =>
    cases n with
    | zero => rfl
    | succ n =>
      rw [List.all_cons, Bool.and_eq_true] at h
      rw [splitBytes, utf8Size_of_hexDigit h.1, if_pos (by omega), Nat.add_sub_cancel,
        ih h.2 (Nat.le_of_succ_le_succ hn)]
      rfl

theorem stripPrefix_of_hexDigits (h : cs.all isHexDigit) : stripPrefix "0x".toList cs = cs := by
  refine if_neg fun hpre => ?_
  obtain ⟨rest, rfl⟩ := List.isPrefixOf_iff_prefix.mp hpre
  have hx : 'x' ∈ "0x".toList ++ rest := by simp
  exact absurd (List.all_eq_true.mp h 'x' hx) (by decide)

end

/-! ## bytes -/

/-- `hex::decode`; `none` is its error -/
def hexDecode : List Char → Option (List UInt8)
  | [] => some []
  | [_] => none
  | c :: d :: cs =>
    if isHexDigit c && isHexDigit d then
      (hexDecode cs).map fun bytes => UInt8.ofNat (16 * digitValue c + digitValue d) :: bytes
    else none

section
variable {bytes : List UInt8}

theorem hexEncode_nil : (hexEncode []).toList = [] := by rw [hexEncode, String.toList_ofList]; rfl

theorem hexEncode_cons (b : UInt8) : (hexEncode (b :: bytes)).toList =
    hexDigit (b.toNat / 16) :: hexDigit (b.toNat % 16) :: (hexEncode bytes).toList := by
  rw [hexEncode, hexEncode, String.toList_ofList, String.toList_ofList]
  rfl

theorem byte_halves (b : UInt8) : b.toNat / 16 < 16 ∧ b.toNat % 16 < 16 := by
  have := b.toNat_lt
  omega

theorem hexEncode_isLowerHex : (hexEncode bytes).toList.all isLowerHex := by
  induction bytes with
  | nil => rw [hexEncode_nil]; rfl
  | cons b bytes ih =>
    obtain ⟨hhi, hlo⟩ := byte_halves b
    rw [hexEncode_cons, List.all_cons, List.all_cons, ih, hexDigit_isLowerHex hhi,
      hexDigit_isLowerHex hlo]
    rfl

theorem isHexDigit_hexEncode : (hexEncode bytes).toList.all isHexDigit :=
  all_isHexDigit hexEncode_isLowerHex

theorem hexEncode_length : (hexEncode bytes).toList.length = 2 * bytes.length := by
  induction bytes with
  | nil => rw [hexEncode_nil]; rfl
  | cons b bytes ih =>
    rw [hexEncode_cons, List.length_cons, List.length_cons, ih, List.length_cons]
    omega

theorem hexDecode_hexEncode : hexDecode (hexEncode bytes).toList = some bytes := by
  induction bytes with
  | nil => rw [hexEncode_nil]; rfl
  | cons b bytes ih =>
    obtain ⟨hhi, hlo⟩ := byte_halves b
    have hb : 16 * (b.toNat / 16) + b.toNat % 16 = b.toNat := Nat.div_add_mod _ _
    rw [hexEncode_cons, hexDecode, isHexDigit_of_lower (hexDigit_isLowerHex hhi),
      isHexDigit_of_lower (hexDigit_isLowerHex hlo), ih, digitValue_hexDigit hhi,
      digitValue_hexDigit hlo, hb, UInt8.ofNat_toNat]
    rfl

theorem hexEncode_injective {xs ys : List UInt8} (h : hexEncode xs = hexEncode ys) :
    xs = ys := by
  have hread := congrArg (fun text => hexDecode text.toList) h
  rw [hexDecode_hexEncode, hexDecode_hexEncode] at hread
  exact Option.some.inj hread

theorem lower_eq_hexDigit {c : Char} (h : isHexDigit c) : hexDigit (digitValue c) = lower c := by
  rw [← digitValue_lower h, hexDigit_digitValue (isLowerHex_lower h)]

/-- an even number of digits is read -/
theorem hexDecode_of_even {cs : List Char} (hall : cs.all isHexDigit) (heven : cs.length % 2 = 0) :
    ∃ bytes, hexDecode cs = some bytes := by
  induction cs using hexDecode.induct with
  | case1 => exact ⟨[], rfl⟩
  | case2 c => cases heven
  | case3 c d cs hcd ih =>
    rw [List.all_cons, List.all_cons, Bool.and_eq_true, Bool.and_eq_true] at hall
    have hlen : cs.length % 2 = 0 := by
      rw [List.length_cons, List.length_cons] at heven
      omega
    obtain ⟨bytes, hbytes⟩ := ih hall.2.2 hlen
    rw [hexDecode, if_pos hcd, hbytes]
    exact ⟨_, rfl⟩
  | case4 c d cs hcd =>
    rw [List.all_cons, List.all_cons, Bool.and_eq_true, Bool.and_eq_true] at hall
    exact absurd (Bool.and_eq_true _ _ ▸ ⟨hall.1, hall.2.1⟩) hcd

/-- the bytes of a text are written as the text, in lower case -/
theorem hexEncode_hexDecode {cs : List Char} (h : hexDecode cs = some bytes) :
    (hexEncode bytes).toList = cs.map lower := by
  induction cs using hexDecode.induct generalizing bytes with
  | case1 =>
    obtain rfl := Option.some.inj h
    exact hexEncode_nil
  | case2 c => cases h
  | case3 c d cs hcd ih =>
    rw [hexDecode, if_pos hcd] at h
    obtain ⟨rest, hrest, rfl⟩ := Option.map_eq_some_iff.mp h
    rw [Bool.and_eq_true] at hcd
    obtain ⟨hc, hd⟩ := hcd
    have hlt := digitValue_lt hc
    have hlt' := digitValue_lt hd
    have hbyte : (UInt8.ofNat (16 * digitValue c + digitValue d)).toNat
        = 16 * digitValue c + digitValue d := UInt8.toNat_ofNat_of_lt' (by
      show _ < 256
      omega)
    have hhigh : (16 * digitValue c + digitValue d) / 16 = digitValue c := by omega
    have hlow : (16 * digitValue c + digitValue d) % 16 = digitValue d := by omega
    rw [hexEncode_cons, hbyte, hhigh, hlow, ih hrest, lower_eq_hexDigit hc, lower_eq_hexDigit hd]
    rfl
  | case4 c d cs hcd =>
    rw [hexDecode, if_neg hcd] at h
    cases h

end

end Text
