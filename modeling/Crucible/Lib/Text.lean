import Mathlib.Algebra.Order.Ring.Nat
import Mathlib.Data.List.Basic

/-!
# Text: strings as the programs under verification see them

Lengths and slices count UTF-8 bytes; a slice off a character boundary does not exist.

* `byteLen`, `splitBytes`     the length of a text, and a text cut at a byte offset
                              (`splitBytes_eq_some_iff`);
* `stripPrefix`, `padLeft`    a prefix taken off if it is there, a text padded on the left;
* `canonicalHex`              hexadecimal digits in lower case, without leading zeros
                              (`canonicalHex_canonical`);
* `hexEncode`                 two lower-case digits a byte;
* `parseU32`                  a decimal number below `2^32`, with an optional plus sign.
-/

namespace Text

def byteLen (cs : List Char) : Nat := (cs.map Char.utf8Size).sum

/-- `(&cs[..n], &cs[n..])`, where both exist -/
def splitBytes : Nat → List Char → Option (List Char × List Char)
  | 0, cs => some ([], cs)
  | _ + 1, [] => none
  | n + 1, c :: cs =>
    if c.utf8Size ≤ n + 1 then
      (splitBytes (n + 1 - c.utf8Size) cs).map fun q => (c :: q.1, q.2)
    else none

theorem byteLen_cons {c : Char} {cs : List Char} :
    byteLen (c :: cs) = c.utf8Size + byteLen cs := rfl

theorem byteLen_append (cs ds : List Char) : byteLen (cs ++ ds) = byteLen cs + byteLen ds := by
  unfold byteLen
  rw [List.map_append, List.sum_append]

theorem byteLen_eq_zero {cs : List Char} : byteLen cs = 0 ↔ cs = [] := by
  cases cs with
  | nil => exact iff_of_true rfl rfl
  | cons c cs =>
    have hpos := Char.utf8Size_pos c
    rw [byteLen_cons]
    exact iff_of_false (by omega) (List.cons_ne_nil c cs)

/-- a text is cut at the end of a part of so many bytes -/
theorem splitBytes_eq_some_iff {n : Nat} {cs a b : List Char} :
    splitBytes n cs = some (a, b) ↔ cs = a ++ b ∧ byteLen a = n := by
  induction n, cs using splitBytes.induct generalizing a with
  | case1 cs =>
    rw [splitBytes, byteLen_eq_zero, Option.some.injEq, Prod.mk.injEq]
    constructor
    · rintro ⟨rfl, rfl⟩
      exact ⟨rfl, rfl⟩
    · rintro ⟨rfl, rfl⟩
      exact ⟨rfl, rfl⟩
  | case2 n =>
    rw [splitBytes]
    refine iff_of_false (fun h => by cases h) fun h => ?_
    obtain rfl := (List.append_eq_nil_iff.mp h.1.symm).1
    cases h.2
  | case3 n c cs hfits ih =>
    rw [splitBytes, if_pos hfits, Option.map_eq_some_iff]
    constructor
    · intro h
      obtain ⟨q, hq, heq⟩ := h
      obtain ⟨rfl, rfl⟩ := Prod.mk.inj heq
      obtain ⟨rfl, hlen⟩ := ih.mp hq
      refine ⟨rfl, ?_⟩
      rw [byteLen_cons, hlen]
      omega
    · intro h
      obtain ⟨hcut, hlen⟩ := h
      cases a with
      | nil => cases hlen
      | cons d a =>
        obtain ⟨rfl, rfl⟩ := List.cons.inj hcut
        rw [byteLen_cons] at hlen
        exact ⟨(a, b), ih.mpr ⟨rfl, by omega⟩, rfl⟩
  | case4 n c cs hfits =>
    rw [splitBytes, if_neg hfits]
    refine iff_of_false (fun h => by cases h) fun h => ?_
    obtain ⟨hcut, hlen⟩ := h
    cases a with
    | nil => cases hlen
    | cons d a =>
      obtain ⟨rfl, rfl⟩ := List.cons.inj hcut
      rw [byteLen_cons] at hlen
      omega

/-- the text after the prefix `p`, or the whole text -/
def stripPrefix (p cs : List Char) : List Char :=
  if p.isPrefixOf cs then cs.drop p.length else cs

theorem stripPrefix_append {p cs : List Char} : stripPrefix p (p ++ cs) = cs := by
  unfold stripPrefix
  rw [if_pos (List.isPrefixOf_iff_prefix.mpr ⟨cs, rfl⟩), List.drop_left]

def padLeft (c : Char) (n : Nat) (cs : List Char) : List Char :=
  List.replicate (n - cs.length) c ++ cs

/-- the parts of `s` between the separators -/
def split (c : Char) (s : String) : List String := (s.toList.splitOn c).map String.ofList

theorem split_ne_nil (c : Char) (s : String) : split c s ≠ [] :=
  fun h => List.splitOn_ne_nil c s.toList (List.map_eq_nil_iff.mp h)

/-- the parts say what was split -/
theorem intercalate_split (c : Char) (s : String) :
    [c].intercalate ((split c s).map String.toList) = s.toList := by
  have hparts : (split c s).map String.toList = s.toList.splitOn c := by
    rw [split, List.map_map]
    exact (List.map_congr_left fun _ _ => String.toList_ofList).trans (List.map_id _)
  rw [hparts, List.intercalate_splitOn]

theorem split_injective {c : Char} {s t : String} (h : split c s = split c t) : s = t := by
  refine String.toList_inj.mp ?_
  rw [← intercalate_split c s, h, intercalate_split]

/-! ## character classes -/

def isAsciiLower (c : Char) : Bool := 'a'.toNat ≤ c.toNat && c.toNat ≤ 'z'.toNat
def isAsciiUpper (c : Char) : Bool := 'A'.toNat ≤ c.toNat && c.toNat ≤ 'Z'.toNat
def isAsciiDigit (c : Char) : Bool := '0'.toNat ≤ c.toNat && c.toNat ≤ '9'.toNat
def isAsciiAlphanumeric (c : Char) : Bool := isAsciiLower c || isAsciiUpper c || isAsciiDigit c

/-- a hexadecimal digit in lower case -/
def isLowerHex (c : Char) : Bool := isAsciiDigit c || ('a'.toNat ≤ c.toNat && c.toNat ≤ 'f'.toNat)

def isHexDigit (c : Char) : Bool := isLowerHex c || ('A'.toNat ≤ c.toNat && c.toNat ≤ 'F'.toNat)

/-- `to_ascii_lowercase` -/
def lower (c : Char) : Char := if isAsciiUpper c then Char.ofNat (c.toNat + 32) else c

theorem isLowerHex_iff {c : Char} :
    isLowerHex c ↔ (48 ≤ c.toNat ∧ c.toNat ≤ 57) ∨ (97 ≤ c.toNat ∧ c.toNat ≤ 102) := by
  simp [isLowerHex, isAsciiDigit]

theorem isAsciiUpper_iff {c : Char} : isAsciiUpper c ↔ 65 ≤ c.toNat ∧ c.toNat ≤ 90 := by
  simp [isAsciiUpper]

theorem isHexDigit_iff {c : Char} :
    isHexDigit c ↔ isLowerHex c ∨ (65 ≤ c.toNat ∧ c.toNat ≤ 70) := by
  simp [isHexDigit]

theorem toNat_ofNat {n : Nat} (h : n < 0xd800) : (Char.ofNat n).toNat = n := by
  unfold Char.ofNat
  rw [dif_pos (Or.inl h)]
  rfl

theorem isLowerHex_lower {c : Char} (h : isHexDigit c) : isLowerHex (lower c) := by
  unfold lower
  rcases isHexDigit_iff.mp h with hlow | ⟨h1, h2⟩
  · have hnot : ¬ isAsciiUpper c := by
      rw [isAsciiUpper_iff]
      have := isLowerHex_iff.mp hlow
      omega
    rw [if_neg hnot]
    exact hlow
  · rw [if_pos (isAsciiUpper_iff.mpr ⟨h1, by omega⟩), isLowerHex_iff, toNat_ofNat (by omega)]
    omega

/-! ## hexadecimal numbers -/

/-- at most `n` lower-case digits, at least one, and no leading zero but in `0` itself -/
def Canonical (n : Nat) (cs : List Char) : Prop :=
  cs ≠ [] ∧ cs.length ≤ n ∧ cs.all isLowerHex ∧ (cs.head? = some '0' → cs = ['0'])

instance (n : Nat) (cs : List Char) : Decidable (Canonical n cs) :=
  inferInstanceAs (Decidable (_ ∧ _ ∧ _ ∧ _))

/-- the digits in lower case, without leading zeros; `0` for zero -/
def canonicalHex (cs : List Char) : List Char :=
  match (cs.map lower).dropWhile (· == '0') with
  | [] => ['0']
  | c :: cs => c :: cs

theorem canonicalHex_canonical {n : Nat} {cs : List Char} (hn : 0 < n) (hlen : cs.length ≤ n)
    (h : cs.all isHexDigit) : Canonical n (canonicalHex cs) := by
  have hsuffix := List.dropWhile_suffix (l := cs.map lower) (· == '0')
  have hhead := List.head?_dropWhile_not (· == '0') (cs.map lower)
  unfold canonicalHex
  cases hd : (cs.map lower).dropWhile (· == '0') with
  | nil => exact ⟨by simp, hn, by decide, fun _ => rfl⟩
  | cons d ds =>
    rw [hd] at hsuffix hhead
    refine ⟨by simp, ?_, ?_, ?_⟩
    · have := hsuffix.length_le
      rw [List.length_map] at this
      exact Nat.le_trans this hlen
    · rw [List.all_eq_true]
      intro c hc
      obtain ⟨c', hc', rfl⟩ := List.mem_map.mp (hsuffix.subset hc)
      exact isLowerHex_lower (List.all_eq_true.mp h c' hc')
    · intro h0
      rw [List.head?_cons, Option.some.injEq] at h0
      subst h0
      simp at hhead

def hexDigit (n : Nat) : Char := if n < 10 then Char.ofNat (48 + n) else Char.ofNat (87 + n)

/-- the bytes as digits, high half first -/
def hexEncode (bytes : List UInt8) : String :=
  String.ofList (bytes.flatMap fun b => [hexDigit (b.toNat / 16), hexDigit (b.toNat % 16)])

/-! ## decimal numbers -/

/-- `u32::from_str` -/
def parseU32 (cs : List Char) : Option UInt32 :=
  let digits := stripPrefix ['+'] cs
  if digits ≠ [] ∧ digits.all isAsciiDigit then
    let n := digits.foldl (fun acc c => 10 * acc + (c.toNat - 48)) 0
    if n < 2^32 then some (UInt32.ofNat n) else none
  else none

theorem isAsciiDigit_toDigits {n : Nat} {c : Char} (h : c ∈ Nat.toDigits 10 n) :
    isAsciiDigit c := by
  have hdigit := Nat.isDigit_of_mem_toDigits (by decide) (by decide) h
  rw [Char.isDigit, Bool.and_eq_true, decide_eq_true_eq, decide_eq_true_eq] at hdigit
  obtain ⟨hge, hle⟩ := hdigit
  rw [isAsciiDigit, Bool.and_eq_true, decide_eq_true_eq, decide_eq_true_eq]
  exact ⟨hge, hle⟩

/-- a number is read back from its decimal digits -/
theorem parseU32_toDigits (n : UInt32) : parseU32 (Nat.toDigits 10 n.toNat) = some n := by
  have hdigits : (Nat.toDigits 10 n.toNat).all isAsciiDigit :=
    List.all_eq_true.mpr fun c hc => isAsciiDigit_toDigits hc
  have hstrip : stripPrefix ['+'] (Nat.toDigits 10 n.toNat) = Nat.toDigits 10 n.toNat := by
    refine if_neg fun hpre => ?_
    obtain ⟨rest, hrest⟩ := List.isPrefixOf_iff_prefix.mp hpre
    have hplus : '+' ∈ Nat.toDigits 10 n.toNat := hrest ▸ List.mem_cons_self
    exact absurd (isAsciiDigit_toDigits hplus) (by decide)
  have hvalue : (Nat.toDigits 10 n.toNat).foldl (fun acc c => 10 * acc + (c.toNat - 48)) 0
      = n.toNat := by
    have h := Nat.ofDigitChars_toDigits (b := 10) (n := n.toNat) (by decide) (by decide)
    rwa [Nat.ofDigitChars_eq_foldl] at h
  simp only [parseU32, hstrip, hvalue]
  rw [if_pos ⟨Nat.toDigits_ne_nil, hdigits⟩, if_pos n.toNat_lt, UInt32.ofNat_toNat]

/-- decimal digits, without a leading zero but in `0` itself -/
def PlainDecimal (cs : List Char) : Prop :=
  cs ≠ [] ∧ cs.all isAsciiDigit ∧ (cs.head? = some '0' → cs = ['0'])

instance (cs : List Char) : Decidable (PlainDecimal cs) :=
  inferInstanceAs (Decidable (_ ∧ _ ∧ _))

theorem digitChar_eq_ofNat : ∀ n < 10, Nat.digitChar n = Char.ofNat (48 + n) := by decide

theorem isAsciiDigit_iff {c : Char} : isAsciiDigit c ↔ 48 ≤ c.toNat ∧ c.toNat ≤ 57 := by
  simp [isAsciiDigit]

theorem digitChar_sub {c : Char} (h : isAsciiDigit c) : Nat.digitChar (c.toNat - 48) = c := by
  rw [isAsciiDigit_iff] at h
  have hback : 48 + (c.toNat - 48) = c.toNat := by omega
  rw [digitChar_eq_ofNat _ (by omega), hback, Char.ofNat_toNat]

/-- reading on after a number that is not zero puts the digits behind its own -/
theorem toDigits_foldl {cs : List Char} {n : Nat} (hn : 0 < n) (h : cs.all isAsciiDigit) :
    Nat.toDigits 10 (cs.foldl (fun acc c => 10 * acc + (c.toNat - 48)) n)
      = Nat.toDigits 10 n ++ cs := by
  induction cs generalizing n with
  | nil => exact (List.append_nil _).symm
  | cons c cs ih =>
    rw [List.all_cons, Bool.and_eq_true] at h
    obtain ⟨hc, hcs⟩ := h
    have hlt : c.toNat - 48 < 10 := by
      rw [isAsciiDigit_iff] at hc
      omega
    have hstep : Nat.toDigits 10 (10 * n + (c.toNat - 48)) = Nat.toDigits 10 n ++ [c] := by
      rw [← Nat.toDigits_append_toDigits (by decide) hn hlt, Nat.toDigits_of_lt_base hlt,
        digitChar_sub hc]
    rw [List.foldl_cons, ih (by omega) hcs, hstep, List.append_assoc]
    rfl

/-- a plain number is written as its digits -/
theorem PlainDecimal.eq_toDigits {cs : List Char} {n : UInt32} (h : PlainDecimal cs)
    (hn : parseU32 cs = some n) : cs = Nat.toDigits 10 n.toNat := by
  obtain ⟨hne, hall, hhead⟩ := h
  have hstrip : stripPrefix ['+'] cs = cs := by
    refine if_neg fun hpre => ?_
    obtain ⟨rest, hrest⟩ := List.isPrefixOf_iff_prefix.mp hpre
    have hplus : '+' ∈ cs := hrest ▸ List.mem_cons_self
    exact absurd (List.all_eq_true.mp hall _ hplus) (by decide)
  simp only [parseU32, hstrip] at hn
  rw [if_pos ⟨hne, hall⟩, Option.ite_none_right_eq_some] at hn
  obtain ⟨hlt, hvalue⟩ := hn
  rw [← Option.some.inj hvalue, UInt32.toNat_ofNat_of_lt' hlt]
  cases cs with
  | nil => exact absurd rfl hne
  | cons c cs =>
    rw [List.all_cons, Bool.and_eq_true] at hall
    obtain ⟨hc, hcs⟩ := hall
    by_cases hzero : c = '0'
    · subst hzero
      obtain rfl := (List.cons.inj (hhead rfl)).2
      rfl
    · have hbounds := isAsciiDigit_iff.mp hc
      have hpos : 0 < c.toNat - 48 := by
        have hne48 : c.toNat ≠ 48 := fun h48 => hzero (by rw [← Char.ofNat_toNat c, h48])
        omega
      have hfirst : 10 * 0 + (c.toNat - 48) = c.toNat - 48 := by omega
      rw [List.foldl_cons, hfirst, toDigits_foldl hpos hcs, Nat.toDigits_of_lt_base (by omega),
        digitChar_sub hc]
      rfl

theorem head_toDigits {n : Nat} (hn : 0 < n) : (Nat.toDigits 10 n).head? ≠ some '0' := by
  induction n using Nat.strongRecOn with
  | ind n ih =>
    by_cases hlt : n < 10
    · rw [Nat.toDigits_of_lt_base hlt, List.head?_cons, digitChar_eq_ofNat n hlt]
      intro h
      have hcode : (Char.ofNat (48 + n)).toNat = 48 := by rw [Option.some.inj h]; rfl
      rw [toNat_ofNat (by omega)] at hcode
      omega
    · rw [Nat.toDigits_of_base_le (by decide) (by omega), List.head?_append_of_ne_nil _ (by simp)]
      exact ih (n / 10) (by omega) (by omega)

/-- and the digits of a number are plain -/
theorem plainDecimal_toDigits (n : Nat) : PlainDecimal (Nat.toDigits 10 n) := by
  refine ⟨Nat.toDigits_ne_nil, List.all_eq_true.mpr fun c hc => isAsciiDigit_toDigits hc, ?_⟩
  intro hhead
  cases n with
  | zero => rfl
  | succ n => exact absurd hhead (head_toDigits (Nat.succ_pos n))

end Text
