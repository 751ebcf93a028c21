import Crucible.Lib.Hex
import Crucible.Lib.Slices

/-!
# What `nargo execute` reports (`crates/noir/src/compiler.rs`, `ReportedOutputs`)

`nargo` prints the public return of a circuit as `Circuit output: (0x…, 0x…)`.

* `ReportedOutputs.parseStdout`    the values of that line; `none` is the panic of a slice;
* `extractParenthesizedHex_tuple`  the values of a tuple, in order;
* `Sliceable`                      the lines whose parentheses enclose something;
* `parse_stdout_iff`               of which the parser is total, and exact.
-/

namespace Crucible
open Text

structure ReportedOutputs where
  values : List String
deriving DecidableEq

def outputMarker : List Char := "Circuit output:".toList

/-- the characters between values -/
def isValueSeparator (c : Char) : Bool := c ∈ [',', ' ', '\t']

def isHexToken (token : List Char) : Bool :=
  "0x".toList.isPrefixOf token || "0X".toList.isPrefixOf token

/-- the hexadecimal values of a list, in lower case -/
def hexTokens (body : List Char) : List String :=
  ((body.splitOnP isValueSeparator).filter isHexToken).map fun token =>
    String.ofList (token.map lower)

/-- those between the first `(` and the last `)` -/
def extractParenthesizedHex (line : List Char) : Option (List String) :=
  let start := (find '(' line).getD 0
  let body := match rfind ')' line with
    | some stop => slice (start + 1) stop line
    | none => slice start (byteLen line) line
  body.map hexTokens

/-- the first line with the marker -/
def outputLine (stdout : String) : Option (List Char) :=
  (lines stdout.toList).find? (containsText outputMarker)

def ReportedOutputs.parseStdout (stdout : String) : Option ReportedOutputs :=
  match outputLine stdout with
  | none => some ⟨[]⟩
  | some line => (extractParenthesizedHex line).map ReportedOutputs.mk

/-! ## tuples -/

/-- `0x` or `0X`, and digits -/
def IsHexValue (value : List Char) : Prop :=
  ∃ x digits, (x = 'x' ∨ x = 'X') ∧ value = '0' :: x :: digits ∧ digits.all isHexDigit

/-- the line of a tuple of values -/
def tupleLine (lead : List Char) (values : List (List Char)) : List Char :=
  lead ++ outputMarker ++ ' ' :: '(' :: (", ".toList.intercalate values ++ [')'])

section
variable {line lead value : List Char} {values : List (List Char)}

theorem IsHexValue.isHexToken (h : IsHexValue value) : isHexToken value := by
  obtain ⟨x, digits, rfl | rfl, rfl, _⟩ := h
  · rfl
  · rfl

theorem IsHexValue.not_separator (h : IsHexValue value) :
    ∀ c ∈ value, isValueSeparator c = false := by
  obtain ⟨x, digits, hx, rfl, hdigits⟩ := h
  refine List.forall_mem_cons.mpr ⟨rfl, List.forall_mem_cons.mpr ⟨?_, fun c hc => ?_⟩⟩
  · rcases hx with rfl | rfl
    · rfl
    · rfl
  · have hdigit := List.all_eq_true.mp hdigits c hc
    refine Bool.eq_false_iff.mpr fun hsep => ?_
    have hmem : c ∈ [',', ' ', '\t'] := of_decide_eq_true hsep
    simp only [List.mem_cons, List.not_mem_nil, or_false] at hmem
    rcases hmem with rfl | rfl | rfl
    · exact absurd hdigit (by decide)
    · exact absurd hdigit (by decide)
    · exact absurd hdigit (by decide)

/-- the tokens between the parentheses are the values -/
theorem hexTokens_of_values (h : ∀ value ∈ values, IsHexValue value) :
    hexTokens (", ".toList.intercalate values)
      = values.map fun value => String.ofList (value.map lower) := by
  have htokens : ((", ".toList.intercalate values).splitOnP isValueSeparator).filter isHexToken
      = values :=
    filter_splitOnP_intercalate (List.all_eq_true.mp rfl) (by decide) rfl fun value hvalue =>
      ⟨(h value hvalue).isHexToken, (h value hvalue).not_separator⟩
  rw [hexTokens, htokens]

theorem extractParenthesizedHex_of_close {stop : Nat} (h : rfind ')' line = some stop) :
    extractParenthesizedHex line
      = (slice ((find '(' line).getD 0 + 1) stop line).map hexTokens := by
  simp only [extractParenthesizedHex, h]

theorem extractParenthesizedHex_of_not_close (h : ')' ∉ line) : extractParenthesizedHex line
    = (slice ((find '(' line).getD 0) (byteLen line) line).map hexTokens := by
  simp only [extractParenthesizedHex, rfind_eq_none h]

/-- what is between the first `(` and the last `)` -/
theorem extractParenthesizedHex_append {left part right : List Char} (hopen : '(' ∉ left)
    (hclose : ')' ∉ right) : extractParenthesizedHex (left ++ '(' :: (part ++ ')' :: right))
      = some (hexTokens part) := by
  have hline : left ++ '(' :: (part ++ ')' :: right) = left ++ ['('] ++ part ++ ')' :: right := by
    simp only [List.append_assoc, List.cons_append, List.nil_append]
  have hstart : find '(' (left ++ '(' :: (part ++ ')' :: right)) = some (byteLen left) := by
    rw [find_eq, splitOnce_append hopen]
    rfl
  have hstop : rfind ')' (left ++ '(' :: (part ++ ')' :: right))
      = some (byteLen (left ++ ['(']) + byteLen part) := by
    rw [hline, rfind_append hclose, byteLen_append]
  have hlen : byteLen left + 1 = byteLen (left ++ ['(']) := (byteLen_append left ['(']).symm
  rw [extractParenthesizedHex_of_close hstop, hstart, Option.getD_some, hlen, hline, slice_append]
  rfl

/-- **the values of a tuple**, in order -/
theorem extractParenthesizedHex_tuple (hlead : '(' ∉ lead)
    (hvalues : ∀ value ∈ values, IsHexValue value) :
    extractParenthesizedHex (tupleLine lead values)
      = some (values.map fun value => String.ofList (value.map lower)) := by
  have hopen : '(' ∉ lead ++ outputMarker ++ [' '] := by
    simp only [List.mem_append, not_or]
    exact ⟨⟨hlead, by decide⟩, by decide⟩
  have hline : tupleLine lead values
      = lead ++ outputMarker ++ [' '] ++ '(' :: (", ".toList.intercalate values ++ ')' :: []) := by
    simp only [tupleLine, List.append_assoc, List.cons_append, List.nil_append]
  rw [hline, extractParenthesizedHex_append hopen List.not_mem_nil, hexTokens_of_values hvalues]

end

/-! ## lines that can be cut -/

/-- a `)` is behind the first `(`, or, where there is none, behind a first character of one byte -/
def Sliceable (line : List Char) : Prop :=
  ')' ∈ line →
    match splitOnce '(' line with
    | some q => ')' ∈ q.2
    | none => ∃ c rest, line = c :: rest ∧ c.utf8Size = 1 ∧ ')' ∈ rest

section
variable {line : List Char}

/-- without a `)` the line is taken up to its end -/
theorem extract_isSome_of_not_close (h : ')' ∉ line) : (extractParenthesizedHex line).isSome := by
  rw [extractParenthesizedHex_of_not_close h, Option.isSome_map, find_eq]
  by_cases hopen : '(' ∈ line
  · obtain ⟨left, right, hsplit, rfl⟩ := splitOnce_of_mem hopen
    have hcut : slice (byteLen left) (byteLen left + byteLen ('(' :: right))
        (left ++ '(' :: right ++ []) = some ('(' :: right) := slice_append
    rw [List.append_nil] at hcut
    rw [hsplit, byteLen_append]
    exact Option.isSome_of_mem hcut
  · have hcut : slice (byteLen []) (byteLen [] + byteLen line) ([] ++ line ++ []) = some line :=
      slice_append
    rw [List.nil_append, List.append_nil, show byteLen [] = 0 from rfl, Nat.zero_add] at hcut
    rw [splitOnce_eq_none hopen]
    exact Option.isSome_of_mem hcut

/-- the last `)` is behind the first `(`, or nothing is cut out -/
theorem extract_isSome_of_open {left right : List Char} (hopen : '(' ∉ left)
    (hmem : ')' ∈ left ++ '(' :: right) :
    (extractParenthesizedHex (left ++ '(' :: right)).isSome ↔ ')' ∈ right := by
  by_cases hclose : ')' ∈ right
  · obtain ⟨part, behind, rfl, hlast⟩ := exists_last_of_mem hclose
    rw [extractParenthesizedHex_append hopen hlast]
    exact iff_of_true rfl hclose
  · have hleft : ')' ∈ left := by
      rcases List.mem_append.mp hmem with h | h
      · exact h
      · rcases List.mem_cons.mp h with h | h
        · cases h
        · exact absurd h hclose
    obtain ⟨before, between, rfl, hlast⟩ := exists_last_of_mem hleft
    have hstop : rfind ')' (before ++ ')' :: between ++ '(' :: right) = some (byteLen before) := by
      rw [List.append_assoc, List.cons_append]
      refine rfind_append ?_
      rw [List.mem_append, List.mem_cons, not_or, not_or]
      exact ⟨hlast, by decide, hclose⟩
    have hstart : find '(' (before ++ ')' :: between ++ '(' :: right)
        = some (byteLen (before ++ ')' :: between)) := by
      rw [find_eq, splitOnce_append hopen]
      rfl
    rw [extractParenthesizedHex_of_close hstop, hstart, Option.getD_some, slice_of_lt]
    · exact iff_of_false Bool.false_ne_true hclose
    · rw [byteLen_append]
      omega

/-- without a `(` the first byte is left out -/
theorem extract_isSome_of_not_open (hopen : '(' ∉ line) (hclose : ')' ∈ line) :
    (extractParenthesizedHex line).isSome ↔
      ∃ c rest, line = c :: rest ∧ c.utf8Size = 1 ∧ ')' ∈ rest := by
  obtain ⟨before, behind, rfl, hlast⟩ := exists_last_of_mem hclose
  have hstart : find '(' (before ++ ')' :: behind) = none := by
    rw [find_eq, splitOnce_eq_none hopen]
    rfl
  rw [extractParenthesizedHex_of_close (rfind_append hlast), hstart, Option.getD_none,
    Option.isSome_map, Nat.zero_add]
  cases before with
  | nil =>
    rw [slice_of_lt (show byteLen [] < 1 from Nat.zero_lt_one)]
    refine iff_of_false Bool.false_ne_true ?_
    rintro ⟨c, rest, hcons, _, hmem⟩
    obtain ⟨_, rfl⟩ := List.cons.inj hcons
    exact hlast hmem
  | cons c before =>
    by_cases hone : c.utf8Size = 1
    · have hcut : slice (byteLen [c]) (byteLen [c] + byteLen before)
          ([c] ++ before ++ ')' :: behind) = some before := slice_append
      have hlen : byteLen [c] = 1 := hone
      rw [hlen] at hcut
      rw [byteLen_cons, hone]
      refine iff_of_true (Option.isSome_of_mem hcut) ⟨c, _, rfl, hone, ?_⟩
      exact List.mem_append_right _ List.mem_cons_self
    · rw [List.cons_append, slice_one_of_wide hone]
      refine iff_of_false Bool.false_ne_true ?_
      rintro ⟨d, rest, hcons, hd, _⟩
      obtain ⟨rfl, _⟩ := List.cons.inj hcons
      exact hone hd

theorem extract_isSome_iff : (extractParenthesizedHex line).isSome ↔ Sliceable line := by
  unfold Sliceable
  by_cases hclose : ')' ∈ line
  · rw [forall_prop_of_true hclose]
    by_cases hopen : '(' ∈ line
    · obtain ⟨left, right, rfl, hfirst⟩ := List.eq_append_cons_of_mem hopen
      rw [splitOnce_append hfirst]
      exact extract_isSome_of_open hfirst hclose
    · rw [splitOnce_eq_none hopen]
      exact extract_isSome_of_not_open hopen hclose
  · exact iff_of_true (extract_isSome_of_not_close hclose) fun h => absurd h hclose

end

/-! ## which outputs are parsed -/

/-- the values of a tuple in the first line with the marker, in lower case and in order -/
def ParsesExactly (stdout : String) (reported : ReportedOutputs) : Prop :=
  ∀ lead values, '(' ∉ lead → ')' ∉ lead → (∀ value ∈ values, IsHexValue value) →
    outputLine stdout = some (tupleLine lead values) →
      reported.values = values.map fun value => String.ofList (value.map lower)

/-- **The parser is total and exact on the outputs whose first line with the marker can be cut**,
and panics on the others. -/
theorem parse_stdout_iff (stdout : String) :
    (∃ reported, ReportedOutputs.parseStdout stdout = some reported ∧
        ParsesExactly stdout reported) ↔
      ∀ line, outputLine stdout = some line → Sliceable line := by
  unfold ReportedOutputs.parseStdout ParsesExactly
  cases hline : outputLine stdout with
  | none =>
    refine iff_of_true ⟨⟨[]⟩, rfl, fun _ _ _ _ _ h => ?_⟩ fun _ h => ?_
    · cases h
    · cases h
  | some line =>
    have hcut : (∀ line', some line = some line' → Sliceable line') ↔
        (extractParenthesizedHex line).isSome := by
      rw [extract_isSome_iff]
      exact ⟨fun h => h line rfl, fun h line' heq => Option.some.inj heq ▸ h⟩
    rw [hcut]
    constructor
    · rintro ⟨reported, hreported, _⟩
      rw [← Option.isSome_map]
      exact Option.isSome_of_mem hreported
    · intro h
      obtain ⟨values, hvalues⟩ := Option.isSome_iff_exists.mp h
      refine ⟨⟨values⟩, congrArg (Option.map _) hvalues, fun lead tuple hlead _ htuple heq => ?_⟩
      rw [Option.some.inj heq, extractParenthesizedHex_tuple hlead htuple] at hvalues
      exact (Option.some.inj hvalues).symm

/-- the only `)` comes first -/
theorem misplaced_panics : ReportedOutputs.parseStdout "Circuit output: )(\n" = none := by
  decide +kernel

end Crucible
