import Crucible.Lib.Runs
import Crucible.Lib.Text

/-!
# Scrubbing (`crates/witness/src/secrets.rs`)

Whatever looks like a secret in free text, which is 16 hexadecimal digits in a row or more, is
replaced.

* `runEnd`, `scrubFrom`   the two loops; `scrubFrom_eq`: they mask the long runs;
* `scrub_hex_exact`       what is left of a text.
-/

namespace Crucible
open Runs Text

/-- `MIN_SCRUB_LEN` -/
def minScrubLen : Nat := 16

def stars : List Char := "***".toList

section
variable (chars : List Char)

/-- the inner loop: the end of the digits at `i` -/
def runEnd (i : Nat) : Nat :=
  if h : i < chars.length then
    if isHexDigit chars[i] then runEnd (i + 1) else i
  else i
termination_by chars.length - i

theorem le_runEnd (i : Nat) : i ≤ runEnd chars i := by
  induction i using runEnd.induct chars with
  | case1 i h hc ih =>
    rw [runEnd, dif_pos h, if_pos hc]
    omega
  | case2 i h hc => rw [runEnd, dif_pos h, if_neg hc]
  | case3 i h => rw [runEnd, dif_neg h]

theorem lt_runEnd {i : Nat} (h : i < chars.length) (hc : isHexDigit chars[i]) :
    i < runEnd chars i := by
  have hle := le_runEnd chars (i + 1)
  rw [runEnd, dif_pos h, if_pos hc]
  omega

/-- the outer loop -/
def scrubFrom (i : Nat) (out : List Char) : List Char :=
  if h : i < chars.length then
    if hc : isHexDigit chars[i] then
      let stop := runEnd chars i
      if stop - i ≥ minScrubLen then scrubFrom stop (out ++ stars)
      else scrubFrom stop (out ++ (chars.drop i).take (stop - i))
    else scrubFrom (i + 1) (out ++ [chars[i]])
  else out
termination_by chars.length - i
decreasing_by
  · have hlt := lt_runEnd chars h hc
    omega
  · have hlt := lt_runEnd chars h hc
    omega
  · omega

end

def scrubHex (input : String) : String := String.ofList (scrubFrom input.toList 0 [])

/-! ## the loops -/

section
variable {chars : List Char}

theorem runEnd_eq (i : Nat) :
    runEnd chars i = i + ((chars.drop i).takeWhile isHexDigit).length := by
  induction i using runEnd.induct chars with
  | case1 i h hc ih =>
    rw [runEnd, dif_pos h, if_pos hc, ih, List.drop_eq_getElem_cons h,
      List.takeWhile_cons_of_pos hc, List.length_cons]
    omega
  | case2 i h hc =>
    rw [runEnd, dif_pos h, if_neg hc, List.drop_eq_getElem_cons h, List.takeWhile_cons_of_neg hc,
      List.length_nil, Nat.add_zero]
  | case3 i h =>
    rw [runEnd, dif_neg h, List.drop_eq_nil_of_le (Nat.le_of_not_lt h), List.takeWhile_nil,
      List.length_nil, Nat.add_zero]

/-- the digits at `i`, and what is behind them -/
theorem take_runEnd (i : Nat) :
    (chars.drop i).take (runEnd chars i - i) = (chars.drop i).takeWhile isHexDigit := by
  have htake : ((chars.drop i).takeWhile isHexDigit ++ (chars.drop i).dropWhile isHexDigit).take
      ((chars.drop i).takeWhile isHexDigit).length = (chars.drop i).takeWhile isHexDigit :=
    List.take_left
  rw [List.takeWhile_append_dropWhile] at htake
  rw [runEnd_eq, Nat.add_sub_cancel_left, htake]

theorem drop_runEnd (i : Nat) :
    chars.drop (runEnd chars i) = (chars.drop i).dropWhile isHexDigit := by
  have hdrop : ((chars.drop i).takeWhile isHexDigit ++ (chars.drop i).dropWhile isHexDigit).drop
      ((chars.drop i).takeWhile isHexDigit).length = (chars.drop i).dropWhile isHexDigit :=
    List.drop_left
  rw [List.takeWhile_append_dropWhile] at hdrop
  rw [runEnd_eq, ← List.drop_drop, hdrop]

/-- one turn of the outer loop, at a digit -/
theorem mask_drop_of_hex {i : Nat} (h : i < chars.length) (hc : isHexDigit chars[i]) :
    mask isHexDigit minScrubLen stars (chars.drop i)
      = masked minScrubLen stars ((chars.drop i).take (runEnd chars i - i)) ++
        mask isHexDigit minScrubLen stars (chars.drop (runEnd chars i)) := by
  rw [take_runEnd, drop_runEnd, List.drop_eq_getElem_cons h, mask, if_pos hc]

/-- what is written is the rest of the text under the mask -/
theorem scrubFrom_eq (i : Nat) (out : List Char) :
    scrubFrom chars i out = out ++ mask isHexDigit minScrubLen stars (chars.drop i) := by
  have hlength (i : Nat) : ((chars.drop i).take (runEnd chars i - i)).length = runEnd chars i - i := by
    rw [take_runEnd, runEnd_eq, Nat.add_sub_cancel_left]
  induction i, out using scrubFrom.induct chars with
  | case1 i out h hc stop hlong ih =>
    have hmarked : masked minScrubLen stars ((chars.drop i).take (runEnd chars i - i)) = stars :=
      if_pos (by rw [hlength]; exact hlong)
    rw [scrubFrom, dif_pos h, dif_pos hc, mask_drop_of_hex h hc, hmarked, ← List.append_assoc]
    exact (if_pos hlong).trans ih
  | case2 i out h hc stop hshort ih =>
    have hkept : masked minScrubLen stars ((chars.drop i).take (runEnd chars i - i))
        = (chars.drop i).take (runEnd chars i - i) := if_neg (by rw [hlength]; exact hshort)
    rw [scrubFrom, dif_pos h, dif_pos hc, mask_drop_of_hex h hc, hkept, ← List.append_assoc]
    exact (if_neg hshort).trans ih
  | case3 i out h hc ih =>
    rw [scrubFrom, dif_pos h, dif_neg hc, ih, List.drop_eq_getElem_cons h, mask_cons_of_neg hc,
      List.append_assoc]
    rfl
  | case4 i out h =>
    rw [scrubFrom, dif_neg h, List.drop_eq_nil_of_le (Nat.le_of_not_lt h), mask_nil,
      List.append_nil]

theorem scrubHex_toList (input : String) :
    (scrubHex input).toList = mask isHexDigit minScrubLen stars input.toList := by
  rw [scrubHex, String.toList_ofList, scrubFrom_eq, List.nil_append, List.drop_zero]

end

/-! ## what is left -/

/-- **Scrubbing removes all long hex and nothing else**: no 16 digits in a row are left, a text
without any is left as it is, so scrubbing again changes nothing, and what the long runs were, and
how long, cannot be told. -/
theorem scrub_hex_exact :
    (∀ t, ¬ HasRun isHexDigit minScrubLen (scrubHex t).toList) ∧
    (∀ t, scrubHex (scrubHex t) = scrubHex t) ∧
    (∀ t : String, ¬ HasRun isHexDigit minScrubLen t.toList → scrubHex t = t) ∧
    ∀ t t' : String, DifferInRuns isHexDigit minScrubLen t.toList t'.toList →
      scrubHex t = scrubHex t' := by
  have hpos : 0 < minScrubLen := by decide
  have hall : stars.all (fun c => !isHexDigit c) = true := rfl
  have hstars (c : Char) (hc : c ∈ stars) : ¬ isHexDigit c := by
    have hstar := List.all_eq_true.mp hall c hc
    simpa using hstar
  have hclean (t : String) : ¬ HasRun isHexDigit minScrubLen (scrubHex t).toList := by
    rw [scrubHex_toList]
    exact not_hasRun_mask hpos hstars t.toList
  have hkept (t : String) (h : ¬ HasRun isHexDigit minScrubLen t.toList) : scrubHex t = t := by
    refine String.toList_inj.mp ?_
    rw [scrubHex_toList]
    exact mask_of_not_hasRun h
  refine ⟨hclean, fun t => hkept _ (hclean t), hkept, fun t t' h => ?_⟩
  refine String.toList_inj.mp ?_
  rw [scrubHex_toList, scrubHex_toList]
  exact h.mask_eq hpos

end Crucible
