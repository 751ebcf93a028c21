import Crucible.Lib.Text

/-!
# Texts made of lines

* `lines`        the lines of a text, without their ends; `lines_flatMap` reads back a text that
                 was written a line at a time;
* `trim`         no white space at either end; `trim_of_edges`: a text with none there;
* `splitOnce`    a text cut at the first separator; `before`, at the first of a pattern;
* `stripStart`, `stripEnd`   one character taken off an end, if it is there;
* `trim_sublist`, `before_sublist`, `newline_not_mem_of_mem_lines`   what is left of a text is of
                 it, and a line has no line end.
-/

namespace Text

/-- `char::is_whitespace`: the Unicode property `White_Space` -/
def isWhitespace (c : Char) : Bool :=
  (9 ≤ c.toNat && c.toNat ≤ 13) || (0x2000 ≤ c.toNat && c.toNat ≤ 0x200a) ||
    c.toNat ∈ [0x20, 0x85, 0xa0, 0x1680, 0x2028, 0x2029, 0x202f, 0x205f, 0x3000]

def trimStart (cs : List Char) : List Char := cs.dropWhile isWhitespace

def trimEnd (cs : List Char) : List Char := (trimStart cs.reverse).reverse

def trim (cs : List Char) : List Char := trimEnd (trimStart cs)

/-- `strip_prefix` of one character -/
def stripStart (c : Char) : List Char → Option (List Char)
  | [] => none
  | d :: cs => if d == c then some cs else none

/-- `strip_suffix` of one character -/
def stripEnd (c : Char) (cs : List Char) : Option (List Char) :=
  (stripStart c cs.reverse).map List.reverse

/-- `split_once`: the text before and after the first separator -/
def splitOnce (sep : Char) : List Char → Option (List Char × List Char)
  | [] => none
  | c :: cs =>
    if c == sep then some ([], cs)
    else (splitOnce sep cs).map fun q => (c :: q.1, q.2)

/-- the text before the first `pat` -/
def before (pat : List Char) : List Char → List Char
  | [] => []
  | c :: cs => if pat.isPrefixOf (c :: cs) then [] else c :: before pat cs

/-- a line end may be `\r\n` -/
def dropCr (cs : List Char) : List Char := (stripEnd '\r' cs).getD cs

/-- the parts between the line ends; the last is a line unless it is empty -/
def lineParts : List (List Char) → List (List Char)
  | [] => []
  | [last] => if last = [] then [] else [last]
  | part :: next :: parts => dropCr part :: lineParts (next :: parts)

/-- `str::lines` -/
def lines (cs : List Char) : List (List Char) := lineParts (cs.splitOn '\n')

/-! ## reading back -/

section
variable {c d : Char} {cs rest : List Char}

@[simp] theorem stripStart_cons : stripStart c (c :: cs) = some cs := by simp [stripStart]

@[simp] theorem stripEnd_append : stripEnd c (cs ++ [c]) = some cs := by
  unfold stripEnd
  rw [List.reverse_append]
  show (stripStart c (c :: cs.reverse)).map List.reverse = some cs
  rw [stripStart_cons, Option.map_some, List.reverse_reverse]

theorem stripEnd_append_of_ne (h : d ≠ c) : stripEnd c (cs ++ [d]) = none := by
  unfold stripEnd
  rw [List.reverse_append]
  show (stripStart c (d :: cs.reverse)).map List.reverse = none
  rw [stripStart, if_neg (by simpa using h), Option.map_none]

theorem dropCr_of_ne (h : d ≠ '\r') : dropCr (cs ++ [d]) = cs ++ [d] := by
  unfold dropCr
  rw [stripEnd_append_of_ne h, Option.getD_none]

theorem splitOnce_append (h : c ∉ cs) : splitOnce c (cs ++ c :: rest) = some (cs, rest) := by
  induction cs with
  | nil => simp [splitOnce]
  | cons d cs ih =>
    rw [List.mem_cons, not_or] at h
    rw [List.cons_append, splitOnce, if_neg (by simpa using Ne.symm h.1), ih h.2]
    rfl

theorem trimStart_of_edge (h : isWhitespace c = false) : trimStart (c :: cs) = c :: cs :=
  List.dropWhile_cons_of_neg (by rw [h]; exact Bool.false_ne_true)

theorem trimEnd_of_edge (h : isWhitespace d = false) : trimEnd (cs ++ [d]) = cs ++ [d] := by
  unfold trimEnd
  rw [List.reverse_append]
  show (trimStart (d :: cs.reverse)).reverse = _
  rw [trimStart_of_edge h, List.reverse_cons, List.reverse_reverse]

/-- a text that neither begins nor ends with white space -/
theorem trim_of_edges (hc : isWhitespace c = false) (hd : isWhitespace d = false) :
    trim (c :: cs ++ [d]) = c :: cs ++ [d] := by
  unfold trim
  rw [List.cons_append, trimStart_of_edge hc, ← List.cons_append, trimEnd_of_edge hd]

/-- a text without white space, but for one blank after it -/
theorem trim_append_blank (h : ∀ c ∈ cs, isWhitespace c = false) : trim (cs ++ [' ']) = cs := by
  have hend : trimEnd (cs ++ [' ']) = cs := by
    unfold trimEnd
    rw [List.reverse_append]
    show (trimStart (' ' :: cs.reverse)).reverse = cs
    have hdrop : trimStart (' ' :: cs.reverse) = cs.reverse := by
      show trimStart cs.reverse = cs.reverse
      cases hr : cs.reverse with
      | nil => rfl
      | cons d ds =>
        have hd : d ∈ cs := List.mem_reverse.mp (by rw [hr]; exact List.mem_cons_self)
        exact trimStart_of_edge (h d hd)
    rw [hdrop, List.reverse_reverse]
  unfold trim
  cases cs with
  | nil => rfl
  | cons c cs =>
    rw [List.cons_append, trimStart_of_edge (h c List.mem_cons_self), ← List.cons_append, hend]

theorem lines_nil : lines [] = [] := rfl

/-- the first line of a text -/
theorem lines_cons (h : '\n' ∉ cs) : lines (cs ++ '\n' :: rest) = dropCr cs :: lines rest := by
  unfold lines
  rw [List.splitOn_append_cons_self_of_not_mem h]
  cases hp : rest.splitOn '\n' with
  | nil => exact absurd hp (List.splitOn_ne_nil _ _)
  | cons next parts => rfl

end

/-- a text written a line at a time is read back a line at a time -/
theorem lines_flatMap {α : Type} {as : List α} {line : α → List Char}
    (hn : ∀ a ∈ as, '\n' ∉ line a) (hr : ∀ a ∈ as, dropCr (line a) = line a) :
    lines (as.flatMap fun a => line a ++ ['\n']) = as.map line := by
  induction as with
  | nil => exact lines_nil
  | cons a as ih =>
    have htail := ih (fun b hb => hn b (List.mem_cons_of_mem _ hb))
      (fun b hb => hr b (List.mem_cons_of_mem _ hb))
    rw [List.flatMap_cons, List.append_assoc]
    show lines (line a ++ '\n' :: as.flatMap fun a => line a ++ ['\n']) = _
    rw [lines_cons (hn a List.mem_cons_self), hr a List.mem_cons_self, htail, List.map_cons]

/-! ## what is taken off -/

section
variable {c : Char} {pat cs line : List Char}

theorem trimStart_sublist : (trimStart cs).Sublist cs := List.dropWhile_sublist _

theorem trimEnd_sublist : (trimEnd cs).Sublist cs := by
  have h : (trimStart cs.reverse).Sublist cs.reverse := trimStart_sublist
  have hback := h.reverse
  rwa [List.reverse_reverse] at hback

theorem trim_sublist : (trim cs).Sublist cs := trimEnd_sublist.trans trimStart_sublist

theorem before_sublist : (before pat cs).Sublist cs := by
  induction cs with
  | nil => exact List.Sublist.refl []
  | cons c cs ih =>
    unfold before
    by_cases h : pat.isPrefixOf (c :: cs)
    · rw [if_pos h]
      exact List.nil_sublist _
    · rw [if_neg h]
      exact ih.cons_cons c

theorem stripStart_sublist {rest : List Char} (h : stripStart c cs = some rest) :
    rest.Sublist cs := by
  cases cs with
  | nil => cases h
  | cons d cs =>
    by_cases hd : d == c
    · rw [stripStart, if_pos hd] at h
      obtain rfl := Option.some.inj h
      exact List.sublist_cons_self d cs
    · rw [stripStart, if_neg hd] at h
      cases h

theorem dropCr_sublist : (dropCr cs).Sublist cs := by
  unfold dropCr stripEnd
  cases h : stripStart '\r' cs.reverse with
  | none => exact List.Sublist.refl cs
  | some rest =>
    have hsub := (stripStart_sublist h).reverse
    rwa [List.reverse_reverse] at hsub

/-- the separator is in no part -/
theorem not_mem_of_mem_splitOn (h : line ∈ cs.splitOn c) : c ∉ line := by
  induction cs generalizing line with
  | nil =>
    rw [List.splitOn_nil, List.mem_singleton] at h
    rw [h]
    exact List.not_mem_nil
  | cons d cs ih =>
    unfold List.splitOn at h ih
    rw [List.splitOnP_cons_eq_if_modifyHead] at h
    by_cases hd : d = c
    · rw [if_pos (by simpa using hd)] at h
      rcases List.mem_cons.mp h with rfl | h
      · exact List.not_mem_nil
      · exact ih h
    · rw [if_neg (by simpa using hd)] at h
      cases hparts : cs.splitOnP (· == c) with
      | nil => exact absurd hparts (List.splitOnP_ne_nil _ _)
      | cons part parts =>
        rw [hparts] at h ih
        rcases List.mem_cons.mp h with rfl | h
        · intro hmem
          rcases List.mem_cons.mp hmem with heq | hmem
          · exact hd heq.symm
          · exact ih List.mem_cons_self hmem
        · exact ih (List.mem_cons_of_mem _ h)

theorem exists_part_of_mem_lineParts {parts : List (List Char)} (h : line ∈ lineParts parts) :
    ∃ part ∈ parts, line.Sublist part := by
  induction parts using lineParts.induct with
  | case1 => exact absurd h List.not_mem_nil
  | case2 => exact absurd h List.not_mem_nil
  | case3 last hne =>
    rw [lineParts, if_neg hne] at h
    rw [List.mem_singleton.mp h]
    exact ⟨last, List.mem_cons_self, List.Sublist.refl last⟩
  | case4 part next parts ih =>
    rw [lineParts] at h
    rcases List.mem_cons.mp h with rfl | h
    · exact ⟨part, List.mem_cons_self, dropCr_sublist⟩
    · obtain ⟨part', hpart, hsub⟩ := ih h
      exact ⟨part', List.mem_cons_of_mem _ hpart, hsub⟩

/-- no line holds a line end -/
theorem newline_not_mem_of_mem_lines (h : line ∈ lines cs) : '\n' ∉ line := by
  obtain ⟨part, hpart, hsub⟩ := exists_part_of_mem_lineParts h
  exact fun hmem => not_mem_of_mem_splitOn hpart (hsub.subset hmem)

end

end Text
