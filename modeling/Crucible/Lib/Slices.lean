import Crucible.Lib.Lines

/-!
# Places in a text, and the text between two of them

Places are counted in UTF-8 bytes.

* `find`, `rfind`   where a character stands first, and last; `find_eq`, `rfind_append`;
* `slice`           the text between two places, if characters begin there; `slice_append`,
                    `slice_of_lt`;
* `containsText`    whether a text occurs in another;
* `filter_splitOnP_intercalate`   parts with separators between them, split into the parts again.
-/

namespace Text

/-- `str::find` of a character -/
def find (c : Char) : List Char → Option Nat
  | [] => none
  | d :: cs => if d == c then some 0 else (find c cs).map fun n => d.utf8Size + n

/-- `str::rfind` of a character -/
def rfind (c : Char) : List Char → Option Nat
  | [] => none
  | d :: cs =>
    match rfind c cs with
    | some n => some (d.utf8Size + n)
    | none => if d == c then some 0 else none

/-- `&cs[start..stop]`, where it exists -/
def slice (start stop : Nat) (cs : List Char) : Option (List Char) :=
  if start ≤ stop then do
    let (upTo, _) ← splitBytes stop cs
    let (_, part) ← splitBytes start upTo
    return part
  else none

/-- `str::contains` of a text -/
def containsText (pat cs : List Char) : Bool := cs.tails.any fun rest => pat.isPrefixOf rest

/-! ## places -/

section
variable {c : Char} {cs a b : List Char}

theorem splitOnce_eq_none (h : c ∉ cs) : splitOnce c cs = none := by
  induction cs with
  | nil => rfl
  | cons d cs ih =>
    rw [List.mem_cons, not_or] at h
    rw [splitOnce, if_neg (by simpa using Ne.symm h.1), ih h.2, Option.map_none]

theorem splitOnce_of_mem (h : c ∈ cs) : ∃ a b, splitOnce c cs = some (a, b) ∧ cs = a ++ c :: b := by
  obtain ⟨a, b, rfl, hfirst⟩ := List.eq_append_cons_of_mem h
  exact ⟨a, b, splitOnce_append hfirst, rfl⟩

theorem find_eq : find c cs = (splitOnce c cs).map fun q => byteLen q.1 := by
  induction cs with
  | nil => rfl
  | cons d cs ih =>
    unfold find splitOnce
    by_cases hd : d == c
    · rw [if_pos hd, if_pos hd]
      rfl
    · rw [if_neg hd, if_neg hd, ih, Option.map_map, Option.map_map]
      rfl

theorem rfind_eq_none (h : c ∉ cs) : rfind c cs = none := by
  induction cs with
  | nil => rfl
  | cons d cs ih =>
    rw [List.mem_cons, not_or] at h
    rw [rfind, ih h.2]
    exact if_neg (by simpa using Ne.symm h.1)

theorem rfind_append (h : c ∉ b) : rfind c (a ++ c :: b) = some (byteLen a) := by
  induction a with
  | nil =>
    rw [List.nil_append, rfind, rfind_eq_none h]
    exact if_pos (beq_self_eq_true c)
  | cons d a ih => rw [List.cons_append, rfind, ih, byteLen_cons]

theorem exists_last_of_mem {α : Type} {x : α} {xs : List α} (h : x ∈ xs) :
    ∃ a b, xs = a ++ x :: b ∧ x ∉ b := by
  obtain ⟨b, a, hrev, hlast⟩ := List.eq_append_cons_of_mem (List.mem_reverse.mpr h)
  refine ⟨a.reverse, b.reverse, ?_, fun hmem => hlast (List.mem_reverse.mp hmem)⟩
  rw [← List.reverse_reverse xs, hrev, List.reverse_append, List.reverse_cons, List.append_assoc]
  rfl

end

/-! ## slices -/

section
variable {left part right : List Char} {start stop : Nat}

/-- what stands between two texts -/
theorem slice_append : slice (byteLen left) (byteLen left + byteLen part) (left ++ part ++ right)
    = some part := by
  have houter : splitBytes (byteLen left + byteLen part) (left ++ part ++ right)
      = some (left ++ part, right) :=
    splitBytes_eq_some_iff.mpr ⟨rfl, byteLen_append left part⟩
  have hinner : splitBytes (byteLen left) (left ++ part) = some (left, part) :=
    splitBytes_eq_some_iff.mpr ⟨rfl, rfl⟩
  rw [slice, if_pos (Nat.le_add_right _ _), houter]
  show (splitBytes (byteLen left) (left ++ part) >>= fun q => some q.2) = some part
  rw [hinner]
  rfl

theorem slice_of_lt {cs : List Char} (h : stop < start) : slice start stop cs = none :=
  if_neg (Nat.not_le.mpr h)

/-- a slice begins where a character does -/
theorem slice_one_of_wide {c : Char} {cs : List Char} (h : c.utf8Size ≠ 1) :
    slice 1 stop (c :: cs) = none := by
  have hwide : 1 < c.utf8Size := Nat.lt_of_le_of_ne c.utf8Size_pos (Ne.symm h)
  refine Option.eq_none_iff_forall_not_mem.mpr fun part hpart => ?_
  rw [Option.mem_def, slice] at hpart
  split at hpart
  · obtain ⟨⟨upTo, behind⟩, hupTo, hpart⟩ := Option.bind_eq_some_iff.mp hpart
    obtain ⟨⟨first, rest⟩, hfirst, _⟩ := Option.bind_eq_some_iff.mp hpart
    obtain ⟨hcs, _⟩ := splitBytes_eq_some_iff.mp hupTo
    obtain ⟨rfl, hlen⟩ := splitBytes_eq_some_iff.mp hfirst
    cases first with
    | nil => cases hlen
    | cons d first =>
      obtain ⟨rfl, _⟩ := List.cons.inj hcs
      rw [byteLen_cons] at hlen
      omega
  · cases hpart

end

/-! ## parts -/

section
variable {α : Type} {p : α → Bool} {keep : List α → Bool} {sep : List α} {parts : List (List α)}

theorem filter_splitOnP_skip (hsep : ∀ x ∈ sep, p x) (hnil : keep [] = false) (rest : List α) :
    ((sep ++ rest).splitOnP p).filter keep = (rest.splitOnP p).filter keep := by
  induction sep with
  | nil => rfl
  | cons x sep ih =>
    obtain ⟨hx, hsep⟩ := List.forall_mem_cons.mp hsep
    have hfirst : ([] ++ x :: (sep ++ rest)).splitOnP p = [] :: (sep ++ rest).splitOnP p :=
      List.splitOnP_append_cons_of_forall_mem (fun _ h => absurd h List.not_mem_nil) x hx _
    rw [List.cons_append, ← List.nil_append (x :: (sep ++ rest)), hfirst,
      List.filter_cons_of_neg (by rw [hnil]; exact Bool.false_ne_true), ih hsep]

/-- parts that are kept, between separators: nothing else is -/
theorem filter_splitOnP_intercalate (hsep : ∀ x ∈ sep, p x) (hne : sep ≠ [])
    (hnil : keep [] = false) (hparts : ∀ part ∈ parts, keep part ∧ ∀ x ∈ part, p x = false) :
    ((sep.intercalate parts).splitOnP p).filter keep = parts := by
  induction parts with
  | nil =>
    rw [List.intercalate_nil, List.splitOnP_nil,
      List.filter_cons_of_neg (by rw [hnil]; exact Bool.false_ne_true), List.filter_nil]
  | cons part parts ih =>
    obtain ⟨⟨hkeep, hpart⟩, hrest⟩ := List.forall_mem_cons.mp hparts
    cases parts with
    | nil =>
      rw [List.intercalate_singleton, List.splitOnP_eq_singleton hpart,
        List.filter_cons_of_pos hkeep, List.filter_nil]
    | cons next parts =>
      obtain ⟨x, sep', rfl⟩ := List.exists_cons_of_ne_nil hne
      obtain ⟨hx, hsep'⟩ := List.forall_mem_cons.mp hsep
      rw [List.intercalate_cons_cons, List.append_assoc, List.cons_append,
        List.splitOnP_append_cons_of_forall_mem hpart x hx, List.filter_cons_of_pos hkeep,
        filter_splitOnP_skip hsep' hnil, ih hrest]

end

end Text
