import Mathlib.Algebra.Order.Ring.Nat
import Mathlib.Data.List.Basic

/-!
# Records in a file that only grows, any of which may have been cut short

A record is a line and a newline.  What is left of a record that was cut short is in front of the
next one.

* `Framed`            lines that are told apart from anything that begins as a line does and has a
                      line at its end;
* `Log`               for each record what of it is in the file;
* `intact`            the records that have a line of their own (`intact_sublist`,
                      `countP_whole_le`: a cut spoils at most one other);
* `exists_log_of_prefix`  a file that was cut short is made of records that were cut short;
* `read_bytes`        the lines of the file that are lines of records are theirs.
-/

namespace Records
variable {ε α : Type}

/-- the lines of values: they begin with a mark, and end where the newline is -/
structure Framed (line : ε → List α) (mark newline : α) : Prop where
  head : ∀ e, (line e).head? = some mark
  ends : ∀ e, newline ∉ line e
  glued : ∀ t e e', mark :: t ++ line e ≠ line e'

abbrev Log (ε α : Type) := List (ε × List α)

/-- the file -/
def bytes (log : Log ε α) : List α := (log.map Prod.snd).flatten

theorem bytes_append (log log' : Log ε α) : bytes (log ++ log') = bytes log ++ bytes log' := by
  rw [bytes, List.map_append, List.flatten_append]
  rfl

section
variable (line : ε → List α) (newline : α)

def record (e : ε) : List α := line e ++ [newline]

/-- each part is the start of its record -/
def IsCut (log : Log ε α) : Prop := ∀ p ∈ log, p.2 <+: record line newline p.1

def Whole (p : ε × List α) : Prop := p.2 = record line newline p.1

/-- something of it is there, but not everything -/
def Torn (p : ε × List α) : Prop := p.2 ≠ [] ∧ ¬ Whole line newline p

variable [DecidableEq α]

instance : DecidablePred (Whole line newline) := fun p =>
  inferInstanceAs (Decidable (p.2 = record line newline p.1))

instance : DecidablePred (Torn line newline) := fun p =>
  inferInstanceAs (Decidable (p.2 ≠ [] ∧ ¬ Whole line newline p))

/-- the records with a line of their own, behind something torn or not -/
def intact : Bool → Log ε α → List ε
  | _, [] => []
  | torn, p :: log =>
    if Whole line newline p then if torn then intact false log else p.1 :: intact false log
    else if Torn line newline p then intact true log
    else intact torn log

open Classical in
/-- the lines of the file that are those of records; what has no newline is none -/
noncomputable def read (file : List α) : List (List α) :=
  (file.splitOn newline).dropLast.filter fun part => ∃ e, part = line e

end

section
variable {line : ε → List α} {newline mark : α} {log : Log ε α} {t file : List α} {torn : Bool}

/-- a file that was cut short is made of records that were cut short -/
theorem exists_log_of_prefix (hcut : IsCut line newline log) (h : file <+: bytes log) :
    ∃ log' : Log ε α, log'.map Prod.fst = log.map Prod.fst ∧ IsCut line newline log' ∧
      bytes log' = file := by
  induction log generalizing file with
  | nil => exact ⟨[], rfl, hcut, (List.prefix_nil.mp h).symm⟩
  | cons p log ih =>
    obtain ⟨hp, hlog⟩ := List.forall_mem_cons.mp hcut
    have hbytes : bytes (p :: log) = p.2 ++ bytes log := rfl
    rw [hbytes] at h
    rcases List.prefix_or_prefix_of_prefix h (List.prefix_append _ _) with hshort | ⟨rest, rfl⟩
    · obtain ⟨log', hfst, hcut', hnil⟩ := ih hlog List.nil_prefix
      refine ⟨(p.1, file) :: log', ?_, List.forall_mem_cons.mpr ⟨hshort.trans hp, hcut'⟩, ?_⟩
      · rw [List.map_cons, hfst, List.map_cons]
      · show file ++ bytes log' = file
        rw [hnil, List.append_nil]
    · obtain ⟨log', hfst, hcut', rfl⟩ := ih hlog ((List.prefix_append_right_inj p.2).mp h)
      refine ⟨p :: log', ?_, List.forall_mem_cons.mpr ⟨hp, hcut'⟩, rfl⟩
      rw [List.map_cons, hfst, List.map_cons]

/-! ## which records are intact -/

variable [DecidableEq α]

theorem intact_sublist : (intact line newline torn log).Sublist (log.map Prod.fst) := by
  induction log generalizing torn with
  | nil => exact List.Sublist.refl _
  | cons p log ih =>
    rw [intact, List.map_cons]
    split
    · split
      · exact ih.cons _
      · exact ih.cons_cons _
    · split
      · exact ih.cons _
      · exact ih.cons _

theorem intact_of_whole (h : ∀ p ∈ log, Whole line newline p) :
    intact line newline false log = log.map Prod.fst := by
  induction log with
  | nil => rfl
  | cons p log ih =>
    obtain ⟨hp, hlog⟩ := List.forall_mem_cons.mp h
    rw [intact, if_pos hp, ih hlog]
    rfl

/-- **a cut spoils at most one other record** -/
theorem countP_whole_le (torn : Bool) : log.countP (Whole line newline) ≤
    (intact line newline torn log).length + log.countP (Torn line newline) + torn.toNat := by
  induction log generalizing torn with
  | nil => exact Nat.zero_le _
  | cons p log ih =>
    rw [intact, List.countP_cons, List.countP_cons]
    by_cases hwhole : Whole line newline p
    · have hle := ih false
      rw [Bool.toNat_false] at hle
      rw [if_pos hwhole, if_pos (decide_eq_true hwhole)]
      cases torn with
      | false =>
        rw [if_neg Bool.false_ne_true, List.length_cons]
        omega
      | true =>
        rw [if_pos rfl, Bool.toNat_true]
        omega
    · rw [if_neg hwhole, if_neg fun h => hwhole (of_decide_eq_true h)]
      by_cases htorn : Torn line newline p
      · have hle := ih true
        rw [Bool.toNat_true] at hle
        rw [if_pos htorn, if_pos (decide_eq_true htorn)]
        omega
      · rw [if_neg htorn, if_neg fun h => htorn (of_decide_eq_true h)]
        exact ih torn

example : intact (fun b : Bool => [0, b.toNat]) 9 false
    [(true, [0, 1, 9]), (true, [0]), (false, [0, 0, 9]), (true, [0, 1, 9])] = [true, true] := by
  decide

/-! ## reading -/

theorem read_of_not_mem (h : newline ∉ t) : read line newline t = [] := by
  rw [read, List.splitOn_eq_singleton h]
  rfl

theorem read_line (h : newline ∉ t) (heq : ∃ e, t = line e) :
    read line newline (t ++ newline :: file) = t :: read line newline file := by
  classical
  rw [read, List.splitOn_append_cons_self_of_not_mem h,
    List.dropLast_cons_of_ne_nil (List.splitOn_ne_nil _ _), List.filter_cons,
    if_pos (decide_eq_true heq)]
  rfl

theorem read_skip (h : newline ∉ t) (hne : ¬ ∃ e, t = line e) :
    read line newline (t ++ newline :: file) = read line newline file := by
  classical
  rw [read, List.splitOn_append_cons_self_of_not_mem h,
    List.dropLast_cons_of_ne_nil (List.splitOn_ne_nil _ _), List.filter_cons,
    if_neg (by simpa using hne)]
  rfl

/-- **the lines that can be read are those of the intact records**, behind `t`, which is torn or
empty -/
theorem read_bytes (torn : Bool) (hframed : Framed line mark newline) (hcut : IsCut line newline log)
    (ht : newline ∉ t) (htorn : if torn then t.head? = some mark else t = []) :
    read line newline (t ++ bytes log) = (intact line newline torn log).map line := by
  induction log generalizing t torn with
  | nil =>
    rw [bytes, List.map_nil, List.flatten_nil, List.append_nil, read_of_not_mem ht]
    rfl
  | cons p log ih =>
    obtain ⟨e, part⟩ := p
    obtain ⟨hpart, hlog⟩ := List.forall_mem_cons.mp hcut
    have hbytes : bytes ((e, part) :: log) = part ++ bytes log := rfl
    rw [hbytes, intact]
    by_cases hwhole : Whole line newline (e, part)
    · have hrecord : t ++ (part ++ bytes log) = (t ++ line e) ++ newline :: bytes log := by
        rw [show part = line e ++ [newline] from hwhole, List.append_assoc, List.append_assoc]
        rfl
      have hline : newline ∉ t ++ line e := fun hmem =>
        (List.mem_append.mp hmem).elim ht (hframed.ends e)
      have hrest : read line newline (bytes log) = (intact line newline false log).map line :=
        ih (t := []) false hlog List.not_mem_nil rfl
      rw [if_pos hwhole, hrecord]
      cases torn with
      | false =>
        obtain rfl : t = [] := htorn
        rw [read_line hline ⟨e, rfl⟩, hrest]
        rfl
      | true =>
        obtain ⟨t, rfl⟩ : ∃ t', t = mark :: t' := List.head?_eq_some_iff.mp htorn
        rw [read_skip hline fun ⟨e', heq⟩ => hframed.glued t e e' heq, hrest]
        rfl
    rw [if_neg hwhole]
    by_cases hnone : part = []
    · rw [if_neg fun h => h.1 hnone, hnone]
      exact ih torn hlog ht htorn
    · -- the line goes on behind what was cut short
      obtain hpart | hpart := List.prefix_concat_iff.mp hpart
      · exact absurd hpart hwhole
      rw [if_pos ⟨hnone, hwhole⟩, ← List.append_assoc]
      refine ih true hlog (fun hmem => ?_) ?_
      · rcases List.mem_append.mp hmem with hmem | hmem
        · exact ht hmem
        · exact hframed.ends e (hpart.subset hmem)
      · cases torn with
        | true =>
          obtain ⟨t, rfl⟩ : ∃ t', t = mark :: t' := List.head?_eq_some_iff.mp htorn
          rfl
        | false =>
          obtain rfl : t = [] := htorn
          obtain ⟨rest, hhead⟩ := List.head?_eq_some_iff.mp (hframed.head e)
          obtain ⟨x, part, rfl⟩ := List.exists_cons_of_ne_nil hnone
          rw [hhead] at hpart
          obtain ⟨rfl, _⟩ := List.cons_prefix_cons.mp hpart
          rfl

end

end Records
