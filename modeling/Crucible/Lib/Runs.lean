import Mathlib.Data.List.TakeWhile

/-!
# Runs: the parts of a text that lie in a class, and masks over the long ones

* `mask p n mark`          the text, with `mark` in the place of every longest run of `n` or more;
* `runs_induction`         a text is empty, or begins with a character outside the class, or with a
                           run that does not go on;
* `mask_append`            a text may be masked in parts wherever no run goes on;
* `HasRun`                 somewhere there are `n` in a row; `not_hasRun_mask`: not under a mask,
                           and `mask_of_not_hasRun`: a text without any is left as it is;
* `DifferInRuns`           texts that differ in their long runs only; `DifferInRuns.mask_eq`: they
                           have one mask.
-/

namespace Runs

section
variable {α : Type} (p : α → Bool) (n : Nat) (mark : List α)

/-- a run, or the mark for a long one -/
def masked (run : List α) : List α := if n ≤ run.length then mark else run

/-- run by run, each as long as it can be -/
def mask : List α → List α
  | [] => []
  | c :: cs =>
    if p c then masked n mark ((c :: cs).takeWhile p) ++ mask ((c :: cs).dropWhile p)
    else c :: mask cs
termination_by cs => cs.length
decreasing_by
  · have hle := (List.dropWhile_sublist (l := cs) p).length_le
    rw [List.dropWhile_cons_of_pos ‹_›, List.length_cons]
    omega
  · exact Nat.lt_succ_self _

/-- no run goes on from the one text to the other -/
def Apart (a b : List α) : Prop :=
  ∀ c d, a.getLast? = some c → b.head? = some d → p c → ¬ p d

/-- `n` in a row -/
def HasRun (t : List α) : Prop := ∃ run, run <:+: t ∧ n ≤ run.length ∧ ∀ c ∈ run, p c

/-- a longest run of `n` or more stands between the two texts -/
structure LongRun (a run b : List α) : Prop where
  long : n ≤ run.length
  all : ∀ c ∈ run, p c
  before : ∀ c, a.getLast? = some c → ¬ p c
  after : ∀ d, b.head? = some d → ¬ p d

/-- texts that differ in their long runs only -/
inductive DifferInRuns : List α → List α → Prop
  | refl (t : List α) : DifferInRuns t t
  | run {a r r' b b' : List α} : LongRun p n a r b → LongRun p n a r' b' → DifferInRuns b b' →
      DifferInRuns (a ++ (r ++ b)) (a ++ (r' ++ b'))

end

section
variable {α : Type} {p : α → Bool} {n : Nat} {mark : List α} {a b r t t' : List α} {c : α}

/-! ## masks in parts -/

@[simp] theorem mask_nil : mask p n mark [] = [] := by rw [mask]

theorem mask_cons_of_neg (hc : ¬ p c) : mask p n mark (c :: t) = c :: mask p n mark t := by
  rw [mask, if_neg hc]

/-- a run that does not go on is masked on its own -/
theorem mask_run_append (hr : r ≠ []) (hall : ∀ c ∈ r, p c)
    (hafter : ∀ d, b.head? = some d → ¬ p d) :
    mask p n mark (r ++ b) = masked n mark r ++ mask p n mark b := by
  have htake : b.takeWhile p = [] ∧ b.dropWhile p = b := by
    cases b with
    | nil => exact ⟨rfl, rfl⟩
    | cons d b =>
      have hd := hafter d rfl
      exact ⟨List.takeWhile_cons_of_neg hd, List.dropWhile_cons_of_neg hd⟩
  cases r with
  | nil => exact absurd rfl hr
  | cons c r =>
    have hrun : ((c :: r) ++ b).takeWhile p = c :: r := by
      rw [List.takeWhile_append_of_pos hall, htake.1, List.append_nil]
    have hrest : ((c :: r) ++ b).dropWhile p = b := by
      rw [List.dropWhile_append_of_pos hall, htake.2]
    rw [List.cons_append] at hrun hrest ⊢
    rw [mask, if_pos (hall c List.mem_cons_self), hrun, hrest]

/-! ## texts by their runs -/

theorem not_head_dropWhile {d : α} (h : (t.dropWhile p).head? = some d) : ¬ p d := by
  have hhead := List.head?_dropWhile_not p t
  rw [h] at hhead
  simpa using hhead

/-- a text is taken apart run by run -/
theorem runs_induction (p : α → Bool) {motive : List α → Prop} (nil : motive [])
    (other : ∀ c t, ¬ p c → motive t → motive (c :: t))
    (run : ∀ r b, r ≠ [] → (∀ c ∈ r, p c) → (∀ d, b.head? = some d → ¬ p d) → motive b →
      motive (r ++ b)) (t : List α) : motive t := by
  induction t using mask.induct p with
  | case1 => exact nil
  | case2 c cs hc ih =>
    have hrun : (c :: cs).takeWhile p ≠ [] := by
      rw [List.takeWhile_cons_of_pos hc]
      exact List.cons_ne_nil _ _
    have hcut := run _ _ hrun (fun d hd => List.mem_takeWhile_imp hd)
      (fun d => not_head_dropWhile) ih
    rwa [List.takeWhile_append_dropWhile] at hcut
  | case3 c cs hc ih => exact other c cs hc ih

theorem mask_append (h : Apart p a b) :
    mask p n mark (a ++ b) = mask p n mark a ++ mask p n mark b := by
  induction a using runs_induction p with
  | nil => rw [List.nil_append, mask_nil, List.nil_append]
  | other c t hc ih =>
    have htail : Apart p t b := by
      intro x d hx
      refine h x d ?_
      rw [List.getLast?_cons, hx]
      rfl
    rw [List.cons_append, mask_cons_of_neg hc, mask_cons_of_neg hc, ih htail, List.cons_append]
  | run r a hr hall hafter ih =>
    rw [mask_run_append hr hall hafter]
    cases a with
    | nil =>
      -- the text is one run, which ends where the other text begins
      have hedge : ∀ d, b.head? = some d → ¬ p d := by
        intro d
        rw [List.append_nil] at h
        exact fun hd => h (r.getLast hr) d (List.getLast?_eq_some_getLast hr) hd
          (hall _ (List.getLast_mem hr))
      rw [List.append_nil, mask_run_append hr hall hedge, mask_nil, List.append_nil]
    | cons x a =>
      have hrest : Apart p (x :: a) b := by
        intro y d hy
        refine h y d ?_
        rw [List.getLast?_append, hy]
        rfl
      have hedge : ∀ d, (x :: a ++ b).head? = some d → ¬ p d := hafter
      rw [List.append_assoc, mask_run_append hr hall hedge, ih hrest, List.append_assoc]

/-! ## runs in parts -/

theorem HasRun.of_infix (h : HasRun p n a) (hab : a <:+: b) : HasRun p n b := by
  obtain ⟨run, hrun, hlen, hall⟩ := h
  exact ⟨run, hrun.trans hab, hlen, hall⟩

/-- a run is on one side of a cut where none goes on -/
theorem hasRun_append (h : Apart p a b) (hrun : HasRun p n (a ++ b)) :
    HasRun p n a ∨ HasRun p n b := by
  obtain ⟨run, hpart, hlen, hall⟩ := hrun
  rcases List.infix_append_iff.mp hpart with hleft | hright | ⟨l, l', rfl, hl, hl'⟩
  · exact Or.inl ⟨run, hleft, hlen, hall⟩
  · exact Or.inr ⟨run, hright, hlen, hall⟩
  · cases l' with
    | nil =>
      rw [List.append_nil] at hlen hall
      exact Or.inl ⟨l, hl.isInfix, hlen, hall⟩
    | cons d l' =>
      cases hlast : l.getLast? with
      | none =>
        rw [List.getLast?_eq_none_iff] at hlast
        subst hlast
        exact Or.inr ⟨d :: l', hl'.isInfix, hlen, hall⟩
      | some c =>
        -- the run would go on
        obtain ⟨a', rfl⟩ := hl
        obtain ⟨b', rfl⟩ := hl'
        have hc : (a' ++ l).getLast? = some c := by
          rw [List.getLast?_append, hlast]
          rfl
        have hpc : p c := hall c (List.mem_append_left _ (List.mem_of_getLast? hlast))
        have hpd : p d := hall d (List.mem_append_right _ List.mem_cons_self)
        exact absurd hpd (h c d hc rfl hpc)

theorem not_hasRun_of_outside (hn : 0 < n) (h : ∀ c ∈ t, ¬ p c) : ¬ HasRun p n t := by
  intro hrun
  obtain ⟨run, hpart, hlen, hall⟩ := hrun
  obtain ⟨c, hc⟩ := List.exists_mem_of_length_pos (Nat.lt_of_lt_of_le hn hlen)
  exact h c (hpart.subset hc) (hall c hc)

/-! ## what a mask leaves -/

theorem head?_mask (h : ∀ d, t.head? = some d → ¬ p d) : (mask p n mark t).head? = t.head? := by
  cases t with
  | nil => rw [mask_nil]
  | cons c t => rw [mask_cons_of_neg (h c rfl), List.head?_cons, List.head?_cons]

/-- nothing long is left under a mask -/
theorem not_hasRun_mask (hn : 0 < n) (hmark : ∀ c ∈ mark, ¬ p c) (t : List α) :
    ¬ HasRun p n (mask p n mark t) := by
  induction t using runs_induction p with
  | nil =>
    rw [mask_nil]
    exact not_hasRun_of_outside hn fun c hc => absurd hc List.not_mem_nil
  | other c t hc ih =>
    have hedge : Apart p [c] (mask p n mark t) := by
      intro x d hx _ hpx
      rw [List.getLast?_singleton] at hx
      exact absurd (Option.some.inj hx ▸ hpx) hc
    rw [mask_cons_of_neg hc]
    intro hrun
    rcases hasRun_append hedge hrun with h | h
    · refine not_hasRun_of_outside hn (fun x hx => ?_) h
      rwa [List.mem_singleton.mp hx]
    · exact ih h
  | run r b hr hall hafter ih =>
    have hedge : Apart p (masked n mark r) (mask p n mark b) := by
      intro x d _ hd _
      rw [head?_mask hafter] at hd
      exact hafter d hd
    rw [mask_run_append hr hall hafter]
    intro hrun
    rcases hasRun_append hedge hrun with h | h
    · unfold masked at h
      by_cases hlong : n ≤ r.length
      · rw [if_pos hlong] at h
        exact not_hasRun_of_outside hn hmark h
      · rw [if_neg hlong] at h
        obtain ⟨run, hpart, hlen, _⟩ := h
        exact hlong (Nat.le_trans hlen hpart.length_le)
    · exact ih h

/-- a text without long runs is left as it is -/
theorem mask_of_not_hasRun (h : ¬ HasRun p n t) : mask p n mark t = t := by
  induction t using runs_induction p with
  | nil => exact mask_nil
  | other c t hc ih =>
    rw [mask_cons_of_neg hc, ih fun hrun => h (hrun.of_infix (List.suffix_cons c t).isInfix)]
  | run r b hr hall hafter ih =>
    have hshort : ¬ n ≤ r.length := fun hlong =>
      h ⟨r, (List.prefix_append r b).isInfix, hlong, hall⟩
    rw [mask_run_append hr hall hafter, masked, if_neg hshort,
      ih fun hrun => h (hrun.of_infix (List.suffix_append r b).isInfix)]

/-- a long run is a mark under the mask, whatever it is -/
theorem LongRun.mask_eq (hn : 0 < n) (h : LongRun p n a r b) :
    mask p n mark (a ++ (r ++ b)) = mask p n mark a ++ (mark ++ mask p n mark b) := by
  have hr : r ≠ [] := List.ne_nil_of_length_pos (Nat.lt_of_lt_of_le hn h.long)
  have hedge : Apart p a (r ++ b) := fun c d hc _ hpc => absurd hpc (h.before c hc)
  rw [mask_append hedge, mask_run_append hr h.all h.after, masked, if_pos h.long]

theorem DifferInRuns.mask_eq (hn : 0 < n) (h : DifferInRuns p n t t') :
    mask p n mark t = mask p n mark t' := by
  induction h with
  | refl t => rfl
  | run hrun hrun' _ ih => rw [hrun.mask_eq hn, hrun'.mask_eq hn, ih]

end

end Runs
