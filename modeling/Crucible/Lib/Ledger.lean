import Mathlib.Algebra.GroupWithZero.Nat
import Mathlib.Data.List.Basic
import Mathlib.Data.List.Perm.Subperm

/-!
# Ledgers of notes: spends, and chains of them

A ledger holds a list of live notes.  A `Spend` takes notes out of it and puts notes in; a
`Chain` is a run of such steps, each one labelled by the action that made it.  Which spends an
action can make is the parameter `effect`.

* `Chain.forall_live`   the invariant rule: a property that every step of the chain carries from
                        the notes it consumes to the notes it produces holds of every live note
                        at the end if it held of every live note at the start;
* `Run`                 a chain whose steps take a note out as often as it is there;
* `Run.balanced_iff`    a weight of the notes is accounted for throughout a run exactly when every
                        action of it accounts for its own notes;
* `Run.lift`            a run over names of notes is a run over the notes, where the names that
                        occur tell them apart.
-/

namespace Ledger

/-- the notes one step takes out of the ledger, and the notes it puts in -/
structure Spend (ν : Type*) where
  consumed : List ν
  produced : List ν

section
variable {α ν : Type*} [DecidableEq ν]

/-- the live notes after a step -/
def Spend.after (s : Spend ν) (live : List ν) : List ν := live.diff s.consumed ++ s.produced

theorem Spend.mem_after {s : Spend ν} {live : List ν} {n : ν} (h : n ∈ s.after live) :
    n ∈ live ∨ n ∈ s.produced := by
  rcases List.mem_append.mp h with h | h
  · exact Or.inl ((List.diff_subset live s.consumed) h)
  · exact Or.inr h

/-- a run of the ledger: every step consumes live notes only -/
inductive Chain (effect : α → Spend ν → Prop) : List ν → List α → List ν → Prop
  | nil (live : List ν) : Chain effect live [] live
  | cons {live : List ν} {a : α} {s : Spend ν} {as : List α} {live' : List ν} :
      effect a s → s.consumed ⊆ live → Chain effect (s.after live) as live' →
      Chain effect live (a :: as) live'

variable {effect : α → Spend ν → Prop}

/-- **The invariant rule of chains.** -/
theorem Chain.forall_live {P : ν → Prop} {live : List ν} {as : List α} {live' : List ν}
    (h : Chain effect live as live')
    (hstep : ∀ a ∈ as, ∀ s, effect a s → (∀ n ∈ s.consumed, P n) → ∀ n ∈ s.produced, P n)
    (h0 : ∀ n ∈ live, P n) : ∀ n ∈ live', P n := by
  induction h with
  | nil => exact h0
  | @cons live a s as live' ha hsub _ ih =>
    apply ih (fun a' ha' => hstep a' (List.mem_cons_of_mem _ ha'))
    intro n hn
    rcases Spend.mem_after hn with hl | hp
    · exact h0 n hl
    · exact hstep a List.mem_cons_self s ha (fun m hm => h0 m (hsub hm)) n hp

end

/-! ## weights -/

section
variable {ν : Type*} {w : ν → Nat}

/-- what the notes weigh together -/
def weight (w : ν → Nat) (ns : List ν) : Nat := (ns.map w).sum

theorem weight_append (ns ms : List ν) : weight w (ns ++ ms) = weight w ns + weight w ms := by
  simp [weight]

theorem weight_perm {ns ms : List ν} (h : ns.Perm ms) : weight w ns = weight w ms :=
  (h.map w).sum_nat

end

/-! ## runs that consume what is there, as often as it is there -/

section
variable {α ν : Type*} [DecidableEq ν]

/-- what is taken out and what is left are what was there, with what is put in -/
theorem Spend.after_perm {s : Spend ν} {live : List ν} (h : s.consumed.Subperm live) :
    (s.after live ++ s.consumed).Perm (live ++ s.produced) := by
  have hdiff : (s.consumed ++ live.diff s.consumed).Perm live :=
    List.subperm_append_diff_self_of_count_le fun n _ => h.count_le n
  have hswap : (s.after live ++ s.consumed).Perm
      (s.consumed ++ live.diff s.consumed ++ s.produced) := by
    unfold after
    rw [List.append_assoc s.consumed]
    exact List.perm_append_comm
  exact hswap.trans (hdiff.append_right _)

/-- a run of the ledger: every step consumes live notes, each as often as it is there -/
inductive Run (effect : α → Spend ν → Prop) : List ν → List α → List ν → Prop
  | nil (live : List ν) : Run effect live [] live
  | cons {live : List ν} {a : α} {s : Spend ν} {as : List α} {live' : List ν} :
      effect a s → s.consumed.Subperm live → Run effect (s.after live) as live' →
      Run effect live (a :: as) live'

variable {effect : α → Spend ν → Prop} {live live' : List ν} {as : List α}

/-! ## accounts -/

section
variable {w : ν → Nat} {gain loss : α → Nat}

theorem weight_after {s : Spend ν} (h : s.consumed.Subperm live) :
    weight w (s.after live) + weight w s.consumed = weight w live + weight w s.produced := by
  rw [← weight_append, ← weight_append]
  exact weight_perm (Spend.after_perm h)

/-- the action accounts for its notes: what they weigh, with what it takes away, is what the consumed
notes weighed, with what it brings -/
def Spend.Balances (w : ν → Nat) (gain loss : α → Nat) (a : α) (s : Spend ν) : Prop :=
  weight w s.produced + loss a = weight w s.consumed + gain a

theorem Spend.balances_iff {a : α} {s : Spend ν} (h : s.consumed.Subperm live) :
    s.Balances w gain loss a ↔
      weight w (s.after live) + loss a = weight w live + gain a := by
  have hafter : weight w (s.after live) + weight w s.consumed
      = weight w live + weight w s.produced := weight_after h
  unfold Balances
  omega

/-- the notes of `live` and what the actions brought are what is live, with what they took away -/
def Accounts (w : ν → Nat) (gain loss : α → Nat) (live : List ν) (as : List α) (live' : List ν) :
    Prop :=
  weight w live' + (as.map loss).sum = weight w live + (as.map gain).sum

/-- throughout the run, and not at its end only -/
def Balanced (effect : α → Spend ν → Prop) (w : ν → Nat) (gain loss : α → Nat) (live : List ν)
    (as : List α) : Prop :=
  ∀ done rest mid, as = done ++ rest → Run effect live done mid →
    Accounts w gain loss live done mid

theorem Accounts.cons_iff {a : α} {s : Spend ν} (h : s.consumed.Subperm live)
    (hs : s.Balances w gain loss a) :
    Accounts w gain loss live (a :: as) live' ↔
      Accounts w gain loss (s.after live) as live' := by
  have hstep := (Spend.balances_iff h).mp hs
  unfold Accounts
  rw [List.map_cons, List.map_cons, List.sum_cons, List.sum_cons]
  omega

/-- a run of actions that account for their notes accounts for its own -/
theorem Run.accounts {P : ν → Prop} (h : Run effect live as live')
    (hstep : ∀ a ∈ as, ∀ s, effect a s → (∀ n ∈ s.consumed, P n) →
      s.Balances w gain loss a ∧ ∀ n ∈ s.produced, P n)
    (h0 : ∀ n ∈ live, P n) : Accounts w gain loss live as live' := by
  induction h with
  | nil => rfl
  | @cons live a s as live' ha hsub _ ih =>
    obtain ⟨hs, hprod⟩ := hstep a List.mem_cons_self s ha fun n hn => h0 n (hsub.subset hn)
    refine (Accounts.cons_iff hsub hs).mpr (ih ?_ fun n hn => ?_)
    · exact fun a' ha' => hstep a' (List.mem_cons_of_mem _ ha')
    · rcases Spend.mem_after hn with hl | hp
      · exact h0 n hl
      · exact hprod n hp

/-- **A run is balanced throughout exactly when each of its actions is.** -/
theorem Run.balanced_iff {P : ν → Prop} {Good : α → Prop} (h : Run effect live as live')
    (hstep : ∀ a s, effect a s → (∀ n ∈ s.consumed, P n) →
      (s.Balances w gain loss a ↔ Good a) ∧ (Good a → ∀ n ∈ s.produced, P n))
    (h0 : ∀ n ∈ live, P n) :
    Balanced effect w gain loss live as ↔ ∀ a ∈ as, Good a := by
  constructor
  · intro hbal
    induction h with
    | nil => exact fun a ha => absurd ha List.not_mem_nil
    | @cons live a s as live' ha hsub _ ih =>
      obtain ⟨hiff, hprod⟩ := hstep a s ha fun n hn => h0 n (hsub.subset hn)
      have hone : Accounts w gain loss live [a] (s.after live) :=
        hbal [a] as _ rfl (.cons ha hsub (.nil _))
      have hs : s.Balances w gain loss a := by
        refine (Spend.balances_iff hsub).mpr ?_
        unfold Accounts at hone
        simpa using hone
      have hgood : Good a := hiff.mp hs
      refine List.forall_mem_cons.mpr ⟨hgood, ih (fun n hn => ?_) ?_⟩
      · rcases Spend.mem_after hn with hl | hp
        · exact h0 n hl
        · exact hprod hgood n hp
      · intro done rest mid heq hrun
        have hlonger : a :: as = a :: done ++ rest := by rw [heq]; rfl
        exact (Accounts.cons_iff hsub hs).mp (hbal _ _ _ hlonger (.cons ha hsub hrun))
  · intro hgood done rest mid heq hrun
    refine hrun.accounts (P := P) (fun a ha s hs hcons => ?_) h0
    have hmem : a ∈ as := heq ▸ List.mem_append_left _ ha
    obtain ⟨hiff, hprod⟩ := hstep a s hs hcons
    exact ⟨hiff.mpr (hgood a hmem), hprod (hgood a hmem)⟩

end

/-! ## names of notes -/

section
variable {κ : Type*} {name : ν → κ} {S : ν → Prop}

theorem subperm_of_map {ns ms : List ν} (hinj : ∀ a b, S a → S b → name a = name b → a = b)
    (hns : ∀ n ∈ ns, S n) (hms : ∀ m ∈ ms, S m) (h : (ms.map name).Subperm (ns.map name)) :
    ms.Subperm ns := by
  induction ms generalizing ns with
  | nil => exact List.nil_subperm
  | cons m ms ih =>
    obtain ⟨hm, hms⟩ := List.forall_mem_cons.mp hms
    have hmem : m ∈ ns := by
      obtain ⟨n, hn, hname⟩ := List.mem_map.mp (h.subset List.mem_cons_self)
      exact hinj n m (hns n hn) hm hname ▸ hn
    have hperm : ns.Perm (m :: ns.erase m) := List.perm_cons_erase hmem
    have htail : (ms.map name).Subperm ((ns.erase m).map name) := by
      refine (List.subperm_cons (name m)).mp ?_
      exact h.trans (hperm.map name).subperm
    have hrest : ms.Subperm (ns.erase m) :=
      ih (fun n hn => hns n (List.mem_of_mem_erase hn)) hms htail
    exact ((List.subperm_cons m).mpr hrest).trans hperm.symm.subperm

variable [DecidableEq κ]

theorem map_erase_of_injOn {ns : List ν} {n : ν} (h : ∀ m ∈ ns, name n = name m → n = m) :
    (ns.erase n).map name = (ns.map name).erase (name n) := by
  induction ns with
  | nil => rfl
  | cons m ns ih =>
    by_cases hm : n = m
    · subst hm
      rw [List.erase_cons_head, List.map_cons, List.erase_cons_head]
    · have hname : ¬ name m = name n := fun heq => hm (h m List.mem_cons_self heq.symm)
      rw [List.erase_cons_tail (by simpa using Ne.symm hm), List.map_cons, List.map_cons,
        List.erase_cons_tail (by simpa using hname),
        ih fun k hk => h k (List.mem_cons_of_mem _ hk)]

theorem map_diff_of_injOn {ns ms : List ν} (hinj : ∀ a b, S a → S b → name a = name b → a = b)
    (hns : ∀ n ∈ ns, S n) (hms : ∀ m ∈ ms, S m) :
    (ns.diff ms).map name = (ns.map name).diff (ms.map name) := by
  induction ms generalizing ns with
  | nil => rfl
  | cons m ms ih =>
    obtain ⟨hm, hms⟩ := List.forall_mem_cons.mp hms
    have herase : (ns.erase m).map name = (ns.map name).erase (name m) :=
      map_erase_of_injOn fun n hn => hinj m n hm (hns n hn)
    rw [List.diff_cons, List.map_cons, List.diff_cons, ← herase]
    exact ih (fun n hn => hns n (List.mem_of_mem_erase hn)) hms

/-- the spend, by the names of its notes -/
def Spend.map (name : ν → κ) (s : Spend ν) : Spend κ :=
  ⟨s.consumed.map name, s.produced.map name⟩

/-- **A run over names is a run over notes**, where the notes that occur have names of their own. -/
theorem Run.lift {effect' : α → Spend κ → Prop} {named : List κ}
    (hinj : ∀ a b, S a → S b → name a = name b → a = b)
    (hstep : ∀ a ∈ as, ∀ t, effect' a t → ∃ s, effect a s ∧ t = s.map name ∧
      (∀ n ∈ s.consumed, S n) ∧ ∀ n ∈ s.produced, S n)
    (h0 : ∀ n ∈ live, S n) (h : Run effect' (live.map name) as named) :
    ∃ live', named = live'.map name ∧ Run effect live as live' := by
  induction as generalizing live with
  | nil =>
    cases h
    exact ⟨live, rfl, .nil live⟩
  | cons a as ih =>
    cases h with
    | @cons _ _ t _ _ ha hsub hrest =>
      obtain ⟨s, hs, rfl, hcons, hprod⟩ := hstep a List.mem_cons_self t ha
      have hsub : s.consumed.Subperm live := subperm_of_map hinj h0 hcons hsub
      have hafter : (s.map name).after (live.map name) = (s.after live).map name := by
        unfold Spend.after Spend.map
        rw [List.map_append, map_diff_of_injOn hinj h0 hcons]
      rw [hafter] at hrest
      have hmem : ∀ n ∈ s.after live, S n := by
        intro n hn
        rcases Spend.mem_after hn with hl | hp
        · exact h0 n hl
        · exact hprod n hp
      obtain ⟨live', hlive', hrun⟩ :=
        ih (fun a' ha' => hstep a' (List.mem_cons_of_mem _ ha')) hmem hrest
      exact ⟨live', hlive', .cons hs hsub hrun⟩

end

end

end Ledger
