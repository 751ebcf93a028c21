import Crucible.Circuit.Openings
import Crucible.Circuit.Value

/-!
# The supply of a ledger of commitments

The ledger stores commitments.  It takes out those that an accepted execution spends, each as often
as it is there, and stores those that are returned.

* `Execution.Posts`            what it sees of an execution;
* `Execution.balances_iff`     an execution on notes that are words accounts for its value exactly
                               when the amount it moves is a word;
* `supply_conserved_iff`       so a run of the ledger conserves its supply throughout exactly when
                               no execution of it moves `2^64` or more.
-/

namespace Crucible
open Checked LowBits Ledger

/-- the amount is a `u64` -/
def Note.IsWord (n : Note) : Prop := n.value < 2^64

namespace Execution

/-- the amount that is added or taken away is a `u64`, which no circuit checks -/
def MovesWord : Execution → Prop
  | .deposit p => p.amount.val < 2^64
  | .merge _ => True
  | .transfer p => p.amount.val < 2^64
  | .withdraw p => p.amount.val < 2^64

/-- what the ledger sees: the commitments that are spent, and those that are returned -/
def Posts (std : Std) (e : Execution) (s : Spend Field) : Prop :=
  ∃ E, e.run std = .ok E ∧ s = ⟨E.spent.map Prod.fst, E.produced⟩

/-! ## one execution -/

section
variable {std : Std} {e : Execution} {s : Spend Note}

theorem balances_iff_conserved (h : e.Moves std s) :
    s.Balances Note.value inflow outflow e ↔ e.Conserved s.produced := by
  unfold Spend.Balances Conserved
  rw [h.1]
  rfl

/-- among words the high parts agree where the amount that moves is a word -/
theorem highBitsAgree_iff (hcons : ∀ q ∈ e.consumed, q.2.IsWord) :
    e.HighBitsAgree ↔ e.MovesWord := by
  cases e with
  | deposit p =>
    have hold : high 64 p.oldAmount.val = 0 := high_eq_zero_iff.mpr (hcons _ List.mem_cons_self)
    exact (and_iff_right hold).trans high_eq_zero_iff
  | merge p =>
    have ha : high 64 p.amountA.val = 0 := high_eq_zero_iff.mpr (hcons _ List.mem_cons_self)
    have hb : high 64 p.amountB.val = 0 :=
      high_eq_zero_iff.mpr (hcons _ (List.mem_cons_of_mem _ List.mem_cons_self))
    exact iff_of_true ⟨ha, hb⟩ trivial
  | transfer p =>
    have hold : high 64 p.oldAmount.val = 0 := high_eq_zero_iff.mpr (hcons _ List.mem_cons_self)
    show high 64 p.amount.val = high 64 p.oldAmount.val ↔ _
    rw [hold]
    exact high_eq_zero_iff
  | withdraw p =>
    have hold : high 64 p.oldAmount.val = 0 := high_eq_zero_iff.mpr (hcons _ List.mem_cons_self)
    show high 64 p.amount.val = high 64 p.oldAmount.val ↔ _
    rw [hold]
    exact high_eq_zero_iff

/-- the new notes are words where the amount that moves is: a sum of two words below `2^63` is -/
theorem produced_isWord {ns : List Note} (h : e.produced = .ok ns) (hmoves : e.MovesWord) :
    ∀ n ∈ ns, n.IsWord := by
  cases e with
  | deposit p =>
    obtain ⟨_, _, s, hs, rfl⟩ := produced_deposit.mp h
    refine List.forall_mem_singleton.mpr ?_
    show s.val < 2^64
    omega
  | merge p =>
    obtain ⟨_, _, s, hs, rfl⟩ := produced_merge.mp h
    refine List.forall_mem_singleton.mpr ?_
    show s.val < 2^64
    omega
  | transfer p =>
    obtain ⟨_, _, _, s, hs, rfl⟩ := produced_transfer.mp h
    refine List.forall_mem_cons.mpr ⟨hmoves, List.forall_mem_singleton.mpr ?_⟩
    show s.val < 2^64
    omega
  | withdraw p =>
    obtain ⟨_, _, _, s, hs, rfl⟩ := produced_withdraw.mp h
    refine List.forall_mem_singleton.mpr ?_
    show s.val < 2^64
    omega

/-- one execution on words: its value is accounted for exactly when it moves a word, and then it
leaves words -/
theorem balances_iff (h : e.Moves std s) (hcons : ∀ n ∈ s.consumed, n.IsWord) :
    (s.Balances Note.value inflow outflow e ↔ e.MovesWord) ∧
      (e.MovesWord → ∀ n ∈ s.produced, n.IsWord) := by
  have hopened : ∀ q ∈ e.consumed, q.2.IsWord := by
    intro q hq
    exact hcons q.2 (h.1 ▸ List.mem_map_of_mem hq)
  refine ⟨?_, produced_isWord h.2.2⟩
  rw [balances_iff_conserved h, conserved_iff h.2.2, highBitsAgree_iff hopened]

/-- what the ledger sees of an execution is what it moves, by its commitments -/
theorem moves_of_posts {t : Spend Field} (h : e.Posts std t) :
    ∃ s, e.Moves std s ∧ t = s.map (Note.commitment std) := by
  obtain ⟨E, hrun, rfl⟩ := h
  obtain ⟨_, hopen, ns, hns, rfl⟩ := run_ok.mp hrun
  refine ⟨⟨e.consumed.map Prod.snd, ns⟩, ⟨rfl, hrun, hns⟩, ?_⟩
  have hspent : (e.effect std ns).spent.map Prod.fst
      = (e.consumed.map Prod.snd).map (Note.commitment std) := by
    unfold effect
    rw [List.map_map, List.map_map]
    exact List.map_congr_left hopen
  unfold Spend.map
  rw [hspent]
  rfl

end

end Execution

/-! ## runs -/

/-- the openings behind the commitments of a run, at its start and in its executions -/
def Occurs (live : List Note) (es : List Execution) (n : Note) : Prop :=
  n ∈ live ∨ ∃ e ∈ es, e.HasNote n

/-- **The supply of the ledger is conserved throughout a run exactly when no execution moves an
amount of `2^64` or more.**  The openings that occur in the run are taken to have commitments of
their own, and the run to begin with amounts that are words.  Then the commitments that the ledger
stores at the end are those of notes that the executions have moved, and at every point of the run
they hold what they held at its start, with what has been deposited and without what has been
withdrawn, if and only if every amount that is moved is a word. -/
theorem supply_conserved_iff {std : Std} {live : List Note} {es : List Execution}
    {stored : List Field} (hbind : Set.InjOn (Note.commitment std) {n | Occurs live es n})
    (hlive : ∀ n ∈ live, n.IsWord)
    (hrun : Run (Execution.Posts std) (live.map (Note.commitment std)) es stored) :
    ∃ live', stored = live'.map (Note.commitment std) ∧ Run (Execution.Moves std) live es live' ∧
      (Balanced (Execution.Moves std) Note.value Execution.inflow Execution.outflow live es ↔
        ∀ e ∈ es, e.MovesWord) := by
  have hlift : ∃ live', stored = live'.map (Note.commitment std) ∧
      Run (Execution.Moves std) live es live' := by
    refine Run.lift (S := Occurs live es) (fun a b ha hb heq => hbind ha hb heq) ?_
      (fun n hn => Or.inl hn) hrun
    intro e he t ht
    obtain ⟨s, hs, rfl⟩ := Execution.moves_of_posts ht
    refine ⟨s, hs, rfl, fun n hn => Or.inr ⟨e, he, Or.inl (hs.1 ▸ hn)⟩, fun n hn => ?_⟩
    exact Or.inr ⟨e, he, Or.inr ⟨s.produced, hs.2.2, hn⟩⟩
  obtain ⟨live', hstored, hmoves⟩ := hlift
  exact ⟨live', hstored, hmoves,
    hmoves.balanced_iff (fun _ _ hs hcons => Execution.balances_iff hs hcons) hlive⟩

/-- the recorded transfer, on a ledger that stores the sender's commitment only -/
theorem supply_conserved_iff_transfer : ∃ live' : List Note,
    [commit Std.vectors 300 17, commit Std.vectors 700 8]
        = live'.map (Note.commitment Std.vectors) ∧
      Run (Execution.Moves Std.vectors) [⟨1000, 5⟩] [transferOf 300] live' ∧
      (Balanced (Execution.Moves Std.vectors) Note.value Execution.inflow Execution.outflow
          [⟨1000, 5⟩] [transferOf 300] ↔ ∀ e ∈ [transferOf 300], e.MovesWord) := by
  have hposts : Execution.Posts Std.vectors (transferOf 300)
      ⟨[commit Std.vectors 1000 5], [commit Std.vectors 300 17, commit Std.vectors 700 8]⟩ :=
    ⟨(transferOf 300).effect Std.vectors [⟨300, 17⟩, ⟨700, 8⟩], rfl, rfl⟩
  have hrun : Run (Execution.Posts Std.vectors)
      (([⟨1000, 5⟩] : List Note).map (Note.commitment Std.vectors)) [transferOf 300]
      [commit Std.vectors 300 17, commit Std.vectors 700 8] :=
    .cons hposts (List.Perm.refl _).subperm (.nil _)
  have hnote : ∀ n, Occurs [⟨1000, 5⟩] [transferOf 300] n →
      n ∈ ([⟨1000, 5⟩, ⟨300, 17⟩, ⟨700, 8⟩] : List Note) := by
    rintro n (hn | ⟨e, he, hn⟩)
    · exact List.mem_append_left _ hn
    · obtain rfl := List.mem_singleton.mp he
      rcases hn with hn | ⟨ns, hns, hn⟩
      · exact List.mem_append_left _ hn
      · cases hns
        exact List.mem_cons_of_mem _ hn
  refine supply_conserved_iff (fun n hn n' hn' heq => ?_) ?_ hrun
  · have hdistinct : ∀ a ∈ ([⟨1000, 5⟩, ⟨300, 17⟩, ⟨700, 8⟩] : List Note),
        ∀ b ∈ ([⟨1000, 5⟩, ⟨300, 17⟩, ⟨700, 8⟩] : List Note),
        a.commitment Std.vectors = b.commitment Std.vectors → a = b := by decide
    exact hdistinct n (hnote n hn) n' (hnote n' hn') heq
  · refine List.forall_mem_singleton.mpr ?_
    unfold Note.IsWord Note.value
    decide

end Crucible
