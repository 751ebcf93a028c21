import Crucible.Circuit.Execution
import Crucible.Lib.Ledger

/-!
# Value: conservation, aliasing and the range of amounts

The circuits compute on the low words of the amounts and commit, here to a word that was cast
back, there to the field itself.  What that means for the integers that are committed to:

* `value_conserved_iff`       value is conserved exactly when the high parts of the amounts
                              agree;
* `merge_counts_once_iff`     a merge counts no commitment twice exactly when its two inputs are
                              two commitments (or hold nothing);
* `amounts_stay_in_range`     the amounts produced are below `2^63` exactly when the sums are, and
                              a chain of such executions keeps every live note consumable.
-/

namespace Crucible
open Checked LowBits Ledger

/-! ## conservation -/

def total (ns : List Note) : Nat := (ns.map Note.value).sum

namespace Execution

/-- the value a deposit brings into the confidential domain -/
def inflow : Execution → Nat
  | .deposit p => p.amount.val
  | .merge _ => 0
  | .transfer _ => 0
  | .withdraw _ => 0

/-- the value a withdrawal takes out of it -/
def outflow : Execution → Nat
  | .deposit _ => 0
  | .merge _ => 0
  | .transfer _ => 0
  | .withdraw p => p.amount.val

/-- the integers committed to by `ns`, and what leaves, are what was consumed and what entered -/
def Conserved (e : Execution) (ns : List Note) : Prop :=
  total ns + e.outflow = total (e.consumed.map Prod.snd) + e.inflow

/-- the parts of the amounts above the low 64 bits: none where words are added, and the same on
both sides where words are subtracted -/
def HighBitsAgree : Execution → Prop
  | .deposit p => high 64 p.oldAmount.val = 0 ∧ high 64 p.amount.val = 0
  | .merge p => high 64 p.amountA.val = 0 ∧ high 64 p.amountB.val = 0
  | .transfer p => high 64 p.amount.val = high 64 p.oldAmount.val
  | .withdraw p => high 64 p.amount.val = high 64 p.oldAmount.val

theorem conserved_iff {e : Execution} {ns : List Note} (h : e.produced = .ok ns) :
    e.Conserved ns ↔ e.HighBitsAgree := by
  cases e with
  | deposit p =>
    obtain ⟨_, _, s, hs, rfl⟩ := produced_deposit.mp h
    show s.val = p.oldAmount.val + p.amount.val ↔ _
    rw [hs]
    exact low_add_low_eq_iff
  | merge p =>
    obtain ⟨_, _, s, hs, rfl⟩ := produced_merge.mp h
    show s.val = p.amountA.val + p.amountB.val ↔ _
    rw [hs]
    exact low_add_low_eq_iff
  | transfer p =>
    obtain ⟨_, _, hle, s, hs, rfl⟩ := produced_transfer.mp h
    show p.amount.val + s.val = p.oldAmount.val ↔ _
    rw [hs]
    exact add_sub_low_eq_iff hle
  | withdraw p =>
    obtain ⟨_, _, hle, s, hs, rfl⟩ := produced_withdraw.mp h
    show s.val + p.amount.val = p.oldAmount.val ↔ _
    rw [hs, add_comm]
    exact add_sub_low_eq_iff hle

end Execution

/-- **Value is conserved exactly when the high parts of the amounts agree**: the cast to `u64`
drops them, and nothing constrains them to be zero. -/
theorem value_conserved_iff {std : Std} {e : Execution} {E : Effect} (h : e.run std = .ok E) :
    ∃ ns, e.Produces std ns ∧ E.produced = ns.map (Note.commitment std) ∧
      (e.Conserved ns ↔ e.HighBitsAgree) := by
  obtain ⟨ns, hp, hE⟩ := Execution.exists_produces h
  exact ⟨ns, hp, hE, Execution.conserved_iff hp.2⟩

theorem value_conserved_iff_transfer : ∃ ns, (transferOf 300).Produces Std.vectors ns ∧
    ((transferOf 300).effect Std.vectors [⟨300, 17⟩, ⟨700, 8⟩]).produced =
      ns.map (Note.commitment Std.vectors) ∧
    ((transferOf 300).Conserved ns ↔ (transferOf 300).HighBitsAgree) := by
  have hrun : (transferOf 300).run Std.vectors
      = .ok ((transferOf 300).effect Std.vectors [⟨300, 17⟩, ⟨700, 8⟩]) := rfl
  exact value_conserved_iff hrun

/-- the recipient's note holds `2^64` more than the sender's note gave -/
theorem transfer_inflates :
    (transferOf (2^64 + 300)).Produces Std.vectors [⟨2^64 + 300, 17⟩, ⟨700, 8⟩] ∧
      ¬ (transferOf (2^64 + 300)).Conserved [⟨2^64 + 300, 17⟩, ⟨700, 8⟩] :=
  ⟨⟨rfl, rfl⟩, by unfold Execution.Conserved; decide⟩

/-! ## aliasing in merge -/

/-- the total held by the distinct commitments of a list of openings: an opening counts when no
later one is of the same commitment -/
def held : List (Field × Note) → Nat
  | [] => 0
  | (c, n) :: rest => (if c ∈ rest.map Prod.fst then 0 else n.value) + held rest

def Merge.held (p : Merge) : Nat := Crucible.held (Execution.merge p).consumed

theorem Merge.held_of_ne {p : Merge} (h : p.commitmentA ≠ p.commitmentB) :
    p.held = p.amountA.val + p.amountB.val := by
  simp [Merge.held, Crucible.held, Execution.consumed, h, Note.value]

theorem Merge.held_of_eq {p : Merge} (h : p.commitmentA = p.commitmentB) :
    p.held = p.amountB.val := by
  simp [Merge.held, Crucible.held, Execution.consumed, h, Note.value]

/-- the merged amount `sum` counts every commitment once, and one commitment is not merged with
itself unless it holds nothing -/
def Merge.CountsOnce (p : Merge) (sum : Field) : Prop :=
  sum.val ≤ p.held ∧ ¬ (p.commitmentA = p.commitmentB ∧ (0 < p.amountA.val ∨ 0 < p.amountB.val))

/-- **A merge counts no commitment twice exactly when it consumes two commitments, or one that
holds nothing**; if the commitment binds, the merged amount exceeds what is held exactly when one
commitment with a low word in `(0, 2^63)` and no higher bits is merged with itself. -/
theorem merge_counts_once_iff {std : Std} {p : Merge} {out : Field × Field × Field}
    (h : p.main std = .ok out) :
    ∃ sum : Field, out.1 = commit std sum p.blinding ∧
      sum.val = low 64 p.amountA.val + low 64 p.amountB.val ∧
      (p.CountsOnce sum ↔
        p.commitmentA ≠ p.commitmentB ∨ (p.amountA = 0 ∧ p.amountB = 0)) ∧
      ((p.commitmentA = p.commitmentB → p.amountA = p.amountB) →
        (sum.val ≤ p.held ↔ p.commitmentA ≠ p.commitmentB ∨
          low 64 p.amountB.val = 0 ∨ 2^64 ≤ p.amountB.val)) := by
  obtain ⟨_, _, _, sum, hsum, rfl⟩ := Merge.main_ok.mp h
  obtain ⟨ha, hb, hs⟩ := addBounded_ok.mp hsum
  have hla := low_le 64 p.amountA.val
  have hlb := low_le 64 p.amountB.val
  refine ⟨sum, rfl, hs, ?_, fun hbind => ?_⟩
  · unfold Merge.CountsOnce
    by_cases hc : p.commitmentA = p.commitmentB
    · rw [Merge.held_of_eq hc, ← ZMod.val_eq_zero, ← ZMod.val_eq_zero]
      constructor
      · rintro ⟨_, hno⟩
        have : ¬ (0 < p.amountA.val ∨ 0 < p.amountB.val) := fun hpos => hno ⟨hc, hpos⟩
        omega
      · rintro (hne | ⟨h0a, h0b⟩)
        · exact absurd hc hne
        · refine ⟨by omega, ?_⟩
          rintro ⟨_, hpos⟩
          omega
    · rw [Merge.held_of_ne hc]
      refine iff_of_true ⟨by omega, fun hcc => hc hcc.1⟩ (Or.inl hc)
  · by_cases hc : p.commitmentA = p.commitmentB
    · have hsplit := low_add_high 64 p.amountB.val
      rw [Merge.held_of_eq hc, hs, hbind hc]
      constructor
      · intro hle
        right
        omega
      · rintro (hne | h0 | hbig)
        · exact absurd hc hne
        · omega
        · omega
    · rw [Merge.held_of_ne hc]
      exact iff_of_true (by omega) (Or.inl hc)

theorem merge_counts_once_iff_recorded : ∃ sum : Field,
    commit Std.vectors 1000 13 = commit Std.vectors sum 13 ∧ sum.val = 600 + 400 ∧
    (recordedMerge.CountsOnce sum ↔ recordedMerge.commitmentA ≠ recordedMerge.commitmentB ∨
      (recordedMerge.amountA = 0 ∧ recordedMerge.amountB = 0)) ∧
    ((recordedMerge.commitmentA = recordedMerge.commitmentB →
        recordedMerge.amountA = recordedMerge.amountB) →
      (sum.val ≤ recordedMerge.held ↔ recordedMerge.commitmentA ≠ recordedMerge.commitmentB ∨
        low 64 recordedMerge.amountB.val = 0 ∨ 2^64 ≤ recordedMerge.amountB.val)) := by
  have hrun : recordedMerge.main Std.vectors = .ok (commit Std.vectors 1000 13,
      0x04f44f2dfc73d3757775a3d7d47fa2dbc756174749b797f225fa98dcf2f18847,
      0x0128ac89d32f0bd3cf802582d11b512adb251a2e231daf78ac0de3112a55a097) := rfl
  exact merge_counts_once_iff hrun

/-- the note of `600` merged with itself -/
def doubledMerge : Merge :=
  mergeOf (felt 0x22d65fc0a742e81765ede19037e57c52b9ae01921361194102045f2b54fac59a)
    (felt 0x22d65fc0a742e81765ede19037e57c52b9ae01921361194102045f2b54fac59a)
    (felt 600) (felt 7) (felt 600) (felt 7)

theorem merge_doubles :
    doubledMerge.main Std.vectors = .ok (commit Std.vectors 1200 13,
      0x04f44f2dfc73d3757775a3d7d47fa2dbc756174749b797f225fa98dcf2f18847,
      0x04f44f2dfc73d3757775a3d7d47fa2dbc756174749b797f225fa98dcf2f18847) ∧
    doubledMerge.held = 600 ∧ ¬ doubledMerge.CountsOnce 1200 := by
  refine ⟨rfl, rfl, ?_⟩
  rintro ⟨hle, _⟩
  exact absurd hle (by decide)

/-! ## the range of amounts -/

namespace Execution

/-- what a deposit brings in is below `2^63` -/
def DepositInRange : Execution → Prop
  | .deposit p => p.amount.val < 2^63
  | .merge _ => True
  | .transfer _ => True
  | .withdraw _ => True

/-- the sum that is committed to, or the amount that is paid, is below `2^63` -/
def SumsFit : Execution → Prop
  | .deposit p => p.oldAmount.val + p.amount.val < 2^63
  | .merge p => p.amountA.val + p.amountB.val < 2^63
  | .transfer p => p.amount.val < 2^63
  | .withdraw _ => True

theorem SumsFit.depositInRange {e : Execution} (h : e.SumsFit) : e.DepositInRange := by
  cases e with
  | deposit p => exact lt_of_le_of_lt (Nat.le_add_left _ _) h
  | merge p => trivial
  | transfer p => trivial
  | withdraw p => trivial

/-- one step: in-range notes in, in-range notes out, exactly when the sums fit -/
theorem produced_inRange_iff {e : Execution} {ns : List Note} (h : e.produced = .ok ns)
    (hin : ∀ q ∈ e.consumed, q.2.InRange) (hdep : e.DepositInRange) :
    (∀ n ∈ ns, n.InRange) ↔ e.SumsFit := by
  cases e with
  | deposit p =>
    obtain ⟨_, _, s, hs, rfl⟩ := produced_deposit.mp h
    have hold : p.oldAmount.val < 2^63 := hin _ List.mem_cons_self
    have hamt : p.amount.val < 2^63 := hdep
    rw [low_of_lt (lt_trans hold (by decide)), low_of_lt (lt_trans hamt (by decide))] at hs
    simp only [List.forall_mem_singleton, Note.InRange, Note.value, SumsFit, hs]
  | merge p =>
    obtain ⟨_, _, s, hs, rfl⟩ := produced_merge.mp h
    have ha : p.amountA.val < 2^63 := hin _ List.mem_cons_self
    have hb : p.amountB.val < 2^63 := hin _ (List.mem_cons_of_mem _ List.mem_cons_self)
    rw [low_of_lt (lt_trans ha (by decide)), low_of_lt (lt_trans hb (by decide))] at hs
    simp only [List.forall_mem_singleton, Note.InRange, Note.value, SumsFit, hs]
  | transfer p =>
    obtain ⟨hold, _, _, s, hs, rfl⟩ := produced_transfer.mp h
    have hrest : s.val < 2^63 := by omega
    rw [List.forall_mem_cons, List.forall_mem_singleton]
    exact and_iff_left hrest
  | withdraw p =>
    obtain ⟨hold, _, _, s, hs, rfl⟩ := produced_withdraw.mp h
    have hrest : s.val < 2^63 := by omega
    rw [List.forall_mem_singleton]
    exact iff_of_true hrest trivial

/-- the notes an accepted execution moves in the ledger -/
def Moves (std : Std) (e : Execution) (s : Spend Note) : Prop :=
  s.consumed = e.consumed.map Prod.snd ∧ e.Produces std s.produced

end Execution

/-- the note passes the range check of a circuit that consumes it, and some circuit does -/
def Note.Spendable (std : Std) (n : Note) : Prop :=
  assertInBits n.amount amountBits = .ok () ∧ Consumable std (n.commitment std)

theorem Note.InRange.spendable {std : Std} {n : Note} (h : n.InRange) : n.Spendable std := by
  have hw : n.word < 2^63 := h.word_eq ▸ h
  exact ⟨assertInBits_amountBits.mpr hw, consumable_iff.mpr ⟨n, hw, rfl⟩⟩

/-- **Amounts stay below `2^63` exactly as long as the sums fit**: for one accepted execution on
in-range notes this is an equivalence, and along a chain of executions whose sums all fit every
live note stays in range and spendable. -/
theorem amounts_stay_in_range (std : Std) :
    (∀ (e : Execution) (ns : List Note), e.Produces std ns →
      (∀ q ∈ e.consumed, q.2.InRange) → e.DepositInRange →
      ((∀ n ∈ ns, n.InRange) ↔ e.SumsFit)) ∧
    (∀ (live live' : List Note) (es : List Execution),
      Chain (Execution.Moves std) live es live' → (∀ n ∈ live, n.InRange) →
      (∀ e ∈ es, e.SumsFit) → ∀ n ∈ live', n.InRange ∧ n.Spendable std) := by
  refine ⟨fun e ns h hin hdep => Execution.produced_inRange_iff h.2 hin hdep, ?_⟩
  intro live live' es hchain hlive hfit n hn
  have hrange : n.InRange := by
    refine hchain.forall_live (fun e he s hmove hcons => ?_) hlive n hn
    obtain ⟨hc, hprod⟩ := hmove
    have hin : ∀ q ∈ e.consumed, q.2.InRange := by
      intro q hq
      exact hcons q.2 (hc ▸ List.mem_map_of_mem hq)
    have hsums := hfit e he
    exact (Execution.produced_inRange_iff hprod.2 hin hsums.depositInRange).mpr hsums
  exact ⟨hrange, hrange.spendable⟩

/-- two notes of `2^62` and their merge -/
def wideMerge : Merge :=
  mergeOf (commit Std.vectors (felt (2^62)) (felt 7))
    (commit Std.vectors (felt (2^62)) (felt 11)) (felt (2^62)) (felt 7) (felt (2^62)) (felt 11)

/-- two in-range notes are merged into one that no range check lets through -/
theorem merge_leaves_range :
    Chain (Execution.Moves Std.vectors) [⟨2^62, 7⟩, ⟨2^62, 11⟩] [.merge wideMerge]
      [⟨2^63, 13⟩] ∧
    (∀ n ∈ ([⟨2^62, 7⟩, ⟨2^62, 11⟩] : List Note), n.InRange) ∧
    assertInBits (2^63) amountBits = .error "value exceeds the allowed range" := by
  refine ⟨?_, by unfold Note.InRange; decide, rfl⟩
  refine Chain.cons (s := ⟨[⟨2^62, 7⟩, ⟨2^62, 11⟩], [⟨2^63, 13⟩]⟩) ⟨rfl, rfl, rfl⟩ ?_ ?_
  · exact List.Subset.refl _
  · exact Chain.nil _

end Crucible
