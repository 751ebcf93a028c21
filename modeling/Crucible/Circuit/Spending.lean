import Crucible.Circuit.Execution

/-!
# Who can spend a commitment, for which token, and how often

A commitment is a hash of an amount and a blinding and of nothing else; owner and token enter
only the address check and the nullifier.  So of two accepted executions that consume one
commitment:

* `owner_unique_iff`           the owners are equal exactly when the secrets are, and no
                               commitment that can be opened is tied to one owner;
* `nullifier_unique_iff`       the nullifiers are equal exactly when the same state root (or,
                               in two deposits, none) is folded in;
* `token_unique_iff`           every accepted execution is accepted for every other token, and no
                               commitment that can be opened is tied to one token.

The hashes are parameters.  No function on all field lists into the field is injective, so the
results assume of them only that the values at hand do not collide.
-/

namespace Crucible
open Checked

namespace Execution

theorem run_consumes {std : Std} {e : Execution} {E : Effect} {c : Field}
    (h : e.run std = .ok E) (hc : c ∈ E.spent.map Prod.fst) : e.Consumes std c := by
  obtain ⟨_, _, ns, _, rfl⟩ := run_ok.mp h
  refine ⟨⟨_, h⟩, ?_⟩
  rw [show (e.effect std ns).spent.map Prod.fst = e.consumed.map Prod.fst by
    simp [effect, Function.comp_def]] at hc
  exact hc

theorem run_owner {std : Std} {e : Execution} {E : Effect} (h : e.run std = .ok E) :
    E.owner = keyHash std e.secret := by
  obtain ⟨ho, _, ns, _, rfl⟩ := run_ok.mp h
  exact ho

/-- the nullifier that an accepted execution emits for `c` -/
theorem run_nullifier {std : Std} {e : Execution} {E : Effect} {c n : Field}
    (h : e.run std = .ok E) (hn : (c, n) ∈ E.spent) :
    n = std.pedersenHash (e.nullifierPreimage c) := by
  obtain ⟨_, _, ns, _, rfl⟩ := run_ok.mp h
  obtain ⟨q, _, hq⟩ := List.mem_map.mp hn
  obtain ⟨rfl, rfl⟩ := Prod.mk.inj hq
  rfl

/-- a withdrawal of nothing, with what the ledger sees of it -/
theorem withdrawNothing_run {std : Std} {n : Note} (h : n.word < 2^63) (secret token : Field) :
    ∃ E, (withdrawNothing std n secret token).run std = .ok E ∧
      n.commitment std ∈ E.spent.map Prod.fst ∧ E.owner = keyHash std secret ∧
      E.token = token := by
  have hcons : (withdrawNothing std n secret token).Consumes std (n.commitment std) :=
    withdrawNothing_consumes h secret token
  obtain ⟨⟨E, hE⟩, _⟩ := hcons
  obtain ⟨_, _, ns, _, rfl⟩ := run_ok.mp hE
  exact ⟨_, hE, by simp [effect, withdrawNothing, consumed], rfl, rfl⟩

end Execution

/-! ## the owner -/

/-- **The owner of a commitment is not in the commitment.**  If two secrets have two addresses,
then two accepted executions have one owner exactly when they have one secret, whatever they
consume, and the executions that consume `c` agree on the owner exactly when nobody can open
`c`. -/
theorem owner_unique_iff {std : Std} {s s' : Field} (hne : keyHash std s ≠ keyHash std s') :
    (∀ (e e' : Execution) (E E' : Effect), e.run std = .ok E → e'.run std = .ok E' →
      (keyHash std e.secret = keyHash std e'.secret → e.secret = e'.secret) →
      (E.owner = E'.owner ↔ e.secret = e'.secret)) ∧
    ∀ c, (∀ (e e' : Execution) (E E' : Effect), e.run std = .ok E → e'.run std = .ok E' →
        c ∈ E.spent.map Prod.fst → c ∈ E'.spent.map Prod.fst → E.owner = E'.owner) ↔
      ¬ Openable std c := by
  refine ⟨fun e e' E E' h h' hcoll => ?_, fun c => ⟨?_, ?_⟩⟩
  · rw [Execution.run_owner h, Execution.run_owner h']
    exact ⟨hcoll, fun hs => by rw [hs]⟩
  · rintro hall ⟨n, hn, rfl⟩
    obtain ⟨E, hE, hc, ho, _⟩ := Execution.withdrawNothing_run hn s 0
    obtain ⟨E', hE', hc', ho', _⟩ := Execution.withdrawNothing_run hn s' 0
    have howner := hall _ _ E E' hE hE' hc hc'
    rw [ho, ho'] at howner
    exact hne howner
  · intro hno e e' E E' h _ hc _
    exact absurd (consumable_iff.mp ⟨e, Execution.run_consumes h hc⟩) hno

theorem owner_unique_iff_recorded :
    (∀ (e e' : Execution) (E E' : Effect), e.run Std.vectors = .ok E →
      e'.run Std.vectors = .ok E' →
      (keyHash Std.vectors e.secret = keyHash Std.vectors e'.secret → e.secret = e'.secret) →
      (E.owner = E'.owner ↔ e.secret = e'.secret)) ∧
    ∀ c, (∀ (e e' : Execution) (E E' : Effect), e.run Std.vectors = .ok E →
        e'.run Std.vectors = .ok E' → c ∈ E.spent.map Prod.fst → c ∈ E'.spent.map Prod.fst →
        E.owner = E'.owner) ↔ ¬ Openable Std.vectors c := by
  have hne : keyHash Std.vectors 0x1234 ≠ keyHash Std.vectors 0x5678 := by decide
  exact owner_unique_iff hne

/-- two accounts withdraw from the same commitment -/
theorem two_owners_spend : ∃ E E' : Effect,
    (withdrawBy 0x1234 0x06871944eb38ea75866d42609302692a55e12cf7620a50f2cf03381b9b382b72
      0x746f6b656e).run Std.vectors = .ok E ∧
    (withdrawBy 0x5678 0x1ce5e69979131d8a3a1e3aa8ce0e39ce0f0e17b3de32aed85907b1adfa7a8e22
      0x746f6b656e).run Std.vectors = .ok E' ∧
    E.spent.map Prod.fst = E'.spent.map Prod.fst ∧ E.spent ≠ [] ∧ E.owner ≠ E'.owner :=
  ⟨_, _, rfl, rfl, rfl, List.cons_ne_nil _ _, by decide⟩

/-! ## the nullifier -/

/-- **A nullifier is unique within its scope**: two accepted executions that consume `c` under
one secret and one token emit one nullifier when both fold in the same state root, or both are
deposits and fold in none, and otherwise only if the hash collides. -/
theorem nullifier_unique_iff {std : Std} {e e' : Execution} {E E' : Effect} {c n n' : Field}
    (h : e.run std = .ok E) (h' : e'.run std = .ok E') (hn : (c, n) ∈ E.spent)
    (hn' : (c, n') ∈ E'.spent) (hsecret : e.secret = e'.secret) (htoken : e.token = e'.token) :
    (e.roots = e'.roots → n = n') ∧
    ((std.pedersenHash (e.nullifierPreimage c) = std.pedersenHash (e'.nullifierPreimage c) →
        e.nullifierPreimage c = e'.nullifierPreimage c) →
      n = n' → e.roots = e'.roots) := by
  rw [Execution.run_nullifier h hn, Execution.run_nullifier h' hn']
  unfold Execution.nullifierPreimage
  rw [hsecret, htoken]
  constructor
  · intro hroots
    rw [hroots]
  · intro hcoll heq
    exact (List.cons_inj_right _).mp ((List.cons_inj_right _).mp
      ((List.cons_inj_right _).mp (hcoll heq)))

theorem nullifier_unique_iff_recorded :
    (recordedWithdraw.roots = (transferOf 300).roots →
      (0x15380738274c4c2de28a249de47def2269bd4d476cd63b570348e6410cc57d4a : Field) =
        0x15380738274c4c2de28a249de47def2269bd4d476cd63b570348e6410cc57d4a) ∧
    ((Std.vectors.pedersenHash (recordedWithdraw.nullifierPreimage
          0x076db33552d93aa30f635808d1ca29a8e03dd1f5f396bf2caf7df85a8038e2d0) =
        Std.vectors.pedersenHash ((transferOf 300).nullifierPreimage
          0x076db33552d93aa30f635808d1ca29a8e03dd1f5f396bf2caf7df85a8038e2d0) →
        recordedWithdraw.nullifierPreimage
            0x076db33552d93aa30f635808d1ca29a8e03dd1f5f396bf2caf7df85a8038e2d0 =
          (transferOf 300).nullifierPreimage
            0x076db33552d93aa30f635808d1ca29a8e03dd1f5f396bf2caf7df85a8038e2d0) →
      (0x15380738274c4c2de28a249de47def2269bd4d476cd63b570348e6410cc57d4a : Field) =
        0x15380738274c4c2de28a249de47def2269bd4d476cd63b570348e6410cc57d4a →
      recordedWithdraw.roots = (transferOf 300).roots) := by
  have hw : recordedWithdraw.run Std.vectors
      = .ok (recordedWithdraw.effect Std.vectors [⟨700, 8⟩]) := rfl
  have ht : (transferOf 300).run Std.vectors
      = .ok ((transferOf 300).effect Std.vectors [⟨300, 17⟩, ⟨700, 8⟩]) := rfl
  exact nullifier_unique_iff hw ht List.mem_cons_self List.mem_cons_self rfl rfl

/-- the recorded deposit and the recorded withdrawal consume one commitment under one secret and
one token, and emit two nullifiers for it -/
theorem deposit_withdraw_nullifiers_differ : ∃ (E E' : Effect) (n n' : Field),
    recordedDeposit.run Std.vectors = .ok E ∧ recordedWithdraw.run Std.vectors = .ok E' ∧
    recordedDeposit.secret = recordedWithdraw.secret ∧
    recordedDeposit.token = recordedWithdraw.token ∧
    (0x076db33552d93aa30f635808d1ca29a8e03dd1f5f396bf2caf7df85a8038e2d0, n) ∈ E.spent ∧
    (0x076db33552d93aa30f635808d1ca29a8e03dd1f5f396bf2caf7df85a8038e2d0, n') ∈ E'.spent ∧
    n ≠ n' :=
  ⟨_, _, 0x2c90bd0611da2c636e3c6c872866e363641a0ed7c3e063384311fa2add839740,
    0x15380738274c4c2de28a249de47def2269bd4d476cd63b570348e6410cc57d4a, rfl, rfl, rfl, rfl,
    List.mem_cons_self, List.mem_cons_self, by decide⟩

/-! ## the token -/

namespace Execution

/-- the same execution, for another token -/
def withToken (token : Field) : Execution → Execution
  | .deposit p => .deposit { p with tokenAddress := token }
  | .merge p => .merge { p with tokenAddress := token }
  | .transfer p => .transfer { p with tokenAddress := token }
  | .withdraw p => .withdraw { p with tokenAddress := token }

section
variable (t : Field) (e : Execution)

@[simp] theorem withToken_token : (e.withToken t).token = t := by cases e <;> rfl
@[simp] theorem withToken_owner : (e.withToken t).owner = e.owner := by cases e <;> rfl
@[simp] theorem withToken_secret : (e.withToken t).secret = e.secret := by cases e <;> rfl
@[simp] theorem withToken_consumed : (e.withToken t).consumed = e.consumed := by cases e <;> rfl
@[simp] theorem withToken_produced : (e.withToken t).produced = e.produced := by cases e <;> rfl

end

theorem withToken_run {std : Std} {e : Execution} {E : Effect} (h : e.run std = .ok E)
    (t : Field) :
    ∃ E', (e.withToken t).run std = .ok E' ∧ E'.token = t ∧ E'.owner = E.owner ∧
      E'.spent.map Prod.fst = E.spent.map Prod.fst ∧ E'.produced = E.produced := by
  obtain ⟨ho, hopen, ns, hns, rfl⟩ := run_ok.mp h
  refine ⟨(e.withToken t).effect std ns, run_ok.mpr ?_, ?_⟩
  · rw [withToken_owner, withToken_secret, withToken_consumed, withToken_produced]
    exact ⟨ho, hopen, ns, hns, rfl⟩
  · simp [effect, Function.comp_def]

end Execution

/-- **The token of a commitment is not in the commitment**: an accepted execution is accepted for
every other token, with the same commitments in and out; so the executions that consume `c` under
one secret agree on the token exactly when nobody can open `c`. -/
theorem token_unique_iff (std : Std) :
    (∀ (e : Execution) (E : Effect) (t : Field), e.run std = .ok E →
      ∃ E', (e.withToken t).run std = .ok E' ∧ E'.token = t ∧ E'.owner = E.owner ∧
        E'.spent.map Prod.fst = E.spent.map Prod.fst ∧ E'.produced = E.produced) ∧
    ∀ c secret, (∀ (e e' : Execution) (E E' : Effect), e.run std = .ok E → e'.run std = .ok E' →
        e.secret = secret → e'.secret = secret →
        c ∈ E.spent.map Prod.fst → c ∈ E'.spent.map Prod.fst → E.token = E'.token) ↔
      ¬ Openable std c := by
  refine ⟨fun e E t h => Execution.withToken_run h t, fun c secret => ⟨?_, ?_⟩⟩
  · rintro hall ⟨n, hn, rfl⟩
    obtain ⟨E, hE, hc, _, ht⟩ := Execution.withdrawNothing_run hn secret 0
    obtain ⟨E', hE', hc', _, ht'⟩ := Execution.withdrawNothing_run hn secret 1
    have htoken := hall _ _ E E' hE hE' rfl rfl hc hc'
    rw [ht, ht'] at htoken
    exact absurd htoken (by decide)
  · intro hno e e' E E' h _ _ _ hc _
    exact absurd (consumable_iff.mp ⟨e, Execution.run_consumes h hc⟩) hno

/-- one account withdraws from the same commitment for two tokens -/
theorem two_tokens_spend : ∃ E E' : Effect,
    recordedWithdraw.run Std.vectors = .ok E ∧
    (recordedWithdraw.withToken 0xaaa).run Std.vectors = .ok E' ∧
    (recordedWithdraw.withToken 0xaaa).secret = recordedWithdraw.secret ∧
    E.spent.map Prod.fst = E'.spent.map Prod.fst ∧ E.spent ≠ [] ∧ E.token ≠ E'.token :=
  ⟨_, _, rfl, rfl, rfl, rfl, List.cons_ne_nil _ _, by decide⟩

end Crucible
