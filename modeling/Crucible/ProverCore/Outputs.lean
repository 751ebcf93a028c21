import Mathlib.Data.List.Nodup
import Crucible.Interfaces.Histories

/-!
# Expected and produced outputs (`crates/prover-core/src/public_inputs.rs`)

* `compareOutputs`         the two scans, name by name;
* `mem_differing`, `mem_missing`, `mem_unexpected`   what they collect;
* `compareOutputs_isEmpty`   nothing, where the values agree under every name;
* `Bag.perm_iff`           bags of distinct names have the same entries, in whatever order, when
                           they have the same values;
* `compares_exactly_iff`   where nothing to report means equal bags.
-/

namespace Crucible

/-! ## the scans -/

structure OutputMismatch where
  differing : List String
  missingFromProduced : List String
  unexpected : List String
deriving DecidableEq

def OutputMismatch.isEmpty (m : OutputMismatch) : Bool :=
  m.differing.isEmpty && m.missingFromProduced.isEmpty && m.unexpected.isEmpty

/-- a name of the expected bag -/
def scanExpected (expected produced : PublicInputBag) (m : OutputMismatch) (name : String) :
    OutputMismatch :=
  match expected.get name, produced.get name with
  | some a, some b => if a ≠ b then { m with differing := m.differing ++ [name] } else m
  | some _, none => { m with missingFromProduced := m.missingFromProduced ++ [name] }
  | none, _ => m

/-- a name of the produced bag -/
def scanProduced (expected : PublicInputBag) (m : OutputMismatch) (name : String) :
    OutputMismatch :=
  if (expected.get name).isNone then { m with unexpected := m.unexpected ++ [name] } else m

def compareOutputs (expected : PublicInputBag) (produced : OutputBag) : OutputMismatch :=
  let scanned := expected.names.foldl (scanExpected expected produced) ⟨[], [], []⟩
  produced.names.foldl (scanProduced expected) scanned

def outputsMatch (expected : PublicInputBag) (produced : OutputBag) : Bool :=
  (compareOutputs expected produced).isEmpty

/-! ## what they collect -/

/-- both bags have the name, with two values -/
def Differs (expected produced : PublicInputBag) (name : String) : Prop :=
  ∃ a b, expected.get name = some a ∧ produced.get name = some b ∧ a ≠ b

/-- only the first bag has the name -/
def OnlyIn (bag other : PublicInputBag) (name : String) : Prop :=
  (bag.get name).isSome ∧ other.get name = none

section
variable (expected produced : PublicInputBag) (names : List String) (m : OutputMismatch)
  (name n : String)

/-- a name is reported where it belongs, and nowhere else -/
theorem mem_scanExpected :
    (n ∈ (scanExpected expected produced m name).differing ↔
      n ∈ m.differing ∨ n = name ∧ Differs expected produced name) ∧
    (n ∈ (scanExpected expected produced m name).missingFromProduced ↔
      n ∈ m.missingFromProduced ∨ n = name ∧ OnlyIn expected produced name) ∧
    (scanExpected expected produced m name).unexpected = m.unexpected := by
  unfold scanExpected Differs OnlyIn
  cases expected.get name with
  | none => simp
  | some a =>
    cases produced.get name with
    | none => simp
    | some b =>
      by_cases hab : a = b
      · simp [hab]
      · simp [hab]

theorem mem_scanProduced :
    (n ∈ (scanProduced expected m name).unexpected ↔
      n ∈ m.unexpected ∨ n = name ∧ expected.get name = none) ∧
    (scanProduced expected m name).differing = m.differing ∧
    (scanProduced expected m name).missingFromProduced = m.missingFromProduced := by
  unfold scanProduced
  cases expected.get name with
  | none => simp
  | some a => simp

/-- one more name in a scan -/
theorem mem_cons_scan {P : String → Prop} {q : Prop} :
    (q ∨ n = name ∧ P name) ∨ n ∈ names ∧ P n ↔ q ∨ n ∈ name :: names ∧ P n := by
  rw [List.mem_cons, or_and_right, or_assoc]
  refine or_congr_right (or_congr_left (and_congr_right fun heq => ?_))
  rw [heq]

theorem foldl_scanExpected :
    (n ∈ (names.foldl (scanExpected expected produced) m).differing ↔
      n ∈ m.differing ∨ n ∈ names ∧ Differs expected produced n) ∧
    (n ∈ (names.foldl (scanExpected expected produced) m).missingFromProduced ↔
      n ∈ m.missingFromProduced ∨ n ∈ names ∧ OnlyIn expected produced n) ∧
    (names.foldl (scanExpected expected produced) m).unexpected = m.unexpected := by
  induction names generalizing m with
  | nil => simp
  | cons name names ih =>
    obtain ⟨hdiffering, hmissing, hunexpected⟩ := ih (scanExpected expected produced m name)
    obtain ⟨hstep, hstep', hstep''⟩ := mem_scanExpected expected produced m name n
    rw [List.foldl_cons, hdiffering, hmissing, hunexpected, hstep, hstep', hstep'']
    exact ⟨mem_cons_scan names name n, mem_cons_scan names name n, rfl⟩

theorem foldl_scanProduced :
    (n ∈ (names.foldl (scanProduced expected) m).unexpected ↔
      n ∈ m.unexpected ∨ n ∈ names ∧ expected.get n = none) ∧
    (names.foldl (scanProduced expected) m).differing = m.differing ∧
    (names.foldl (scanProduced expected) m).missingFromProduced = m.missingFromProduced := by
  induction names generalizing m with
  | nil => simp
  | cons name names ih =>
    obtain ⟨hunexpected, hdiffering, hmissing⟩ := ih (scanProduced expected m name)
    obtain ⟨hstep, hstep', hstep''⟩ := mem_scanProduced expected m name n
    rw [List.foldl_cons, hdiffering, hmissing, hunexpected, hstep, hstep', hstep'']
    exact ⟨mem_cons_scan (P := fun n => expected.get n = none) names name n, rfl, rfl⟩

end

section
variable {expected produced : PublicInputBag} {name : String}

theorem mem_differing : name ∈ (compareOutputs expected produced).differing ↔
    Differs expected produced name := by
  unfold compareOutputs
  rw [(foldl_scanProduced _ _ _ name).2.1, (foldl_scanExpected _ _ _ _ name).1]
  refine (or_iff_right List.not_mem_nil).trans (and_iff_right_of_imp fun h => ?_)
  obtain ⟨a, b, ha, _, _⟩ := h
  exact Bag.get_isSome_iff.mp (ha ▸ rfl)

theorem mem_missing : name ∈ (compareOutputs expected produced).missingFromProduced ↔
    OnlyIn expected produced name := by
  unfold compareOutputs
  rw [(foldl_scanProduced _ _ _ name).2.2, (foldl_scanExpected _ _ _ _ name).2.1]
  refine (or_iff_right List.not_mem_nil).trans (and_iff_right_of_imp fun h => ?_)
  exact Bag.get_isSome_iff.mp h.1

theorem mem_unexpected : name ∈ (compareOutputs expected produced).unexpected ↔
    OnlyIn produced expected name := by
  unfold compareOutputs OnlyIn
  rw [(foldl_scanProduced _ _ _ name).1, (foldl_scanExpected _ _ _ _ name).2.2,
    Bag.get_isSome_iff]
  exact or_iff_right List.not_mem_nil

/-- nothing is reported where the values agree under every name -/
theorem compareOutputs_isEmpty (expected produced : PublicInputBag) :
    (compareOutputs expected produced).isEmpty ↔
      ∀ name, expected.get name = produced.get name := by
  have hnil : (compareOutputs expected produced).isEmpty ↔ ∀ name,
      ¬ Differs expected produced name ∧ ¬ OnlyIn expected produced name ∧
        ¬ OnlyIn produced expected name := by
    unfold OutputMismatch.isEmpty
    rw [Bool.and_eq_true, Bool.and_eq_true, List.isEmpty_iff, List.isEmpty_iff, List.isEmpty_iff,
      List.eq_nil_iff_forall_not_mem, List.eq_nil_iff_forall_not_mem,
      List.eq_nil_iff_forall_not_mem]
    simp only [mem_differing, mem_missing, mem_unexpected, forall_and, and_assoc]
  rw [hnil]
  refine forall_congr' fun name => ?_
  unfold Differs OnlyIn
  cases expected.get name with
  | none =>
    cases produced.get name with
    | none => simp
    | some b => simp
  | some a =>
    cases produced.get name with
    | none => simp
    | some b => simp

end

/-! ## bags up to their order -/

section
variable {α : Type} {b b' : Bag α}

theorem Bag.mem_entries_iff (hb : b.names.Nodup) {name : String} {value : α} :
    (name, value) ∈ b.entries ↔ b.get name = some value :=
  ⟨fun h => get_of_mem hb h, mem_of_get⟩

/-- bags of distinct names have the same entries when they have the same values -/
theorem Bag.perm_iff (hb : b.names.Nodup) (hb' : b'.names.Nodup) :
    b.entries.Perm b'.entries ↔ ∀ name, b.get name = b'.get name := by
  rw [List.perm_ext_iff_of_nodup (List.Nodup.of_map _ hb) (List.Nodup.of_map _ hb')]
  constructor
  · intro h name
    refine Option.ext fun value => ?_
    rw [← mem_entries_iff hb, ← mem_entries_iff hb']
    exact h (name, value)
  · intro h e
    have hname := h e.1
    show (e.1, e.2) ∈ b.entries ↔ (e.1, e.2) ∈ b'.entries
    rw [mem_entries_iff hb, mem_entries_iff hb', hname]

end

/-! ## equality -/

/-- nothing is reported exactly for equal bags, and otherwise the lists are the differences -/
structure ComparesExactly (expected produced : PublicInputBag) : Prop where
  isEmpty : (compareOutputs expected produced).isEmpty ↔ expected = produced
  outputsMatch : outputsMatch expected produced ↔ expected = produced
  differing : ∀ name, name ∈ (compareOutputs expected produced).differing ↔
    ∃ a b, expected.get name = some a ∧ produced.get name = some b ∧ a ≠ b
  missing : ∀ name, name ∈ (compareOutputs expected produced).missingFromProduced ↔
    name ∈ expected.names ∧ name ∉ produced.names
  unexpected : ∀ name, name ∈ (compareOutputs expected produced).unexpected ↔
    name ∈ produced.names ∧ name ∉ expected.names

theorem onlyIn_iff {bag other : PublicInputBag} {name : String} :
    OnlyIn bag other name ↔ name ∈ bag.names ∧ name ∉ other.names := by
  unfold OnlyIn
  rw [Bag.get_isSome_iff, ← Bag.get_isSome_iff (b := other), Option.not_isSome_iff_eq_none]

/-- **Where nothing to report means equal bags**: where the entries of the two are not the same in
another order, which the scans do not see. -/
theorem compares_exactly_iff (ops ops' : List BagOp) :
    ComparesExactly (PublicInputBag.history ops) (PublicInputBag.history ops') ↔
      ((PublicInputBag.history ops).entries.Perm (PublicInputBag.history ops').entries →
        PublicInputBag.history ops = PublicInputBag.history ops') := by
  have hempty :=
    compareOutputs_isEmpty (PublicInputBag.history ops) (PublicInputBag.history ops')
  rw [← Bag.perm_iff (PublicInputBag.history_wellFormed ops).nodup
    (PublicInputBag.history_wellFormed ops').nodup] at hempty
  constructor
  · intro h hperm
    exact h.isEmpty.mp (hempty.mpr hperm)
  · intro h
    have hiff : (compareOutputs (PublicInputBag.history ops)
        (PublicInputBag.history ops')).isEmpty ↔
        PublicInputBag.history ops = PublicInputBag.history ops' := by
      rw [hempty]
      refine ⟨h, fun heq => ?_⟩
      rw [heq]
    exact ⟨hiff, hiff, fun _ => mem_differing, fun _ => mem_missing.trans onlyIn_iff,
      fun _ => mem_unexpected.trans onlyIn_iff⟩

/-- two entries, inserted in either order -/
theorem exchanged_outputs_match : ∃ ops ops' : List BagOp,
    (compareOutputs (PublicInputBag.history ops) (PublicInputBag.history ops')).isEmpty ∧
    outputsMatch (PublicInputBag.history ops) (PublicInputBag.history ops') ∧
    PublicInputBag.history ops ≠ PublicInputBag.history ops' :=
  ⟨[.insert "sender" .zero, .insert "amount" .zero],
    [.insert "amount" .zero, .insert "sender" .zero], by decide, by decide, by decide⟩

end Crucible
