import Mathlib.Data.List.Forall2
import Mathlib.Logic.Function.Basic

/-!
# Checked evaluation: a value, or the reason the first failed check gave

A checked computation is an `Except ε α`: it stops at the first check that fails.  The lemmas
here read a successful run backwards, one bind or one check at a time, so that the
specification of a program in `do` notation is the conjunction of what its checks say.

* `ensure p e`          the check: succeeds exactly when `p` holds (`ensure_ok`, `ensure_pos`,
                        `ensure_neg`);
* `ensureAll p e`       the same check of every element of a list, in order (`forM_ok` where the
                        check is a computation of its own);
* `bind_ok`, `map_ok`   a sequence succeeds exactly when its parts do;
* `mapError_ok`         renaming the errors changes no success;
* `bind_error`, `ensure_error`   the same for a run that fails;
* `Fails P x`           what every failure is like (`Fails.bind` and one lemma for each check);
* `mapM_ok`             a list is computed element by element (`mapM_of_forall₂`); what is related
                        to it has a partner for each element (`exists_of_forall₂`);
* `foldlM_appends`      a list is collected entry by entry;
* `fromOption_ok`       an optional value that must be there;
* `Fault`               how a computation that can panic ends without a value;
* `factorsThrough_bind`   two runs: what sees its input only through a view, step by step.
-/

namespace Checked

universe u v
variable {ε ε' : Type v} {α β : Type u}

/-- fail with `e` unless `p` -/
def ensure (p : Prop) [Decidable p] (e : ε) : Except ε Unit :=
  if p then .ok () else .error e

@[simp] theorem ensure_ok {p : Prop} [Decidable p] {e : ε} {w : Unit} :
    ensure p e = .ok w ↔ p := by
  unfold ensure
  split <;> simp [*]

/-- a check that holds is passed, and the computation goes on -/
theorem ensure_pos {γ : Type} {p : Prop} [Decidable p] {e : ε} {f : Unit → Except ε γ} (h : p) :
    (ensure p e >>= f) = f () := by
  rw [ensure, if_pos h]
  rfl

/-- a check that does not hold is the end -/
theorem ensure_neg {γ : Type} {p : Prop} [Decidable p] {e : ε} {f : Unit → Except ε γ}
    (h : ¬ p) : (ensure p e >>= f) = .error e := by
  rw [ensure, if_neg h]
  rfl

/-- fail with `e a` at the first `a` that is not `p` -/
def ensureAll {γ : Type u} (p : γ → Prop) [DecidablePred p] (e : γ → ε) : List γ → Except ε Unit
  | [] => .ok ()
  | a :: as => if p a then ensureAll p e as else .error (e a)

@[simp] theorem ensureAll_ok {γ : Type u} {p : γ → Prop} [DecidablePred p] {e : γ → ε}
    {as : List γ} {w : Unit} : ensureAll p e as = .ok w ↔ ∀ a ∈ as, p a := by
  induction as with
  | nil => exact iff_of_true rfl (fun _ h => absurd h List.not_mem_nil)
  | cons a as ih =>
    rw [ensureAll, List.forall_mem_cons]
    by_cases ha : p a
    · rw [if_pos ha, ih]
      exact (and_iff_right ha).symm
    · rw [if_neg ha]
      exact iff_of_false (fun h => by cases h) (fun h => ha h.1)

@[simp] theorem pure_ok {a b : α} : (pure a : Except ε α) = .ok b ↔ a = b :=
  ⟨fun h => Except.ok.inj h, fun h => congrArg Except.ok h⟩

@[simp] theorem bind_ok {x : Except ε α} {f : α → Except ε β} {b : β} :
    (x >>= f) = .ok b ↔ ∃ a, x = .ok a ∧ f a = .ok b := by
  cases x with
  | error e =>
    constructor
    · intro h; cases h
    · rintro ⟨a, h, _⟩; cases h
  | ok a =>
    constructor
    · intro h; exact ⟨a, rfl, h⟩
    · rintro ⟨a', h, h'⟩; cases h; exact h'

/-- a check of each element, in order -/
theorem forM_ok {γ : Type} {f : γ → Except ε Unit} {as : List γ} :
    as.forM f = .ok () ↔ ∀ a ∈ as, f a = .ok () := by
  induction as with
  | nil => exact iff_of_true rfl fun _ h => absurd h List.not_mem_nil
  | cons a as ih =>
    show (f a >>= fun _ => as.forM f) = .ok () ↔ _
    rw [List.forall_mem_cons, ← ih, bind_ok]
    exact ⟨fun ⟨_, ha, has⟩ => ⟨ha, has⟩, fun ⟨ha, has⟩ => ⟨(), ha, has⟩⟩

@[simp] theorem map_ok {x : Except ε α} {f : α → β} {b : β} :
    (f <$> x) = .ok b ↔ ∃ a, x = .ok a ∧ f a = b := by
  cases x with
  | error e =>
    constructor
    · intro h; cases h
    · rintro ⟨a, h, _⟩; cases h
  | ok a =>
    constructor
    · intro h; cases h; exact ⟨a, rfl, rfl⟩
    · rintro ⟨a', h, h'⟩; cases h; rw [← h']; rfl

@[simp] theorem mapError_ok {x : Except ε α} {g : ε → ε'} {a : α} :
    x.mapError g = .ok a ↔ x = .ok a := by
  cases x with
  | error e =>
    constructor
    · intro h; cases h
    · intro h; cases h
  | ok b => exact ⟨fun h => congrArg _ (Except.ok.inj h), fun h => congrArg _ (Except.ok.inj h)⟩

/-- the value, or the failure `e` if there is none -/
def fromOption (e : ε) : Option α → Except ε α
  | some a => .ok a
  | none => .error e

@[simp] theorem fromOption_ok {e : ε} {x : Option α} {a : α} :
    fromOption e x = .ok a ↔ x = some a := by
  cases x with
  | none => constructor <;> (intro h; cases h)
  | some b =>
    refine ⟨fun h => congrArg some (Except.ok.inj h), fun h => ?_⟩
    rw [Option.some.inj h]
    rfl

/-! ## failed runs -/

section
variable {x : Except ε α} {e : ε}

/-- a sequence fails where one of its parts does -/
theorem bind_error {f : α → Except ε β} :
    (x >>= f) = .error e ↔ x = .error e ∨ ∃ a, x = .ok a ∧ f a = .error e := by
  cases x with
  | error e' => simp [Bind.bind, Except.bind]
  | ok a => simp [Bind.bind, Except.bind]

theorem ensure_error {p : Prop} [Decidable p] {e' : ε} :
    ensure p e' = .error e ↔ ¬ p ∧ e' = e := by
  unfold ensure
  split <;> simp [*]

theorem mapError_error {g : ε → ε'} {e' : ε'} :
    x.mapError g = .error e' ↔ ∃ e, x = .error e ∧ g e = e' := by
  cases x <;> simp [Except.mapError]

theorem fromOption_error {o : Option α} {e' : ε} :
    fromOption e' o = .error e ↔ o = none ∧ e' = e := by
  cases o <;> simp [fromOption]

/-- every failure has the property -/
def Fails (P : ε → Prop) (x : Except ε α) : Prop := ∀ e, x = .error e → P e

section
variable {P : ε → Prop}

theorem fails_ok {a : α} : Fails P (.ok a : Except ε α) := fun _ h => by cases h

theorem fails_ensure {p : Prop} [Decidable p] (h : P e) : Fails P (ensure p e) := by
  intro e' he'
  obtain ⟨_, rfl⟩ := ensure_error.mp he'
  exact h

theorem fails_fromOption {o : Option α} (h : P e) : Fails P (fromOption e o) := by
  intro e' he'
  obtain ⟨_, rfl⟩ := fromOption_error.mp he'
  exact h

theorem fails_ensureAll {γ : Type u} {p : γ → Prop} [DecidablePred p] {f : γ → ε} {as : List γ}
    (h : ∀ a ∈ as, P (f a)) : Fails P (ensureAll p f as) := by
  induction as with
  | nil => exact fails_ok
  | cons a as ih =>
    obtain ⟨ha, has⟩ := List.forall_mem_cons.mp h
    unfold ensureAll
    split
    · exact ih has
    · exact fun e he => Except.error.inj he ▸ ha

theorem Fails.bind {f : α → Except ε β} (hx : Fails P x) (hf : ∀ a, Fails P (f a)) :
    Fails P (x >>= f) := by
  intro e he
  rcases bind_error.mp he with he | ⟨a, _, he⟩
  · exact hx e he
  · exact hf a e he

end

end

/-! ## lists -/

/-- a list is computed element by element -/
theorem mapM_ok {γ δ : Type} {f : γ → Except ε δ} {as : List γ} {bs : List δ}
    (h : as.mapM f = .ok bs) : List.Forall₂ (fun a b => f a = .ok b) as bs := by
  induction as generalizing bs with
  | nil =>
    obtain rfl := pure_ok.mp h
    exact .nil
  | cons a as ih =>
    rw [List.mapM_cons] at h
    obtain ⟨b, hb, h⟩ := bind_ok.mp h
    obtain ⟨bs', hbs, h⟩ := bind_ok.mp h
    obtain rfl := pure_ok.mp h
    exact .cons hb (ih hbs)

/-- and is computed when each element is -/
theorem mapM_of_forall₂ {γ δ : Type} {f : γ → Except ε δ} {as : List γ} {bs : List δ}
    (h : List.Forall₂ (fun a b => f a = .ok b) as bs) : as.mapM f = .ok bs := by
  induction h with
  | nil => rfl
  | cons hb _ ih =>
    rw [List.mapM_cons, hb, ih]
    rfl

section
variable {γ δ : Type} {R : γ → δ → Prop} {as : List γ} {bs : List δ}

/-- in two related lists, each element of the one has a partner in the other -/
theorem exists_of_forall₂ (h : List.Forall₂ R as bs) {a : γ} (ha : a ∈ as) : ∃ b ∈ bs, R a b := by
  induction h with
  | nil => exact absurd ha List.not_mem_nil
  | cons hab _ ih =>
    rcases List.mem_cons.mp ha with rfl | ha
    · exact ⟨_, List.mem_cons_self, hab⟩
    · obtain ⟨b, hb, hr⟩ := ih ha
      exact ⟨b, List.mem_cons_of_mem _ hb, hr⟩

/-- two lists that agree in what is seen of them -/
theorem map_eq_of_forall₂ {ι : Type} {f : γ → ι} {g : δ → ι}
    (h : List.Forall₂ (fun a b => g b = f a) as bs) : bs.map g = as.map f := by
  induction h with
  | nil => rfl
  | cons hab _ ih => rw [List.map_cons, List.map_cons, hab, ih]

theorem forall₂_of_exists (h : ∀ a ∈ as, ∃ b, R a b) : ∃ bs, List.Forall₂ R as bs := by
  induction as with
  | nil => exact ⟨[], .nil⟩
  | cons a as ih =>
    obtain ⟨b, hb⟩ := h a List.mem_cons_self
    obtain ⟨bs, hbs⟩ := ih fun a ha => h a (List.mem_cons_of_mem _ ha)
    exact ⟨b :: bs, .cons hb hbs⟩

end

/-- a fold in which each step appends one entry -/
theorem foldlM_appends {σ γ δ : Type} {f : σ → γ → Except ε σ} {R : γ → δ → Prop}
    (entries : σ → List δ) (I : σ → List γ → Prop)
    (hstep : ∀ s a as s', I s (a :: as) → f s a = .ok s' →
      I s' as ∧ ∃ d, R a d ∧ entries s' = entries s ++ [d])
    {as : List γ} {s s' : σ} (hI : I s as) (h : as.foldlM f s = .ok s') :
    I s' [] ∧ ∃ added, entries s' = entries s ++ added ∧ List.Forall₂ R as added := by
  induction as generalizing s with
  | nil =>
    obtain rfl := pure_ok.mp h
    exact ⟨hI, [], (List.append_nil _).symm, .nil⟩
  | cons a as ih =>
    rw [List.foldlM_cons] at h
    obtain ⟨next, hnext, hrest⟩ := bind_ok.mp h
    obtain ⟨hI', d, hd, hentries⟩ := hstep s a as next hI hnext
    obtain ⟨hend, added, hadded, hall⟩ := ih hI' hrest
    refine ⟨hend, d :: added, ?_, .cons hd hall⟩
    rw [hadded, hentries, List.append_assoc, List.singleton_append]

/-- an error the computation returns, or a panic -/
inductive Fault (ε : Type v) where
  | error (e : ε)
  | panic
deriving DecidableEq

def Fault.map (f : ε → ε') : Fault ε → Fault ε'
  | .error e => .error (f e)
  | .panic => .panic

/-! ## two runs -/

section
variable {ρ σ : Type} {view : ρ → σ} {ε α β : Type}

theorem factorsThrough_const {a : α} : Function.FactorsThrough (fun _ : ρ => a) view :=
  fun _ _ _ => rfl

/-- a sequence sees its input through the view when its steps do -/
theorem factorsThrough_bind {x : ρ → Except ε α} {f : ρ → α → Except ε β}
    (hx : x.FactorsThrough view) (hf : ∀ a, Function.FactorsThrough (fun r => f r a) view) :
    Function.FactorsThrough (fun r => x r >>= f r) view := by
  intro r r' hview
  show (x r >>= f r) = (x r' >>= f r')
  rw [hx hview]
  cases x r' with
  | error e => rfl
  | ok a => exact hf a hview

end

end Checked
