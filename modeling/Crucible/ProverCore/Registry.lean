import Crucible.Lib.OrderedMap
import Crucible.ProverCore.Service

/-!
# The provider registry over its history (`crates/prover-core/src/backend.rs`)

* `ProviderRegistry.history`   the registry after any registrations;
* `provider_register`, `count_backends_register`   what one registration changes;
* `provider_history`           so the lookup is that of a map of calls, the last of which counts;
* `Recorded`, `provideRecorded`   `provide`, with every call of `generate` on record;
* `registry_last_writer`       what a registry holds, finds and calls, after any registrations.
-/

namespace Crucible
open Checked

namespace ProviderRegistry

/-- `register`, provider by provider -/
def history (ps : List Provider) : ProviderRegistry := ps.foldl register new

def backends (registry : ProviderRegistry) : List BackendId :=
  registry.providers.map Provider.backend

/-! ## one registration -/

section
variable (registry : ProviderRegistry) (p : Provider)

/-- one backend gets the new provider, and no other is touched -/
theorem provider_register :
    (registry.register p).provider = Function.update registry.provider p.backend (some p) := by
  funext b
  unfold provider register
  rw [List.find?_append, List.find?_filter]
  by_cases hb : b = p.backend
  · have hnone : registry.providers.find? (fun q => decide (decide (q.backend ≠ p.backend) = true ∧
        decide (q.backend = b) = true)) = none := by
      rw [List.find?_eq_none]
      intro q _
      simp [hb]
    rw [hnone, hb, Function.update_self, List.find?_cons_of_pos (by simp)]
    rfl
  · have hkept : ∀ q : Provider, decide (decide (q.backend ≠ p.backend) = true ∧
        decide (q.backend = b) = true) = decide (q.backend = b) := by
      intro q
      by_cases hq : q.backend = b
      · simp [hq, hb]
      · simp [hq]
    rw [funext hkept, Function.update_of_ne hb, List.find?_cons_of_neg (by simpa using Ne.symm hb)]
    exact Option.or_none

theorem count_backends_register (b : BackendId) : (registry.register p).backends.count b
    = if b = p.backend then 1 else registry.backends.count b := by
  have hsplit : (registry.register p).backends
      = registry.backends.filter (fun q => decide (q ≠ p.backend)) ++ [p.backend] := by
    unfold register backends
    rw [List.map_append, List.filter_map]
    rfl
  rw [hsplit, List.count_append]
  by_cases hb : b = p.backend
  · have hnone : (registry.backends.filter fun q => decide (q ≠ p.backend)).count b = 0 := by
      rw [List.count_eq_zero, List.mem_filter]
      simp [hb]
    rw [if_pos hb, hnone, hb, List.count_singleton_self]
  · rw [if_neg hb, List.count_filter (by simpa using hb), List.count_singleton,
      if_neg (by simpa using Ne.symm hb), Nat.add_zero]

end

/-! ## any registrations -/

theorem history_append (ps : List Provider) (p : Provider) :
    history (ps ++ [p]) = (history ps).register p := by
  unfold history
  rw [List.foldl_append, List.foldl_cons, List.foldl_nil]

/-- a registry is looked up as the map that its registrations make -/
theorem provider_history (ps : List Provider) : (history ps).provider
    = (OrderedMap.ofCalls (ps.map fun p => (p.backend, p))).value := by
  induction ps using List.reverseRecOn with
  | nil => rfl
  | append_singleton ps p ih =>
    rw [history_append, provider_register, ih, List.map_append, List.map_singleton,
      OrderedMap.ofCalls_append]
    rfl

theorem provider_history_eq_getLast? (ps : List Provider) (b : BackendId) :
    (history ps).provider b = (ps.filter fun p => p.backend = b).getLast? := by
  rw [provider_history, OrderedMap.value_ofCalls, List.filter_map, List.getLast?_map,
    Option.map_map]
  exact congrFun Option.map_id _

theorem count_backends_history (ps : List Provider) (b : BackendId) :
    (history ps).backends.count b = if b ∈ ps.map Provider.backend then 1 else 0 := by
  induction ps using List.reverseRecOn with
  | nil => rfl
  | append_singleton ps p ih =>
    rw [history_append, count_backends_register, ih, List.map_append, List.map_singleton]
    by_cases hb : b = p.backend
    · rw [if_pos hb, if_pos (List.mem_append_right _ (List.mem_singleton.mpr hb))]
    · have hmem : b ∈ ps.map Provider.backend ++ [p.backend] ↔ b ∈ ps.map Provider.backend := by
        rw [List.mem_append, List.mem_singleton]
        exact or_iff_left hb
      rw [if_neg hb]
      exact if_congr hmem.symm rfl rfl

/-! ## calls on record -/

/-- a run that keeps a record of the calls of `generate` -/
abbrev Recorded := ExceptT (Fault CoreError) (StateM (List (Provider × ProofRequest)))

/-- `generate`, on record -/
def callGenerate (p : Provider) (r : ProofRequest) : Recorded ProofResponse := do
  modify fun calls => calls ++ [(p, r)]
  ofExcept ((p.generate r).mapError (.map .ofProvider))

/-- `provide`, call by call -/
def provideRecorded (registry : ProviderRegistry) (r : ProofRequest) : Recorded ProofResponse := do
  let provider ← ofExcept ((registry.select r).mapError Fault.error)
  callGenerate provider r

/-- the provider of the backend is selected, if it supports the circuit -/
theorem select_toOption (registry : ProviderRegistry) (r : ProofRequest) :
    (registry.select r).toOption = (registry.provider r.backend).filter fun p =>
      p.supports r.circuit r.circuitVersion := by
  unfold select
  cases registry.provider r.backend with
  | none => rfl
  | some p =>
    show (ensure (p.supports r.circuit r.circuitVersion = true) _ >>= fun _ => _).toOption
      = if p.supports r.circuit r.circuitVersion then some p else none
    by_cases hsupports : p.supports r.circuit r.circuitVersion
    · rw [ensure_pos hsupports, if_pos hsupports]
      rfl
    · rw [ensure_neg hsupports, if_neg hsupports]
      rfl

/-- the answer is that of `provide`; what is selected is called -/
theorem provideRecorded_run (registry : ProviderRegistry) (r : ProofRequest) :
    (registry.provideRecorded r).run.run [] =
      (registry.provide r, (registry.select r).toOption.toList.map fun p => (p, r)) := by
  unfold provideRecorded provide
  cases registry.select r with
  | error e => rfl
  | ok p =>
    show ((callGenerate p r).run.run [] : Except (Fault CoreError) ProofResponse × _)
      = ((p.generate r).mapError _, [(p, r)])
    unfold callGenerate
    cases p.generate r with
    | error e => rfl
    | ok response => rfl

/-! ## last writers -/

/-- the registry that some registrations leave -/
structure LastWriter (ps : List Provider) : Prop where
  /-- one provider for each backend that was registered -/
  one : ∀ b, (history ps).backends.count b = if b ∈ ps.map Provider.backend then 1 else 0
  last : ∀ b, (history ps).provider b = (ps.filter fun p => p.backend = b).getLast?
  other : ∀ p b, b ≠ p.backend → ((history ps).register p).provider b = (history ps).provider b
  /-- the last provider for the backend is called, once, or none -/
  calls : ∀ r : ProofRequest, (((history ps).provideRecorded r).run.run []).2 =
    ((ps.filter fun p => p.backend = r.backend).getLast?.filter fun p =>
      p.supports r.circuit r.circuitVersion).toList.map fun p => (p, r)
  answer : ∀ r, (((history ps).provideRecorded r).run.run []).1 = (history ps).provide r

end ProviderRegistry

open ProviderRegistry in
/-- **The registry is a last-writer map**: after any registrations it holds one provider for each
backend that was registered, the last one for it, which is what it finds and calls. -/
theorem registry_last_writer (ps : List Provider) : LastWriter ps := by
  refine ⟨count_backends_history ps, provider_history_eq_getLast? ps, fun p b hb => ?_,
    fun r => ?_, fun r => ?_⟩
  · rw [provider_register, Function.update_of_ne hb]
  · rw [provideRecorded_run, select_toOption, provider_history_eq_getLast?]
  · rw [provideRecorded_run]

end Crucible
