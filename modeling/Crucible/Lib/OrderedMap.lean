import Mathlib.Logic.Function.Basic
import Mathlib.Data.List.Induction
import Mathlib.Data.List.Infix

/-!
# Insertion-ordered maps, and calls that may fail

* `OrderedMap.put`         a key takes a value; a new key comes last, and no other moves;
* `keys_ofCalls`, `value_ofCalls`   a map made by a list of calls: each key stands where it came
                           first, with the value that came last;
* `History.final`, `History.succeeded`   the state that a history of calls leaves, and those of its
                           calls that did not fail;
* `History.view_final`     calls that put one entry, or fail and change nothing, make the map of
                           those that succeeded.
-/

structure OrderedMap (κ α : Type) where
  keys : List κ
  value : κ → Option α

namespace OrderedMap
variable {κ α : Type} [DecidableEq κ]

def empty : OrderedMap κ α := ⟨[], fun _ => none⟩

def put (m : OrderedMap κ α) (c : κ × α) : OrderedMap κ α where
  keys := if c.1 ∈ m.keys then m.keys else m.keys ++ [c.1]
  value := Function.update m.value c.1 (some c.2)

/-- the map that a list of calls makes -/
def ofCalls (calls : List (κ × α)) : OrderedMap κ α := calls.foldl put empty

theorem ofCalls_append (calls : List (κ × α)) (c : κ × α) :
    ofCalls (calls ++ [c]) = (ofCalls calls).put c := by
  unfold ofCalls
  rw [List.foldl_append, List.foldl_cons, List.foldl_nil]

/-- no key moves -/
theorem keys_prefix_put (m : OrderedMap κ α) (c : κ × α) : m.keys <+: (m.put c).keys := by
  unfold put
  by_cases h : c.1 ∈ m.keys
  · rw [if_pos h]
  · rw [if_neg h]
    exact List.prefix_append _ _

/-- each key stands where it came first -/
theorem keys_ofCalls (calls : List (κ × α)) :
    (ofCalls calls).keys = (calls.map Prod.fst).eraseDups := by
  induction calls using List.reverseRecOn with
  | nil => rfl
  | append_singleton calls c ih =>
    rw [ofCalls_append, List.map_append, List.map_singleton, List.eraseDups_append, ← ih]
    show (if c.1 ∈ (ofCalls calls).keys then _ else _) = _
    have hmem : c.1 ∈ (ofCalls calls).keys ↔ c.1 ∈ calls.map Prod.fst := by
      rw [ih, List.mem_eraseDups]
    by_cases h : c.1 ∈ calls.map Prod.fst
    · have hold : [c.1].removeAll (calls.map Prod.fst) = [] := by simp [List.removeAll, h]
      rw [if_pos (hmem.mpr h), hold, List.eraseDups_nil, List.append_nil]
    · have hnew : [c.1].removeAll (calls.map Prod.fst) = [c.1] := by simp [List.removeAll, h]
      rw [if_neg fun hin => h (hmem.mp hin), hnew]
      rfl

/-- and has the value that came last -/
theorem value_ofCalls (calls : List (κ × α)) (key : κ) :
    (ofCalls calls).value key = ((calls.filter (·.1 = key)).getLast?).map Prod.snd := by
  induction calls using List.reverseRecOn with
  | nil => rfl
  | append_singleton calls c ih =>
    rw [ofCalls_append, List.filter_append]
    show Function.update (ofCalls calls).value c.1 (some c.2) key = _
    by_cases h : c.1 = key
    · subst h
      simp
    · rw [Function.update_of_ne (Ne.symm h), ih]
      simp [h]

end OrderedMap

/-! ## histories of calls -/

namespace History
variable {σ ι ε : Type} (exec : ι → σ → Except ε Unit × σ)

/-- the state that a history leaves -/
def final (s : σ) (calls : List ι) : σ := calls.foldl (fun s call => (exec call s).2) s

/-- the calls of a history that did not fail -/
def succeeded : σ → List ι → List ι
  | _, [] => []
  | s, call :: calls =>
    match exec call s with
    | (.ok _, s') => call :: succeeded s' calls
    | (.error _, s') => succeeded s' calls

/-- what every call keeps, a history keeps -/
theorem final_invariant {I : σ → Prop} (hstep : ∀ s call, I s → I (exec call s).2) {s : σ}
    (hI : I s) (calls : List ι) : I (final exec s calls) := by
  induction calls generalizing s with
  | nil => exact hI
  | cons call calls ih => exact ih (hstep s call hI)

variable {κ α : Type} [DecidableEq κ] (view : σ → OrderedMap κ α) (entry : ι → κ × α)

/-- a call puts its entry, or fails and changes nothing -/
def Puts (call : ι) : Prop :=
  ∀ s, match exec call s with
    | (.ok _, s') => view s' = (view s).put (entry call)
    | (.error _, s') => s' = s

variable {exec view entry}

/-- a history of such calls makes the map of those that succeeded -/
theorem view_final (hputs : ∀ call, Puts exec view entry call) (s : σ) (calls : List ι) :
    view (final exec s calls)
      = ((succeeded exec s calls).map entry).foldl OrderedMap.put (view s) := by
  induction calls generalizing s with
  | nil => rfl
  | cons call calls ih =>
    have hcall := hputs call s
    show view (final exec (exec call s).2 calls) = _
    rw [ih, succeeded]
    cases hrun : exec call s with
    | mk outcome s' =>
      rw [hrun] at hcall
      cases outcome with
      | error e =>
        obtain rfl : s' = s := hcall
        rfl
      | ok w =>
        have hview : view s' = (view s).put (entry call) := hcall
        show List.foldl _ (view s') _ = _
        rw [hview]
        rfl

end History
