import Crucible.Interfaces.Histories
import Crucible.Lib.OrderedMap

/-!
# Bags that are called (`interfaces/src/circuit/inputs.rs`)

The methods work on the bag in place: a failure returns early, from whatever has been written by
then.  `Bag.insert` and `Bag.set` are what they come to.

* `Method.insert`, `Method.set`   the methods, statement by statement;
* `insert_call`, `set_call`       the bag is replaced, or it is as it was;
* `wellFormed_insert_call`, `wellFormed_set_call`   so it stays well formed;
* `Bag.view`                      a bag as an insertion-ordered map, in which each method is `put`;
* `bags_follow_histories`         public and private bags after any history of calls.
-/

namespace Crucible
open Checked Text

/-! ## the methods -/

/-- a method of `&mut self` that can fail -/
abbrev Method (α : Type) := ExceptT FieldError (StateM (Bag α))

namespace Method
variable {α : Type}

def insert (name : String) (value : α) : Method α Unit := do
  ofExcept (validateName name)
  let bag ← get
  if bag.entries.any fun e => e.1 == name then throw (.duplicateName name)
  modify fun b => ⟨b.entries ++ [(name, value)]⟩

/-- the first entry with the name is written to; if there is none, a new one comes last -/
def set (name : String) (value : α) : Method α Unit := do
  ofExcept (validateName name)
  let bag ← get
  if bag.entries.any fun e => e.1 == name then
    modify fun b => ⟨Bag.replaceFirst name value b.entries⟩
  else
    modify fun b => ⟨b.entries ++ [(name, value)]⟩

/-- the result of a method, and the bag it leaves -/
def call (m : Method α Unit) (b : Bag α) : Except FieldError Unit × Bag α := m.run.run b

/-- a check that fails ends the method -/
theorem call_check {check : Except FieldError Unit} {m : Method α Unit} {b : Bag α} :
    call (do ofExcept check; m) b = match check with
      | .ok _ => m.call b
      | .error e => (.error e, b) := by
  cases check with
  | error e => rfl
  | ok w => rfl

theorem call_get {f : Bag α → Method α Unit} {b : Bag α} :
    call (do let bag ← get; f bag) b = (f b).call b := rfl

end Method

/-- the new bag, or the error and the old bag -/
def Bag.replaced {α : Type} (b : Bag α) :
    Except FieldError (Bag α) → Except FieldError Unit × Bag α
  | .ok b' => (.ok (), b')
  | .error e => (.error e, b)

section
variable {α : Type} {b : Bag α} {name : String} {value : α}

theorem any_name_iff : (b.entries.any fun e => e.1 == name) ↔ name ∈ b.names := by
  simp [Bag.names]

theorem insert_call : (Method.insert name value).call b = b.replaced (b.insert name value) := by
  unfold Method.insert Bag.insert
  rw [Method.call_check]
  cases validateName name with
  | error e => rfl
  | ok w =>
    show (do let bag ← get; _ : Method α Unit).call b = _
    rw [Method.call_get]
    show _ = b.replaced (ensure (name ∉ b.names) _ >>= fun _ => _)
    by_cases h : name ∈ b.names
    · rw [if_pos (any_name_iff.mpr h), ensure_neg (not_not.mpr h)]
      rfl
    · rw [if_neg fun hany => h (any_name_iff.mp hany), ensure_pos h]
      rfl

theorem set_call : (Method.set name value).call b = b.replaced (b.set name value) := by
  unfold Method.set Bag.set
  rw [Method.call_check]
  cases validateName name with
  | error e => rfl
  | ok w =>
    show (do let bag ← get; _ : Method α Unit).call b = _
    rw [Method.call_get]
    show _ = b.replaced (if name ∈ b.names then _ else _)
    by_cases h : name ∈ b.names
    · rw [if_pos (any_name_iff.mpr h), if_pos h]
      rfl
    · rw [if_neg fun hany => h (any_name_iff.mp hany), if_neg h]
      rfl

theorem wellFormed_of_replaced {x : Except FieldError (Bag α)} (hb : b.WellFormed)
    (hx : ∀ b', x = .ok b' → b'.WellFormed) : (b.replaced x).2.WellFormed := by
  cases x with
  | error e => exact hb
  | ok b' => exact hx b' rfl

theorem wellFormed_insert_call (hb : b.WellFormed) :
    ((Method.insert name value).call b).2.WellFormed := by
  rw [insert_call]
  exact wellFormed_of_replaced hb fun _ => Bag.insert_wellFormed hb

theorem wellFormed_set_call (hb : b.WellFormed) :
    ((Method.set name value).call b).2.WellFormed := by
  rw [set_call]
  exact wellFormed_of_replaced hb fun _ => Bag.set_wellFormed hb

end

/-! ## bags as maps -/

/-- names in their order, and values by name -/
def Bag.view {α : Type} (b : Bag α) : OrderedMap String α := ⟨b.names, b.get⟩

section
variable {α : Type} {b b' : Bag α} {name : String} {value : α}

theorem Bag.get_append (h : name ∉ b.names) :
    get ⟨b.entries ++ [(name, value)]⟩ = Function.update b.get name (some value) := by
  funext n
  unfold get
  rw [List.find?_append, Option.map_or]
  by_cases hn : n = name
  · subst hn
    have hnone : (b.entries.find? fun e => e.1 == n).map Prod.snd = none := get_eq_none h
    rw [hnone, Function.update_self, List.find?_cons_of_pos (by simp)]
    rfl
  · rw [Function.update_of_ne hn, List.find?_cons_of_neg (by simpa using Ne.symm hn)]
    exact Option.or_none

theorem Bag.get_replaceFirst {es : List (String × α)} (h : name ∈ es.map Prod.fst) :
    get ⟨replaceFirst name value es⟩ = Function.update (get ⟨es⟩) name (some value) := by
  induction es with
  | nil => exact absurd h List.not_mem_nil
  | cons e es ih =>
    funext n
    unfold replaceFirst
    by_cases he : e.1 = name
    · subst he
      rw [if_pos (beq_self_eq_true e.1)]
      by_cases hn : n = e.1
      · subst hn
        rw [Function.update_self, get, List.find?_cons_of_pos (by simp)]
        rfl
      · rw [Function.update_of_ne hn, get, get, List.find?_cons_of_neg (by simpa using Ne.symm hn),
          List.find?_cons_of_neg (by simpa using Ne.symm hn)]
    · have hrest : name ∈ es.map Prod.fst :=
        (List.mem_cons.mp h).resolve_left fun heq => he heq.symm
      have hih : get ⟨replaceFirst name value es⟩ n
          = Function.update (get ⟨es⟩) name (some value) n := congrFun (ih hrest) n
      rw [if_neg (by simpa using he)]
      by_cases hn : n = e.1
      · subst hn
        rw [Function.update_of_ne he, get, get, List.find?_cons_of_pos (by simp),
          List.find?_cons_of_pos (by simp)]
      · have hskip (rest : List (String × α)) : get ⟨e :: rest⟩ n = get ⟨rest⟩ n := by
          rw [get, List.find?_cons_of_neg (by simpa using Ne.symm hn)]
          rfl
        rw [hskip, hih, Function.update_apply, Function.update_apply, hskip]

theorem Bag.view_append (h : name ∉ b.names) :
    view ⟨b.entries ++ [(name, value)]⟩ = b.view.put (name, value) := by
  have hnames : names ⟨b.entries ++ [(name, value)]⟩ = b.names ++ [name] := by simp [names]
  unfold view OrderedMap.put
  rw [hnames, get_append h, if_neg h]

theorem Bag.view_insert (h : b.insert name value = .ok b') :
    b'.view = b.view.put (name, value) := by
  obtain ⟨_, hnew, rfl⟩ := insert_ok.mp h
  exact view_append hnew

theorem Bag.view_set (h : b.set name value = .ok b') : b'.view = b.view.put (name, value) := by
  simp only [set, bind_ok] at h
  obtain ⟨_, _, h⟩ := h
  split at h
  · next hold =>
    obtain rfl := pure_ok.mp h
    have hnames : names ⟨replaceFirst name value b.entries⟩ = b.names := replaceFirst_names _ _ _
    unfold view OrderedMap.put
    rw [hnames, get_replaceFirst hold, if_pos hold]
  · next hnew =>
    obtain rfl := pure_ok.mp h
    exact view_append hnew

end

/-! ## histories -/

/-- `PublicInputBag::insert`, `PublicInputBag::set` -/
def PublicInputBag.exec : BagOp → PublicInputBag → Except FieldError Unit × PublicInputBag
  | .insert name value, bag => (Method.insert name value).call bag
  | .set name value, bag => (Method.set name value).call bag

/-- `PrivateWitnessBag::insert`, on the entries of the bag -/
def PrivateWitnessBag.exec (entry : String × SecretValue) (bag : Bag SecretValue) :
    Except FieldError Unit × Bag SecretValue :=
  (Method.insert entry.1 entry.2).call bag

/-- what a call puts -/
def BagOp.entry : BagOp → String × FieldValue
  | .insert name value => (name, value)
  | .set name value => (name, value)

open History in
/-- the bag that a history of calls makes of the empty one, and the calls that succeeded -/
structure FollowsHistory {α ι : Type} (exec : ι → Bag α → Except FieldError Unit × Bag α)
    (entry : ι → String × α) (calls : List ι) : Prop where
  distinct : (final exec .new calls).names.Nodup
  /-- `[a-z0-9_]{1,64}` -/
  valid : ∀ name ∈ (final exec .new calls).names,
    1 ≤ name.toList.length ∧ name.toList.length ≤ 64 ∧ ∀ c ∈ name.toList, isNameChar c
  /-- a further call that fails leaves the bag -/
  failed : ∀ call e, (exec call (final exec .new calls)).1 = .error e →
    (exec call (final exec .new calls)).2 = final exec .new calls
  /-- names stand in the order of the first calls that succeeded with them -/
  order : (final exec .new calls).names
    = ((succeeded exec .new calls).map fun call => (entry call).1).eraseDups
  /-- and no further call moves one -/
  stays : ∀ call, (final exec .new calls).names <+: (exec call (final exec .new calls)).2.names
  /-- a value is that of the last call that succeeded with its name -/
  last : ∀ name, (final exec .new calls).get name
    = ((succeeded exec .new calls).filter fun call => (entry call).1 = name).getLast?.map
        fun call => (entry call).2

section
variable {α ι : Type} {exec : ι → Bag α → Except FieldError Unit × Bag α} {entry : ι → String × α}

open History

/-- a method that replaces the bag, by one with its entry put -/
theorem puts_of_replaced {call : ι} (method : Bag α → Except FieldError (Bag α))
    (hexec : ∀ b, exec call b = b.replaced (method b))
    (hput : ∀ b b', method b = .ok b' → b'.view = b.view.put (entry call)) :
    Puts exec Bag.view entry call := by
  intro b
  rw [hexec]
  cases hmethod : method b with
  | error e => exact rfl
  | ok b' => exact hput b b' hmethod

theorem nameChars_of_valid {name : String} (h : validateName name = .ok ()) :
    1 ≤ name.toList.length ∧ name.toList.length ≤ 64 ∧ ∀ c ∈ name.toList, isNameChar c := by
  obtain ⟨hne, hlen, hall⟩ := validateName_ok.mp h
  exact ⟨List.length_pos_iff.mpr hne, Nat.le_trans (length_le_byteLen _) hlen,
    List.all_eq_true.mp hall⟩

theorem followsHistory (hputs : ∀ call, Puts exec Bag.view entry call)
    (hwf : ∀ b call, b.WellFormed → (exec call b).2.WellFormed) (calls : List ι) :
    FollowsHistory exec entry calls := by
  have hwellFormed : (final exec .new calls).WellFormed :=
    final_invariant exec hwf Bag.new_wellFormed calls
  have hview : (final exec .new calls).view
      = .ofCalls ((succeeded exec .new calls).map entry) := view_final hputs .new calls
  refine ⟨hwellFormed.nodup, fun name hname => nameChars_of_valid (hwellFormed.valid name hname),
    fun call e herror => ?_, ?_, fun call => ?_, fun name => ?_⟩
  · have hcall := hputs call (final exec .new calls)
    cases hrun : exec call (final exec .new calls) with
    | mk outcome bag =>
      rw [hrun] at hcall herror
      obtain rfl : outcome = .error e := herror
      exact hcall
  · have hkeys := congrArg OrderedMap.keys hview
    rw [OrderedMap.keys_ofCalls, List.map_map] at hkeys
    exact hkeys
  · have hcall := hputs call (final exec .new calls)
    cases hrun : exec call (final exec .new calls) with
    | mk outcome bag =>
      rw [hrun] at hcall
      cases outcome with
      | error e =>
        obtain rfl : bag = final exec .new calls := hcall
        exact List.prefix_refl _
      | ok w =>
        have hbag : bag.view = (final exec .new calls).view.put (entry call) := hcall
        show (final exec .new calls).view.keys <+: bag.view.keys
        rw [hbag]
        exact OrderedMap.keys_prefix_put _ _
  · have hvalue := congrFun (congrArg OrderedMap.value hview) name
    rw [OrderedMap.value_ofCalls, List.filter_map, List.getLast?_map, Option.map_map] at hvalue
    exact hvalue

end

/-- **Bags follow their histories**: after any calls of `insert` and `set` on an empty public bag,
and of `insert` on an empty private one. -/
theorem bags_follow_histories :
    (∀ calls : List BagOp, FollowsHistory PublicInputBag.exec BagOp.entry calls) ∧
    ∀ calls : List (String × SecretValue),
      FollowsHistory PrivateWitnessBag.exec (fun call => call) calls := by
  refine ⟨followsHistory (fun call => ?_) (fun b call hb => ?_),
    followsHistory (fun call => ?_) (fun b call hb => ?_)⟩
  · cases call with
    | insert name value =>
      exact puts_of_replaced (Bag.insert · name value) (fun _ => insert_call)
        fun _ _ => Bag.view_insert
    | set name value =>
      exact puts_of_replaced (Bag.set · name value) (fun _ => set_call) fun _ _ => Bag.view_set
  · cases call with
    | insert name value => exact wellFormed_insert_call hb
    | set name value => exact wellFormed_set_call hb
  · exact puts_of_replaced (Bag.insert · call.1 call.2) (fun _ => insert_call)
      fun _ _ => Bag.view_insert
  · exact wellFormed_insert_call hb

end Crucible
