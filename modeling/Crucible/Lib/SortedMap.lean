import Mathlib.Data.List.Pairwise
import Mathlib.Order.Lattice

/-!
# Ordered maps: entries in strictly increasing order of their keys

The order is a field of the map, so that a map lists its entries in one way only.

* `SortedMap.insert`       a key takes a new value, or gets its first one;
* `SortedMap.keys_nodup`   no key is listed twice;
* `SortedMap.insert_last`, `SortedMap.foldl_insert`   inserting entries that are already in order
                           lists them as they came.
-/

structure SortedMap (κ α : Type) [LinearOrder κ] where
  entries : List (κ × α)
  sorted : (entries.map Prod.fst).Pairwise (· < ·)

namespace SortedMap
variable {κ α : Type} [LinearOrder κ]

instance [DecidableEq α] : DecidableEq (SortedMap κ α) := fun a b =>
  decidable_of_iff (a.entries = b.entries)
    ⟨fun h => by cases a; cases b; obtain rfl := h; rfl, fun h => h ▸ rfl⟩

theorem ext {a b : SortedMap κ α} (h : a.entries = b.entries) : a = b := by
  cases a
  cases b
  obtain rfl := h
  rfl

def empty : SortedMap κ α := ⟨[], List.Pairwise.nil⟩

def insertEntry (key : κ) (value : α) : List (κ × α) → List (κ × α)
  | [] => [(key, value)]
  | e :: es =>
    if key < e.1 then (key, value) :: e :: es
    else if key = e.1 then (key, value) :: es
    else e :: insertEntry key value es

/-- an entry after an insertion was inserted, or was there before -/
theorem mem_insertEntry {key : κ} {value : α} {es : List (κ × α)} {e : κ × α}
    (h : e ∈ insertEntry key value es) : e = (key, value) ∨ e ∈ es := by
  induction es with
  | nil => exact Or.inl (List.mem_singleton.mp h)
  | cons first es ih =>
    unfold insertEntry at h
    split at h
    · exact List.mem_cons.mp h
    · split at h
      · exact (List.mem_cons.mp h).imp id (List.mem_cons_of_mem _)
      · rcases List.mem_cons.mp h with rfl | h
        · exact Or.inr List.mem_cons_self
        · exact (ih h).imp id (List.mem_cons_of_mem _)

theorem mem_keys_insertEntry {key k : κ} {value : α} {es : List (κ × α)}
    (h : k ∈ (insertEntry key value es).map Prod.fst) : k = key ∨ k ∈ es.map Prod.fst := by
  obtain ⟨e, he, rfl⟩ := List.mem_map.mp h
  rcases mem_insertEntry he with rfl | he
  · exact Or.inl rfl
  · exact Or.inr (List.mem_map_of_mem he)

theorem insertEntry_sorted {key : κ} {value : α} {es : List (κ × α)}
    (h : (es.map Prod.fst).Pairwise (· < ·)) :
    ((insertEntry key value es).map Prod.fst).Pairwise (· < ·) := by
  induction es with
  | nil => exact List.pairwise_singleton _ key
  | cons e es ih =>
    obtain ⟨hhead, htail⟩ := List.pairwise_cons.mp h
    unfold insertEntry
    split
    · next hlt =>
      refine List.pairwise_cons.mpr ⟨fun k hk => ?_, h⟩
      rcases List.mem_cons.mp hk with rfl | hk
      · exact hlt
      · exact lt_trans hlt (hhead k hk)
    · next hnlt =>
      split
      · next heq => exact List.pairwise_cons.mpr ⟨fun k hk => heq ▸ hhead k hk, htail⟩
      · next hne =>
        refine List.pairwise_cons.mpr ⟨fun k hk => ?_, ih htail⟩
        rcases mem_keys_insertEntry hk with rfl | hk
        · exact lt_of_le_of_ne (not_lt.mp hnlt) (Ne.symm hne)
        · exact hhead k hk

def insert (m : SortedMap κ α) (key : κ) (value : α) : SortedMap κ α :=
  ⟨insertEntry key value m.entries, insertEntry_sorted m.sorted⟩

def keys (m : SortedMap κ α) : List κ := m.entries.map Prod.fst

theorem keys_nodup (m : SortedMap κ α) : m.keys.Nodup := m.sorted.imp fun h => ne_of_lt h

/-- a key above all others comes last -/
theorem insert_last {m : SortedMap κ α} {key : κ} {value : α} (h : ∀ k ∈ m.keys, k < key) :
    (m.insert key value).entries = m.entries ++ [(key, value)] := by
  obtain ⟨es, hsorted⟩ := m
  show insertEntry key value es = es ++ [(key, value)]
  induction es with
  | nil => rfl
  | cons e es ih =>
    have hlt : e.1 < key := h e.1 List.mem_cons_self
    rw [insertEntry, if_neg (lt_asymm hlt), if_neg (ne_of_gt hlt),
      ih (List.pairwise_cons.mp hsorted).2 fun k hk => h k (List.mem_cons_of_mem _ hk)]
    rfl

/-- entries in order are listed as they are inserted -/
theorem foldl_insert {m : SortedMap κ α} {es : List (κ × α)}
    (h : ((m.entries ++ es).map Prod.fst).Pairwise (· < ·)) :
    (es.foldl (fun m e => m.insert e.1 e.2) m).entries = m.entries ++ es := by
  induction es generalizing m with
  | nil => exact (List.append_nil _).symm
  | cons e es ih =>
    have hlast : (m.insert e.1 e.2).entries = m.entries ++ [e] := by
      refine insert_last fun k hk => ?_
      rw [List.map_append, List.pairwise_append] at h
      exact h.2.2 k hk e.1 List.mem_cons_self
    have happend : m.entries ++ e :: es = (m.insert e.1 e.2).entries ++ es := by
      rw [hlast, List.append_assoc]
      rfl
    rw [happend] at h ⊢
    exact ih h

theorem foldl_insert_entries (m : SortedMap κ α) :
    m.entries.foldl (fun m e => m.insert e.1 e.2) empty = m :=
  ext (foldl_insert (m := empty) m.sorted)

end SortedMap
