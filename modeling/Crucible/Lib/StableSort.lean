import Mathlib.Data.List.Perm.Basic
import Mathlib.Order.Lattice

/-!
# Lists sorted by a key

* `sortByKey`                  the elements by their keys, those of one key as they came;
* `filter_sortByKey`           which is what it means to be stable;
* `sortByKey_idem`             sorting again changes nothing;
* `sortByKey_perm_inv_iff`     the order in which the elements come does not matter exactly where
                               no key has two elements.
-/

namespace StableSort
variable {α κ : Type} [LinearOrder κ] (key : α → κ)

/-- `slice::sort_by` with a comparison of keys -/
def sortByKey (as : List α) : List α := as.mergeSort fun a b => decide (key a ≤ key b)

section
variable {key} {as bs : List α}

theorem le_trans_key (a b c : α) (hab : decide (key a ≤ key b) = true)
    (hbc : decide (key b ≤ key c) = true) : decide (key a ≤ key c) = true :=
  decide_eq_true (le_trans (of_decide_eq_true hab) (of_decide_eq_true hbc))

theorem le_total_key (a b : α) : (decide (key a ≤ key b) || decide (key b ≤ key a)) = true := by
  rw [Bool.or_eq_true, decide_eq_true_eq, decide_eq_true_eq]
  exact le_total _ _

theorem sortByKey_perm (as : List α) : (sortByKey key as).Perm as := List.mergeSort_perm as _

theorem sortByKey_sorted (as : List α) :
    (sortByKey key as).Pairwise fun a b => decide (key a ≤ key b) = true :=
  List.pairwise_mergeSort le_trans_key le_total_key as

theorem sortByKey_idem (as : List α) : sortByKey key (sortByKey key as) = sortByKey key as :=
  List.mergeSort_of_pairwise (sortByKey_sorted as)

/-- the elements of one key stay as they came -/
theorem filter_sortByKey (k : κ) :
    (sortByKey key as).filter (fun a => key a = k) = as.filter fun a => key a = k := by
  have hsame : (as.filter fun a => key a = k).Pairwise fun a b =>
      decide (key a ≤ key b) = true := by
    refine List.pairwise_of_forall_mem_list fun a ha b hb => decide_eq_true ?_
    have hka : key a = k := of_decide_eq_true (List.mem_filter.mp ha).2
    have hkb : key b = k := of_decide_eq_true (List.mem_filter.mp hb).2
    exact le_of_eq (hka.trans hkb.symm)
  have hsub := List.sublist_mergeSort le_trans_key le_total_key hsame List.filter_sublist
  have hfiltered := hsub.filter fun a => decide (key a = k)
  simp only [List.filter_filter, Bool.and_self] at hfiltered
  have hperm : (sortByKey key as).Perm as := sortByKey_perm as
  have hlen := (hperm.filter fun a => decide (key a = k)).length_eq
  exact (hfiltered.eq_of_length hlen.symm).symm

/-- where no key has two elements, the sorted list is the same for every order -/
theorem sortByKey_of_perm (h : ∀ a ∈ as, ∀ b ∈ as, key a = key b → a = b) (hperm : bs.Perm as) :
    sortByKey key bs = sortByKey key as := by
  have hsorted : (sortByKey key bs).Perm (sortByKey key as) :=
    (sortByKey_perm bs).trans (hperm.trans (sortByKey_perm as).symm)
  refine hsorted.eq_of_pairwise (fun a b ha hb hab hba => ?_) (sortByKey_sorted bs)
    (sortByKey_sorted as)
  have hmem {c : α} (hc : c ∈ sortByKey key as) : c ∈ as := (sortByKey_perm as).mem_iff.mp hc
  exact h a (hmem (hsorted.mem_iff.mp ha)) b (hmem hb)
    (le_antisymm (of_decide_eq_true hab) (of_decide_eq_true hba))

/-- of two elements of one key, one comes before the other in some order -/
theorem exists_perm_sortByKey_ne {a b : α} (ha : a ∈ as) (hb : b ∈ as) (hne : a ≠ b)
    (hkey : key a = key b) : ∃ bs, bs.Perm as ∧ sortByKey key bs ≠ sortByKey key as := by
  obtain ⟨rest, hrest⟩ : ∃ rest, as.Perm (a :: rest) := by
    obtain ⟨l, r, rfl⟩ := List.append_of_mem ha
    exact ⟨l ++ r, List.perm_middle⟩
  obtain ⟨rest', hrest'⟩ : ∃ rest', rest.Perm (b :: rest') := by
    have hmem := List.mem_of_ne_of_mem (Ne.symm hne) (hrest.mem_iff.mp hb)
    obtain ⟨l, r, rfl⟩ := List.append_of_mem hmem
    exact ⟨l ++ r, List.perm_middle⟩
  have hab : (a :: b :: rest').Perm as := (hrest.trans (hrest'.cons a)).symm
  have hba : (b :: a :: rest').Perm as := (List.Perm.swap a b rest').trans hab
  -- the first element of that key is another one
  have hfirst (x y : α) (hx : key x = key b) :
      ((sortByKey key (x :: y :: rest')).filter fun c => key c = key b).head? = some x := by
    rw [filter_sortByKey, List.filter_cons, if_pos (decide_eq_true hx)]
    rfl
  by_contra hall
  push Not at hall
  have hsame := (hall _ hab).trans (hall _ hba).symm
  have hheads := hfirst a b hkey
  rw [hsame, hfirst b a rfl] at hheads
  exact hne (Option.some.inj hheads).symm

/-- **the order in which the elements come does not matter** exactly where no key has two -/
theorem sortByKey_perm_inv_iff : (∀ bs, bs.Perm as → sortByKey key bs = sortByKey key as) ↔
    ∀ a ∈ as, ∀ b ∈ as, key a = key b → a = b := by
  constructor
  · intro h a ha b hb hkey
    by_contra hne
    obtain ⟨bs, hperm, hbs⟩ := exists_perm_sortByKey_ne ha hb hne hkey
    exact hbs (h bs hperm)
  · exact fun h bs hperm => sortByKey_of_perm h hperm

end

end StableSort
