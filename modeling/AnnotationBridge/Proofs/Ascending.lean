import Mathlib.Data.List.Nodup
import Mathlib.Order.Lattice

/-!
# Ascending lists

A map holds its entries in no particular order, so what is read off it is sorted by a key. Where no
two entries have one key, the result depends on what the map holds and on nothing else.

* `Ascending.of_mergeSort`: sorting by different keys gives strictly ascending ones.
* `Ascending.nodup`, `Ascending.eq_of_mem_iff`: an ascending list has no duplicates and is
  determined by its members.
-/

namespace AnnotationBridge.Ascending

variable {α β : Type} [LinearOrder β] {key : α → β} {l l' : List α}

/-- Sorting a list by keys that are all different puts them in strictly ascending order. -/
theorem of_mergeSort {le : α → α → Bool} (hle : ∀ a b, le a b = true ↔ key a ≤ key b)
    (distinct : (l.map key).Nodup) : (l.mergeSort le).Pairwise (key · < key ·) := by
  have hsorted : (l.mergeSort le).Pairwise (le · · = true) := by
    apply List.pairwise_mergeSort
    · intro a b c hab hbc
      rw [hle] at *
      exact le_trans hab hbc
    · intro a b
      rw [Bool.or_eq_true, hle, hle]
      exact le_total (key a) (key b)
  have hdistinct : ((l.mergeSort le).map key).Nodup :=
    ((List.mergeSort_perm l le).map key).nodup_iff.2 distinct
  refine hsorted.imp₂ ?_ (List.pairwise_map.1 hdistinct)
  intro a b hab hne
  exact lt_of_le_of_ne ((hle a b).1 hab) hne

/-- What is strictly ascending has no item twice. -/
theorem nodup (h : l.Pairwise (key · < key ·)) : l.Nodup := by
  refine h.imp ?_
  rintro a b hlt rfl
  exact lt_irrefl _ hlt

/-- Ascending lists with the same members are the same. -/
theorem eq_of_mem_iff (h : l.Pairwise (key · < key ·)) (h' : l'.Pairwise (key · < key ·))
    (hmem : ∀ a, a ∈ l ↔ a ∈ l') : l = l' := by
  refine ((List.perm_ext_iff_of_nodup (nodup h) (nodup h')).2 hmem).eq_of_pairwise ?_ h h'
  intro a b _ _ hab hba
  exact absurd hba (lt_asymm hab)

end AnnotationBridge.Ascending
