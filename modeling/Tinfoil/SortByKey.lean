import Mathlib.Data.List.Chain
import Mathlib.Order.Lattice

/-! # Sorting by a key

Items with different keys have one order: `sortByKey_eq_of_perm`.  Equal keys stand side by side in the
sorted list, where `hasTwins` finds them.
-/

namespace SortByKey

variable {α κ : Type} [LinearOrder κ] (key : α → κ)

/-- Stable: items with one key keep their order. -/
def sortByKey (items : List α) : List α := items.mergeSort fun item item' => decide (key item ≤ key item')

def hasTwins (items : List α) : Bool := (items.zip items.tail).any fun pair => decide (key pair.1 = key pair.2)

theorem perm_sortByKey (items : List α) : (sortByKey key items).Perm items := List.mergeSort_perm ..

theorem pairwise_sortByKey (items : List α) : (sortByKey key items).Pairwise (key · ≤ key ·) := by
  have transitive (a b c : α) (below : decide (key a ≤ key b)) (above : decide (key b ≤ key c)) :
      decide (key a ≤ key c) := decide_eq_true (le_trans (of_decide_eq_true below) (of_decide_eq_true above))
  have total (a b : α) : decide (key a ≤ key b) || decide (key b ≤ key a) :=
    Bool.or_eq_true_iff.mpr ((le_total (key a) (key b)).imp decide_eq_true decide_eq_true)
  exact (List.pairwise_mergeSort transitive total items).imp of_decide_eq_true

theorem sortByKey_of_ascending {items : List α} (ascending : items.Pairwise (key · < key ·)) :
    sortByKey key items = items :=
  List.mergeSort_of_pairwise (ascending.imp fun below => decide_eq_true (le_of_lt below))

theorem hasTwins_cons (first second : α) (rest : List α) :
    hasTwins key (first :: second :: rest) = (decide (key first = key second) || hasTwins key (second :: rest)) := rfl

theorem ascending_iff {items : List α} (sorted : items.Pairwise (key · ≤ key ·)) :
    hasTwins key items = false ↔ items.Pairwise (key · < key ·) := by
  induction items with
  | nil => simp [hasTwins]
  | cons first rest ih =>
    cases rest with
    | nil => simp [hasTwins]
    | cons second rest =>
      have rest_iff := ih sorted.of_cons
      rw [hasTwins_cons, Bool.or_eq_false_iff, rest_iff, decide_eq_false_iff_not]
      constructor
      · intro apart
        have below := lt_of_le_of_ne (List.rel_of_pairwise_cons sorted List.mem_cons_self) apart.1
        refine .cons (fun item member => ?_) apart.2
        cases member with
        | head => exact below
        | tail _ member => exact lt_trans below (List.rel_of_pairwise_cons apart.2 member)
      · intro ascending
        exact ⟨ne_of_lt (List.rel_of_pairwise_cons ascending List.mem_cons_self), ascending.of_cons⟩

/-- Twins are found exactly where two keys are equal. -/
theorem hasTwins_sortByKey {items : List α} :
    hasTwins key (sortByKey key items) = false ↔ (items.map key).Nodup := by
  rw [ascending_iff key (pairwise_sortByKey key items), ← ((perm_sortByKey key items).map key).nodup_iff]
  constructor
  · intro ascending
    exact List.pairwise_map.mpr (ascending.imp ne_of_lt)
  · intro distinct
    have apart := List.pairwise_map.mp distinct
    exact (apart.and (pairwise_sortByKey key items)).imp fun both => lt_of_le_of_ne both.2 both.1

theorem sortByKey_eq_of_perm {items items' : List α} (same : items.Perm items')
    (distinct : hasTwins key (sortByKey key items) = false) (distinct' : hasTwins key (sortByKey key items') = false) :
    sortByKey key items = sortByKey key items' := by
  have ascending := (ascending_iff key (pairwise_sortByKey key items)).mp distinct
  have ascending' := (ascending_iff key (pairwise_sortByKey key items')).mp distinct'
  refine List.Perm.eq_of_pairwise ?_ ascending ascending'
    ((perm_sortByKey key items).trans (same.trans (perm_sortByKey key items').symm))
  exact fun _ _ _ _ below above => absurd below (lt_asymm above)

end SortByKey
