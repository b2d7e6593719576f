import Mathlib.Order.Lattice
import Mathlib.Data.List.Induction

/-! # Maps as lists of entries in the order of their keys -/

namespace OrderedMap

variable {κ ν : Type} [LinearOrder κ]

/-- Insert an entry at its place; an entry with the same key is replaced. -/
def insert (key : κ) (value : ν) : List (κ × ν) → List (κ × ν)
  | [] => [(key, value)]
  | entry :: rest =>
    if key < entry.1 then (key, value) :: entry :: rest
    else if key = entry.1 then (key, value) :: rest
    else entry :: insert key value rest

def ofList (entries : List (κ × ν)) : List (κ × ν) :=
  entries.foldl (fun map entry => insert entry.1 entry.2 map) []

theorem insert_insert (key : κ) (value value' : ν) (map : List (κ × ν)) :
    insert key value (insert key value' map) = insert key value map := by
  induction map with
  | nil => simp [insert]
  | cons entry rest ih =>
    by_cases smaller : key < entry.1
    · simp [insert, smaller]
    · by_cases same : key = entry.1
      · simp [insert, same]
      · simp [insert, smaller, same, ih]

theorem insert_comm_of_lt {key key' : κ} (smaller : key < key') (value value' : ν) (map : List (κ × ν)) :
    insert key value (insert key' value' map) = insert key' value' (insert key value map) := by
  have notLarger : ¬key' < key := not_lt.mpr smaller.le
  have other : key' ≠ key := smaller.ne'
  induction map with
  | nil => simp [insert, smaller, notLarger, other]
  | cons entry rest ih =>
    obtain below | same | above := lt_trichotomy key' entry.1
    · have first : key < entry.1 := smaller.trans below
      simp [insert, below, first, smaller, notLarger, other]
    · have first : key < entry.1 := same ▸ smaller
      simp [insert, ← same, smaller, notLarger, other]
    · have notBelow : ¬key' < entry.1 := not_lt.mpr above.le
      have differs : key' ≠ entry.1 := above.ne'
      obtain first | first | first := lt_trichotomy key entry.1
      · simp [insert, notBelow, differs, first, notLarger, other]
      · simp [insert, notBelow, differs, first]
      · have notFirst : ¬key < entry.1 := not_lt.mpr first.le
        simp [insert, notBelow, differs, notFirst, first.ne', ih]

theorem insert_comm {key key' : κ} (other : key ≠ key') (value value' : ν) (map : List (κ × ν)) :
    insert key value (insert key' value' map) = insert key' value' (insert key value map) := by
  cases lt_or_gt_of_ne other with
  | inl smaller => exact insert_comm_of_lt smaller value value' map
  | inr larger => exact (insert_comm_of_lt larger value' value map).symm

theorem insert_ne_nil (key : κ) (value : ν) (map : List (κ × ν)) : insert key value map ≠ [] := by
  cases map with
  | nil => simp [insert]
  | cons entry rest =>
    rw [insert]
    split
    · simp
    · split <;> simp

theorem ofList_concat (entries : List (κ × ν)) (key : κ) (value : ν) :
    ofList (entries ++ [(key, value)]) = insert key value (ofList entries) := by
  simp [ofList]

theorem ofList_eq_nil {entries : List (κ × ν)} : ofList entries = [] ↔ entries = [] := by
  constructor
  · intro empty
    cases entries using List.reverseRecOn with
    | nil => rfl
    | append_singleton entries entry =>
      rw [ofList_concat] at empty
      exact absurd empty (insert_ne_nil _ _ _)
  · rintro rfl
    rfl

/-- Where a key occurs for the last time, its value can be set before or after the rest. -/
theorem ofList_replace {key : κ} {back : List (κ × ν)} (last : ∀ entry ∈ back, entry.1 ≠ key)
    (front : List (κ × ν)) (value value' : ν) :
    ofList (front ++ (key, value) :: back) = insert key value (ofList (front ++ (key, value') :: back)) := by
  induction back using List.reverseRecOn with
  | nil => rw [ofList_concat, ofList_concat, insert_insert]
  | append_singleton back entry ih =>
    have other : key ≠ entry.1 := (last entry (by simp)).symm
    have split (value : ν) : ofList (front ++ (key, value) :: (back ++ [entry])) =
        insert entry.1 entry.2 (ofList (front ++ (key, value) :: back)) := by
      rw [← ofList_concat]
      simp
    rw [split, split, ih fun entry member => last entry (List.mem_append_left _ member),
      insert_comm other]

/-! ## Look-ups -/

variable [BEq κ] [LawfulBEq κ]

theorem lookup_insert_self (key : κ) (value : ν) (map : List (κ × ν)) :
    (insert key value map).lookup key = some value := by
  induction map with
  | nil => simp [insert]
  | cons entry rest ih =>
    obtain ⟨name, content⟩ := entry
    by_cases smaller : key < name
    · simp [insert, smaller]
    · by_cases same : key = name
      · simp [insert, same]
      · have differs : (key == name) = false := by simpa using same
        simp [insert, smaller, same, List.lookup_cons, differs, ih]

theorem lookup_insert_other {key key' : κ} (other : key' ≠ key) (value : ν) (map : List (κ × ν)) :
    (insert key value map).lookup key' = map.lookup key' := by
  have differs : (key' == key) = false := by simpa using other
  induction map with
  | nil => simp [insert, List.lookup_cons, differs]
  | cons entry rest ih =>
    obtain ⟨name, content⟩ := entry
    by_cases smaller : key < name
    · simp [insert, smaller, List.lookup_cons, differs]
    · by_cases same : key = name
      · subst same
        simp [insert, List.lookup_cons, differs]
      · simp only [insert, if_neg smaller, if_neg same, List.lookup_cons, ih]

theorem lookup_ofList_none {entries : List (κ × ν)} {key : κ} :
    (ofList entries).lookup key = none ↔ ∀ entry ∈ entries, entry.1 ≠ key := by
  induction entries using List.reverseRecOn with
  | nil => simp [ofList]
  | append_singleton entries entry ih =>
    rw [ofList_concat]
    by_cases same : entry.1 = key
    · rw [same, lookup_insert_self]
      constructor
      · intro absent
        cases absent
      · intro absent
        exact absurd same (absent entry (by simp))
    · rw [lookup_insert_other (Ne.symm same), ih]
      simp [or_imp, forall_and, same]

theorem lookup_ofList_last {key : κ} {back : List (κ × ν)} (last : ∀ entry ∈ back, entry.1 ≠ key)
    (front : List (κ × ν)) (value : ν) :
    (ofList (front ++ (key, value) :: back)).lookup key = some value := by
  rw [ofList_replace last front value value, lookup_insert_self]

end OrderedMap
