import Mathlib.Data.List.Induction
import Mathlib.Logic.Function.Basic

/-! # Collecting a list

* `mapM_ok` — into a list of results, if each element has one.
* `byKey_eq_some` — into a map by keys, in which the last value of a key stays.
-/

namespace ByKey

variable {α κ ν ε : Type}

theorem mapM_ok {read : α → Except ε ν} {inputs : List α} {values : List ν} :
    inputs.mapM read = .ok values ↔ inputs.map read = values.map Except.ok := by
  induction inputs generalizing values with
  | nil => cases values <;> simp [pure, Except.pure]
  | cons input rest ih =>
    cases first : read input with
    | error error => cases values <;> simp [List.mapM_cons, first, bind, Except.bind]
    | ok value =>
      cases later : rest.mapM read with
      | error error =>
        have absent (values : List ν) : rest.map read ≠ values.map Except.ok := by
          intro same
          cases later.symm.trans (ih.mpr same)
        cases values <;> simp [List.mapM_cons, first, later, bind, Except.bind, absent]
      | ok _ =>
        have same := ih.mp later
        cases values <;>
          simp [List.mapM_cons, first, later, bind, Except.bind, pure, Except.pure, same,
            List.map_inj_right (fun _ _ => Except.ok.inj)]

theorem exists_mapM_ok {read : α → Except ε ν} {inputs : List α}
    (all : ∀ input ∈ inputs, ∃ value, read input = .ok value) :
    ∃ values : List ν, inputs.map read = values.map Except.ok := by
  induction inputs with
  | nil => exact ⟨[], rfl⟩
  | cons input rest ih =>
    obtain ⟨value, first⟩ := all input List.mem_cons_self
    obtain ⟨values, later⟩ := ih fun input member => all input (List.mem_cons_of_mem _ member)
    exact ⟨value :: values, by simp [first, later]⟩

theorem exists_last {found : α → Prop} {values : List α} (present : ∃ value ∈ values, found value) :
    ∃ front last back, values = front ++ last :: back ∧ found last ∧ ∀ later ∈ back, ¬ found later := by
  induction values using List.reverseRecOn with
  | nil => simp at present
  | append_singleton values value ih =>
    by_cases here : found value
    · exact ⟨values, value, [], rfl, here, by simp⟩
    · obtain ⟨front, last, back, rfl, holds, others⟩ := ih (by simpa [here] using present)
      refine ⟨front, last, back ++ [value], by simp, holds, ?_⟩
      simpa [or_imp, forall_and, here] using others

section Map

variable [DecidableEq κ] (key : ν → κ)

def byKey (values : List ν) : κ → Option ν :=
  values.foldl (fun map value => Function.update map (key value) (some value)) fun _ => none

theorem byKey_concat (values : List ν) (value : ν) :
    byKey key (values ++ [value]) = Function.update (byKey key values) (key value) (some value) := by
  simp [byKey]

/-- The first value of the key from the end of the list. -/
theorem byKey_eq_find (values : List ν) (wanted : κ) :
    byKey key values wanted = values.reverse.find? fun value => key value = wanted := by
  induction values using List.reverseRecOn with
  | nil => rfl
  | append_singleton values value ih =>
    rw [byKey_concat, List.reverse_append]
    by_cases same : key value = wanted
    · simp [same]
    · simp [same, Function.update_of_ne (Ne.symm same), ih]

variable {key}

theorem byKey_eq_some {values : List ν} {wanted : κ} {value : ν} :
    byKey key values wanted = some value ↔
      ∃ front back, values = front ++ value :: back ∧ key value = wanted ∧ ∀ later ∈ back, key later ≠ wanted := by
  rw [byKey_eq_find, List.find?_eq_some_iff_append]
  constructor
  · intro found
    obtain ⟨same, back, front, split, others⟩ := found
    refine ⟨front.reverse, back.reverse, ?_, by simpa using same, fun later member => ?_⟩
    · rw [← List.reverse_reverse values, split]
      simp
    · simpa using others later (List.mem_reverse.mp member)
  · intro last
    obtain ⟨front, back, rfl, same, others⟩ := last
    refine ⟨by simpa using same, back.reverse, front.reverse, by simp, fun later member => ?_⟩
    simpa using others later (List.mem_reverse.mp member)

end Map

end ByKey
