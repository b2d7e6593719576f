import Mathlib.Logic.Function.Basic

/-! # Reading through a store

A value is taken from the store where there is an acceptable one, else fetched and stored.  Any of the
three accesses to the store may fail, which the result does not show.

* `lookup_fst` — the result is the stored value or the fetched one.
* `lookup_origin` and `replay_origin` — what a store holds, it held at first or was fetched for it.
-/

namespace ReadThrough

abbrev Store (κ ν : Type) := κ → Option ν

/-- The accesses that fail. -/
structure Faults where
  read : Bool
  discard : Bool
  write : Bool
  deriving DecidableEq, Repr

variable {κ ν ε : Type}

/-- The stored value that is used, if any. -/
def usable (faults : Faults) (accepts : ν → Bool) (store : Store κ ν) (key : κ) : Option ν :=
  if faults.read then none else (store key).filter accepts

theorem store_of_usable {faults : Faults} {accepts : ν → Bool} {store : Store κ ν} {key : κ} {value : ν}
    (found : usable faults accepts store key = some value) : store key = some value := by
  unfold usable at found
  split at found
  · cases found
  · exact (Option.filter_eq_some_iff.mp found).1

section Lookup

variable [DecidableEq κ]

/-- What could be read and is not accepted is discarded. -/
def discard (faults : Faults) (store : Store κ ν) (key : κ) : Store κ ν :=
  if faults.read || faults.discard then store else Function.update store key none

def write (faults : Faults) (store : Store κ ν) (key : κ) (value : ν) : Store κ ν :=
  if faults.write then store else Function.update store key (some value)

def lookup (faults : Faults) (accepts : ν → Bool) (store : Store κ ν) (key : κ) (fetched : Except ε ν) :
    Except ε ν × Store κ ν :=
  match usable faults accepts store key with
  | some value => (.ok value, store)
  | none =>
    match fetched with
    | .ok value => (.ok value, write faults (discard faults store key) key value)
    | .error error => (.error error, discard faults store key)

variable {faults : Faults} {accepts : ν → Bool} {store : Store κ ν} {key key' : κ} {fetched : Except ε ν} {value : ν}

theorem lookup_hit (found : usable faults accepts store key = some value) :
    lookup faults accepts store key fetched = (.ok value, store) := by
  unfold lookup
  rw [found]

theorem lookup_miss (missing : usable faults accepts store key = none) :
    (lookup faults accepts store key fetched).1 = fetched := by
  unfold lookup
  rw [missing]
  cases fetched with
  | ok value => rfl
  | error error => rfl

theorem usable_of_lookup {faults' : Faults} (missing : usable faults accepts store key = none)
    (writes : faults.write = false) (reads : faults'.read = false) (accepted : accepts value) :
    usable faults' accepts (lookup faults accepts store key (.ok value : Except ε ν)).2 key = some value := by
  have stored : (lookup faults accepts store key (.ok value : Except ε ν)).2 key = some value := by
    unfold lookup
    simp [missing, write, writes]
  simp [usable, reads, stored, accepted]

theorem discard_origin (held : discard faults store key key' = some value) : store key' = some value := by
  unfold discard at held
  split at held
  · exact held
  · by_cases same : key' = key
    · rw [same, Function.update_self] at held
      cases held
    · rwa [Function.update_of_ne same] at held

/-- After a lookup a store holds what it held, and what was fetched. -/
theorem lookup_origin (held : (lookup faults accepts store key fetched).2 key' = some value) :
    store key' = some value ∨ key' = key ∧ fetched = .ok value := by
  unfold lookup at held
  split at held
  · exact .inl held
  · split at held
    · rename_i result
      unfold write at held
      dsimp only at held
      split at held
      · exact .inl (discard_origin held)
      · by_cases same : key' = key
        · rw [same, Function.update_self] at held
          cases held
          exact .inr ⟨same, rfl⟩
        · rw [Function.update_of_ne same] at held
          exact .inl (discard_origin held)
    · exact .inl (discard_origin held)

end Lookup

/-! ## Histories -/

section History

variable {α : Type} (next : Store κ ν → α → Store κ ν)

def replay : Store κ ν → List α → Store κ ν
  | store, [] => store
  | store, call :: later => replay (next store call) later

/-- A property of every call of a history and of the store before it. -/
def EachCall (property : Store κ ν → α → Prop) : Store κ ν → List α → Prop
  | _, [] => True
  | store, call :: later => property store call ∧ EachCall property (next store call) later

variable {next}

theorem EachCall.imp {property property' : Store κ ν → α → Prop}
    (stronger : ∀ store call, property store call → property' store call) {store : Store κ ν} {calls : List α}
    (each : EachCall next property store calls) : EachCall next property' store calls := by
  induction calls generalizing store with
  | nil => trivial
  | cons call later ih => exact ⟨stronger store call each.1, ih each.2⟩

theorem EachCall.and {property property' : Store κ ν → α → Prop} {store : Store κ ν} {calls : List α}
    (each : EachCall next property store calls) (each' : EachCall next property' store calls) :
    EachCall next (fun store call => property store call ∧ property' store call) store calls := by
  induction calls generalizing store with
  | nil => trivial
  | cons call later ih => exact ⟨⟨each.1, each'.1⟩, ih each.2 each'.2⟩

/-- Where a call stores only what it offers, a store holds what it held at first and what was offered. -/
theorem replay_origin {offers : α → κ → ν → Prop}
    (origin : ∀ store call key value, next store call key = some value → store key = some value ∨ offers call key value)
    {store : Store κ ν} {calls : List α} {key : κ} {value : ν} (held : replay next store calls key = some value) :
    store key = some value ∨ ∃ call ∈ calls, offers call key value := by
  induction calls generalizing store with
  | nil => exact .inl held
  | cons call later ih =>
    cases ih held with
    | inl inherited =>
      exact (origin store call key value inherited).imp_right fun offered => ⟨call, List.mem_cons_self, offered⟩
    | inr offered =>
      obtain ⟨later', member, offered⟩ := offered
      exact .inr ⟨later', List.mem_cons_of_mem _ member, offered⟩

end History

end ReadThrough
