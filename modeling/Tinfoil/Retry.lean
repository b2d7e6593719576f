import Mathlib.Data.List.Basic

/-! # Bounded retries

A call is made again while its answer asks for it, a bounded number of times.  `last_spec` says which of the answers
is returned.
-/

namespace Retry

variable {α : Type} (again : α → Bool) (answer : Nat → α)

/-- The number of the call whose answer is returned, from the call `attempt` on with `more` further ones allowed. -/
def last : (more attempt : Nat) → Nat
  | 0, attempt => attempt
  | more + 1, attempt => if again (answer attempt) then last more (attempt + 1) else attempt

theorem last_bounds (more attempt : Nat) :
    attempt ≤ last again answer more attempt ∧ last again answer more attempt ≤ attempt + more := by
  induction more generalizing attempt with
  | zero => simp [last]
  | succ more ih =>
    rw [last]
    split
    · have bounds := ih (attempt + 1)
      omega
    · omega

/-- It is the first that does not ask for another one, or the last that is allowed. -/
theorem last_spec (more attempt : Nat) :
    (∀ earlier, attempt ≤ earlier → earlier < last again answer more attempt → again (answer earlier) = true) ∧
      (again (answer (last again answer more attempt)) = true → last again answer more attempt = attempt + more) := by
  induction more generalizing attempt with
  | zero =>
    simp only [last, Nat.add_zero, implies_true, and_true]
    intro earlier low high
    omega
  | succ more ih =>
    rw [last]
    split
    · rename_i asked
      obtain ⟨before, ending⟩ := ih (attempt + 1)
      refine ⟨fun earlier low high => ?_, fun asks => by rw [ending asks]; omega⟩
      rcases Nat.eq_or_lt_of_le low with rfl | low
      · exact asked
      · exact before earlier low high
    · rename_i settled
      exact ⟨fun earlier low high => by omega, fun asked => absurd asked settled⟩

end Retry
