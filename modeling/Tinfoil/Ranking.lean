import Tinfoil.Transition

/-! # Ranks of a transition system

A rank that no step lowers bounds how often a run takes the steps that raise it: `countP_add_rank_le`.  And where a
measure can be lowered until the end is reached, `exec_ends` is the run that does so.
-/

namespace Transition

variable {σ α : Type*} {step : σ → α → Option σ}

theorem countP_add_rank_le (kind : α → Bool) (rank : σ → ℕ)
    (kept : ∀ state action next, step state action = some next → rank state ≤ rank next)
    (raised : ∀ state action next, step state action = some next → kind action = true → rank state < rank next)
    {start final : σ} {schedule : List α} (run : exec step start schedule = some final) :
    schedule.countP kind + rank start ≤ rank final := by
  induction schedule generalizing start with
  | nil =>
    cases run
    simp
  | cons action rest ih =>
    obtain ⟨next, taken, remaining⟩ := exec_cons_some.mp run
    have later := ih remaining
    rw [List.countP_cons]
    split
    · rename_i counted
      have up := raised start action next taken counted
      omega
    · have same := kept start action next taken
      omega

theorem StepAt.cons_cases {start next source target : σ} {action action' : α} {rest before : List α}
    (first : step start action = some next) (at' : StepAt step start (action :: rest) before source action' target) :
    (source = start ∧ action' = action) ∨ ∃ before', StepAt step next rest before' source action' target := by
  obtain ⟨reached, taken, part⟩ := at'
  cases before with
  | nil =>
    cases reached
    exact .inl ⟨rfl, (List.cons_prefix_cons.mp part).1⟩
  | cons head before =>
    rw [List.cons_append] at part
    obtain ⟨rfl, later⟩ := List.cons_prefix_cons.mp part
    obtain ⟨next', first', reached⟩ := exec_cons_some.mp reached
    cases first.symm.trans first'
    exact .inr ⟨before, reached, taken, later⟩

/-- The run takes steps of the given kind only. -/
theorem exec_ends {inv done : σ → Prop} {kind : σ → α → Prop} (measure : σ → ℕ)
    (progress : ∀ state, inv state → ¬ done state →
      ∃ action next, kind state action ∧ step state action = some next ∧ inv next ∧ measure next < measure state)
    {start : σ} (initially : inv start) :
    ∃ schedule final, exec step start schedule = some final ∧ done final ∧
      ∀ before source action target, StepAt step start schedule before source action target → kind source action := by
  induction bound : measure start using Nat.strong_induction_on generalizing start with
  | _ size ih =>
    subst bound
    by_cases ended : done start
    · refine ⟨[], start, rfl, ended, fun before source action target at' => ?_⟩
      have part := List.prefix_nil.mp at'.part
      simp at part
    · obtain ⟨action, next, allowed, taken, holds, lower⟩ := progress start initially ended
      obtain ⟨rest, final, run, finished, kinds⟩ := ih _ lower holds rfl
      refine ⟨action :: rest, final, exec_cons_some.mpr ⟨next, taken, run⟩, finished, ?_⟩
      intro before source action' target at'
      rcases at'.cons_cases taken with ⟨rfl, rfl⟩ | ⟨before', later⟩
      · exact allowed
      · exact kinds _ _ _ _ later

end Transition
