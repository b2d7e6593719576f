import Tinfoil.Ehbp.History

/-! # The refresh lock

`refresh_after_mismatch` and `SecureClient::verify` exclude each other through one mutex.
`runs_guarded` says that whoever is inside a refresh holds it, so a step of a request never
takes the lock away from another holder.
-/

namespace Tinfoil.Ehbp

open Tinfoil.Attestation Transition

variable {library : Library}

/-- Between the acquisition of the refresh lock and the drop of its guard. -/
def Request.InRefresh : Request → Prop
  | .locked .. | .rejected .. | .refreshing .. | .committing .. => True
  | _ => False

def ProxyState.Guarded (state : ProxyState) : Prop :=
  ∀ id, (state.request id).InRefresh → state.refreshLock = some (.request id)

/-- The ways in which an action moves the refresh lock. -/
inductive LockChange (state : ProxyState) : Action → ProxyState → Prop where
  | keep {action target} (same : target.refreshLock = state.refreshLock)
      (quiet : ∀ id, action ≠ .lock id) : LockChange state action target
  | acquire {id target} (free : state.refreshLock = none)
      (held : target.refreshLock = some (.request id)) : LockChange state (.lock id) target
  | release {action id target} (own : action.request? = some id)
      (inside : (state.request id).InRefresh) (outside : ¬ (target.request id).InRefresh)
      (free : target.refreshLock = none) : LockChange state action target
  | verify {target} (free : state.refreshLock = none)
      (held : target.refreshLock = some .verify) : LockChange state .lockRefresh target
  | verified {target} (held : state.refreshLock = some .verify)
      (free : target.refreshLock = none) : LockChange state .unlockRefresh target

theorem step_lock {state target : ProxyState} {action : Action}
    (taken : step library state action = some target) : LockChange state action target := by
  have inside {id : Nat} {request : Request} (before : state.request id = request)
      (holds : request.InRefresh) : (state.request id).InRefresh := before ▸ holds
  have outside {id : Nat} {request : Request} (leaves : ¬ request.InRefresh) :
      ¬ ((state.release id request).request id).InRefresh := by rwa [release_self]
  cases action with
  | rekey key | installVerifiedState key groundTruth =>
    cases taken
    unfold installState
    split <;> exact .keep rfl (by intro other same; cases same)
  | revoke | setRefresher => cases taken; exact .keep rfl (by intro other same; cases same)
  | lockRefresh =>
    simp only [step] at taken
    split at taken <;> cases taken
    rename_i free
    exact .verify free rfl
  | unlockRefresh =>
    simp only [step] at taken
    split at taken <;> cases taken
    rename_i held
    exact .verified held rfl
  | lock id =>
    simp only [step] at taken
    split at taken <;> cases taken
    rename_i free
    exact .acquire free rfl
  | reject id =>
    -- A stale report gives the lock back at once.
    simp only [step] at taken
    split at taken <;> cases taken
    rename_i before
    unfold rejectIfGeneration
    split
    · exact .release rfl (inside before trivial) (outside not_false) rfl
    · exact .keep rfl (by intro other same; cases same)
  | callRefresher id =>
    simp only [step] at taken
    split at taken
    · rename_i before
      split at taken <;> cases taken
      · exact .keep rfl (by intro other same; cases same)
      · exact .release rfl (inside before trivial) (outside not_false) rfl
    · cases taken
  | refresherReturns id result =>
    simp only [step] at taken
    split at taken <;> cases taken
    rename_i before
    unfold refreshedWith
    split
    · exact .release rfl (inside before trivial) (outside not_false) rfl
    · split
      · exact .release rfl (inside before trivial) (outside not_false) rfl
      · exact .keep rfl (by intro other same; cases same)
  | commit id =>
    simp only [step] at taken
    split at taken <;> cases taken
    rename_i before
    unfold commitRefresh
    split
    · exact .release rfl (inside before trivial) (outside not_false) rfl
    · split <;> exact .release rfl (inside before trivial) (outside not_false) rfl
  | cancel id =>
    -- A dropped future gives the lock back where it awaits the refresher.
    simp only [step, cancelRequest] at taken
    split at taken <;> cases taken
    case h_5 before => exact .release rfl (inside before trivial) (outside not_false) rfl
    all_goals exact .keep rfl (by intro other same; cases same)
  | fail id error =>
    simp only [step, failRequest] at taken
    split at taken <;> cases taken <;> exact .keep rfl (by intro other same; cases same)
  | build id | readGeneration id | rebuild id | respondRetry id response =>
    simp only [step] at taken
    split at taken <;> cases taken <;> exact .keep rfl (by intro other same; cases same)
  | send id | sendRetry id | respond id response =>
    simp only [step] at taken
    split at taken
    · split at taken <;> cases taken <;> exact .keep rfl (by intro other same; cases same)
    · cases taken

theorem Progress.inRefresh {state target : ProxyState} {id : Nat} {action : Action}
    {source result : Request} (progress : Progress library state id action target source result)
    (inside : result.InRefresh) : source.InRefresh ∨ action = .lock id := by
  cases progress <;> simp_all [Request.InRefresh]

theorem step_guarded {state target : ProxyState} {action : Action} (guarded : state.Guarded)
    (taken : step library state action = some target) : target.Guarded := by
  intro other inside
  have entered : (state.request other).InRefresh ∨ action = .lock other := by
    rcases step_request taken other with same | progress
    · rw [same] at inside
      exact .inl inside
    · exact progress.inRefresh inside
  cases step_lock taken with
  | keep same quiet => rw [same]; exact guarded other (entered.resolve_right (quiet other))
  | @acquire id _ free held =>
    rcases entered with before | entering
    · -- The lock was free, so nobody was inside.
      rw [guarded other before] at free
      cases free
    · cases entering
      exact held
  | @release _ id _ own before outside free =>
    have already := entered.resolve_right (by rintro rfl; cases own; exact outside inside)
    have holder := guarded id before
    rw [guarded other already] at holder
    cases holder
    exact absurd inside outside
  | verify free held =>
    rw [guarded other (entered.resolve_right nofun)] at free
    cases free
  | verified held free =>
    rw [guarded other (entered.resolve_right nofun)] at held
    cases held

theorem runs_guarded {start final : ProxyState} {schedule : List Action} (guarded : start.Guarded)
    (run : Runs library start schedule final) : final.Guarded :=
  exec_invariant (fun _ _ _ => step_guarded) guarded run

theorem verify_keeps_lock {state target : ProxyState} {action : Action} {id : Nat}
    (guarded : state.Guarded) (own : action.request? = some id)
    (held : state.refreshLock = some .verify) (taken : step library state action = some target) :
    target.refreshLock = some .verify := by
  cases step_lock taken with
  | keep same quiet => rw [same, held]
  | acquire free _ => rw [held] at free; cases free
  | @release _ other _ _ inside _ _ =>
    have holder := guarded other inside
    rw [held] at holder
    cases holder
  | verify free _ | verified held free => cases own

/-! ## The holder of the lock is inside -/

theorem refresh_left {state target : ProxyState} {action : Action} {id : Nat}
    (taken : step library state action = some target) (inside : (state.request id).InRefresh) :
    (target.request id).InRefresh ∨ target.refreshLock = none := by
  -- A step of another request changes nothing here.
  have other {owner : Nat} {request : Request} (different : id ≠ owner) :
      ((state.setRequest owner request).request id).InRefresh := by
    rw [setRequest_other request different]
    exact inside
  cases action with
  | rekey key | installVerifiedState key groundTruth =>
    cases taken
    unfold installState
    split <;> exact .inl inside
  | revoke | setRefresher => cases taken; exact .inl inside
  | lockRefresh | unlockRefresh => simp only [step] at taken; split at taken <;> cases taken; exact .inl inside
  | build owner | readGeneration owner | rebuild owner | respondRetry owner response =>
    simp only [step] at taken
    split at taken <;> cases taken <;> rename_i before
    all_goals
      left
      apply other
      rintro rfl
      rw [before] at inside
      exact inside
  | lock owner =>
    simp only [step] at taken
    split at taken <;> cases taken
    rename_i before _
    left
    apply other
    rintro rfl
    rw [before] at inside
    exact inside
  | send owner | sendRetry owner | respond owner response =>
    simp only [step] at taken
    split at taken
    · rename_i before
      split at taken <;> cases taken
      all_goals
        left
        apply other
        rintro rfl
        rw [before] at inside
        exact inside
    · cases taken
  | reject owner =>
    simp only [step] at taken
    split at taken <;> cases taken
    unfold rejectIfGeneration
    split
    · exact .inr rfl
    · left
      by_cases same : id = owner
      · subst same
        simp [Request.InRefresh]
      · exact other same
  | callRefresher owner =>
    simp only [step] at taken
    split at taken
    · split at taken <;> cases taken
      · left
        by_cases same : id = owner
        · subst same
          simp [Request.InRefresh]
        · exact other same
      · exact .inr rfl
    · cases taken
  | refresherReturns owner result =>
    simp only [step] at taken
    split at taken <;> cases taken
    unfold refreshedWith
    split
    · exact .inr rfl
    · split
      · exact .inr rfl
      · left
        by_cases same : id = owner
        · subst same
          simp [Request.InRefresh]
        · exact other same
  | commit owner =>
    simp only [step] at taken
    split at taken <;> cases taken
    unfold commitRefresh
    split
    · exact .inr rfl
    · split <;> exact .inr rfl
  | fail owner error =>
    simp only [step, failRequest] at taken
    split at taken <;> cases taken <;> rename_i before
    all_goals
      left
      apply other
      rintro rfl
      rw [before] at inside
      exact inside
  | cancel owner =>
    simp only [step, cancelRequest] at taken
    split at taken <;> cases taken <;> rename_i before
    case h_5 => exact .inr rfl
    all_goals
      left
      apply other
      rintro rfl
      rw [before] at inside
      exact inside

def ProxyState.Held (state : ProxyState) : Prop :=
  ∀ id, state.refreshLock = some (.request id) → (state.request id).InRefresh

theorem step_held {state target : ProxyState} {action : Action} (held : state.Held)
    (taken : step library state action = some target) : target.Held := by
  intro id holder
  cases step_lock taken with
  | keep same quiet =>
    have inside := held id (by rw [← same, holder])
    rcases refresh_left taken inside with stays | free
    · exact stays
    · rw [free] at holder
      cases holder
  | @acquire owner _ free acquired =>
    rw [acquired] at holder
    cases holder
    simp only [step] at taken
    split at taken <;> cases taken
    simp [Request.InRefresh]
  | release own inside outside free => rw [free] at holder; cases holder
  | verify free acquired => rw [acquired] at holder; cases holder
  | verified acquired free => rw [free] at holder; cases holder

end Tinfoil.Ehbp
