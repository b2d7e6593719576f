import Tinfoil.Ehbp.OneRefresh
import Tinfoil.Ranking

/-! # Every request ends

A request goes through its points in one order, and whoever it waits for goes on.  `every_request_ends` says how many
steps a request takes in a run, and that it can always be brought to its end.
-/

namespace Tinfoil.Ehbp

open Transition

variable {library : Library} {state target : ProxyState} {action : Action} {id : Nat}

/-! ## The order of the points -/

def Request.rank : Request → Nat
  | .idle => 0
  | .built | .generationRead _ => 1
  | .ready _ => 2
  | .waiting .. => 3
  | .mismatched .. => 4
  | .locked .. => 5
  | .rejected .. => 6
  | .refreshing .. => 7
  | .committing .. => 8
  | .retrying .. => 9
  | .rebuilt .. => 10
  | .retried .. => 11
  | .finished _ => 12

theorem Request.rank_le (request : Request) : request.rank ≤ 12 := by cases request <;> simp [rank]

theorem Request.rank_of_live {request : Request} (live : ¬ request.Finished) : request.rank < 12 := by
  cases request with
  | finished outcome => exact absurd ⟨outcome, rfl⟩ live
  | _ => simp [rank]

theorem step_own (taken : step library state action = some target) (own : action.request? = some id) :
    ∃ result, target.request = Function.update state.request id result ∧ (state.request id).rank < result.rank := by
  have past {request result : Request} (before : state.request id = request) (later : request.rank < result.rank) :
      (state.request id).rank < result.rank := by rwa [before]
  cases action with
  | rekey key | installVerifiedState key groundTruth | revoke | setRefresher | lockRefresh | unlockRefresh => cases own
  | reject other =>
    cases own
    simp only [step] at taken
    split at taken <;> cases taken
    rename_i before
    unfold rejectIfGeneration
    split <;> exact ⟨_, rfl, past before (by simp [Request.rank])⟩
  | refresherReturns other result =>
    cases own
    simp only [step] at taken
    split at taken <;> cases taken
    rename_i before
    unfold refreshedWith
    split
    · exact ⟨_, rfl, past before (by simp [Request.rank])⟩
    · split <;> exact ⟨_, rfl, past before (by simp [Request.rank])⟩
  | commit other =>
    cases own
    simp only [step] at taken
    split at taken <;> cases taken
    rename_i before
    unfold commitRefresh
    split
    · exact ⟨_, rfl, past before (by simp [Request.rank])⟩
    · split <;> exact ⟨_, rfl, past before (by simp [Request.rank])⟩
  | fail other error =>
    cases own
    simp only [step, failRequest] at taken
    split at taken <;> cases taken <;> rename_i before <;> exact ⟨_, rfl, past before (by simp [Request.rank])⟩
  | cancel other =>
    cases own
    simp only [step, cancelRequest] at taken
    split at taken <;> cases taken <;> rename_i before <;> exact ⟨_, rfl, past before (by simp [Request.rank])⟩
  | send other | respond other response | callRefresher other | sendRetry other =>
    cases own
    simp only [step] at taken
    split at taken
    · rename_i before
      split at taken <;> cases taken <;> exact ⟨_, rfl, past before (by simp [Request.rank])⟩
    · cases taken
  | lock other =>
    cases own
    simp only [step] at taken
    split at taken <;> cases taken
    rename_i before _
    exact ⟨_, rfl, past before (by simp [Request.rank])⟩
  | build other | readGeneration other | rebuild other | respondRetry other response =>
    cases own
    simp only [step] at taken
    split at taken <;> cases taken <;> rename_i before <;> exact ⟨_, rfl, past before (by simp [Request.rank])⟩

theorem rank_raised (taken : step library state action = some target) (own : action.request? = some id) :
    (state.request id).rank < (target.request id).rank := by
  obtain ⟨result, after, later⟩ := step_own taken own
  rwa [after, Function.update_self]

theorem request_kept (taken : step library state action = some target) (other : action.request? ≠ some id) :
    target.request id = state.request id := by
  cases owner : action.request? with
  | none =>
    -- An action of no request is one on the channel, the refresher or the lock.
    cases action with
    | rekey key | installVerifiedState key groundTruth =>
      cases taken
      unfold installState
      split <;> rfl
    | revoke | setRefresher =>
      cases taken
      rfl
    | lockRefresh | unlockRefresh =>
      simp only [step] at taken
      split at taken <;> cases taken
      rfl
    | _ => cases owner
  | some owner' =>
    obtain ⟨result, after, -⟩ := step_own taken owner
    rw [after, Function.update_of_ne]
    rintro rfl
    exact other owner

theorem rank_kept (taken : step library state action = some target) (id : Nat) :
    (state.request id).rank ≤ (target.request id).rank := by
  by_cases own : action.request? = some id
  · exact (rank_raised taken own).le
  · rw [request_kept taken own]

/-! ## How many steps it takes -/

def Action.isOf (id : Nat) (action : Action) : Bool := action.request? = some id

/-- A sealed attempt goes out, or would if the channel were open. -/
def Action.isSend (id : Nat) : Action → Bool
  | .send other | .sendRetry other => other = id
  | _ => false

def Action.isRefresh (id : Nat) : Action → Bool
  | .callRefresher other => other = id
  | _ => false

/-- The attempts that go before a point, at most. -/
def Request.sends (request : Request) : Nat :=
  if request.rank ≤ 2 then 0 else if request.rank ≤ 10 then 1 else 2

def Request.refreshes (request : Request) : Nat := if request.rank ≤ 6 then 0 else 1

theorem Request.sends_mono {request later : Request} (after : request.rank ≤ later.rank) :
    request.sends ≤ later.sends := by
  unfold sends
  split_ifs <;> omega

theorem Request.refreshes_mono {request later : Request} (after : request.rank ≤ later.rank) :
    request.refreshes ≤ later.refreshes := by
  unfold refreshes
  split_ifs <;> omega

theorem sends_raised (taken : step library state action = some target) (sends : action.isSend id = true) :
    (state.request id).sends < (target.request id).sends := by
  have own : action.request? = some id := by
    cases action <;> simp_all [Action.isSend, Action.request?]
  have later := rank_raised taken own
  -- The first attempt goes from the third point, the second from the last but two.
  have point : (state.request id).rank = 2 ∨ (state.request id).rank = 10 := by
    cases action with
    | send other =>
      cases own
      simp only [step] at taken
      split at taken
      · rename_i before
        exact .inl (by rw [before]; rfl)
      · cases taken
    | sendRetry other =>
      cases own
      simp only [step] at taken
      split at taken
      · rename_i before
        exact .inr (by rw [before]; rfl)
      · cases taken
    | _ => cases sends
  unfold Request.sends
  split_ifs <;> omega

theorem refreshes_raised (taken : step library state action = some target) (refreshes : action.isRefresh id = true) :
    (state.request id).refreshes < (target.request id).refreshes := by
  cases action with
  | callRefresher other =>
    obtain rfl : other = id := of_decide_eq_true refreshes
    have later := rank_raised taken rfl
    have point : (state.request other).rank = 6 := by
      simp only [step] at taken
      split at taken
      · rename_i before
        rw [before]
        rfl
      · cases taken
    unfold Request.refreshes
    split_ifs <;> omega
  | _ => cases refreshes

section Run

variable {start final : ProxyState} {schedule : List Action}

theorem steps_le (run : Runs library start schedule final) (id : Nat) : schedule.countP (Action.isOf id) ≤ 12 := by
  have counted := countP_add_rank_le (Action.isOf id) (fun state => (state.request id).rank)
    (fun _ _ _ taken => rank_kept taken id) (fun _ _ _ taken own => rank_raised taken (of_decide_eq_true own)) run
  have last := (final.request id).rank_le
  omega

theorem sends_le (run : Runs library start schedule final) (id : Nat) : schedule.countP (Action.isSend id) ≤ 2 := by
  have counted := countP_add_rank_le (Action.isSend id) (fun state => (state.request id).sends)
    (fun _ _ _ taken => Request.sends_mono (rank_kept taken id)) (fun _ _ _ taken sends => sends_raised taken sends) run
  have last : (final.request id).sends ≤ 2 := by
    unfold Request.sends
    split_ifs <;> omega
  omega

theorem refreshes_le (run : Runs library start schedule final) (id : Nat) :
    schedule.countP (Action.isRefresh id) ≤ 1 := by
  have counted := countP_add_rank_le (Action.isRefresh id) (fun state => (state.request id).refreshes)
    (fun _ _ _ taken => Request.refreshes_mono (rank_kept taken id))
    (fun _ _ _ taken refreshes => refreshes_raised taken refreshes) run
  have last : (final.request id).refreshes ≤ 1 := by
    unfold Request.refreshes
    split_ifs <;> omega
  omega

end Run

/-! ## Who waits goes on -/

/-- What the enclave answers to the two attempts of a request, and the refresher to its call, in the state that the
proxy is in. -/
structure Answers where
  respond : ProxyState → Nat → Response
  respondRetry : ProxyState → Nat → Response
  refresherReturns : ProxyState → Nat → Except Error RefreshedState

section Answers

variable (answers : Answers)

/-- Nothing fails or is dropped, nobody else acts on the proxy, and every answer is the given one. -/
def Action.Regular (state : ProxyState) : Action → Prop
  | .fail .. | .cancel _ => False
  | .rekey _ | .installVerifiedState .. | .revoke | .setRefresher | .lockRefresh => False
  | .respond id given => given = answers.respond state id
  | .respondRetry id given => given = answers.respondRetry state id
  | .refresherReturns id given => given = answers.refresherReturns state id
  | _ => True

variable (library) in
theorem exists_own_step (live : ¬ (state.request id).Finished)
    (free : (state.request id).rank = 4 → state.refreshLock = none) :
    ∃ action, action.Regular answers state ∧ action.request? = some id ∧ (step library state action).isSome := by
  cases before : state.request id with
  | idle => exact ⟨.build id, trivial, rfl, by simp [step, before]⟩
  | built => exact ⟨.readGeneration id, trivial, rfl, by simp [step, before]⟩
  | generationRead seen => exact ⟨.build id, trivial, rfl, by simp [step, before]⟩
  | ready seen =>
    refine ⟨.send id, trivial, rfl, ?_⟩
    cases active : state.channel.client <;> simp [step, before, active]
  | waiting seen sealed =>
    refine ⟨.respond id (answers.respond state id), rfl, rfl, ?_⟩
    cases answers.respond state id <;> simp [step, before]
  | mismatched seen sealed =>
    have unlocked := free (by rw [before]; rfl)
    exact ⟨.lock id, trivial, rfl, by simp [step, before, unlocked]⟩
  | locked seen sealed => exact ⟨.reject id, trivial, rfl, by simp [step, before]⟩
  | rejected seen sealed reject =>
    refine ⟨.callRefresher id, trivial, rfl, ?_⟩
    cases set : state.refresher <;> simp [step, before, set]
  | refreshing seen sealed reject =>
    exact ⟨.refresherReturns id (answers.refresherReturns state id), rfl, rfl, by simp [step, before]⟩
  | committing seen sealed reject fresh refreshed => exact ⟨.commit id, trivial, rfl, by simp [step, before]⟩
  | retrying seen sealed => exact ⟨.rebuild id, trivial, rfl, by simp [step, before]⟩
  | rebuilt seen sealed =>
    refine ⟨.sendRetry id, trivial, rfl, ?_⟩
    cases active : state.channel.client <;> simp [step, before, active]
  | retried seen sealed retry =>
    exact ⟨.respondRetry id (answers.respondRetry state id), rfl, rfl, by simp [step, before]⟩
  | finished outcome => exact absurd ⟨outcome, before⟩ live

theorem Request.InRefresh.rank {request : Request} (inside : request.InRefresh) :
    5 ≤ request.rank ∧ request.rank ≤ 8 := by
  cases request <;> simp_all [Request.InRefresh, Request.rank]

def ProxyState.lockLeft (state : ProxyState) : Nat :=
  match state.refreshLock with
  | none => 0
  | some .verify => 1
  | some (.request holder) => 13 - (state.request holder).rank

theorem ProxyState.lockLeft_le (state : ProxyState) : state.lockLeft ≤ 13 := by
  unfold lockLeft
  split <;> omega

def ProxyState.left (state : ProxyState) (id : Nat) : Nat := (12 - (state.request id).rank) * 14 + state.lockLeft

variable (library) in
theorem exists_holder_step {holder : LockHolder} (held : state.Held) (locked : state.refreshLock = some holder) :
    ∃ action next, action.Regular answers state ∧ step library state action = some next ∧
      (∀ id, ¬ (state.request id).InRefresh → action.request? ≠ some id) ∧ next.lockLeft < state.lockLeft := by
  cases holder with
  | verify =>
    refine ⟨.unlockRefresh, { state with refreshLock := none }, trivial, by simp [step, locked], fun id _ => nofun, ?_⟩
    simp [ProxyState.lockLeft, locked]
  | request owner =>
    have inside := held owner locked
    have bounds := inside.rank
    have live : ¬ (state.request owner).Finished := by
      rintro ⟨outcome, ended⟩
      rw [ended] at inside
      exact inside
    obtain ⟨action, regular, own, possible⟩ :=
      exists_own_step library answers live fun point => by omega
    obtain ⟨next, taken⟩ := Option.isSome_iff_exists.mp possible
    have before : state.lockLeft = 13 - (state.request owner).rank := by simp [ProxyState.lockLeft, locked]
    have later := rank_raised taken own
    refine ⟨action, next, regular, taken, fun id outside same => ?_, ?_⟩
    · rw [own] at same
      cases same
      exact outside inside
    · rw [before]
      -- The lock is kept by the same request, at a later point, or is free.
      cases step_lock taken with
      | keep same quiet =>
        have after : next.lockLeft = 13 - (next.request owner).rank := by simp [ProxyState.lockLeft, same, locked]
        omega
      | acquire free acquired | verify free acquired =>
        rw [free] at locked
        cases locked
      | release _ _ _ free =>
        have after : next.lockLeft = 0 := by simp [ProxyState.lockLeft, free]
        omega
      | verified holds free =>
        rw [holds] at locked
        cases locked

theorem exists_step (held : state.Held) (live : ¬ (state.request id).Finished) :
    ∃ action next, action.Regular answers state ∧ step library state action = some next ∧ next.Held ∧
      next.left id < state.left id := by
  have rank := Request.rank_of_live live
  by_cases free : (state.request id).rank = 4 → state.refreshLock = none
  · obtain ⟨action, regular, own, possible⟩ := exists_own_step library answers live free
    obtain ⟨next, taken⟩ := Option.isSome_iff_exists.mp possible
    -- A point of its own outweighs all that it may have before it as the holder.
    have later := rank_raised taken own
    have small := next.lockLeft_le
    refine ⟨action, next, regular, taken, step_held held taken, ?_⟩
    unfold ProxyState.left
    omega
  · -- It waits for the lock, and is not the one that holds it.
    obtain ⟨point, locked⟩ := Classical.not_imp.mp free
    obtain ⟨holder, locked⟩ := Option.ne_none_iff_exists'.mp locked
    obtain ⟨action, next, regular, taken, others, lower⟩ :=
      exists_holder_step library answers held locked
    have outside : ¬ (state.request id).InRefresh := fun inside => by
      have bounds := inside.rank
      omega
    have same := request_kept taken (others id outside)
    refine ⟨action, next, regular, taken, step_held held taken, ?_⟩
    unfold ProxyState.left
    rw [same]
    omega

/-- In every run a request takes at most twelve steps, is sent at most twice and calls the refresher at most once.  And
whatever the run has come to, and whatever the enclave and the refresher answer to each attempt and each call from there
on, the request can be brought to its end by steps of requests, and by `verify` dropping its guard, without a future
that is dropped: it never waits for good. -/
theorem every_request_ends {key : String} {start final : ProxyState} {schedule : List Action}
    (built : EhbpProxy.new library key = .ok start) (run : Runs library start schedule final) (id : Nat) :
    schedule.countP (Action.isOf id) ≤ 12 ∧ schedule.countP (Action.isSend id) ≤ 2 ∧
      schedule.countP (Action.isRefresh id) ≤ 1 ∧
      ∃ more ended, Runs library final more ended ∧ (ended.request id).Finished ∧
        ∀ before source action target, StepAt (step library) final more before source action target →
          action.Regular answers source := by
  have held : final.Held := exec_invariant (fun _ _ _ held taken => step_held held taken) (new_held built) run
  refine ⟨steps_le run id, sends_le run id, refreshes_le run id, ?_⟩
  exact exec_ends (fun state : ProxyState => state.left id) (fun state held live => exists_step answers held live) held

end Answers

/-- One request refreshes, and another one waits for the lock. -/
def lockedOut : List Action :=
  [.setRefresher, .readGeneration 0, .build 0, .readGeneration 1, .build 1, .send 0, .send 1,
    .respond 0 (.keyMismatch "config"), .respond 1 (.keyMismatch "config"), .lock 0, .reject 0, .callRefresher 0]

/-- The refresher brings another key, which the enclave takes from the first request and not from the others. -/
def partlyRotated : Answers where
  respond _ _ := .keyMismatch "config"
  respondRetry _ id := if id = 0 then .success else .keyMismatch "config"
  refresherReturns _ _ := .ok ⟨"new", none⟩

theorem locked_out_ends : ∃ start final seen sealed,
    EhbpProxy.new ⟨fun _ => none⟩ "old" = .ok start ∧ Runs ⟨fun _ => none⟩ start lockedOut final ∧
      final.refreshLock = some (.request 0) ∧ final.request 1 = .mismatched seen sealed ∧
      ∃ more ended, Runs ⟨fun _ => none⟩ final more ended ∧ (ended.request 1).Finished ∧
        ∀ before source action target, StepAt (step ⟨fun _ => none⟩) final more before source action target →
          action.Regular partlyRotated source := by
  obtain ⟨start, final, seen, sealed, built, run, locked, waiting⟩ : ∃ start final seen sealed,
      EhbpProxy.new ⟨fun _ => none⟩ "old" = .ok start ∧ Runs ⟨fun _ => none⟩ start lockedOut final ∧
        final.refreshLock = some (.request 0) ∧ final.request 1 = .mismatched seen sealed :=
    ⟨_, _, _, _, rfl, rfl, rfl, rfl⟩
  have ends := every_request_ends partlyRotated built run 1
  exact ⟨start, final, seen, sealed, built, run, locked, waiting, ends.2.2.2⟩

end Tinfoil.Ehbp
