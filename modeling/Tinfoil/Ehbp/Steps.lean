import Tinfoil.Ehbp.Protocol

/-! # What one step of the proxy can do

Two inversion lemmas carry every result about runs.  `step_channel` lists the five ways in
which a step changes the channel, `step_request` the ways in which it moves one request; each
alternative records the guard that the source checked.  From them:

* `generation_counts` — the generation moves by one whenever the channel changes;
* `step_wellFormed` — the channel keeps its one reading;
* `Progress.seen_stable`, `Progress.seen_read` and their siblings — what a request has in its
  locals stays there, and where it came from.
-/

namespace Tinfoil.Ehbp

open Tinfoil.Attestation Transition

variable {library : Library}

/-! ## Requests at rest -/

@[simp] theorem setRequest_self (state : ProxyState) (id : Nat) (request : Request) :
    (state.setRequest id request).request id = request := by
  simp [ProxyState.setRequest]

@[simp] theorem setRequest_channel (state : ProxyState) (id : Nat) (request : Request) :
    (state.setRequest id request).channel = state.channel := rfl

@[simp] theorem release_self (state : ProxyState) (id : Nat) (request : Request) :
    (state.release id request).request id = request := by
  simp [ProxyState.release]

@[simp] theorem release_channel (state : ProxyState) (id : Nat) (request : Request) :
    (state.release id request).channel = state.channel := rfl

theorem setRequest_other {state : ProxyState} {id other : Nat} (request : Request)
    (different : other ≠ id) : (state.setRequest id request).request other = state.request other := by
  simp [ProxyState.setRequest, different]

def Action.request? : Action → Option Nat
  | .build id | .readGeneration id | .send id | .respond id _ | .lock id | .reject id
  | .callRefresher id | .refresherReturns id _ | .commit id | .rebuild id | .sendRetry id
  | .respondRetry id _ | .fail id _ | .cancel id => some id
  | .rekey _ | .installVerifiedState _ _ | .revoke | .setRefresher | .lockRefresh
  | .unlockRefresh => none

def Action.install? : Action → Option RefreshedState
  | .rekey key => some (.ofKey key)
  | .installVerifiedState key groundTruth => some ⟨key, some groundTruth⟩
  | _ => none

/-! ## Changes of the channel -/

/-- The five ways in which an action changes the channel. -/
inductive Change (library : Library) (state : ProxyState) : Action → ProxyState → Prop where
  | install {action refreshed client target} (asked : action.install? = some refreshed)
      (built : library.withPublicKeyHex refreshed.hpkePublicKey = .ok client)
      (after : target.channel = state.channel.setActive client refreshed) :
      Change library state action target
  | revoke {target} (after : target.channel = state.channel.clear) :
      Change library state .revoke target
  | reject {id seen sealed target} (before : state.request id = .locked seen sealed)
      (current : state.channel.generation = seen)
      (after : target.channel = state.channel.reject) :
      Change library state (.reject id) target
  | refuse {id seen sealed reject fresh refreshed target}
      (before : state.request id = .committing seen sealed reject fresh refreshed)
      (current : state.channel.generation = reject)
      (rejected : state.channel.rejectedPublicKey = some refreshed.hpkePublicKey)
      (after : target.channel = state.channel.clear) :
      Change library state (.commit id) target
  | commit {id seen sealed reject fresh refreshed target}
      (before : state.request id = .committing seen sealed reject fresh refreshed)
      (current : state.channel.generation = reject)
      (attested : state.channel.rejectedPublicKey ≠ some refreshed.hpkePublicKey)
      (after : target.channel = state.channel.setActive fresh refreshed) :
      Change library state (.commit id) target

theorem installState_channel (state : ProxyState) (action : Action) (refreshed : RefreshedState)
    (asked : action.install? = some refreshed) :
    (installState library state refreshed).channel = state.channel ∨
      Change library state action (installState library state refreshed) := by
  unfold installState
  split
  · exact .inl rfl
  · rename_i client built
    exact .inr (.install asked built rfl)

theorem step_channel {state target : ProxyState} {action : Action}
    (taken : step library state action = some target) :
    target.channel = state.channel ∨ Change library state action target := by
  cases action with
  | rekey key => cases taken; exact installState_channel state _ _ rfl
  | installVerifiedState key groundTruth => cases taken; exact installState_channel state _ _ rfl
  | revoke => cases taken; exact .inr (.revoke rfl)
  | setRefresher => cases taken; exact .inl rfl
  | lockRefresh | unlockRefresh => simp only [step] at taken; split at taken <;> cases taken; exact .inl rfl
  | reject id =>
    simp only [step] at taken
    split at taken <;> cases taken
    rename_i seen sealed before
    unfold rejectIfGeneration
    split
    · exact .inl rfl
    · rename_i current
      exact .inr (.reject before (Decidable.not_not.mp current) rfl)
  | commit id =>
    simp only [step] at taken
    split at taken <;> cases taken
    rename_i seen sealed reject fresh refreshed before
    unfold commitRefresh
    split
    · exact .inl rfl
    · rename_i current
      have current := Decidable.not_not.mp current
      split
      · rename_i rejected
        exact .inr (.refuse before current rejected rfl)
      · rename_i attested
        exact .inr (.commit before current attested rfl)
  | refresherReturns id result =>
    simp only [step] at taken
    split at taken <;> cases taken
    left
    unfold refreshedWith
    split
    · rfl
    · split <;> rfl
  | fail id error =>
    simp only [step, failRequest] at taken
    split at taken <;> cases taken <;> exact .inl rfl
  | cancel id =>
    simp only [step, cancelRequest] at taken
    split at taken <;> cases taken <;> exact .inl rfl
  | build id | readGeneration id | rebuild id | respondRetry id response | lock id =>
    simp only [step] at taken
    split at taken <;> cases taken <;> exact .inl rfl
  | send id | sendRetry id | respond id response | callRefresher id =>
    simp only [step] at taken
    split at taken
    · split at taken <;> cases taken <;> exact .inl rfl
    · cases taken

theorem Change.generation {state target : ProxyState} {action : Action}
    (change : Change library state action target) :
    target.channel.generation = state.channel.generation + 1 := by
  cases change with
  | install _ _ after | revoke after | reject _ _ after | refuse _ _ _ after
  | commit _ _ _ after => rw [after]; rfl

theorem Change.generation_ne {state target : ProxyState} {action : Action}
    (change : Change library state action target) :
    target.channel.generation ≠ state.channel.generation := by
  rw [change.generation]
  exact EhbpChannel.generation_ne _

abbrev generationOf (state : ProxyState) : UInt64 := state.channel.generation

theorem generation_counts : Counts (step library) generationOf := by
  intro state action next taken
  rcases step_channel taken with same | change
  · exact .inl (by rw [generationOf, same])
  · exact .inr change.generation

theorem channel_of_generation {state target : ProxyState} {action : Action}
    (taken : step library state action = some target)
    (same : target.channel.generation = state.channel.generation) :
    target.channel = state.channel :=
  (step_channel taken).resolve_right fun change => change.generation_ne same

/-! ## Progress of one request -/

/-- The ways in which an action moves the request it belongs to. -/
inductive Progress (library : Library) (state : ProxyState) (id : Nat) :
    Action → ProxyState → Request → Request → Prop where
  | built {target} : Progress library state id (.build id) target .idle .built
  | builtAfterRead {target seen} :
      Progress library state id (.build id) target (.generationRead seen) (.ready seen)
  | read {target} (quiet : target.channel = state.channel) :
      Progress library state id (.readGeneration id) target .idle
        (.generationRead state.channel.generation)
  | readAfterBuild {target} (quiet : target.channel = state.channel) :
      Progress library state id (.readGeneration id) target .built
        (.ready state.channel.generation)
  | send {target seen client} (active : state.channel.client = some client)
      (quiet : target.channel = state.channel) :
      Progress library state id (.send id) target (.ready seen) (.waiting seen client)
  | mismatch {target seen sealed title} :
      Progress library state id (.respond id (.keyMismatch title)) target (.waiting seen sealed)
        (.mismatched seen sealed)
  | lock {target seen sealed} :
      Progress library state id (.lock id) target (.mismatched seen sealed) (.locked seen sealed)
  | stale {target seen sealed} (moved : state.channel.generation ≠ seen) :
      Progress library state id (.reject id) target (.locked seen sealed) (.retrying seen sealed)
  | reject {target seen sealed} (current : state.channel.generation = seen)
      (after : target.channel = state.channel.reject) :
      Progress library state id (.reject id) target (.locked seen sealed)
        (.rejected seen sealed target.channel.generation)
  | refresh {target seen sealed reject} :
      Progress library state id (.callRefresher id) target (.rejected seen sealed reject)
        (.refreshing seen sealed reject)
  | refreshed {target seen sealed reject fresh refreshed}
      (built : library.withPublicKeyHex refreshed.hpkePublicKey = .ok fresh) :
      Progress library state id (.refresherReturns id (.ok refreshed)) target
        (.refreshing seen sealed reject) (.committing seen sealed reject fresh refreshed)
  | superseded {target seen sealed reject fresh refreshed}
      (moved : state.channel.generation ≠ reject) :
      Progress library state id (.commit id) target
        (.committing seen sealed reject fresh refreshed) (.retrying seen sealed)
  | committed {target seen sealed reject fresh refreshed}
      (after : target.channel = state.channel.setActive fresh refreshed) :
      Progress library state id (.commit id) target
        (.committing seen sealed reject fresh refreshed) (.retrying seen sealed)
  | rebuild {target seen sealed} :
      Progress library state id (.rebuild id) target (.retrying seen sealed) (.rebuilt seen sealed)
  | retry {target seen sealed client} (active : state.channel.client = some client) :
      Progress library state id (.sendRetry id) target (.rebuilt seen sealed)
        (.retried seen sealed client)
  | finish {action target request outcome} (live : ∀ outcome, request ≠ .finished outcome) :
      Progress library state id action target request (.finished outcome)

theorem request_of_setRequest {state target : ProxyState} {action : Action} {id other : Nat}
    {request : Request} (result : target.request = (state.setRequest id request).request)
    (moves : other = id → Progress library state other action target (state.request other) request) :
    target.request other = state.request other ∨
      Progress library state other action target (state.request other) (target.request other) := by
  by_cases same : other = id
  · subst same
    right
    rw [result, setRequest_self]
    exact moves rfl
  · left
    rw [result, setRequest_other request same]

theorem step_request {state target : ProxyState} {action : Action}
    (taken : step library state action = some target) (other : Nat) :
    target.request other = state.request other ∨
      Progress library state other action target (state.request other) (target.request other) := by
  cases action with
  | rekey key | installVerifiedState key groundTruth =>
    cases taken
    left
    unfold installState
    split <;> rfl
  | revoke | setRefresher => cases taken; exact .inl rfl
  | lockRefresh | unlockRefresh => simp only [step] at taken; split at taken <;> cases taken; exact .inl rfl
  | build id =>
    simp only [step] at taken
    split at taken <;> cases taken <;> rename_i before
    · exact request_of_setRequest rfl fun same => by subst same; rw [before]; exact .built
    · exact request_of_setRequest rfl fun same => by subst same; rw [before]; exact .builtAfterRead
  | readGeneration id =>
    simp only [step] at taken
    split at taken <;> cases taken <;> rename_i before
    · exact request_of_setRequest rfl fun same => by subst same; rw [before]; exact .read rfl
    · exact request_of_setRequest rfl fun same => by subst same; rw [before]; exact .readAfterBuild rfl
  | send id =>
    simp only [step] at taken
    split at taken
    · rename_i seen before
      split at taken <;> cases taken
      · exact request_of_setRequest rfl fun same => by subst same; rw [before]; exact .finish nofun
      · rename_i client active
        exact request_of_setRequest rfl fun same => by subst same; rw [before]; exact .send active rfl
    · cases taken
  | respond id response =>
    simp only [step] at taken
    split at taken
    · rename_i seen sealed before
      split at taken <;> cases taken
      · exact request_of_setRequest rfl fun same => by subst same; rw [before]; exact .mismatch
      all_goals exact request_of_setRequest rfl fun same => by subst same; rw [before]; exact .finish nofun
    · cases taken
  | lock id =>
    simp only [step] at taken
    split at taken <;> cases taken
    rename_i seen sealed before _
    exact request_of_setRequest rfl fun same => by subst same; rw [before]; exact .lock
  | reject id =>
    -- A stale report is passed over; a current one closes the channel.
    simp only [step] at taken
    split at taken <;> cases taken
    rename_i seen sealed before
    unfold rejectIfGeneration
    split
    · rename_i moved
      exact request_of_setRequest rfl fun same => by subst same; rw [before]; exact .stale moved
    · rename_i current
      exact request_of_setRequest rfl fun same => by
        subst same; rw [before]; exact .reject (Decidable.not_not.mp current) rfl
  | callRefresher id =>
    simp only [step] at taken
    split at taken
    · rename_i seen sealed reject before
      split at taken <;> cases taken
      · exact request_of_setRequest rfl fun same => by subst same; rw [before]; exact .refresh
      · exact request_of_setRequest rfl fun same => by subst same; rw [before]; exact .finish nofun
    · cases taken
  | refresherReturns id result =>
    simp only [step] at taken
    split at taken <;> cases taken
    rename_i seen sealed reject before
    unfold refreshedWith
    split
    · exact request_of_setRequest rfl fun same => by subst same; rw [before]; exact .finish nofun
    · split
      · exact request_of_setRequest rfl fun same => by subst same; rw [before]; exact .finish nofun
      · rename_i built
        exact request_of_setRequest rfl fun same => by subst same; rw [before]; exact .refreshed built
  | commit id =>
    -- What another install has overtaken is not installed, and the request retries all the same.
    simp only [step] at taken
    split at taken <;> cases taken
    rename_i seen sealed reject fresh refreshed before
    unfold commitRefresh
    split
    · rename_i moved
      exact request_of_setRequest rfl fun same => by subst same; rw [before]; exact .superseded moved
    · split
      · exact request_of_setRequest rfl fun same => by subst same; rw [before]; exact .finish nofun
      · exact request_of_setRequest rfl fun same => by subst same; rw [before]; exact .committed rfl
  | rebuild id =>
    simp only [step] at taken
    split at taken <;> cases taken
    rename_i before
    exact request_of_setRequest rfl fun same => by subst same; rw [before]; exact .rebuild
  | sendRetry id =>
    simp only [step] at taken
    split at taken
    · rename_i seen sealed before
      split at taken <;> cases taken
      · exact request_of_setRequest rfl fun same => by subst same; rw [before]; exact .finish nofun
      · rename_i active
        exact request_of_setRequest rfl fun same => by subst same; rw [before]; exact .retry active
    · cases taken
  | respondRetry id response =>
    simp only [step] at taken
    split at taken <;> cases taken
    rename_i before
    exact request_of_setRequest rfl fun same => by subst same; rw [before]; exact .finish nofun
  | fail id error =>
    simp only [step, failRequest] at taken
    split at taken <;> cases taken <;> rename_i before <;>
      exact request_of_setRequest rfl fun same => by subst same; rw [before]; exact .finish nofun
  | cancel id =>
    simp only [step, cancelRequest] at taken
    split at taken <;> cases taken <;> rename_i before <;>
      exact request_of_setRequest rfl fun same => by subst same; rw [before]; exact .finish nofun

/-- The two ways in which a reject can go: a stale report ends the refresh, a current one
closes the channel. -/
theorem step_reject {state target : ProxyState} {id : Nat}
    (taken : step library state (.reject id) = some target) :
    ∃ seen sealed, state.request id = .locked seen sealed ∧
      ((state.channel.generation ≠ seen ∧ target.channel = state.channel ∧
          target.request id = .retrying seen sealed) ∨
        (state.channel.generation = seen ∧ target.channel = state.channel.reject ∧
          target.request id = .rejected seen sealed target.channel.generation)) := by
  simp only [step] at taken
  split at taken <;> cases taken
  rename_i seen sealed locked
  refine ⟨seen, sealed, locked, ?_⟩
  unfold rejectIfGeneration
  split
  · rename_i moved
    exact .inl ⟨moved, rfl, by simp⟩
  · rename_i current
    exact .inr ⟨Decidable.not_not.mp current, rfl, by simp⟩

/-! ## What a request carries -/

def Request.seen? : Request → Option UInt64
  | .generationRead seen | .ready seen | .waiting seen _ | .mismatched seen _ | .locked seen _
  | .rejected seen _ _ | .refreshing seen _ _ | .committing seen _ _ _ _ | .retrying seen _
  | .rebuilt seen _ | .retried seen _ _ => some seen
  | .idle | .built | .finished _ => none

def Request.sealed? : Request → Option Client
  | .waiting _ sealed | .mismatched _ sealed | .locked _ sealed | .rejected _ sealed _
  | .refreshing _ sealed _ | .committing _ sealed _ _ _ | .retrying _ sealed | .rebuilt _ sealed
  | .retried _ sealed _ => some sealed
  | .idle | .built | .generationRead _ | .ready _ | .finished _ => none

def Request.reject? : Request → Option UInt64
  | .rejected _ _ reject | .refreshing _ _ reject | .committing _ _ reject _ _ => some reject
  | _ => none

def Request.Finished (request : Request) : Prop := ∃ outcome, request = .finished outcome

namespace Progress

variable {state target : ProxyState} {id : Nat} {action : Action} {source result : Request}

theorem not_finished (progress : Progress library state id action target source result) :
    ¬ source.Finished := by
  rintro ⟨outcome, rfl⟩
  cases progress with
  | finish live => exact live outcome rfl

theorem seen_stable (progress : Progress library state id action target source result)
    {seen : UInt64} (carried : source.seen? = some seen) :
    result.seen? = some seen ∨ result.Finished := by
  cases progress <;> simp_all [Request.seen?, Request.Finished]

theorem sealed_stable (progress : Progress library state id action target source result)
    {client : Client} (carried : source.sealed? = some client) :
    result.sealed? = some client ∨ result.Finished := by
  cases progress <;> simp_all [Request.sealed?, Request.Finished]

theorem seen_read (progress : Progress library state id action target source result)
    {seen : UInt64} (fresh : source.seen? ≠ some seen) (carried : result.seen? = some seen) :
    state.channel.generation = seen ∧ target.channel = state.channel ∧ result.sealed? = none := by
  cases progress <;> simp_all [Request.seen?, Request.sealed?]

theorem sealed_sent (progress : Progress library state id action target source result)
    {client : Client} (fresh : source.sealed? ≠ some client)
    (carried : result.sealed? = some client) :
    state.channel.client = some client ∧ target.channel = state.channel ∧
      source.seen? = result.seen? := by
  cases progress <;> simp_all [Request.seen?, Request.sealed?]

/-- A pending refresh goes back to a reject of the request itself, which found the generation
it had seen. -/
theorem reject_origin (progress : Progress library state id action target source result)
    {reject : UInt64} (fresh : source.reject? ≠ some reject)
    (carried : result.reject? = some reject) :
    action = .reject id ∧ target.channel = state.channel.reject ∧
      target.channel.generation = reject ∧ source.seen? = some state.channel.generation ∧
      ∃ seen sealed, source = .locked seen sealed := by
  cases progress <;> simp_all [Request.seen?, Request.reject?]

/-- The generation of a pending refresh does not change until the refresh is over. -/
theorem reject_stable (progress : Progress library state id action target source result)
    {reject : UInt64} (carried : source.reject? = some reject) :
    result.reject? = some reject ∨ result.Finished ∨
      ∃ seen sealed, result = .retrying seen sealed := by
  cases progress <;> simp_all [Request.reject?, Request.Finished]

end Progress

/-! ## The channel keeps its one reading -/

/-- Clients about to be committed are bound to the key that will be published with them. -/
structure ProxyState.Bound (state : ProxyState) : Prop where
  channel : state.channel.WellFormed
  pending : ∀ id seen sealed reject fresh refreshed,
    state.request id = .committing seen sealed reject fresh refreshed →
      fresh.publicKey = refreshed.hpkePublicKey

theorem step_bound {state target : ProxyState} {action : Action} (bound : state.Bound)
    (taken : step library state action = some target) : target.Bound := by
  constructor
  · rcases step_channel taken with same | change
    · rw [same]; exact bound.channel
    · cases change with
      | install asked built after =>
        rw [after]
        exact EhbpChannel.setActive_wellFormed (Library.withPublicKeyHex_key built)
      | revoke after | refuse _ _ _ after => rw [after]; exact EhbpChannel.clear_wellFormed _
      | reject before current after => rw [after]; exact EhbpChannel.reject_wellFormed _
      | commit before current attested after =>
        rw [after]
        exact EhbpChannel.setActive_wellFormed (bound.pending _ _ _ _ _ _ before)
  · intro id seen sealed reject fresh refreshed pending
    rcases step_request taken id with same | progress
    · exact bound.pending id _ _ _ _ _ (same ▸ pending)
    · generalize state.request id = source at progress
      rw [pending] at progress
      cases progress with
      | refreshed built => exact Library.withPublicKeyHex_key built

end Tinfoil.Ehbp
