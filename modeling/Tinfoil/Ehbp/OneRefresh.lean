import Tinfoil.Ehbp.Lock
import Tinfoil.Ehbp.Replay

/-! # One refresh for each rotation

Every change numbers the channel anew, so a generation stands for one installed state.  `OneRefresh`
says how often a run rejects such a state and calls the refresher for it, and what becomes of the other
requests that were sealed under it; `one_refresh` proves it for every run from a new proxy.
-/

namespace Tinfoil.Ehbp

open Tinfoil.Attestation Transition

variable {library : Library}

/-! ## Kinds of steps -/

/-- `reject_if_generation` of the request takes the state of this generation out. -/
def Rejects (id : Nat) (generation : UInt64) (source : ProxyState) (action : Action) (target : ProxyState) : Prop :=
  action = .reject id ∧ source.channel.generation = generation ∧ target.channel ≠ source.channel

/-- The request runs the refresher, having rejected the state of this generation. -/
def CallsRefresher (id : Nat) (generation : UInt64) (source : ProxyState) (action : Action)
    (target : ProxyState) : Prop :=
  action = .callRefresher id ∧ ∃ sealed reject, source.request id = .rejected generation sealed reject ∧
    target.request id = .refreshing generation sealed reject

/-- The first attempt of the request went out sealed under the state of this generation. -/
def SealedUnder (library : Library) (start : ProxyState) (schedule : List Action) (id : Nat)
    (generation : UInt64) : Prop :=
  ∃ before source target seen client, StepAt (step library) start schedule before source (.send id) target ∧
    target.request id = .waiting seen client ∧ source.channel.generation = generation

/-- The request gives its retry a client, or closes because there is none. -/
def RetryEnds (target : ProxyState) (id : Nat) : Prop :=
  (∃ seen sealed client, target.channel.client = some client ∧
    target.request id = .retried seen sealed client) ∨
  target.channel.client = none ∧ target.request id = .finished (.error revokedError)

structure OneRefresh (library : Library) (start : ProxyState) (schedule : List Action) (final : ProxyState) :
    Prop where
  /-- An installed state is rejected at most once, by whatever request. -/
  rejected : ∀ generation, (moments (step library) start schedule
    fun source action target => ∃ id, Rejects id generation source action target).Subsingleton
  /-- What is rejected is an installed state: that of the request which rejects it. -/
  installed : ∀ before source action target id generation,
    StepAt (step library) start schedule before source action target → Rejects id generation source action target →
      ∃ sealed, source.request id = .locked generation sealed ∧ source.channel.client = some sealed
  /-- The refresher runs at most once for a rejected state, -/
  refreshed : ∀ generation, (moments (step library) start schedule
    fun source action target => ∃ id, CallsRefresher id generation source action target).Subsingleton
  /-- and only after the request that runs it has rejected the state. -/
  preceded : ∀ before source action target id generation,
    StepAt (step library) start schedule before source action target →
    CallsRefresher id generation source action target →
      ∃ earlier between current closed, before = earlier ++ .reject id :: between ∧
        StepAt (step library) start schedule earlier current (.reject id) closed ∧
        Rejects id generation current (.reject id) closed
  /-- It runs at most once for all requests that were sealed under one installed state. -/
  shared : ∀ (ids : Set Nat) generation, (∀ id ∈ ids, SealedUnder library start schedule id generation) →
    (moments (step library) start schedule
      fun source action target => ∃ id ∈ ids, ∃ seen, CallsRefresher id seen source action target).Subsingleton
  /-- When one of them rejects it, the report of another one leaves the channel alone, and that request
  is on its retry ever after. -/
  others : ∀ first other generation before source target before' source' target',
    SealedUnder library start schedule other generation → first ≠ other →
    StepAt (step library) start schedule before source (.reject first) target →
    Rejects first generation source (.reject first) target →
    StepAt (step library) start schedule before' source' (.reject other) target' →
      target'.channel = source'.channel ∧
      (∃ seen sealed, target'.request other = .retrying seen sealed) ∧
      ∀ rest later, Runs library target' rest later → (later.request other).Past
  /-- A request that waits for the refresh lock waits for somebody who can release it. -/
  freed : ∀ other seen sealed, final.request other = .mismatched seen sealed →
    ∃ release freed, Runs library final release freed ∧ freed.refreshLock = none ∧
      ∀ action ∈ release, action.request? ≠ some other
  /-- With the lock free it gets to its retry by its own steps, if the state it was sealed under has been
  rejected by another one. -/
  proceeds : ∀ first other generation before source target seen sealed,
    SealedUnder library start schedule other generation →
    StepAt (step library) start schedule before source (.reject first) target →
    Rejects first generation source (.reject first) target →
    final.request other = .mismatched seen sealed → final.refreshLock = none →
      ∃ closing, Runs library final [.lock other, .reject other, .rebuild other, .sendRetry other] closing ∧
        closing.channel = final.channel ∧ RetryEnds closing other

/-! ## Rejects -/

theorem Rejects.spec {id : Nat} {generation : UInt64} {source target : ProxyState} {action : Action}
    (rejects : Rejects id generation source action target)
    (taken : step library source action = some target) :
    action = .reject id ∧ ∃ sealed, source.request id = .locked generation sealed ∧
      source.channel.generation = generation ∧ target.channel = source.channel.reject ∧
      target.request id = .rejected generation sealed target.channel.generation := by
  obtain ⟨rfl, current, changed⟩ := rejects
  obtain ⟨seen, sealed, locked, ⟨-, same, -⟩ | ⟨own, closed, rejected⟩⟩ := step_reject taken
  · exact absurd same changed
  · obtain rfl : seen = generation := own.symm.trans current
    exact ⟨rfl, sealed, locked, current, closed, rejected⟩

section Run

variable {start : ProxyState} {schedule : List Action}

theorem few_at {before : List Action} {source target : ProxyState} {action : Action}
    (few : generationChanges library start schedule < 2 ^ 64)
    (moment : StepAt (step library) start schedule before source action target) :
    generationChanges library start before < 2 ^ 64 := by
  obtain ⟨rest, rfl⟩ := moment.part
  rw [List.append_assoc] at few
  exact few_before moment.reached _ few

theorem generation_after_reject {before between : List Action} {source target state : ProxyState} {id : Nat}
    {generation : UInt64} {action : Action} (reached : Runs library start before source)
    (taken : step library source action = some target) (rejects : Rejects id generation source action target)
    (rest : Runs library target between state)
    (few : generationChanges library start (before ++ action :: between) < 2 ^ 64) :
    state.channel.generation ≠ generation := by
  intro back
  have left : Runs library source [action] target := by rw [Runs, exec_singleton, taken]
  have same : state.channel.generation = source.channel.generation := back.trans rejects.2.1.symm
  exact rejects.2.2 (frozen reached left rest few same).1

theorem rejected_once (few : generationChanges library start schedule < 2 ^ 64) (generation : UInt64) :
    (moments (step library) start schedule
      fun source action target => ∃ id, Rejects id generation source action target).Subsingleton := by
  apply moments_subsingleton
  rintro before between source source' target target' action action' first ⟨id, rejects⟩ rest second ⟨id', rejects'⟩
  exact generation_after_reject first.reached first.taken rejects rest (few_at few second) rejects'.2.1

/-! ## Calls of the refresher -/

def Request.Called (request : Request) : Prop :=
  (∃ seen sealed reject, request = .refreshing seen sealed reject) ∨
    (∃ seen sealed reject fresh refreshed, request = .committing seen sealed reject fresh refreshed) ∨
    request.Past

theorem Progress.called {state target : ProxyState} {id : Nat} {action : Action} {source result : Request}
    (progress : Progress library state id action target source result) (called : source.Called) :
    result.Called := by
  rcases called with ⟨seen, sealed, reject, rfl⟩ | ⟨seen, sealed, reject, fresh, refreshed, rfl⟩ | past
  · cases progress <;> simp [Request.Called, Request.Past, Request.Finished, Request.reject?]
  · cases progress <;> simp [Request.Called, Request.Past, Request.Finished, Request.reject?]
  · exact .inr (.inr (progress.past past))

theorem call_origin {before : List Action} {source target : ProxyState} {action : Action} {id : Nat}
    {generation : UInt64} (idle : start.request id = .idle)
    (moment : StepAt (step library) start schedule before source action target)
    (calls : CallsRefresher id generation source action target) :
    ∃ earlier between current closed, before = earlier ++ .reject id :: between ∧
      StepAt (step library) start schedule earlier current (.reject id) closed ∧
      Rejects id generation current (.reject id) closed ∧ Runs library closed between source := by
  obtain ⟨-, sealed, reject, pending, -⟩ := calls
  obtain ⟨earlier, between, current, closed, seen, sealed', rfl, reached, locked, own, taken, after, -, rest⟩ :=
    reject_origin (by rw [idle]; rfl) moment.reached
      (show (source.request id).reject? = some reject by rw [pending]; rfl)
  have whole : Runs library current (.reject id :: between) source :=
    exec_cons_some.mpr ⟨closed, taken, rest⟩
  obtain rfl : generation = seen := seen_unchanged whole
    (show (current.request id).seen? = some seen by rw [locked]; rfl)
    (show (source.request id).seen? = some generation by rw [pending]; rfl)
  refine ⟨earlier, between, current, closed, rfl, ⟨reached, taken, ?_⟩, ⟨rfl, own, ?_⟩, rest⟩
  · apply List.IsPrefix.trans _ ((List.prefix_append _ [action]).trans moment.part)
    exact ⟨between, by simp⟩
  · intro same
    have moved := congrArg EhbpChannel.generation (after.symm.trans same)
    exact EhbpChannel.generation_ne _ moved

theorem called_once (idle : ∀ id, start.request id = .idle)
    (few : generationChanges library start schedule < 2 ^ 64) (generation : UInt64) :
    (moments (step library) start schedule
      fun source action target => ∃ id, CallsRefresher id generation source action target).Subsingleton := by
  apply moments_subsingleton
  rintro before between source source' target target' action action' first ⟨id, calls⟩ rest second ⟨id', calls'⟩
  obtain ⟨earlier, _, current, closed, -, moment, rejects, -⟩ := call_origin (idle id) first calls
  obtain ⟨earlier', _, current', closed', -, moment', rejects', -⟩ := call_origin (idle id') second calls'
  -- Both calls go back to one reject, so they are calls of one request.
  obtain rfl := rejected_once few generation ⟨current, _, closed, moment, id, rejects⟩
    ⟨current', _, closed', moment', id', rejects'⟩
  cases moment.action_unique moment'
  obtain ⟨sealed, reject, -, calling⟩ := calls.2
  obtain ⟨sealed', reject', rejected, -⟩ := calls'.2
  have called : (source'.request id).Called :=
    request_invariant (fun progress => progress.called) rest (.inl ⟨_, _, _, calling⟩)
  rw [rejected] at called
  simp [Request.Called, Request.Past, Request.Finished, Request.reject?] at called

/-! ## Requests that share a state -/

theorem current_of_sealed {before between : List Action} {source sent state : ProxyState} {id : Nat}
    {carried seen : UInt64} {client : Client} (idle : start.request id = .idle)
    (reached : Runs library start before source) (taken : step library source (.send id) = some sent)
    (waiting : sent.request id = .waiting carried client) (rest : Runs library sent between state)
    (few : generationChanges library start (before ++ .send id :: between) < 2 ^ 64)
    (reports : (state.request id).seen? = some seen) (current : state.channel.generation = seen) :
    source.channel.generation = seen := by
  obtain rfl : seen = carried := seen_unchanged rest
    (show (sent.request id).seen? = some carried by rw [waiting]; rfl) reports
  have whole : Runs library source (.send id :: between) state := exec_cons_some.mpr ⟨sent, taken, rest⟩
  have ready : (source.request id).seen? = some seen := by
    simp only [step] at taken
    split at taken
    · rename_i own ready
      split at taken <;> cases taken
      · simp at waiting
      · simp only [setRequest_self, Request.waiting.injEq] at waiting
        rw [ready, ← waiting.1]
        rfl
    · cases taken
  obtain ⟨earlier, later, reader, rfl, toReader, toSource, read, -⟩ := seen_origin idle reached ready
  rw [List.append_assoc] at few
  rw [(frozen toReader toSource whole few (current.trans read.symm)).1, read]

/-- Past the first attempt of a request nothing sends it again. -/
def Request.Attempted (request : Request) : Prop := request.sealed?.isSome ∨ request.Finished

theorem Progress.attempted {state target : ProxyState} {id : Nat} {action : Action}
    {source result : Request} (progress : Progress library state id action target source result)
    (attempted : source.Attempted) : result.Attempted := by
  rcases attempted with sealing | finished
  · obtain ⟨client, carried⟩ := Option.isSome_iff_exists.mp sealing
    rcases progress.sealed_stable carried with same | finished
    · exact .inl (by rw [same]; rfl)
    · exact .inr finished
  · exact absurd finished progress.not_finished

/-- The state that a sealed request reports to be stale is the one it was sealed under. -/
theorem reject_of_sealed {before : List Action} {source target : ProxyState} {action : Action} {id : Nat}
    {generation sealedUnder : UInt64} (idle : start.request id = .idle)
    (few : generationChanges library start schedule < 2 ^ 64)
    (sealing : SealedUnder library start schedule id sealedUnder)
    (moment : StepAt (step library) start schedule before source action target)
    (rejects : Rejects id generation source action target) : sealedUnder = generation := by
  obtain ⟨rfl, sealed, locked, own, -, rejected⟩ := rejects.spec moment.taken
  obtain ⟨earlier, sending, sent, seen, client, sends, waiting, rfl⟩ := sealing
  obtain ⟨-, same, -, -⟩ | ⟨between, rfl, rest⟩ | ⟨between, rfl, rest⟩ := sends.order moment
  · cases same
  · exact current_of_sealed idle sends.reached sends.taken waiting rest (few_at few moment)
      (by rw [locked]; rfl) own
  · -- A request that is past its reject is not sent a first time.
    have attempted : (sending.request id).Attempted :=
      request_invariant (fun progress => progress.attempted) rest (.inl (by rw [rejected]; rfl))
    have ready := sends.taken
    simp only [step] at ready
    split at ready
    · rename_i held
      rw [held] at attempted
      simp [Request.Attempted, Request.sealed?, Request.Finished] at attempted
    · cases ready

theorem shared_once (idle : ∀ id, start.request id = .idle)
    (few : generationChanges library start schedule < 2 ^ 64) (ids : Set Nat) (generation : UInt64)
    (sealing : ∀ id ∈ ids, SealedUnder library start schedule id generation) :
    (moments (step library) start schedule
      fun source action target => ∃ id ∈ ids, ∃ seen, CallsRefresher id seen source action target).Subsingleton := by
  apply Set.Subsingleton.anti (called_once idle few generation)
  rintro before ⟨source, action, target, moment, id, member, seen, calls⟩
  obtain ⟨_, _, _, _, -, rejecting, rejects, -⟩ := call_origin (idle id) moment calls
  obtain rfl := reject_of_sealed (idle id) few (sealing id member) rejecting rejects
  exact ⟨source, action, target, moment, id, calls⟩

theorem other_report {first other : Nat} {generation : UInt64} {before before' : List Action}
    {source source' target target' : ProxyState} (idle : ∀ id, start.request id = .idle)
    (few : generationChanges library start schedule < 2 ^ 64)
    (sealing : SealedUnder library start schedule other generation) (different : first ≠ other)
    (moment : StepAt (step library) start schedule before source (.reject first) target)
    (rejects : Rejects first generation source (.reject first) target)
    (moment' : StepAt (step library) start schedule before' source' (.reject other) target') :
    target'.channel = source'.channel ∧
      (∃ seen sealed, target'.request other = .retrying seen sealed) ∧
      ∀ rest later, Runs library target' rest later → (later.request other).Past := by
  have quiet : target'.channel = source'.channel := by
    by_contra changed
    have rejects' : Rejects other source'.channel.generation source' (.reject other) target' := ⟨rfl, rfl, changed⟩
    obtain rfl := reject_of_sealed (idle other) few sealing moment' rejects'
    -- Then both have rejected the state they share.
    obtain rfl := rejected_once few _ ⟨_, _, _, moment, first, rejects⟩ ⟨_, _, _, moment', other, rejects'⟩
    cases moment.action_unique moment'
    exact different rfl
  obtain ⟨seen, sealed, -, ⟨-, -, retrying⟩ | ⟨-, closed, -⟩⟩ := step_reject moment'.taken
  · refine ⟨quiet, ⟨seen, sealed, retrying⟩, ?_⟩
    intro rest later run
    exact past_forever run (by rw [retrying]; exact ⟨rfl, .inr (.inl ⟨_, _, rfl⟩)⟩)
  · rw [quiet] at closed
    exact absurd (congrArg EhbpChannel.generation closed.symm) (EhbpChannel.generation_ne _)

theorem proceeds_to_retry {final : ProxyState} {first other : Nat} {generation seen : UInt64} {sealed : Client}
    {before : List Action} {source target : ProxyState} (idle : start.request other = .idle)
    (run : Runs library start schedule final) (few : generationChanges library start schedule < 2 ^ 64)
    (sealing : SealedUnder library start schedule other generation)
    (moment : StepAt (step library) start schedule before source (.reject first) target)
    (rejects : Rejects first generation source (.reject first) target)
    (mismatched : final.request other = .mismatched seen sealed) (free : final.refreshLock = none) :
    ∃ closing, Runs library final [.lock other, .reject other, .rebuild other, .sendRetry other] closing ∧
      closing.channel = final.channel ∧ RetryEnds closing other := by
  have stale : final.channel.generation ≠ seen := by
    intro current
    obtain ⟨earlier, sending, sent, carried, client, sends, waiting, rfl⟩ := sealing
    have own : sending.channel.generation = seen := by
      obtain ⟨rest, rfl⟩ := sends.part
      rw [List.append_assoc] at few
      obtain ⟨middle, toSent, toFinal⟩ := exec_append_some.mp run
      cases (exec_snoc sends.reached sends.taken).symm.trans toSent
      exact current_of_sealed idle sends.reached sends.taken waiting toFinal few
        (by rw [mismatched]; rfl) current
    obtain ⟨rest, rfl⟩ := moment.part
    rw [List.append_assoc] at few
    obtain ⟨middle, toTarget, toFinal⟩ := exec_append_some.mp run
    cases (exec_snoc moment.reached moment.taken).symm.trans toTarget
    exact generation_after_reject moment.reached moment.taken rejects toFinal few (current.trans own.symm)
  let locked : ProxyState :=
    { final.setRequest other (.locked seen sealed) with refreshLock := some (.request other) }
  let retrying := locked.release other (.retrying seen sealed)
  let rebuilt := retrying.setRequest other (.rebuilt seen sealed)
  have toLocked : step library final (.lock other) = some locked := by
    simp [step, mismatched, free, locked]
  have toRetrying : step library locked (.reject other) = some retrying := by
    have inside : locked.request other = .locked seen sealed := setRequest_self _ _ _
    have moved : locked.channel.generation ≠ seen := stale
    simp only [step, inside, rejectIfGeneration, if_pos moved]
    rfl
  have toRebuilt : step library retrying (.rebuild other) = some rebuilt := by
    have ready : retrying.request other = .retrying seen sealed := release_self _ _ _
    simp [step, ready, rebuilt]
  have ready : rebuilt.request other = .rebuilt seen sealed := setRequest_self _ _ _
  have toRetry : Runs library final [.lock other, .reject other, .rebuild other] rebuilt := by
    simp only [Runs, exec, toLocked, toRetrying, toRebuilt, Option.bind_some]
  -- The retry takes whatever client the channel has by now.
  rcases active : final.channel.client with _ | client
  · have closed : step library rebuilt (.sendRetry other) =
        some (rebuilt.setRequest other (.finished (.error revokedError))) := by
      have nothing : rebuilt.channel.client = none := active
      simp [step, ready, nothing]
    exact ⟨_, exec_snoc toRetry closed, rfl, .inr ⟨active, setRequest_self _ _ _⟩⟩
  · have open' : step library rebuilt (.sendRetry other) =
        some (rebuilt.setRequest other (.retried seen sealed client)) := by
      have sealing : rebuilt.channel.client = some client := active
      simp [step, ready, sealing]
    exact ⟨_, exec_snoc toRetry open', rfl, .inl ⟨seen, sealed, client, active, setRequest_self _ _ _⟩⟩

end Run

/-! ## The lock is released -/

def CanRelease (library : Library) (id : Nat) (state : ProxyState) : Prop :=
  ∃ release freed, Runs library state release freed ∧ freed.refreshLock = none ∧
    ∀ action ∈ release, action.request? = some id

theorem CanRelease.now {id : Nat} {state : ProxyState} (free : state.refreshLock = none) :
    CanRelease library id state := ⟨[], state, rfl, free, by simp⟩

theorem CanRelease.after {id : Nat} {state next : ProxyState} {action : Action}
    (own : action.request? = some id) (taken : step library state action = some next)
    (can : CanRelease library id next) : CanRelease library id state := by
  obtain ⟨release, freed, run, free, owns⟩ := can
  refine ⟨action :: release, freed, exec_cons_some.mpr ⟨next, taken, run⟩, free, ?_⟩
  simpa [own] using owns

theorem can_release_refreshing {id : Nat} {state : ProxyState} {seen reject : UInt64} {sealed : Client}
    (refreshing : state.request id = .refreshing seen sealed reject) : CanRelease library id state := by
  -- The refresher need not answer: its caller can be dropped.
  have taken : step library state (.cancel id) = some (state.release id (.finished .cancelled)) := by
    simp [step, cancelRequest, refreshing]
  exact .after rfl taken (.now rfl)

theorem can_release_rejected {id : Nat} {state : ProxyState} {seen reject : UInt64} {sealed : Client}
    (rejected : state.request id = .rejected seen sealed reject) : CanRelease library id state := by
  by_cases set : state.refresher
  · have taken : step library state (.callRefresher id) =
        some (state.setRequest id (.refreshing seen sealed reject)) := by
      simp [step, rejected, set]
    exact .after rfl taken (can_release_refreshing (setRequest_self _ _ _))
  · have taken : step library state (.callRefresher id) =
        some (state.release id (.finished (.error noRefresherError))) := by
      simp [step, rejected, set]
    exact .after rfl taken (.now rfl)

theorem can_release {id : Nat} {state : ProxyState} (inside : (state.request id).InRefresh) :
    CanRelease library id state := by
  cases held : state.request id with
  | locked seen sealed =>
    have taken : step library state (.reject id) = some (rejectIfGeneration state id seen sealed) := by
      simp [step, held]
    apply CanRelease.after rfl taken
    unfold rejectIfGeneration
    split
    · exact .now rfl
    · apply can_release_rejected
      exact setRequest_self _ _ _
  | rejected seen sealed reject => exact can_release_rejected held
  | refreshing seen sealed reject => exact can_release_refreshing held
  | committing seen sealed reject fresh refreshed =>
    have taken : step library state (.commit id) =
        some (commitRefresh state id seen sealed reject fresh refreshed) := by
      simp [step, held]
    apply CanRelease.after rfl taken
    apply CanRelease.now
    unfold commitRefresh
    split
    · rfl
    · split <;> rfl
  | _ =>
    rw [held] at inside
    exact inside.elim

theorem lock_can_be_freed {state : ProxyState} {other : Nat} {seen : UInt64} {sealed : Client}
    (held : state.Held) (mismatched : state.request other = .mismatched seen sealed) :
    ∃ release freed, Runs library state release freed ∧ freed.refreshLock = none ∧
      ∀ action ∈ release, action.request? ≠ some other := by
  rcases holder : state.refreshLock with _ | ⟨id⟩ | _
  · exact ⟨[], state, rfl, holder, by simp⟩
  · have inside := held id holder
    obtain ⟨release, freed, run, free, owns⟩ := can_release inside
    refine ⟨release, freed, run, free, ?_⟩
    intro action member own
    rw [owns action member] at own
    cases own
    rw [mismatched] at inside
    exact inside
  · refine ⟨[.unlockRefresh], { state with refreshLock := none }, ?_, rfl, ?_⟩
    · simp [Runs, step, holder]
    · intro action member own
      rw [List.mem_singleton.mp member] at own
      cases own

theorem new_held {key : String} {start : ProxyState} (built : EhbpProxy.new library key = .ok start) :
    start.Held := by
  unfold EhbpProxy.new at built
  split at built <;> cases built
  intro id holder
  cases holder

/-! ## At most one refresh -/

/-- In every run with fewer than `2^64` generation changes, whatever the requests, the refreshes and
`verify` do, one installed state costs at most one refresh. -/
theorem one_refresh {key : String} {start final : ProxyState} {schedule : List Action}
    (built : EhbpProxy.new library key = .ok start) (run : Runs library start schedule final)
    (few : generationChanges library start schedule < 2 ^ 64) :
    OneRefresh library start schedule final := by
  have idle := (EhbpProxy.new_fresh built).idle
  constructor
  case rejected => exact rejected_once few
  case installed =>
    intro before source action target id generation moment rejects
    obtain ⟨-, sealed, locked, own, -, -⟩ := rejects.spec moment.taken
    exact ⟨sealed, locked, reject_is_current (idle id) moment.reached (few_at few moment) locked own⟩
  case refreshed => exact called_once idle few
  case preceded =>
    intro before source action target id generation moment calls
    obtain ⟨earlier, between, current, closed, shape, rejecting, rejects, -⟩ := call_origin (idle id) moment calls
    exact ⟨earlier, between, current, closed, shape, rejecting, rejects⟩
  case shared => exact shared_once idle few
  case others =>
    intro first other generation before source target before' source' target' sealing different moment rejects moment'
    exact other_report idle few sealing different moment rejects moment'
  case freed =>
    intro other seen sealed mismatched
    have held := exec_invariant (fun _ _ _ => step_held) (new_held built) run
    exact lock_can_be_freed held mismatched
  case proceeds =>
    intro first other generation before source target seen sealed sealing moment rejects mismatched free
    exact proceeds_to_retry (idle other) run few sealing moment rejects mismatched free

/-- Two requests meet the rotation of one key; the first one refreshes, the second one is retried. -/
def twoMismatches : List Action :=
  [.setRefresher, .readGeneration 0, .build 0, .readGeneration 1, .build 1, .send 0, .send 1,
    .respond 0 (.keyMismatch "config"), .respond 1 (.keyMismatch "config"), .lock 0, .reject 0,
    .callRefresher 0, .refresherReturns 0 (.ok ⟨"new", none⟩), .commit 0, .lock 1, .reject 1, .rebuild 1,
    .sendRetry 1, .respondRetry 1 .success, .rebuild 0, .sendRetry 0, .respondRetry 0 .success]

theorem one_refresh_two_mismatches : ∃ start final,
    EhbpProxy.new ⟨fun _ => none⟩ "old" = .ok start ∧ Runs ⟨fun _ => none⟩ start twoMismatches final ∧
      final.channel.client = some ⟨"new"⟩ ∧ OneRefresh ⟨fun _ => none⟩ start twoMismatches final :=
  ⟨_, _, rfl, rfl, rfl, one_refresh rfl rfl (by decide)⟩

end Tinfoil.Ehbp
