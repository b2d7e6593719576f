import Tinfoil.Ehbp.TrustOrdering

/-! # Retries after a key mismatch

A request that the enclave answered with a key mismatch is sent once more.  `no_blind_replay`
says when that retry can go out under the key of the first attempt: only after something put
the key back, either an explicit install or the refresh of another request that had rejected
a different key.  `replay_without_explicit_install` shows that both do happen: what the
generations order is the installation of states, not the arrival of mismatches.
-/

namespace Tinfoil.Ehbp

open Tinfoil.Attestation Transition

variable {library : Library}

/-- A retry under the rejected key is preceded by an explicit install of that key after the
mismatch. -/
def NoReplay (library : Library) (start : ProxyState) (schedule : List Action) : Prop :=
  ∀ before id title between after waiting answered rebuilt target seen sealed retry,
    schedule = before ++ .respond id (.keyMismatch title) :: between ++ .sendRetry id :: after →
    Runs library start before waiting → waiting.request id = .waiting seen sealed →
    step library waiting (.respond id (.keyMismatch title)) = some answered →
    Runs library answered between rebuilt → step library rebuilt (.sendRetry id) = some target →
    target.request id = .retried seen sealed retry → retry.publicKey = sealed.publicKey →
    ∃ action ∈ between, ∃ refreshed, action.install? = some refreshed ∧
      refreshed.hpkePublicKey = sealed.publicKey

/-- The step makes `key` the sealing key, at the request of a caller or as the outcome of a
refresh, not the one of `id`, that rejected another key. -/
def Reinstalls (library : Library) (id : Nat) (key : String) (source : ProxyState)
    (action : Action) (target : ProxyState) : Prop :=
  step library source action = some target ∧ target.channel ≠ source.channel ∧
    target.channel.client = some ⟨key⟩ ∧
    ((∃ refreshed, action.install? = some refreshed ∧ refreshed.hpkePublicKey = key) ∨
      ∃ other rejected, other ≠ id ∧ action = .commit other ∧
        source.channel.rejectedPublicKey = some rejected ∧ rejected ≠ key)

/-- A request sealed in the state whose generation it had read is retried under the same key
only if the key was installed again since. -/
def NoBlindReplay (library : Library) (start : ProxyState) (schedule : List Action) : Prop :=
  ∀ before id between after sending sent rebuilt target seen sealed retry,
    schedule = before ++ .send id :: between ++ .sendRetry id :: after →
    Runs library start before sending → step library sending (.send id) = some sent →
    sent.request id = .waiting seen sealed → seen = sending.channel.generation →
    Runs library sent between rebuilt → step library rebuilt (.sendRetry id) = some target →
    target.request id = .retried seen sealed retry → retry.publicKey = sealed.publicKey →
    ∃ first action second source installed, between = first ++ action :: second ∧
      Runs library sent first source ∧ Reinstalls library id sealed.publicKey source action installed

/-! ## What the two sends leave behind -/

theorem waiting_of_send {state target : ProxyState} {id : Nat} {seen : UInt64} {sealed : Client}
    (taken : step library state (.send id) = some target)
    (waiting : target.request id = .waiting seen sealed) :
    target.channel = state.channel ∧ state.channel.client = some sealed := by
  simp only [step] at taken
  split at taken
  · split at taken <;> cases taken
    · simp at waiting
    · rename_i client active
      simp only [setRequest_self, Request.waiting.injEq] at waiting
      exact ⟨rfl, by rw [active, waiting.2]⟩
  · cases taken

theorem retried_of_sendRetry {state target : ProxyState} {id : Nat} {seen : UInt64}
    {sealed retry : Client} (taken : step library state (.sendRetry id) = some target)
    (retried : target.request id = .retried seen sealed retry) :
    state.request id = .rebuilt seen sealed ∧ state.channel.client = some retry := by
  simp only [step] at taken
  split at taken
  · rename_i before
    split at taken <;> cases taken
    · simp at retried
    · rename_i client active
      simp only [setRequest_self, Request.retried.injEq] at retried
      obtain ⟨rfl, rfl, rfl⟩ := retried
      exact ⟨before, active⟩
  · cases taken

/-! ## A retry follows a change -/

def Request.Retrying (request : Request) : Prop :=
  (∃ seen sealed, request = .retrying seen sealed) ∨ ∃ seen sealed, request = .rebuilt seen sealed

/-- A request goes on to its retry because its report was stale or its refresh is over. -/
theorem Progress.retrying {state target : ProxyState} {id : Nat} {action : Action}
    {source result : Request} (progress : Progress library state id action target source result)
    (attempt : ¬ source.Retrying) (retrying : result.Retrying) :
    (∃ seen, source.seen? = some seen ∧ state.channel.generation ≠ seen) ∨
      ∃ reject, source.reject? = some reject := by
  cases progress <;> simp_all [Request.Retrying, Request.seen?, Request.reject?]

theorem changed_before_retry {start sent rebuilt : ProxyState} {before between : List Action}
    {id : Nat} {seen : UInt64} {sealed : Client} (reached : Runs library start before sent)
    (run : Runs library sent between rebuilt)
    (few : generationChanges library start (before ++ between) < 2 ^ 64)
    (waiting : sent.request id = .waiting seen sealed) (read : seen = sent.channel.generation)
    (again : rebuilt.request id = .rebuilt seen sealed) : rebuilt.channel ≠ sent.channel := by
  intro same
  obtain ⟨first, action, second, source, next, rfl, left, attempt, taken, retrying, right⟩ :=
    exec_established (P := fun state => (state.request id).Retrying)
      (by rw [waiting]; simp [Request.Retrying]) (.inr ⟨seen, sealed, again⟩) run
  have rest : Runs library source (action :: second) rebuilt := exec_cons_some.mpr ⟨next, taken, right⟩
  have moved : next.request id ≠ source.request id := fun kept => attempt (kept ▸ retrying)
  have atSource := (frozen reached left rest few (by rw [same])).1
  rcases (progress_of_ne taken moved).retrying attempt retrying with
    ⟨other, carried, stale⟩ | ⟨reject, carried⟩
  · -- The report was not stale: the generation is the one the request read.
    have unchanged := seen_unchanged left (by rw [waiting]; rfl) carried
    exact stale (by rw [atSource, unchanged, read])
  · -- The reject of its own refresh would have changed the channel.
    obtain ⟨early, late, rejecting, rejected, _, _, rfl, toReject, _, _, step', closed, _, fromReject⟩ :=
      reject_origin (by rw [waiting]; rfl) left carried
    have tail : Runs library rejecting (.reject id :: late) source :=
      exec_cons_some.mpr ⟨rejected, step', fromReject⟩
    have few' : generationChanges library start (before ++ ((early ++ .reject id :: late))) < 2 ^ 64 :=
      few_before (exec_trans reached left) (action :: second) (by simpa using few)
    have atReject := (frozen reached toReject tail few' (by rw [atSource])).1
    have atRejected := (frozen reached (exec_snoc toReject step') fromReject (by simpa using few')
      (by rw [atSource])).1
    refine EhbpChannel.generation_ne rejecting.channel.generation ?_
    calc rejecting.channel.generation + 1
        = rejected.channel.generation := by rw [closed]; rfl
      _ = rejecting.channel.generation := by rw [atRejected, atReject]

/-! ## Who can put a key back -/

theorem own_commit_differs {start source : ProxyState} {schedule : List Action} {id : Nat}
    {seen reject : UInt64} {sealed fresh : Client} {refreshed : RefreshedState}
    (new : start.Fresh) (run : Runs library start schedule source)
    (few : generationChanges library start schedule < 2 ^ 64)
    (pending : source.request id = .committing seen sealed reject fresh refreshed)
    (current : source.channel.generation = reject)
    (attested : source.channel.rejectedPublicKey ≠ some refreshed.hpkePublicKey) :
    refreshed.hpkePublicKey ≠ sealed.publicKey := by
  intro same
  obtain ⟨before, after, rejecting, rejected, read, first, rfl, reached, locked, atRead, taken, closed,
    generation, rest⟩ := reject_origin (by rw [new.idle id]; rfl) run (by rw [pending]; rfl)
  have few' : generationChanges library start ((before ++ [.reject id]) ++ (after ++ [])) < 2 ^ 64 := by
    simpa using few
  obtain ⟨atSource, -⟩ := frozen (exec_snoc reached taken) rest (exec_nil _ _) few'
    (current.trans generation.symm)
  have active := reject_is_current (new.idle id) reached (few_before reached _ few) locked atRead
  have carried : (rejecting.request id).sealed? = some first := by rw [locked]; rfl
  have kept : sealed = first :=
    sealed_unchanged (exec_cons_some.mpr ⟨rejected, taken, rest⟩) carried (by rw [pending]; rfl)
  have bound := (runs_bound new.toBound reached).channel.bound
  -- The key that its own reject left behind is the one that it was sealed to.
  refine attested ?_
  rw [atSource, closed, EhbpChannel.reject_rejectedPublicKey, bound, active, same, kept]
  rfl

theorem reinstalls_of_change {start source target : ProxyState} {schedule : List Action}
    {action : Action} {id : Nat} {key : String} (new : start.Fresh)
    (run : Runs library start schedule source)
    (few : generationChanges library start schedule < 2 ^ 64)
    (first : ∀ client, (source.request id).sealed? = some client → client.publicKey = key)
    (taken : step library source action = some target) (moved : target.channel ≠ source.channel)
    (active : target.channel.client = some ⟨key⟩) :
    Reinstalls library id key source action target := by
  refine ⟨taken, moved, active, ?_⟩
  cases (step_channel taken).resolve_left moved with
  | install asked built after =>
    rw [after] at active
    cases active
    exact .inl ⟨_, asked, (Library.withPublicKeyHex_key built).symm⟩
  | revoke after | refuse _ _ _ after => rw [after] at active; cases active
  | reject _ _ after => rw [after] at active; cases active
  | @commit other seen sealed reject fresh refreshed _ pending current attested after =>
    -- The commit of another request: one of its own would bring a key it was not sealed to.
    right
    rw [after] at active
    cases active
    have bound := (runs_bound new.toBound run).pending _ _ _ _ _ _ pending
    have remembered := (pending_closed new run few (by rw [pending]; rfl) current).2
    obtain ⟨rejected, holds⟩ := Option.ne_none_iff_exists'.mp remembered
    refine ⟨other, rejected, ?_, rfl, holds, ?_⟩
    · rintro rfl
      refine own_commit_differs new run few pending current attested ?_
      rw [first sealed (by rw [pending]; rfl)]
      exact bound.symm
    · rintro rfl
      exact attested (by rw [holds, ← bound])

/-- The retry of every request, in every schedule with fewer than `2^64` generation changes. -/
theorem no_blind_replay {key : String} {start final : ProxyState} {schedule : List Action}
    (built : EhbpProxy.new library key = .ok start) (run : Runs library start schedule final)
    (few : generationChanges library start schedule < 2 ^ 64) :
    NoBlindReplay library start schedule := by
  have new := EhbpProxy.new_fresh built
  intro before id between after sending sent rebuilt target seen sealed retry shape reached taken
    waiting read rest again retried same
  subst shape
  obtain ⟨quiet, -⟩ := waiting_of_send taken waiting
  obtain ⟨resting, active⟩ := retried_of_sendRetry again retried
  have toSent := exec_snoc reached taken
  have few' : generationChanges library start ((before ++ [.send id]) ++ between) < 2 ^ 64 :=
    few_before (exec_trans toSent rest) (.sendRetry id :: after) (by simpa using few)
  have changed := changed_before_retry toSent rest few' waiting (by rw [read, quiet]) resting
  -- The step that gave the channel what the retry finds in it.
  obtain ⟨first, action, second, source, installed, rfl, left, other, step', shown, right⟩ :=
    exec_established (P := fun state => state.channel = rebuilt.channel)
      (fun same => changed same.symm) rfl rest
  refine ⟨first, action, second, source, installed, rfl, left, ?_⟩
  refine reinstalls_of_change new (exec_trans toSent left)
    (few_before (exec_trans toSent left) (action :: second) (by simpa using few')) ?_ step'
    (fun kept => other (kept.symm.trans shown)) ?_
  · intro client carried
    rw [sealed_unchanged left (by rw [waiting]; rfl) carried]
  · rw [shown, active, ← same]

/-- Request 0 of a proxy whose key is put back by another request between its two sends. -/
theorem no_blind_replay_rotations : ∃ start,
    EhbpProxy.new ⟨fun _ => none⟩ "old" = .ok start ∧
      NoBlindReplay ⟨fun _ => none⟩ start
        [.readGeneration 0, .build 0, .send 0, .respond 0 (.keyMismatch "config"), .rekey "new",
          .lock 0, .reject 0, .rekey "old", .rebuild 0, .sendRetry 0] :=
  ⟨_, rfl, no_blind_replay rfl rfl (by decide)⟩

/-- The key of the first attempt can come back without an explicit install after the mismatch:
installed again while the answer was on its way, or attested again when another request's
refresh rejected its successor. -/
theorem replay_without_explicit_install : ∃ start,
    EhbpProxy.new ⟨fun _ => none⟩ "old" = .ok start ∧
      ¬ NoReplay ⟨fun _ => none⟩ start
        [.readGeneration 0, .build 0, .send 0, .rekey "old", .respond 0 (.keyMismatch "config"),
          .lock 0, .reject 0, .rebuild 0, .sendRetry 0] ∧
      ¬ NoReplay ⟨fun _ => none⟩ start
        [.setRefresher, .readGeneration 0, .build 0, .send 0, .respond 0 (.keyMismatch "config"),
          .rekey "new", .readGeneration 1, .build 1, .send 1, .respond 1 (.keyMismatch "config"),
          .lock 1, .reject 1, .callRefresher 1, .refresherReturns 1 (.ok (.ofKey "old")), .commit 1,
          .lock 0, .reject 0, .rebuild 0, .sendRetry 0] := by
  refine ⟨_, rfl, ?_, ?_⟩
  · intro safe
    obtain ⟨action, member, refreshed, asked, -⟩ :=
      safe [.readGeneration 0, .build 0, .send 0, .rekey "old"] 0 "config"
        [.lock 0, .reject 0, .rebuild 0] [] _ _ _ _ 1 ⟨"old"⟩ ⟨"old"⟩ rfl rfl rfl rfl rfl rfl rfl rfl
    simp only [List.mem_cons, List.not_mem_nil, or_false] at member
    rcases member with rfl | rfl | rfl <;> cases asked
  · intro safe
    obtain ⟨action, member, refreshed, asked, same⟩ :=
      safe [.setRefresher, .readGeneration 0, .build 0, .send 0] 0 "config"
        [.rekey "new", .readGeneration 1, .build 1, .send 1, .respond 1 (.keyMismatch "config"),
          .lock 1, .reject 1, .callRefresher 1, .refresherReturns 1 (.ok (.ofKey "old")), .commit 1,
          .lock 0, .reject 0, .rebuild 0] [] _ _ _ _ 1 ⟨"old"⟩ ⟨"old"⟩ rfl rfl rfl rfl rfl rfl rfl rfl
    rcases List.mem_cons.mp member with rfl | member
    · cases asked
      exact absurd same (by decide)
    · -- No other action of the second schedule asks for an install.
      simp only [List.mem_cons, List.not_mem_nil, or_false] at member
      rcases member with rfl | rfl | rfl | rfl | rfl | rfl | rfl | rfl | rfl | rfl | rfl | rfl <;>
        cases asked

end Tinfoil.Ehbp
