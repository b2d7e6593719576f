import Tinfoil.Ehbp.History

/-! # Trust changes win over late mismatches and refreshes

For every schedule with fewer than `2^64` generation changes: a mismatch only ever acts on
the state its request was sealed under, a refresh commits only when nothing intervened since
its own reject, a revoked channel opens again only through an explicit install, and the key a
refresh rejected does not come back through that refresh.
-/

namespace Tinfoil.Ehbp

open Tinfoil.Attestation Transition

variable {library : Library}

/-- `revoke`, or a `rekey` or `install_verified_state` whose key the library accepts. -/
def Action.ChangesTrust (library : Library) (action : Action) : Prop :=
  action = .revoke ∨
    ∃ refreshed, action.install? = some refreshed ∧ library.keyError refreshed.hpkePublicKey = none

/-- An action of `between` installed the state that `current` still shows. -/
def InstalledSince (library : Library) (sent : ProxyState) (between : List Action)
    (current : ProxyState) : Prop :=
  ∃ first install second source installed, between = first ++ install :: second ∧
    Runs library sent first source ∧ step library source install = some installed ∧
    installed.channel ≠ source.channel ∧ installed.channel.client.isSome ∧
    installed.channel = current.channel

structure TrustOrdering (library : Library) (start : ProxyState) (schedule : List Action) :
    Prop where
  /-- No step of a request touches a state that was installed after the request was sealed. -/
  keepsNewer : ∀ before id between action after sent current target,
    schedule = before ++ .send id :: between ++ action :: after →
    Runs library start (before ++ [.send id]) sent → Runs library sent between current →
    step library current action = some target → action.request? = some id →
    InstalledSince library sent between current → target.channel = current.channel
  /-- A refresh acts on the channel only when no trust change happened since its own reject,
  and the channel is still the one its reject left. -/
  commitsUncontested : ∀ before id between after rejecting rejected current target,
    schedule = before ++ .reject id :: between ++ .commit id :: after →
    Runs library start before rejecting → step library rejecting (.reject id) = some rejected →
    Runs library rejected between current → step library current (.commit id) = some target →
    target.channel ≠ current.channel →
    current.channel = rejecting.channel.reject ∧
      ∀ action ∈ between, ¬ action.ChangesTrust library
  /-- After `revoke` the channel stays closed until an explicit install. -/
  revokedStaysClosed : ∀ before between after revoking revoked current,
    schedule = before ++ .revoke :: between ++ after →
    Runs library start before revoking → step library revoking .revoke = some revoked →
    Runs library revoked between current → (∀ action ∈ between, action.install? = none) →
    current.channel.client = none
  /-- A refresh never activates the key that it rejected, which is the key its request was
  sealed under. -/
  rejectedStaysOut : ∀ before id between after rejecting rejected current target client,
    schedule = before ++ .reject id :: between ++ .commit id :: after →
    Runs library start before rejecting → step library rejecting (.reject id) = some rejected →
    Runs library rejected between current → step library current (.commit id) = some target →
    target.channel ≠ current.channel → target.channel.client = some client →
    rejecting.channel.publicKey ≠ some client.publicKey ∧
      ∀ sealed, (rejecting.request id).sealed? = some sealed → sealed.publicKey ≠ client.publicKey

/-! ## Trust changes change the channel -/

theorem Action.ChangesTrust.changes {state target : ProxyState} {action : Action}
    (trust : action.ChangesTrust library) (taken : step library state action = some target) :
    Change library state action target := by
  rcases trust with rfl | ⟨refreshed, asked, usable⟩
  · cases taken
    exact .revoke rfl
  · have built : library.withPublicKeyHex refreshed.hpkePublicKey = .ok ⟨refreshed.hpkePublicKey⟩ := by
      simp [Library.withPublicKeyHex, usable]
    cases action <;> cases asked <;> cases taken <;>
      exact .install rfl built (by simp only [installState, built])

theorem Change.of_request {state target : ProxyState} {action : Action} {id : Nat}
    (change : Change library state action target) (own : action.request? = some id) :
    (action = .reject id ∧ ∃ seen sealed, state.request id = .locked seen sealed ∧
        state.channel.generation = seen) ∨
      (action = .commit id ∧ ∃ reject, (state.request id).reject? = some reject ∧
        state.channel.generation = reject) := by
  cases change with
  | install asked built after => cases action <;> cases asked <;> cases own
  | revoke after => cases own
  | reject before current after => cases own; exact .inl ⟨rfl, _, _, before, current⟩
  | refuse before current rejected after =>
    cases own; exact .inr ⟨rfl, _, by rw [before]; rfl, current⟩
  | commit before current attested after =>
    cases own; exact .inr ⟨rfl, _, by rw [before]; rfl, current⟩

/-! ## Commits -/

structure ProxyState.Fresh (state : ProxyState) : Prop extends state.Bound where
  idle : ∀ id, state.request id = .idle

theorem EhbpProxy.new_fresh {key : String} {start : ProxyState}
    (built : EhbpProxy.new library key = .ok start) : start.Fresh := by
  unfold EhbpProxy.new at built
  split at built <;> cases built
  rename_i client made
  exact
    { channel := EhbpChannel.setActive_wellFormed (Library.withPublicKeyHex_key made)
      pending := by intro id seen sealed reject fresh refreshed pending; cases pending
      idle := fun _ => rfl }

/-- While a commit can still take effect, the channel is closed and remembers the key that the
reject of that refresh took out. -/
theorem pending_closed {start current : ProxyState} {schedule : List Action} {id : Nat}
    {reject : UInt64} (fresh : start.Fresh) (run : Runs library start schedule current)
    (few : generationChanges library start schedule < 2 ^ 64)
    (carried : (current.request id).reject? = some reject)
    (same : current.channel.generation = reject) :
    current.channel.client = none ∧ current.channel.rejectedPublicKey ≠ none := by
  obtain ⟨before, after, source, rejected, seen, sealed, rfl, reached, locked, read, taken, closed,
    generation, rest⟩ := reject_origin (by rw [fresh.idle id]; rfl) run carried
  have few' : generationChanges library start ((before ++ [.reject id]) ++ (after ++ [])) < 2 ^ 64 := by
    simpa using few
  obtain ⟨atCurrent, -⟩ := frozen (exec_snoc reached taken) rest (exec_nil _ _) few'
    (same.trans generation.symm)
  have active := reject_is_current (fresh.idle id) reached (few_before reached _ few) locked read
  have bound := (runs_bound fresh.toBound reached).channel.bound
  rw [atCurrent, closed]
  exact ⟨rfl, by simp [bound, active]⟩

theorem commit_after_reject {start rejecting rejected current target : ProxyState}
    {before between : List Action} {id : Nat} (reached : Runs library start before rejecting)
    (taken : step library rejecting (.reject id) = some rejected)
    (rest : Runs library rejected between current)
    (few : generationChanges library start (before ++ .reject id :: between) < 2 ^ 64)
    (commit : step library current (.commit id) = some target)
    (acted : target.channel ≠ current.channel) :
    rejected.channel = rejecting.channel.reject ∧ current.channel = rejected.channel ∧
      ∃ seen sealed, rejecting.request id = .locked seen sealed ∧
        rejecting.channel.generation = seen := by
  have change := (step_channel commit).resolve_left acted
  obtain ⟨wrong, -⟩ | ⟨-, reject, pending, same⟩ := change.of_request rfl
  · cases wrong
  obtain ⟨seen, sealed, locked, ⟨-, -, retrying⟩ | ⟨read, closed, rejectedNow⟩⟩ := step_reject taken
  · -- A stale report leaves nothing to commit.
    have past : (current.request id).Past :=
      past_forever rest (by rw [retrying]; exact ⟨rfl, .inr (.inl ⟨_, _, rfl⟩)⟩)
    rw [past.1] at pending
    cases pending
  · have generation := reject_unchanged rest (by rw [rejectedNow]; rfl) pending
    have few' : generationChanges library start ((before ++ [.reject id]) ++ (between ++ [])) < 2 ^ 64 := by
      simpa using few
    obtain ⟨atCurrent, -⟩ := frozen (exec_snoc reached taken) rest (exec_nil _ _) few'
      (same.trans generation)
    exact ⟨closed, atCurrent, seen, sealed, locked, read⟩

theorem no_trust_change {start state final : ProxyState} {before between : List Action}
    (reached : Runs library start before state) (run : Runs library state between final)
    (few : generationChanges library start (before ++ between) < 2 ^ 64)
    (same : final.channel.generation = state.channel.generation) :
    ∀ action ∈ between, ¬ action.ChangesTrust library := by
  intro action member trust
  obtain ⟨first, second, rfl⟩ := List.append_of_mem member
  obtain ⟨source, left, right⟩ := exec_append_some.mp run
  obtain ⟨next, taken, rest⟩ := exec_cons_some.mp right
  obtain ⟨atSource, -⟩ := frozen reached left right few same
  obtain ⟨atNext, -⟩ := frozen reached (exec_snoc left taken) rest (by simpa using few) same
  exact (trust.changes taken).generation_ne (by rw [atSource, atNext])

/-! ## Revocation -/

/-- A channel that is closed without a rejected key is opened by an explicit install only: a
refresh commits only over the key it has itself rejected. -/
theorem step_closed {start state target : ProxyState} {before : List Action} {action : Action}
    (fresh : start.Fresh) (reached : Runs library start before state)
    (few : generationChanges library start before < 2 ^ 64)
    (shut : state.channel.trust = .closed none) (explicit : action.install? = none)
    (taken : step library state action = some target) : target.channel.trust = .closed none := by
  rcases step_channel taken with same | change
  · rw [same]; exact shut
  · cases change with
    | install asked built after =>
      rw [explicit] at asked
      cases asked
    | revoke after | refuse _ _ _ after => rw [after]; rfl
    | reject before current after =>
      rw [after, EhbpChannel.trust_reject (runs_bound fresh.toBound reached).channel, shut]
      rfl
    | commit before current attested after =>
      obtain ⟨inactive, remembered⟩ :=
        pending_closed fresh reached few (by rw [before]; rfl) current
      simp only [EhbpChannel.trust, inactive, EhbpChannel.Trust.closed.injEq] at shut
      exact absurd shut remembered

theorem closed_until_install {start closed current : ProxyState} {before between : List Action}
    (fresh : start.Fresh) (reached : Runs library start before closed)
    (shut : closed.channel.trust = .closed none) (run : Runs library closed between current)
    (few : generationChanges library start (before ++ between) < 2 ^ 64)
    (explicit : ∀ action ∈ between, action.install? = none) :
    current.channel.trust = .closed none := by
  induction between using List.reverseRecOn generalizing current with
  | nil => cases run; exact shut
  | append_singleton actions action ih =>
    obtain ⟨middle, left, right⟩ := exec_append_some.mp run
    rw [exec_singleton] at right
    rw [← List.append_assoc] at few
    have toMiddle := exec_trans reached left
    have fewMiddle := few_before toMiddle _ few
    have shutMiddle := ih left fewMiddle fun act member => explicit act (by simp [member])
    exact step_closed fresh toMiddle fewMiddle shutMiddle (explicit action (by simp)) right

/-! ## The ordering -/

theorem step_send {state target : ProxyState} {id : Nat}
    (taken : step library state (.send id) = some target) : ∃ seen, state.request id = .ready seen := by
  simp only [step] at taken
  split at taken
  · rename_i seen before
    exact ⟨seen, before⟩
  · cases taken

theorem reject_after_send {start sent middle current : ProxyState}
    {before first second : List Action} {id : Nat} {seen : UInt64} {sealed : Client}
    (fresh : start.Fresh) (reached : Runs library start (before ++ [.send id]) sent)
    (left : Runs library sent first middle) (right : Runs library middle second current)
    (few : generationChanges library start (before ++ .send id :: (first ++ second)) < 2 ^ 64)
    (locked : current.request id = .locked seen sealed)
    (same : current.channel.generation = seen) : middle.channel = current.channel := by
  obtain ⟨sending, toSending, send⟩ := exec_append_some.mp reached
  rw [exec_singleton] at send
  obtain ⟨read, ready⟩ := step_send send
  have toCurrent := exec_cons_some.mpr ⟨sent, send, exec_trans left right⟩
  have carried : (sending.request id).seen? = some read := by rw [ready]; rfl
  have unchanged := seen_unchanged toCurrent carried (by rw [locked]; rfl)
  obtain ⟨early, late, reader, rfl, toReader, rest, generation, -⟩ :=
    seen_origin (fresh.idle id) toSending carried
  have toMiddle := exec_trans rest (exec_cons_some.mpr ⟨sent, send, left⟩)
  obtain ⟨atMiddle, atCurrent⟩ := frozen toReader toMiddle right (by simpa using few)
    (same.trans (unchanged.trans generation.symm))
  rw [atMiddle, atCurrent]

/-- Trust ordering holds of every schedule with fewer than `2^64` generation changes. -/
theorem trust_ordering {key : String} {start final : ProxyState} {schedule : List Action}
    (built : EhbpProxy.new library key = .ok start) (run : Runs library start schedule final)
    (few : generationChanges library start schedule < 2 ^ 64) :
    TrustOrdering library start schedule := by
  have fresh := EhbpProxy.new_fresh built
  constructor
  case keepsNewer =>
    -- To act on the channel, the request would have to find the generation that it read, or its own reject.
    rintro before id between action after sent current target rfl reached rest taken own
      ⟨first, install, second, source, installed, rfl, left, step', changed, active, shown⟩
    by_contra acted
    have change := (step_channel taken).resolve_left acted
    have right : Runs library source (install :: second) current := by
      obtain ⟨source', left', right⟩ := exec_append_some.mp rest
      rw [left] at left'
      cases left'
      exact right
    have toCurrent := exec_trans reached rest
    have few' : generationChanges library start
        (before ++ .send id :: (first ++ install :: second)) < 2 ^ 64 := by
      exact few_before (by simpa using toCurrent) (action :: after) (by simpa using few)
    obtain ⟨-, seen, sealed, locked, same⟩ | ⟨-, reject, pending, same⟩ := change.of_request own
    · exact changed (shown.trans (reject_after_send fresh reached left right few' locked same).symm)
    · have inactive := (pending_closed fresh toCurrent (by simpa using few') pending same).1
      rw [shown, inactive] at active
      cases active
  case commitsUncontested =>
    -- The generation says that nobody installed or revoked between the reject and the commit.
    rintro before id between after rejecting rejected current target rfl reached taken rest commit
      acted
    have toCurrent := exec_trans (exec_snoc reached taken) rest
    have few' : generationChanges library start ((before ++ [.reject id]) ++ between) < 2 ^ 64 :=
      few_before toCurrent (.commit id :: after) (by simpa using few)
    obtain ⟨closed, unchanged, -⟩ :=
      commit_after_reject reached taken rest (by simpa using few') commit acted
    exact ⟨unchanged.trans closed, no_trust_change (exec_snoc reached taken) rest few' (by rw [unchanged])⟩
  case revokedStaysClosed =>
    rintro before between after revoking revoked current rfl reached taken rest explicit
    have few' : generationChanges library start ((before ++ [.revoke]) ++ between) < 2 ^ 64 :=
      few_before (exec_trans (exec_snoc reached taken) rest) after (by simpa using few)
    have shut : revoked.channel.trust = .closed none := by cases taken; rfl
    have closed := closed_until_install fresh (exec_snoc reached taken) shut rest few' explicit
    cases active : current.channel.client with
    | none => rfl
    | some client => simp [EhbpChannel.trust, active] at closed
  case rejectedStaysOut =>
    -- The channel remembers the key that it rejected, so that a commit of it is refused.
    rintro before id between after rejecting rejected current target client rfl reached taken rest
      commit acted active
    have toCurrent := exec_trans (exec_snoc reached taken) rest
    have few' : generationChanges library start (before ++ .reject id :: between) < 2 ^ 64 := by
      have short := few_before toCurrent (.commit id :: after) (by simpa using few)
      simpa using short
    obtain ⟨closed, unchanged, seen, sealed, locked, read⟩ :=
      commit_after_reject reached taken rest few' commit acted
    have different : rejecting.channel.publicKey ≠ some client.publicKey := by
      cases (step_channel commit).resolve_left acted with
      | install asked _ _ => cases asked
      | refuse _ _ _ after => rw [after] at active; cases active
      | commit pending _ attested after =>
        rw [after] at active
        cases active
        rw [(runs_bound fresh.toBound toCurrent).pending _ _ _ _ _ _ pending]
        rwa [unchanged, closed] at attested
    refine ⟨different, fun other carried same => different ?_⟩
    have sealedActive := reject_is_current (fresh.idle id) reached (few_before reached _ few') locked read
    rw [locked] at carried
    cases carried
    rw [(runs_bound fresh.toBound reached).channel.bound, sealedActive, ← same]
    rfl

/-- A rotation that a revocation overtakes: the refresh of request 0 finds its commit void. -/
theorem trust_ordering_overtaken : ∃ start,
    EhbpProxy.new ⟨fun _ => none⟩ "old" = .ok start ∧
      TrustOrdering ⟨fun _ => none⟩ start
        [.setRefresher, .readGeneration 0, .build 0, .send 0, .respond 0 (.keyMismatch "config"),
          .lock 0, .reject 0, .callRefresher 0, .refresherReturns 0 (.ok (.ofKey "new")), .revoke,
          .commit 0] :=
  ⟨_, rfl, trust_ordering rfl rfl (by decide)⟩

end Tinfoil.Ehbp
