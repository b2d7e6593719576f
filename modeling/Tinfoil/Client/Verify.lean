import Tinfoil.Client.SecureClient
import Tinfoil.Ehbp.TrustOrdering

/-! # What one step of the client can do

`step_cases` takes a step apart; `attested_cases` and `buildEhbp_ok` say what `verify` makes of
the attestation's answer, `leave_some` how it ends.  `step_proxy` projects a step of the client to at most one step of
the proxy, so that the results about runs of the proxy apply (`step_reached`).
`verify_can_leave` says that a call which holds the refresh lock can always release it.
-/

namespace Tinfoil.Client

open Tinfoil.Attestation Tinfoil.Ehbp Transition

variable {env : Environment}

abbrev Runs (env : Environment) (start : ClientState) (schedule : List Action)
    (final : ClientState) : Prop :=
  exec (step env) start schedule = some final

def generationOf (state : ClientState) : Option UInt64 :=
  state.secure.ehbp.map fun proxy => proxy.channel.generation

/-- How often a schedule changes the generation of the proxy; building the proxy counts. -/
abbrev generationChanges (env : Environment) (start : ClientState) (schedule : List Action) : Nat :=
  changes (step env) generationOf start schedule

/-! ## Leaving `verify` -/

@[simp] theorem setEhbp_ehbp (state : ClientState) (ehbp : Option ProxyState) :
    (state.setEhbp ehbp).secure.ehbp = ehbp := rfl

theorem leave_some {state target : ClientState} {outcome : VerifyOutcome}
    (left : state.leave env outcome = some target) :
    ∃ ehbp, target = { state with verify := .idle, refreshGuard := false,
                                  outcome := some outcome }.setEhbp ehbp ∧
      (ehbp = state.secure.ehbp ∨ ∃ proxy unlocked, state.secure.ehbp = some proxy ∧
        ehbp = some unlocked ∧ Ehbp.step env.library proxy .unlockRefresh = some unlocked) := by
  unfold ClientState.leave at left
  split at left
  · rename_i proxy _ active
    obtain ⟨unlocked, taken, rfl⟩ := Option.map_eq_some_iff.mp left
    exact ⟨some unlocked, rfl, .inr ⟨proxy, unlocked, active, rfl, taken⟩⟩
  · cases left
    exact ⟨state.secure.ehbp, rfl, .inl rfl⟩

/-! ## What the attestation's answer leads to -/

theorem createHostBoundPinnedClient_ok {fingerprint : String} {pinned : PinnedClient}
    (built : createHostBoundPinnedClient env fingerprint = .ok pinned) :
    pinned.fingerprint = fingerprint := by
  unfold createHostBoundPinnedClient at built
  split at built
  · cases built
  · split at built <;> cases built
    rfl

/-- `verify` fails and leaves every field as it is, or has the transports of what it
attested. -/
theorem attested_cases (state : ClientState) (verifiedAt : String)
    (result : Except Error Attested) :
    (∃ error, state.attested env verifiedAt result = { state with verify := .failing error }) ∨
      ∃ attested groundTruth pinned ehbp,
        groundTruth = buildGroundTruth env state.secure.repo attested verifiedAt ∧
        groundTruth.tlsPublicKey = some pinned.fingerprint ∧
        buildEhbp env state.secure attested.verification groundTruth = .ok ehbp ∧
        state.attested env verifiedAt result = { state with
          secure := { state.secure with ehbp }
          verify := .installed pinned groundTruth } := by
  cases result with
  | error error => exact .inl ⟨error, rfl⟩
  | ok attested =>
    simp only [ClientState.attested]
    split
    · exact .inl ⟨_, rfl⟩
    · rename_i pinned built
      split
      · exact .inl ⟨_, rfl⟩
      · rename_i ehbp proxied
        refine .inr ⟨attested, _, pinned, ehbp, rfl, ?_, proxied, rfl⟩
        rw [createHostBoundPinnedClient_ok built]
        rfl

/-! ## A step -/

inductive ClientStep (env : Environment) (state : ClientState) : Action → ClientState → Prop where
  | startWaiting {proxy : ProxyState} (resting : state.verify = .idle) (active : state.secure.ehbp = some proxy) :
    ClientStep env state .start { state with verify := .waiting }
  | startClearing (resting : state.verify = .idle) (none : state.secure.ehbp = none) :
    ClientStep env state .start { state with verify := .clearing }
  | acquire {proxy locked : ProxyState} (waiting : state.verify = .waiting) (active : state.secure.ehbp = some proxy)
      (moved : Ehbp.step env.library proxy .lockRefresh = some locked) :
    ClientStep env state .acquire
      { state with
        secure := { state.secure with ehbp := some locked }
        verify := .clearing
        refreshGuard := true }
  | clear (clearing : state.verify = .clearing) :
    ClientStep env state .clear
      { state with
        secure := { state.secure with
          pinnedClient := none
          ehbp := state.secure.ehbp.map fun proxy => { proxy with channel := proxy.channel.clear }
          groundTruth := none }
        verify := .attesting }
  | failed {result : Except Error Attested} {verifiedAt : String} (error : Error)
      (attesting : state.verify = .attesting) :
    ClientStep env state (.answer result verifiedAt) { state with verify := .failing error }
  | verified {result : Except Error Attested} {verifiedAt : String} {attested : Attested} {groundTruth : GroundTruth}
      {pinned : PinnedClient} {ehbp : Option ProxyState} (attesting : state.verify = .attesting)
      (shown : groundTruth = buildGroundTruth env state.secure.repo attested verifiedAt)
      (tls : groundTruth.tlsPublicKey = some pinned.fingerprint)
      (built : buildEhbp env state.secure attested.verification groundTruth = .ok ehbp) :
    ClientStep env state (.answer result verifiedAt)
      { state with
        secure := { state.secure with ehbp }
        verify := .installed pinned groundTruth }
  | assign {pinned : PinnedClient} {groundTruth : GroundTruth} (installed : state.verify = .installed pinned groundTruth) :
    ClientStep env state .assign (state.assigned pinned groundTruth)
  | unbuilt {groundTruth : GroundTruth} {error : Error} {target : ClientState}
      (returning : state.verify = .returning groundTruth) (unbuilt : buildOpenai state.secure = .error error)
      (left : state.leave env (.failed error) = some target) :
    ClientStep env state .finish target
  | finish {groundTruth : GroundTruth} {stack : Stack} {target : ClientState}
      (returning : state.verify = .returning groundTruth) (built : buildOpenai state.secure = .ok stack)
      (left : { state with openai := some stack }.leave env (.ok groundTruth) = some target) :
    ClientStep env state .finish target
  | unwind {error : Error} {target : ClientState} (failing : state.verify = .failing error)
      (left : state.leave env (.failed error) = some target) :
    ClientStep env state .unwind target
  | cancel {target : ClientState} (pending : state.verify = .waiting ∨ state.verify = .attesting)
      (left : state.leave env .cancelled = some target) :
    ClientStep env state .cancel target
  | request {action : Ehbp.Action} {id : Nat} {proxy moved : ProxyState} (own : action.request? = some id)
      (active : state.secure.ehbp = some proxy) (done : Ehbp.step env.library proxy action = some moved) :
    ClientStep env state (.request action) (state.setEhbp (some moved))

theorem step_cases {state target : ClientState} {action : Action} (taken : step env state action = some target) :
    ClientStep env state action target := by
  cases action with
  | start =>
    simp only [step] at taken
    split at taken <;> cases taken
    · exact .startWaiting ‹_› ‹_›
    · exact .startClearing ‹_› ‹_›
  | acquire =>
    simp only [step] at taken
    split at taken
    · rename_i waiting active
      obtain ⟨locked, moved, rfl⟩ := Option.map_eq_some_iff.mp taken
      exact .acquire waiting active moved
    · cases taken
  | clear =>
    simp only [step] at taken
    split at taken <;> cases taken
    exact .clear ‹_›
  | answer result verifiedAt =>
    simp only [step] at taken
    split at taken <;> cases taken
    rename_i attesting
    obtain ⟨error, failed⟩ | ⟨attested, groundTruth, pinned, ehbp, shown, tls, built, installed⟩ :=
      attested_cases state verifiedAt result
    · rw [failed]
      exact .failed error attesting
    · rw [installed]
      exact .verified attesting shown tls built
  | assign =>
    simp only [step] at taken
    split at taken <;> cases taken
    exact .assign ‹_›
  | finish =>
    simp only [step] at taken
    split at taken
    · rename_i groundTruth returning
      split at taken
      · exact .unbuilt returning ‹_› taken
      · exact .finish returning ‹_› taken
    · cases taken
  | unwind =>
    simp only [step] at taken
    split at taken
    · exact .unwind ‹_› taken
    · cases taken
  | cancel =>
    simp only [step] at taken
    split at taken
    · exact .cancel (.inl ‹_›) taken
    · exact .cancel (.inr ‹_›) taken
    · cases taken
  | request action =>
    simp only [step] at taken
    split at taken
    · rename_i id proxy own active
      obtain ⟨moved, done, rfl⟩ := Option.map_eq_some_iff.mp taken
      exact .request own active done
    · cases taken

/-! ## The proxy's part of a step -/

/-- What a step of the client does to the proxy: nothing, one step of it, or the proxy is
built and receives the verified state. -/
def ProxyMove (library : Library) (before after : Option ProxyState) : Prop :=
  after = before ∨
    (∃ proxy action moved, before = some proxy ∧ Ehbp.step library proxy action = some moved ∧
      after = some moved) ∨
    ∃ key groundTruth proxy, before = none ∧ EhbpProxy.new library key = .ok proxy ∧
      after = some (installState library proxy ⟨key, some groundTruth⟩)

theorem leave_proxy {state target : ClientState} {outcome : VerifyOutcome}
    (left : state.leave env outcome = some target) :
    ProxyMove env.library state.secure.ehbp target.secure.ehbp := by
  obtain ⟨ehbp, rfl, same | ⟨proxy, unlocked, active, rfl, taken⟩⟩ := leave_some left
  · exact .inl same
  · exact .inr (.inl ⟨proxy, _, unlocked, active, taken, rfl⟩)

/-- The steps of `verify` other than the clearing and the install keep the channel. -/
theorem leave_channel {state target : ClientState} {outcome : VerifyOutcome} {proxy : ProxyState}
    (left : state.leave env outcome = some target) (active : target.secure.ehbp = some proxy) :
    ∃ source, state.secure.ehbp = some source ∧ proxy.channel = source.channel := by
  obtain ⟨ehbp, rfl, rfl | ⟨source, unlocked, held, rfl, taken⟩⟩ := leave_some left
  · exact ⟨proxy, active, rfl⟩
  · cases active
    refine ⟨source, held, ?_⟩
    simp only [Ehbp.step] at taken
    split at taken <;> cases taken
    rfl

theorem ProxyMove.isSome {library : Library} {before after : Option ProxyState}
    (move : ProxyMove library before after) (active : before.isSome) : after.isSome := by
  rcases move with rfl | ⟨_, _, _, _, _, rfl⟩ | ⟨_, _, _, _, _, rfl⟩
  · exact active
  · rfl
  · rfl

theorem requireHpkePublicKey_ok {verification : Verification} {key : String}
    (present : requireHpkePublicKey verification = .ok key) :
    verification.hpkePublicKey = some key := by
  unfold requireHpkePublicKey at present
  split at present
  · rename_i found
    cases present
    exact (Option.filter_eq_some_iff.mp found).1
  · cases present

theorem installVerifiedState_ok {library : Library} {proxy installed : ProxyState} {key : String}
    {groundTruth : GroundTruth}
    (done : installVerifiedState library proxy key groundTruth = .ok installed) :
    installed = installState library proxy ⟨key, some groundTruth⟩ ∧
      installed.channel.client = some ⟨key⟩ := by
  unfold installVerifiedState at done
  split at done
  · cases done
  · rename_i client built
    cases done
    have bound := Library.withPublicKeyHex_key built
    refine ⟨rfl, ?_⟩
    simp only [installState, built]
    rw [EhbpChannel.setActive_client, ← bound]

theorem newProxy_ok {url key : String} {proxy : ProxyState}
    (built : newProxy env url key = .ok proxy) : EhbpProxy.new env.library key = .ok proxy := by
  unfold newProxy at built
  split at built
  · cases built
  · exact built

theorem buildEhbp_ok {secure : SecureClient} {verification : Verification}
    {groundTruth : GroundTruth} {ehbp : Option ProxyState} (url : secure.proxyUrl.isSome)
    (built : buildEhbp env secure verification groundTruth = .ok ehbp) :
    ∃ key source installed, verification.hpkePublicKey = some key ∧ ehbp = some installed ∧
      installed = installState env.library source ⟨key, some groundTruth⟩ ∧
      installed.channel.client = some ⟨key⟩ ∧
      (secure.ehbp = some source ∨
        secure.ehbp = none ∧ EhbpProxy.new env.library key = .ok source) := by
  obtain ⟨proxyUrl, known⟩ := Option.isSome_iff_exists.mp url
  simp only [buildEhbp, known] at built
  cases present : requireHpkePublicKey verification with
  | error error => rw [present] at built; cases built
  | ok key =>
    rw [present] at built
    have attested := requireHpkePublicKey_ok present
    cases active : secure.ehbp with
    | some proxy =>
      -- A proxy that is there keeps its channel, with its generation and its lock.
      rw [active] at built
      cases done : installVerifiedState env.library proxy key groundTruth with
      | error error => simp [done, bind, Except.bind] at built
      | ok installed =>
        simp only [done, bind, Except.bind, pure, Except.pure, Except.ok.injEq] at built
        obtain ⟨shape, sealing⟩ := installVerifiedState_ok done
        exact ⟨key, proxy, installed, attested, built.symm, shape, sealing, .inl rfl⟩
    | none =>
      -- The first call makes the proxy, and installs into it at once.
      rw [active] at built
      cases fresh : newProxy env proxyUrl key with
      | error error => simp [fresh, bind, Except.bind] at built
      | ok proxy =>
        cases done : installVerifiedState env.library proxy key groundTruth with
        | error error => simp [fresh, done, bind, Except.bind] at built
        | ok installed =>
          simp only [fresh, done, bind, Except.bind, pure, Except.pure, Except.ok.injEq] at built
          obtain ⟨shape, sealing⟩ := installVerifiedState_ok done
          exact ⟨key, proxy, installed, attested, built.symm, shape, sealing,
            .inr ⟨rfl, newProxy_ok fresh⟩⟩

theorem step_proxyUrl {state target : ClientState} {action : Action}
    (taken : step env state action = some target) :
    target.secure.proxyUrl = state.secure.proxyUrl := by
  have leaving {source : ClientState} {outcome : VerifyOutcome}
      (same : source.secure.proxyUrl = state.secure.proxyUrl)
      (left : source.leave env outcome = some target) :
      target.secure.proxyUrl = state.secure.proxyUrl := by
    obtain ⟨ehbp, rfl, -⟩ := leave_some left
    exact same
  cases step_cases taken with
  | unbuilt _ _ left | unwind _ left | cancel _ left => exact leaving rfl left
  | finish _ _ left => exact leaving (by rfl) left
  | _ => rfl

theorem step_proxy {state target : ClientState} {action : Action}
    (url : state.secure.proxyUrl.isSome) (taken : step env state action = some target) :
    ProxyMove env.library state.secure.ehbp target.secure.ehbp := by
  cases step_cases taken with
  | startWaiting | startClearing | failed => exact .inl rfl
  | acquire _ active moved => exact .inr (.inl ⟨_, _, _, active, moved, rfl⟩)
  | clear _ =>
    cases active : state.secure.ehbp with
    | none => exact .inl (by simp)
    | some proxy => exact .inr (.inl ⟨proxy, .revoke, _, rfl, rfl, by simp⟩)
  | verified _ _ _ built =>
    obtain ⟨key, source, after, _, rfl, rfl, _, active | ⟨none, fresh⟩⟩ := buildEhbp_ok url built
    · exact .inr (.inl ⟨source, .installVerifiedState key _, _, active, rfl, rfl⟩)
    · exact .inr (.inr ⟨key, _, source, none, fresh, rfl⟩)
  | assign _ =>
    cases active : state.secure.ehbp with
    | none => exact .inl (by simp [ClientState.assigned, active])
    | some proxy =>
      exact .inr (.inl ⟨proxy, .setRefresher, _, rfl, rfl, by simp [ClientState.assigned, active]⟩)
  | finish _ _ left =>
    have moved := leave_proxy left
    exact moved
  | unbuilt _ _ left | unwind _ left | cancel _ left => exact leave_proxy left
  | request _ active done => exact .inr (.inl ⟨_, _, _, active, done, rfl⟩)

/-! ## The proxy's part of a run -/

def Reached (env : Environment) (start : ClientState) (schedule : List Action)
    (proxy : ProxyState) : Prop :=
  ∃ key first performed, EhbpProxy.new env.library key = .ok first ∧
    Ehbp.Runs env.library first performed proxy ∧
    Ehbp.generationChanges env.library first performed ≤ generationChanges env start schedule

theorem generationChanges_snoc {start state target : ClientState} {before : List Action}
    {action : Action} (reached : Runs env start before state)
    (taken : step env state action = some target) :
    generationChanges env start (before ++ [action]) = generationChanges env start before +
      if generationOf target = generationOf state then 0 else 1 := by
  rw [generationChanges, changes_append reached]
  simp [changes, taken]

/-- Every step extends the run of the proxy by at most one of its steps. -/
theorem step_reached {start state target : ClientState} {before : List Action} {action : Action}
    (reached : Runs env start before state) (url : state.secure.proxyUrl.isSome)
    (history : ∀ proxy, state.secure.ehbp = some proxy → Reached env start before proxy)
    (taken : step env state action = some target) (proxy : ProxyState)
    (active : target.secure.ehbp = some proxy) :
    Reached env start (before ++ [action]) proxy := by
  have count := generationChanges_snoc reached taken
  rcases step_proxy url taken with
    same | ⟨source, act, moved, held, done, after⟩ | ⟨key, groundTruth, fresh, none, built, after⟩
  · obtain ⟨key, first, performed, new, run, few⟩ := history proxy (by rw [← same, active])
    exact ⟨key, first, performed, new, run, by omega⟩
  · rw [active] at after
    cases after
    obtain ⟨key, first, performed, new, run, few⟩ := history source held
    refine ⟨key, first, performed ++ [act], new, exec_snoc run done, ?_⟩
    have moves : Ehbp.generationChanges env.library first (performed ++ [act]) =
        Ehbp.generationChanges env.library first performed +
          if proxy.channel.generation = source.channel.generation then 0 else 1 := by
      rw [Ehbp.generationChanges, changes_append run]
      simp [changes, done]
    have observed : generationOf target = generationOf state ↔
        proxy.channel.generation = source.channel.generation := by
      simp [generationOf, active, held]
    -- The proxy counts a change exactly where the client sees one.
    simp only [observed] at count
    omega
  · rw [active] at after
    cases after
    refine ⟨key, fresh, [.installVerifiedState key groundTruth], built, rfl, ?_⟩
    have built : generationOf target ≠ generationOf state := by simp [generationOf, active, none]
    have once : Ehbp.generationChanges env.library fresh
        [.installVerifiedState key groundTruth] ≤ 1 := by
      simp only [changes, Ehbp.step]
      split <;> omega
    rw [if_neg built] at count
    omega

/-! ## The guard -/

/-- In proxy mode a guard of the call in progress is the refresh lock of the proxy. -/
structure GuardHeld (state : ClientState) : Prop where
  url : state.secure.proxyUrl.isSome
  guarded : ∀ proxy, state.secure.ehbp = some proxy → proxy.Guarded
  held : state.refreshGuard = true →
    ∃ proxy, state.secure.ehbp = some proxy ∧ proxy.refreshLock = some .verify

theorem unverified_guardHeld (repo proxyUrl : String) :
    GuardHeld (.unverified repo (some proxyUrl)) where
  url := rfl
  guarded _ active := by cases active
  held guard := by cases guard

theorem installState_refreshLock (library : Library) (proxy : ProxyState)
    (refreshed : RefreshedState) :
    (installState library proxy refreshed).refreshLock = proxy.refreshLock := by
  unfold installState
  split <;> rfl

theorem new_guarded {library : Library} {key : String} {proxy : ProxyState}
    (built : EhbpProxy.new library key = .ok proxy) : proxy.Guarded := by
  intro id inside
  rw [(EhbpProxy.new_fresh built).idle id] at inside
  cases inside

theorem ProxyMove.guarded {library : Library} {before after : Option ProxyState}
    (move : ProxyMove library before after)
    (guarded : ∀ proxy, before = some proxy → proxy.Guarded) (proxy : ProxyState)
    (active : after = some proxy) : proxy.Guarded := by
  subst active
  rcases move with same | ⟨source, action, moved, held, taken, same⟩ |
    ⟨key, groundTruth, source, -, built, same⟩
  · exact guarded proxy same.symm
  · cases same
    exact step_guarded (guarded source held) taken
  · cases same
    have install : Ehbp.step library source (.installVerifiedState key groundTruth) =
        some (installState library source ⟨key, some groundTruth⟩) := rfl
    exact step_guarded (new_guarded built) install

theorem leave_refreshGuard {state target : ClientState} {outcome : VerifyOutcome}
    (left : state.leave env outcome = some target) : target.refreshGuard = false := by
  obtain ⟨ehbp, rfl, -⟩ := leave_some left
  rfl

theorem step_guardHeld {state target : ClientState} {action : Action} (guard : GuardHeld state)
    (taken : step env state action = some target) : GuardHeld target := by
  refine ⟨by rw [step_proxyUrl taken]; exact guard.url,
    (step_proxy guard.url taken).guarded guard.guarded, ?_⟩
  intro holds
  cases step_cases taken with
  | startWaiting | startClearing | failed => exact guard.held holds
  | @acquire proxy locked _ _ moved =>
    refine ⟨locked, rfl, ?_⟩
    simp only [Ehbp.step] at moved
    split at moved <;> cases moved
    rfl
  | clear _ =>
    obtain ⟨proxy, active, locked⟩ := guard.held holds
    exact ⟨{ proxy with channel := proxy.channel.clear }, by simp [active], locked⟩
  | verified _ _ _ built =>
    obtain ⟨proxy, active, locked⟩ := guard.held holds
    obtain ⟨key, source, after, -, rfl, rfl, -, same | ⟨none, -⟩⟩ := buildEhbp_ok guard.url built
    · rw [active] at same
      cases same
      exact ⟨_, rfl, by rw [installState_refreshLock, locked]⟩
    · rw [active] at none
      cases none
  | assign _ =>
    obtain ⟨proxy, active, locked⟩ := guard.held holds
    exact ⟨{ proxy with refresher := true }, by simp [ClientState.assigned, active], locked⟩
  | unbuilt _ _ left | finish _ _ left | unwind _ left | cancel _ left =>
    simp [leave_refreshGuard left] at holds
  | @request action id source moved own active done =>
    obtain ⟨proxy, same, locked⟩ := guard.held holds
    rw [active] at same
    cases same
    exact ⟨moved, rfl, verify_keeps_lock (guard.guarded source active) own locked done⟩

theorem verify_can_leave {repo proxyUrl : String} {schedule : List Action} {state : ClientState}
    (run : Runs env (.unverified repo (some proxyUrl)) schedule state) (outcome : VerifyOutcome) :
    (state.leave env outcome).isSome := by
  have guard := exec_invariant (fun _ _ _ => step_guardHeld) (unverified_guardHeld repo proxyUrl) run
  unfold ClientState.leave
  split
  · rename_i proxy holds active
    obtain ⟨other, same, locked⟩ := guard.held holds
    rw [active] at same
    cases same
    simp [Ehbp.step, locked]
  · rfl

end Tinfoil.Client
