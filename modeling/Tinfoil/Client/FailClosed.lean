import Tinfoil.Client.Verify

/-! # What a client transmits after a re-verification

`FailClosed` says of a client at rest what its three request paths may use: nothing unless the
last `verify` succeeded, and then only what that verification attested or a later refresh
committed.

* `direct_fail_closed` — in direct TLS mode this holds exactly when the last `verify`
  succeeded: a failed one takes away the pinned client but not the copy of it inside the
  stored async-openai client.
* `proxy_fail_closed` — in proxy mode it holds in every run in which no `verify` is dropped
  while it waits for the refresh lock; such a call has not cleared anything yet.
* `fail_closed` puts the two together.
-/

namespace Tinfoil.Client

open Tinfoil.Attestation Tinfoil.Ehbp Transition

variable {env : Environment}

/-! ## The property -/

def Action.isAnswer : Action → Bool
  | .answer .. => true
  | _ => false

/-- A refresh committed `key`, and no attestation of a `verify` was answered since. -/
def RefreshedSince (env : Environment) (start : ClientState) (schedule : List Action)
    (key : String) : Prop :=
  ∃ before id after source target proxy, schedule = before ++ .request (.commit id) :: after ∧
    Runs env start before source ∧ step env source (.request (.commit id)) = some target ∧
    generationOf target ≠ generationOf source ∧ target.secure.ehbp = some proxy ∧
    proxy.channel.client = some ⟨key⟩ ∧ ∀ action ∈ after, action.isAnswer = false

/-- The transport is bound to a key that the verification attested, or to the key of a later
refresh. -/
def Transport.Attested (env : Environment) (start : ClientState) (schedule : List Action)
    (groundTruth : GroundTruth) : Transport → Prop
  | .pinned client => groundTruth.tlsPublicKey = some client.fingerprint
  | .sealed client => groundTruth.hpkePublicKey = some client.publicKey ∨
      RefreshedSince env start schedule client.publicKey

structure FailClosed (env : Environment) (start : ClientState) (schedule : List Action)
    (final : ClientState) : Prop where
  /-- Without a successful last `verify` no path has a transport. -/
  unverified : (∀ groundTruth, final.outcome ≠ some (.ok groundTruth)) →
    ∀ path transport, final.transport path ≠ some (.ok transport)
  /-- After a successful one every transport is attested. -/
  verified : ∀ groundTruth, final.outcome = some (.ok groundTruth) →
    ∀ path transport, final.transport path = some (.ok transport) →
      transport.Attested env start schedule groundTruth

/-! ## Direct mode -/

def DirectTrust (state : ClientState) : Prop :=
  match state.verify with
  | .idle | .waiting | .clearing =>
    match state.outcome with
    | some (.ok groundTruth) => ∃ client, state.secure.pinnedClient = some client ∧
        state.openai = some (.pinned client) ∧ groundTruth.tlsPublicKey = some client.fingerprint
    | _ => state.secure.pinnedClient = none
  | .attesting | .failing _ => state.secure.pinnedClient = none
  | .installed pinned groundTruth => groundTruth.tlsPublicKey = some pinned.fingerprint
  | .returning groundTruth => ∃ client, state.secure.pinnedClient = some client ∧
      groundTruth.tlsPublicKey = some client.fingerprint

structure Direct (state : ClientState) : Prop where
  url : state.secure.proxyUrl = none
  ehbp : state.secure.ehbp = none
  lockless : state.verify ≠ .waiting
  stack : ∀ stack, state.openai = some stack → ∃ client, stack = .pinned client
  trust : DirectTrust state

theorem direct_leave {state target : ClientState} {outcome : VerifyOutcome}
    (left : state.leave env outcome = some target) (none : state.secure.ehbp = none) :
    target = { state with verify := .idle, refreshGuard := false, outcome := some outcome } := by
  obtain ⟨ehbp, rfl, same | ⟨proxy, _, active, _⟩⟩ := leave_some left
  · rw [same]; rfl
  · rw [none] at active; cases active

theorem buildOpenai_direct {secure : SecureClient} {client : PinnedClient} (none : secure.ehbp = none)
    (active : secure.pinnedClient = some client) : buildOpenai secure = .ok (.pinned client) := by
  simp only [buildOpenai, none, SecureClient.pinnedHttpClient, active]
  rfl

theorem step_direct {state target : ClientState} {action : Action} (direct : Direct state)
    (taken : step env state action = some target) : Direct target := by
  obtain ⟨url, ehbp, lockless, stack, trust⟩ := direct
  cases step_cases taken with
  | startWaiting _ active | acquire _ active _ | request _ active _ => cases ehbp.symm.trans active
  | startClearing resting _ =>
    simp only [DirectTrust, resting] at trust
    exact ⟨url, ehbp, (by intro waits; cases waits), stack, trust⟩
  | clear _ => exact ⟨url, by simp [ehbp], (by intro waits; cases waits), stack, rfl⟩
  | failed _ attesting =>
    simp only [DirectTrust, attesting] at trust
    exact ⟨url, ehbp, (by intro waits; cases waits), stack, trust⟩
  | verified _ _ tls proxied =>
    rw [buildEhbp, url] at proxied
    cases proxied
    exact ⟨url, rfl, (by intro waits; cases waits), stack, tls⟩
  | assign installed =>
    simp only [DirectTrust, installed] at trust
    exact ⟨url, by simp [ClientState.assigned, ehbp], (by intro waits; cases waits), stack, _, rfl, trust⟩
  | unbuilt returning unbuilt _ =>
    -- The stored client is always built when there is a pinned one.
    simp only [DirectTrust, returning] at trust
    obtain ⟨client, active, -⟩ := trust
    cases unbuilt.symm.trans (buildOpenai_direct ehbp active)
  | finish returning built left =>
    simp only [DirectTrust, returning] at trust
    obtain ⟨client, active, attested⟩ := trust
    cases Except.ok.inj (built.symm.trans (buildOpenai_direct ehbp active))
    rw [direct_leave left ehbp]
    exact ⟨url, ehbp, (by intro waits; cases waits), fun _ same => ⟨client, (Option.some.inj same).symm⟩,
      client, active, rfl, attested⟩
  | unwind failing left =>
    simp only [DirectTrust, failing] at trust
    rw [direct_leave left ehbp]
    exact ⟨url, ehbp, (by intro waits; cases waits), stack, trust⟩
  | cancel pending left =>
    have attesting := pending.resolve_left lockless
    simp only [DirectTrust, attesting] at trust
    rw [direct_leave left ehbp]
    exact ⟨url, ehbp, (by intro waits; cases waits), stack, trust⟩

theorem unverified_direct (repo : String) : Direct (.unverified repo none) :=
  ⟨rfl, rfl, nofun, nofun, rfl⟩

/-- In direct mode the client is fail-closed exactly after a successful `verify`. -/
theorem direct_fail_closed {repo : String} {schedule : List Action} {final : ClientState}
    (run : Runs env (.unverified repo none) schedule final) (resting : final.verify = .idle)
    (client : final.openai.isSome) :
    FailClosed env (.unverified repo none) schedule final ↔
      ∃ groundTruth, final.outcome = some (.ok groundTruth) := by
  obtain ⟨-, ehbp, -, stack, trust⟩ :=
    exec_invariant (fun _ _ _ => step_direct) (unverified_direct repo) run
  obtain ⟨kept, active⟩ := Option.isSome_iff_exists.mp client
  obtain ⟨pinned, rfl⟩ := stack kept active
  constructor
  · intro closed
    by_contra unverified
    -- The stored async-openai client still holds the pinned client it was built with.
    exact closed.unverified (fun groundTruth same => unverified ⟨groundTruth, same⟩) .typed
      (.pinned pinned) (by simp [ClientState.transport, active])
  · rintro ⟨groundTruth, succeeded⟩
    simp only [DirectTrust, resting, succeeded] at trust
    obtain ⟨current, held, stored, attested⟩ := trust
    refine ⟨fun never => absurd succeeded (never groundTruth), ?_⟩
    intro last same path transport goesOut
    rw [succeeded] at same
    cases same
    have same : transport = .pinned current := by
      cases path <;>
        simp_all [ClientState.transport, SecureClient.postJson, SecureClient.httpClient,
          SecureClient.pinnedHttpClient, bind, Except.bind, pure, Except.pure]
    rw [same]
    exact attested

/-! ## Proxy mode -/

/-- The verification that the present trust state goes back to. -/
def ClientState.vouched (state : ClientState) : Option GroundTruth :=
  match state.verify with
  | .idle | .waiting | .clearing =>
    match state.outcome with
    | some (.ok groundTruth) => some groundTruth
    | _ => none
  | .attesting | .failing _ => none
  | .installed _ groundTruth | .returning groundTruth => some groundTruth

/-- Without a verification behind it the channel is closed for good; with one, it seals to the
attested key or to the key of a later refresh. -/
def ProxyTrust (env : Environment) (start : ClientState) (schedule : List Action)
    (vouched : Option GroundTruth) (channel : EhbpChannel) : Prop :=
  match vouched with
  | none => channel.trust = .closed none
  | some groundTruth => ∀ client, channel.client = some client →
      (Transport.sealed client).Attested env start schedule groundTruth

theorem RefreshedSince.snoc {start : ClientState} {schedule : List Action} {key : String}
    {action : Action} (refreshed : RefreshedSince env start schedule key)
    (other : action.isAnswer = false) :
    RefreshedSince env start (schedule ++ [action]) key := by
  obtain ⟨before, id, after, source, target, proxy, rfl, reached, taken, changed, active, sealing,
    last⟩ := refreshed
  refine ⟨before, id, after ++ [action], source, target, proxy, by simp, reached, taken, changed,
    active, sealing, ?_⟩
  intro act member
  rcases List.mem_append.mp member with member | member
  · exact last act member
  · rw [List.mem_singleton.mp member, other]

theorem ProxyTrust.snoc {start : ClientState} {schedule : List Action} {action : Action}
    {vouched : Option GroundTruth} {channel : EhbpChannel}
    (trust : ProxyTrust env start schedule vouched channel)
    (other : action.isAnswer = false) :
    ProxyTrust env start (schedule ++ [action]) vouched channel := by
  cases vouched with
  | none => exact trust
  | some groundTruth =>
    intro client active
    exact (trust client active).imp_right fun refreshed => refreshed.snoc other

structure Proxied (env : Environment) (start : ClientState) (schedule : List Action)
    (state : ClientState) : Prop where
  url : state.secure.proxyUrl.isSome
  stack : ∀ stack, state.openai = some stack → stack = .ehbp
  built : state.openai.isSome ∨ state.vouched.isSome → state.secure.ehbp.isSome
  history : ∀ proxy, state.secure.ehbp = some proxy → Reached env start schedule proxy
  trust : ∀ proxy, state.secure.ehbp = some proxy →
    ProxyTrust env start schedule state.vouched proxy.channel

theorem request_trust {start state target : ClientState} {before : List Action}
    {action : Ehbp.Action} {id : Nat} {vouched : Option GroundTruth} {source proxy : ProxyState}
    (reached : Runs env start before state) (history : Reached env start before source)
    (few : generationChanges env start before < 2 ^ 64)
    (held : state.secure.ehbp = some source) (active : target.secure.ehbp = some proxy)
    (own : action.request? = some id) (done : Ehbp.step env.library source action = some proxy)
    (taken : step env state (.request action) = some target)
    (trust : ProxyTrust env start before vouched source.channel) :
    ProxyTrust env start (before ++ [.request action]) vouched proxy.channel := by
  obtain ⟨key, first, performed, new, run, few'⟩ := history
  have explicit : action.install? = none := by cases action <;> first | rfl | cases own
  cases vouched with
  | none =>
    exact step_closed (EhbpProxy.new_fresh new) run (by omega) trust explicit done
  | some groundTruth =>
    rcases step_channel done with same | change
    · rw [same]
      exact trust.snoc rfl
    · intro client sealing
      have moved := change.generation_ne
      -- Of what a request does to the channel, only a commit leaves a client in it.
      cases change with
      | install asked _ _ => rw [explicit] at asked; cases asked
      | revoke after => cases own
      | reject _ _ after | refuse _ _ _ after => rw [after] at sealing; cases sealing
      | @commit id seen sealed reject fresh refreshed _ pending current attested after =>
        refine .inr ⟨before, id, [], state, target, proxy, rfl, reached, taken, ?_, active, sealing,
          by simp⟩
        simpa [generationOf, held, active] using moved

theorem Proxied.keep {start state target : ClientState} {before : List Action} {action : Action}
    (proxied : Proxied env start before state) (reached : Runs env start before state)
    (taken : step env state action = some target)
    (other : action.isAnswer = false)
    (stack : ∀ stack, target.openai = some stack → stack = .ehbp)
    (built : target.openai.isSome → state.secure.ehbp.isSome)
    (vouched : target.vouched = state.vouched)
    (channel : ∀ proxy, target.secure.ehbp = some proxy →
      ∃ source, state.secure.ehbp = some source ∧ proxy.channel = source.channel) :
    Proxied env start (before ++ [action]) target where
  url := by rw [step_proxyUrl taken]; exact proxied.url
  stack := stack
  built needed := by
    refine (step_proxy proxied.url taken).isSome ?_
    rw [vouched] at needed
    exact needed.elim built fun behind => proxied.built (.inr behind)
  history := step_reached reached proxied.url proxied.history taken
  trust proxy active := by
    obtain ⟨source, held, same⟩ := channel proxy active
    rw [vouched, same]
    exact (proxied.trust source held).snoc other

theorem step_proxied {start state target : ClientState} {before : List Action} {action : Action}
    (reached : Runs env start before state)
    (few : generationChanges env start before < 2 ^ 64)
    (patient : action = .cancel → state.verify ≠ .waiting)
    (proxied : Proxied env start before state) (taken : step env state action = some target) :
    Proxied env start (before ++ [action]) target := by
  have history := step_reached reached proxied.url proxied.history taken
  have url : target.secure.proxyUrl.isSome := by rw [step_proxyUrl taken]; exact proxied.url
  have kept := proxied.keep reached taken
  have whole := step_proxy proxied.url taken
  have stored : state.openai.isSome → state.secure.ehbp.isSome := fun some => proxied.built (.inl some)
  cases step_cases taken with
  | startWaiting resting | startClearing resting =>
    refine kept rfl proxied.stack stored (by simp [ClientState.vouched, resting]) ?_
    exact fun proxy held => ⟨proxy, held, rfl⟩
  | @acquire source locked waiting active moved =>
    refine kept rfl proxied.stack stored (by simp [ClientState.vouched, waiting]) ?_
    intro proxy held
    cases held
    refine ⟨source, active, ?_⟩
    simp only [Ehbp.step] at moved
    split at moved <;> cases moved
    rfl
  | clear _ =>
    refine ⟨url, proxied.stack, ?_, history, ?_⟩
    · rintro (some | some)
      · exact whole.isSome (stored some)
      · cases some
    · intro proxy held
      obtain ⟨source, -, rfl⟩ := Option.map_eq_some_iff.mp held
      exact EhbpChannel.trust_clear _
  | failed error attesting =>
    refine ⟨url, proxied.stack, ?_, history, ?_⟩
    · rintro (some | some)
      · exact stored some
      · cases some
    · intro proxy held
      have trust := proxied.trust proxy held
      simp only [ClientState.vouched, attesting] at trust
      exact trust
  | verified _ shown _ built =>
    obtain ⟨key, source, proxy, present, rfl, -, sealing, -⟩ := buildEhbp_ok proxied.url built
    refine ⟨url, proxied.stack, fun _ => rfl, history, ?_⟩
    intro other held client active
    cases held
    rw [sealing] at active
    cases active
    left
    rw [shown]
    exact present
  | assign installed =>
    refine kept rfl proxied.stack stored (by simp [ClientState.vouched, ClientState.assigned, installed]) ?_
    intro proxy held
    obtain ⟨source, active, rfl⟩ := Option.map_eq_some_iff.mp held
    exact ⟨source, active, rfl⟩
  | unbuilt returning unbuilt _ =>
    -- There is a proxy here, which the stored client is built over.
    have active := proxied.built (.inr (by simp [ClientState.vouched, returning]))
    obtain ⟨proxy, held⟩ := Option.isSome_iff_exists.mp active
    simp [buildOpenai, held] at unbuilt
  | @finish groundTruth stack _ returning built left =>
    have active := proxied.built (.inr (by simp [ClientState.vouched, returning]))
    obtain ⟨proxy, held⟩ := Option.isSome_iff_exists.mp active
    have overProxy : buildOpenai state.secure = .ok .ehbp := by simp [buildOpenai, held]
    cases Except.ok.inj (built.symm.trans overProxy)
    obtain ⟨ehbp, shape, -⟩ := leave_some left
    refine kept rfl ?_ (fun _ => active) ?_ ?_
    · rw [shape]
      exact fun stack same => (Option.some.inj same).symm
    · rw [shape]
      simp [ClientState.vouched, ClientState.setEhbp, returning]
    · intro proxy holds
      have channel := leave_channel left holds
      exact channel
  | unwind failing left =>
    obtain ⟨ehbp, shape, -⟩ := leave_some left
    refine kept rfl ?_ ?_ ?_ fun proxy => leave_channel left
    · rw [shape]; exact proxied.stack
    · rw [shape]; exact stored
    · rw [shape]; simp [ClientState.vouched, ClientState.setEhbp, failing]
  | cancel pending left =>
    have attesting := pending.resolve_left (patient rfl)
    obtain ⟨ehbp, shape, -⟩ := leave_some left
    refine kept rfl ?_ ?_ ?_ fun proxy => leave_channel left
    · rw [shape]; exact proxied.stack
    · rw [shape]; exact stored
    · rw [shape]; simp [ClientState.vouched, ClientState.setEhbp, attesting]
  | @request inner id source moved own held done =>
    refine ⟨url, proxied.stack, fun _ => rfl, history, ?_⟩
    intro proxy active
    cases active
    exact request_trust reached (proxied.history source held) few held rfl own done taken
      (proxied.trust source held)

theorem unverified_proxied (repo proxyUrl : String) :
    Proxied env (.unverified repo (some proxyUrl)) [] (.unverified repo (some proxyUrl)) where
  url := rfl
  stack _ held := by cases held
  built := by simp [ClientState.unverified, ClientState.vouched]
  history _ held := by cases held
  trust _ held := by cases held

def NeverDroppedAtLock (env : Environment) (start : ClientState) (schedule : List Action) : Prop :=
  ∀ before after source, schedule = before ++ .cancel :: after → Runs env start before source →
    source.verify ≠ .waiting

theorem runs_proxied {repo proxyUrl : String} {schedule : List Action} {final : ClientState}
    (run : Runs env (.unverified repo (some proxyUrl)) schedule final)
    (few : generationChanges env (.unverified repo (some proxyUrl)) schedule < 2 ^ 64)
    (patient : NeverDroppedAtLock env (.unverified repo (some proxyUrl)) schedule) :
    Proxied env (.unverified repo (some proxyUrl)) schedule final := by
  refine exec_history (unverified_proxied repo proxyUrl) ?_ run
  intro before action state next reached part proxied taken
  obtain ⟨after, rfl⟩ := part
  refine step_proxied reached ?_ ?_ proxied taken
  · rw [List.append_assoc, generationChanges, changes_append reached] at few
    exact Nat.lt_of_le_of_lt (Nat.le_add_right _ _) few
  · rintro rfl
    exact patient before after state (by simp) reached

/-- In proxy mode the client is fail-closed as long as no `verify` is dropped at the lock. -/
theorem proxy_fail_closed {repo proxyUrl : String} {schedule : List Action} {final : ClientState}
    (run : Runs env (.unverified repo (some proxyUrl)) schedule final)
    (few : generationChanges env (.unverified repo (some proxyUrl)) schedule < 2 ^ 64)
    (patient : NeverDroppedAtLock env (.unverified repo (some proxyUrl)) schedule)
    (resting : final.verify = .idle) (client : final.openai.isSome) :
    FailClosed env (.unverified repo (some proxyUrl)) schedule final := by
  have proxied := runs_proxied run few patient
  obtain ⟨stack, stored⟩ := Option.isSome_iff_exists.mp client
  obtain rfl := proxied.stack stack stored
  obtain ⟨proxy, active⟩ := Option.isSome_iff_exists.mp (proxied.built (.inl client))
  have trust := proxied.trust proxy active
  -- Every path that has a transport takes the client of the channel.
  have sealed (path : RequestPath) (transport : Transport)
      (goesOut : final.transport path = some (.ok transport)) :
      ∃ client, transport = .sealed client ∧ proxy.channel.client = some client := by
    cases sealing : proxy.channel.client <;> cases path <;>
      simp_all [ClientState.transport, SecureClient.postJson, SecureClient.httpClient, ehbpTransport]
  constructor
  · intro unverified path transport goesOut
    obtain ⟨client, rfl, sealing⟩ := sealed path transport goesOut
    have nobody : final.vouched = none := by
      rcases last : final.outcome with _ | groundTruth | error | _
      case some.ok => exact absurd last (unverified groundTruth)
      all_goals simp [ClientState.vouched, resting, last]
    rw [nobody] at trust
    simp [ProxyTrust, EhbpChannel.trust, sealing] at trust
  · intro groundTruth succeeded path transport goesOut
    obtain ⟨client, rfl, sealing⟩ := sealed path transport goesOut
    have behind : final.vouched = some groundTruth := by
      simp [ClientState.vouched, resting, succeeded]
    rw [behind] at trust
    exact trust client sealing

/-- When a client is fail-closed, in either mode. -/
theorem fail_closed {repo : String} {proxyUrl : Option String} {schedule : List Action}
    {final : ClientState} (run : Runs env (.unverified repo proxyUrl) schedule final)
    (few : generationChanges env (.unverified repo proxyUrl) schedule < 2 ^ 64)
    (resting : final.verify = .idle) (client : final.openai.isSome) :
    (proxyUrl = none → (FailClosed env (.unverified repo proxyUrl) schedule final ↔
      ∃ groundTruth, final.outcome = some (.ok groundTruth))) ∧
    (proxyUrl.isSome → NeverDroppedAtLock env (.unverified repo proxyUrl) schedule →
      FailClosed env (.unverified repo proxyUrl) schedule final) := by
  cases proxyUrl with
  | none => exact ⟨fun _ => direct_fail_closed run resting client, nofun⟩
  | some proxyUrl =>
    exact ⟨nofun, fun _ patient => proxy_fail_closed run few patient resting client⟩

/-! ## Three histories -/

/-- Nothing outside this component fails. -/
def Environment.permissive : Environment :=
  ⟨⟨fun _ => none⟩, none, fun _ => none, fun _ => none, id, ⟨"tinfoil", "0.0.0"⟩⟩

def firstVerify (tls hpke : String) : List Action :=
  [.start, .clear, .answer (.ok ⟨⟨.sevGuestV2, ["00"]⟩, "digest", none,
    ⟨⟨.sevGuestV2, ["00"]⟩, tls, some hpke⟩⟩) "2026-01-01T00:00:00Z", .assign, .finish]

/-- In proxy mode a failed re-verification closes every path. -/
theorem fail_closed_after_failure : ∃ final,
    Runs .permissive (.unverified "org/repo" (some "https://proxy.example"))
      (firstVerify "tls" "hpke" ++ [.start, .acquire, .clear, .answer (.error .certificateMismatch) "",
        .unwind]) final ∧
    FailClosed .permissive (.unverified "org/repo" (some "https://proxy.example"))
      (firstVerify "tls" "hpke" ++ [.start, .acquire, .clear, .answer (.error .certificateMismatch) "",
        .unwind]) final := by
  refine ⟨_, rfl, (fail_closed rfl (by decide) rfl rfl).2 rfl ?_⟩
  intro before after source shape
  have member : Action.cancel ∈ before ++ .cancel :: after := by simp
  rw [← shape] at member
  simp [firstVerify] at member

/-- The code stays open after a failed `verify` in direct mode, and after one that is dropped
in proxy mode while a refresh holds the lock. -/
theorem open_after_unsuccessful_verify :
    (∃ final, Runs .permissive (.unverified "org/repo" none)
        (firstVerify "tls" "hpke" ++ [.start, .clear, .answer (.error .certificateMismatch) "", .unwind])
        final ∧
      ¬ FailClosed .permissive (.unverified "org/repo" none)
        (firstVerify "tls" "hpke" ++ [.start, .clear, .answer (.error .certificateMismatch) "", .unwind])
        final) ∧
    ∃ final, Runs .permissive (.unverified "org/repo" (some "https://proxy.example"))
        (firstVerify "tls" "hpke" ++ [.request (.readGeneration 0), .request (.build 0),
          .request (.send 0), .request (.respond 0 (.keyMismatch "config")), .request (.lock 0),
          .start, .cancel]) final ∧
      ¬ FailClosed .permissive (.unverified "org/repo" (some "https://proxy.example"))
        (firstVerify "tls" "hpke" ++ [.request (.readGeneration 0), .request (.build 0),
          .request (.send 0), .request (.respond 0 (.keyMismatch "config")), .request (.lock 0),
          .start, .cancel]) final := by
  refine ⟨⟨_, rfl, fun closed => ?_⟩, ⟨_, rfl, fun closed => ?_⟩⟩
  · exact closed.unverified (fun groundTruth succeeded => by cases succeeded) .typed
      (.pinned ⟨"tls"⟩) rfl
  · exact closed.unverified (fun groundTruth succeeded => by cases succeeded) .typed
      (.sealed ⟨"hpke"⟩) rfl

end Tinfoil.Client
