import Tinfoil.Client.Attest
import Tinfoil.Client.Published

/-! # Only attested keys

Whatever verifications, requests, refreshes, revocations and dropped futures come after one another, every key that
the client holds was attested: the pinned ones, those that requests are sealed to, and those of a refresh under way.
`only_attested_keys` says so of every state of every run, and `Vouched` is the invariant of the proxy behind it.
-/

namespace Tinfoil.Ehbp

open Tinfoil.Attestation Transition

/-! ## The proxy -/

def Request.clients : Request → List Client
  | .waiting _ sealed | .mismatched _ sealed | .locked _ sealed | .rejected _ sealed _ | .refreshing _ sealed _
  | .retrying _ sealed | .rebuilt _ sealed => [sealed]
  | .committing _ sealed _ fresh _ => [sealed, fresh]
  | .retried _ sealed retry => [sealed, retry]
  | .idle | .built | .generationRead _ | .ready _ | .finished _ => []

section Vouched

variable {library : Library} (hpke : String → Prop) (shown : GroundTruth → Prop)

structure RefreshedState.Vouched (refreshed : RefreshedState) : Prop where
  key : hpke refreshed.hpkePublicKey
  groundTruth : ∀ groundTruth, refreshed.groundTruth = some groundTruth → shown groundTruth

/-- Every key and every ground truth in the proxy is vouched for. -/
structure ProxyState.Vouched (state : ProxyState) : Prop where
  client : ∀ client, state.channel.client = some client → hpke client.publicKey
  groundTruth : ∀ groundTruth, state.channel.groundTruth = some groundTruth → shown groundTruth
  requests : ∀ id, ∀ client ∈ (state.request id).clients, hpke client.publicKey
  pending : ∀ id seen sealed reject fresh refreshed,
    state.request id = .committing seen sealed reject fresh refreshed → refreshed.Vouched hpke shown

variable {hpke shown}

theorem new_vouched {key : String} {proxy : ProxyState} (built : EhbpProxy.new library key = .ok proxy)
    (vouched : hpke key) : proxy.Vouched hpke shown := by
  unfold EhbpProxy.new at built
  split at built <;> cases built
  rename_i client made
  constructor
  case client =>
    intro other active
    cases active
    rwa [Library.withPublicKeyHex_key made]
  case groundTruth => exact fun groundTruth nothing => by cases nothing
  case requests => exact fun id client member => by cases member
  case pending => exact fun id seen sealed reject fresh refreshed idle => by cases idle

theorem step_vouched {state target : ProxyState} {action : Action} (vouched : state.Vouched hpke shown)
    (outside : ∀ refreshed, action.brought? = some refreshed → refreshed.Vouched hpke shown)
    (taken : step library state action = some target) : target.Vouched hpke shown := by
  constructor
  case client =>
    -- The channel gets a client from outside, or from the refresh of a request.
    intro client active
    rcases step_channel taken with same | change
    · exact vouched.client client (same ▸ active)
    · cases change with
      | install asked built after =>
        rw [after] at active
        cases active
        rw [Library.withPublicKeyHex_key built]
        refine (outside _ ?_).key
        cases action <;> first | exact asked | cases asked
      | revoke after | reject _ _ after | refuse _ _ _ after =>
        rw [after] at active
        cases active
      | @commit id _ _ _ _ _ _ before _ _ after =>
        rw [after] at active
        cases active
        exact vouched.requests id _ (by simp [before, Request.clients])
  case groundTruth =>
    intro groundTruth held
    rcases step_channel taken with same | change
    · exact vouched.groundTruth groundTruth (same ▸ held)
    · cases change with
      | install asked _ after =>
        rw [after] at held
        refine (outside _ ?_).groundTruth _ held
        cases action <;> first | exact asked | cases asked
      | revoke after | reject _ _ after | refuse _ _ _ after =>
        rw [after] at held
        cases held
      | commit before _ _ after =>
        rw [after] at held
        exact (vouched.pending _ _ _ _ _ _ before).groundTruth _ held
  case requests =>
    intro id client member
    rcases step_request taken id with same | progress
    · exact vouched.requests id client (same ▸ member)
    · -- A request takes its clients from the channel, from before, and from a refresh.
      have before := vouched.requests id
      generalize state.request id = source at progress before
      generalize target.request id = moved at progress member
      cases progress with
      | built | builtAfterRead | read | readAfterBuild | finish => cases member
      | send active =>
        cases List.mem_singleton.mp member
        exact vouched.client _ active
      | mismatch | lock | stale | reject | refresh | rebuild => exact before client member
      | refreshed made =>
        simp only [Request.clients, List.mem_cons, List.not_mem_nil, or_false] at member
        rcases member with rfl | rfl
        · exact before _ (by simp [Request.clients])
        · rw [Library.withPublicKeyHex_key made]
          exact (outside _ rfl).key
      | superseded | committed =>
        cases List.mem_singleton.mp member
        exact before _ (by simp [Request.clients])
      | retry active =>
        simp only [Request.clients, List.mem_cons, List.not_mem_nil, or_false] at member
        rcases member with rfl | rfl
        · exact before _ (by simp [Request.clients])
        · exact vouched.client _ active
  case pending =>
    -- A refresh is pending only after it was brought from outside.
    intro id seen sealed reject fresh refreshed waiting
    rcases step_request taken id with same | progress
    · exact vouched.pending id _ _ _ _ _ (same ▸ waiting)
    · generalize state.request id = source at progress
      rw [waiting] at progress
      cases progress with
      | refreshed built => exact outside refreshed rfl

/-- What brings nothing in from outside needs no check. -/
theorem step_keeps_vouched {state target : ProxyState} {action : Action} (vouched : state.Vouched hpke shown)
    (inside : action.brought? = none) (taken : step library state action = some target) :
    target.Vouched hpke shown := by
  refine step_vouched vouched (fun refreshed brought => ?_) taken
  rw [inside] at brought
  cases brought

end Vouched

end Tinfoil.Ehbp

namespace Tinfoil.Client

open Tinfoil.Attestation Tinfoil.Ehbp Transition

variable {env : Environment}

/-! ## The client -/

section Trusted

variable (env) (repo : String) (vouched : Attested → Prop)

structure TlsKey (client : PinnedClient) : Prop where
  built : createHostBoundPinnedClient env client.fingerprint = .ok client
  attested : ∃ attested, vouched attested ∧ attested.verification.tlsPublicKeyFp = client.fingerprint

def HpkeKey (key : String) : Prop := ∃ attested, vouched attested ∧ attested.verification.hpkePublicKey = some key

def Told (groundTruth : GroundTruth) : Prop :=
  ∃ attested verifiedAt, vouched attested ∧ groundTruth = buildGroundTruth env repo attested verifiedAt

/-- Every key and every ground truth that the client holds is of an attestation, at every point of `verify`. -/
structure Trusted (state : ClientState) : Prop where
  sameRepo : state.secure.repo = repo
  pinned : ∀ client, state.secure.pinnedClient = some client → TlsKey env vouched client
  stored : ∀ client, state.openai = some (.pinned client) → TlsKey env vouched client
  installed : ∀ client groundTruth, state.verify = .installed client groundTruth →
    TlsKey env vouched client ∧ Told env repo vouched groundTruth
  returning : ∀ groundTruth, state.verify = .returning groundTruth → Told env repo vouched groundTruth
  outcome : ∀ groundTruth, state.outcome = some (.ok groundTruth) → Told env repo vouched groundTruth
  groundTruth : ∀ groundTruth, state.secure.groundTruth = some groundTruth → Told env repo vouched groundTruth
  proxy : ∀ proxy, state.secure.ehbp = some proxy → proxy.Vouched (HpkeKey vouched) (Told env repo vouched)

variable {env repo vouched}

theorem answer_cases {state target : ClientState} {result : Except Error Attested} {verifiedAt : String}
    (taken : step env state (.answer result verifiedAt) = some target) :
    (∃ error, target = { state with verify := .failing error }) ∨
      ∃ attested pinned ehbp, result = .ok attested ∧
        createHostBoundPinnedClient env attested.verification.tlsPublicKeyFp = .ok pinned ∧
        buildEhbp env state.secure attested.verification (buildGroundTruth env state.secure.repo attested verifiedAt) =
          .ok ehbp ∧
        target = { state with
          secure := { state.secure with ehbp }
          verify := .installed pinned (buildGroundTruth env state.secure.repo attested verifiedAt) } := by
  simp only [step] at taken
  split at taken <;> cases taken
  cases result with
  | error error => exact .inl ⟨error, rfl⟩
  | ok attested =>
    simp only [ClientState.attested]
    split
    · exact .inl ⟨_, rfl⟩
    · rename_i pinned built
      split
      · exact .inl ⟨_, rfl⟩
      · rename_i ehbp proxied
        exact .inr ⟨attested, pinned, ehbp, rfl, built, proxied, rfl⟩

theorem buildEhbp_vouched {secure : SecureClient} {attested : Attested} {groundTruth : GroundTruth}
    {ehbp : Option ProxyState}
    (before : ∀ proxy, secure.ehbp = some proxy → proxy.Vouched (HpkeKey vouched) (Told env repo vouched))
    (genuine : vouched attested) (told : Told env repo vouched groundTruth)
    (built : buildEhbp env secure attested.verification groundTruth = .ok ehbp) :
    ∀ proxy, ehbp = some proxy → proxy.Vouched (HpkeKey vouched) (Told env repo vouched) := by
  cases url : secure.proxyUrl with
  | none =>
    rw [buildEhbp, url] at built
    cases built
    exact fun proxy nothing => by cases nothing
  | some proxyUrl =>
    obtain ⟨key, source, installed, present, rfl, rfl, -, origin⟩ := buildEhbp_ok (by simp [url]) built
    rintro _ ⟨⟩
    have attestedKey : HpkeKey vouched key := ⟨attested, genuine, present⟩
    have before : source.Vouched (HpkeKey vouched) (Told env repo vouched) := by
      rcases origin with active | ⟨-, new⟩
      · exact before _ active
      · exact new_vouched new attestedKey
    have taken : Ehbp.step env.library source (.installVerifiedState key groundTruth) =
      some (installState env.library source ⟨key, some groundTruth⟩) := rfl
    refine step_vouched before (fun refreshed brought => ?_) taken
    cases brought
    exact ⟨attestedKey, fun other same => by cases same; exact told⟩

theorem verifyRotatedState_vouched {answer : Except Error Attested} {verifiedAt : String} {refreshed : RefreshedState}
    (made : verifyRotatedState env repo answer verifiedAt = .ok refreshed)
    (genuine : ∀ attested, answer = .ok attested → vouched attested) :
    refreshed.Vouched (HpkeKey vouched) (Told env repo vouched) := by
  simp only [verifyRotatedState, bind_ok, pure, Except.pure, Except.ok.injEq] at made
  obtain ⟨attested, answered, key, present, rfl⟩ := made
  have known := genuine attested answered
  constructor
  · exact ⟨attested, known, requireHpkePublicKey_ok present⟩
  · rintro _ ⟨⟩
    exact ⟨attested, verifiedAt, known, rfl⟩

theorem revoke_vouched {proxy : ProxyState} (before : proxy.Vouched (HpkeKey vouched) (Told env repo vouched)) :
    ProxyState.Vouched (HpkeKey vouched) (Told env repo vouched) { proxy with channel := proxy.channel.clear } := by
  have revoked : Ehbp.step env.library proxy .revoke = some { proxy with channel := proxy.channel.clear } := rfl
  exact step_keeps_vouched before rfl revoked

theorem answer_trusted {state target : ClientState} {result : Except Error Attested} {verifiedAt : String}
    (trusted : Trusted env repo vouched state) (genuine : ∀ attested, result = .ok attested → vouched attested)
    (taken : step env state (.answer result verifiedAt) = some target) : Trusted env repo vouched target := by
  rcases answer_cases taken with ⟨error, rfl⟩ | ⟨attested, pinned, ehbp, answered, made, built, rfl⟩
  · exact { trusted with
      installed := fun _ _ same => by cases same
      returning := fun _ same => by cases same }
  · have known := genuine attested answered
    have told : Told env repo vouched (buildGroundTruth env state.secure.repo attested verifiedAt) :=
      ⟨attested, verifiedAt, known, by rw [trusted.sameRepo]⟩
    exact { trusted with
      installed := by
        rintro _ _ ⟨⟩
        have fingerprint := createHostBoundPinnedClient_ok made
        exact ⟨⟨fingerprint ▸ made, attested, known, fingerprint.symm⟩, told⟩
      returning := fun _ same => by cases same
      proxy := buildEhbp_vouched trusted.proxy known told built }

theorem leave_trusted {state target : ClientState} {outcome : VerifyOutcome} (trusted : Trusted env repo vouched state)
    (left : state.leave env outcome = some target)
    (told : ∀ groundTruth, outcome = .ok groundTruth → Told env repo vouched groundTruth) :
    Trusted env repo vouched target := by
  obtain ⟨ehbp, rfl, moved⟩ := leave_some left
  exact { trusted with
    installed := fun _ _ same => by cases same
    returning := fun _ same => by cases same
    outcome := fun groundTruth same => told groundTruth (Option.some.inj same)
    proxy := by
      rcases moved with rfl | ⟨source, unlocked, held, rfl, taken⟩
      · exact trusted.proxy
      · rintro _ ⟨⟩
        exact step_keeps_vouched (trusted.proxy source held) rfl taken }

theorem step_trusted {state target : ClientState} {action : Action} (trusted : Trusted env repo vouched state)
    (genuine : ∀ attested verifiedAt, action = .answer (.ok attested) verifiedAt → vouched attested)
    (outside : ∀ inner refreshed, action = .request inner → inner.brought? = some refreshed →
      refreshed.Vouched (HpkeKey vouched) (Told env repo vouched))
    (taken : step env state action = some target) : Trusted env repo vouched target := by
  cases step_cases taken with
  | startWaiting | startClearing =>
    exact { trusted with
      installed := fun _ _ same => by cases same
      returning := fun _ same => by cases same }
  | @acquire proxy locked _ active moved =>
    exact { trusted with
      installed := fun _ _ same => by cases same
      returning := fun _ same => by cases same
      proxy := by
        rintro _ ⟨⟩
        exact step_keeps_vouched (trusted.proxy proxy active) rfl moved }
  | clear _ =>
    exact { trusted with
      pinned := fun _ same => by cases same
      installed := fun _ _ same => by cases same
      returning := fun _ same => by cases same
      groundTruth := fun _ same => by cases same
      proxy := by
        intro proxy active
        obtain ⟨source, held, rfl⟩ := Option.map_eq_some_iff.mp active
        exact revoke_vouched (trusted.proxy source held) }
  | failed | verified => exact answer_trusted trusted (fun attested same => genuine attested _ (by rw [same])) taken
  | @assign pinned groundTruth installed =>
    obtain ⟨key, told⟩ := trusted.installed _ _ installed
    exact { trusted with
      pinned := by
        rintro _ ⟨⟩
        exact key
      installed := fun _ _ same => by cases same
      returning := by
        rintro _ ⟨⟩
        exact told
      groundTruth := by
        intro shown same
        simp only [ClientState.assigned, Option.ite_none_right_eq_some, Option.some.injEq] at same
        exact same.2 ▸ told
      proxy := by
        intro proxy active
        obtain ⟨source, held, rfl⟩ := Option.map_eq_some_iff.mp active
        have equipped : Ehbp.step env.library source .setRefresher = some { source with refresher := true } := rfl
        exact step_keeps_vouched (trusted.proxy source held) rfl equipped }
  | unbuilt _ _ left | unwind _ left | cancel _ left => exact leave_trusted trusted left fun _ same => by cases same
  | @finish groundTruth stack _ returning built left =>
    have stored : Trusted env repo vouched { state with openai := some stack } := { trusted with
      stored := by
        rintro client ⟨⟩
        -- The stored client is a copy of the pinned one.
        simp only [buildOpenai] at built
        split at built
        · cases built
        · simp only [bind_ok, SecureClient.pinnedHttpClient, pure, Except.pure, Except.ok.injEq, Stack.pinned.injEq] at built
          obtain ⟨pinned, held, rfl⟩ := built
          split at held <;> cases held
          exact trusted.pinned _ ‹_› }
    refine leave_trusted stored left fun shown same => ?_
    cases same
    exact trusted.returning _ returning
  | @request inner id source moved own held done =>
    exact { trusted with
      proxy := by
        rintro _ ⟨⟩
        exact step_vouched (trusted.proxy source held)
          (fun refreshed brought => outside inner refreshed rfl brought) done }

def Event.attested : Event → Option Attested
  | .client (.answer (.ok attested) _) => some attested
  | .refreshed _ (.ok attested) _ => some attested
  | _ => none

theorem eventStep_trusted {state target : ClientState} {event : Event} (trusted : Trusted env repo vouched state)
    (genuine : ∀ attested, event.attested = some attested → vouched attested)
    (taken : eventStep env state event = some target) : Trusted env repo vouched target := by
  cases event with
  | client action =>
    simp only [eventStep] at taken
    split at taken
    · cases taken
    · rename_i own
      refine step_trusted trusted ?_ ?_ taken
      · rintro attested verifiedAt rfl
        exact genuine attested rfl
      · rintro inner refreshed rfl brought
        cases inner with
        | refresherReturns id result => exact absurd rfl own
        | rekey key | installVerifiedState key groundTruth => simp [step, Ehbp.Action.request?] at taken
        -- No other action of a request brings anything in.
        | _ => cases brought
  | refreshed id answer verifiedAt =>
    -- What the refresher brings is checked like the answer of `verify`.
    simp only [eventStep] at taken
    refine step_trusted trusted (fun _ _ same => by cases same) ?_ taken
    rintro inner refreshed ⟨⟩ brought
    cases made : verifyRotatedState env state.secure.repo answer verifiedAt with
    | error error => rw [made] at brought; cases brought
    | ok made' =>
      rw [made] at brought
      cases brought
      rw [trusted.sameRepo] at made
      exact verifyRotatedState_vouched made fun attested same => genuine attested (by rw [same]; rfl)
  | revoke =>
    obtain ⟨source, held, rfl⟩ := Option.map_eq_some_iff.mp taken
    exact { trusted with
      proxy := by
        rintro _ ⟨⟩
        exact revoke_vouched (trusted.proxy source held) }

theorem unverified_trusted (proxyUrl : Option String) : Trusted env repo vouched (.unverified repo proxyUrl) where
  sameRepo := rfl
  pinned _ same := by cases same
  stored _ same := by cases same
  installed _ _ same := by cases same
  returning _ same := by cases same
  outcome _ same := by cases same
  groundTruth _ same := by cases same
  proxy _ same := by cases same

theorem runs_trusted {proxyUrl : Option String} {schedule : List Event} {final : ClientState}
    (run : EventRuns env (.unverified repo proxyUrl) schedule final)
    (genuine : ∀ event ∈ schedule, ∀ attested, event.attested = some attested → vouched attested) :
    Trusted env repo vouched final := by
  refine exec_history (P := fun _ state => Trusted env repo vouched state) (unverified_trusted proxyUrl) ?_ run
  rintro before event state next reached ⟨after, rfl⟩ trusted taken
  exact eventStep_trusted trusted (genuine event (by simp)) taken

end Trusted

/-! ## What the client holds -/

section Keys

variable (host repo : String) (pinnedMeasurement : Option Measurement) (worlds : Nat → Outside) (schedule : List Event)

/-- Every attestation that succeeded in the schedule is one of the host, in the world of its place in the schedule. -/
def Attestations : Prop :=
  ∀ place attested, schedule[place]?.bind Event.attested = some attested →
    (verifyAttestation (worlds place) host repo pinnedMeasurement).1 = .ok attested

/-- An event of the schedule was answered by this attestation, and the host ran the code then. -/
structure AttestedAt (place : Nat) (attested : Attested) : Prop where
  answered : schedule[place]?.bind Event.attested = some attested
  attests : Attests (worlds place) host repo pinnedMeasurement attested

def Transport.IsOf (attested : Client.Attested) : Transport → Prop
  | .pinned client => attested.verification.tlsPublicKeyFp = client.fingerprint
  | .sealed client => attested.verification.hpkePublicKey = some client.publicKey

def Transport.Vouched (env : Environment) (vouched : Client.Attested → Prop) : Transport → Prop
  | .pinned client => TlsKey env vouched client
  | .sealed client => HpkeKey vouched client.publicKey

variable {host repo pinnedMeasurement worlds schedule}

theorem transport_vouched {state : ClientState} {path : RequestPath} {transport : Transport} {vouched : Attested → Prop}
    (trusted : Trusted env repo vouched state) (used : state.transport path = some (.ok transport)) :
    transport.Vouched env vouched := by
  have pinned {secure : SecureClient} {client : PinnedClient} (same : secure = state.secure)
      (held : secure.pinnedHttpClient = .ok client) : TlsKey env vouched client := by
    subst same
    unfold SecureClient.pinnedHttpClient at held
    split at held <;> cases held
    exact trusted.pinned _ ‹_›
  have sealed {proxy : ProxyState} (active : state.secure.ehbp = some proxy)
      (taken : ehbpTransport proxy = .ok transport) : transport.Vouched env vouched := by
    unfold ehbpTransport at taken
    split at taken <;> cases taken
    exact (trusted.proxy proxy active).client _ ‹_›
  cases path with
  | typed =>
    -- The stored async-openai client: pinned as it was built, or over the channel of the proxy.
    simp only [ClientState.transport] at used
    split at used
    · rename_i client stored
      cases used
      exact trusted.stored client stored
    · rename_i active
      exact sealed active (Option.some.inj used)
    · cases used
  | postJson =>
    -- The channel in proxy mode, and the pinned client without a proxy.
    simp only [ClientState.transport, Option.map_eq_some_iff, SecureClient.postJson] at used
    obtain ⟨_, -, used⟩ := used
    split at used
    · exact sealed ‹_› used
    · simp only [bind_ok, pure, Except.pure, Except.ok.injEq] at used
      obtain ⟨client, held, rfl⟩ := used
      exact pinned rfl held
  | httpClient =>
    simp only [ClientState.transport, Option.map_eq_some_iff, SecureClient.httpClient] at used
    obtain ⟨_, -, used⟩ := used
    split at used
    · cases used
    · simp only [bind_ok, pure, Except.pure, Except.ok.injEq] at used
      obtain ⟨client, held, rfl⟩ := used
      exact pinned rfl held

theorem Transport.Vouched.isOf {transport : Transport} {vouched : Client.Attested → Prop}
    (known : transport.Vouched env vouched) : ∃ attested, vouched attested ∧ transport.IsOf attested := by
  cases transport with
  | pinned client => exact TlsKey.attested known
  | sealed client => exact known

theorem told_of_shown {state : ClientState} {groundTruth : GroundTruth} {vouched : Attested → Prop}
    (trusted : Trusted env repo vouched state)
    (shown : state.outcome = some (.ok groundTruth) ∨ state.secure.currentGroundTruth = some groundTruth) :
    Told env repo vouched groundTruth := by
  rcases shown with returned | shown
  · exact trusted.outcome _ returned
  · unfold SecureClient.currentGroundTruth at shown
    split at shown
    · cases shown
    · split at shown
      · rename_i proxy active
        simp only [verifiedGroundTruth, bind, Option.bind_eq_some_iff] at shown
        obtain ⟨_, -, shown⟩ := shown
        exact (trusted.proxy proxy active).groundTruth _ shown
      · exact trusted.groundTruth _ shown

theorem attested_trusted {proxyUrl : Option String} {final : ClientState}
    (run : EventRuns env (.unverified repo proxyUrl) schedule final)
    (attestations : Attestations host repo pinnedMeasurement worlds schedule) :
    Trusted env repo (fun attested => ∃ place, AttestedAt host repo pinnedMeasurement worlds schedule place attested)
      final := by
  refine runs_trusted run fun event member attested same => ?_
  obtain ⟨place, here⟩ := List.mem_iff_getElem?.mp member
  have answered : schedule[place]?.bind Event.attested = some attested := by simp [here, same]
  exact ⟨place, answered, verifyAttestation_ok.mp (attestations place attested answered)⟩

/-- In every state that a client can reach, in either mode: what a request path goes out over, what a request in flight
is sealed to and what the client shows are of an enclave of the host that was attested to run the code, by an event of
this very run. -/
theorem only_attested_keys {proxyUrl : Option String} {final : ClientState}
    (run : EventRuns env (.unverified repo proxyUrl) schedule final)
    (attestations : Attestations host repo pinnedMeasurement worlds schedule) :
    (∀ path transport, final.transport path = some (.ok transport) →
      ∃ attested, (∃ place, AttestedAt host repo pinnedMeasurement worlds schedule place attested) ∧
        transport.IsOf attested) ∧
    (∀ proxy id, final.secure.ehbp = some proxy → ∀ client ∈ (proxy.request id).clients,
      ∃ attested, (∃ place, AttestedAt host repo pinnedMeasurement worlds schedule place attested) ∧
        attested.verification.hpkePublicKey = some client.publicKey) ∧
    ∀ groundTruth, final.outcome = some (.ok groundTruth) ∨ final.secure.currentGroundTruth = some groundTruth →
      ∃ attested verifiedAt, (∃ place, AttestedAt host repo pinnedMeasurement worlds schedule place attested) ∧
        groundTruth = buildGroundTruth env repo attested verifiedAt := by
  have trusted := attested_trusted run attestations
  exact ⟨fun path transport used => (transport_vouched trusted used).isOf,
    fun proxy id active => (trusted.proxy proxy active).requests id,
    fun groundTruth => told_of_shown trusted⟩

end Keys

namespace Sample

/-- A first `verify` of the enclave, and requests after it. -/
def schedule (requests : List Ehbp.Action) : List Event :=
  clientEvents ([.start, .clear, .answer (.ok attested) "2026-01-01T00:00:00Z", .assign, .finish] ++
    requests.map .request)

theorem schedule_attested {requests : List Ehbp.Action} {place : Nat} {other : Attested}
    (answered : (schedule requests)[place]?.bind Event.attested = some other) : other = attested := by
  obtain ⟨event, here, same⟩ := Option.bind_eq_some_iff.mp answered
  have member := List.mem_of_getElem? here
  simp only [schedule, clientEvents, List.map_cons, List.map_map, List.cons_append,
    List.nil_append, List.mem_cons, List.mem_map] at member
  rcases member with rfl | rfl | rfl | rfl | rfl | ⟨request, -, rfl⟩ <;> cases same
  rfl

theorem attestations_schedule (requests : List Ehbp.Action) :
    Attestations host "org/repo" (some measurement) (fun _ => outside) (schedule requests) := by
  intro place other answered
  rw [schedule_attested answered]
  exact verifyAttestation_ok.mpr attests

end Sample

/-- The request is sealed to the key in the report. -/
theorem sent_to_attested_key : ∃ final place,
    EventRuns .permissive (.unverified "org/repo" (some "https://proxy.example"))
      (Sample.schedule [.readGeneration 0, .build 0, .send 0]) final ∧
      final.transport .typed = some (.ok (.sealed ⟨hexEncode Sample.hpkeKey⟩)) ∧
      AttestedAt Sample.host "org/repo" (some Sample.measurement) (fun _ => Sample.outside)
        (Sample.schedule [.readGeneration 0, .build 0, .send 0]) place Sample.attested ∧
      Sample.attested.verification.hpkePublicKey = some (hexEncode Sample.hpkeKey) := by
  obtain ⟨final, run⟩ : ∃ final, EventRuns .permissive (.unverified "org/repo" (some "https://proxy.example"))
      (Sample.schedule [.readGeneration 0, .build 0, .send 0]) final := ⟨_, rfl⟩
  have keys := (only_attested_keys run (Sample.attestations_schedule _)).1 .typed
  cases run
  obtain ⟨attested, ⟨place, attestedAt⟩, of⟩ := keys (.sealed ⟨_⟩) rfl
  obtain rfl := Sample.schedule_attested attestedAt.answered
  exact ⟨_, place, rfl, rfl, attestedAt, of⟩

end Tinfoil.Client
