import Tinfoil.Client.FailClosed
import Tinfoil.Ehbp.Naming
import Tinfoil.Attestation.Document

/-! # What a client in proxy mode publishes

The ground truth travels through the channel next to the key it was attested with.  `Published`
says that every state of the channel names its own sealing key; it holds in every state that
`verify`, the refresher that `verify` installs, the refreshes of requests and `revoke` can reach,
whatever fails or is dropped on the way.
-/

namespace Tinfoil.Client

open Tinfoil.Attestation Tinfoil.Ehbp Transition

variable {env : Environment}

/-! ## Reading the published state -/

/-- `EhbpProxy::verified_ground_truth`. -/
def verifiedGroundTruth (proxy : ProxyState) : Option GroundTruth := do
  let _ ← proxy.channel.client
  proxy.channel.groundTruth

namespace SecureClient

def isVerified (secure : SecureClient) : Bool :=
  secure.pinnedClient.isSome &&
    match secure.ehbp with
    | none => secure.groundTruth.isSome
    | some proxy => (verifiedGroundTruth proxy).isSome

/-- The method `ground_truth()`; the field of that name is for direct mode. -/
def currentGroundTruth (secure : SecureClient) : Option GroundTruth :=
  if secure.pinnedClient.isNone then none
  else match secure.ehbp with
    | some proxy => verifiedGroundTruth proxy
    | none => secure.groundTruth

def verificationDocument (secure : SecureClient) (host : String) : Option VerificationDocument := do
  let groundTruth ← secure.currentGroundTruth
  VerificationDocument.fromGroundTruth groundTruth host

end SecureClient

/-! ## Everything that can happen to the published state -/

/-- The refresher that `verify` installs. -/
def verifyRotatedState (env : Environment) (repo : String) (answer : Except Error Attested) (verifiedAt : String) :
    Except Error RefreshedState := do
  let attested ← answer
  let hpkePublicKey ← requireHpkePublicKey attested.verification
  return ⟨hpkePublicKey, some (buildGroundTruth env repo attested verifiedAt)⟩

/-- A step of the client or of a request; the refresher's answer to a request, made from what it
attested; or a call of `revoke`. -/
inductive Event where
  | client (action : Action)
  | refreshed (id : Nat) (answer : Except Error Attested) (verifiedAt : String)
  | revoke

/-- The refresher of the client is `verifyRotatedState`, so no other answer of one occurs. -/
def Action.isRefresherAnswer : Action → Bool
  | .request (.refresherReturns _ _) => true
  | _ => false

def eventStep (env : Environment) (state : ClientState) : Event → Option ClientState
  | .client action => if action.isRefresherAnswer then none else step env state action
  | .refreshed id answer verifiedAt =>
    step env state (.request (.refresherReturns id (verifyRotatedState env state.secure.repo answer verifiedAt)))
  | .revoke => state.secure.ehbp.map fun proxy =>
    state.setEhbp (some { proxy with channel := proxy.channel.clear })

abbrev EventRuns (env : Environment) (start : ClientState) (schedule : List Event) (final : ClientState) : Prop :=
  exec (eventStep env) start schedule = some final

/-! ## The client -/

/-- In proxy mode the proxy is published as it should be, and a pinned client comes with one. -/
structure Publishing (state : ClientState) : Prop where
  url : state.secure.proxyUrl.isSome
  published : ∀ proxy, state.secure.ehbp = some proxy → proxy.Published
  backed : state.secure.pinnedClient.isSome → state.secure.ehbp.isSome
  installed : ∀ pinned groundTruth, state.verify = .installed pinned groundTruth →
    state.secure.ehbp.isSome

theorem verifyRotatedState_named {repo verifiedAt : String} {answer : Except Error Attested}
    {refreshed : RefreshedState}
    (made : verifyRotatedState env repo answer verifiedAt = .ok refreshed) : refreshed.Named := by
  cases answer with
  | error error => cases made
  | ok attested =>
    cases present : requireHpkePublicKey attested.verification with
    | error error => simp [verifyRotatedState, present, bind, Except.bind] at made
    | ok key =>
      simp only [verifyRotatedState, present, bind, Except.bind, pure, Except.pure,
        Except.ok.injEq] at made
      subst made
      intro groundTruth shown
      cases shown
      exact requireHpkePublicKey_ok present

theorem buildEhbp_published {secure : SecureClient} {attested : Attested} {groundTruth : GroundTruth}
    {repo verifiedAt : String} {ehbp : Option ProxyState} (url : secure.proxyUrl.isSome)
    (published : ∀ proxy, secure.ehbp = some proxy → proxy.Published)
    (shown : groundTruth = buildGroundTruth env repo attested verifiedAt)
    (built : buildEhbp env secure attested.verification groundTruth = .ok ehbp) :
    ∃ proxy, ehbp = some proxy ∧ proxy.Published := by
  obtain ⟨key, source, installed, present, rfl, rfl, -, origin⟩ := buildEhbp_ok url built
  refine ⟨_, rfl, ?_⟩
  have before : source.Published := by
    rcases origin with active | ⟨-, new⟩
    · exact published source active
    · exact new_published new
  have taken : Ehbp.step env.library source (.installVerifiedState key groundTruth) =
    some (installState env.library source ⟨key, some groundTruth⟩) := rfl
  apply step_published before ?_ taken
  intro refreshed brought other same
  cases brought
  cases same
  rw [shown]
  exact present

theorem leave_publishing {state target : ClientState} {outcome : VerifyOutcome}
    (publishing : Publishing state) (left : state.leave env outcome = some target) :
    Publishing target := by
  obtain ⟨url, published, backed, -⟩ := publishing
  obtain ⟨ehbp, rfl, rfl | ⟨source, unlocked, held, rfl, taken⟩⟩ := leave_some left
  · exact ⟨url, published, backed, by intro pinned groundTruth installed; cases installed⟩
  · refine ⟨url, ?_, fun _ => rfl, fun _ _ _ => rfl⟩
    intro proxy active
    cases active
    exact step_keeps_published (published source held) rfl taken

theorem step_publishing {state target : ClientState} {action : Action} (publishing : Publishing state)
    (outside : ∀ inner refreshed, action = .request inner → inner.brought? = some refreshed →
      refreshed.Named)
    (taken : step env state action = some target) : Publishing target := by
  have url : target.secure.proxyUrl.isSome := by rw [step_proxyUrl taken]; exact publishing.url
  cases step_cases taken with
  | startWaiting | startClearing | failed =>
    exact ⟨url, publishing.published, publishing.backed, by intro _ _ same; cases same⟩
  | @acquire proxy locked _ active moved =>
    refine ⟨url, ?_, fun _ => rfl, fun _ _ _ => rfl⟩
    intro other same
    cases same
    exact step_keeps_published (publishing.published proxy active) rfl moved
  | clear _ =>
    refine ⟨url, ?_, (by intro pinned; cases pinned), by intro _ _ same; cases same⟩
    intro proxy active
    obtain ⟨source, held, rfl⟩ := Option.map_eq_some_iff.mp active
    have revoked : Ehbp.step env.library source .revoke =
      some { source with channel := source.channel.clear } := rfl
    exact step_keeps_published (publishing.published source held) rfl revoked
  | verified _ shown _ built =>
    obtain ⟨proxy, rfl, named⟩ := buildEhbp_published publishing.url publishing.published shown built
    refine ⟨publishing.url, ?_, fun _ => rfl, fun _ _ _ => rfl⟩
    intro other same
    cases same
    exact named
  | assign installed =>
    -- The pinned client comes last, when the proxy is there already.
    have active := publishing.installed _ _ installed
    refine ⟨url, ?_, ?_, by intro _ _ same; cases same⟩
    · intro proxy held
      obtain ⟨source, before, rfl⟩ := Option.map_eq_some_iff.mp held
      have equipped : Ehbp.step env.library source .setRefresher =
        some { source with refresher := true } := rfl
      exact step_keeps_published (publishing.published source before) rfl equipped
    · intro _
      simpa [ClientState.assigned] using active
  | @finish _ stack _ _ _ left =>
    have stored : Publishing { state with openai := some stack } :=
      ⟨publishing.url, publishing.published, publishing.backed, publishing.installed⟩
    exact leave_publishing stored left
  | unbuilt _ _ left | unwind _ left | cancel _ left => exact leave_publishing publishing left
  | @request inner id source moved own held done =>
    refine ⟨url, ?_, fun _ => rfl, fun _ _ _ => rfl⟩
    intro proxy active
    cases active
    exact step_published (publishing.published source held)
      (fun refreshed brought => outside inner refreshed rfl brought) done

theorem eventStep_publishing {state target : ClientState} {event : Event}
    (publishing : Publishing state) (taken : eventStep env state event = some target) :
    Publishing target := by
  cases event with
  | client action =>
    simp only [eventStep] at taken
    split at taken
    · cases taken
    · rename_i own
      apply step_publishing publishing ?_ taken
      rintro inner refreshed rfl brought
      cases inner with
      | refresherReturns id result => exact absurd rfl own
      | rekey key | installVerifiedState key groundTruth => simp [step, Ehbp.Action.request?] at taken
      | _ => cases brought
  | refreshed id answer verifiedAt =>
    simp only [eventStep] at taken
    apply step_publishing publishing ?_ taken
    intro inner refreshed same brought
    cases same
    cases made : verifyRotatedState env state.secure.repo answer verifiedAt with
    | error error => rw [made] at brought; cases brought
    | ok made' =>
      rw [made] at brought
      cases brought
      exact verifyRotatedState_named made
  | revoke =>
    obtain ⟨source, held, rfl⟩ := Option.map_eq_some_iff.mp taken
    refine ⟨publishing.url, ?_, fun _ => rfl, fun _ _ _ => rfl⟩
    intro proxy active
    cases active
    have revoked : Ehbp.step env.library source .revoke =
      some { source with channel := source.channel.clear } := rfl
    exact step_keeps_published (publishing.published source held) rfl revoked

theorem unverified_publishing (repo proxyUrl : String) :
    Publishing (.unverified repo (some proxyUrl)) where
  url := rfl
  published _ active := by cases active
  backed pinned := by cases pinned
  installed _ _ same := by cases same

/-! ## After a verification that did not complete -/

/-- The last `verify` that touched the trust state has not completed. -/
def ClientState.Unverified (state : ClientState) : Prop :=
  match state.verify with
  | .idle | .waiting | .clearing => ∀ groundTruth, state.outcome ≠ some (.ok groundTruth)
  | .attesting | .failing _ | .installed _ _ => True
  | .returning _ => False

/-- Without a completed `verify` there is no pinned client, and nothing is shown. -/
def Withheld (state : ClientState) : Prop :=
  state.Unverified → state.secure.pinnedClient = none

theorem leave_withheld {state target : ClientState} {outcome : VerifyOutcome}
    (left : state.leave env outcome = some target)
    (withheld : (∀ groundTruth, outcome ≠ .ok groundTruth) → state.secure.pinnedClient = none) :
    Withheld target := by
  obtain ⟨ehbp, rfl, -⟩ := leave_some left
  intro unverified
  apply withheld
  rintro groundTruth rfl
  exact unverified groundTruth rfl

theorem step_withheld {state target : ClientState} {action : Action} (withheld : Withheld state)
    (patient : action = .cancel → state.verify ≠ .waiting)
    (taken : step env state action = some target) : Withheld target := by
  cases step_cases taken with
  | startWaiting resting | startClearing resting =>
    intro unverified
    apply withheld
    simp only [ClientState.Unverified, resting]
    exact unverified
  | acquire waiting _ _ =>
    intro unverified
    apply withheld
    simp only [ClientState.Unverified, waiting]
    exact unverified
  | clear _ => exact fun _ => rfl
  | failed _ attesting | verified attesting _ _ _ =>
    have nothing : state.secure.pinnedClient = none := by
      apply withheld
      simp [ClientState.Unverified, attesting]
    exact fun _ => nothing
  | assign _ => exact False.elim
  | unbuilt _ unbuilt left =>
    refine leave_withheld left fun _ => ?_
    -- The async-openai client is always built when there is a pinned client.
    simp only [buildOpenai, SecureClient.pinnedHttpClient] at unbuilt
    split at unbuilt
    · cases unbuilt
    · split at unbuilt
      · cases unbuilt
      · assumption
  | finish _ _ left => exact leave_withheld left fun failed => absurd rfl (failed _)
  | unwind failing left =>
    refine leave_withheld left fun _ => withheld ?_
    simp [ClientState.Unverified, failing]
  | cancel pending left =>
    have attesting := pending.resolve_left (patient rfl)
    refine leave_withheld left fun _ => withheld ?_
    simp [ClientState.Unverified, attesting]
  | request _ _ _ => exact withheld

theorem eventStep_withheld {state target : ClientState} {event : Event} (withheld : Withheld state)
    (patient : event = .client .cancel → state.verify ≠ .waiting)
    (taken : eventStep env state event = some target) : Withheld target := by
  cases event with
  | client action =>
    simp only [eventStep] at taken
    split at taken
    · cases taken
    · exact step_withheld withheld (fun same => patient (by rw [same])) taken
  | refreshed id answer verifiedAt =>
    simp only [eventStep] at taken
    exact step_withheld withheld (by intro same; cases same) taken
  | revoke =>
    obtain ⟨source, -, rfl⟩ := Option.map_eq_some_iff.mp taken
    exact withheld

/-- No `verify` is dropped while it waits for the refresh lock. -/
def PatientEvents (env : Environment) (start : ClientState) (schedule : List Event) : Prop :=
  ∀ before after source, schedule = before ++ .client .cancel :: after →
    EventRuns env start before source → source.verify ≠ .waiting

theorem runs_withheld {repo proxyUrl : String} {schedule : List Event} {final : ClientState}
    (run : EventRuns env (.unverified repo (some proxyUrl)) schedule final)
    (patient : PatientEvents env (.unverified repo (some proxyUrl)) schedule) : Withheld final := by
  refine exec_history (P := fun _ state => Withheld state) (fun _ => rfl) ?_ run
  intro before event state next reached part withheld taken
  obtain ⟨after, rfl⟩ := part
  apply eventStep_withheld withheld ?_ taken
  rintro rfl
  exact patient before after state (by simp) reached

/-! ## What is published -/

/-- The four fields of the channel have one reading, and its ground truth is that of its key. -/
structure Describes (proxy : ProxyState) : Prop where
  client : proxy.channel.client.isSome ↔ proxy.channel.publicKey.isSome
  bound : ∀ client, proxy.channel.client = some client →
    proxy.channel.publicKey = some client.publicKey
  rejected : proxy.channel.rejectedPublicKey.isSome → proxy.channel.client = none
  ground : proxy.channel.groundTruth.isSome → proxy.channel.client.isSome
  named : ∀ groundTruth, proxy.channel.groundTruth = some groundTruth →
    groundTruth.hpkePublicKey = proxy.channel.publicKey

theorem describes_of_published {proxy : ProxyState} (published : proxy.Published) : Describes proxy := by
  obtain ⟨⟨⟨bound, rejected, ground⟩, -⟩, named, -⟩ := published
  refine ⟨by rw [bound, Option.isSome_map], ?_, ?_, ground, named⟩
  · intro client active
    rw [bound, active]
    rfl
  · intro remembered
    cases active : proxy.channel.client with
    | none => rfl
    | some client =>
      rw [rejected (by rw [active]; rfl)] at remembered
      cases remembered

/-- What a client shows names the key that a request sent now is sealed to. -/
structure Exact (secure : SecureClient) (host : String) : Prop where
  groundTruth : ∀ groundTruth, secure.currentGroundTruth = some groundTruth →
    ∃ proxy client, secure.ehbp = some proxy ∧ ehbpTransport proxy = .ok (.sealed client) ∧
      groundTruth.hpkePublicKey = some client.publicKey
  document : ∀ document, secure.verificationDocument host = some document →
    ∃ proxy client, secure.ehbp = some proxy ∧ ehbpTransport proxy = .ok (.sealed client) ∧
      document.hpkePublicKey = client.publicKey ∧
      document.enclaveMeasurement.hpkePublicKey = client.publicKey
  closed : (∀ proxy, secure.ehbp = some proxy → proxy.channel.client = none) →
    secure.currentGroundTruth = none ∧ secure.verificationDocument host = none

theorem currentGroundTruth_some {state : ClientState} {groundTruth : GroundTruth}
    (publishing : Publishing state)
    (shown : state.secure.currentGroundTruth = some groundTruth) :
    ∃ proxy client, state.secure.ehbp = some proxy ∧ proxy.channel.client = some client ∧
      groundTruth.hpkePublicKey = some client.publicKey := by
  unfold SecureClient.currentGroundTruth at shown
  split at shown
  · cases shown
  · rename_i verified
    split at shown
    · rename_i proxy active
      simp only [verifiedGroundTruth, bind, Option.bind_eq_some_iff] at shown
      obtain ⟨client, sealing, shown⟩ := shown
      have describes := describes_of_published (publishing.published proxy active)
      refine ⟨proxy, client, active, sealing, ?_⟩
      rw [describes.named groundTruth shown, describes.bound client sealing]
    · rename_i absent
      -- Without a proxy there is no pinned client yet.
      have backed := publishing.backed (by simpa [Option.isSome_iff_ne_none] using verified)
      rw [absent] at backed
      cases backed

theorem document_none {secure : SecureClient} {host : String}
    (nothing : secure.currentGroundTruth = none) : secure.verificationDocument host = none := by
  simp [SecureClient.verificationDocument, nothing]

theorem exact_of_publishing {state : ClientState} (publishing : Publishing state) (host : String) :
    Exact state.secure host := by
  constructor
  case groundTruth =>
    intro groundTruth shown
    obtain ⟨proxy, client, active, sealing, named⟩ := currentGroundTruth_some publishing shown
    exact ⟨proxy, client, active, by simp [ehbpTransport, sealing], named⟩
  case document =>
    intro document written
    simp only [SecureClient.verificationDocument, bind, Option.bind_eq_some_iff] at written
    obtain ⟨groundTruth, shown, written⟩ := written
    obtain ⟨proxy, client, active, sealing, named⟩ := currentGroundTruth_some publishing shown
    obtain ⟨key, twice⟩ := VerificationDocument.fromGroundTruth_key written
    have same : document.hpkePublicKey = client.publicKey := by
      rw [key] at named
      exact Option.some.inj named
    exact ⟨proxy, client, active, by simp [ehbpTransport, sealing], same, twice.trans same⟩
  case closed =>
    intro closed
    have nothing : state.secure.currentGroundTruth = none := by
      by_contra shown
      obtain ⟨groundTruth, shown⟩ := Option.ne_none_iff_exists'.mp shown
      obtain ⟨proxy, client, active, sealing, -⟩ := currentGroundTruth_some publishing shown
      rw [closed proxy active] at sealing
      cases sealing
    exact ⟨nothing, document_none nothing⟩

theorem runs_publishing {repo proxyUrl : String} {schedule : List Event} {final : ClientState}
    (run : EventRuns env (.unverified repo (some proxyUrl)) schedule final) : Publishing final :=
  exec_invariant (fun _ _ _ => eventStep_publishing) (unverified_publishing repo proxyUrl) run

/-- What the published state of a client in proxy mode says, in every state it can reach; that
it says nothing after a `verify` that did not complete needs that none was dropped at the lock. -/
theorem published_state {repo proxyUrl : String} {schedule : List Event} {final : ClientState}
    (run : EventRuns env (.unverified repo (some proxyUrl)) schedule final) (host : String) :
    (∀ proxy, final.secure.ehbp = some proxy → Describes proxy) ∧
    Exact final.secure host ∧
    (PatientEvents env (.unverified repo (some proxyUrl)) schedule → final.Unverified →
      final.secure.currentGroundTruth = none ∧ final.secure.verificationDocument host = none) := by
  have publishing := runs_publishing run
  refine ⟨fun proxy active => describes_of_published (publishing.published proxy active),
    exact_of_publishing publishing host, ?_⟩
  intro patient unverified
  have nothing : final.secure.currentGroundTruth = none := by
    simp [SecureClient.currentGroundTruth, runs_withheld run patient unverified]
  exact ⟨nothing, document_none nothing⟩

/-- `is_verified()` answers whether there is a ground truth to show. -/
theorem isVerified_eq (secure : SecureClient) :
    secure.isVerified = secure.currentGroundTruth.isSome := by
  unfold SecureClient.isVerified SecureClient.currentGroundTruth
  cases secure.pinnedClient with
  | none => rfl
  | some pinned => cases secure.ehbp <;> rfl

/-! ## Two histories -/

/-- A request that meets a key mismatch, up to its hold of the refresh lock. -/
def mismatchLocked : List Action :=
  [.request (.readGeneration 0), .request (.build 0), .request (.send 0),
    .request (.respond 0 (.keyMismatch "config")), .request (.lock 0)]

def clientEvents (actions : List Action) : List Event := actions.map .client

/-- A first `verify`, a request that meets a key mismatch, and its refresh. -/
def rotation (tls old new : String) : List Event :=
  clientEvents (firstVerify tls old ++ mismatchLocked ++
    [.request (.reject 0), .request (.callRefresher 0)]) ++
  [.refreshed 0 (.ok ⟨⟨.sevGuestV2, ["00"]⟩, "digest", none,
    ⟨⟨.sevGuestV2, ["00"]⟩, tls, some new⟩⟩) "2026-01-02T00:00:00Z", .client (.request (.commit 0))]

/-- After a rotation the client shows the new key. -/
theorem published_after_rotation : ∃ final groundTruth,
    EventRuns .permissive (.unverified "org/repo" (some "https://proxy.example"))
      (rotation "tls" "old" "new") final ∧
    final.secure.currentGroundTruth = some groundTruth ∧
    groundTruth.hpkePublicKey = some "new" ∧ Exact final.secure "router.example" := by
  obtain ⟨final, run⟩ : ∃ final, EventRuns .permissive
      (.unverified "org/repo" (some "https://proxy.example")) (rotation "tls" "old" "new") final :=
    ⟨_, rfl⟩
  have exact := (published_state run "router.example").2.1
  cases run
  exact ⟨_, _, rfl, rfl, rfl, exact⟩

/-- A `verify` that is dropped while a refresh holds the lock leaves the ground truth of the one
before it in place. -/
theorem published_after_drop : ∃ final,
    EventRuns .permissive (.unverified "org/repo" (some "https://proxy.example"))
      (clientEvents (firstVerify "tls" "hpke" ++ mismatchLocked ++ [.start, .cancel])) final ∧
    final.verify = .idle ∧ final.outcome = some .cancelled ∧
    ¬ (final.Unverified → final.secure.currentGroundTruth = none ∧
      final.secure.verificationDocument "router.example" = none) := by
  refine ⟨_, rfl, rfl, rfl, ?_⟩
  intro withheld
  have shown := (withheld (by intro groundTruth succeeded; cases succeeded)).1
  cases shown

end Tinfoil.Client
