import Tinfoil.Client.TlsBinding
import Tinfoil.Origin

/-! # The pinned HTTP client

The client accepts connections to one key under one name, and follows redirects within one origin.
`origin_bound_exact` says which hops of a request are sent, whatever the servers answer.
-/

namespace Tinfoil.Tls

open Client (TlsLibrary certPubkeyFingerprint orTls orTls_ok)
open Web (Url)

inductive Redirect where
  | follow
  | error (message : String)
  deriving DecidableEq

structure HttpLibrary (Certificate ServerName : Type) extends TlsLibrary Certificate where
  /-- `ServerName::try_from` -/
  tryServerName : List Char → Option ServerName
  /-- The roots of the web vouch for the certificates, under the name and at the time. -/
  webPki : (endEntity : Bytes) → (intermediates : List Bytes) → ServerName → (ocspResponse : Bytes) → (now : Nat) →
    Except String Unit
  webPkiVerifier : Except String Unit
  clientBuild : Except String Unit
  /-- The policy of a client without one of its own. -/
  defaultRedirect : (previous : List Url) → Url → Redirect

inductive RustlsError where
  | general (message : String)
  | webPki (text : String)
  deriving DecidableEq, Repr

structure PinnedCertVerifier (ServerName : Type) where
  pinnedFingerprint : String
  expectedServerName : Option ServerName

/-- `reqwest::Client`, as far as it decides what is sent. -/
structure HttpClient (ServerName : Type) where
  verifier : PinnedCertVerifier ServerName
  httpsOnly : Bool
  redirect : (previous : List Url) → Url → Redirect

/-- A client without the check of the first URL, and one with it. -/
structure OriginBoundClient (ServerName : Type) where
  inner : HttpClient ServerName
  expectedOrigin : List Char

structure HostBoundPinnedClient (ServerName : Type) where
  transport : HttpClient ServerName
  exposed : OriginBoundClient ServerName

structure Handshake where
  endEntity : Bytes
  intermediates : List Bytes
  ocspResponse : Bytes
  now : Nat

section Client

variable {Certificate ServerName : Type} (library : HttpLibrary Certificate ServerName)

/-! ## Building -/

def PinnedCertVerifier.new (pinnedFingerprint : String) : Except Error (PinnedCertVerifier ServerName) := do
  orTls "Failed to build verifier: " library.webPkiVerifier
  return { pinnedFingerprint, expectedServerName := none }

def PinnedCertVerifier.withServerName (verifier : PinnedCertVerifier ServerName) (expected : ServerName) :
    PinnedCertVerifier ServerName :=
  { verifier with expectedServerName := some expected }

def requestOriginMatches (expectedOrigin : List Char) (requestUrl : Url) : Bool :=
  requestUrl.origin.asciiSerialization == expectedOrigin

def unbracketed (host : List Char) : List Char :=
  match host with
  | '[' :: rest => if rest.getLast? = some ']' then rest.dropLast else host
  | _ => host

/-- The name of a host, for its URL and for a connection to it. -/
def hostName (url : Url) : Option ServerName := url.hostStr.bind fun host => library.tryServerName (unbracketed host)

def serverNameFromOrigin (expectedOrigin : Url) : Except Error ServerName :=
  match expectedOrigin.hostStr with
  | none => .error (.configuration "Verified enclave origin has no host")
  | some host =>
    match library.tryServerName (unbracketed host) with
    | none => .error (.configuration "Verified enclave origin has an invalid host")
    | some name => .ok name

def buildPinnedClient (pinnedFingerprint : String) (expectedServerName : Option ServerName)
    (redirectPolicy : Option (List Url → Url → Redirect)) : Except Error (HttpClient ServerName) := do
  let verifier ← PinnedCertVerifier.new library pinnedFingerprint
  orTls "Failed to build HTTP client: " library.clientBuild
  return {
    verifier := expectedServerName.elim verifier verifier.withServerName
    httpsOnly := true
    redirect := redirectPolicy.getD library.defaultRedirect }

def createPinnedClient (pinnedFingerprint : String) : Except Error (HttpClient ServerName) :=
  buildPinnedClient library pinnedFingerprint none none

def originRedirect (redirectOrigin : List Char) (_previous : List Url) (url : Url) : Redirect :=
  if requestOriginMatches redirectOrigin url then .follow
  else .error "redirect target is outside the verified enclave origin"

def createHostBoundPinnedClient (pinnedFingerprint : String) (expectedOrigin : Url) :
    Except Error (HostBoundPinnedClient ServerName) := do
  let expectedServerName ← serverNameFromOrigin library expectedOrigin
  let expectedOrigin := expectedOrigin.origin.asciiSerialization
  let transport ← buildPinnedClient library pinnedFingerprint (some expectedServerName)
    (some (originRedirect expectedOrigin))
  return { transport, exposed := { inner := transport, expectedOrigin } }

/-- The client that only the libraries can fail to build. -/
def hostBound (fingerprint : String) (name : ServerName) (origin : Url) : HostBoundPinnedClient ServerName :=
  let transport : HttpClient ServerName :=
    { verifier := { pinnedFingerprint := fingerprint, expectedServerName := some name }
      httpsOnly := true
      redirect := originRedirect origin.origin.asciiSerialization }
  { transport, exposed := { inner := transport, expectedOrigin := origin.origin.asciiSerialization } }

variable {library} in
theorem serverNameFromOrigin_ok {origin : Url} {name : ServerName} :
    serverNameFromOrigin library origin = .ok name ↔ hostName library origin = some name := by
  simp only [serverNameFromOrigin, hostName]
  cases origin.hostStr with
  | none => simp
  | some host =>
    simp only [Option.bind_some]
    cases library.tryServerName (unbracketed host) <;> simp

variable {library} in
theorem createHostBoundPinnedClient_ok {fingerprint : String} {origin : Url} {client : HostBoundPinnedClient ServerName} :
    createHostBoundPinnedClient library fingerprint origin = .ok client ↔
      ∃ name, hostName library origin = some name ∧ library.webPkiVerifier = .ok () ∧ library.clientBuild = .ok () ∧
        client = hostBound fingerprint name origin := by
  simp only [createHostBoundPinnedClient, buildPinnedClient, PinnedCertVerifier.new, bind_ok, orTls_ok,
    serverNameFromOrigin_ok, pure, Except.pure, Except.ok.injEq]
  constructor
  · rintro ⟨name, named, _, ⟨_, ⟨_, verifier, rfl⟩, _, built, rfl⟩, rfl⟩
    exact ⟨name, named, verifier, built, rfl⟩
  · rintro ⟨name, named, verifier, built, rfl⟩
    exact ⟨name, named, _, ⟨_, ⟨(), verifier, rfl⟩, (), built, rfl⟩, rfl⟩

/-! ## Requests -/

inductive Answer where
  | response
  | redirect (location : Url)

/-- What happens between the client and a server: a connection, and the answer to what is sent over it.  A connection
that was open already was opened in the same way. -/
structure Exchange where
  handshake : Handshake
  answer : Answer

inductive Refusal where
  | scheme
  | name
  | certificate (error : RustlsError)
  | redirect (message : String)
  | middleware (message : String)

inductive Outcome where
  | answered
  | refused (refusal : Refusal)
  /-- The network fails. -/
  | unanswered

/-! ## Hops -/

def hops (url : Url) : List Exchange → List (Url × Handshake)
  | [] => []
  | exchange :: rest =>
    (url, exchange.handshake) :: match exchange.answer with
      | .response => []
      | .redirect location => hops location rest

/-- The last of them is answered with a response. -/
def Answered : List Exchange → Prop
  | [] => False
  | exchange :: rest =>
    match exchange.answer with
    | .response => True
    | .redirect _ => Answered rest

structure Pinned (fingerprint : String) (name : ServerName) (shown : Handshake) : Prop where
  trusted : library.webPki shown.endEntity shown.intermediates name shown.ocspResponse shown.now = .ok ()
  key : certPubkeyFingerprint library.toTlsLibrary shown.endEntity = .ok fingerprint

structure Within (fingerprint : String) (name : ServerName) (origin : Url) (hop : Url × Handshake) : Prop where
  https : hop.1.isHttps = true
  origin : hop.1.origin = origin.origin
  pinned : Pinned library fingerprint name hop.2

/-- What is sent is every hop up to the first that does not qualify. -/
structure Sends (qualifies : Url × Handshake → Prop) (exchanges : List Exchange) (url : Url)
    (result : List (Url × Handshake) × Outcome) : Prop where
  sent : ∃ rest, hops url exchanges = result.1 ++ rest ∧ ∀ hop, rest.head? = some hop → ¬ qualifies hop
  qualified : ∀ hop ∈ result.1, qualifies hop
  answered : result.2 = .answered ↔ Answered exchanges ∧ ∀ hop ∈ hops url exchanges, qualifies hop

def HasKey (hash : Bytes) (shown : Handshake) : Prop :=
  ∃ cert spki, library.certificateFromDer shown.endEntity = .ok cert ∧ library.spki cert = .ok spki ∧
    library.sha256 spki = hash

variable {library} in
theorem Pinned.hasKey {hash : Bytes} {name : ServerName} {shown : Handshake}
    (pinned : Pinned library (hexEncode hash) name shown) : HasKey library hash shown := by
  have key := pinned.key
  simp only [certPubkeyFingerprint, bind_ok, orTls_ok, pure, Except.pure, Except.ok.injEq] at key
  obtain ⟨cert, parsed, spki, encoded, same⟩ := key
  exact ⟨cert, spki, parsed, encoded, hexEncode_injective same⟩

/-! ## Connecting -/

variable [DecidableEq ServerName]

def verifyName (verifier : PinnedCertVerifier ServerName) (serverName : ServerName) : Except RustlsError Unit :=
  match verifier.expectedServerName with
  | none => .ok ()
  | some expected =>
    if serverName ≠ expected then .error (.general "request origin is not the verified enclave origin") else .ok ()

def verifyFingerprint (pinned actual : String) : Except RustlsError Unit :=
  if actual ≠ pinned then
    .error (.general ("Certificate fingerprint mismatch: expected " ++ pinned ++ ", got " ++ actual))
  else .ok ()

def verifyServerCert (verifier : PinnedCertVerifier ServerName) (shown : Handshake) (serverName : ServerName) :
    Except RustlsError Unit := do
  verifyName verifier serverName
  (library.webPki shown.endEntity shown.intermediates serverName shown.ocspResponse shown.now).mapError .webPki
  let actualFingerprint ← (certPubkeyFingerprint library.toTlsLibrary shown.endEntity).mapError fun error =>
    .general ("Fingerprint computation failed: " ++ error.display)
  verifyFingerprint verifier.pinnedFingerprint actualFingerprint

/-! ## Sending -/

def connect (client : HttpClient ServerName) (url : Url) (shown : Handshake) : Except Refusal Unit :=
  if client.httpsOnly ∧ ¬ url.isHttps then .error .scheme
  else
    match hostName library url with
    | none => .error .name
    | some serverName => (verifyServerCert library client.verifier shown serverName).mapError .certificate

/-- What is sent, to which URL and over which connection, and how the request ends. -/
def HttpClient.send (client : HttpClient ServerName) (previous : List Url) (url : Url) :
    List Exchange → List (Url × Handshake) × Outcome
  | [] => ([], .unanswered)
  | exchange :: rest =>
    match connect library client url exchange.handshake with
    | .error refusal => ([], .refused refusal)
    | .ok () =>
      let after : List (Url × Handshake) × Outcome := match exchange.answer with
        | .response => ([], .answered)
        | .redirect location =>
          match client.redirect (previous ++ [url]) location with
          | .error message => ([], .refused (.redirect message))
          | .follow => client.send (previous ++ [url]) location rest
      ((url, exchange.handshake) :: after.1, after.2)

/-- `OriginBindingMiddleware` -/
def OriginBoundClient.execute (client : OriginBoundClient ServerName) (url : Url) (exchanges : List Exchange) :
    List (Url × Handshake) × Outcome :=
  if ¬ requestOriginMatches client.expectedOrigin url then
    ([], .refused (.middleware "request origin is outside the verified enclave origin"))
  else client.inner.send library [] url exchanges

variable {library}

theorem mapError_ok {ε ε' α : Type} {wrap : ε → ε'} {call : Except ε α} {value : α} :
    call.mapError wrap = .ok value ↔ call = .ok value := by
  cases call <;> simp [Except.mapError]

theorem verifyServerCert_ok {verifier : PinnedCertVerifier ServerName} {shown : Handshake} {serverName : ServerName}
    {result : Unit} :
    verifyServerCert library verifier shown serverName = .ok result ↔
      (∀ expected, verifier.expectedServerName = some expected → serverName = expected) ∧
        Pinned library verifier.pinnedFingerprint serverName shown := by
  have name : verifyName verifier serverName = .ok () ↔
      ∀ expected, verifier.expectedServerName = some expected → serverName = expected := by
    cases expected : verifier.expectedServerName <;> simp [verifyName, expected]
  have fingerprint {actual : String} :
      verifyFingerprint verifier.pinnedFingerprint actual = .ok () ↔ actual = verifier.pinnedFingerprint := by
    simp [verifyFingerprint]
  simp only [verifyServerCert, bind_ok, mapError_ok]
  constructor
  · rintro ⟨_, named, _, trusted, actual, key, same⟩
    exact ⟨name.mp named, trusted, fingerprint.mp same ▸ key⟩
  · rintro ⟨named, trusted, key⟩
    exact ⟨(), name.mpr named, (), trusted, _, key, fingerprint.mpr rfl⟩

theorem connect_ok {client : HttpClient ServerName} {url : Url} {shown : Handshake} {result : Unit}
    (httpsOnly : client.httpsOnly = true) :
    connect library client url shown = .ok result ↔
      url.isHttps = true ∧ ∃ serverName, hostName library url = some serverName ∧
        (∀ expected, client.verifier.expectedServerName = some expected → serverName = expected) ∧
        Pinned library client.verifier.pinnedFingerprint serverName shown := by
  simp only [connect, httpsOnly, true_and]
  split
  · simp [*]
  · rename_i https
    have https : url.isHttps = true := by simpa using https
    cases hostName library url with
    | none => simp
    | some serverName => simp [https, mapError_ok, verifyServerCert_ok]

theorem send_pinned {client : HttpClient ServerName} (httpsOnly : client.httpsOnly = true) (exchanges : List Exchange)
    {previous : List Url} {url : Url} :
    ∀ hop ∈ (client.send library previous url exchanges).1, hop.1.isHttps = true ∧
      ∃ serverName, hostName library hop.1 = some serverName ∧
        (∀ expected, client.verifier.expectedServerName = some expected → serverName = expected) ∧
        Pinned library client.verifier.pinnedFingerprint serverName hop.2 := by
  induction exchanges generalizing previous url with
  | nil =>
    intro hop none
    cases none
  | cons exchange rest ih =>
    intro hop member
    rw [HttpClient.send] at member
    split at member
    · cases member
    · rename_i connected
      rcases List.mem_cons.mp member with rfl | member
      · exact (connect_ok httpsOnly).mp connected
      · split at member
        · cases member
        · split at member
          · cases member
          · exact ih hop member

/-- A client that is bound to no host sends to the pinned key only, over redirects too. -/
theorem createPinnedClient_sends {fingerprint : String} {client : HttpClient ServerName}
    (built : createPinnedClient library fingerprint = .ok client) (exchanges : List Exchange) {previous : List Url}
    {url : Url} :
    ∀ hop ∈ (client.send library previous url exchanges).1, hop.1.isHttps = true ∧
      ∃ serverName, hostName library hop.1 = some serverName ∧ Pinned library fingerprint serverName hop.2 := by
  simp only [createPinnedClient, buildPinnedClient, PinnedCertVerifier.new, bind_ok, orTls_ok, pure, Except.pure,
    Except.ok.injEq] at built
  obtain ⟨_, ⟨_, -, rfl⟩, _, -, rfl⟩ := built
  intro hop member
  obtain ⟨https, serverName, named, -, pinned⟩ := send_pinned rfl exchanges hop member
  exact ⟨https, serverName, named, pinned⟩

/-! ## Host-bound clients -/

section Bound

variable {fingerprint : String} {name : ServerName} {origin : Url}

omit [DecidableEq ServerName] in
theorem requestOriginMatches_iff {url : Url} :
    requestOriginMatches origin.origin.asciiSerialization url = true ↔ url.origin = origin.origin := by
  rw [requestOriginMatches, beq_iff_eq, Web.asciiSerialization_inj]

theorem connect_within (named : hostName library origin = some name) {url : Url} (same : url.origin = origin.origin)
    {shown : Handshake} {result : Unit} :
    connect library (hostBound fingerprint name origin).transport url shown = .ok result ↔
      Within library fingerprint name origin (url, shown) := by
  rw [connect_ok rfl]
  constructor
  · rintro ⟨urlHttps, serverName, -, expected, pinned⟩
    obtain rfl := expected name rfl
    exact ⟨urlHttps, same, pinned⟩
  · rintro ⟨urlHttps, -, pinned⟩
    have hosted : origin.hostStr ≠ none := by
      intro absent
      simp [hostName, absent] at named
    refine ⟨urlHttps, name, ?_, fun expected known => Option.some.inj known, pinned⟩
    rw [← named, hostName, hostName, Web.Url.hostStr_eq_of_origin urlHttps hosted same]

theorem sends_nothing {qualifies : Url × Handshake → Prop} {url : Url} {exchanges : List Exchange} {outcome : Outcome}
    (unanswered : outcome ≠ .answered) (refused : ∀ hop, (hops url exchanges).head? = some hop → ¬ qualifies hop) :
    Sends qualifies exchanges url ([], outcome) where
  sent := ⟨hops url exchanges, rfl, refused⟩
  qualified hop none := by cases none
  answered := by
    simp only [unanswered, false_iff, not_and, not_forall]
    intro answered
    cases exchanges with
    | nil => cases answered
    | cons exchange rest => exact ⟨(url, exchange.handshake), by simp [hops], refused _ rfl⟩

theorem send_within (named : hostName library origin = some name) (exchanges : List Exchange) {previous : List Url}
    {url : Url} (same : url.origin = origin.origin) :
    Sends (Within library fingerprint name origin) exchanges url
      ((hostBound fingerprint name origin).transport.send library previous url exchanges) := by
  induction exchanges generalizing previous url with
  | nil => exact sends_nothing (by simp) (by simp [hops])
  | cons exchange rest ih =>
    rw [HttpClient.send]
    split
    · rename_i refusal refused
      refine sends_nothing (by simp) fun hop first qualifies => ?_
      cases first
      have connected : connect library (hostBound fingerprint name origin).transport url exchange.handshake = .ok () :=
        (connect_within named same).mpr qualifies
      rw [refused] at connected
      cases connected
    · rename_i connected
      have here := (connect_within named same).mp connected
      -- The hops after this one are those of its answer.
      cases answer : exchange.answer with
      | response =>
        exact {
          sent := ⟨[], by simp [hops, answer], by simp⟩
          qualified := by simpa using here
          answered := by simpa [Answered, hops, answer] using here }
      | redirect location =>
        have after : Sends (Within library fingerprint name origin) rest location
            (match (hostBound fingerprint name origin).transport.redirect (previous ++ [url]) location with
              | .error message => ([], .refused (.redirect message))
              | .follow => (hostBound fingerprint name origin).transport.send library (previous ++ [url]) location rest) := by
          by_cases inside : location.origin = origin.origin
          · have follow : (hostBound fingerprint name origin).transport.redirect (previous ++ [url]) location = .follow :=
              if_pos ((requestOriginMatches_iff).mpr inside)
            rw [follow]
            exact ih inside
          · have leave : (hostBound fingerprint name origin).transport.redirect (previous ++ [url]) location =
                .error "redirect target is outside the verified enclave origin" :=
              if_neg (mt (requestOriginMatches_iff).mp inside)
            rw [leave]
            refine sends_nothing (by simp) fun hop first qualifies => ?_
            cases rest with
            | nil => cases first
            | cons exchange' rest' =>
              cases first
              exact inside qualifies.origin
        obtain ⟨beyond, all, refused⟩ := after.sent
        exact {
          sent := ⟨beyond, by simpa [hops, answer] using all, refused⟩
          qualified := by
            intro hop member
            rcases List.mem_cons.mp member with rfl | member
            · exact here
            · exact after.qualified hop member
          answered := by
            refine after.answered.trans ?_
            simp [Answered, hops, answer, here] }

/-- Whatever is sent first, a redirect is followed within the origin only. -/
theorem tail_within (named : hostName library origin = some name) {previous : List Url} {url : Url}
    {exchanges : List Exchange} :
    ∀ hop ∈ ((hostBound fingerprint name origin).transport.send library previous url exchanges).1.tail,
      hop.1.origin = origin.origin := by
  intro hop member
  cases exchanges with
  | nil => cases member
  | cons exchange rest =>
    rw [HttpClient.send] at member
    split at member
    · cases member
    · rw [List.tail_cons] at member
      split at member
      · cases member
      · rename_i location answer
        split at member
        · cases member
        · rename_i followed
          have inside : location.origin = origin.origin := by
            by_contra outside
            have leave : (hostBound fingerprint name origin).transport.redirect (previous ++ [url]) location =
                .error "redirect target is outside the verified enclave origin" :=
              if_neg (mt (requestOriginMatches_iff).mp outside)
            cases followed.symm.trans leave
          exact ((send_within named rest inside).qualified hop member).origin

end Bound

variable (library) in
/-- A host-bound client is built whenever the origin has a host and the libraries can build one.  What its users send
is every hop up to the first that is not within the origin and to the pinned key, and they get an answer exactly if all
of them are.  The requests of the SDK itself start anywhere on the host, and are redirected within the origin only. -/
theorem origin_bound_exact (fingerprint : String) (origin : Url) :
    (∀ client, createHostBoundPinnedClient library fingerprint origin = .ok client ↔
      ∃ name, hostName library origin = some name ∧ library.webPkiVerifier = .ok () ∧ library.clientBuild = .ok () ∧
        client = hostBound fingerprint name origin) ∧
    ∀ name, hostName library origin = some name → ∀ url exchanges,
      (url.origin = origin.origin → Sends (Within library fingerprint name origin) exchanges url
        ((hostBound fingerprint name origin).exposed.execute library url exchanges)) ∧
      (url.origin ≠ origin.origin → (hostBound fingerprint name origin).exposed.execute library url exchanges =
        ([], .refused (.middleware "request origin is outside the verified enclave origin"))) ∧
      (∀ hop ∈ ((hostBound fingerprint name origin).transport.send library [] url exchanges).1,
        hop.1.isHttps = true ∧ hostName library hop.1 = some name ∧ Pinned library fingerprint name hop.2) ∧
      ∀ hop ∈ ((hostBound fingerprint name origin).transport.send library [] url exchanges).1.tail,
        hop.1.origin = origin.origin := by
  refine ⟨fun client => createHostBoundPinnedClient_ok, fun name named url exchanges => ⟨?_, ?_, ?_, ?_⟩⟩
  · intro same
    have through : (hostBound fingerprint name origin).exposed.execute library url exchanges =
        (hostBound fingerprint name origin).transport.send library [] url exchanges :=
      if_neg (not_not.mpr ((requestOriginMatches_iff).mpr same))
    rw [through]
    exact send_within named exchanges same
  · intro other
    exact if_pos (mt (requestOriginMatches_iff).mp other)
  · intro hop member
    obtain ⟨urlHttps, serverName, known, expected, pinned⟩ := send_pinned rfl exchanges hop member
    obtain rfl := expected name rfl
    exact ⟨urlHttps, known, pinned⟩
  · exact tail_within named

end Client

end Tinfoil.Tls
