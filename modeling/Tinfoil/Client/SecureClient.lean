import Tinfoil.Ehbp.Lock

/-! # The secure client

`SecureClient::verify` clears the trust state, attests the enclave and commits what it
attested; `Client::verify` then rebuilds the stored async-openai client.  `ClientState` is a
`Client` with the program counter of the `verify` call in progress, `step` one critical
section, one completed await or one dropped future of it, interleaved with the requests that
run on clones of the EHBP proxy.

    idle → waiting → clearing → attesting → installed → returning → idle
    idle → clearing (no proxy yet)   attesting → failing → idle

`ClientState.transport` says for each request path what it sends over.
-/

namespace Tinfoil.Client

open Tinfoil.Attestation Tinfoil.Ehbp Transition

/-- What is decided outside this component: the EHBP library, the parsing of the enclave
origin, the pinned TLS client, the proxy URL policy, SHA-256 and the package identity. -/
structure Environment where
  library : Library
  originError : Option String
  pinError : String → Option Error
  proxyUrlError : String → Option Error
  sha256 : Bytes → Bytes
  verifierIdentity : SoftwareIdentity

/-- `tls::HostBoundPinnedClient`: both of its clients accept one certificate fingerprint. -/
structure PinnedClient where
  fingerprint : String
  deriving DecidableEq, Repr

/-- The tuple that `verify_attestation` returns. -/
structure Attested where
  codeMeasurement : Measurement
  digest : String
  releaseTag : Option String
  verification : Verification
  deriving DecidableEq, Repr

structure SecureClient where
  repo : String
  proxyUrl : Option String
  groundTruth : Option GroundTruth
  pinnedClient : Option PinnedClient
  ehbp : Option ProxyState

/-- The transport inside the stored async-openai client: a clone of the pinned client, or a
handle of the shared EHBP proxy. -/
inductive Stack where
  | pinned (client : PinnedClient)
  | ehbp
  deriving DecidableEq

inductive VerifyPc where
  | idle
  | waiting
  | clearing
  | attesting
  | failing (error : Error)
  | installed (pinned : PinnedClient) (groundTruth : GroundTruth)
  | returning (groundTruth : GroundTruth)
  deriving DecidableEq

/-- What the caller of `verify` saw; `cancelled` is a dropped future. -/
inductive VerifyOutcome where
  | ok (groundTruth : GroundTruth)
  | failed (error : Error)
  | cancelled
  deriving DecidableEq

structure ClientState where
  secure : SecureClient
  openai : Option Stack
  verify : VerifyPc
  /-- `_refresh_guard` of the call in progress holds the refresh lock. -/
  refreshGuard : Bool
  /-- How the last finished call of `verify` ended. -/
  outcome : Option VerifyOutcome

inductive Action where
  | start
  | acquire
  | clear
  | answer (result : Except Error Attested) (verifiedAt : String)
  | assign
  | finish
  | unwind
  | cancel
  | request (action : Ehbp.Action)

/-! ## The pieces of `verify` -/

def SecureClient.new (repo : String) (proxyUrl : Option String) : SecureClient :=
  ⟨repo, proxyUrl, none, none, none⟩

/-- A client on which `verify` has not been called. -/
def ClientState.unverified (repo : String) (proxyUrl : Option String) : ClientState :=
  ⟨.new repo proxyUrl, none, .idle, false, none⟩

def createHostBoundPinnedClient (env : Environment) (fingerprint : String) :
    Except Error PinnedClient :=
  match env.originError with
  | some error => .error (.configuration ("Invalid enclave origin: " ++ error))
  | none =>
    match env.pinError fingerprint with
    | some error => .error error
    | none => .ok ⟨fingerprint⟩

def buildGroundTruth (env : Environment) (configRepo : String) (attested : Attested)
    (verifiedAt : String) : GroundTruth :=
  let enclave := attested.verification.measurement
  { configRepo
    releaseTag := attested.releaseTag
    digest := attested.digest
    tlsPublicKey := some attested.verification.tlsPublicKeyFp
    hpkePublicKey := attested.verification.hpkePublicKey
    codeMeasurement := attested.codeMeasurement
    enclaveMeasurement := enclave
    codeFingerprint := attested.codeMeasurement.fingerprintForTarget env.sha256 enclave.type
    enclaveFingerprint := enclave.fingerprint env.sha256
    verifier := env.verifierIdentity
    verifiedAt }

/-- A key of zeros only is a missing key. -/
def requireHpkePublicKey (verification : Verification) : Except Error String :=
  match verification.hpkePublicKey.filter fun key => ! key.toList.all (· == '0') with
  | some key => .ok key
  | none => .error (.ehbp "enclave attestation does not include an HPKE public key")

def installVerifiedState (library : Library) (proxy : ProxyState) (key : String)
    (groundTruth : GroundTruth) : Except Error ProxyState :=
  match library.withPublicKeyHex key with
  | .error error => .error (mapEhbpError error)
  | .ok _ => .ok (installState library proxy ⟨key, some groundTruth⟩)

def newProxy (env : Environment) (proxyUrl key : String) : Except Error ProxyState :=
  match env.proxyUrlError proxyUrl with
  | some error => .error error
  | none => EhbpProxy.new env.library key

/-- The transport of proxy mode, built before any trust state is committed. -/
def buildEhbp (env : Environment) (secure : SecureClient) (verification : Verification)
    (groundTruth : GroundTruth) : Except Error (Option ProxyState) :=
  match secure.proxyUrl with
  | none => .ok none
  | some proxyUrl => do
    let key ← requireHpkePublicKey verification
    match secure.ehbp with
    | some proxy =>
      let installed ← installVerifiedState env.library proxy key groundTruth
      return some installed
    | none =>
      let proxy ← newProxy env proxyUrl key
      let installed ← installVerifiedState env.library proxy key groundTruth
      return some installed

def SecureClient.pinnedHttpClient (secure : SecureClient) : Except Error PinnedClient :=
  match secure.pinnedClient with
  | some client => .ok client
  | none => .error (.configuration "Client not verified - call verify() first")

/-- `Client::build_openai`. -/
def buildOpenai (secure : SecureClient) : Except Error Stack :=
  match secure.ehbp with
  | some _ => .ok .ehbp
  | none => do
    let client ← secure.pinnedHttpClient
    return .pinned client

/-! ## Steps -/

namespace ClientState

def setEhbp (state : ClientState) (ehbp : Option ProxyState) : ClientState :=
  { state with secure := { state.secure with ehbp } }

def leave (env : Environment) (state : ClientState) (outcome : VerifyOutcome) :
    Option ClientState :=
  let left := { state with verify := .idle, refreshGuard := false, outcome := some outcome }
  match state.refreshGuard, state.secure.ehbp with
  | true, some proxy =>
    (Ehbp.step env.library proxy .unlockRefresh).map fun unlocked => left.setEhbp (some unlocked)
  | _, _ => some left

/-- The attestation's answer, and everything `verify` does with it before it assigns a field.
The local `ehbp` of the source is the field from here on: nobody reads the field before it is
assigned. -/
def attested (env : Environment) (state : ClientState) (verifiedAt : String) :
    Except Error Attested → ClientState
  | .error error => { state with verify := .failing error }
  | .ok attested =>
    let groundTruth := buildGroundTruth env state.secure.repo attested verifiedAt
    match createHostBoundPinnedClient env attested.verification.tlsPublicKeyFp with
    | .error error => { state with verify := .failing error }
    | .ok pinned =>
      match buildEhbp env state.secure attested.verification groundTruth with
      | .error error => { state with verify := .failing error }
      | .ok ehbp =>
        { state with
          secure := { state.secure with ehbp }
          verify := .installed pinned groundTruth }

/-- `verify` commits what it attested and sets the refresher. -/
def assigned (state : ClientState) (pinned : PinnedClient) (groundTruth : GroundTruth) :
    ClientState :=
  { state with
    secure := { state.secure with
      pinnedClient := some pinned
      ehbp := state.secure.ehbp.map fun proxy => { proxy with refresher := true }
      groundTruth := if state.secure.ehbp.isNone then some groundTruth else none }
    verify := .returning groundTruth }

end ClientState

def step (env : Environment) (state : ClientState) : Action → Option ClientState
  | .start =>
    -- Without a proxy there is no refresh lock to wait for.
    match state.verify, state.secure.ehbp with
    | .idle, some _ => some { state with verify := .waiting }
    | .idle, none => some { state with verify := .clearing }
    | _, _ => none
  | .acquire =>
    match state.verify, state.secure.ehbp with
    | .waiting, some proxy =>
      (Ehbp.step env.library proxy .lockRefresh).map fun locked =>
        { state with
          secure := { state.secure with ehbp := some locked }
          verify := .clearing
          refreshGuard := true }
    | _, _ => none
  | .clear =>
    match state.verify with
    | .clearing => some
      { state with
        secure := { state.secure with
          pinnedClient := none
          ehbp := state.secure.ehbp.map fun proxy => { proxy with channel := proxy.channel.clear }
          groundTruth := none }
        verify := .attesting }
    | _ => none
  | .answer result verifiedAt =>
    match state.verify with
    | .attesting => some (state.attested env verifiedAt result)
    | _ => none
  | .assign =>
    match state.verify with
    | .installed pinned groundTruth => some (state.assigned pinned groundTruth)
    | _ => none
  | .finish =>
    -- The async-openai client is built anew after a successful call only.
    match state.verify with
    | .returning groundTruth =>
      match buildOpenai state.secure with
      | .error error => state.leave env (.failed error)
      | .ok stack => { state with openai := some stack }.leave env (.ok groundTruth)
    | _ => none
  | .unwind =>
    match state.verify with
    | .failing error => state.leave env (.failed error)
    | _ => none
  | .cancel =>
    -- The future can be dropped where it awaits something.
    match state.verify with
    | .waiting | .attesting => state.leave env .cancelled
    | _ => none
  | .request action =>
    match action.request?, state.secure.ehbp with
    | some _, some proxy =>
      (Ehbp.step env.library proxy action).map fun moved => state.setEhbp (some moved)
    | _, _ => none

/-! ## Request paths -/

inductive Transport where
  | pinned (client : PinnedClient)
  | sealed (client : Ehbp.Client)
  deriving DecidableEq

/-- The typed async-openai methods, `chat_relaxed()` through `post_json`, and `http_client`. -/
inductive RequestPath where
  | typed
  | postJson
  | httpClient
  deriving DecidableEq

/-- `EhbpProxy::send` takes the client of the channel. -/
def ehbpTransport (proxy : ProxyState) : Except Error Transport :=
  match proxy.channel.client with
  | some client => .ok (.sealed client)
  | none => .error revokedError

def SecureClient.httpClient (secure : SecureClient) : Except Error Transport :=
  match secure.ehbp with
  | some _ => .error (.configuration ("http_client() is unavailable in EHBP proxy mode; use the " ++
      "verified client methods so requests remain sealed to the active attested key"))
  | none => do
    let client ← secure.pinnedHttpClient
    return .pinned client

def SecureClient.postJson (secure : SecureClient) : Except Error Transport :=
  match secure.ehbp with
  | some proxy => ehbpTransport proxy
  | none => do
    let client ← secure.pinnedHttpClient
    return .pinned client

/-- The transport of a request path; `none` when there is no `Client` yet. -/
def ClientState.transport (state : ClientState) : RequestPath → Option (Except Error Transport)
  | .typed =>
    match state.openai, state.secure.ehbp with
    | some (.pinned client), _ => some (.ok (.pinned client))
    | some .ehbp, some proxy => some (ehbpTransport proxy)
    | _, _ => none
  | .postJson => state.openai.map fun _ => state.secure.postJson
  | .httpClient => state.openai.map fun _ => state.secure.httpClient

end Tinfoil.Client
