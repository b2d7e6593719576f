import Tinfoil.Client.Trusted
import Tinfoil.Tls.Pinned

/-! # What goes over the wire

The keys that a client holds are those of reports, and its connections are to the keys that it holds.
`requests_reach_reported_keys` puts the two together.
-/

namespace Tinfoil.Client

open Attestation (Measurement AttestationDocument)
open Ehbp
open Tls (HttpLibrary HostBoundPinnedClient Handshake Exchange HasKey hostName hostBound)
open Web (Url)

/-- `SecureClient::base_url`, whose origin the pinned client is bound to. -/
def baseUrl (host : String) : String := "https://" ++ host

/-- The parsing of the base URL and the pinned client are those of the libraries. -/
def Environment.wired {Certificate ServerName : Type} (env : Environment) (library : HttpLibrary Certificate ServerName)
    (parseUrl : String → Except String Url) (host : String) : Environment :=
  match parseUrl (baseUrl host) with
  | .error error => { env with originError := some error }
  | .ok origin =>
    { env with
      originError := none
      pinError := fun fingerprint =>
        match Tls.createHostBoundPinnedClient library fingerprint origin with
        | .error error => some error
        | .ok _ => none }

/-- An event of the schedule was answered by an attestation of the host, with this report. -/
def ReportedAt (host repo : String) (pinnedMeasurement : Option Measurement) (worlds : Nat → Outside)
    (schedule : List Event) (place : Nat) (report : Sev.Report) : Prop :=
  ∃ attested doc, AttestedAt host repo pinnedMeasurement worlds schedule place attested ∧
    RunsCode (worlds place) host attested doc report

section Wire

variable {env : Environment} {host repo : String} {pinnedMeasurement : Option Measurement} {worlds : Nat → Outside}
  {schedule : List Event}

theorem AttestedAt.reported {place : Nat} {attested : Client.Attested}
    (attestedAt : AttestedAt host repo pinnedMeasurement worlds schedule place attested) :
    ∃ report, ReportedAt host repo pinnedMeasurement worlds schedule place report ∧
      Sev.attested report = attested.verification := by
  obtain ⟨doc, report, runs⟩ := attestedAt.attests.enclave
  exact ⟨report, ⟨attested, doc, attestedAt, runs⟩, runs.verification⟩

variable {Certificate ServerName : Type}

theorem createHostBoundPinnedClient_wired {library : HttpLibrary Certificate ServerName}
    {parseUrl : String → Except String Url} {fingerprint : String} {pinned : PinnedClient}
    (built : createHostBoundPinnedClient (env.wired library parseUrl host) fingerprint = .ok pinned) :
    ∃ origin client, parseUrl (baseUrl host) = .ok origin ∧
      Tls.createHostBoundPinnedClient library fingerprint origin = .ok client := by
  unfold createHostBoundPinnedClient Environment.wired at built
  cases parsed : parseUrl (baseUrl host) with
  | error error => simp [parsed] at built
  | ok origin =>
    cases made : Tls.createHostBoundPinnedClient library fingerprint origin with
    | error error => simp [parsed, made] at built
    | ok client => exact ⟨origin, client, rfl, made⟩

variable [DecidableEq ServerName]

theorem hostBound_hasKey {library : HttpLibrary Certificate ServerName} {hash : Bytes} {origin : Url}
    {client : HostBoundPinnedClient ServerName}
    (built : Tls.createHostBoundPinnedClient library (hexEncode hash) origin = .ok client) {url : Url}
    {exchanges : List Exchange} {hop : Url × Handshake}
    (sent : hop ∈ (client.transport.send library [] url exchanges).1 ∨
      hop ∈ (client.exposed.execute library url exchanges).1) :
    hop.1.isHttps = true ∧ hostName library hop.1 = hostName library origin ∧ HasKey library hash hop.2 := by
  obtain ⟨name, named, -, -, rfl⟩ := Tls.createHostBoundPinnedClient_ok.mp built
  have inner : hop ∈ ((hostBound (hexEncode hash) name origin).transport.send library [] url exchanges).1 := by
    rcases sent with sent | sent
    · exact sent
    · unfold Tls.OriginBoundClient.execute at sent
      split at sent
      · cases sent
      · exact sent
  obtain ⟨https, serverName, known, expected, pinned⟩ := Tls.send_pinned rfl exchanges hop inner
  obtain rfl := expected name rfl
  exact ⟨https, known.trans named.symm, pinned.hasKey⟩

/-- Whatever a client did before, and whatever the servers answer now: in direct mode a request path sends with a client
that is bound to the base URL of the host, and all that this client sends goes over connections to that host, under a
key whose hash is in a report of an enclave that runs the code; and in proxy mode requests are sealed to the key in such
a report.  The report is one that an event of this run was answered with. -/
theorem requests_reach_reported_keys {proxyUrl : Option String} {final : ClientState}
    {library : HttpLibrary Certificate ServerName} {parseUrl : String → Except String Url}
    (run : EventRuns (env.wired library parseUrl host) (.unverified repo proxyUrl) schedule final)
    (attestations : Attestations host repo pinnedMeasurement worlds schedule) :
    (∀ path pinned, final.transport path = some (.ok (.pinned pinned)) →
      ∃ place report origin client, ReportedAt host repo pinnedMeasurement worlds schedule place report ∧
        parseUrl (baseUrl host) = .ok origin ∧
        Tls.createHostBoundPinnedClient library pinned.fingerprint origin = .ok client ∧
        ∀ url exchanges hop, hop ∈ (client.transport.send library [] url exchanges).1 ∨
            hop ∈ (client.exposed.execute library url exchanges).1 →
          hop.1.isHttps = true ∧ hostName library hop.1 = hostName library origin ∧
            HasKey library (report.reportData.take 32) hop.2) ∧
    ∀ path sealed, final.transport path = some (.ok (.sealed sealed)) →
      ∃ place report, ReportedAt host repo pinnedMeasurement worlds schedule place report ∧
        sealed.publicKey = hexEncode (report.reportData.drop 32) := by
  have trusted := attested_trusted run attestations
  constructor
  · intro path pinned used
    obtain ⟨built, attested, ⟨place, attestedAt⟩, same⟩ := transport_vouched trusted used
    obtain ⟨origin, client, parsed, made⟩ := createHostBoundPinnedClient_wired built
    obtain ⟨report, reported, verification⟩ := attestedAt.reported
    have fingerprint : pinned.fingerprint = hexEncode (report.reportData.take 32) := by
      rw [← same, ← verification]
      rfl
    exact ⟨place, report, origin, client, reported, parsed, made,
      fun url exchanges hop => hostBound_hasKey (fingerprint ▸ made)⟩
  · intro path sealed used
    obtain ⟨attested, ⟨place, attestedAt⟩, key⟩ := transport_vouched trusted used
    obtain ⟨report, reported, verification⟩ := attestedAt.reported
    rw [← verification] at key
    exact ⟨place, report, reported, (Option.some.inj key).symm⟩

end Wire

namespace Sample

def http : HttpLibrary Bytes (List Char) :=
  { tls with
    tryServerName := fun host => if host = [] then none else some host
    webPki := fun endEntity _ name _ _ =>
      if endEntity = certDer ∧ name = host.toList then .ok () else .error "invalid peer certificate"
    webPkiVerifier := .ok ()
    clientBuild := .ok ()
    defaultRedirect := fun previous _ => if previous.length ≤ 10 then .follow else .error "too many redirects" }

theorem host_form : ':' ∉ host.toList := by decide

def enclaveUrl (rest : String) : Url := .special .https ⟨host.toList, .inl host_form⟩ 443 rest.toList

def handshake : Handshake where
  endEntity := certDer
  intermediates := []
  ocspResponse := []
  now := 1800000000

/-- The URL of the enclave is the only one. -/
def parseUrl (url : String) : Except String Url :=
  if url = baseUrl host then .ok (enclaveUrl "/") else .error "relative URL without a base"

theorem parsedUrl : parseUrl (baseUrl host) = .ok (enclaveUrl "/") := if_pos rfl

theorem created (fingerprint : String) : Tls.createHostBoundPinnedClient http fingerprint (enclaveUrl "/") =
    .ok (hostBound fingerprint host.toList (enclaveUrl "/")) :=
  Tls.createHostBoundPinnedClient_ok.mpr ⟨host.toList, rfl, rfl, rfl, rfl⟩

theorem wired_permissive : Environment.wired .permissive http parseUrl host = .permissive := by
  simp [Environment.wired, parsedUrl, created, Environment.permissive]

theorem pinned : Tls.Pinned http attested.verification.tlsPublicKeyFp host.toList handshake where
  trusted := by simp [http, handshake]
  key := (certPubkeyFingerprint_ok shows_certDer.parsed).mpr bound.key

theorem sent (answer : Tls.Answer) : (enclaveUrl "/v1/models", handshake) ∈
    ((hostBound attested.verification.tlsPublicKeyFp host.toList (enclaveUrl "/")).transport.send http []
      (enclaveUrl "/v1/models") [⟨handshake, answer⟩]).1 := by
  have connected : Tls.connect http (hostBound attested.verification.tlsPublicKeyFp host.toList (enclaveUrl "/")).transport
      (enclaveUrl "/v1/models") handshake = .ok () := (Tls.connect_within rfl rfl).mpr ⟨rfl, rfl, pinned⟩
  rw [Tls.HttpClient.send, connected]
  exact List.mem_cons_self

end Sample

/-- A request to the enclave after its attestation. -/
theorem models_reach_reported_key : ∃ final pinned origin client place report,
    EventRuns (.wired .permissive Sample.http Sample.parseUrl Sample.host) (.unverified "org/repo" none)
        (Sample.schedule []) final ∧
      final.transport .typed = some (.ok (.pinned pinned)) ∧
      Sample.parseUrl (baseUrl Sample.host) = .ok origin ∧
      Tls.createHostBoundPinnedClient Sample.http pinned.fingerprint origin = .ok client ∧
      (Sample.enclaveUrl "/v1/models", Sample.handshake) ∈
        (client.transport.send Sample.http [] (Sample.enclaveUrl "/v1/models") [⟨Sample.handshake, .response⟩]).1 ∧
      ReportedAt Sample.host "org/repo" (some Sample.measurement) (fun _ => Sample.outside) (Sample.schedule []) place
        report ∧
      HasKey Sample.http (report.reportData.take 32) Sample.handshake := by
  obtain ⟨final, run⟩ : ∃ final, EventRuns .permissive (.unverified "org/repo" none) (Sample.schedule []) final :=
    ⟨_, rfl⟩
  have reach := (requests_reach_reported_keys (Sample.wired_permissive ▸ run) (Sample.attestations_schedule [])).1 .typed
  rw [Sample.wired_permissive]
  cases run
  obtain ⟨place, report, origin, client, reported, parsed, made, carried⟩ := reach ⟨_⟩ rfl
  obtain rfl := Except.ok.inj (Sample.parsedUrl.symm.trans parsed)
  obtain rfl := Except.ok.inj ((Sample.created _).symm.trans made)
  obtain ⟨-, -, key⟩ := carried _ _ _ (.inl (Sample.sent .response))
  exact ⟨_, ⟨_⟩, _, _, place, report, rfl, rfl, parsed, made, Sample.sent .response, reported, key⟩

end Tinfoil.Client
