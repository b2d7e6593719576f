import Tinfoil.Attestation.Document
import Tinfoil.Client.SecureClient
import Tinfoil.Client.TlsBinding
import Tinfoil.Sigstore.Provenance

/-! # What an attestation rests on

`verifyAttestation` puts the release, the report of the hardware and the certificate of the enclave together.
`verify_attestation_exact` says what they have in common when it succeeds: the measurement of the code, and the keys of
the enclave.
-/

namespace Tinfoil.Client

open Attestation (Measurement Verification GroundTruth AttestationDocument AttestationError EnclaveResponse Genuine
  pinnedNoDigest)
open Dcode (San decodeFromSans)
open ReadThrough (Store)
open Sev (SevLibrary)
open Sigstore (ProvenanceLibrary Provenance SigstoreResult verifyRepo)

/-- Everything that an attestation finds outside the program at one time: the dependencies, the network, the clock and
the files. -/
structure Outside where
  Certificate : Type
  Name : Type
  Algorithm : Type
  Serial : Type
  Any : Type
  Rest : Type
  SigningKey : Type
  LogKey : Type
  LogSignature : Type
  Compiled : Type
  RsaKey : Type
  RsaSignature : Type
  VcekKey : Type
  VcekSignature : Type
  PeerCertificate : Type
  decidableName : DecidableEq Name
  decidableAlgorithm : DecidableEq Algorithm
  decidableSerial : DecidableEq Serial
  sigstore : ProvenanceLibrary Certificate Name Algorithm Serial Any Rest SigningKey LogKey LogSignature Compiled
  sev : SevLibrary RsaKey RsaSignature VcekKey VcekSignature
  sevHost : Sev.Host
  disk : Store String Bytes
  /-- The answer to the request for a document, by its URL. -/
  enclave : String → Except String EnclaveResponse
  tls : TlsLibrary PeerCertificate

attribute [instance] Outside.decidableName Outside.decidableAlgorithm Outside.decidableSerial

section Attest

variable (outside : Outside)

/-- The code measurement with its digest and its tag: the pinned one, or that of the latest release. -/
def codeMeasurement (repo : String) (pinnedMeasurement : Option Measurement) :
    Checked Error (Measurement × String × Option String) :=
  match pinnedMeasurement with
  | some pinned => .ok (pinned, pinnedNoDigest, none)
  | none => do
    let result ← verifyRepo outside.sigstore repo
    return (result.measurement, result.digest, some result.releaseTag)

def compareMeasurements (code enclave : Measurement) : Except Error Unit :=
  match code.equals enclave with
  | .ok () => .ok ()
  | .error _ =>
    .error (.measurementMismatch (code.fingerprint outside.tls.sha256) (enclave.fingerprint outside.tls.sha256))

def bindEnclave (host : String) (code : Measurement × String × Option String) (doc : AttestationDocument)
    (verification : Verification) : Except Error Attested := do
  compareMeasurements outside code.1 verification.measurement
  verifyTlsBinding outside.tls host verification.tlsPublicKeyFp verification.hpkePublicKey doc
  return { codeMeasurement := code.1, digest := code.2.1, releaseTag := code.2.2, verification }

def sdk {α : Type} (call : Except Error α) : Checked AttestationError α := Checked.mapError .sdk (liftM call)

@[simp] theorem sdk_ok {α : Type} {call : Except Error α} {value : α} : sdk call = .ok value ↔ call = .ok value := by
  rw [sdk, Checked.mapError_ok, lift_ok]

/-- The result, and the files after it. -/
def verifyAttestation (host repo : String) (pinnedMeasurement : Option Measurement) :
    Checked AttestationError Attested × Store String Bytes :=
  let fetched : Checked AttestationError ((Measurement × String × Option String) × AttestationDocument) := do
    let code ← (codeMeasurement outside repo pinnedMeasurement).mapError .sdk
    let doc ← sdk (Attestation.fetch outside.enclave host)
    return (code, doc)
  match fetched with
  | .error failure => (.error failure, outside.disk)
  | .ok (code, doc) =>
    let verified := Attestation.verifyFull outside.sev outside.disk outside.sevHost doc
    (liftM verified.1 >>= fun verification => sdk (bindEnclave outside host code doc verification), verified.2)

/-! ## Attested enclaves -/

inductive CodeSource (repo : String) : Option Measurement → Attested → Prop where
  | pinned {pinned : Measurement} {attested : Attested} (code : attested.codeMeasurement = pinned)
      (digest : attested.digest = pinnedNoDigest) (releaseTag : attested.releaseTag = none) :
    CodeSource repo (some pinned) attested
  | release {result : SigstoreResult} {attested : Attested}
      (provenance : Nonempty (Provenance outside.sigstore repo result))
      (code : attested.codeMeasurement = result.measurement)
      (digest : attested.digest = result.digest) (releaseTag : attested.releaseTag = some result.releaseTag) :
    CodeSource repo none attested

/-- The host runs the code: hardware vouches for a report with its measurement, and the host shows a certificate with
the keys in the report's data. -/
structure RunsCode (host : String) (attested : Attested) (doc : AttestationDocument) (report : Sev.Report) : Prop where
  fetched : Attestation.fetch outside.enclave host = .ok doc
  genuine : Genuine outside.sev outside.disk outside.sevHost doc report
  verification : Sev.attested report = attested.verification
  measured : attested.codeMeasurement.equals attested.verification.measurement = .ok ()
  shown : ∃ certDer cert, Shows outside.tls host certDer cert ∧
    Bound outside.tls cert attested.verification.tlsPublicKeyFp attested.verification.hpkePublicKey doc

/-- The code of the repository, or the pinned code, and an enclave that runs it. -/
structure Attests (host repo : String) (pinnedMeasurement : Option Measurement) (attested : Attested) : Prop where
  source : CodeSource outside repo pinnedMeasurement attested
  enclave : ∃ doc report, RunsCode outside host attested doc report

variable {outside}

theorem codeMeasurement_ok {repo : String} {pinnedMeasurement : Option Measurement} {attested : Attested} :
    codeMeasurement outside repo pinnedMeasurement =
        .ok (attested.codeMeasurement, attested.digest, attested.releaseTag) ↔
      CodeSource outside repo pinnedMeasurement attested := by
  cases pinnedMeasurement with
  | some pinned =>
    simp only [codeMeasurement, Except.ok.injEq, Prod.mk.injEq]
    constructor
    · rintro ⟨code, digest, releaseTag⟩
      exact .pinned code.symm digest.symm releaseTag.symm
    · rintro ⟨code, digest, releaseTag⟩
      exact ⟨code.symm, digest.symm, releaseTag.symm⟩
  | none =>
    simp only [codeMeasurement, bind_ok, Sigstore.verifyRepo_ok, pure, Except.pure, Except.ok.injEq, Prod.mk.injEq]
    constructor
    · rintro ⟨result, provenance, code, digest, releaseTag⟩
      exact .release provenance code.symm digest.symm releaseTag.symm
    · intro source
      cases source with
      | release provenance code digest releaseTag =>
        exact ⟨_, provenance, code.symm, digest.symm, releaseTag.symm⟩

theorem compareMeasurements_ok {code enclave : Measurement} {result : Unit} :
    compareMeasurements outside code enclave = .ok result ↔ code.equals enclave = .ok () := by
  simp only [compareMeasurements]
  cases code.equals enclave <;> simp

theorem bindEnclave_ok {host : String} {code : Measurement × String × Option String} {doc : AttestationDocument}
    {verification : Verification} {attested : Attested} :
    bindEnclave outside host code doc verification = .ok attested ↔
      code.1.equals verification.measurement = .ok () ∧
        (∃ certDer cert, Shows outside.tls host certDer cert ∧
          Bound outside.tls cert verification.tlsPublicKeyFp verification.hpkePublicKey doc) ∧
        code = (attested.codeMeasurement, attested.digest, attested.releaseTag) ∧
        verification = attested.verification := by
  obtain ⟨measurement, digest, releaseTag⟩ := code
  obtain ⟨measurement', digest', releaseTag', verification'⟩ := attested
  simp only [bindEnclave, bind_ok, compareMeasurements_ok, verifyTlsBinding_ok, exists_const, pure, Except.pure,
    Except.ok.injEq, Attested.mk.injEq, Prod.mk.injEq, and_assoc]

theorem verifyAttestation_ok {host repo : String} {pinnedMeasurement : Option Measurement} {attested : Attested} :
    (verifyAttestation outside host repo pinnedMeasurement).1 = .ok attested ↔
      Attests outside host repo pinnedMeasurement attested := by
  have fetched {code : Measurement × String × Option String} {doc : AttestationDocument} :
      ((codeMeasurement outside repo pinnedMeasurement).mapError AttestationError.sdk >>= fun code =>
          sdk (Attestation.fetch outside.enclave host) >>= fun doc => (.ok (code, doc) : Checked AttestationError _)) =
            .ok (code, doc) ↔
        codeMeasurement outside repo pinnedMeasurement = .ok code ∧ Attestation.fetch outside.enclave host = .ok doc := by
    simp only [bind_ok, Checked.mapError_ok, sdk_ok, Except.ok.injEq, Prod.mk.injEq]
    constructor
    · rintro ⟨_, measured, _, answered, rfl, rfl⟩
      exact ⟨measured, answered⟩
    · rintro ⟨measured, answered⟩
      exact ⟨_, measured, _, answered, rfl, rfl⟩
  -- Code and document come first, and the report is looked at with both.
  simp only [verifyAttestation, pure, Except.pure]
  split
  · rename_i failure failed
    simp only [reduceCtorEq, false_iff]
    rintro ⟨source, doc, report, runs⟩
    cases failed.symm.trans (fetched.mpr ⟨codeMeasurement_ok.mpr source, runs.fetched⟩)
  · rename_i code doc known
    obtain ⟨measured, answered⟩ := fetched.mp known
    simp only [bind_ok, lift_ok, sdk_ok, Attestation.verifyFull_ok, bindEnclave_ok]
    constructor
    · rintro ⟨verification, ⟨report, genuine, same⟩, equal, shown, rfl, rfl⟩
      exact ⟨codeMeasurement_ok.mp measured, doc, report, ⟨answered, genuine, same, equal, shown⟩⟩
    · rintro ⟨source, doc', report, runs⟩
      obtain rfl := Except.ok.inj (answered.symm.trans runs.fetched)
      obtain rfl := Except.ok.inj (measured.symm.trans (codeMeasurement_ok.mpr source))
      exact ⟨_, ⟨report, runs.genuine, runs.verification⟩, runs.measured, runs.shown, rfl, rfl⟩

/-! ## From the report to the code and the certificate -/

/-- The first register is the one that SEV-SNP measures, whether it stands alone or with those of TDX. -/
theorem head_of_equals {code enclave : Measurement} {register : String} (sev : enclave = ⟨.sevGuestV2, [register]⟩)
    (accepted : code.equals enclave = .ok ()) : code.registers.head? = some register := by
  subst sev
  by_cases multi : code.type = .snpTdxMultiPlatformV1
  · rw [Measurement.equals, if_pos multi, Measurement.compareMultiplatform] at accepted
    split at accepted
    · rename_i snp rtmr1 rtmr2 more registers
      dsimp only at accepted
      split at accepted
      · cases accepted
      · rename_i same
        rw [registers, List.head?_cons, not_ne_iff.mp same]
    · cases accepted
  · rw [Measurement.eq_of_equals (.inl rfl) multi accepted]
    rfl

theorem isAllZeros_hexEncode {key : Bytes} (present : ∃ octet ∈ key, octet ≠ 0) : isAllZeros (hexEncode key) = false := by
  by_contra zeros
  rw [Bool.not_eq_false, isAllZeros, List.all_eq_true] at zeros
  obtain ⟨octet, member, other⟩ := present
  have digit {character : Char} (inside : character ∈ [hexDigit (octet >>> 4), hexDigit (octet &&& 15)]) :
      character = '0' := by
    refine beq_iff_eq.mp (zeros _ ?_)
    rw [hexEncode, String.toList_ofList]
    exact List.mem_flatMap.mpr ⟨octet, member, inside⟩
  have value := hexValue_digits octet
  rw [digit List.mem_cons_self, digit (List.mem_cons_of_mem _ List.mem_cons_self)] at value
  exact other (UInt8.toNat_inj.mp (value.symm.trans (by decide)))

/-- The halves of the report's data are the digest of the certificate's key and the key in its names. -/
theorem RunsCode.keys {host : String} {attested : Attested} {doc : AttestationDocument} {report : Sev.Report}
    (runs : RunsCode outside host attested doc report) :
    ∃ certDer cert spki, Shows outside.tls host certDer cert ∧ outside.tls.spki cert = .ok spki ∧
      report.reportData.take 32 = outside.tls.sha256 spki ∧
      ((∃ octet ∈ report.reportData.drop 32, octet ≠ 0) →
        decodeFromSans outside.tls.base32Decode (dnsSans outside.tls cert) "hpke".toList =
          some (report.reportData.drop 32)) := by
  obtain ⟨certDer, cert, shows, bound⟩ := runs.shown
  rw [← runs.verification] at bound
  obtain ⟨spki, encoded, same⟩ := bound.key
  refine ⟨certDer, cert, spki, shows, encoded, (hexEncode_injective same).symm, fun present => ?_⟩
  obtain ⟨bytes, found, same'⟩ := bound.hpke _ rfl (isAllZeros_hexEncode present)
  rw [found, hexEncode_injective same']

variable (outside) in
/-- An attestation succeeds exactly if the host runs the code of the latest release, or the pinned code.  The report
that hardware vouches for then has the first register of the code as its measurement, and the keys of the certificate
that the host shows as its data. -/
theorem verify_attestation_exact (host repo : String) (pinnedMeasurement : Option Measurement) (attested : Attested) :
    ((verifyAttestation outside host repo pinnedMeasurement).1 = .ok attested ↔
      Attests outside host repo pinnedMeasurement attested) ∧
    ∀ doc report, RunsCode outside host attested doc report →
      attested.codeMeasurement.registers.head? = some (hexEncode report.measurement) ∧
      ∃ certDer cert spki, Shows outside.tls host certDer cert ∧ outside.tls.spki cert = .ok spki ∧
        report.reportData.take 32 = outside.tls.sha256 spki ∧
        ((∃ octet ∈ report.reportData.drop 32, octet ≠ 0) →
          decodeFromSans outside.tls.base32Decode (dnsSans outside.tls cert) "hpke".toList =
            some (report.reportData.drop 32)) := by
  refine ⟨verifyAttestation_ok, fun doc report runs => ⟨?_, runs.keys⟩⟩
  have measured := runs.measured
  rw [← runs.verification] at measured
  exact head_of_equals rfl measured

end Attest

/-! ## An enclave -/

namespace Sample

open Sev.Sample (zeros tcb chipId firmware vcekGenoa)

def host : String := "router.example"

def spki : Bytes :=
  Der.bigEndian 46 0x3059301306072a8648ce3d020106082a8648ce3d030107034200040e876facd07c16cadbd8c9ae7fb470be5807e0 ++
    Der.bigEndian 45 0xf0dc0adb5c460ff7e2fe6e24018d9eb6161f9302de63566c6782d3b745471b0ebd4532000e9ba6d0154848766b

def spkiDigest : Bytes := Der.bigEndian 32 0x6fa7dc8ee263d67baccd39928a3d92c446ed30a60c8e8dd7015e57d45644379a

def hpkeKey : Bytes := Der.bigEndian 32 0x2c8fe13c0a6568bd4aae884f8bd144630d3aafa8312bd35779267027187e6a3b

def launch : Bytes :=
  Der.bigEndian 48 0xbaca7a369ff6fc505d34c1a4fec391fa4fb7a234fe65873775595c361e6d4df0a19d238b2e32426d69afde27d8594742

def body : Bytes :=
  [2, 0, 0, 0] ++ zeros 4 ++ [0, 0, 3, 0, 0, 0, 0, 0] ++ zeros 36 ++ [1, 0, 0, 0] ++ tcb ++ [3, 0, 0, 0, 0, 0, 0, 0] ++
    zeros 8 ++ spkiDigest ++ hpkeKey ++ launch ++ zeros 192 ++ tcb ++ zeros 24 ++ chipId ++ tcb ++ firmware ++ firmware ++
    tcb ++ zeros 168

def r : Bytes :=
  Der.bigEndian 48 0x75d37880e899ba856e8504e8588796691b90dd93853e7e4507c68d9941dbddf430663b0ed30942f3d3d7f986e5989efe

def s : Bytes :=
  Der.bigEndian 48 0x5335f048bddebe600ae6edb89b36da3a2d7c18bc53b83e2fa577cc9a4f262fc1c3741830955303a0158e7d48be7965f8

theorem report_whole : Sev.reportSize ≤ (body ++ r.reverse ++ zeros 24 ++ s.reverse ++ zeros 392).length := by
  decide +kernel

def report : Sev.Report where
  bytes := body ++ r.reverse ++ zeros 24 ++ s.reverse ++ zeros 392
  whole := report_whole

def compressed : Bytes :=
  List.flatMap (Der.bigEndian 46)
    [0x1f8b080000000000020363628001660662012310b383597c1ee8baf297dfe97b947cad7acd59cb495db6938eb8bd,
      0x3558c6d3d77b9d312efc4a988bf92c9dfe87365ca9197bbdd675f8775f7449e6b55abfc250fb7278a55a81ba445d,
      0x96f5ae535566f3bffd09883539b8e4dfe189bffcb72f32f997da6e5e1a19632697ebfb61e15ce56e3d23a7dcccf5,
      0xf7d46f44ba3b310c71000b479c61cdc4ccc2cac6cec1c9c5cdc3cbc72f2028242c222a262e2129252d232b27afa0,
      0xa8a4aca2aaa6aea1a9a5ada3aba76f6068646c626a666e6169656d636b67ef00335fd49c91018409d937d8c0bf79,
      0x339eb6fdbc7ef9b313e7653eeb34832f776f3bceec3dc6ee5a67d73af9ee04e9cc69ed112f585af35a77cd7cd150,
      0x71b91497393f522bf779d4f6892e600e9e6a205172f8a0be9affac33e54bf5ed7604ef91a8d1b5ba65367bc7db67] ++
  Der.bigEndian 24 0x5c09fbeeedf5f8601acc300a060500006f30c39ca0040000

def doc : AttestationDocument where
  format := .sevGuestV2
  body := String.ofList (Base64.encode compressed)

def docDigest : Bytes := Der.bigEndian 32 0xd4a5b0f68fbb636c4456756de60fd3edd16c6f87e0dc134f4acdc17bac122770

/-- The names of its certificate, with the hash in two parts. -/
def names : List San :=
  [Dcode.Sample.san "router.example" (by decide), Dcode.Sample.san "00mq2gcnlcgbtdmodgmjrdmmzwmm2dinjwg42tmzdfgyygmzbtmvsgimjwmm3g.hatt.router.example" (by decide),
    Dcode.Sample.san "00fsh6cpakmvul2svorbhyxukemmgtvl5igev5gv3zezycogd6ni5q.hpke.router.example" (by decide),
    Dcode.Sample.san "01mobxmuygiyzrgm2gmndbmnsggmjxmjqwgmjsgi3toma.hatt.router.example" (by decide)]

def certDer : Bytes := utf8Bytes "enclave certificate"

def sha256 (octets : Bytes) : Bytes :=
  if octets = utf8Bytes (doc.format.asUrl ++ doc.body) then docDigest
  else if octets = spki then spkiDigest
  else zeros 32

theorem sha256Length (octets : Bytes) : (sha256 octets).length = 32 := by
  unfold sha256
  split
  · exact Der.length_bigEndian ..
  · split
    · exact Der.length_bigEndian ..
    · exact List.length_replicate

def tls : TlsLibrary Bytes where
  connect name := if name = host then .ok () else .error "host not found"
  isServerName name := name ≠ ""
  handshake _ := .ok (some [certDer])
  certificateFromDer der := if der = certDer then .ok der else .error "malformed certificate"
  keyAlgorithm _ := oidEcPublicKey
  spki _ := .ok spki
  subjectAltName _ := .ok (some (names.map .dnsName))
  base32Decode := Base32.decode
  base32Inverse := Base32.decode_encode
  sha256
  sha256Length

def sev : SevLibrary Bytes Bytes Bytes Bytes where
  chain := Sev.Sample.chain
  signature :=
    { Sev.Sample.library.signature with
      verify := fun key message signature =>
        if key = Sev.Sample.publicKey ∧ message = body ∧ signature = r ++ s then .ok () else .error "signature error" }
  decodeError _ := "invalid base64"
  gunzip limit data := if data = compressed then .ok (report.bytes.take limit) else .error "invalid gzip header"
  genoaCertChain := Sev.Sample.library.genoaCertChain

/-- No release is published. -/
def sigstore : ProvenanceLibrary Bytes String String Bytes Bytes Bytes Bytes Bytes Bytes Regex.Expr :=
  { Sigstore.Sample.cmsLibrary with
    primitives := Sigstore.Sample.primitives
    overflowChecks := false
    github :=
      { fetchWithRetry := fun _ => .error (.attestationFetch "not found")
        releaseTag := fun _ => .error (.attestationFetch "not found")
        text := fun _ => .error (.attestationFetch "not found")
        attestations := fun _ => .ok []
        toVec := fun _ => [] }
    trustedRootJson := "\x7b\x7d"
    trustedRoot :=
      { fromStr := fun _ => .error "missing field"
        parseRfc3339 := fun _ => .error "invalid time" }
    keyFromSec1Bytes := .ok
    signatureFromDer := fun _ => .error "malformed signature"
    signatureFromSlice := fun _ => .error "malformed signature"
    verify := fun _ _ _ => .error "signature error"
    ctlogKeys := Sigstore.Sample.keyringLibrary
    tbsCertificate := fun der => { extensions := none, rest := der }
    encodeTbs := fun tbs => tbs.rest
    parseTimestamps := fun _ => .ok []
    strings := Sigstore.Sample.stringLibrary
    regex := Sigstore.Sample.regexLibrary
    documented := Sigstore.Sample.regexLibrary_documented
    parseStatement := fun _ => .error "expected value"
    toLowercase := String.toLower }

def outside : Outside where
  Certificate := Bytes
  Name := String
  Algorithm := String
  Serial := Bytes
  Any := Bytes
  Rest := Bytes
  SigningKey := Bytes
  LogKey := Bytes
  LogSignature := Bytes
  Compiled := Regex.Expr
  RsaKey := Bytes
  RsaSignature := Bytes
  VcekKey := Bytes
  VcekSignature := Bytes
  PeerCertificate := Bytes
  decidableName := inferInstance
  decidableAlgorithm := inferInstance
  decidableSerial := inferInstance
  sigstore
  sev
  sevHost := (Sev.Sample.call vcekGenoa).host
  disk _ := none
  enclave url :=
    if url = "https://router.example/.well-known/tinfoil-attestation" then
      .ok { success := true, status := "200 OK", reason := none, document := .ok doc }
    else .error "not found"
  tls

def measurement : Measurement where
  type := .sevGuestV2
  registers := [hexEncode launch]

def attested : Attested where
  codeMeasurement := measurement
  digest := pinnedNoDigest
  releaseTag := none
  verification := Sev.attested report

theorem genuine : Genuine sev (fun _ => none) (Sev.Sample.call vcekGenoa).host doc report where
  format := rfl
  read := by
    have text : Base64.decode doc.body.toList = some compressed := by
      rw [doc, String.toList_ofList, Base64.decode_encode]
    exact Sev.readReport_of text (by decide +kernel) (by decide +kernel) (.inl (by decide +kernel))
  certified := by
    refine ⟨vcekGenoa, false, ?_, ?_, ?_, r, s, ?_, ?_⟩
    · exact Sev.fetchVcek_miss (by decide)
    · exact { chain := Sev.Sample.serves.passes.chain, extensions := by decide +kernel, hwid := by decide +kernel }
    · exact Sev.fieldsAccepted_iff.mp (by decide +kernel)
    · decide +kernel
    · exact ⟨Sev.Sample.publicKey, r ++ s, Sev.Sample.publicKey, by decide +kernel, by decide +kernel, by decide +kernel,
        by decide +kernel⟩

theorem shows_certDer : Shows tls host certDer certDer where
  connected := by simp [tls]
  named := by simp [tls, host]
  shown := ⟨[], rfl⟩
  parsed := by simp [tls]

theorem bound : Bound tls certDer attested.verification.tlsPublicKeyFp attested.verification.hpkePublicKey doc where
  ec := rfl
  key := ⟨spki, rfl, by decide⟩
  hpke := by
    rintro key ⟨⟩ -
    exact ⟨hpkeKey, by decide +kernel, by decide +kernel⟩
  document := by
    have hash : doc.hash tls.sha256 = hexEncode docDigest := by simp [AttestationDocument.hash, tls, sha256]
    have parts : (dnsSans tls certDer).filterMap (fun san => Dcode.chunkOfSan "hatt".toList san.text) =
        [(0, "MQ2GCNLCGBTDMODGMJRDMMZWMM2DINJWG42TMZDFGYYGMZBTMVSGIMJWMM3G".toList),
          (1, "MOBXMUYGIYZRGM2GMNDBMNSGGMJXMJQWGMJSGI3TOMA".toList)] := by decide
    rw [hash, decodeFromSans, parts, SortByKey.sortByKey_of_ascending Prod.fst (by decide)]
    decide

theorem attests : Attests outside host "org/repo" (some measurement) attested where
  source := .pinned rfl rfl rfl
  enclave := ⟨doc, report,
    { fetched := by simp [Attestation.fetch, outside, host]
      genuine
      verification := rfl
      measured := by decide
      shown := ⟨certDer, certDer, shows_certDer, bound⟩ }⟩

end Sample

end Tinfoil.Client
