import Tinfoil.Attestation.Types
import Tinfoil.Sigstore.CertificateInfo
import Tinfoil.Sigstore.Timestamp
import Tinfoil.Sigstore.TrustedRoot

/-! # The provenance of a release

`verifyRepo` reads a bundle several times, once for each of its checks.  `verify_repo_exact` says that the checks are
about one certificate, one payload and one signature, and that these come from the latest release of the repository.
-/

namespace Tinfoil.Sigstore

open Json (Value)
open Attestation (Measurement PredicateType)

/-! ## Releases and their bundles -/

structure Response where
  success : Bool
  status : String
  body : Bytes

/-- The requests, which are tried again on their own, and the readers of their bodies. -/
structure GitHubLibrary where
  fetchWithRetry : (url : String) → Except Error Response
  /-- The `tag_name` of a `ReleaseResponse`. -/
  releaseTag : Bytes → Except Error String
  text : Bytes → Except Error String
  /-- The bundles of an `AttestationsResponse`. -/
  attestations : Bytes → Except Error (List Value)
  toVec : Value → Bytes

structure Release where
  tag : String
  digest : String
  deriving DecidableEq

def githubProxy : String := "https://github-proxy.tinfoil.sh"

section GitHub

variable (github : GitHubLibrary)

/-- `Error::GitHub`, unless the condition holds. -/
def ensureGitHub (condition : Prop) [Decidable condition] (message : String) : Except Error Unit :=
  if condition then .ok () else .error (.gitHub message)

@[simp] theorem ensureGitHub_ok {condition : Prop} [Decidable condition] {message : String} {result : Unit} :
    ensureGitHub condition message = .ok result ↔ condition := by
  by_cases holds : condition <;> simp [ensureGitHub, holds]

def fetchLatestTag (repo : String) : Except Error String := do
  let response ← github.fetchWithRetry (githubProxy ++ "/repos/" ++ repo ++ "/releases/latest")
  ensureGitHub (response.success = true) ("failed to fetch latest release: HTTP " ++ response.status)
  github.releaseTag response.body

def isAsciiHexdigit (character : Char) : Bool :=
  character.isDigit || ('a' ≤ character && character ≤ 'f') || ('A' ≤ character && character ≤ 'F')

def isDigest (digest : String) : Bool :=
  (utf8Bytes digest).length = 64 && digest.toList.all isAsciiHexdigit

def fetchDigest (repo tag : String) : Except Error String := do
  let response ← github.fetchWithRetry (githubProxy ++ "/" ++ repo ++ "/releases/download/" ++ tag ++ "/tinfoil.hash")
  ensureGitHub (response.success = true)
    ("failed to fetch digest for " ++ repo ++ "@" ++ tag ++ ": HTTP " ++ response.status)
  let text ← github.text response.body
  let digest := String.ofList (Text.trim text.toList)
  ensureGitHub (isDigest digest = true)
    ("Invalid digest format for " ++ repo ++ "@" ++ tag ++ ": expected 64 hex chars, got '" ++ digest ++ "'")
  return digest

def fetchLatestRelease (repo : String) : Except Error Release := do
  let tag ← fetchLatestTag github repo
  let digest ← fetchDigest github repo tag
  return { tag, digest }

def fetchAttestationBundle (repo digest : String) : Except Error Bytes := do
  let response ← github.fetchWithRetry (githubProxy ++ "/repos/" ++ repo ++ "/attestations/sha256:" ++ digest)
  ensureGitHub (response.success = true)
    ("failed to fetch attestation bundle for " ++ repo ++ "@" ++ digest ++ ": HTTP " ++ response.status)
  let attestations ← github.attestations response.body
  match attestations with
  | [] => .error (.gitHub ("no attestations found for " ++ repo ++ "@" ++ digest))
  | bundle :: _ => return github.toVec bundle

variable {github} in
theorem fetchLatestRelease_ok {repo : String} {release : Release} :
    fetchLatestRelease github repo = .ok release ↔
      ∃ tag, fetchLatestTag github repo = .ok tag ∧ ∃ digest, fetchDigest github repo tag = .ok digest ∧
        { tag, digest } = release := by
  simp only [fetchLatestRelease, bind_ok, pure, Except.pure, Except.ok.injEq]

end GitHub

/-! ## What a bundle says -/

structure Subject where
  digest : String → Option String

structure InTotoStatement where
  type : String
  predicateType : String
  predicate : Value
  subject : List Subject

structure SigstoreResult where
  measurement : Measurement
  digest : String
  releaseTag : String
  deriving DecidableEq

structure ProvenanceLibrary
    (Certificate Name Algorithm Serial Any Rest Key VerifyingKey Signature Compiled : Type)
    extends CmsLibrary Certificate Name Algorithm Serial Any where
  primitives : Primitives
  overflowChecks : Bool
  github : GitHubLibrary
  trustedRootJson : String
  trustedRoot : TrustedRootLibrary
  keyFromSec1Bytes : Bytes → Except String Key
  signatureFromDer : Bytes → Except String EcdsaSignature
  signatureFromSlice : Bytes → Except String EcdsaSignature
  verify : Key → (message : Bytes) → EcdsaSignature → Except String Unit
  ctlogKeys : KeyringLibrary VerifyingKey Signature
  tbsCertificate : Certificate → TbsCertificate Rest
  encodeTbs : TbsCertificate Rest → Bytes
  parseTimestamps : Bytes → Except CertificateErrorKind (List SignedCertificateTimestamp)
  strings : StringLibrary
  regex : RegexLibrary Compiled
  documented : regex.Documented
  /-- `serde_json::from_slice`, which refuses unknown members. -/
  parseStatement : Bytes → Except String InTotoStatement
  /-- `str::to_lowercase` -/
  toLowercase : String → String

section Verify

variable {Certificate Name Algorithm Serial Any Rest Key VerifyingKey Signature Compiled : Type}
  (library : ProvenanceLibrary Certificate Name Algorithm Serial Any Rest Key VerifyingKey Signature Compiled)

namespace ProvenanceLibrary

def sctLibrary : SctLibrary Certificate Rest VerifyingKey Signature :=
  { library.ctlogKeys with
    tbsCertificate := library.tbsCertificate
    encodeTbs := library.encodeTbs
    parseTimestamps := library.parseTimestamps
    loadCtlogKeyring :=
      loadCtlogKeyring library.trustedRoot library.primitives library.ctlogKeys library.trustedRootJson }

def fulcioCas : Except Error (List FulcioCa) :=
  loadFulcioCas library.trustedRoot library.primitives library.trustedRootJson

def signingLibrary : SigningLibrary Certificate Name Key :=
  { library.toCertificateLibrary with
    loadFulcioCas := library.fulcioCas
    verifySct := verifySct library.sctLibrary library.certificateFromDer
    keyFromSec1Bytes := library.keyFromSec1Bytes
    signatureFromDer := library.signatureFromDer
    signatureFromSlice := library.signatureFromSlice
    verify := library.verify }

end ProvenanceLibrary

/-- Read for the identity, and again for the validity. -/
def bundleLeaf (bundle : Value) : Except Error (Bytes × Certificate) := do
  let certB64 ← okOrElse (strAt bundle ["verificationMaterial", "certificate", "rawBytes"]) "No certificate in bundle"
  let certDer ← decodeB64 library.primitives "certificate" certB64
  let cert ← orFail "Failed to parse certificate: " (library.certificateFromDer certDer)
  return (certDer, cert)

def extractCertWithValidity (bundle : Value) : Except Error (Bytes × UInt64 × UInt64) := do
  let (certDer, cert) ← bundleLeaf library bundle
  return (certDer, library.notBefore cert, library.notAfter cert)

def extractCertificateInfoFromBundle (bundle : Value) : Except Error CertificateInfo := do
  let (_, cert) ← bundleLeaf library bundle
  extractCertificateInfo library.strings (library.tbsCertificate cert)

def inTotoPayloadType : String := "application/vnd.in-toto+json"

def multiPlatformPredicate : String := "https://tinfoil.sh/predicate/snp-tdx-multiplatform/v1"

def isStatementType (type : String) : Bool :=
  type = "https://in-toto.io/Statement/v0.1" || type = "https://in-toto.io/Statement/v1"

def predicateRegisters (predicate : Value) : Except Error (List String) := do
  let snpMeasurement ← okOrElse ((predicate.get "snp_measurement").bind Value.asStr) "Missing snp_measurement"
  let tdx ← okOrElse (predicate.get "tdx_measurement") "Missing tdx_measurement"
  let rtmr1 ← okOrElse ((tdx.get "rtmr1").bind Value.asStr) "Missing rtmr1"
  let rtmr2 ← okOrElse ((tdx.get "rtmr2").bind Value.asStr) "Missing rtmr2"
  return [snpMeasurement, rtmr1, rtmr2]

def extractMeasurementFromBundle (bundle : Value) (expectedDigest : String) : Except Error Measurement := do
  let dsseEnvelope ← okOrElse (bundle.get "dsseEnvelope") "No dsseEnvelope in bundle"
  let payloadType ← okOrElse (strAt dsseEnvelope ["payloadType"]) "No payloadType in DSSE envelope"
  ensure (payloadType = inTotoPayloadType)
    ("Unsupported DSSE payload type: \"" ++ payloadType ++ "\". Expected \"application/vnd.in-toto+json\"")
  let payloadB64 ← okOrElse (strAt dsseEnvelope ["payload"]) "No payload in DSSE envelope"
  let payloadBytes ← decodeB64 library.primitives "payload" payloadB64
  let statement ← orFail "Failed to parse statement: " (library.parseStatement payloadBytes)
  ensure (isStatementType statement.type = true)
    ("Unsupported in-toto statement type: \"" ++ statement.type ++ "\"")
  let subject ← okOrElse statement.subject.head? "No subject in statement"
  let payloadDigest ← okOrElse (subject.digest "sha256") "No sha256 digest in subject"
  ensure (library.toLowercase payloadDigest = library.toLowercase expectedDigest)
    ("Provided digest does not match verified DSSE payload digest. Expected: " ++ expectedDigest ++ ", Got: " ++
      payloadDigest)
  ensure (statement.predicateType = multiPlatformPredicate)
    ("Unsupported predicate type: " ++ statement.predicateType)
  let registers ← predicateRegisters statement.predicate
  return { type := .snpTdxMultiPlatformV1, registers }

variable [DecidableEq Name] [DecidableEq Algorithm] [DecidableEq Serial]

namespace ProvenanceLibrary

def verifier (certNotBefore certNotAfter : UInt64) (rekorKeys : List RekorKey)
    (timestampAuthorities : List TimestampAuthority) : Verifier :=
  Verifier.withTimestamps library.toCmsLibrary
    { primitives := library.primitives
      overflowChecks := library.overflowChecks
      certNotBefore, certNotAfter, rekorKeys, timestampAuthorities }

end ProvenanceLibrary

def verifyRekorEntry (bundle : Value) (certNotBefore certNotAfter : UInt64) : Checked Error Unit := do
  let rekorKeys ← loadRekorKeys library.trustedRoot library.primitives library.trustedRootJson
  let timestampAuthorities ← loadTimestampAuthorities library.trustedRoot library.primitives library.trustedRootJson
  let verifier := library.verifier certNotBefore certNotAfter rekorKeys timestampAuthorities
  verifyRekorEntryWithTrust verifier.primitives verifier.overflowChecks bundle certNotBefore certNotAfter rekorKeys
    timestampAuthorities

/-- `verify_fulcio_chain`, with the authorities of the trust root. -/
def verifyFulcio (certDer : Bytes) (certNotBefore : UInt64) : Except Error Unit := do
  -- A certificate that cannot be parsed is reported before the authorities are loaded.
  let _ ← orFail "Failed to parse signing certificate: " (library.certificateFromDer certDer)
  let fulcioCas ← library.fulcioCas
  verifyFulcioChain library.toChainLibrary fulcioCas certDer certNotBefore

def verifyRepo (repo : String) : Checked Error SigstoreResult := do
  let release ← liftM (fetchLatestRelease library.github repo)
  let bundleJson ← liftM (fetchAttestationBundle library.github repo release.digest)
  let bundle ← liftM (orFail "Failed to parse bundle: " (library.primitives.fromSlice bundleJson))
  let () ← liftM (verifyDsseSignature library.primitives library.signingLibrary bundle)
  let certInfo ← liftM (extractCertificateInfoFromBundle library bundle)
  let () ← liftM (verifyCertificateIdentity library.regex certInfo repo release.tag)
  let (certDer, certNotBefore, certNotAfter) ← liftM (extractCertWithValidity library bundle)
  let () ← verifyRekorEntry library bundle certNotBefore certNotAfter
  let () ← liftM (verifyFulcio library certDer certNotBefore)
  let measurement ← liftM (extractMeasurementFromBundle library bundle release.digest)
  return { measurement, digest := release.digest, releaseTag := release.tag }

/-! ## Where a release comes from -/

structure Leaf (bundle : Value) where
  certB64 : String
  der : Bytes
  cert : Certificate
  read : strAt bundle ["verificationMaterial", "certificate", "rawBytes"] = some certB64
  decoded : Base64.decode certB64.toList = some der
  parsed : library.certificateFromDer der = .ok cert

/-- It is for signing code.  An authority that was valid when it was issued stands for it, and a log has it. -/
structure Endorsed (cert : Certificate) where
  fulcioCas : List FulcioCa
  issuerSpki : Bytes
  ca : FulcioCa
  issuers : List Certificate
  forSigning : validateCertificateExtensions library.toCertificateLibrary cert = .ok ()
  loaded : library.fulcioCas = .ok fulcioCas
  issuerKey : findIssuerSpki library.toCertificateLibrary fulcioCas cert = .ok issuerSpki
  logged : Logged library.sctLibrary cert issuerSpki
  member : ca ∈ fulcioCas
  valid : ca.validAt (library.notBefore cert) = true
  present : issuers ≠ []
  chain : ca.certChainDer.map library.certificateFromDer = issuers.map Except.ok
  issued : ToRoot library.toChainLibrary (cert :: issuers)

/-- It is for a workflow of the repository, run for the tag. -/
structure Identified (cert : Certificate) (repo tag : String) where
  info : CertificateInfo
  extracted : extractCertificateInfo library.strings (library.tbsCertificate cert) = .ok info
  compiled : ∃ re, library.regex.new (workflowPattern library.regex repo tag) = .ok re
  issuer : info.issuer = gitHubActions
  repository : info.repository = repo
  workflow : ReleaseWorkflow repo tag info.subjectWorkflow

/-- Its key signed the payload. -/
structure Signed (bundle : Value) (cert : Certificate) (payload : Bytes) where
  dsse : Value
  payloadB64 : String
  signatureB64 : String
  signatureBytes : Bytes
  signature : EcdsaSignature
  key : Key
  envelope : bundle.get "dsseEnvelope" = some dsse
  payloadType : strAt dsse ["payloadType"] = some inTotoPayloadType
  readPayload : strAt dsse ["payload"] = some payloadB64
  decodedPayload : Base64.decode payloadB64.toList = some payload
  readSignature : soleSignature dsse = .ok signatureB64
  decodedSignature : Base64.decode signatureB64.toList = some signatureBytes
  parsedSignature : decodeSignature library.signingLibrary signatureBytes = .ok signature
  parsedKey : library.keyFromSec1Bytes (library.subjectPublicKey cert) = .ok key
  signed : library.verify key (computePae inTotoPayloadType payload) signature = .ok ()

/-- The payload is a statement about the digest. -/
structure Stated (payload : Bytes) (digest : String) (measurement : Measurement) where
  statement : InTotoStatement
  subject : Subject
  payloadDigest : String
  parsed : library.parseStatement payload = .ok statement
  type : isStatementType statement.type = true
  first : statement.subject.head? = some subject
  sha256 : subject.digest "sha256" = some payloadDigest
  digest : library.toLowercase payloadDigest = library.toLowercase digest
  predicate : statement.predicateType = multiPlatformPredicate
  registers : predicateRegisters statement.predicate = .ok measurement.registers
  platform : measurement.type = .snpTdxMultiPlatformV1

/-- The log has an entry of the bundle, from the time of the certificate. -/
structure Entered (bundle : Value) (cert : Certificate) where
  rekorKeys : List RekorKey
  timestampAuthorities : List TimestampAuthority
  keys : loadRekorKeys library.trustedRoot library.primitives library.trustedRootJson = .ok rekorKeys
  authorities : loadTimestampAuthorities library.trustedRoot library.primitives library.trustedRootJson =
    .ok timestampAuthorities
  accepted : (library.verifier (library.notBefore cert) (library.notAfter cert) rekorKeys timestampAuthorities).Acceptance
    bundle

/-- The bundle of the latest release, with one certificate and one payload that all the checks are about. -/
structure Provenance (repo : String) (result : SigstoreResult) where
  bundleJson : Bytes
  bundle : Value
  leaf : Leaf library bundle
  payload : Bytes
  latest : fetchLatestTag library.github repo = .ok result.releaseTag
  digest : fetchDigest library.github repo result.releaseTag = .ok result.digest
  fetched : fetchAttestationBundle library.github repo result.digest = .ok bundleJson
  parsed : library.primitives.fromSlice bundleJson = .ok bundle
  endorsed : Endorsed library leaf.cert
  identified : Identified library leaf.cert repo result.releaseTag
  signed : Signed library bundle leaf.cert payload
  entered : Entered library bundle leaf.cert
  stated : Stated library payload result.digest result.measurement

variable {library}

omit [DecidableEq Name] [DecidableEq Algorithm] [DecidableEq Serial] in
theorem bundleLeaf_ok {bundle : Value} {der : Bytes} {cert : Certificate} :
    bundleLeaf library bundle = .ok (der, cert) ↔ ∃ leaf : Leaf library bundle, leaf.der = der ∧ leaf.cert = cert := by
  simp only [bundleLeaf, bind_ok, okOrElse_ok, decodeB64_ok, orFail_ok, pure, Except.pure, Except.ok.injEq,
    Prod.mk.injEq]
  constructor
  · rintro ⟨certB64, read, der', decoded, cert', parsed, rfl, rfl⟩
    exact ⟨⟨certB64, der', cert', read, decoded, parsed⟩, rfl, rfl⟩
  · rintro ⟨leaf, rfl, rfl⟩
    exact ⟨_, leaf.read, _, leaf.decoded, _, leaf.parsed, rfl, rfl⟩

omit [DecidableEq Name] [DecidableEq Algorithm] [DecidableEq Serial] in
theorem Leaf.unique {bundle : Value} (leaf leaf' : Leaf library bundle) : leaf = leaf' := by
  obtain ⟨certB64, der, cert, read, decoded, parsed⟩ := leaf
  obtain ⟨certB64', der', cert', read', decoded', parsed'⟩ := leaf'
  obtain rfl := Option.some.inj (read.symm.trans read')
  obtain rfl := Option.some.inj (decoded.symm.trans decoded')
  obtain rfl := Except.ok.inj (parsed.symm.trans parsed')
  rfl

omit [DecidableEq Name] [DecidableEq Algorithm] [DecidableEq Serial] in
theorem extractCertWithValidity_ok {bundle : Value} {der : Bytes} {notBefore notAfter : UInt64} :
    extractCertWithValidity library bundle = .ok (der, notBefore, notAfter) ↔
      ∃ leaf : Leaf library bundle,
        leaf.der = der ∧ library.notBefore leaf.cert = notBefore ∧ library.notAfter leaf.cert = notAfter := by
  simp only [extractCertWithValidity, bind_ok, Prod.exists, bundleLeaf_ok, pure, Except.pure, Except.ok.injEq,
    Prod.mk.injEq]
  constructor
  · rintro ⟨_, _, ⟨leaf, rfl, rfl⟩, parts⟩
    exact ⟨leaf, parts⟩
  · rintro ⟨leaf, parts⟩
    exact ⟨_, _, ⟨leaf, rfl, rfl⟩, parts⟩

omit [DecidableEq Name] [DecidableEq Algorithm] [DecidableEq Serial] in
theorem extractCertificateInfoFromBundle_ok {bundle : Value} {info : CertificateInfo} :
    extractCertificateInfoFromBundle library bundle = .ok info ↔
      ∃ leaf : Leaf library bundle,
        extractCertificateInfo library.strings (library.tbsCertificate leaf.cert) = .ok info := by
  simp only [extractCertificateInfoFromBundle, bind_ok, Prod.exists, bundleLeaf_ok]
  constructor
  · rintro ⟨_, _, ⟨leaf, rfl, rfl⟩, extracted⟩
    exact ⟨leaf, extracted⟩
  · rintro ⟨leaf, extracted⟩
    exact ⟨_, _, ⟨leaf, rfl, rfl⟩, extracted⟩

omit [DecidableEq Algorithm] [DecidableEq Serial] in
theorem signingKey_ok {bundle : Value} {key : Key} :
    signingKey library.primitives library.signingLibrary bundle = .ok key ↔
      ∃ leaf : Leaf library bundle, ∃ fulcioCas issuerSpki,
        validateCertificateExtensions library.toCertificateLibrary leaf.cert = .ok () ∧
        library.fulcioCas = .ok fulcioCas ∧
        findIssuerSpki library.toCertificateLibrary fulcioCas leaf.cert = .ok issuerSpki ∧
        Logged library.sctLibrary leaf.cert issuerSpki ∧
        library.keyFromSec1Bytes (library.subjectPublicKey leaf.cert) = .ok key := by
  simp only [signingKey, ProvenanceLibrary.signingLibrary, verifySct_ok, bind_ok, okOrElse_ok, decodeB64_ok, orFail_ok,
    exists_const]
  constructor
  · rintro ⟨certB64, read, der, decoded, cert, parsed, ⟨⟩, forSigning, fulcioCas, loaded, issuerSpki, issuerKey,
      ⟨cert', parsed', logged⟩, parsedKey⟩
    obtain rfl := Except.ok.inj (parsed.symm.trans parsed')
    exact ⟨⟨certB64, der, cert, read, decoded, parsed⟩, fulcioCas, issuerSpki, forSigning, loaded, issuerKey, logged,
      parsedKey⟩
  · rintro ⟨leaf, fulcioCas, issuerSpki, forSigning, loaded, issuerKey, logged, parsedKey⟩
    exact ⟨_, leaf.read, _, leaf.decoded, _, leaf.parsed, _, forSigning, fulcioCas, loaded, issuerSpki, issuerKey,
      ⟨_, leaf.parsed, logged⟩, parsedKey⟩

omit [DecidableEq Algorithm] [DecidableEq Serial] in
theorem verifyDsseSignature_ok {bundle : Value} :
    verifyDsseSignature library.primitives library.signingLibrary bundle = .ok () ↔
      ∃ key, signingKey library.primitives library.signingLibrary bundle = .ok key ∧
      ∃ dsse, bundle.get "dsseEnvelope" = some dsse ∧
      ∃ payloadType, strAt dsse ["payloadType"] = some payloadType ∧
      ∃ payloadB64, strAt dsse ["payload"] = some payloadB64 ∧
      ∃ signatureB64, soleSignature dsse = .ok signatureB64 ∧
      ∃ payload, Base64.decode payloadB64.toList = some payload ∧
      ∃ signatureBytes, Base64.decode signatureB64.toList = some signatureBytes ∧
      ∃ signature, decodeSignature library.signingLibrary signatureBytes = .ok signature ∧
        library.verify key (computePae payloadType payload) signature = .ok () := by
  simp only [verifyDsseSignature, readEnvelope, checkSignature, bind_ok, okOrElse_ok, decodeB64_ok, orFail_ok, pure,
    Except.pure, Except.ok.injEq]
  constructor
  · rintro ⟨_, ⟨key, read, dsse, envelope, payloadType, readType, payloadB64, readPayload, signatureB64, readSignature,
      payload, decoded, rfl⟩, signatureBytes, decodedSignature, signature, parsedSignature, signed⟩
    exact ⟨key, read, dsse, envelope, payloadType, readType, payloadB64, readPayload, signatureB64, readSignature,
      payload, decoded, signatureBytes, decodedSignature, signature, parsedSignature, signed⟩
  · rintro ⟨key, read, dsse, envelope, payloadType, readType, payloadB64, readPayload, signatureB64, readSignature,
      payload, decoded, signatureBytes, decodedSignature, signature, parsedSignature, signed⟩
    exact ⟨_, ⟨key, read, dsse, envelope, payloadType, readType, payloadB64, readPayload, signatureB64, readSignature,
      payload, decoded, rfl⟩, signatureBytes, decodedSignature, signature, parsedSignature, signed⟩

omit [DecidableEq Serial] in
theorem verifyFulcio_ok {der : Bytes} {cert : Certificate} {certNotBefore : UInt64}
    (parsed : library.certificateFromDer der = .ok cert) :
    verifyFulcio library der certNotBefore = .ok () ↔ ∃ fulcioCas, library.fulcioCas = .ok fulcioCas ∧
      ∃ ca ∈ fulcioCas, ca.issued library.toChainLibrary cert certNotBefore := by
  simp only [verifyFulcio, bind_ok, orFail_ok, parsed, verifyFulcioChain_ok parsed, Except.ok.injEq, exists_eq_left']

omit [DecidableEq Name] [DecidableEq Algorithm] [DecidableEq Serial] in
theorem extractMeasurement_ok {bundle : Value} {digest : String} {measurement : Measurement} :
    extractMeasurementFromBundle library bundle digest = .ok measurement ↔
      ∃ dsse payloadB64 payload, bundle.get "dsseEnvelope" = some dsse ∧
        strAt dsse ["payloadType"] = some inTotoPayloadType ∧ strAt dsse ["payload"] = some payloadB64 ∧
        Base64.decode payloadB64.toList = some payload ∧ Nonempty (Stated library payload digest measurement) := by
  simp only [extractMeasurementFromBundle, bind_ok, okOrElse_ok, ensure_ok, decodeB64_ok, orFail_ok, exists_const, pure,
    Except.pure, Except.ok.injEq]
  constructor
  · rintro ⟨dsse, envelope, _, payloadType, rfl, payloadB64, readPayload, payload, decoded, statement, parsed, type,
      subject, first, payloadDigest, sha256, same, predicate, registers, readRegisters, rfl⟩
    exact ⟨dsse, payloadB64, payload, envelope, payloadType, readPayload, decoded, ⟨statement, subject, payloadDigest,
      parsed, type, first, sha256, same, predicate, readRegisters, rfl⟩⟩
  · rintro ⟨dsse, payloadB64, payload, envelope, payloadType, readPayload, decoded, ⟨stated⟩⟩
    refine ⟨dsse, envelope, _, payloadType, rfl, payloadB64, readPayload, payload, decoded, _, stated.parsed, stated.type,
      _, stated.first, _, stated.sha256, stated.digest, stated.predicate, _, stated.registers, ?_⟩
    obtain ⟨type, registers⟩ := measurement
    rw [Measurement.mk.injEq]
    exact ⟨stated.platform.symm, rfl⟩

theorem verifyRekorEntry_ok {bundle : Value} {cert : Certificate} :
    verifyRekorEntry library bundle (library.notBefore cert) (library.notAfter cert) = .ok () ↔
      Nonempty (Entered library bundle cert) := by
  simp only [verifyRekorEntry, bind_ok, lift_ok]
  constructor
  · rintro ⟨rekorKeys, keys, timestampAuthorities, authorities, verified⟩
    obtain ⟨accepted⟩ := Verifier.accepts_iff.mp verified
    exact ⟨⟨rekorKeys, timestampAuthorities, keys, authorities, accepted⟩⟩
  · rintro ⟨entered⟩
    exact ⟨_, entered.keys, _, entered.authorities, Verifier.accepts_iff.mpr ⟨entered.accepted⟩⟩

theorem verifyRepo_ok {repo : String} {result : SigstoreResult} :
    verifyRepo library repo = .ok result ↔ Nonempty (Provenance library repo result) := by
  have identity {info : CertificateInfo} {tag : String} :
      verifyCertificateIdentity library.regex info repo tag = .ok () ↔
        (∃ re, library.regex.new (workflowPattern library.regex repo tag) = .ok re) ∧ info.issuer = gitHubActions ∧
          info.repository = repo ∧ ReleaseWorkflow repo tag info.subjectWorkflow := by
    constructor
    · intro accepted
      obtain ⟨re, compiled⟩ := compiled_of_accepted accepted
      exact ⟨⟨re, compiled⟩, (identity_iff_of_compiled library.documented compiled).mp accepted⟩
    · rintro ⟨⟨re, compiled⟩, matched⟩
      exact (identity_iff_of_compiled library.documented compiled).mpr matched
  simp only [verifyRepo, bind_ok, lift_ok, orFail_ok]
  constructor
  · rintro ⟨release, released, bundleJson, fetched, bundle, parsed, ⟨⟩, verified, info, identified, ⟨⟩, matched,
      ⟨der, notBefore, notAfter⟩, validity, ⟨⟩, entered, ⟨⟩, issued, measurement, extracted, result⟩
    cases result
    obtain ⟨tag, latest, digest, digested, rfl⟩ := fetchLatestRelease_ok.mp released
    obtain ⟨key, read, dsse, envelope, payloadType, readType, payloadB64, readPayload, signatureB64, readSignature,
      payload, decoded, signatureBytes, decodedSignature, signature, parsedSignature, signed⟩ :=
      verifyDsseSignature_ok.mp verified
    obtain ⟨leaf, fulcioCas, issuerSpki, forSigning, loaded, issuerKey, logged, parsedKey⟩ := signingKey_ok.mp read
    -- The certificate of the signature is the one of the identity, and the one of the validity.
    obtain ⟨leaf', identified⟩ := extractCertificateInfoFromBundle_ok.mp identified
    obtain rfl := leaf.unique leaf'
    obtain ⟨leaf', rfl, rfl, rfl⟩ := extractCertWithValidity_ok.mp validity
    obtain rfl := leaf.unique leaf'
    obtain ⟨entered⟩ := verifyRekorEntry_ok.mp entered
    obtain ⟨fulcioCas', loaded', ca, member, issued⟩ := (verifyFulcio_ok leaf.parsed).mp issued
    obtain rfl := Except.ok.inj (loaded.symm.trans loaded')
    obtain ⟨valid, issuers, present, chain, toRoot⟩ := FulcioCa.issued_iff.mp issued
    -- The payload of the signature is the one of the statement.
    obtain ⟨dsse', payloadB64', payload', envelope', readType', readPayload', decoded', ⟨stated⟩⟩ :=
      extractMeasurement_ok.mp extracted
    obtain rfl := Option.some.inj (envelope.symm.trans envelope')
    obtain rfl := Option.some.inj (readType.symm.trans readType')
    obtain rfl := Option.some.inj (readPayload.symm.trans readPayload')
    obtain rfl := Option.some.inj (decoded.symm.trans decoded')
    obtain ⟨compiled, issuer, repository, workflow⟩ := identity.mp matched
    have endorsed : Endorsed library leaf.cert :=
      ⟨fulcioCas, issuerSpki, ca, issuers, forSigning, loaded, issuerKey, logged, member, valid, present, chain, toRoot⟩
    have identified : Identified library leaf.cert repo tag :=
      ⟨info, identified, compiled, issuer, repository, workflow⟩
    have signed : Signed library bundle leaf.cert payload :=
      ⟨dsse, payloadB64, signatureB64, signatureBytes, signature, key, envelope, readType, readPayload, decoded,
        readSignature, decodedSignature, parsedSignature, parsedKey, signed⟩
    exact ⟨⟨bundleJson, bundle, leaf, payload, latest, digested, fetched, parsed, endorsed, identified, signed, entered,
      stated⟩⟩
  · rintro ⟨provenance⟩
    obtain ⟨bundleJson, bundle, leaf, payload, latest, digest, fetched, parsed, endorsed, identified, signed, entered,
      stated⟩ := provenance
    have verified : verifyDsseSignature library.primitives library.signingLibrary bundle = .ok () :=
      verifyDsseSignature_ok.mpr ⟨signed.key, signingKey_ok.mpr ⟨leaf, endorsed.fulcioCas, endorsed.issuerSpki,
        endorsed.forSigning, endorsed.loaded, endorsed.issuerKey, endorsed.logged, signed.parsedKey⟩, signed.dsse,
        signed.envelope, _, signed.payloadType, _, signed.readPayload, _, signed.readSignature, _, signed.decodedPayload,
        _, signed.decodedSignature, _, signed.parsedSignature, signed.signed⟩
    have matched : verifyCertificateIdentity library.regex identified.info repo result.releaseTag = .ok () :=
      identity.mpr ⟨identified.compiled, identified.issuer, identified.repository, identified.workflow⟩
    have issued : verifyFulcio library leaf.der (library.notBefore leaf.cert) = .ok () :=
      (verifyFulcio_ok leaf.parsed).mpr ⟨endorsed.fulcioCas, endorsed.loaded, endorsed.ca, endorsed.member,
        FulcioCa.issued_iff.mpr ⟨endorsed.valid, endorsed.issuers, endorsed.present, endorsed.chain, endorsed.issued⟩⟩
    have extracted : extractMeasurementFromBundle library bundle result.digest = .ok result.measurement :=
      extractMeasurement_ok.mpr ⟨signed.dsse, _, _, signed.envelope, signed.payloadType, signed.readPayload,
        signed.decodedPayload, ⟨stated⟩⟩
    exact ⟨_, fetchLatestRelease_ok.mpr ⟨_, latest, _, digest, rfl⟩, bundleJson, fetched, bundle, parsed, (), verified,
      _, extractCertificateInfoFromBundle_ok.mpr ⟨leaf, identified.extracted⟩, (), matched, _,
      extractCertWithValidity_ok.mpr ⟨leaf, rfl, rfl, rfl⟩, (), verifyRekorEntry_ok.mpr ⟨entered⟩, (), issued, _,
      extracted, rfl⟩

/-! ## One certificate, one release -/

omit [DecidableEq Name] [DecidableEq Algorithm] [DecidableEq Serial] in
theorem Identified.unique {cert : Certificate} {repo repo' tag tag' : String}
    (identified : Identified library cert repo tag) (identified' : Identified library cert repo' tag') :
    repo = repo' ∧ tag = tag' := by
  obtain ⟨info, extracted, -, -, rfl, workflow⟩ := identified
  obtain ⟨info', extracted', -, -, rfl, workflow'⟩ := identified'
  obtain rfl := Except.ok.inj (extracted.symm.trans extracted')
  exact ⟨rfl, workflow.tag_unique workflow'⟩

omit [DecidableEq Name] [DecidableEq Algorithm] [DecidableEq Serial] in
theorem Stated.unique {payload : Bytes} {digest digest' : String} {measurement measurement' : Measurement}
    (stated : Stated library payload digest measurement) (stated' : Stated library payload digest' measurement') :
    measurement = measurement' ∧ library.toLowercase digest = library.toLowercase digest' := by
  obtain ⟨statement, subject, payloadDigest, parsed, -, first, sha256, same, -, registers, platform⟩ := stated
  obtain ⟨statement', subject', payloadDigest', parsed', -, first', sha256', same', -, registers', platform'⟩ := stated'
  obtain rfl := Except.ok.inj (parsed.symm.trans parsed')
  obtain rfl := Option.some.inj (first.symm.trans first')
  obtain rfl := Option.some.inj (sha256.symm.trans sha256')
  obtain ⟨type, list⟩ := measurement
  obtain ⟨type', list'⟩ := measurement'
  rw [Measurement.mk.injEq]
  exact ⟨⟨platform.trans platform'.symm, Except.ok.inj (registers.symm.trans registers')⟩, same.symm.trans same'⟩

variable (library) in
/-- A repository is verified exactly if its latest release has a bundle with a provenance: all the checks, each of which
reads the bundle again, are about one certificate and one payload.  Whatever the service answers at another time, a
certificate is for one repository and one tag, and a payload says one measurement for one digest. -/
theorem verify_repo_exact (repo : String) (result : SigstoreResult) :
    (verifyRepo library repo = .ok result ↔ Nonempty (Provenance library repo result)) ∧
    ∀ (provenance : Provenance library repo result) github repo' result'
      (provenance' : Provenance { library with github := github } repo' result'),
      (provenance.leaf.cert = provenance'.leaf.cert → repo = repo' ∧ result.releaseTag = result'.releaseTag) ∧
      (provenance.payload = provenance'.payload → result.measurement = result'.measurement ∧
        library.toLowercase result.digest = library.toLowercase result'.digest) := by
  refine ⟨verifyRepo_ok, fun provenance github repo' result' provenance' => ⟨fun same => ?_, fun same => ?_⟩⟩
  · have identified := provenance.identified
    rw [same] at identified
    obtain ⟨info, extracted, compiled, issuer, repository, workflow⟩ := provenance'.identified
    exact identified.unique ⟨info, extracted, compiled, issuer, repository, workflow⟩
  · have stated := provenance.stated
    rw [same] at stated
    obtain ⟨statement, subject, payloadDigest, parsed, type, first, sha256, digest, predicate, registers, platform⟩ :=
      provenance'.stated
    exact stated.unique ⟨statement, subject, payloadDigest, parsed, type, first, sha256, digest, predicate, registers,
      platform⟩

end Verify

/-! ## A release

The bundle has the sample entry, whose certificate and signature are of one byte, and a statement for its payload.
The trust root is given as it is parsed.
-/

namespace Sample

open Der (bigEndian)

def releaseTimestamp : SignedCertificateTimestamp where
  logId := logKeyId
  timestamp := 150000
  extensions := []
  signature := logSignature

/-- A list of one timestamp, in an octet string. -/
def timestampExtension : Extension where
  extnId := ctPrecertSctsOid
  critical := false
  extnValue := [4, 121, 0, 119, 0, 117, 0] ++ logKeyId.val ++ bigEndian 8 150000 ++ [0, 0, 4, 3, 0, 70] ++ logSignature

def releaseTbs : TbsCertificate Bytes where
  rest := leafCertificate.tbs
  extensions := some (releaseExtensions ++ [timestampExtension])

def encodeTbs (tbs : TbsCertificate Bytes) : Bytes :=
  tbs.rest ++ (tbs.extensions.getD []).flatMap Extension.extnValue

def issuerKeyHash : Hash where
  val := bigEndian 32 0x1eea83cf1a2fa83fce945b7e77a8a2b337879e213e512c6b1de9f650c5dda82e
  property := Der.length_bigEndian ..

def releaseStamped : DigitallySigned where
  signatureType := .certificateTimestamp
  timestamp := 150000
  signedEntry := .precertEntry { issuerKeyHash, tbsCertificate := encodeTbs releaseTbs.precert }
  extensions := []
  logId := logKeyId
  signature := logSignature

def releaseKeyring : KeyringLibrary Bytes Bytes :=
  { keyringLibrary with
    sha256 := fun octets => if octets = logSpki then logKeyId else issuerKeyHash
    verify := fun key data signature =>
      key = logSpki.drop 26 ∧ releaseStamped.tlsSerialize = some data ∧ signature = logSignature }

/-- The byte is read as the leaf that the authority of 2023 signed. -/
def releaseCertificates : CmsLibrary Parsed String String Bytes Bytes :=
  { chainLibrary with
    certificateFromDer := fun der => if der = [1] then .ok leafCertificate else chainLibrary.certificateFromDer der
    keyUsage := fun _ => .ok (some true)
    extendedKeyUsage := fun _ => .ok (some [idKpCodeSigning])
    timeStampResp := fun _ => .error "unexpected tag"
    contentInfo := fun _ => .error "unexpected tag"
    signedData := fun _ => .error "unexpected tag"
    tstInfo := fun _ => .error "unexpected tag"
    anyToDer := .ok
    decodeOid := fun _ => .error "unexpected tag"
    decodeOctets := fun _ => .error "unexpected tag"
    attrsToDer := fun _ => .error "overlength"
    serialNumber := fun _ => [3]
    subjectKeyIdentifier := fun _ => .ok none
    basicConstraints := fun _ => .ok none
    criticalKeyUsage := fun _ => false
    notBefore := fun _ => 100
    notAfter := fun _ => 200 }

def epoch : ValidityPeriod := { start := "1970-01-01T00:00:00Z", finish := none }

def releaseRoot : TrustedRoot where
  tlogs := [{
    baseUrl := "https://log"
    publicKey := { rawBytes := b64 rekorKey.keyDer, keyDetails := rekorKey.keyType, validFor := some epoch }
    logId := b64 logId }]
  certificateAuthorities := [{ certChain := [b64 fulcio2023], validFor := epoch }]
  ctlogs := [{ rawBytes := b64 logSpki, keyDetails := "PKIX_ECDSA_P256_SHA_256", validFor := none }]
  timestampAuthorities := []

def tagText : String := "\x7b\"tag_name\":\"release/1.2+3\"\x7d"

def attestationsText : String := "\x7b\"attestations\":[\x7b\"bundle\":" ++ releaseText ++ "\x7d]\x7d"

def releaseTagUrl : String := githubProxy ++ "/repos/owner/repo/releases/latest"

def releaseDigestUrl : String := githubProxy ++ "/owner/repo/releases/download/release/1.2+3/tinfoil.hash"

def attestationsUrl : String := githubProxy ++ "/repos/owner/repo/attestations/sha256:" ++ releaseDigest

def releaseAnswers : List (String × String) :=
  [(releaseTagUrl, tagText), (releaseDigestUrl, releaseDigest ++ "\n"), (attestationsUrl, attestationsText)]

def releaseGithub : GitHubLibrary where
  fetchWithRetry url :=
    match releaseAnswers.lookup url with
    | some text => .ok { success := true, status := "200 OK", body := utf8Bytes text }
    | none => .ok { success := false, status := "404 Not Found", body := [] }
  releaseTag body := if body = utf8Bytes tagText then .ok "release/1.2+3" else .error (.gitHub "expected value")
  text body := if body = utf8Bytes (releaseDigest ++ "\n") then .ok (releaseDigest ++ "\n") else .ok ""
  attestations body := if body = utf8Bytes attestationsText then .ok [releaseBundle] else .error (.gitHub "expected value")
  toVec _ := utf8Bytes releaseText

def predicate : Value :=
  .object [("snp_measurement", .string snpMeasurement),
    ("tdx_measurement", .object [("rtmr1", .string rtmr1), ("rtmr2", .string rtmr2)])]

def statement : InTotoStatement where
  type := "https://in-toto.io/Statement/v1"
  predicateType := multiPlatformPredicate
  predicate
  subject := [{ digest := fun algorithm => if algorithm = "sha256" then some releaseDigest else none }]

def releaseLibrary : ProvenanceLibrary Parsed String String Bytes Bytes Bytes Bytes Bytes Bytes Regex.Expr :=
  { releaseCertificates with
    primitives
    overflowChecks := false
    github := releaseGithub
    trustedRootJson := "\x7b\x7d"
    trustedRoot :=
      { fromStr := fun _ => .ok releaseRoot
        parseRfc3339 := fun text => if text = epoch.start then .ok 0 else .error "invalid time" }
    keyFromSec1Bytes := .ok
    signatureFromDer := fun _ => .error "malformed signature"
    signatureFromSlice := fun octets => if octets = [1] then .ok signature else .error "malformed signature"
    verify := fun key message made =>
      if key = leafCertificate.spki.drop 26 ∧ message = computePae inTotoPayloadType (utf8Bytes statementText) ∧
          made.r = signature.r then .ok () else .error "signature error"
    ctlogKeys := releaseKeyring
    tbsCertificate := fun cert => if cert = leafCertificate then releaseTbs else { rest := cert.tbs, extensions := none }
    encodeTbs
    parseTimestamps := fun value =>
      if value = timestampExtension.extnValue then .ok [releaseTimestamp] else .error (.der "unexpected tag")
    strings := stringLibrary
    regex := regexLibrary
    documented := regexLibrary_documented
    parseStatement := fun payload =>
      if payload = utf8Bytes statementText then .ok statement else .error "expected value"
    toLowercase := String.toLower }

def releaseResult : SigstoreResult where
  measurement := { type := .snpTdxMultiPlatformV1, registers := [snpMeasurement, rtmr1, rtmr2] }
  digest := releaseDigest
  releaseTag := "release/1.2+3"

def releaseLeaf : Leaf releaseLibrary releaseBundle where
  certB64 := "AQ=="
  der := [1]
  cert := leafCertificate
  read := rfl
  decoded := by decide
  parsed := rfl

/-! ### The downloads -/

theorem fetchAttestationBundle_of {github : GitHubLibrary} {repo digest : String} {response : Response} {bundle : Value}
    (fetched :
      github.fetchWithRetry (githubProxy ++ "/repos/" ++ repo ++ "/attestations/sha256:" ++ digest) = .ok response)
    (success : response.success = true) (read : github.attestations response.body = .ok [bundle]) :
    fetchAttestationBundle github repo digest = .ok (github.toVec bundle) := by
  simp [fetchAttestationBundle, fetched, success, read, ensureGitHub, bind, Except.bind, pure, Except.pure]

theorem releaseAnswered : releaseAnswers.lookup attestationsUrl = some attestationsText := by
  have others : (attestationsUrl == releaseTagUrl) = false ∧ (attestationsUrl == releaseDigestUrl) = false := by
    decide
  simp only [releaseAnswers, List.lookup_cons, others, beq_self_eq_true]

theorem releaseDownloads :
    fetchLatestTag releaseGithub "owner/repo" = .ok releaseResult.releaseTag ∧
      fetchDigest releaseGithub "owner/repo" releaseResult.releaseTag = .ok releaseDigest ∧
      fetchAttestationBundle releaseGithub "owner/repo" releaseDigest = .ok (utf8Bytes releaseText) := by
  have url : githubProxy ++ "/repos/" ++ "owner/repo" ++ "/attestations/sha256:" ++ releaseDigest = attestationsUrl := by
    decide
  have fetched : releaseGithub.fetchWithRetry attestationsUrl =
      .ok { success := true, status := "200 OK", body := utf8Bytes attestationsText } := by
    simp only [releaseGithub, releaseAnswered]
  have read : releaseGithub.attestations (utf8Bytes attestationsText) = .ok [releaseBundle] := by
    simp only [releaseGithub, if_true]
  rw [← url] at fetched
  exact ⟨by decide, by decide, fetchAttestationBundle_of fetched rfl read⟩

/-- The texts of the bundle and of the entry begin differently. -/
theorem releaseText_ne (rest : String) : utf8Bytes ("\x7b\"dsseEnvelope\":\x7b\"payload\":\"" ++ rest) ≠ bodyBytes := by
  intro same
  have split : utf8Bytes ("\x7b\"dsseEnvelope\":\x7b\"payload\":\"" ++ rest) =
      utf8Bytes "\x7b\"dsseEnvelope\":\x7b\"payload\":\"" ++ utf8Bytes rest := by
    simp only [utf8Bytes, String.toByteArray_append, ByteArray.data_append, Array.toList_append]
  have starts := congrArg (List.take 3) same
  rw [split, List.take_append_of_le_length (by decide)] at starts
  revert starts
  decide

theorem releaseParsed : primitives.fromSlice (utf8Bytes releaseText) = .ok releaseBundle := by
  have other : utf8Bytes releaseText ≠ bodyBytes := releaseText_ne releaseRest
  simp only [primitives, other, if_false, if_true]

/-! ### The trust root -/

def releaseAuthority : FulcioCa := { certChainDer := [fulcio2023], validFrom := 0, validUntil := none }

theorem mapM_singleton {α β : Type} {call : α → Except Error β} {item : α} {result : β}
    (called : call item = .ok result) : [item].mapM call = .ok [result] := by
  simp [called, bind, Except.bind, pure, Except.pure]

theorem parsedEpoch : parseRfc3339ToUnix releaseLibrary.trustedRoot epoch.start = .ok 0 := rfl

theorem loadedCa : CertificateAuthority.load releaseLibrary.trustedRoot primitives
    { certChain := [b64 fulcio2023], validFor := epoch } = .ok releaseAuthority := by
  simp only [CertificateAuthority.load, bind_ok]
  exact ⟨_, mapM_singleton (decodeB64_b64 _ _ _), _, parsedEpoch, _, rfl, rfl⟩

theorem releaseAuthorities : releaseLibrary.fulcioCas = .ok [releaseAuthority] :=
  bind_ok.mpr ⟨releaseRoot, rfl, mapM_singleton loadedCa⟩

def releaseKey : KeyEntry := { spkiDer := logSpki, validFrom := none, validUntil := none }

theorem releaseEntries :
    loadCtlogEntries releaseLibrary.trustedRoot primitives releaseLibrary.trustedRootJson = .ok [releaseKey] := by
  refine bind_ok.mpr ⟨releaseRoot, rfl, mapM_singleton ?_⟩
  simp only [PublicKeyInfo.load, bind_ok]
  exact ⟨_, decodeB64_b64 _ _ _, (none, none), rfl, rfl⟩

theorem releaseRekorKeys :
    loadRekorKeys releaseLibrary.trustedRoot primitives releaseLibrary.trustedRootJson = .ok [rekorKey] := by
  have host : hostOf "https://log" = "log" := by decide
  refine bind_ok.mpr ⟨releaseRoot, rfl, mapM_singleton ?_⟩
  simp only [Tlog.load, bind_ok]
  refine ⟨_, decodeB64_b64 _ _ _, (some 0, none), rfl, ?_⟩
  simp only [host]
  rfl

/-! ### The checks -/

theorem releaseLogged : Logged releaseLibrary.sctLibrary leafCertificate spki2023 := by
  have named : releaseKey.key releaseKeyring =
      .ok { inner := logSpki.drop 26, fingerprint := logKeyId, validFrom := none, validUntil := none } := by
    decide
  obtain ⟨payload, written⟩ : ∃ payload, releaseStamped.tlsSerialize = some payload :=
    Option.isSome_iff_exists.mp (by decide +kernel)
  have vouches : releaseKey.Vouches releaseKeyring logKeyId logSignature payload 150 :=
    ⟨_, named, rfl, rfl, logSignature, by decide, by simp [releaseKeyring, written]⟩
  obtain ⟨keyring, loaded, verified⟩ := loadCtlogKeyring_accepts.mpr ⟨_, releaseEntries,
    by simpa [KeyEntry.Supported] using ⟨_, named⟩, [], _, [], rfl, vouches, by simp⟩
  refine ⟨[releaseTimestamp], ?_, by simp, keyring, loaded, releaseTimestamp, by simp, payload, ?_,
    verifyAt_ok.mp verified⟩
  · decide +kernel
  · have issuer : releaseLibrary.sctLibrary.sha256 spki2023 = issuerKeyHash := by decide
    have signed : digitallySigned releaseLibrary.sctLibrary leafCertificate issuerKeyHash releaseTimestamp =
      releaseStamped := by decide +kernel
    rw [issuer, signed]
    exact written

theorem releaseIssued :
    findIssuerSpki releaseLibrary.toCertificateLibrary [releaseAuthority] leafCertificate = .ok spki2023 ∧
      releaseAuthority.issued releaseLibrary.toChainLibrary leafCertificate 100 := by
  decide +kernel

theorem releaseInfo : extractCertificateInfo releaseLibrary.strings (releaseLibrary.tbsCertificate leafCertificate) =
    .ok certificateInfo := by
  decide +kernel

theorem releasePattern : (workflowPattern regexLibrary "owner/repo" "release/1.2+3").length ≤ 1000 := by
  decide

theorem releaseEntered : Nonempty (Entered releaseLibrary releaseBundle leafCertificate) := by
  have parsed : parseU64 "3" = some 3 := by decide
  exact ⟨[rekorKey], [], releaseRekorKeys, rfl,
    (sealedAcceptance _ _ .three parsed (included (.inl rfl))).withTimestamps rfl⟩

theorem releaseEndorsed : Nonempty (Endorsed releaseLibrary leafCertificate) := by
  obtain ⟨issuerKey, held⟩ := releaseIssued
  obtain ⟨valid, issuers, present, chain, issued⟩ := FulcioCa.issued_iff.mp held
  exact ⟨{
    fulcioCas := [releaseAuthority]
    issuerSpki := spki2023
    ca := releaseAuthority
    issuers
    forSigning := by decide
    loaded := releaseAuthorities
    logged := releaseLogged
    member := List.mem_cons_self
    issuerKey, valid, present, chain, issued }⟩

theorem releaseIdentified : Nonempty (Identified releaseLibrary leafCertificate "owner/repo" "release/1.2+3") :=
  ⟨{
    info := certificateInfo
    extracted := releaseInfo
    compiled := regexLibrary_documented.new _ _ (parse_workflowPattern regexLibrary_documented _ _) releasePattern
    issuer := rfl
    repository := rfl
    workflow := ⟨"release.yml", by decide, by decide, by decide⟩ }⟩

theorem releaseSigned : Nonempty (Signed releaseLibrary releaseBundle leafCertificate (utf8Bytes statementText)) :=
  ⟨{
    dsse := .object [("payload", .string (b64 (utf8Bytes statementText))),
      ("payloadType", .string "application/vnd.in-toto+json"), ("signatures", .array [.object [("sig", .string "AQ==")]])]
    payloadB64 := b64 (utf8Bytes statementText)
    signatureB64 := "AQ=="
    signatureBytes := [1]
    signature
    key := leafCertificate.spki.drop 26
    envelope := rfl
    payloadType := rfl
    readPayload := rfl
    decodedPayload := by rw [b64, String.toList_ofList, Base64.decode_encode]
    readSignature := rfl
    decodedSignature := by decide
    parsedSignature := rfl
    parsedKey := rfl
    signed := by simp [releaseLibrary] }⟩

theorem releaseStated :
    Nonempty (Stated releaseLibrary (utf8Bytes statementText) releaseDigest releaseResult.measurement) :=
  ⟨{
    statement
    subject := { digest := fun algorithm => if algorithm = "sha256" then some releaseDigest else none }
    payloadDigest := releaseDigest
    parsed := by simp [releaseLibrary]
    type := rfl
    first := rfl
    sha256 := rfl
    digest := rfl
    predicate := rfl
    registers := rfl
    platform := rfl }⟩

end Sample

/-- The release is verified. -/
theorem verify_repo_sample :
    verifyRepo Sample.releaseLibrary "owner/repo" = .ok Sample.releaseResult := by
  obtain ⟨latest, digest, fetched⟩ := Sample.releaseDownloads
  obtain ⟨endorsed⟩ := Sample.releaseEndorsed
  obtain ⟨identified⟩ := Sample.releaseIdentified
  obtain ⟨signed⟩ := Sample.releaseSigned
  obtain ⟨entered⟩ := Sample.releaseEntered
  obtain ⟨stated⟩ := Sample.releaseStated
  exact (verify_repo_exact Sample.releaseLibrary "owner/repo" Sample.releaseResult).1.mpr
    ⟨{ bundleJson := utf8Bytes Sample.releaseText
       bundle := Sample.releaseBundle
       leaf := Sample.releaseLeaf
       payload := utf8Bytes Sample.statementText
       latest, digest, fetched, endorsed, identified, signed, entered, stated
       parsed := Sample.releaseParsed }⟩

end Tinfoil.Sigstore
