import Tinfoil.Sev.Vcek

/-! # The certificate chain of a VCEK

The VCEK is signed by ASK, which is signed by ARK, whose key is pinned.  Parsing and the RSA scheme are
the library's.
-/

namespace Tinfoil.Sev

/-! ## Certificates -/

inductive Tag where
  | utf8String
  | printableString
  | ia5String
  | teletexString
  | other (name : String)
  deriving DecidableEq, Repr

structure AttributeValue where
  tag : Tag
  value : Bytes
  deriving DecidableEq, Repr

/-- The attributes of the relative names in their order, by object identifier. -/
abbrev DistinguishedName := List (List (String × AttributeValue))

structure AlgorithmIdentifier where
  oid : String
  /-- In DER. -/
  parameters : Option Bytes
  deriving DecidableEq, Repr

inductive Version where
  | v1
  | v2
  | v3
  deriving DecidableEq, Repr

structure ChainCertificate where
  version : Version
  /-- Of `tbs_certificate`. -/
  signature : AlgorithmIdentifier
  issuer : DistinguishedName
  subject : DistinguishedName
  notBefore : Nat
  notAfter : Nat
  keyAlgorithm : AlgorithmIdentifier
  /-- `subject_public_key_info.to_der()` -/
  spki : Except String Bytes
  /-- Of the extension, where there is one: whether the certificate is one of a CA. -/
  basicConstraints : Except String (Option Bool)
  /-- `tbs_certificate.to_der()` -/
  tbs : Except String Bytes
  signatureAlgorithm : AlgorithmIdentifier
  signatureBytes : Bytes

structure RsaPssParams where
  hash : String
  maskGen : String
  maskGenHash : Option String
  saltLen : Nat

structure ChainLibrary (RsaKey RsaSignature : Type) extends CertificateLibrary where
  /-- `Certificate::from_der` -/
  certificate : Bytes → Except String ChainCertificate
  /-- `pem::parse_many` -/
  parsePem : Bytes → Except String (List Bytes)
  /-- The text of an attribute value with the tag of a string. -/
  stringFromAny : AttributeValue → Except String String
  /-- `decode_as::<ObjectIdentifier>`, for algorithm parameters. -/
  objectIdentifier : Bytes → Option String
  /-- `Any::to_der` -/
  reencode : Bytes → Except String Bytes
  rsaPssParams : Bytes → Except String RsaPssParams
  /-- `RsaPublicKey::from_public_key_der` -/
  rsaPublicKey : Bytes → Except String RsaKey
  /-- `pss::Signature::try_from` -/
  rsaSignature : Bytes → Except String RsaSignature
  /-- With a salt of the given length and SHA-384. -/
  verifyPss : RsaKey → Nat → Bytes → RsaSignature → Except String Unit
  sha256 : Bytes → Bytes

section Chain

variable {RsaKey RsaSignature : Type} (library : ChainLibrary RsaKey RsaSignature)

/-! ## Names -/

def decodeDirectoryString (value : AttributeValue) : Except Error String :=
  match value.tag with
  | .utf8String => orFailAttestation "Invalid UTF8String: " (library.stringFromAny value)
  | .printableString => orFailAttestation "Invalid PrintableString: " (library.stringFromAny value)
  | .ia5String => orFailAttestation "Invalid IA5String: " (library.stringFromAny value)
  | .teletexString => orFailAttestation "Invalid TeletexString: " (library.stringFromAny value)
  | .other name => failAttestation ("Unsupported X.509 name attribute tag: " ++ name)

def extractNameAttr (name : DistinguishedName) (oid : String) : Option (Except Error String) :=
  (name.flatten.lookup oid).map (decodeDirectoryString library)

def requireNameAttr (name : DistinguishedName) (oid certName attrLabel expected : String) : Except Error Unit := do
  let value ← match extractNameAttr library name oid with
    | none => failAttestation (certName ++ " certificate missing " ++ attrLabel ++ " attribute")
    | some (.error error) =>
      failAttestation (certName ++ " certificate has invalid " ++ attrLabel ++ " attribute: " ++ error.display)
    | some (.ok value) => .ok value
  ensure (value = expected)
    (certName ++ " certificate " ++ attrLabel ++ " is not " ++ library.debugStr expected ++ ": " ++
      library.debugStr value)

def validateAmdLocation (name : DistinguishedName) (certName : String) : Except Error Unit := do
  requireNameAttr library name "2.5.4.6" certName "country" "US"
  requireNameAttr library name "2.5.4.8" certName "state" "CA"
  requireNameAttr library name "2.5.4.7" certName "locality" "Santa Clara"
  requireNameAttr library name "2.5.4.10" certName "organization" "Advanced Micro Devices"
  requireNameAttr library name "2.5.4.11" certName "organizational unit" "Engineering"

def extractCn (name : DistinguishedName) : Except Error String :=
  match extractNameAttr library name "2.5.4.3" with
  | none => failAttestation "No CN found in certificate"
  | some cn => cn

def requireCn (name : DistinguishedName) (certName expected : String) : Except Error Unit := do
  let cn ← extractCn library name
  ensure (cn = expected) ("Unexpected " ++ certName ++ " CN: " ++ cn ++ ", expected " ++ expected)

/-! ## One certificate -/

/-- The clock is read in seconds after the epoch. -/
def validateCertificateValidity (now : Option Nat) (cert : ChainCertificate) (certName : String) :
    Except Error Unit := do
  let now ← requireSome now "System time before Unix epoch"
  ensure (¬ now < cert.notBefore)
    (certName ++ " certificate is not yet valid (current time " ++ toString now ++ " < notBefore " ++
      toString cert.notBefore ++ ")")
  ensure (¬ now > cert.notAfter)
    (certName ++ " certificate has expired (current time " ++ toString now ++ " > notAfter " ++
      toString cert.notAfter ++ ")")

def validateBasicConstraints (cert : ChainCertificate) (certName : String) (expectCa : Bool) : Except Error Unit :=
  match cert.basicConstraints with
  | .ok (some ca) =>
    if expectCa ∧ ¬ ca then failAttestation (certName ++ " certificate missing CA:true in BasicConstraints")
    else if ¬ expectCa ∧ ca then failAttestation (certName ++ " leaf certificate has CA:true (expected leaf)")
    else .ok ()
  | .ok none =>
    if expectCa then failAttestation (certName ++ " certificate missing BasicConstraints extension") else .ok ()
  | .error error => failAttestation ("Failed to parse " ++ certName ++ " BasicConstraints: " ++ error)

def validateSignatureAlgorithmConsistency (cert : ChainCertificate) (certName : String) : Except Error Unit :=
  ensure (cert.signatureAlgorithm = cert.signature)
    (certName ++ " certificate outer signature_algorithm does not match inner tbs.signature")

def requireV3 (cert : ChainCertificate) (certName : String) : Except Error Unit :=
  ensure (cert.version = .v3) (certName ++ " certificate version is not v3")

def validateVcekKey (cert : ChainCertificate) : Except Error Unit := do
  ensure (cert.keyAlgorithm.oid = "1.2.840.10045.2.1") ("VCEK public key is not EC: " ++ cert.keyAlgorithm.oid)
  let params ← requireSome cert.keyAlgorithm.parameters "VCEK public key missing curve parameters"
  let curveOid ← requireSome (library.objectIdentifier params) "Failed to parse VCEK curve OID"
  ensure (curveOid = "1.3.132.0.34") ("VCEK public key curve is not P-384: " ++ curveOid)

/-! ## Signatures -/

def oidSha384 : String := "2.16.840.1.101.3.4.2.2"

def parseRsaPssSha384SaltLen (alg : AlgorithmIdentifier) (certName : String) : Except Error Nat := do
  ensure (alg.oid = "1.2.840.113549.1.1.10")
    (certName ++ " certificate signature algorithm is not RSASSA-PSS: " ++ alg.oid)
  let paramsAny ← requireSome alg.parameters (certName ++ " RSASSA-PSS parameters are absent")
  let paramsDer ← orFailAttestation (certName ++ " RSASSA-PSS parameters DER re-encode failed: ")
    (library.reencode paramsAny)
  let params ← orFailAttestation (certName ++ " RSASSA-PSS parameters decode failed: ")
    (library.rsaPssParams paramsDer)
  ensure (params.hash = oidSha384) (certName ++ " RSASSA-PSS hash algorithm is not SHA-384: " ++ params.hash)
  ensure (params.maskGen = "1.2.840.113549.1.1.8")
    (certName ++ " RSASSA-PSS mask generation function is not MGF1: " ++ params.maskGen)
  ensure (params.maskGenHash = some oidSha384) (certName ++ " RSASSA-PSS MGF1 hash algorithm is not SHA-384")
  return params.saltLen

def verifyRsaPssSignature (tbsDer signature signerSpkiDer : Bytes) (saltLen : Nat) (context : String) :
    Except Error Unit := do
  let rsaPubkey ← orFailAttestation ("Invalid RSA public key for " ++ context ++ ": ")
    (library.rsaPublicKey signerSpkiDer)
  let sig ← orFailAttestation ("Invalid signature format for " ++ context ++ ": ") (library.rsaSignature signature)
  orFailAttestation (context ++ " verification failed: ") (library.verifyPss rsaPubkey saltLen tbsDer sig)

def verifySignedBy (cert : ChainCertificate) (signerSpkiDer : Bytes) (certName context : String) :
    Except Error Unit := do
  let tbs ← orFailAttestation "Failed to encode TBS: " cert.tbs
  let salt ← parseRsaPssSha384SaltLen library cert.signatureAlgorithm certName
  verifyRsaPssSignature library tbs cert.signatureBytes signerSpkiDer salt context

/-! ## The chain -/

def amdArkGenoaSpkiFingerprint : String := "429a69c9422aa258ee4d8db5fcda9c6470ef15f8cd5a9cebd6cbc7d90b863831"

def computeSpkiFingerprint (cert : ChainCertificate) : Except Error String := do
  let spkiDer ← orFailAttestation "Failed to encode SPKI: " cert.spki
  return hexEncode (library.sha256 spkiDer)

def validateArkFingerprint (ark : ChainCertificate) : Except Error Unit := do
  let arkFingerprint ← computeSpkiFingerprint library ark
  ensure (arkFingerprint = amdArkGenoaSpkiFingerprint)
    ("ARK public key fingerprint mismatch! Expected: " ++ amdArkGenoaSpkiFingerprint ++ ", Got: " ++ arkFingerprint ++
      ". This could indicate a MITM attack or AMD has rotated their root key.")

def parsePemChain (chainPem : Bytes) : Except Error (List Bytes) :=
  orFailAttestation "Failed to parse PEM chain: " (library.parsePem chainPem)

def askAndArk (chainPem : Bytes) : Except Error (ChainCertificate × ChainCertificate) := do
  match ← parsePemChain library chainPem with
  | askDer :: arkDer :: _ =>
    let ask ← orFailAttestation "Failed to parse ASK: " (library.certificate askDer)
    let ark ← orFailAttestation "Failed to parse ARK: " (library.certificate arkDer)
    return (ask, ark)
  | _ => failAttestation "Certificate chain should contain ASK and ARK"

def verifyCertChainCrypto (now : Option Nat) (vcekDer certChainPem : Bytes) : Except Error Unit := do
  let vcek ← orFailAttestation "Failed to parse VCEK: " (library.certificate vcekDer)
  requireV3 vcek "VCEK"
  validateVcekKey library vcek
  let (ask, ark) ← askAndArk library certChainPem
  requireV3 ark "ARK"
  requireV3 ask "ASK"
  validateCertificateValidity now vcek "VCEK"
  validateCertificateValidity now ask "ASK"
  validateCertificateValidity now ark "ARK"
  validateBasicConstraints ark "ARK" true
  validateBasicConstraints ask "ASK" true
  validateBasicConstraints vcek "VCEK" false
  -- The root is known by its digest; the other two follow from it by name and signature.
  validateArkFingerprint library ark
  ensure (vcek.issuer = ask.subject) "VCEK issuer does not match ASK subject"
  ensure (ask.issuer = ark.subject) "ASK issuer does not match ARK subject"
  ensure (ark.issuer = ark.subject) "ARK is not self-signed"
  requireCn library ark.subject "ARK" "ARK-Genoa"
  requireCn library ask.subject "ASK" "SEV-Genoa"
  requireCn library vcek.subject "VCEK" "SEV-VCEK"
  validateAmdLocation library ark.subject "ARK"
  validateAmdLocation library ask.subject "ASK"
  validateAmdLocation library vcek.subject "VCEK"
  validateSignatureAlgorithmConsistency ark "ARK"
  validateSignatureAlgorithmConsistency ask "ASK"
  validateSignatureAlgorithmConsistency vcek "VCEK"
  let arkPubkey ← orFailAttestation "Failed to encode SPKI: " ark.spki
  verifySignedBy library ark arkPubkey "ARK" "ARK self-signature"
  verifySignedBy library ask arkPubkey "ASK" "ASK signature"
  let askPubkey ← orFailAttestation "Failed to encode SPKI: " ask.spki
  verifySignedBy library vcek askPubkey "VCEK" "VCEK signature"

/-! ## What acceptance guarantees -/

variable {library}

theorem validateCertificateValidity_ok {now : Option Nat} {cert : ChainCertificate} {certName : String}
    {result : Unit} : validateCertificateValidity now cert certName = .ok result ↔
      ∃ time, now = some time ∧ cert.notBefore ≤ time ∧ time ≤ cert.notAfter := by
  simp only [validateCertificateValidity, bind_ok, requireSome_ok, ensure_ok, exists_const, gt_iff_lt, Nat.not_lt]

theorem validity_of_chain {now : Option Nat} {vcekDer certChainPem : Bytes}
    (accepted : verifyCertChainCrypto library now vcekDer certChainPem = .ok ()) :
    ∃ vcek time, library.certificate vcekDer = .ok vcek ∧ now = some time ∧ vcek.notBefore ≤ time ∧
      time ≤ vcek.notAfter := by
  simp only [verifyCertChainCrypto, bind_ok, orFailAttestation_ok, validateCertificateValidity_ok] at accepted
  obtain ⟨vcek, parsed, _, _, _, _, chain, _, _, _, _, _, _, ⟨time, clock, started, ended⟩, -⟩ := accepted
  exact ⟨vcek, time, parsed, clock, started, ended⟩

end Chain

end Tinfoil.Sev
