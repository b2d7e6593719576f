import Tinfoil.Attestation.Verify
import Tinfoil.Dcode

/-! # The certificate of the enclave

The enclave's own TLS certificate has the attested key, and its names carry the HPKE key and the hash of the
attestation document.  `tls_binding_exact` says which certificates pass, and that each of them passes for one document.
-/

namespace Tinfoil.Client

open Attestation (AttestationDocument)
open Attestation.Measurement (Collision)
open Dcode (San decodeFromSans Carries)

inductive GeneralName where
  | dnsName (san : San)
  | other
  deriving DecidableEq

structure TlsLibrary (Certificate : Type) where
  /-- `TcpStream::connect`, to port 443. -/
  connect : (host : String) → Except String Unit
  isServerName : String → Bool
  /-- Under the root certificates of the web: the peer's certificates. -/
  handshake : (host : String) → Except String (Option (List Bytes))
  certificateFromDer : Bytes → Except String Certificate
  /-- The object identifier of the public key's algorithm. -/
  keyAlgorithm : Certificate → String
  /-- `subject_public_key_info.to_der()` -/
  spki : Certificate → Except String Bytes
  subjectAltName : Certificate → Except String (Option (List GeneralName))
  base32Decode : List Char → Option Bytes
  base32Inverse : ∀ bytes, base32Decode (Base32.encode bytes) = some bytes
  sha256 : Bytes → Bytes
  sha256Length : ∀ bytes, (sha256 bytes).length = 32

theorem fromUtf8_eq_some {bytes : Bytes} {text : String} :
    String.fromUTF8? bytes.toByteArray = some text ↔ bytes = utf8Bytes text := by
  have written : (utf8Bytes text).toByteArray = text.toByteArray := by
    apply ByteArray.ext
    simp [utf8Bytes]
  constructor
  · intro read
    rw [String.fromUTF8?, Option.dite_none_right_eq_some] at read
    obtain ⟨valid, same⟩ := read
    rw [← List.toByteArray_inj, written, ← Option.some.inj same]
    rfl
  · rintro rfl
    rw [written, String.fromUTF8?, dif_pos text.isValidUTF8]
    rfl

/-- `Error::Tls`, with the text of a library error behind its context. -/
def orTls {α : Type} (context : String) : Except String α → Except Error α
  | .ok value => .ok value
  | .error error => .error (.tls (context ++ error))

@[simp] theorem orTls_ok {α : Type} {context : String} {call : Except String α} {value : α} :
    orTls context call = .ok value ↔ call = .ok value := by
  cases call <;> simp [orTls]

def tlsSome {α : Type} (value : Option α) (message : String) : Except Error α :=
  match value with
  | some value => .ok value
  | none => .error (.tls message)

@[simp] theorem tlsSome_ok {α : Type} {value : Option α} {message : String} {result : α} :
    tlsSome value message = .ok result ↔ value = some result := by
  cases value <;> simp [tlsSome]

def ensureElse (condition : Prop) [Decidable condition] (error : Error) : Except Error Unit :=
  if condition then .ok () else .error error

@[simp] theorem ensureElse_ok {condition : Prop} [Decidable condition] {error : Error} {result : Unit} :
    ensureElse condition error = .ok result ↔ condition := by
  by_cases holds : condition <;> simp [ensureElse, holds]

section Binding

variable {Certificate : Type} (library : TlsLibrary Certificate)

def certPubkeyFingerprint (certDer : Bytes) : Except Error String := do
  let cert ← orTls "Failed to parse certificate: " (library.certificateFromDer certDer)
  let spkiDer ← orTls "Failed to encode SPKI: " (library.spki cert)
  return hexEncode (library.sha256 spkiDer)

def oidEcPublicKey : String := "1.2.840.10045.2.1"

/-- The DNS names.  Names that cannot be read are no names. -/
def dnsSans (cert : Certificate) : List San :=
  match library.subjectAltName cert with
  | .ok (some names) => names.filterMap fun
    | .dnsName san => some san
    | .other => none
  | _ => []

/-- Attestations without a key have zeros in its place. -/
def isAllZeros (key : String) : Bool := key.toList.all (· == '0')

def verifyHpkeSans (sans : List San) (expectedHpkeKey : Option String) : Except Error Unit :=
  match expectedHpkeKey with
  | none => .ok ()
  | some expectedHpke =>
    if isAllZeros expectedHpke then .ok ()
    else do
      let hpkeBytes ← tlsSome (decodeFromSans library.base32Decode sans "hpke".toList)
        "Certificate SANs do not contain HPKE key (.hpke. entries)"
      let actualHpke := hexEncode hpkeBytes
      ensureElse (actualHpke = expectedHpke)
        (.tls ("HPKE key mismatch: certificate SAN has " ++ actualHpke ++ ", attestation has " ++ expectedHpke))

def verifyDocumentSans (sans : List San) (attestationDoc : AttestationDocument) : Except Error Unit := do
  let hashBytes ← tlsSome (decodeFromSans library.base32Decode sans "hatt".toList)
    "Certificate SANs do not contain attestation hash (.hatt. entries)"
  let actualHash ← tlsSome (String.fromUTF8? hashBytes.toByteArray) "Invalid UTF-8 in attestation hash SAN"
  let expectedHash := attestationDoc.hash library.sha256
  ensureElse (actualHash = expectedHash)
    (.tls ("Attestation hash mismatch: certificate SAN has " ++ actualHash ++ ", computed " ++ expectedHash))

def peerCertificate (host : String) : Except Error Bytes := do
  orTls "Failed to connect: " (library.connect host)
  ensureElse (library.isServerName host = true) (.tls "Invalid server name")
  let shown ← orTls "TLS handshake failed: " (library.handshake host)
  let certs ← tlsSome shown "No peer certificates"
  tlsSome certs.head? "Empty certificate chain"

def verifyTlsBinding (host expectedFingerprint : String) (expectedHpkeKey : Option String)
    (attestationDoc : AttestationDocument) : Except Error Unit := do
  let certDer ← peerCertificate library host
  let peerCert ← orTls "Failed to parse peer certificate: " (library.certificateFromDer certDer)
  ensureElse (library.keyAlgorithm peerCert = oidEcPublicKey)
    (.tls ("TLS peer certificate key is not ECDSA (algorithm OID: " ++ library.keyAlgorithm peerCert ++ ")"))
  let actualFingerprint ← certPubkeyFingerprint library certDer
  ensureElse (actualFingerprint = expectedFingerprint) .certificateMismatch
  let sans := dnsSans library peerCert
  verifyHpkeSans library sans expectedHpkeKey
  verifyDocumentSans library sans attestationDoc

/-! ## Bound certificates -/

/-- A certificate for an EC key with the fingerprint, whose names say the HPKE key, if there is one, and the hash. -/
structure Bound (cert : Certificate) (fingerprint : String) (hpkeKey : Option String) (doc : AttestationDocument) :
    Prop where
  ec : library.keyAlgorithm cert = oidEcPublicKey
  key : ∃ spki, library.spki cert = .ok spki ∧ hexEncode (library.sha256 spki) = fingerprint
  hpke : ∀ key, hpkeKey = some key → isAllZeros key = false →
    ∃ bytes, decodeFromSans library.base32Decode (dnsSans library cert) "hpke".toList = some bytes ∧ hexEncode bytes = key
  document : decodeFromSans library.base32Decode (dnsSans library cert) "hatt".toList =
    some (utf8Bytes (doc.hash library.sha256))

structure Shows (host : String) (certDer : Bytes) (cert : Certificate) : Prop where
  connected : library.connect host = .ok ()
  named : library.isServerName host = true
  shown : ∃ rest, library.handshake host = .ok (some (certDer :: rest))
  parsed : library.certificateFromDer certDer = .ok cert

variable {library}

theorem verifyHpkeSans_ok {sans : List San} {hpkeKey : Option String} {result : Unit} :
    verifyHpkeSans library sans hpkeKey = .ok result ↔
      ∀ key, hpkeKey = some key → isAllZeros key = false →
        ∃ bytes, decodeFromSans library.base32Decode sans "hpke".toList = some bytes ∧ hexEncode bytes = key := by
  cases hpkeKey with
  | none => simp [verifyHpkeSans]
  | some key =>
    by_cases zeros : isAllZeros key
    · simp [verifyHpkeSans, zeros]
    · simp [verifyHpkeSans, zeros, bind_ok]

/-- Text is read from the bytes of the hash only. -/
theorem verifyDocumentSans_ok {sans : List San} {doc : AttestationDocument} {result : Unit} :
    verifyDocumentSans library sans doc = .ok result ↔
      decodeFromSans library.base32Decode sans "hatt".toList = some (utf8Bytes (doc.hash library.sha256)) := by
  simp only [verifyDocumentSans, bind_ok, tlsSome_ok, ensureElse_ok]
  constructor
  · rintro ⟨hashBytes, found, actualHash, read, rfl⟩
    rw [found, fromUtf8_eq_some.mp read]
  · intro found
    exact ⟨_, found, _, fromUtf8_eq_some.mpr rfl, rfl⟩

theorem certPubkeyFingerprint_ok {certDer : Bytes} {cert : Certificate} {fingerprint : String}
    (parsed : library.certificateFromDer certDer = .ok cert) :
    certPubkeyFingerprint library certDer = .ok fingerprint ↔
      ∃ spki, library.spki cert = .ok spki ∧ hexEncode (library.sha256 spki) = fingerprint := by
  simp [certPubkeyFingerprint, bind_ok, parsed, pure, Except.pure]

theorem verifyTlsBinding_ok {host fingerprint : String} {hpkeKey : Option String} {doc : AttestationDocument}
    {result : Unit} :
    verifyTlsBinding library host fingerprint hpkeKey doc = .ok result ↔
      ∃ certDer cert, Shows library host certDer cert ∧ Bound library cert fingerprint hpkeKey doc := by
  simp only [verifyTlsBinding, peerCertificate, bind_ok, orTls_ok, tlsSome_ok, ensureElse_ok, verifyHpkeSans_ok,
    verifyDocumentSans_ok, List.head?_eq_some_iff]
  constructor
  · rintro ⟨certDer, ⟨_, connected, _, named, _, shown, _, rfl, rest, rfl⟩, cert, parsed, _, ec, _, key, _, rfl, _, hpke,
      document⟩
    exact ⟨certDer, cert, ⟨connected, named, ⟨rest, shown⟩, parsed⟩,
      ⟨ec, (certPubkeyFingerprint_ok parsed).mp key, hpke, document⟩⟩
  · rintro ⟨certDer, cert, ⟨connected, named, ⟨rest, shown⟩, parsed⟩, ⟨ec, key, hpke, document⟩⟩
    exact ⟨certDer, ⟨(), connected, (), named, _, shown, _, rfl, rest, rfl⟩, cert, parsed, (), ec, _,
      (certPubkeyFingerprint_ok parsed).mpr key, (), rfl, (), hpke, document⟩

namespace Bound

variable {cert : Certificate} {fingerprint fingerprint' : String} {hpkeKey hpkeKey' : Option String}
  {doc doc' : AttestationDocument}

theorem fingerprint_unique (bound : Bound library cert fingerprint hpkeKey doc)
    (bound' : Bound library cert fingerprint' hpkeKey' doc') : fingerprint = fingerprint' := by
  obtain ⟨spki, encoded, rfl⟩ := bound.key
  obtain ⟨spki', encoded', rfl⟩ := bound'.key
  rw [Except.ok.inj (encoded.symm.trans encoded')]

theorem key_unique {key key' : String} (bound : Bound library cert fingerprint (some key) doc)
    (bound' : Bound library cert fingerprint' (some key') doc') (present : isAllZeros key = false)
    (present' : isAllZeros key' = false) : key = key' := by
  obtain ⟨bytes, found, rfl⟩ := bound.hpke key rfl present
  obtain ⟨bytes', found', rfl⟩ := bound'.hpke key' rfl present'
  rw [Option.some.inj (found.symm.trans found')]

theorem document_unique (bound : Bound library cert fingerprint hpkeKey doc)
    (bound' : Bound library cert fingerprint' hpkeKey' doc') : doc = doc' ∨ Collision library.sha256 doc.text doc'.text :=
  AttestationDocument.hash_inj (utf8Bytes_injective (Option.some.inj (bound.document.symm.trans bound'.document)))

end Bound

theorem bound_of_carries {cert : Certificate} {fingerprint : String} {hpkeKey : Bytes} {doc : AttestationDocument}
    (ec : library.keyAlgorithm cert = oidEcPublicKey)
    (key : ∃ spki, library.spki cert = .ok spki ∧ hexEncode (library.sha256 spki) = fingerprint)
    (hpke : Carries "hpke".toList hpkeKey (dnsSans library cert))
    (document : Carries "hatt".toList (utf8Bytes (doc.hash library.sha256)) (dnsSans library cert)) :
    Bound library cert fingerprint (some (hexEncode hpkeKey)) doc where
  ec := ec
  key := key
  hpke := by
    intro key same present
    obtain rfl := Option.some.inj same
    -- Without any octets there are no digits but zeros.
    have nonempty : hpkeKey ≠ [] := by
      rintro rfl
      cases present
    exact ⟨hpkeKey, hpke.recovered library.base32Inverse (by decide) nonempty, rfl⟩
  document := by
    refine document.recovered library.base32Inverse (by decide) fun empty => ?_
    have digits : doc.hash library.sha256 = hexEncode [] := utf8Bytes_injective empty
    have none := congrArg List.length (hexEncode_injective digits)
    rw [library.sha256Length] at none
    cases none

variable (library) in
/-- The check passes exactly for a host that shows a bound certificate.  Every certificate that carries the attested
values in its names, in any order and among others, is bound to them; and a certificate is bound to one fingerprint,
one HPKE key and one document, short of two documents whose texts have one digest. -/
theorem tls_binding_exact (host fingerprint : String) (hpkeKey : Option String) (doc : AttestationDocument) :
    (verifyTlsBinding library host fingerprint hpkeKey doc = .ok () ↔
      ∃ certDer cert, Shows library host certDer cert ∧ Bound library cert fingerprint hpkeKey doc) ∧
    (∀ cert bytes, library.keyAlgorithm cert = oidEcPublicKey →
      (∃ spki, library.spki cert = .ok spki ∧ hexEncode (library.sha256 spki) = fingerprint) →
      Carries "hpke".toList bytes (dnsSans library cert) →
      Carries "hatt".toList (utf8Bytes (doc.hash library.sha256)) (dnsSans library cert) →
        Bound library cert fingerprint (some (hexEncode bytes)) doc) ∧
    ∀ cert fingerprint' hpkeKey' doc', Bound library cert fingerprint hpkeKey doc →
      Bound library cert fingerprint' hpkeKey' doc' →
        fingerprint = fingerprint' ∧ (doc = doc' ∨ Collision library.sha256 doc.text doc'.text) ∧
          ∀ key key', hpkeKey = some key → hpkeKey' = some key' → isAllZeros key = false → isAllZeros key' = false →
            key = key' := by
  refine ⟨verifyTlsBinding_ok, fun cert bytes => bound_of_carries, ?_⟩
  intro cert fingerprint' hpkeKey' doc' bound bound'
  refine ⟨bound.fingerprint_unique bound', bound.document_unique bound', ?_⟩
  rintro key key' rfl rfl present present'
  exact bound.key_unique bound' present present'

end Binding

end Tinfoil.Client
