import Tinfoil.LengthPrefixed
import Tinfoil.Sigstore.Envelope
import Tinfoil.Sigstore.Fulcio
import Tinfoil.Sigstore.Keyring

/-! # The certificate timestamps in a certificate

A certificate transparency log signs the certificate without its timestamps, under the key of the issuer.

* `verify_sct_exact`: a certificate is accepted exactly if it is `Logged`.
* `timestamp_binds`: a log's signature is good for certificates that differ in their timestamps only.
-/

namespace Tinfoil.Sigstore

open Der (bigEndian)

/-! ## Certificates and their timestamps -/

structure Extension where
  extnId : String
  critical : Bool
  extnValue : Bytes
  deriving DecidableEq

/-- What is signed of a certificate: its extensions, and the rest. -/
structure TbsCertificate (Rest : Type) where
  rest : Rest
  extensions : Option (List Extension)

structure SignedCertificateTimestamp where
  logId : Hash
  /-- In milliseconds since 1970. -/
  timestamp : UInt64
  extensions : Bytes
  signature : Bytes
  deriving DecidableEq

inductive CertificateErrorKind where
  | leafSctMissing
  | der (error : String)
  | tls (error : String)
  deriving DecidableEq

inductive SctError where
  | parsing (error : CertificateErrorKind)
  | serialization
  | verification (error : KeyringError)
  deriving DecidableEq

/-- The text of an error (`Display`). -/
def SctError.display : SctError → String
  | .parsing _ => "failed to extract SCT from certificate"
  | .serialization => "failed to reconstruct signed payload"
  | .verification _ => "failed to verify SCT"

def ctPrecertSctsOid : String := "1.3.6.1.4.1.11129.2.4.2"

structure SctLibrary (Certificate Rest VerifyingKey Signature : Type) extends KeyringLibrary VerifyingKey Signature where
  tbsCertificate : Certificate → TbsCertificate Rest
  /-- `encode_to_vec`.  What was parsed can be encoded. -/
  encodeTbs : TbsCertificate Rest → Bytes
  /-- The list in the value of the extension. -/
  parseTimestamps : Bytes → Except CertificateErrorKind (List SignedCertificateTimestamp)
  loadCtlogKeyring : Except Error (Keyring VerifyingKey)

namespace TbsCertificate

variable {Rest : Type} (tbs : TbsCertificate Rest)

/-- The certificate as it was before its timestamps were put into it. -/
def precert : TbsCertificate Rest :=
  { tbs with
    extensions := tbs.extensions.map fun extensions => extensions.filter fun ext => ext.extnId ≠ ctPrecertSctsOid }

end TbsCertificate

/-! ## What a log signs -/

inductive SignatureType where
  | certificateTimestamp
  | treeHash
  deriving DecidableEq

structure PreCert where
  issuerKeyHash : Hash
  tbsCertificate : Bytes
  deriving DecidableEq

inductive SignedEntry where
  | x509Entry (certificate : Bytes)
  | precertEntry (precert : PreCert)
  deriving DecidableEq

/-- The identifier of the log and the signature are not part of what is serialized. -/
structure DigitallySigned where
  signatureType : SignatureType
  timestamp : UInt64
  signedEntry : SignedEntry
  extensions : Bytes
  logId : Hash
  signature : Bytes
  deriving DecidableEq

def SignatureType.code : SignatureType → UInt8
  | .certificateTimestamp => 0
  | .treeHash => 1

def SignedEntry.tlsSerialize : SignedEntry → Option Bytes
  | .x509Entry certificate => (LengthPrefixed.vector 3 certificate).map fun body => bigEndian 2 0 ++ body
  | .precertEntry precert =>
    (LengthPrefixed.vector 3 precert.tbsCertificate).map fun body => bigEndian 2 1 ++ precert.issuerKeyHash.val ++ body

/-- `none` where a vector is longer than its length can say. -/
def DigitallySigned.tlsSerialize (signed : DigitallySigned) : Option Bytes := do
  let entry ← signed.signedEntry.tlsSerialize
  let extensions ← LengthPrefixed.vector 2 signed.extensions
  -- The version in front is `v1`, whatever the timestamp says.
  return [0, signed.signatureType.code] ++ bigEndian 8 signed.timestamp.toNat ++ entry ++ extensions

section Verifier

variable {Certificate Rest VerifyingKey Signature : Type} (library : SctLibrary Certificate Rest VerifyingKey Signature)

/-- `CertificateEmbeddedSCT`, as a log signed it. -/
def digitallySigned (cert : Certificate) (issuerId : Hash) (sct : SignedCertificateTimestamp) : DigitallySigned where
  signatureType := .certificateTimestamp
  timestamp := sct.timestamp
  signedEntry := .precertEntry
    { issuerKeyHash := issuerId, tbsCertificate := library.encodeTbs (library.tbsCertificate cert).precert }
  extensions := sct.extensions
  logId := sct.logId
  signature := sct.signature

def parseSctsFromCert (cert : Certificate) : Except SctError (List SignedCertificateTimestamp) :=
  match (library.tbsCertificate cert).extensions.bind
      (List.find? fun ext => ext.extnId = ctPrecertSctsOid) with
  | none => .error (.parsing .leafSctMissing)
  | some sctExt =>
    match library.parseTimestamps sctExt.extnValue with
    | .ok scts => .ok scts
    | .error error => .error (.parsing error)

def allFromCert (cert : Certificate) (spki : Bytes) : Except SctError (List SignedCertificateTimestamp × Hash) := do
  let scts ← parseSctsFromCert library cert
  if scts.isEmpty then .error (.parsing .leafSctMissing)
  else return (scts, library.sha256 spki)

def verifyDigitallySigned (sct : DigitallySigned) (keyring : Keyring VerifyingKey) : Except SctError Unit :=
  match sct.tlsSerialize with
  | none => .error .serialization
  | some serialized =>
    match keyring.verifyAt library.toKeyringLibrary sct.logId sct.signature serialized (sct.timestamp / 1000) with
    | .ok () => .ok ()
    | .error error => .error (.verification error)

/-- Until a timestamp verifies; if none does, the error of the last one. -/
def trySct (check : SignedCertificateTimestamp → Except SctError Unit) (lastErr : Option SctError) :
    List SignedCertificateTimestamp → Except (Option SctError) Unit
  | [] => .error lastErr
  | sct :: rest =>
    match check sct with
    | .ok () => .ok ()
    | .error error => trySct check (some error) rest

/-- A set that grows with each timestamp finds no log twice. -/
def distinctLogs (seen : List Hash) : List SignedCertificateTimestamp → Bool
  | [] => true
  | sct :: rest => !seen.contains sct.logId && distinctLogs (sct.logId :: seen) rest

def verifySct (certificateFromDer : Bytes → Except String Certificate) (certDer issuerSpkiDer : Bytes) :
    Except Error Unit := do
  let cert ← orFail "Failed to parse certificate for SCT: " (certificateFromDer certDer)
  let (scts, issuerId) ←
    match allFromCert library cert issuerSpkiDer with
    | .ok all => .ok all
    | .error error => fail ("Failed to extract SCTs: " ++ error.display)
  ensure (distinctLogs [] scts = true) "Duplicate SCT found (same log ID)"
  let ctKeyring ← library.loadCtlogKeyring
  match trySct (fun sct => verifyDigitallySigned library (digitallySigned library cert issuerId sct) ctKeyring)
    none scts with
  | .ok () => .ok ()
  | .error lastErr =>
    fail ("No valid SCT found (" ++ toString scts.length ++ " SCTs checked). Last error: " ++
      (lastErr.map SctError.display).getD "none")

end Verifier

/-! ## The serialization says all of it -/

theorem SignatureType.code_injective : Function.Injective SignatureType.code := by
  intro type type' same
  cases type <;> cases type' <;> first | rfl | cases same

theorem SignedEntry.tlsSerialize_inj {entry entry' : SignedEntry} {encoded encoded' rest rest' : Bytes}
    (written : entry.tlsSerialize = some encoded) (written' : entry'.tlsSerialize = some encoded')
    (same : encoded ++ rest = encoded' ++ rest') : entry = entry' ∧ rest = rest' := by
  cases entry with
  | x509Entry certificate =>
    obtain ⟨body, vector, rfl⟩ := Option.map_eq_some_iff.mp written
    cases entry' with
    | x509Entry certificate' =>
      obtain ⟨body', vector', rfl⟩ := Option.map_eq_some_iff.mp written'
      rw [List.append_assoc, List.append_assoc] at same
      obtain ⟨rfl, rests⟩ := LengthPrefixed.vector_append_inj vector vector' (List.append_cancel_left same)
      exact ⟨rfl, rests⟩
    | precertEntry precert' =>
      -- The types of the entries differ.
      obtain ⟨body', vector', rfl⟩ := Option.map_eq_some_iff.mp written'
      cases same
  | precertEntry precert =>
    obtain ⟨body, vector, rfl⟩ := Option.map_eq_some_iff.mp written
    cases entry' with
    | x509Entry certificate' =>
      obtain ⟨body', vector', rfl⟩ := Option.map_eq_some_iff.mp written'
      cases same
    | precertEntry precert' =>
      obtain ⟨body', vector', rfl⟩ := Option.map_eq_some_iff.mp written'
      obtain ⟨hash, certificate⟩ := precert
      obtain ⟨hash', certificate'⟩ := precert'
      simp only [List.append_assoc] at same
      obtain ⟨hashes, bodies⟩ := List.append_inj (List.append_cancel_left same) (by rw [hash.property, hash'.property])
      obtain ⟨rfl, rests⟩ := LengthPrefixed.vector_append_inj vector vector' bodies
      exact ⟨by rw [Subtype.ext hashes], rests⟩

theorem DigitallySigned.tlsSerialize_inj {signed signed' : DigitallySigned} {payload : Bytes}
    (written : signed.tlsSerialize = some payload) (written' : signed'.tlsSerialize = some payload) :
    signed.signatureType = signed'.signatureType ∧ signed.timestamp = signed'.timestamp ∧
      signed.signedEntry = signed'.signedEntry ∧ signed.extensions = signed'.extensions := by
  simp only [DigitallySigned.tlsSerialize, bind, Option.bind_eq_some_iff, pure, Option.some.injEq] at written written'
  obtain ⟨entry, entryWritten, extensions, extensionsWritten, rfl⟩ := written
  obtain ⟨entry', entryWritten', extensions', extensionsWritten', same⟩ := written'
  simp only [List.append_assoc, List.cons_append, List.nil_append, List.cons.injEq, true_and] at same
  obtain ⟨codes, same⟩ := same
  have types : signed.signatureType = signed'.signatureType := (SignatureType.code_injective codes).symm
  obtain ⟨times, same⟩ := List.append_inj same (by simp)
  have timestamps : signed.timestamp = signed'.timestamp := by
    have values := congrArg Der.value times
    have fits (time : UInt64) : time.toNat < 256 ^ 8 := time.toNat_lt
    rw [Der.value_bigEndian (fits _), Der.value_bigEndian (fits _)] at values
    exact UInt64.toNat_inj.mp values.symm
  obtain ⟨entries, same⟩ := SignedEntry.tlsSerialize_inj entryWritten' entryWritten same
  have rests : extensions' ++ [] = extensions ++ [] := by rw [same]
  obtain ⟨all, -⟩ := LengthPrefixed.vector_append_inj extensionsWritten' extensionsWritten rests
  exact ⟨types, timestamps, entries.symm, all.symm⟩

section Binding

variable {Certificate Rest VerifyingKey Signature : Type} {library : SctLibrary Certificate Rest VerifyingKey Signature}

/-- The signature of a log is good for two timestamps exactly if their certificates are the same without the lists of
timestamps, the issuers' keys have the same hash, and the timestamps are of one time. -/
theorem timestamp_binds {cert cert' : Certificate} {issuerId issuerId' : Hash} {sct sct' : SignedCertificateTimestamp} :
    (∃ payload, (digitallySigned library cert issuerId sct).tlsSerialize = some payload ∧
        (digitallySigned library cert' issuerId' sct').tlsSerialize = some payload) ↔
      (digitallySigned library cert issuerId sct).tlsSerialize.isSome ∧
        library.encodeTbs (library.tbsCertificate cert').precert =
          library.encodeTbs (library.tbsCertificate cert).precert ∧
        issuerId' = issuerId ∧ sct'.timestamp = sct.timestamp ∧ sct'.extensions = sct.extensions := by
  constructor
  · rintro ⟨payload, signed, signed'⟩
    obtain ⟨-, timestamps, entries, extensions⟩ := DigitallySigned.tlsSerialize_inj signed' signed
    obtain ⟨issuers, certificates⟩ := PreCert.mk.inj (SignedEntry.precertEntry.inj entries)
    exact ⟨by rw [signed]; rfl, certificates, issuers, timestamps, extensions⟩
  · rintro ⟨present, certificates, rfl, timestamps, extensions⟩
    obtain ⟨payload, signed⟩ := Option.isSome_iff_exists.mp present
    refine ⟨payload, signed, ?_⟩
    simpa [digitallySigned, DigitallySigned.tlsSerialize, certificates, timestamps, extensions] using signed

end Binding

/-! ## Logged certificates -/

section Logged

variable {Certificate Rest VerifyingKey Signature : Type} (library : SctLibrary Certificate Rest VerifyingKey Signature)

/-- The log has a key that was valid at the time of the timestamp, and signed the certificate with it. -/
def Timestamped (keyring : Keyring VerifyingKey) (cert : Certificate) (issuerSpki : Bytes)
    (sct : SignedCertificateTimestamp) : Prop :=
  ∃ payload, (digitallySigned library cert (library.sha256 issuerSpki) sct).tlsSerialize = some payload ∧
    ∃ key, keyring sct.logId = some key ∧
      key.Vouches library.toKeyringLibrary sct.signature payload (sct.timestamp / 1000)

/-- One of the timestamps is of a trusted log.  No log is named twice. -/
def Logged (cert : Certificate) (issuerSpki : Bytes) : Prop :=
  ∃ scts, parseSctsFromCert library cert = .ok scts ∧ (scts.map SignedCertificateTimestamp.logId).Nodup ∧
    ∃ keyring, library.loadCtlogKeyring = .ok keyring ∧ ∃ sct ∈ scts, Timestamped library keyring cert issuerSpki sct

variable {library}

theorem verifyDigitallySigned_ok {keyring : Keyring VerifyingKey} {cert : Certificate} {issuerSpki : Bytes}
    {sct : SignedCertificateTimestamp} :
    verifyDigitallySigned library (digitallySigned library cert (library.sha256 issuerSpki) sct) keyring = .ok () ↔
      Timestamped library keyring cert issuerSpki sct := by
  simp only [verifyDigitallySigned, Timestamped, ← verifyAt_ok]
  cases (digitallySigned library cert (library.sha256 issuerSpki) sct).tlsSerialize with
  | none => simp
  | some payload =>
    simp only [Option.some.injEq, exists_eq_left']
    cases verified : keyring.verifyAt library.toKeyringLibrary sct.logId sct.signature payload (sct.timestamp / 1000) with
    | ok _ => simp [digitallySigned, verified]
    | error error => simp [digitallySigned, verified]

theorem trySct_ok {check : SignedCertificateTimestamp → Except SctError Unit} {lastErr : Option SctError}
    {scts : List SignedCertificateTimestamp} {result : Unit} :
    trySct check lastErr scts = .ok result ↔ ∃ sct ∈ scts, check sct = .ok () := by
  induction scts generalizing lastErr with
  | nil => simp [trySct]
  | cons sct rest ih =>
    cases checked : check sct with
    | ok _ => simp [trySct, checked]
    | error error => simp [trySct, checked, ih]

theorem distinctLogs_iff {seen : List Hash} {scts : List SignedCertificateTimestamp} :
    distinctLogs seen scts = true ↔
      (scts.map SignedCertificateTimestamp.logId).Nodup ∧ ∀ sct ∈ scts, sct.logId ∉ seen := by
  induction scts generalizing seen with
  | nil => simp [distinctLogs]
  | cons sct rest ih =>
    simp only [distinctLogs, Bool.and_eq_true, Bool.not_eq_true', List.contains_eq_mem, decide_eq_false_iff_not, ih,
      List.map_cons, List.nodup_cons, List.mem_map, List.mem_cons, not_or, not_exists, not_and, forall_eq_or_imp]
    constructor
    · rintro ⟨fresh, nodup, later⟩
      exact ⟨⟨fun other member => (later other member).1, nodup⟩, fresh, fun other member => (later other member).2⟩
    · rintro ⟨⟨distinct, nodup⟩, fresh, later⟩
      exact ⟨fresh, nodup, fun other member => ⟨distinct other member, later other member⟩⟩

theorem allFromCert_ok {cert : Certificate} {spki : Bytes} {scts : List SignedCertificateTimestamp} {issuerId : Hash} :
    allFromCert library cert spki = .ok (scts, issuerId) ↔
      parseSctsFromCert library cert = .ok scts ∧ scts ≠ [] ∧ library.sha256 spki = issuerId := by
  simp only [allFromCert, bind_ok]
  constructor
  · rintro ⟨scts', parsed, read⟩
    cases scts' with
    | nil => cases read
    | cons first rest =>
      cases read
      exact ⟨parsed, List.cons_ne_nil _ _, rfl⟩
  · rintro ⟨parsed, nonempty, rfl⟩
    refine ⟨scts, parsed, ?_⟩
    simp [nonempty, pure, Except.pure]

theorem verifySct_ok {certificateFromDer : Bytes → Except String Certificate} {certDer issuerSpkiDer : Bytes}
    {result : Unit} :
    verifySct library certificateFromDer certDer issuerSpkiDer = .ok result ↔
      ∃ cert, certificateFromDer certDer = .ok cert ∧ Logged library cert issuerSpkiDer := by
  simp only [verifySct, bind_ok, orFail_ok, Logged]
  refine exists_congr fun cert => and_congr_right fun _ => ?_
  cases found : allFromCert library cert issuerSpkiDer with
  | error error =>
    simp only [fail, bind, Except.bind, reduceCtorEq, false_iff, not_exists, not_and]
    intro scts parsed nodup keyring loaded sct member
    have all : allFromCert library cert issuerSpkiDer = .ok (scts, library.sha256 issuerSpkiDer) :=
      allFromCert_ok.mpr ⟨parsed, List.ne_nil_of_mem member, rfl⟩
    rw [found] at all
    cases all
  | ok all =>
    obtain ⟨scts, issuerId⟩ := all
    obtain ⟨parsed, -, rfl⟩ := allFromCert_ok.mp found
    have tried {keyring : Keyring VerifyingKey} :
        trySct (fun sct => verifyDigitallySigned library (digitallySigned library cert (library.sha256 issuerSpkiDer) sct)
          keyring) none scts = .ok () ↔ ∃ sct ∈ scts, Timestamped library keyring cert issuerSpkiDer sct := by
      simp only [trySct_ok, verifyDigitallySigned_ok]
    simp only [bind_ok, ensure_ok, distinctLogs_iff, parsed, Except.ok.injEq, exists_eq_left', List.not_mem_nil,
      not_false_eq_true, implies_true, and_true, exists_const]
    refine and_congr_right fun _ => exists_congr fun keyring => and_congr_right fun _ => ?_
    rw [← tried]
    split
    · rename_i accepted
      simp [accepted]
    · rename_i lastErr refused
      simp [refused, fail]

variable (library) in
/-- Another certificate with the same timestamps in another order, or with their list elsewhere among the extensions. -/
structure Reordered (cert cert' : Certificate) : Prop where
  precert : (library.tbsCertificate cert').precert = (library.tbsCertificate cert).precert
  timestamps : ∃ scts scts', parseSctsFromCert library cert = .ok scts ∧ parseSctsFromCert library cert' = .ok scts' ∧
    scts'.Perm scts

theorem Reordered.symm {cert cert' : Certificate} (reordered : Reordered library cert cert') :
    Reordered library cert' cert := by
  obtain ⟨precert, scts, scts', parsed, parsed', perm⟩ := reordered
  exact ⟨precert.symm, scts', scts, parsed', parsed, perm.symm⟩

theorem Logged.reorder {cert cert' : Certificate} {issuerSpki : Bytes} (logged : Logged library cert issuerSpki)
    (reordered : Reordered library cert cert') : Logged library cert' issuerSpki := by
  obtain ⟨scts, parsed, nodup, keyring, loaded, sct, member, payload, written, vouched⟩ := logged
  obtain ⟨precert, _, scts', parsed'', parsed', perm⟩ := reordered
  cases parsed.symm.trans parsed''
  refine ⟨scts', parsed', (perm.map _).nodup_iff.mpr nodup, keyring, loaded, sct, perm.mem_iff.mpr member, payload, ?_,
    vouched⟩
  simpa [digitallySigned, precert] using written

variable (library) in
/-- A certificate is accepted exactly if it is logged: timestamps that do not verify do no harm, two of one log do, and
neither their order nor the place of their list matters. -/
theorem verify_sct_exact (certificateFromDer : Bytes → Except String Certificate) (certDer issuerSpkiDer : Bytes) :
    (verifySct library certificateFromDer certDer issuerSpkiDer = .ok () ↔
      ∃ cert, certificateFromDer certDer = .ok cert ∧ Logged library cert issuerSpkiDer) ∧
    ∀ certDer' cert cert', certificateFromDer certDer = .ok cert → certificateFromDer certDer' = .ok cert' →
      Reordered library cert cert' →
        (verifySct library certificateFromDer certDer' issuerSpkiDer = .ok () ↔
          verifySct library certificateFromDer certDer issuerSpkiDer = .ok ()) := by
  refine ⟨verifySct_ok, fun certDer' cert cert' parsed parsed' reordered => ?_⟩
  simp only [verifySct_ok, parsed, parsed', Except.ok.injEq, exists_eq_left']
  exact ⟨fun logged => logged.reorder reordered.symm, fun logged => logged.reorder reordered⟩

end Logged

end Tinfoil.Sigstore
