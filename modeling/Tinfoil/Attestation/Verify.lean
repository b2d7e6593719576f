import Tinfoil.Attestation.Measurement
import Tinfoil.Sev.Cache

/-! # Hardware attestation

The document of an enclave is fetched and verified for its format.  `verifyFull_ok` says what a verified document
comes from, `AttestationDocument.hash_inj` that a hash is of one document.
-/

namespace Tinfoil.Attestation

open ReadThrough (Store)
open Measurement (Collision)
open Sev (SevLibrary Report ValidationOptions)

/-- `Error`, with the variant that only the choice of the format returns. -/
inductive AttestationError where
  | sdk (error : Error)
  | unsupportedFormat (message : String)
  deriving DecidableEq, Repr

def AttestationError.display : AttestationError → String
  | .sdk error => error.display
  | .unsupportedFormat message => message

/-! ## Documents -/

/-- The body is base64 of the compressed report. -/
structure AttestationDocument where
  format : PredicateType
  body : String
  deriving DecidableEq, Repr

def AttestationDocument.hash (sha256 : Bytes → Bytes) (doc : AttestationDocument) : String :=
  hexEncode (sha256 (utf8Bytes (doc.format.asUrl ++ doc.body)))

theorem asUrl_apart {type type' : PredicateType} (other : type ≠ type') :
    ∃ count, count ≤ type.asUrl.toList.length ∧ count ≤ type'.asUrl.toList.length ∧
      type.asUrl.toList.take count ≠ type'.asUrl.toList.take count := by
  by_cases short : type = .unknown ∨ type' = .unknown
  · exact ⟨7, by revert other short; cases type <;> cases type' <;> decide⟩
  · exact ⟨31, by revert other short; cases type <;> cases type' <;> decide⟩

theorem asUrl_append_inj {type type' : PredicateType} {text text' : String}
    (same : type.asUrl ++ text = type'.asUrl ++ text') : type = type' ∧ text = text' := by
  have lists := congrArg String.toList same
  rw [String.toList_append, String.toList_append] at lists
  by_cases types : type = type'
  · subst types
    exact ⟨rfl, String.toList_injective (List.append_cancel_left lists)⟩
  · obtain ⟨count, inside, inside', apart⟩ := asUrl_apart types
    have fronts := congrArg (List.take count) lists
    rw [List.take_append_of_le_length inside, List.take_append_of_le_length inside'] at fronts
    exact absurd fronts apart

/-- The format and the body without anything between them. -/
def AttestationDocument.text (doc : AttestationDocument) : Bytes := utf8Bytes (doc.format.asUrl ++ doc.body)

theorem AttestationDocument.hash_inj {sha256 : Bytes → Bytes} {doc doc' : AttestationDocument}
    (same : doc.hash sha256 = doc'.hash sha256) : doc = doc' ∨ Collision sha256 doc.text doc'.text := by
  obtain ⟨format, body⟩ := doc
  obtain ⟨format', body'⟩ := doc'
  have digests := hexEncode_injective same
  by_cases texts : format.asUrl ++ body = format'.asUrl ++ body'
  · obtain ⟨rfl, rfl⟩ := asUrl_append_inj texts
    exact .inl rfl
  · exact .inr ⟨fun bytes => texts (utf8Bytes_injective bytes), digests⟩

/-! ## Fetching -/

/-- An answer of the enclave, after the retries. -/
structure EnclaveResponse where
  success : Bool
  status : String
  /-- `canonical_reason` -/
  reason : Option String
  document : Except String AttestationDocument

/-- `fetch`, with what the request for the document of a host is answered. -/
def fetch (fetchWithRetry : (url : String) → Except String EnclaveResponse) (host : String) :
    Except Error AttestationDocument :=
  match fetchWithRetry ("https://" ++ host ++ "/.well-known/tinfoil-attestation") with
  | .error error => .error (.attestationFetch ("HTTP request failed: " ++ error))
  | .ok response =>
    if ¬ response.success then
      .error (.attestationFetch ("HTTP " ++ response.status ++ ": " ++ response.reason.getD "Unknown error"))
    else
      match response.document with
      | .error error => .error (.attestationFetch ("JSON parse failed: " ++ error))
      | .ok doc => .ok doc

/-! ## Verifying -/

section Full

variable {RsaKey RsaSignature Key Signature : Type} (library : SevLibrary RsaKey RsaSignature Key Signature)

/-- The result, and the files after it. -/
def verifyFullWithOptions (disk : Store String Bytes) (host : Sev.Host) (doc : AttestationDocument)
    (options : ValidationOptions) : Except AttestationError Verification × Store String Bytes :=
  match doc.format with
  | .sevGuestV2 =>
    let verified := Sev.verifyFullWithOptions library disk { host, body := doc.body, options }
    (verified.1.mapError .sdk, verified.2)
  | .tdxGuestV2 => (.error (.unsupportedFormat "Intel TDX attestation not yet implemented"), disk)
  | .snpTdxMultiPlatformV1 =>
    (.error (.unsupportedFormat "Multi-platform predicate type is not a valid hardware attestation format"), disk)
  | .unknown => (.error (.sdk (.attestationVerification "Unknown attestation format")), disk)

def verifyFull (disk : Store String Bytes) (host : Sev.Host) (doc : AttestationDocument) :
    Except AttestationError Verification × Store String Bytes :=
  verifyFullWithOptions library disk host doc .default

/-- The document is a report of AMD's hardware: signed with a VCEK of the report's chip and patch levels, which AMD's
root certified, and within the default requirements. -/
structure Genuine (disk : Store String Bytes) (host : Sev.Host) (doc : AttestationDocument) (report : Report) : Prop where
  format : doc.format = .sevGuestV2
  read : Sev.readReport library doc.body = .ok report
  certified : ∃ vcek maskChipKey, (Sev.fetchVcek library host disk report).1 = .ok vcek ∧
    Sev.Passes library host.now report vcek ∧ Sev.FieldsAccepted report .default maskChipKey ∧
    ∃ r s, Sev.parseSignatureComponents report.signatureField = .ok (r, s) ∧
      Sev.SignedWith library.signature report vcek r s

variable {library}

theorem verifyWithVcek_ok {now : Option Nat} {report : Report} {options : ValidationOptions} {vcek : Bytes}
    {verification : Verification} :
    Sev.verifyWithVcek library now report options vcek = .ok verification ↔
      Sev.Passes library now report vcek ∧ (∃ maskChipKey, Sev.FieldsAccepted report options maskChipKey) ∧
        (∃ r s, Sev.parseSignatureComponents report.signatureField = .ok (r, s) ∧
          Sev.SignedWith library.signature report vcek r s) ∧
        Sev.attested report = verification := by
  rw [← Sev.verifyReportSignature_ok]
  constructor
  · intro verified
    obtain ⟨passes, signature⟩ := Sev.passes_of_verified verified
    rw [Sev.verifyWithVcek_of_passes passes] at verified
    simp only [bind_ok, Sev.fieldsAccepted_iff, Except.ok.injEq] at verified
    obtain ⟨maskChipKey, fields, _, _, same⟩ := verified
    exact ⟨passes, ⟨maskChipKey, fields⟩, signature, same⟩
  · rintro ⟨passes, ⟨maskChipKey, fields⟩, signature, same⟩
    rw [Sev.verifyWithVcek_of_passes passes]
    simp only [bind_ok, Sev.fieldsAccepted_iff, Except.ok.injEq]
    exact ⟨maskChipKey, fields, (), signature, same⟩

theorem verifyFull_ok {disk : Store String Bytes} {host : Sev.Host} {doc : AttestationDocument}
    {verification : Verification} :
    (verifyFull library disk host doc).1 = .ok verification ↔
      ∃ report, Genuine library disk host doc report ∧ Sev.attested report = verification := by
  obtain ⟨format, body⟩ := doc
  cases format with
  | sevGuestV2 =>
    have mapped {call : Except Error Verification} :
        call.mapError AttestationError.sdk = .ok verification ↔ call = .ok verification := by
      cases call <;> simp [Except.mapError]
    simp only [verifyFull, verifyFullWithOptions, Sev.verifyFullWithOptions, mapped]
    cases read : Sev.readReport library body with
    | error error =>
      simp only [reduceCtorEq, false_iff]
      rintro ⟨report, genuine, -⟩
      cases read.symm.trans genuine.read
    | ok report =>
      simp only [bind_ok, verifyWithVcek_ok]
      constructor
      · rintro ⟨vcek, fetched, passes, ⟨maskChipKey, fields⟩, signed, same⟩
        exact ⟨report, ⟨rfl, read, vcek, maskChipKey, fetched, passes, fields, signed⟩, same⟩
      · rintro ⟨report', genuine, same⟩
        obtain rfl := Except.ok.inj (read.symm.trans genuine.read)
        obtain ⟨vcek, maskChipKey, fetched, passes, fields, signed⟩ := genuine.certified
        exact ⟨vcek, fetched, passes, ⟨maskChipKey, fields⟩, signed, same⟩
  | tdxGuestV2 | snpTdxMultiPlatformV1 | unknown =>
    -- Documents of the other formats are refused.
    simp only [verifyFull, verifyFullWithOptions, reduceCtorEq, false_iff]
    rintro ⟨report, genuine, -⟩
    cases genuine.format

end Full

end Tinfoil.Attestation
