import Tinfoil.Sigstore.Rekor

/-! # Signing certificates -/

namespace Tinfoil.Sigstore

structure CertificateLibrary (Certificate Name : Type) where
  /-- `Certificate::from_der` -/
  certificateFromDer : Bytes → Except String Certificate
  /-- The KeyUsage extension, by its `digitalSignature` bit. -/
  keyUsage : Certificate → Except String (Option Bool)
  /-- The object identifiers of the ExtendedKeyUsage extension. -/
  extendedKeyUsage : Certificate → Except String (Option (List String))
  issuer : Certificate → Name
  subject : Certificate → Name
  /-- The whole SubjectPublicKeyInfo (`to_der`). -/
  publicKeyInfo : Certificate → Except String Bytes
  subjectPublicKey : Certificate → Bytes

/-- A library's error, after what its caller was doing. -/
def orFail {α : Type} (context : String) : Except String α → Except Error α
  | .ok value => .ok value
  | .error error => fail (context ++ error)

theorem orFail_ok {α : Type} {context : String} {call : Except String α} {value : α} :
    orFail context call = .ok value ↔ call = .ok value := by
  cases call <;> simp [orFail, fail]

theorem orFail_inj {α : Type} {context : String} {call call' : Except String α}
    (same : orFail context call = orFail context call') : call = call' := by
  cases call with
  | ok value =>
    cases call' with
    | ok value' => simpa only [orFail, Except.ok.injEq] using same
    | error error => cases same
  | error error =>
    cases call' with
    | ok value => cases same
    | error error' =>
      simp only [orFail, fail, Except.error.injEq, Error.sigstoreVerification.injEq] at same
      have texts := congrArg String.toList same
      rw [String.toList_append, String.toList_append] at texts
      rw [String.toList_injective (List.append_cancel_left texts)]

section Library

variable {Certificate Name : Type} (library : CertificateLibrary Certificate Name)

def idKpCodeSigning : String := "1.3.6.1.5.5.7.3.3"

def validateCertificateExtensions (cert : Certificate) : Except Error Unit := do
  let keyUsage ← okOrElse (← orFail "Failed to parse KeyUsage extension: " (library.keyUsage cert))
    "Certificate missing KeyUsage extension"
  if !keyUsage then
    fail "Certificate KeyUsage does not include digitalSignature"
  else
    let extKeyUsage ← okOrElse
      (← orFail "Failed to parse ExtendedKeyUsage extension: " (library.extendedKeyUsage cert))
      "Certificate missing ExtendedKeyUsage extension"
    if idKpCodeSigning ∈ extKeyUsage then
      return ()
    else
      fail "Certificate ExtendedKeyUsage does not include codeSigning"

structure FulcioCa where
  /-- The issuer first, the root last. -/
  certChainDer : List Bytes
  validFrom : UInt64
  validUntil : Option UInt64

def FulcioCa.issuerCert (ca : FulcioCa) : Option Certificate :=
  ca.certChainDer.head?.bind fun der => (library.certificateFromDer der).toOption

def findIssuerSpki [DecidableEq Name] (fulcioCas : List FulcioCa) (cert : Certificate) :
    Except Error Bytes :=
  match (fulcioCas.filterMap (FulcioCa.issuerCert library)).find? fun issuerCert =>
    library.issuer cert = library.subject issuerCert with
  | some issuerCert => orFail "Failed to encode issuer SPKI: " (library.publicKeyInfo issuerCert)
  | none => fail "Could not find issuer certificate for SCT verification"

end Library

end Tinfoil.Sigstore
