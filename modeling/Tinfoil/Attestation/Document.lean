import Tinfoil.Attestation.Types

/-! # The verification document

What the Verification Center is shown of a completed verification.
-/

namespace Tinfoil.Attestation

def verificationDocumentSchemaVersion : UInt8 := 1

/-- The digest of a client whose code measurement is pinned. -/
def pinnedNoDigest : String := "pinned_no_digest"

inductive VerificationStepStatus where
  | pending
  | success
  | failed
  | skipped
  deriving DecidableEq, Repr

structure VerificationStepState where
  status : VerificationStepStatus
  error : Option String
  deriving DecidableEq, Repr

structure VerificationSteps where
  fetchDigest : VerificationStepState
  verifyCode : VerificationStepState
  verifyEnclave : VerificationStepState
  compareMeasurements : VerificationStepState
  verifyCertificate : VerificationStepState
  deriving DecidableEq, Repr

structure DocumentEnclaveMeasurement where
  measurement : Measurement
  tlsPublicKeyFingerprint : String
  hpkePublicKey : String
  deriving DecidableEq, Repr

structure VerificationDocument where
  schemaVersion : UInt8
  configRepo : String
  enclaveHost : String
  releaseTag : Option String
  releaseDigest : String
  codeMeasurement : Measurement
  enclaveMeasurement : DocumentEnclaveMeasurement
  tlsPublicKey : String
  hpkePublicKey : String
  codeFingerprint : String
  enclaveFingerprint : String
  selectedRouterEndpoint : String
  securityVerified : Bool
  verifier : SoftwareIdentity
  verifiedAt : String
  steps : VerificationSteps
  deriving DecidableEq, Repr

/-- A ground truth without both keys has no document. -/
def VerificationDocument.fromGroundTruth (groundTruth : GroundTruth) (enclaveHost : String) :
    Option VerificationDocument := do
  let tlsPublicKey ← groundTruth.tlsPublicKey
  let hpkePublicKey ← groundTruth.hpkePublicKey
  let pinned := groundTruth.digest = pinnedNoDigest
  let successful : VerificationStepState := ⟨.success, none⟩
  let skipped : VerificationStepState := ⟨.skipped, none⟩
  return {
    schemaVersion := verificationDocumentSchemaVersion
    configRepo := groundTruth.configRepo
    enclaveHost := enclaveHost
    releaseTag := groundTruth.releaseTag
    releaseDigest := groundTruth.digest
    codeMeasurement := groundTruth.codeMeasurement
    enclaveMeasurement := ⟨groundTruth.enclaveMeasurement, tlsPublicKey, hpkePublicKey⟩
    tlsPublicKey := tlsPublicKey
    hpkePublicKey := hpkePublicKey
    codeFingerprint := groundTruth.codeFingerprint
    enclaveFingerprint := groundTruth.enclaveFingerprint
    selectedRouterEndpoint := enclaveHost
    securityVerified := true
    verifier := groundTruth.verifier
    verifiedAt := groundTruth.verifiedAt
    steps := {
      fetchDigest := if pinned then skipped else successful
      verifyCode := if pinned then skipped else successful
      verifyEnclave := successful
      compareMeasurements := successful
      verifyCertificate := successful } }

theorem VerificationDocument.fromGroundTruth_key {groundTruth : GroundTruth} {host : String}
    {document : VerificationDocument} (shown : fromGroundTruth groundTruth host = some document) :
    groundTruth.hpkePublicKey = some document.hpkePublicKey ∧
      document.enclaveMeasurement.hpkePublicKey = document.hpkePublicKey := by
  simp only [fromGroundTruth, bind, Option.bind_eq_some_iff, pure, Option.some.injEq] at shown
  obtain ⟨tlsPublicKey, -, hpkePublicKey, key, rfl⟩ := shown
  exact ⟨key, rfl⟩

end Tinfoil.Attestation
