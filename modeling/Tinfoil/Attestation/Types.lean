import Tinfoil.Basic

/-! # Attestation results

`Verification` is what a verified enclave attests, `GroundTruth` what the client keeps of a
completed verification.  SHA-256 is a parameter of the fingerprints.
-/

namespace Tinfoil.Attestation

inductive PredicateType where
  | sevGuestV2
  | tdxGuestV2
  | snpTdxMultiPlatformV1
  | unknown
  deriving DecidableEq, Repr

def PredicateType.asUrl : PredicateType → String
  | .sevGuestV2 => "https://tinfoil.sh/predicate/sev-snp-guest/v2"
  | .tdxGuestV2 => "https://tinfoil.sh/predicate/tdx-guest/v2"
  | .snpTdxMultiPlatformV1 => "https://tinfoil.sh/predicate/snp-tdx-multiplatform/v1"
  | .unknown => "unknown"

structure Measurement where
  type : PredicateType
  registers : List String
  deriving DecidableEq, Repr

namespace Measurement

/-- `fingerprint_for_target`: one register is shown raw, several are hashed after the URL of
the measurement's own type. -/
def fingerprintForTarget (sha256 : Bytes → Bytes) (measurement : Measurement)
    (target : PredicateType) : String :=
  let registers := match measurement.type, target with
    | .snpTdxMultiPlatformV1, .sevGuestV2 => [measurement.registers.headD ""]
    | .sevGuestV2, _ => [measurement.registers.headD ""]
    | _, _ => measurement.registers
  match registers with
  | [register] => register
  | _ => hexEncode (sha256 (utf8Bytes (measurement.type.asUrl ++ String.join registers)))

def fingerprint (sha256 : Bytes → Bytes) (measurement : Measurement) : String :=
  measurement.fingerprintForTarget sha256 measurement.type

end Measurement

structure Verification where
  measurement : Measurement
  /-- TLS public key fingerprint, hex-encoded SHA-256. -/
  tlsPublicKeyFp : String
  /-- HPKE public key, hex-encoded. -/
  hpkePublicKey : Option String
  deriving DecidableEq, Repr

structure SoftwareIdentity where
  name : String
  version : String
  deriving DecidableEq, Repr

structure GroundTruth where
  configRepo : String
  releaseTag : Option String
  digest : String
  tlsPublicKey : Option String
  hpkePublicKey : Option String
  codeMeasurement : Measurement
  enclaveMeasurement : Measurement
  codeFingerprint : String
  enclaveFingerprint : String
  verifier : SoftwareIdentity
  verifiedAt : String
  deriving DecidableEq, Repr

end Tinfoil.Attestation
