import Tinfoil.Client.Attest

/-! # Verifying without a client

`verify_complete` does what the attestation of a client does, in another order and without the certificate of the host.
`verify_complete_agrees` says what a client's attestation has beyond it.
-/

namespace Tinfoil.Client

open Attestation (Measurement MeasurementError GroundTruth AttestationError AttestationDocument Verification Genuine)
open ReadThrough (Store)
open Sigstore (verifyRepo verifyRepo_ok)

/-- The text of an error (`Display`). -/
def measurementErrorText : MeasurementError → String
  | .formatMismatch => "Attestation format mismatch"
  | .registerMismatch => "Register values don't match"
  | .tooFewRegisters => "Too few registers in measurement"
  | .snpMismatch => "SNP measurement mismatch"
  | .rtmr1Mismatch => "RTMR1 mismatch"
  | .rtmr2Mismatch => "RTMR2 mismatch"
  | .rtmr3Mismatch => "RTMR3 mismatch (expected zeros)"

section Complete

variable (outside : Outside) (env : Environment)

def compareComplete (enclave code : Measurement) : Except Error Unit :=
  match enclave.equals code with
  | .ok () => .ok ()
  | .error error => .error (.attestationVerification ("Measurement mismatch: " ++ measurementErrorText error))

def completeWith (repo verifiedAt : String) (verification : Verification) : Checked AttestationError GroundTruth := do
  let sigstoreResult ← (verifyRepo outside.sigstore repo).mapError .sdk
  sdk (compareComplete verification.measurement sigstoreResult.measurement)
  return {
    configRepo := repo
    releaseTag := some sigstoreResult.releaseTag
    digest := sigstoreResult.digest
    tlsPublicKey := some verification.tlsPublicKeyFp
    hpkePublicKey := verification.hpkePublicKey
    codeMeasurement := sigstoreResult.measurement
    enclaveMeasurement := verification.measurement
    codeFingerprint := sigstoreResult.measurement.fingerprintForTarget env.sha256 verification.measurement.type
    enclaveFingerprint := verification.measurement.fingerprint env.sha256
    verifier := env.verifierIdentity
    verifiedAt }

/-- The result, and the files after it.  The hash and the identity of the verifier are the client's. -/
def verifyComplete (host repo verifiedAt : String) : Checked AttestationError GroundTruth × Store String Bytes :=
  match (sdk (Attestation.fetch outside.enclave host) : Checked AttestationError AttestationDocument) with
  | .error failure => (.error failure, outside.disk)
  | .ok doc =>
    let verified := Attestation.verifyFull outside.sev outside.disk outside.sevHost doc
    (liftM verified.1 >>= completeWith outside env repo verifiedAt, verified.2)

/-- An attestation, short of the certificate. -/
structure Completes (host repo : String) (attested : Attested) (doc : AttestationDocument) (report : Sev.Report) :
    Prop where
  source : CodeSource outside repo none attested
  fetched : Attestation.fetch outside.enclave host = .ok doc
  genuine : Genuine outside.sev outside.disk outside.sevHost doc report
  verification : Sev.attested report = attested.verification
  measured : attested.codeMeasurement.equals attested.verification.measurement = .ok ()

def ShowsKeys (host : String) (attested : Attested) (doc : AttestationDocument) : Prop :=
  ∃ certDer cert, Shows outside.tls host certDer cert ∧
    Bound outside.tls cert attested.verification.tlsPublicKeyFp attested.verification.hpkePublicKey doc

variable {outside env} {host repo verifiedAt : String}

theorem attests_iff {attested : Attested} :
    Attests outside host repo none attested ↔
      ∃ doc report, Completes outside host repo attested doc report ∧ ShowsKeys outside host attested doc := by
  constructor
  · rintro ⟨source, doc, report, runs⟩
    exact ⟨doc, report, ⟨source, runs.fetched, runs.genuine, runs.verification, runs.measured⟩, runs.shown⟩
  · rintro ⟨doc, report, completes, shown⟩
    exact ⟨completes.source, doc, report, completes.fetched, completes.genuine, completes.verification,
      completes.measured, shown⟩

theorem buildGroundTruth_injective {attested attested' : Attested}
    (same : buildGroundTruth env repo attested verifiedAt = buildGroundTruth env repo attested' verifiedAt) :
    attested = attested' := by
  obtain ⟨measurement, digest, releaseTag, enclave, fingerprint, key⟩ := attested
  obtain ⟨measurement', digest', releaseTag', enclave', fingerprint', key'⟩ := attested'
  simp only [buildGroundTruth, GroundTruth.mk.injEq, Option.some.injEq] at same
  simp [same]

theorem compareComplete_ok {enclave code : Measurement} (hardware : enclave.IsHardware) {result : Unit} :
    compareComplete enclave code = .ok result ↔ code.equals enclave = .ok () := by
  rw [Measurement.equals_comm hardware, compareComplete]
  cases enclave.equals code <;> simp

theorem completeWith_ok {verification : Verification} (hardware : verification.measurement.IsHardware)
    {groundTruth : GroundTruth} :
    completeWith outside env repo verifiedAt verification = .ok groundTruth ↔
      ∃ attested, CodeSource outside repo none attested ∧ attested.verification = verification ∧
        attested.codeMeasurement.equals verification.measurement = .ok () ∧
        groundTruth = buildGroundTruth env repo attested verifiedAt := by
  simp only [completeWith, bind_ok, Checked.mapError_ok, sdk_ok, verifyRepo_ok, compareComplete_ok hardware, pure,
    Except.pure, Except.ok.injEq]
  constructor
  · rintro ⟨result, provenance, _, equal, rfl⟩
    exact ⟨⟨result.measurement, result.digest, some result.releaseTag, verification⟩,
      .release provenance rfl rfl rfl, rfl, equal, rfl⟩
  · rintro ⟨attested, source, rfl, equal, rfl⟩
    cases source with
    | release provenance code digest releaseTag =>
      refine ⟨_, provenance, (), code ▸ equal, ?_⟩
      simp [buildGroundTruth, code, digest, releaseTag]

theorem verifyComplete_ok {groundTruth : GroundTruth} :
    (verifyComplete outside env host repo verifiedAt).1 = .ok groundTruth ↔
      ∃ attested doc report, Completes outside host repo attested doc report ∧
        groundTruth = buildGroundTruth env repo attested verifiedAt := by
  simp only [verifyComplete]
  split
  · rename_i failure failed
    simp only [reduceCtorEq, false_iff]
    rintro ⟨attested, doc, report, completes, -⟩
    cases failed.symm.trans (sdk_ok.mpr completes.fetched)
  · rename_i doc fetched
    have fetched := sdk_ok.mp fetched
    simp only [bind_ok, lift_ok, Attestation.verifyFull_ok]
    constructor
    · rintro ⟨_, ⟨report, genuine, rfl⟩, completed⟩
      obtain ⟨attested, source, same, equal, rfl⟩ := (completeWith_ok (.inl rfl)).mp completed
      exact ⟨attested, doc, report, ⟨source, fetched, genuine, same.symm, same ▸ equal⟩, rfl⟩
    · rintro ⟨attested, doc', report, completes, rfl⟩
      obtain rfl := Except.ok.inj (fetched.symm.trans completes.fetched)
      have equal := completes.measured
      rw [← completes.verification] at equal
      exact ⟨_, ⟨report, completes.genuine, rfl⟩,
        (completeWith_ok (.inl rfl)).mpr ⟨attested, completes.source, completes.verification.symm, equal, rfl⟩⟩

variable (outside env) in
/-- `verify_complete` succeeds exactly if the host's document is a genuine report of the code of the latest release,
and its two fingerprints are then one.  A client's attestation succeeds exactly if `verify_complete` gives its ground
truth and the host shows a certificate that is bound to its keys and its document. -/
theorem verify_complete_agrees (host repo verifiedAt : String) :
    (∀ groundTruth, (verifyComplete outside env host repo verifiedAt).1 = .ok groundTruth ↔
      ∃ attested doc report, Completes outside host repo attested doc report ∧
        groundTruth = buildGroundTruth env repo attested verifiedAt) ∧
    (∀ groundTruth, (verifyComplete outside env host repo verifiedAt).1 = .ok groundTruth →
      groundTruth.codeFingerprint = groundTruth.enclaveFingerprint) ∧
    ∀ attested, (verifyAttestation outside host repo none).1 = .ok attested ↔
      (verifyComplete outside env host repo verifiedAt).1 = .ok (buildGroundTruth env repo attested verifiedAt) ∧
        ∃ doc, Attestation.fetch outside.enclave host = .ok doc ∧ ShowsKeys outside host attested doc := by
  refine ⟨fun groundTruth => verifyComplete_ok, fun groundTruth completed => ?_, fun attested => ?_⟩
  · obtain ⟨attested, doc, report, completes, rfl⟩ := verifyComplete_ok.mp completed
    have equal := completes.measured
    simp only [buildGroundTruth, ← completes.verification] at equal ⊢
    -- A report is of one platform.
    refine Measurement.fingerprint_of_equals (.inl rfl) equal fun across => ?_
    cases across.2
  · rw [verifyAttestation_ok, attests_iff, verifyComplete_ok]
    constructor
    · rintro ⟨doc, report, completes, shown⟩
      exact ⟨⟨attested, doc, report, completes, rfl⟩, doc, completes.fetched, shown⟩
    · rintro ⟨⟨attested', doc, report, completes, same⟩, doc', fetched, shown⟩
      obtain rfl := buildGroundTruth_injective same
      obtain rfl := Except.ok.inj (fetched.symm.trans completes.fetched)
      exact ⟨_, report, completes, shown⟩

end Complete

end Tinfoil.Client
