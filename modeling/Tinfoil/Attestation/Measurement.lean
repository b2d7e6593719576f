import Tinfoil.Attestation.Types
import Tinfoil.Der

/-! # Comparing measurements

`equals` compares what two measurements have in common, a fingerprint is of all that one of them has.
`equals_fingerprints` says where equal measurements have one fingerprint: not where a multi-platform measurement,
without MRTD and RTMR0, is compared with a TDX one.
-/

namespace Tinfoil.Attestation

inductive MeasurementError where
  | formatMismatch
  | registerMismatch
  | tooFewRegisters
  | snpMismatch
  | rtmr1Mismatch
  | rtmr2Mismatch
  | rtmr3Mismatch
  deriving DecidableEq, Repr

def rtmr3Zero : String := String.ofList (List.replicate 96 '0')

namespace Measurement

/-- The registers of `measurement` are the SNP measurement, RTMR1 and RTMR2, those of a TDX measurement MRTD
and the four RTMRs. -/
def compareMultiplatform (measurement other : Measurement) : Except MeasurementError Unit :=
  match measurement.registers with
  | expectedSnp :: expectedRtmr1 :: expectedRtmr2 :: _ =>
    match other.type with
    | .snpTdxMultiPlatformV1 =>
      if measurement.registers ≠ other.registers then .error .registerMismatch else .ok ()
    | .sevGuestV2 =>
      match other.registers with
      | actualSnp :: _ => if expectedSnp ≠ actualSnp then .error .snpMismatch else .ok ()
      | [] => .error .tooFewRegisters
    | .tdxGuestV2 =>
      match other.registers with
      | _ :: _ :: actualRtmr1 :: actualRtmr2 :: actualRtmr3 :: _ =>
        if expectedRtmr1 ≠ actualRtmr1 then .error .rtmr1Mismatch
        else if expectedRtmr2 ≠ actualRtmr2 then .error .rtmr2Mismatch
        else if actualRtmr3 ≠ rtmr3Zero then .error .rtmr3Mismatch
        else .ok ()
      | _ => .error .tooFewRegisters
    | .unknown => .error .formatMismatch
  | _ => .error .tooFewRegisters

def equals (measurement other : Measurement) : Except MeasurementError Unit :=
  if measurement.type = .snpTdxMultiPlatformV1 then measurement.compareMultiplatform other
  else if other.type = .snpTdxMultiPlatformV1 then other.compareMultiplatform measurement
  else if measurement.type ≠ other.type then .error .formatMismatch
  else if measurement.registers ≠ other.registers then .error .registerMismatch
  else .ok ()

def IsHardware (measurement : Measurement) : Prop :=
  measurement.type = .sevGuestV2 ∨ measurement.type = .tdxGuestV2

/-! ## Symmetry -/

theorem IsHardware.ne_multiPlatform {enclave : Measurement} (hardware : enclave.IsHardware) :
    enclave.type ≠ .snpTdxMultiPlatformV1 := by
  intro multi
  cases hardware with
  | inl sev => cases sev.symm.trans multi
  | inr tdx => cases tdx.symm.trans multi

/-- Of two measurements with one that hardware attests, either is compared in its own place. -/
theorem equals_comm {code enclave : Measurement} (hardware : enclave.IsHardware) :
    code.equals enclave = enclave.equals code := by
  have platform := hardware.ne_multiPlatform
  by_cases multi : code.type = .snpTdxMultiPlatformV1
  · rw [equals, equals, if_pos multi, if_neg platform, if_pos multi]
  · have types : (code.type ≠ enclave.type) = (enclave.type ≠ code.type) := propext ne_comm
    have registers : (code.registers ≠ enclave.registers) = (enclave.registers ≠ code.registers) := propext ne_comm
    rw [equals, equals, if_neg multi, if_neg platform, if_neg platform, if_neg multi]
    simp only [types, registers]

/-! ## What accepted measurements have in common -/

theorem eq_of_equals {code enclave : Measurement} (hardware : enclave.IsHardware)
    (single : code.type ≠ .snpTdxMultiPlatformV1) (accepted : code.equals enclave = .ok ()) : code = enclave := by
  rw [equals, if_neg single, if_neg hardware.ne_multiPlatform] at accepted
  split at accepted
  · cases accepted
  · rename_i types
    split at accepted
    · cases accepted
    · rename_i registers
      cases code
      cases enclave
      rw [mk.injEq]
      exact ⟨not_ne_iff.mp types, not_ne_iff.mp registers⟩

theorem compareMultiplatform_sev {code enclave : Measurement} (sev : enclave.type = .sevGuestV2)
    (accepted : code.compareMultiplatform enclave = .ok ()) :
    code.registers.headD "" = enclave.registers.headD "" := by
  unfold compareMultiplatform at accepted
  split at accepted
  · rename_i snp rtmr1 rtmr2 more registers
    rw [sev] at accepted
    dsimp only at accepted
    split at accepted
    · rename_i actual others registers'
      split at accepted
      · cases accepted
      · rename_i same
        rw [registers, registers', List.headD_cons, List.headD_cons]
        exact not_ne_iff.mp same
    · cases accepted
  · cases accepted

theorem compareMultiplatform_tdx {code enclave : Measurement} (tdx : enclave.type = .tdxGuestV2)
    (accepted : code.compareMultiplatform enclave = .ok ()) :
    3 ≤ code.registers.length ∧ 5 ≤ enclave.registers.length := by
  unfold compareMultiplatform at accepted
  split at accepted
  · rename_i registers
    rw [tdx] at accepted
    dsimp only at accepted
    split at accepted
    · rename_i registers'
      simp [registers, registers']
    · cases accepted
  · cases accepted

/-! ## Fingerprints -/

section

variable {sha256 : Bytes → Bytes} {code enclave : Measurement}

/-- These two texts have one digest. -/
def Collision (sha256 : Bytes → Bytes) (text text' : Bytes) : Prop := text ≠ text' ∧ sha256 text = sha256 text'

/-- What is hashed of a measurement with several registers. -/
def text (measurement : Measurement) : Bytes :=
  utf8Bytes (measurement.type.asUrl ++ String.join measurement.registers)

def AcrossTdx (code enclave : Measurement) : Prop :=
  code.type = .snpTdxMultiPlatformV1 ∧ enclave.type = .tdxGuestV2

theorem fingerprint_of_equals (hardware : enclave.IsHardware) (accepted : code.equals enclave = .ok ())
    (within : ¬ AcrossTdx code enclave) :
    code.fingerprintForTarget sha256 enclave.type = enclave.fingerprint sha256 := by
  by_cases multi : code.type = .snpTdxMultiPlatformV1
  · have sev : enclave.type = .sevGuestV2 := hardware.resolve_right fun tdx => within ⟨multi, tdx⟩
    rw [equals, if_pos multi] at accepted
    simp only [fingerprint, fingerprintForTarget, multi, sev]
    exact compareMultiplatform_sev sev accepted
  · rw [eq_of_equals hardware multi accepted]
    rfl

theorem fingerprintForTarget_hashed {measurement : Measurement} {target : PredicateType}
    (notSev : measurement.type ≠ .sevGuestV2) (toTdx : target = .tdxGuestV2)
    (several : 2 ≤ measurement.registers.length) :
    measurement.fingerprintForTarget sha256 target = hexEncode (sha256 measurement.text) := by
  obtain ⟨type, registers⟩ := measurement
  subst toTdx
  cases registers with
  | nil => cases several
  | cons first rest =>
    cases rest with
    | nil => cases Nat.le_of_succ_le_succ several
    | cons second others =>
      cases type with
      | sevGuestV2 => exact absurd rfl notSev
      | tdxGuestV2 => rfl
      | snpTdxMultiPlatformV1 => rfl
      | unknown => rfl

/-- The two URLs differ in the character after their common path. -/
theorem url_append_ne (text text' : String) :
    PredicateType.asUrl .snpTdxMultiPlatformV1 ++ text ≠ PredicateType.asUrl .tdxGuestV2 ++ text' := by
  intro same
  have fronts := congrArg (fun text => text.toList.take 30) same
  rw [String.toList_append, String.toList_append, List.take_append_of_le_length (by decide),
    List.take_append_of_le_length (by decide)] at fronts
  exact absurd fronts (by decide)

/-- The fingerprints of a multi-platform measurement and a TDX one are of different texts. -/
theorem collision_of_tdx (accepted : code.equals enclave = .ok ()) (across : AcrossTdx code enclave)
    (same : code.fingerprintForTarget sha256 enclave.type = enclave.fingerprint sha256) :
    Collision sha256 code.text enclave.text := by
  obtain ⟨multi, tdx⟩ := across
  rw [equals, if_pos multi] at accepted
  obtain ⟨several, several'⟩ := compareMultiplatform_tdx tdx accepted
  rw [fingerprint, fingerprintForTarget_hashed (by simp [multi]) tdx (by omega),
    fingerprintForTarget_hashed (by simp [tdx]) tdx (by omega)] at same
  refine ⟨fun texts => ?_, hexEncode_injective same⟩
  rw [text, text, multi, tdx] at texts
  exact url_append_ne _ _ (utf8Bytes_injective texts)

/-- Comparing is symmetric, and equal measurements have one fingerprint exactly unless a multi-platform one is
compared with a TDX one (short of one digest for the texts of these two). -/
theorem equals_fingerprints (sha256 : Bytes → Bytes) (code enclave : Measurement)
    (hardware : enclave.IsHardware) :
    code.equals enclave = enclave.equals code ∧
      (code.equals enclave = .ok () →
        (¬ AcrossTdx code enclave →
          code.fingerprintForTarget sha256 enclave.type = enclave.fingerprint sha256) ∧
        (AcrossTdx code enclave →
          code.fingerprintForTarget sha256 enclave.type ≠ enclave.fingerprint sha256 ∨
            Collision sha256 code.text enclave.text)) := by
  refine ⟨equals_comm hardware, fun accepted => ⟨fingerprint_of_equals hardware accepted, fun across => ?_⟩⟩
  by_cases same : code.fingerprintForTarget sha256 enclave.type = enclave.fingerprint sha256
  · exact .inr (collision_of_tdx accepted across same)
  · exact .inl same

end

/-! ## A release on both platforms -/

namespace Sample

def release : Measurement := ⟨.snpTdxMultiPlatformV1, ["snp", "rtmr1", "rtmr2"]⟩

def sevEnclave : Measurement := ⟨.sevGuestV2, ["snp"]⟩

def tdxEnclave : Measurement := ⟨.tdxGuestV2, ["mrtd", "rtmr0", "rtmr1", "rtmr2", rtmr3Zero]⟩

/-- The digests of the texts of the release and of the TDX enclave. -/
def sha256 (text : Bytes) : Bytes :=
  if text = utf8Bytes "https://tinfoil.sh/predicate/snp-tdx-multiplatform/v1snprtmr1rtmr2" then
    Der.bigEndian 32 0x23b2b1324bf0b858d609b3f268e52db9fc83ea2c118dd38331de5e2dea18ec4c
  else if text = utf8Bytes ("https://tinfoil.sh/predicate/tdx-guest/v2mrtdrtmr0rtmr1rtmr2" ++ rtmr3Zero) then
    Der.bigEndian 32 0x36902d439ca3df41ca2697b3c5ebebe3b931aa1fd051d1a84b700f6903b7d1e0
  else []

end Sample

/-- The release matches its TDX enclave, under another fingerprint. -/
theorem fingerprints_of_tdx_differ :
    Sample.tdxEnclave.IsHardware ∧ Sample.release.equals Sample.tdxEnclave = .ok () ∧
      Sample.release.fingerprintForTarget Sample.sha256 Sample.tdxEnclave.type ≠
        Sample.tdxEnclave.fingerprint Sample.sha256 := by
  refine ⟨.inr rfl, ?_, ?_⟩ <;> decide

theorem equals_fingerprints_of_sev :
    Sample.release.equals Sample.sevEnclave = Sample.sevEnclave.equals Sample.release ∧
      Sample.release.fingerprintForTarget Sample.sha256 .sevGuestV2 =
        Sample.sevEnclave.fingerprint Sample.sha256 := by
  obtain ⟨symmetric, fingerprints⟩ := equals_fingerprints Sample.sha256 Sample.release Sample.sevEnclave (.inl rfl)
  have within : ¬ AcrossTdx Sample.release Sample.sevEnclave := fun across => by cases across.2
  exact ⟨symmetric, (fingerprints (by decide)).1 within⟩

end Measurement

end Tinfoil.Attestation
