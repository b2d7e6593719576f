import Mathlib.Order.RelClasses
import Tinfoil.Sev.Validation

/-! # Stricter options

Options are ordered by what they require.  `validateReportFieldsWithOptions_antitone` says that a report
accepted under stricter options is accepted under weaker ones, with the same answer.
-/

namespace Tinfoil.Sev

/-! ## Optional requirements

Nothing set requires nothing.
-/

section Option

variable {α : Type} {le : α → α → Prop}

/-- `AtMost le` orders the requirements that are set, and one that is not below all. -/
inductive AtMost (le : α → α → Prop) : Option α → Option α → Prop where
  | unset (stricter : Option α) : AtMost le none stricter
  | set {weaker stricter : α} : le weaker stricter → AtMost le (some weaker) (some stricter)

theorem AtMost.refl [Std.Refl le] (required : Option α) : AtMost le required required := by
  cases required with
  | none => exact .unset _
  | some value => exact .set (Std.Refl.refl value)

theorem AtMost.trans [IsTrans α le] {first second third : Option α} (below : AtMost le first second)
    (above : AtMost le second third) : AtMost le first third := by
  cases below with
  | unset => exact .unset _
  | set below =>
    cases above with
    | set above => exact .set (IsTrans.trans _ _ _ below above)

/-- A check that gets harder with what is required gets harder with what is set. -/
theorem AtMost.check (check : α → Except Error Unit)
    (harder : ∀ {weaker stricter}, le weaker stricter → check stricter = .ok () → check weaker = .ok ())
    {weaker stricter : Option α} (below : AtMost le weaker stricter)
    (passed : ∀ required, stricter = some required → check required = .ok ()) :
    ∀ required, weaker = some required → check required = .ok () := by
  intro required isSet
  cases below with
  | unset => cases isSet
  | set below =>
    cases isSet
    exact harder below (passed _ rfl)

end Option

/-! ## Minima -/

namespace TcbParts

structure AtMost (parts parts' : TcbParts) : Prop where
  blSpl : parts.blSpl ≤ parts'.blSpl
  teeSpl : parts.teeSpl ≤ parts'.teeSpl
  snpSpl : parts.snpSpl ≤ parts'.snpSpl
  ucodeSpl : parts.ucodeSpl ≤ parts'.ucodeSpl

instance : Preorder TcbParts where
  le := AtMost
  le_refl _ := ⟨UInt8.le_refl _, UInt8.le_refl _, UInt8.le_refl _, UInt8.le_refl _⟩
  le_trans _ _ _ below above :=
    ⟨UInt8.le_trans below.blSpl above.blSpl, UInt8.le_trans below.teeSpl above.teeSpl,
      UInt8.le_trans below.snpSpl above.snpSpl, UInt8.le_trans below.ucodeSpl above.ucodeSpl⟩

theorem meetsMinimum_iff {parts min : TcbParts} : parts.meetsMinimum min = true ↔ min ≤ parts := by
  simp only [meetsMinimum, Bool.and_eq_true, decide_eq_true_eq, ge_iff_le]
  exact ⟨fun met => ⟨met.1.1.1, met.1.1.2, met.1.2, met.2⟩,
    fun atMost => ⟨⟨⟨atMost.blSpl, atMost.teeSpl⟩, atMost.snpSpl⟩, atMost.ucodeSpl⟩⟩

end TcbParts

section Minima

variable {report : Report}

theorem validateTcbWord_harder {what : String} {tcb : UInt64} {weaker stricter : TcbParts} (below : weaker ≤ stricter)
    (passed : validateTcbWord what tcb stricter = .ok ()) : validateTcbWord what tcb weaker = .ok () := by
  simp only [validateTcbWord, ensure_ok, TcbParts.meetsMinimum_iff] at passed ⊢
  exact le_trans below passed

theorem validateMinimumTcb_harder {weaker stricter : TcbParts} (below : weaker ≤ stricter)
    (passed : validateMinimumTcb report stricter = .ok ()) : validateMinimumTcb report weaker = .ok () := by
  simp only [validateMinimumTcb, bind_ok] at passed ⊢
  obtain ⟨_, reported, _, current, committed⟩ := passed
  exact ⟨(), validateTcbWord_harder below reported, (), validateTcbWord_harder below current,
    validateTcbWord_harder below committed⟩

theorem validateGuestSvn_harder {weaker stricter : UInt32} (below : weaker ≤ stricter)
    (passed : validateGuestSvn report stricter = .ok ()) : validateGuestSvn report weaker = .ok () := by
  simp only [validateGuestSvn, ensure_ok, UInt32.not_lt] at passed ⊢
  exact UInt32.le_trans below passed

theorem validateMinimumBuild_harder {weaker stricter : UInt8} (below : weaker ≤ stricter)
    (passed : validateMinimumBuild report stricter = .ok ()) : validateMinimumBuild report weaker = .ok () := by
  simp only [validateMinimumBuild, bind_ok, ensure_ok, UInt8.not_lt, exists_const] at passed ⊢
  exact ⟨UInt8.le_trans below passed.1, UInt8.le_trans below passed.2⟩

theorem validateMinimumVersion_harder {weaker stricter : UInt16} (below : weaker ≤ stricter)
    (passed : validateMinimumVersion report stricter = .ok ()) : validateMinimumVersion report weaker = .ok () := by
  simp only [validateMinimumVersion, validateVersionWord, bind_ok, ensure_ok, UInt16.not_lt, exists_const]
    at passed ⊢
  exact ⟨UInt16.le_trans below passed.1, UInt16.le_trans below passed.2⟩

end Minima

/-! ## Guest policy and platform -/

theorem versionWord_toNat (major minor : UInt8) : (versionWord major minor).toNat = major.toNat * 256 + minor.toNat := by
  have low := minor.toNat_lt
  have fits : major.toNat <<< 8 < 2 ^ 16 := by
    have high := major.toNat_lt
    rw [Nat.shiftLeft_eq]
    omega
  have place : (8 : UInt16).toNat % 16 = 8 := rfl
  rw [versionWord, UInt16.toNat_or, UInt16.toNat_shiftLeft, UInt8.toNat_toUInt16, UInt8.toNat_toUInt16, place,
    Nat.mod_eq_of_lt fits, Nat.shiftLeft_eq, Nat.mul_comm, ← Nat.two_pow_add_eq_or_of_lt low]

namespace SnpPolicy

/-- A later ABI, fewer capabilities, more restrictions, and the same memory encryption. -/
structure AtMost (weaker stricter : SnpPolicy) : Prop where
  abi : weaker.abiMajor < stricter.abiMajor ∨
    weaker.abiMajor = stricter.abiMajor ∧ weaker.abiMinor ≤ stricter.abiMinor
  smt : stricter.smt → weaker.smt
  migrateMa : stricter.migrateMa → weaker.migrateMa
  debug : stricter.debug → weaker.debug
  cxlAllowed : stricter.cxlAllowed → weaker.cxlAllowed
  memAes256Xts : weaker.memAes256Xts = stricter.memAes256Xts
  singleSocket : weaker.singleSocket → stricter.singleSocket
  raplDis : weaker.raplDis → stricter.raplDis
  ciphertextHidingDram : weaker.ciphertextHidingDram → stricter.ciphertextHidingDram
  pageSwapDisabled : weaker.pageSwapDisabled → stricter.pageSwapDisabled

theorem AtMost.versionWord {weaker stricter : SnpPolicy} (below : weaker.AtMost stricter) :
    versionWord weaker.abiMajor weaker.abiMinor ≤ versionWord stricter.abiMajor stricter.abiMinor := by
  have minor := weaker.abiMinor.toNat_lt
  rw [UInt16.le_iff_toNat_le, versionWord_toNat, versionWord_toNat]
  cases below.abi with
  | inl major =>
    rw [UInt8.lt_iff_toNat_lt] at major
    omega
  | inr same =>
    have minors := UInt8.le_iff_toNat_le.mp same.2
    rw [same.1]
    omega

instance : Preorder SnpPolicy where
  le := AtMost
  le_refl policy := ⟨.inr ⟨rfl, UInt8.le_refl _⟩, id, id, id, id, rfl, id, id, id, id⟩
  le_trans first second third below above :=
    { abi := by
        cases below.abi with
        | inl major =>
          cases above.abi with
          | inl major' => exact .inl (UInt8.lt_trans major major')
          | inr same => exact .inl (same.1 ▸ major)
        | inr same =>
          cases above.abi with
          | inl major' => exact .inl (same.1 ▸ major')
          | inr same' => exact .inr ⟨same.1.trans same'.1, UInt8.le_trans same.2 same'.2⟩
      smt := below.smt ∘ above.smt
      migrateMa := below.migrateMa ∘ above.migrateMa
      debug := below.debug ∘ above.debug
      cxlAllowed := below.cxlAllowed ∘ above.cxlAllowed
      memAes256Xts := below.memAes256Xts.trans above.memAes256Xts
      singleSocket := above.singleSocket ∘ below.singleSocket
      raplDis := above.raplDis ∘ below.raplDis
      ciphertextHidingDram := above.ciphertextHidingDram ∘ below.ciphertextHidingDram
      pageSwapDisabled := above.pageSwapDisabled ∘ below.pageSwapDisabled }

end SnpPolicy

theorem validatePolicy_harder {reportPolicy weaker stricter : SnpPolicy} (below : weaker ≤ stricter)
    (passed : validatePolicy reportPolicy stricter = .ok ()) : validatePolicy reportPolicy weaker = .ok () := by
  simp only [validatePolicy, bind_ok, ensure_ok, exists_const, gt_iff_lt, UInt16.not_lt] at passed ⊢
  obtain ⟨abi, migrateMa, debug, smt, cxlAllowed, encryption, encryption', singleSocket, raplDis,
    ciphertextHidingDram, pageSwapDisabled⟩ := passed
  have sameEncryption := below.memAes256Xts
  -- Permissions are composed after the check, requirements before it.
  exact ⟨UInt16.le_trans below.versionWord abi, below.migrateMa ∘ migrateMa, below.debug ∘ debug, below.smt ∘ smt,
    below.cxlAllowed ∘ cxlAllowed, sameEncryption ▸ encryption, sameEncryption ▸ encryption',
    singleSocket ∘ below.singleSocket, raplDis ∘ below.raplDis,
    ciphertextHidingDram ∘ below.ciphertextHidingDram, pageSwapDisabled ∘ below.pageSwapDisabled⟩

namespace SnpPlatformInfo

/-- SMT where both allow it, and more requirements. -/
structure AtMost (weaker stricter : SnpPlatformInfo) : Prop where
  smtEnabled : stricter.smtEnabled → weaker.smtEnabled
  tsmeEnabled : weaker.tsmeEnabled → stricter.tsmeEnabled
  eccEnabled : weaker.eccEnabled → stricter.eccEnabled
  raplDisabled : weaker.raplDisabled → stricter.raplDisabled
  ciphertextHidingDramEnabled : weaker.ciphertextHidingDramEnabled → stricter.ciphertextHidingDramEnabled
  aliasCheckComplete : weaker.aliasCheckComplete → stricter.aliasCheckComplete
  tioEnabled : weaker.tioEnabled → stricter.tioEnabled

instance : Preorder SnpPlatformInfo where
  le := AtMost
  le_refl _ := ⟨id, id, id, id, id, id, id⟩
  le_trans _ _ _ below above :=
    { smtEnabled := below.smtEnabled ∘ above.smtEnabled
      tsmeEnabled := above.tsmeEnabled ∘ below.tsmeEnabled
      eccEnabled := above.eccEnabled ∘ below.eccEnabled
      raplDisabled := above.raplDisabled ∘ below.raplDisabled
      ciphertextHidingDramEnabled := above.ciphertextHidingDramEnabled ∘ below.ciphertextHidingDramEnabled
      aliasCheckComplete := above.aliasCheckComplete ∘ below.aliasCheckComplete
      tioEnabled := above.tioEnabled ∘ below.tioEnabled }

end SnpPlatformInfo

theorem validatePlatformInfo_harder {reportInfo weaker stricter : SnpPlatformInfo} (below : weaker ≤ stricter)
    (passed : validatePlatformInfo reportInfo stricter = .ok ()) : validatePlatformInfo reportInfo weaker = .ok () := by
  simp only [validatePlatformInfo, bind_ok, ensure_ok, exists_const] at passed ⊢
  obtain ⟨smt, tsme, ecc, rapl, ciphertextHiding, aliasCheck, tio⟩ := passed
  exact ⟨below.smtEnabled ∘ smt, tsme ∘ below.tsmeEnabled, ecc ∘ below.eccEnabled, rapl ∘ below.raplDisabled,
    ciphertextHiding ∘ below.ciphertextHidingDramEnabled, aliasCheck ∘ below.aliasCheckComplete,
    tio ∘ below.tioEnabled⟩

section Report

variable {report : Report}

theorem validateReportPlatform_harder {weaker stricter : SnpPlatformInfo} (below : weaker ≤ stricter)
    (passed : validateReportPlatform report stricter = .ok ()) : validateReportPlatform report weaker = .ok () := by
  simp only [validateReportPlatform, bind_ok, ensure_ok, exists_const] at passed ⊢
  exact ⟨passed.1, validatePlatformInfo_harder below passed.2⟩

theorem validateGuestPolicy_harder {weaker stricter : Option SnpPolicy} (below : AtMost (· ≤ ·) weaker stricter)
    (passed : validateGuestPolicy report stricter = .ok ()) : validateGuestPolicy report weaker = .ok () := by
  simp only [validateGuestPolicy, bind_ok, ensure_ok, whenSome_ok, exists_const] at passed ⊢
  exact ⟨passed.1, passed.2.1, below.check (validatePolicy _) validatePolicy_harder passed.2.2⟩

theorem AtMost.checkEqual {α : Type} {check : α → Except Error Unit} {weaker stricter : Option α}
    (below : AtMost Eq weaker stricter) (passed : ∀ required, stricter = some required → check required = .ok ()) :
    ∀ required, weaker = some required → check required = .ok () := by
  refine below.check check ?_ passed
  intro _ _ same passed
  rwa [same]

theorem validateVmpl_harder {weaker stricter : Option UInt8} (below : AtMost Eq weaker stricter)
    (passed : validateVmpl report stricter = .ok ()) : validateVmpl report weaker = .ok () := by
  simp only [validateVmpl, bind_ok, whenSome_ok] at passed ⊢
  obtain ⟨_, range, expected⟩ := passed
  exact ⟨(), range, below.checkEqual expected⟩

theorem validateEqual_harder {size : Nat} {name : String} {actual : Bytes} {weaker stricter : Option (Octets size)}
    (below : AtMost Eq weaker stricter) (passed : validateEqual name actual stricter = .ok ()) :
    validateEqual name actual weaker = .ok () := by
  simp only [validateEqual, whenSome_ok] at passed ⊢
  exact below.checkEqual passed

end Report

/-! ## All options -/

namespace ValidationOptions

structure AtMost (weaker stricter : ValidationOptions) : Prop where
  guestPolicy : Sev.AtMost (· ≤ ·) weaker.guestPolicy stricter.guestPolicy
  minimumGuestSvn : Sev.AtMost (· ≤ ·) weaker.minimumGuestSvn stricter.minimumGuestSvn
  minimumBuild : Sev.AtMost (· ≤ ·) weaker.minimumBuild stricter.minimumBuild
  minimumVersion : Sev.AtMost (· ≤ ·) weaker.minimumVersion stricter.minimumVersion
  minimumTcb : Sev.AtMost (· ≤ ·) weaker.minimumTcb stricter.minimumTcb
  minimumLaunchTcb : Sev.AtMost (· ≤ ·) weaker.minimumLaunchTcb stricter.minimumLaunchTcb
  permitProvisionalFirmware : weaker.permitProvisionalFirmware = stricter.permitProvisionalFirmware
  platformInfo : Sev.AtMost (· ≤ ·) weaker.platformInfo stricter.platformInfo
  vmpl : Sev.AtMost Eq weaker.vmpl stricter.vmpl
  reportData : Sev.AtMost Eq weaker.reportData stricter.reportData
  hostData : Sev.AtMost Eq weaker.hostData stricter.hostData
  imageId : Sev.AtMost Eq weaker.imageId stricter.imageId
  familyId : Sev.AtMost Eq weaker.familyId stricter.familyId
  reportId : Sev.AtMost Eq weaker.reportId stricter.reportId
  reportIdMa : Sev.AtMost Eq weaker.reportIdMa stricter.reportIdMa
  measurement : Sev.AtMost Eq weaker.measurement stricter.measurement
  chipId : Sev.AtMost Eq weaker.chipId stricter.chipId

instance : Preorder ValidationOptions where
  le := AtMost
  le_refl _ :=
    { guestPolicy := .refl _
      minimumGuestSvn := .refl _
      minimumBuild := .refl _
      minimumVersion := .refl _
      minimumTcb := .refl _
      minimumLaunchTcb := .refl _
      permitProvisionalFirmware := rfl
      platformInfo := .refl _
      vmpl := .refl _
      reportData := .refl _
      hostData := .refl _
      imageId := .refl _
      familyId := .refl _
      reportId := .refl _
      reportIdMa := .refl _
      measurement := .refl _
      chipId := .refl _ }
  le_trans _ _ _ below above :=
    { guestPolicy := below.guestPolicy.trans above.guestPolicy
      minimumGuestSvn := below.minimumGuestSvn.trans above.minimumGuestSvn
      minimumBuild := below.minimumBuild.trans above.minimumBuild
      minimumVersion := below.minimumVersion.trans above.minimumVersion
      minimumTcb := below.minimumTcb.trans above.minimumTcb
      minimumLaunchTcb := below.minimumLaunchTcb.trans above.minimumLaunchTcb
      permitProvisionalFirmware := below.permitProvisionalFirmware.trans above.permitProvisionalFirmware
      platformInfo := below.platformInfo.trans above.platformInfo
      vmpl := below.vmpl.trans above.vmpl
      reportData := below.reportData.trans above.reportData
      hostData := below.hostData.trans above.hostData
      imageId := below.imageId.trans above.imageId
      familyId := below.familyId.trans above.familyId
      reportId := below.reportId.trans above.reportId
      reportIdMa := below.reportIdMa.trans above.reportIdMa
      measurement := below.measurement.trans above.measurement
      chipId := below.chipId.trans above.chipId }

end ValidationOptions

theorem validateEqualities_harder {report : Report} {weaker stricter : ValidationOptions} (below : weaker ≤ stricter)
    (passed : validateEqualities report stricter = .ok ()) : validateEqualities report weaker = .ok () := by
  simp only [validateEqualities, bind_ok] at passed ⊢
  obtain ⟨_, reportData, _, hostData, _, imageId, _, familyId, _, reportId, _, reportIdMa, _, measurement,
    chipId⟩ := passed
  exact ⟨(), validateEqual_harder below.reportData reportData, (), validateEqual_harder below.hostData hostData, (),
    validateEqual_harder below.imageId imageId, (), validateEqual_harder below.familyId familyId, (),
    validateEqual_harder below.reportId reportId, (), validateEqual_harder below.reportIdMa reportIdMa, (),
    validateEqual_harder below.measurement measurement, validateEqual_harder below.chipId chipId⟩

theorem FieldsAccepted.antitone {report : Report} {weaker stricter : ValidationOptions} {maskChipKey : Bool}
    (below : weaker ≤ stricter) (accepted : FieldsAccepted report stricter maskChipKey) :
    FieldsAccepted report weaker maskChipKey where
  zeroFields := accepted.zeroFields
  signatureAlgo := accepted.signatureAlgo
  signerInfo := accepted.signerInfo
  provisional := below.permitProvisionalFirmware.trans accepted.provisional
  committedTcb := accepted.committedTcb
  guestPolicy := validateGuestPolicy_harder below.guestPolicy accepted.guestPolicy
  guestSvn := below.minimumGuestSvn.check (validateGuestSvn report) validateGuestSvn_harder accepted.guestSvn
  build := below.minimumBuild.check (validateMinimumBuild report) validateMinimumBuild_harder accepted.build
  version := below.minimumVersion.check (validateMinimumVersion report) validateMinimumVersion_harder accepted.version
  tcb := below.minimumTcb.check (validateMinimumTcb report) validateMinimumTcb_harder accepted.tcb
  launchTcb :=
    below.minimumLaunchTcb.check (validateTcbWord "Launch" report.launchTcb) validateTcbWord_harder accepted.launchTcb
  platform := below.platformInfo.check (validateReportPlatform report) validateReportPlatform_harder accepted.platform
  vmpl := validateVmpl_harder below.vmpl accepted.vmpl
  equalities := validateEqualities_harder below accepted.equalities

/-- Stricter options accept no further report, and answer alike for those that they accept. -/
theorem validateReportFieldsWithOptions_antitone {report : Report} {weaker stricter : ValidationOptions}
    {maskChipKey : Bool} (below : weaker ≤ stricter)
    (accepted : validateReportFieldsWithOptions report stricter = .ok maskChipKey) :
    validateReportFieldsWithOptions report weaker = .ok maskChipKey :=
  fieldsAccepted_iff.mpr (.antitone below (fieldsAccepted_iff.mp accepted))

/-- The default options, with the report data and the chip that the report must name. -/
def Sample.pinned : ValidationOptions :=
  { ValidationOptions.default with
    reportData := some ⟨Sample.zeros 64, List.length_replicate⟩
    chipId := some ⟨Sample.chipId, by decide⟩ }

theorem validateReportFieldsWithOptions_default :
    validateReportFieldsWithOptions (Sample.report 2 Sample.unsigned) .default = .ok false := by
  have unpinned : ValidationOptions.AtMost .default .default := le_refl ValidationOptions.default
  have below : ValidationOptions.default ≤ Sample.pinned :=
    { unpinned with reportData := .unset _, chipId := .unset _ }
  exact validateReportFieldsWithOptions_antitone below (by decide +kernel)

/-! ## With the VCEK -/

theorem validateReportWithChain_antitone {library : CertificateLibrary} {report : Report} {vcek : Bytes}
    {weaker stricter : ValidationOptions} {maskChipKey : Bool} (below : weaker ≤ stricter)
    (accepted : validateReportWithChain library report vcek stricter = .ok maskChipKey) :
    validateReportWithChain library report vcek weaker = .ok maskChipKey := by
  rw [validateReportWithChain_ok] at accepted ⊢
  exact ⟨accepted.1.antitone below, accepted.2⟩

end Tinfoil.Sev
