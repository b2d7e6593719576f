import Tinfoil.Sev.Vcek

/-! # Validation of reports

`validateReportWithChain` checks the fields of a report against the options and the reported TCB against
the VCEK.  `accepted_words` says that what it accepts has no bit outside the decoded fields.
-/

namespace Tinfoil.Sev

/-! ## Options -/

structure ValidationOptions where
  guestPolicy : Option SnpPolicy
  minimumGuestSvn : Option UInt32
  minimumBuild : Option UInt8
  /-- Major version above minor version. -/
  minimumVersion : Option UInt16
  minimumTcb : Option TcbParts
  minimumLaunchTcb : Option TcbParts
  permitProvisionalFirmware : Bool
  platformInfo : Option SnpPlatformInfo
  vmpl : Option UInt8
  reportData : Option (Octets 64)
  hostData : Option (Octets 32)
  imageId : Option (Octets 16)
  familyId : Option (Octets 16)
  reportId : Option (Octets 32)
  reportIdMa : Option (Octets 32)
  measurement : Option (Octets 48)
  chipId : Option (Octets 64)

def defaultTcb : TcbParts where
  blSpl := 0x7
  teeSpl := 0
  snpSpl := 0xe
  ucodeSpl := 0x48

def ValidationOptions.default : ValidationOptions where
  guestPolicy := some {
    abiMinor := 0, abiMajor := 0, smt := true, migrateMa := false, debug := false, singleSocket := false,
    cxlAllowed := false, memAes256Xts := false, raplDis := false, ciphertextHidingDram := false,
    pageSwapDisabled := false }
  minimumGuestSvn := some 0
  minimumBuild := some 21
  minimumVersion := some ((1 : UInt16) <<< 8 ||| 55)
  minimumTcb := some defaultTcb
  minimumLaunchTcb := some defaultTcb
  permitProvisionalFirmware := false
  platformInfo := some {
    smtEnabled := true, tsmeEnabled := true, eccEnabled := false, raplDisabled := false,
    ciphertextHidingDramEnabled := false, aliasCheckComplete := false, tioEnabled := false }
  vmpl := some 0
  reportData := none
  hostData := none
  imageId := none
  familyId := none
  reportId := none
  reportIdMa := none
  measurement := none
  chipId := none

def whenSome {α : Type} (option : Option α) (check : α → Except Error Unit) : Except Error Unit :=
  match option with
  | some value => check value
  | none => .ok ()

@[simp] theorem whenSome_ok {α : Type} {option : Option α} {check : α → Except Error Unit} {result : Unit} :
    whenSome option check = .ok result ↔ ∀ value, option = some value → check value = .ok () := by
  cases option <;> simp [whenSome]

/-! ## Firmware -/

/-- One field of the committed firmware against the one of the running firmware. -/
def validateCommitted (name : String) (committed current : UInt8) : Except Error Unit :=
  ensure (committed = current)
    ("Provisional firmware: committed_" ++ name ++ " (" ++ toString committed.toNat ++ ") != current_" ++ name ++
      " (" ++ toString current.toNat ++ ")")

def validateCommittedTcb (report : Report) : Except Error Unit := do
  ensure (report.committedTcb = report.currentTcb)
    ("Provisional firmware not allowed: committed_tcb (0x" ++ lowerHex report.committedTcb.toNat ++
      ") != current_tcb (0x" ++ lowerHex report.currentTcb.toNat ++ ")")
  validateCommitted "build" report.committedBuild report.currentBuild
  validateCommitted "minor" report.committedMinor report.currentMinor
  validateCommitted "major" report.committedMajor report.currentMajor

def validateMinimumBuild (report : Report) (minBuild : UInt8) : Except Error Unit := do
  ensure (¬ report.currentBuild < minBuild)
    ("Current firmware build " ++ toString report.currentBuild.toNat ++ " is below minimum " ++
      toString minBuild.toNat)
  ensure (¬ report.committedBuild < minBuild)
    ("Committed firmware build " ++ toString report.committedBuild.toNat ++ " is below minimum " ++
      toString minBuild.toNat)

/-- A major version above a minor one. -/
def versionWord (major minor : UInt8) : UInt16 := major.toUInt16 <<< 8 ||| minor.toUInt16

def showVersion (major minor : UInt8) : String := toString major.toNat ++ "." ++ toString minor.toNat

def validateVersionWord (what : String) (major minor : UInt8) (minVersion : UInt16) : Except Error Unit :=
  ensure (¬ versionWord major minor < minVersion)
    (what ++ " firmware version " ++ showVersion major minor ++ " is below minimum " ++
      showVersion (minVersion >>> 8).toUInt8 (minVersion &&& 0xFF).toUInt8)

def validateMinimumVersion (report : Report) (minVersion : UInt16) : Except Error Unit := do
  validateVersionWord "Current" report.currentMajor report.currentMinor minVersion
  validateVersionWord "Committed" report.committedMajor report.committedMinor minVersion

def validateGuestSvn (report : Report) (minGuestSvn : UInt32) : Except Error Unit :=
  ensure (¬ report.guestSvn < minGuestSvn)
    ("Guest SVN " ++ toString report.guestSvn.toNat ++ " is below minimum " ++ toString minGuestSvn.toNat)

/-- The `Debug` rendering. -/
def TcbParts.debug (parts : TcbParts) : String :=
  "TcbParts \x7b bl_spl: " ++ toString parts.blSpl.toNat ++ ", tee_spl: " ++ toString parts.teeSpl.toNat ++
    ", snp_spl: " ++ toString parts.snpSpl.toNat ++ ", ucode_spl: " ++ toString parts.ucodeSpl.toNat ++ " \x7d"

def validateTcbWord (what : String) (tcb : UInt64) (minTcb : TcbParts) : Except Error Unit :=
  ensure ((TcbParts.fromU64 tcb).meetsMinimum minTcb)
    (what ++ " TCB (" ++ (TcbParts.fromU64 tcb).debug ++ ") below minimum (" ++ minTcb.debug ++ ")")

def validateMinimumTcb (report : Report) (minTcb : TcbParts) : Except Error Unit := do
  validateTcbWord "Reported" report.reportedTcb minTcb
  validateTcbWord "Current" report.currentTcb minTcb
  validateTcbWord "Committed" report.committedTcb minTcb

/-! ## Guest policy and platform -/

/-- What the report may do only with permission, and what it must do where that is required. -/
def validatePolicy (reportPolicy required : SnpPolicy) : Except Error Unit := do
  ensure (¬ versionWord required.abiMajor required.abiMinor > versionWord reportPolicy.abiMajor reportPolicy.abiMinor)
    ("Required ABI version (" ++ showVersion required.abiMajor required.abiMinor ++
      ") is greater than report's ABI version (" ++ showVersion reportPolicy.abiMajor reportPolicy.abiMinor ++ ")")
  ensure (reportPolicy.migrateMa → required.migrateMa) "Unauthorized migration agent capability"
  ensure (reportPolicy.debug → required.debug) "Debug mode not allowed"
  ensure (reportPolicy.smt → required.smt) "Unauthorized SMT capability"
  ensure (reportPolicy.cxlAllowed → required.cxlAllowed) "Unauthorized CXL capability"
  ensure (reportPolicy.memAes256Xts → required.memAes256Xts)
    "Unauthorized memory encryption mode (AES-256-XTS)"
  ensure (required.memAes256Xts → reportPolicy.memAes256Xts)
    "AES-256-XTS memory encryption required but not present"
  ensure (required.singleSocket → reportPolicy.singleSocket)
    "Single socket restriction required but not present"
  ensure (required.raplDis → reportPolicy.raplDis) "RAPL disabled required but not present"
  ensure (required.ciphertextHidingDram → reportPolicy.ciphertextHidingDram)
    "Ciphertext hiding in DRAM required but not enforced"
  ensure (required.pageSwapDisabled → reportPolicy.pageSwapDisabled)
    "Page swap disabled required but not present"

def validatePlatformInfo (reportInfo required : SnpPlatformInfo) : Except Error Unit := do
  ensure (reportInfo.smtEnabled → required.smtEnabled) "Unauthorized platform feature SMT enabled"
  ensure (required.tsmeEnabled → reportInfo.tsmeEnabled) "TSME required but not enabled on platform"
  ensure (required.eccEnabled → reportInfo.eccEnabled) "ECC required but not enabled on platform"
  ensure (required.raplDisabled → reportInfo.raplDisabled)
    "RAPL disabled required but RAPL is enabled on platform"
  ensure (required.ciphertextHidingDramEnabled → reportInfo.ciphertextHidingDramEnabled)
    "Ciphertext hiding in DRAM required but not enabled on platform"
  ensure (required.aliasCheckComplete → reportInfo.aliasCheckComplete)
    "Alias check completion required but not complete on platform"
  ensure (required.tioEnabled → reportInfo.tioEnabled) "TIO required but not enabled on platform"

/-- The fixed bits are checked of every policy, the others where a policy is required. -/
def validateGuestPolicy (report : Report) (guestPolicy : Option SnpPolicy) : Except Error Unit := do
  let policyRaw := report.policy
  ensure (policyRaw &&& SnpPolicy.reservedBit17 ≠ 0) "Policy bit 17 must be 1 (reserved)"
  ensure (policyRaw >>> 26 = 0)
    ("Policy bits 63-26 must be zero, got 0x" ++ lowerHex (policyRaw >>> 26).toNat)
  whenSome guestPolicy (validatePolicy (SnpPolicy.fromU64 policyRaw))

/-- The reserved bits are checked only where platform info is required. -/
def validateReportPlatform (report : Report) (required : SnpPlatformInfo) : Except Error Unit := do
  let platformInfoRaw := report.platformInfo
  ensure (platformInfoRaw &&& ~~~SnpPlatformInfo.validMask = 0)
    ("Platform info has non-zero reserved bits: 0x" ++ lowerHex platformInfoRaw.toNat)
  validatePlatformInfo (SnpPlatformInfo.fromU64 platformInfoRaw) required

def validateVmpl (report : Report) (expectedVmpl : Option UInt8) : Except Error Unit := do
  ensure (¬ report.vmpl > 3) ("VMPL " ++ toString report.vmpl.toNat ++ " is not in valid range 0-3")
  whenSome expectedVmpl fun expected =>
    ensure (report.vmpl = expected.toUInt32)
      ("VMPL mismatch: expected " ++ toString expected.toNat ++ ", got " ++ toString report.vmpl.toNat)

/-! ## The whole report -/

def validateEqual {size : Nat} (name : String) (actual : Bytes) (expected : Option (Octets size)) :
    Except Error Unit :=
  whenSome expected fun expected =>
    ensure (actual = expected.val)
      (name ++ " mismatch: expected " ++ hexEncode expected.val ++ ", got " ++ hexEncode actual)

def validateEqualities (report : Report) (options : ValidationOptions) : Except Error Unit := do
  validateEqual "report_data" report.reportData options.reportData
  validateEqual "host_data" report.hostData options.hostData
  validateEqual "image_id" report.imageId options.imageId
  validateEqual "family_id" report.familyId options.familyId
  validateEqual "report_id" report.reportId options.reportId
  validateEqual "report_id_ma" report.reportIdMa options.reportIdMa
  validateEqual "measurement" report.measurement options.measurement
  validateEqual "chip_id" report.chipId options.chipId

def signatureAlgoEcdsaP384Sha384 : UInt32 := 1

/-- Whether the report masks the chip key. -/
def validateReportFieldsWithOptions (report : Report) (options : ValidationOptions) : Except Error Bool := do
  validateMbzFields report
  ensure (report.signatureAlgo = signatureAlgoEcdsaP384Sha384)
    ("Unsupported signature algorithm: " ++ toString report.signatureAlgo.toNat ++
      ", only ECDSA P-384 SHA-384 (1) is supported")
  let maskChipKey ← validateSignerInfo report
  ensure (options.permitProvisionalFirmware = false) "permit_provisional_firmware=true is not supported"
  validateCommittedTcb report
  validateGuestPolicy report options.guestPolicy
  whenSome options.minimumGuestSvn (validateGuestSvn report)
  whenSome options.minimumBuild (validateMinimumBuild report)
  whenSome options.minimumVersion (validateMinimumVersion report)
  whenSome options.minimumTcb (validateMinimumTcb report)
  whenSome options.minimumLaunchTcb (validateTcbWord "Launch" report.launchTcb)
  whenSome options.platformInfo (validateReportPlatform report)
  validateVmpl report options.vmpl
  validateEqualities report options
  return maskChipKey

def validateReportWithChain (library : CertificateLibrary) (report : Report) (vcek : Bytes)
    (options : ValidationOptions) : Except Error Bool := do
  let maskChipKey ← validateReportFieldsWithOptions report options
  validateVcekExtensions library vcek (report.slice 384 8)
  return maskChipKey

/-! ## What acceptance guarantees -/

structure FieldsAccepted (report : Report) (options : ValidationOptions) (maskChipKey : Bool) : Prop where
  zeroFields : ZeroFields report
  signatureAlgo : report.signatureAlgo = signatureAlgoEcdsaP384Sha384
  signerInfo : validateSignerInfo report = .ok maskChipKey
  provisional : options.permitProvisionalFirmware = false
  committedTcb : validateCommittedTcb report = .ok ()
  guestPolicy : validateGuestPolicy report options.guestPolicy = .ok ()
  guestSvn : ∀ minGuestSvn, options.minimumGuestSvn = some minGuestSvn → validateGuestSvn report minGuestSvn = .ok ()
  build : ∀ minBuild, options.minimumBuild = some minBuild → validateMinimumBuild report minBuild = .ok ()
  version : ∀ minVersion, options.minimumVersion = some minVersion →
    validateMinimumVersion report minVersion = .ok ()
  tcb : ∀ minTcb, options.minimumTcb = some minTcb → validateMinimumTcb report minTcb = .ok ()
  launchTcb : ∀ minTcb, options.minimumLaunchTcb = some minTcb →
    validateTcbWord "Launch" report.launchTcb minTcb = .ok ()
  platform : ∀ required, options.platformInfo = some required → validateReportPlatform report required = .ok ()
  vmpl : validateVmpl report options.vmpl = .ok ()
  equalities : validateEqualities report options = .ok ()

theorem fieldsAccepted_iff {report : Report} {options : ValidationOptions} {maskChipKey : Bool} :
    validateReportFieldsWithOptions report options = .ok maskChipKey ↔
      FieldsAccepted report options maskChipKey := by
  simp only [validateReportFieldsWithOptions, bind_ok, ensure_ok, whenSome_ok]
  constructor
  · intro passed
    obtain ⟨_, mbz, _, signatureAlgo, mask, signerInfo, _, provisional, _, committedTcb, _, guestPolicy, _,
      guestSvn, _, build, _, version, _, tcb, _, launchTcb, _, platform, _, vmpl, _, equalities, same⟩ := passed
    cases same
    exact { zeroFields := validateMbzFields_ok.mp mbz, signatureAlgo, signerInfo, provisional, committedTcb,
            guestPolicy, guestSvn, build, version, tcb, launchTcb, platform, vmpl, equalities }
  · intro accepted
    exact ⟨(), validateMbzFields_ok.mpr accepted.zeroFields, (), accepted.signatureAlgo, maskChipKey,
      accepted.signerInfo, (), accepted.provisional, (), accepted.committedTcb, (), accepted.guestPolicy, (),
      accepted.guestSvn, (), accepted.build, (), accepted.version, (), accepted.tcb, (), accepted.launchTcb, (),
      accepted.platform, (), accepted.vmpl, (), accepted.equalities, rfl⟩

theorem validateReportWithChain_ok {library : CertificateLibrary} {report : Report} {vcek : Bytes}
    {options : ValidationOptions} {maskChipKey : Bool} :
    validateReportWithChain library report vcek options = .ok maskChipKey ↔
      FieldsAccepted report options maskChipKey ∧
        validateVcekExtensions library vcek (report.slice 384 8) = .ok () := by
  simp only [validateReportWithChain, bind_ok, fieldsAccepted_iff]
  constructor
  · intro passed
    obtain ⟨mask, accepted, _, extensions, same⟩ := passed
    cases same
    exact ⟨accepted, extensions⟩
  · intro passed
    exact ⟨maskChipKey, passed.1, (), passed.2, rfl⟩

/-! ## The words of accepted reports -/

namespace FieldsAccepted

variable {report : Report} {options : ValidationOptions} {maskChipKey : Bool}

theorem policy_wellFormed (accepted : FieldsAccepted report options maskChipKey) :
    SnpPolicy.WellFormed report.policy := by
  have checked := accepted.guestPolicy
  simp only [validateGuestPolicy, bind_ok, ensure_ok] at checked
  obtain ⟨_, bit17, _, high, -⟩ := checked
  exact { bit17, high }

theorem platform_wellFormed (accepted : FieldsAccepted report options maskChipKey)
    (required : options.platformInfo.isSome) : SnpPlatformInfo.WellFormed report.platformInfo := by
  obtain ⟨info, set⟩ := Option.isSome_iff_exists.mp required
  have checked := accepted.platform info set
  simp only [validateReportPlatform, bind_ok, ensure_ok] at checked
  obtain ⟨_, reserved, -⟩ := checked
  exact reserved

theorem committed_eq_current (accepted : FieldsAccepted report options maskChipKey) :
    report.committedTcb = report.currentTcb := by
  have checked := accepted.committedTcb
  simp only [validateCommittedTcb, bind_ok, ensure_ok] at checked
  exact checked.choose_spec.1

end FieldsAccepted

theorem reportedTcb_of_vcek {library : CertificateLibrary} {report : Report} {vcek : Bytes}
    {options : ValidationOptions} {maskChipKey : Bool} {parts : TcbParts}
    (accepted : validateReportWithChain library report vcek options = .ok maskChipKey)
    (tcb : VcekTcb library vcek parts) : report.reportedTcb = parts.toU64 := by
  obtain ⟨fields, extensions⟩ := validateReportWithChain_ok.mp accepted
  rw [tcb.unique (vcekTcb_of_validated extensions)]
  exact (TcbParts.toU64_fromU64 fields.zeroFields.reportedTcb).symm

/-- The six words of accepted reports are determined by what is decoded from them, the committed TCB is
the current one, and the VCEK fixes the reported TCB and, where its key is not masked, the chip. -/
theorem accepted_words {library : CertificateLibrary} {report report' : Report} {vcek vcek' : Bytes}
    {options options' : ValidationOptions} {maskChipKey maskChipKey' : Bool}
    (required : options.platformInfo.isSome) (required' : options'.platformInfo.isSome)
    (accepted : validateReportWithChain library report vcek options = .ok maskChipKey)
    (accepted' : validateReportWithChain library report' vcek' options' = .ok maskChipKey') :
    (SnpPolicy.fromU64 report.policy = SnpPolicy.fromU64 report'.policy → report.policy = report'.policy) ∧
    (SnpPlatformInfo.fromU64 report.platformInfo = SnpPlatformInfo.fromU64 report'.platformInfo →
      report.platformInfo = report'.platformInfo) ∧
    (TcbParts.fromU64 report.currentTcb = TcbParts.fromU64 report'.currentTcb →
      report.currentTcb = report'.currentTcb) ∧
    (TcbParts.fromU64 report.reportedTcb = TcbParts.fromU64 report'.reportedTcb →
      report.reportedTcb = report'.reportedTcb) ∧
    (TcbParts.fromU64 report.committedTcb = TcbParts.fromU64 report'.committedTcb →
      report.committedTcb = report'.committedTcb) ∧
    (TcbParts.fromU64 report.launchTcb = TcbParts.fromU64 report'.launchTcb →
      report.launchTcb = report'.launchTcb) ∧
    report.currentTcb = report.committedTcb ∧
    (∃ bl tee snp ucode, vcekSpl library vcek "BL_SPL" oidBlSpl = .ok bl ∧
      vcekSpl library vcek "TEE_SPL" oidTeeSpl = .ok tee ∧ vcekSpl library vcek "SNP_SPL" oidSnpSpl = .ok snp ∧
      vcekSpl library vcek "UCODE_SPL" oidUcodeSpl = .ok ucode ∧
      report.reportedTcb =
        bl.toUInt64 ||| tee.toUInt64 <<< 8 ||| snp.toUInt64 <<< 48 ||| ucode.toUInt64 <<< 56) ∧
    (vcek = vcek' → report.reportedTcb = report'.reportedTcb) ∧
    (vcek = vcek' → maskChipKey = false → maskChipKey' = false →
      validateVcekHwid library vcek report.chipId maskChipKey = .ok () →
      validateVcekHwid library vcek' report'.chipId maskChipKey' = .ok () → report.chipId = report'.chipId) := by
  obtain ⟨fields, extensions⟩ := validateReportWithChain_ok.mp accepted
  obtain ⟨fields', extensions'⟩ := validateReportWithChain_ok.mp accepted'
  have zero := fields.zeroFields
  have zero' := fields'.zeroFields
  have tcb := vcekTcb_of_validated extensions
  -- Decoding tells words apart whose reserved bits are zero.
  refine ⟨SnpPolicy.fromU64_inj fields.policy_wellFormed fields'.policy_wellFormed,
    SnpPlatformInfo.fromU64_inj (fields.platform_wellFormed required) (fields'.platform_wellFormed required'),
    TcbParts.fromU64_inj zero.currentTcb zero'.currentTcb,
    TcbParts.fromU64_inj zero.reportedTcb zero'.reportedTcb,
    TcbParts.fromU64_inj zero.committedTcb zero'.committedTcb,
    TcbParts.fromU64_inj zero.launchTcb zero'.launchTcb, fields.committed_eq_current.symm,
    ⟨_, _, _, _, tcb.bl, tcb.tee, tcb.snp, tcb.ucode, reportedTcb_of_vcek accepted tcb⟩, ?_, ?_⟩
  · rintro rfl
    rw [reportedTcb_of_vcek accepted tcb, reportedTcb_of_vcek accepted' tcb]
  · rintro rfl rfl rfl hwid hwid'
    exact Except.ok.inj ((chipId_of_validated hwid).symm.trans (chipId_of_validated hwid'))

namespace Sample

def zeros (count : Nat) : Bytes := List.replicate count 0

/-- Boot loader 7, SNP 14, microcode 72. -/
def tcb : Bytes := [7, 0, 0, 0, 0, 0, 0x0e, 0x48]

def chipId : Bytes := (List.range 64).map fun place => .ofNat (place + 1)

/-- Firmware 1.55 build 21, and the reserved octet after it. -/
def firmware : Bytes := [21, 55, 1, 0]

/-- Guest policy with SMT, platform with SMT and TSME, no mitigation vectors. -/
def body (version : UInt8) : Bytes :=
  [version, 0, 0, 0] ++ zeros 4 ++ [0, 0, 3, 0, 0, 0, 0, 0] ++ zeros 36 ++ [1, 0, 0, 0] ++ tcb ++
    [3, 0, 0, 0, 0, 0, 0, 0] ++ zeros 312 ++ tcb ++ zeros 24 ++ chipId ++ tcb ++ firmware ++ firmware ++ tcb ++
    zeros 168

def report (version : UInt8) (signature : Octets 512) : Report where
  bytes := body version ++ signature.val
  whole := by
    simp only [body, zeros, tcb, chipId, firmware, List.length_append, List.length_replicate, List.length_map,
      List.length_range, List.length_cons, List.length_nil, signature.property]
    decide

def vcek : Bytes :=
  List.flatMap (Der.bigEndian 46)
    [0x30820226308201aca003020102020100300a06082a8648ce3d04030330133111300f06035504030c085345562d56,
      0x43454b301e170d3236313131393035323732325a170d3333313131393035323732325a30133111300f0603550403,
      0x0c085345562d5643454b3076301006072a8648ce3d020106052b8104002203620004e83eb350afc9cc106269b46f,
      0xa49721894bd5cd881282fa263d4cc339ac5e7198b01dd892ba032e3be127c4cc9b37b93c4746a6ac1d57bf144863,
      0x8705804ac137277393f3ceae66e3a288c908120a72d2df46d135f2158b8c902ee7b9aa3a296ba381d33081d03014,
      0x06092b060104019c7801020407160547656e6f613011060a2b060104019c7801030104030201073011060a2b0601,
      0x04019c7801030204030201003011060a2b060104019c78010303040302010e3011060a2b060104019c7801030804,
      0x03020148304d06092b060104019c78010404400102030405060708090a0b0c0d0e0f101112131415161718191a1b,
      0x1c1d1e1f202122232425262728292a2b2c2d2e2f303132333435363738393a3b3c3d3e3f40301d0603551d0e0416,
      0x041458ab8caa0c4c6093be10ff940e3c4ca8d2bd27bc300a06082a8648ce3d040303036800306502310099c07b20,
      0x8cac60c8d7e3c0e87275f5bedf6901c79db3f7e01d4f412096d8b5376e492d418c09a182b9dd2a8f8c25d52b0230,
      0x0206a4c3a3042d73210bf593c9c24b27f22d1e626249416e308b83e67d8dac9c7980d5e357fc142ea8e4e6e258b9] ++
  Der.bigEndian 2 0x4547

/-- An INTEGER of one octet, with a leading zero where its highest bit is set. -/
def uintFromDer (data : Bytes) : Except String Bytes :=
  match data with
  | [tag, length, octet] =>
    if tag = 0x02 ∧ length = 1 ∧ octet < 128 then .ok [octet] else .error "malformed INTEGER"
  | [tag, length, sign, octet] =>
    if tag = 0x02 ∧ length = 2 ∧ sign = 0 ∧ 128 ≤ octet then .ok [octet] else .error "malformed INTEGER"
  | _ => .error "malformed INTEGER"

def certificates : CertificateLibrary where
  extensions der :=
    if der = vcek then
      .ok [(oidProductName, [0x16, 0x05, 0x47, 0x65, 0x6e, 0x6f, 0x61]), (oidBlSpl, [0x02, 0x01, 7]),
        (oidTeeSpl, [0x02, 0x01, 0]), (oidSnpSpl, [0x02, 0x01, 0x0e]), (oidUcodeSpl, [0x02, 0x01, 0x48]),
        (oidHwid, chipId), ("2.5.29.14", Der.bigEndian 22 0x041458ab8caa0c4c6093be10ff940e3c4ca8d2bd27bc)]
    else .error "malformed certificate"
  uintFromDer := uintFromDer
  ia5StringFromDer der :=
    if der = [0x16, 0x05, 0x47, 0x65, 0x6e, 0x6f, 0x61] then .ok "Genoa" else .error "malformed IA5String"
  debugStr text := "\"" ++ text ++ "\""

def unsigned : Octets 512 := ⟨zeros 512, List.length_replicate⟩

end Sample

/-- Reports of two versions, under the default options. -/
theorem accepted_words_versions :
    (Sample.report 2 Sample.unsigned).reportedTcb = (Sample.report 5 Sample.unsigned).reportedTcb ∧
      (Sample.report 2 Sample.unsigned).chipId = (Sample.report 5 Sample.unsigned).chipId := by
  have accepted : validateReportWithChain Sample.certificates (Sample.report 2 Sample.unsigned) Sample.vcek
      .default = .ok false := by decide +kernel
  have accepted' : validateReportWithChain Sample.certificates (Sample.report 5 Sample.unsigned) Sample.vcek
      .default = .ok false := by decide +kernel
  have words := accepted_words rfl rfl accepted accepted'
  obtain ⟨-, -, -, -, -, -, -, -, tcb, chip⟩ := words
  exact ⟨tcb rfl, chip rfl rfl rfl (by decide +kernel) (by decide +kernel)⟩

end Tinfoil.Sev
