import Mathlib.Tactic.Ring
import Tinfoil.Der
import Tinfoil.Sev.Words

/-! # Attestation reports

A `Report` is long enough for every field, so reading one cannot fail.
-/

namespace Tinfoil.Sev

abbrev Octets (size : Nat) := { bytes : Bytes // bytes.length = size }

/-- `u64::from_le_bytes`, for any number of octets. -/
def littleEndian : Bytes → Nat
  | [] => 0
  | byte :: rest => byte.toNat + 256 * littleEndian rest

theorem littleEndian_append (low high : Bytes) :
    littleEndian (low ++ high) = littleEndian low + 256 ^ low.length * littleEndian high := by
  induction low with
  | nil => simp [littleEndian]
  | cons byte rest ih =>
    rw [List.cons_append, littleEndian, littleEndian, ih, List.length_cons, pow_succ]
    ring

theorem littleEndian_eq_zero {bytes : Bytes} : littleEndian bytes = 0 ↔ ∀ byte ∈ bytes, byte = 0 := by
  induction bytes with
  | nil => simp [littleEndian]
  | cons byte rest ih =>
    have zero : byte.toNat = 0 ↔ byte = 0 := by rw [← UInt8.toNat_inj, UInt8.toNat_zero]
    rw [littleEndian, Nat.add_eq_zero_iff, Nat.mul_eq_zero, ih, zero, List.forall_mem_cons]
    simp

theorem value_reverse (bytes : Bytes) : Der.value bytes.reverse = littleEndian bytes := by
  induction bytes with
  | nil => rfl
  | cons byte rest ih =>
    rw [List.reverse_cons, Der.value_append, ih, littleEndian]
    simp only [Der.value, List.length_cons, List.length_nil]
    ring

/-- `{:x}` -/
def lowerHex (number : Nat) : String := String.ofList (Nat.toDigits 16 number)

def failAttestation {α : Type} (message : String) : Except Error α := .error (.attestationVerification message)

def ensure (condition : Prop) [Decidable condition] (message : String) : Except Error Unit :=
  if condition then .ok () else failAttestation message

@[simp] theorem ensure_ok {condition : Prop} [Decidable condition] {message : String} {result : Unit} :
    ensure condition message = .ok result ↔ condition := by
  unfold ensure
  split <;> simp [failAttestation, *]

/-! ## Fields -/

def reportSize : Nat := 1184

structure Report where
  bytes : Bytes
  whole : reportSize ≤ bytes.length

namespace Report

/-- `report[offset]` -/
def octetAt (report : Report) (offset : Nat) : UInt8 := report.bytes.getD offset 0

/-- `report[offset..offset + size]` -/
def slice (report : Report) (offset size : Nat) : Bytes := (report.bytes.drop offset).take size

theorem length_slice (report : Report) {offset size : Nat} (inside : offset + size ≤ reportSize) :
    (report.slice offset size).length = size := by
  have whole := report.whole
  rw [slice, List.length_take, List.length_drop]
  omega

def u32At (report : Report) (offset : Nat) : UInt32 := .ofNat (littleEndian (report.slice offset 4))

def u64At (report : Report) (offset : Nat) : UInt64 := .ofNat (littleEndian (report.slice offset 8))

def version (report : Report) : UInt32 := report.u32At 0

def guestSvn (report : Report) : UInt32 := report.u32At 0x04

def policy (report : Report) : UInt64 := report.u64At 8

def familyId (report : Report) : Bytes := report.slice 0x10 16

def imageId (report : Report) : Bytes := report.slice 0x20 16

def vmpl (report : Report) : UInt32 := report.u32At 0x30

def signatureAlgo (report : Report) : UInt32 := report.u32At 0x34

def currentTcb (report : Report) : UInt64 := report.u64At 0x38

def platformInfo (report : Report) : UInt64 := report.u64At 0x40

def signerInfo (report : Report) : UInt32 := report.u32At 0x48

def reportData (report : Report) : Bytes := report.slice 80 64

def measurement (report : Report) : Bytes := report.slice 144 48

def hostData (report : Report) : Bytes := report.slice 0xC0 32

def reportId (report : Report) : Bytes := report.slice 0x140 32

def reportIdMa (report : Report) : Bytes := report.slice 0x160 32

def reportedTcb (report : Report) : UInt64 := report.u64At 384

def chipId (report : Report) : Bytes := report.slice 416 64

def committedTcb (report : Report) : UInt64 := report.u64At 0x1E0

def currentBuild (report : Report) : UInt8 := report.octetAt 488

def currentMinor (report : Report) : UInt8 := report.octetAt 489

def currentMajor (report : Report) : UInt8 := report.octetAt 490

def committedBuild (report : Report) : UInt8 := report.octetAt 0x1EC

def committedMinor (report : Report) : UInt8 := report.octetAt 0x1ED

def committedMajor (report : Report) : UInt8 := report.octetAt 0x1EE

def launchTcb (report : Report) : UInt64 := report.u64At 0x1F0

end Report

def signatureOffset : Nat := 672

/-- R and S, 72 octets each. -/
def ecdsaP384SignatureSize : Nat := 144

/-! ## Structure -/

/-- Size and version; the report that is read further is long enough. -/
def validateReportStructure (report : Bytes) : Except Error Report :=
  if whole : reportSize ≤ report.length then do
    let report : Report := ⟨report, whole⟩
    ensure (report.version = 2 ∨ report.version = 3 ∨ report.version = 5)
      ("Unsupported report version: " ++ toString report.version.toNat ++ " (supported: 2, 3, 5)")
    return report
  else
    failAttestation ("Report too small: expected at least " ++ toString reportSize ++ " bytes, got " ++
      toString report.length)

theorem validateReportStructure_bytes {report : Report}
    (supported : report.version = 2 ∨ report.version = 3 ∨ report.version = 5) :
    validateReportStructure report.bytes = .ok report := by
  rw [validateReportStructure, dif_pos report.whole]
  simp [bind_ok, supported, pure, Except.pure]

/-! ## Octets that must be zero -/

/-- `report[start..finish]` holds zeros only. -/
def Report.ZeroBytes (report : Report) (start finish : Nat) : Prop :=
  ∀ byte ∈ report.slice start (finish - start), byte = 0

instance (report : Report) (start finish : Nat) : Decidable (report.ZeroBytes start finish) :=
  List.decidableBAll (fun byte => byte = 0) (report.slice start (finish - start))

def validateMbzBytes (report : Report) (start finish : Nat) (fieldName : String) : Except Error Unit :=
  ensure (report.ZeroBytes start finish)
    ("MBZ field " ++ fieldName ++ " at [0x" ++ lowerHex start ++ ":0x" ++ lowerHex finish ++
      "] contains non-zero bytes")

def validateTcbMbz (tcb : UInt64) (fieldName : String) : Except Error Unit :=
  ensure (TcbParts.reservedBits tcb = 0)
    (fieldName ++ " has non-zero reserved bits 47-16: 0x" ++ lowerHex tcb.toNat)

/-- Family, model and stepping stand at 0x188 from version 3 on. -/
def Report.mbzBeforeChipIdStart (report : Report) : Nat := if report.version ≥ 3 then 0x18B else 0x188

/-- The mitigation vectors are fields from version 5 on. -/
def Report.mbzBeforeSigStart (report : Report) : Nat := if report.version ≥ 5 then 0x208 else 0x1F8

def validateMbzFields (report : Report) : Except Error Unit := do
  validateMbzBytes report 0x4C 0x50 "reserved_after_signer_info"
  validateMbzBytes report report.mbzBeforeChipIdStart 0x1A0
    (if report.version ≥ 3 then "reserved_v3" else "reserved_v2")
  validateMbzBytes report 0x1EB 0x1EC "reserved_after_current_version"
  validateMbzBytes report 0x1EF 0x1F0 "reserved_after_committed_version"
  validateMbzBytes report report.mbzBeforeSigStart 0x2A0 "reserved_before_signature"
  validateMbzBytes report (signatureOffset + ecdsaP384SignatureSize) reportSize "signature_padding"
  validateTcbMbz report.currentTcb "current_tcb"
  validateTcbMbz report.reportedTcb "reported_tcb"
  validateTcbMbz report.committedTcb "committed_tcb"
  validateTcbMbz report.launchTcb "launch_tcb"

structure ZeroFields (report : Report) : Prop where
  afterSignerInfo : report.ZeroBytes 0x4C 0x50
  beforeChipId : report.ZeroBytes report.mbzBeforeChipIdStart 0x1A0
  afterCurrentVersion : report.ZeroBytes 0x1EB 0x1EC
  afterCommittedVersion : report.ZeroBytes 0x1EF 0x1F0
  beforeSignature : report.ZeroBytes report.mbzBeforeSigStart 0x2A0
  signaturePadding : report.ZeroBytes (signatureOffset + ecdsaP384SignatureSize) reportSize
  currentTcb : TcbParts.reservedBits report.currentTcb = 0
  reportedTcb : TcbParts.reservedBits report.reportedTcb = 0
  committedTcb : TcbParts.reservedBits report.committedTcb = 0
  launchTcb : TcbParts.reservedBits report.launchTcb = 0

theorem validateMbzFields_ok {report : Report} : validateMbzFields report = .ok () ↔ ZeroFields report := by
  simp only [validateMbzFields, validateMbzBytes, validateTcbMbz, bind_ok, ensure_ok]
  constructor
  · intro passed
    obtain ⟨_, afterSignerInfo, _, beforeChipId, _, afterCurrentVersion, _, afterCommittedVersion, _,
      beforeSignature, _, signaturePadding, _, currentTcb, _, reportedTcb, _, committedTcb, launchTcb⟩ := passed
    exact { afterSignerInfo, beforeChipId, afterCurrentVersion, afterCommittedVersion, beforeSignature,
            signaturePadding, currentTcb, reportedTcb, committedTcb, launchTcb }
  · intro zero
    exact ⟨(), zero.afterSignerInfo, (), zero.beforeChipId, (), zero.afterCurrentVersion, (),
      zero.afterCommittedVersion, (), zero.beforeSignature, (), zero.signaturePadding, (), zero.currentTcb, (),
      zero.reportedTcb, (), zero.committedTcb, zero.launchTcb⟩

/-! ## Signer info -/

/-- Whether the report masks the chip key: bit 1, above the bit of the author key. -/
def validateSignerInfo (report : Report) : Except Error Bool := do
  let signerInfo := report.signerInfo
  ensure (signerInfo >>> 5 = 0)
    ("Signer info bits 31-5 must be zero, got 0x" ++ lowerHex (signerInfo >>> 5).toNat)
  let signingKey := (signerInfo >>> 2) &&& 0x7
  ensure (signingKey = 0)
    ("Only VCEK-signed reports are supported, got signing key " ++ toString signingKey.toNat)
  return signerInfo &&& 0x2 ≠ 0

theorem validateSignerInfo_ok {report : Report} {maskChipKey : Bool} :
    validateSignerInfo report = .ok maskChipKey ↔
      report.signerInfo >>> 5 = 0 ∧ (report.signerInfo >>> 2) &&& 0x7 = 0 ∧
        maskChipKey = decide (report.signerInfo &&& 0x2 ≠ 0) := by
  simp only [validateSignerInfo, bind_ok, ensure_ok]
  constructor
  · intro passed
    obtain ⟨_, high, _, signingKey, same⟩ := passed
    exact ⟨high, signingKey, (Except.ok.inj same).symm⟩
  · intro passed
    obtain ⟨high, signingKey, rfl⟩ := passed
    exact ⟨(), high, (), signingKey, rfl⟩

end Tinfoil.Sev
