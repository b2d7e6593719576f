import Tinfoil.Basic
import Tinfoil.Bits

/-! # The words of a report

Guest policy, platform info and TCB versions, each decoded from 64 bits.  With the bits that validation
fixes, the decoded fields fill the word: `SnpPolicy.fields_eq`, `SnpPlatformInfo.fields_eq` and
`TcbParts.fields_eq`.
-/

namespace Tinfoil.Sev

open Bits (fields flag octet)

/-! ## Guest policy -/

structure SnpPolicy where
  abiMinor : UInt8
  abiMajor : UInt8
  smt : Bool
  migrateMa : Bool
  debug : Bool
  singleSocket : Bool
  cxlAllowed : Bool
  memAes256Xts : Bool
  raplDis : Bool
  ciphertextHidingDram : Bool
  pageSwapDisabled : Bool
  deriving DecidableEq, Repr

namespace SnpPolicy

def fromU64 (value : UInt64) : SnpPolicy where
  abiMinor := octet value 0
  abiMajor := octet value 8
  smt := flag value 16
  migrateMa := flag value 18
  debug := flag value 19
  singleSocket := flag value 20
  cxlAllowed := flag value 21
  memAes256Xts := flag value 22
  raplDis := flag value 23
  ciphertextHidingDram := flag value 24
  pageSwapDisabled := flag value 25

def reservedBit17 : UInt64 := (1 : UInt64) <<< 17

structure WellFormed (value : UInt64) : Prop where
  bit17 : value &&& reservedBit17 ≠ 0
  high : value >>> 26 = 0

def widths : List Nat := [8, 8, 1, 1, 1, 1, 1, 1, 1, 1, 1, 1, 38]

/-- Bit 17 stands above the SMT flag, and nothing above the last flag. -/
def layout (policy : SnpPolicy) : List Nat :=
  [policy.abiMinor.toNat, policy.abiMajor.toNat, policy.smt.toNat, 1, policy.migrateMa.toNat,
    policy.debug.toNat, policy.singleSocket.toNat, policy.cxlAllowed.toNat, policy.memAes256Xts.toNat,
    policy.raplDis.toNat, policy.ciphertextHidingDram.toNat, policy.pageSwapDisabled.toNat, 0]

theorem fields_eq {value : UInt64} (wellFormed : WellFormed value) :
    fields widths value.toNat = (fromU64 value).layout := by
  have bit17 : (flag value 17).toNat = 1 := by
    have set : flag value 17 = true := decide_eq_true wellFormed.bit17
    rw [set, Bool.toNat_true]
  have high : value.toNat / 2 ^ 26 = 0 := by
    have shifted := congrArg UInt64.toNat wellFormed.high
    rwa [UInt64.toNat_shiftRight, Nat.shiftRight_eq_div_pow] at shifted
  simp (disch := decide) only [fields, widths, layout, fromU64, Bits.toNat_flag, Bits.toNat_octet,
    Nat.div_div_eq_div_mul, UInt64.reduceToNat, Nat.reduceMul, Nat.reducePow] at bit17 high ⊢
  simp [bit17, high]

theorem fromU64_inj {value value' : UInt64} (wellFormed : WellFormed value) (wellFormed' : WellFormed value')
    (same : fromU64 value = fromU64 value') : value = value' := by
  apply Bits.eq_of_fields (show widths.sum = 64 from rfl)
  rw [fields_eq wellFormed, fields_eq wellFormed', same]

end SnpPolicy

/-! ## Platform info -/

structure SnpPlatformInfo where
  smtEnabled : Bool
  tsmeEnabled : Bool
  eccEnabled : Bool
  raplDisabled : Bool
  ciphertextHidingDramEnabled : Bool
  aliasCheckComplete : Bool
  tioEnabled : Bool
  deriving DecidableEq, Repr

namespace SnpPlatformInfo

def fromU64 (value : UInt64) : SnpPlatformInfo where
  smtEnabled := flag value 0
  tsmeEnabled := flag value 1
  eccEnabled := flag value 2
  raplDisabled := flag value 3
  ciphertextHidingDramEnabled := flag value 4
  aliasCheckComplete := flag value 5
  tioEnabled := flag value 7

/-- Bits 0 to 5, and 7. -/
def validMask : UInt64 := 0b10111111

def WellFormed (value : UInt64) : Prop := value &&& ~~~validMask = 0

def widths : List Nat := [1, 1, 1, 1, 1, 1, 1, 1, 56]

/-- Nothing stands in bit 6, and nothing above the last flag. -/
def layout (info : SnpPlatformInfo) : List Nat :=
  [info.smtEnabled.toNat, info.tsmeEnabled.toNat, info.eccEnabled.toNat, info.raplDisabled.toNat,
    info.ciphertextHidingDramEnabled.toNat, info.aliasCheckComplete.toNat, 0, info.tioEnabled.toNat, 0]

theorem reserved_bits {value : UInt64} (wellFormed : WellFormed value) :
    value.toNat / 2 ^ 6 % 2 = 0 ∧ value.toNat / 2 ^ 8 = 0 := by
  have masked : value.toNat &&& 0xFFFFFFFFFFFFFF40 = 0 := by
    have word := congrArg UInt64.toNat wellFormed
    rwa [UInt64.toNat_and] at word
  constructor
  · have bit := congrArg (Nat.testBit · 6) masked
    simp only [Nat.testBit_and, Nat.zero_testBit] at bit
    rw [show Nat.testBit 0xFFFFFFFFFFFFFF40 6 = true by decide, Bool.and_true,
      Nat.testBit_eq_decide_div_mod_eq, decide_eq_false_iff_not] at bit
    omega
  · have high := congrArg (· >>> 8) masked
    simp only [Nat.shiftRight_and_distrib] at high
    rw [show 0xFFFFFFFFFFFFFF40 >>> 8 = 2 ^ 56 - 1 by decide, Nat.and_two_pow_sub_one_eq_mod,
      Nat.shiftRight_eq_div_pow, Nat.zero_shiftRight] at high
    have fits := value.toNat_lt
    omega

theorem fields_eq {value : UInt64} (wellFormed : WellFormed value) :
    fields widths value.toNat = (fromU64 value).layout := by
  obtain ⟨bit6, high⟩ := reserved_bits wellFormed
  simp (disch := decide) only [fields, widths, layout, fromU64, Bits.toNat_flag, Nat.div_div_eq_div_mul,
    UInt64.reduceToNat, Nat.reduceMul, Nat.reducePow] at bit6 high ⊢
  simp [bit6, high]

theorem fromU64_inj {value value' : UInt64} (wellFormed : WellFormed value) (wellFormed' : WellFormed value')
    (same : fromU64 value = fromU64 value') : value = value' := by
  apply Bits.eq_of_fields (show widths.sum = 64 from rfl)
  rw [fields_eq wellFormed, fields_eq wellFormed', same]

end SnpPlatformInfo

/-! ## TCB versions -/

structure TcbParts where
  blSpl : UInt8
  teeSpl : UInt8
  snpSpl : UInt8
  ucodeSpl : UInt8
  deriving DecidableEq, Repr

namespace TcbParts

def fromU64 (tcb : UInt64) : TcbParts where
  blSpl := octet tcb 0
  teeSpl := octet tcb 8
  snpSpl := octet tcb 48
  ucodeSpl := octet tcb 56

def meetsMinimum (parts min : TcbParts) : Bool :=
  parts.blSpl ≥ min.blSpl && parts.teeSpl ≥ min.teeSpl && parts.snpSpl ≥ min.snpSpl &&
    parts.ucodeSpl ≥ min.ucodeSpl

def toU64 (parts : TcbParts) : UInt64 :=
  parts.blSpl.toUInt64 ||| parts.teeSpl.toUInt64 <<< 8 ||| parts.snpSpl.toUInt64 <<< 48 |||
    parts.ucodeSpl.toUInt64 <<< 56

/-- Bits 16 to 47 are reserved. -/
def reservedBits (tcb : UInt64) : UInt64 := (tcb >>> 16) &&& 0xFFFFFFFF

def widths : List Nat := [8, 8, 32, 8, 8]

def layout (parts : TcbParts) : List Nat :=
  [parts.blSpl.toNat, parts.teeSpl.toNat, 0, parts.snpSpl.toNat, parts.ucodeSpl.toNat]

theorem fields_eq {tcb : UInt64} (reserved : reservedBits tcb = 0) :
    fields widths tcb.toNat = (fromU64 tcb).layout := by
  have middle : tcb.toNat / 2 ^ 16 % 2 ^ 32 = 0 := by
    have mask : (0xFFFFFFFF : UInt64).toNat = 2 ^ 32 - 1 := rfl
    have word := congrArg UInt64.toNat reserved
    rwa [reservedBits, UInt64.toNat_and, UInt64.toNat_shiftRight, mask, Nat.and_two_pow_sub_one_eq_mod,
      Nat.shiftRight_eq_div_pow] at word
  have fits := tcb.toNat_lt
  simp (disch := decide) only [fields, widths, layout, fromU64, Bits.toNat_octet, Nat.div_div_eq_div_mul,
    UInt64.reduceToNat, Nat.reduceMul, Nat.reducePow] at middle ⊢
  simp [middle]

theorem toNat_toU64 (parts : TcbParts) :
    parts.toU64.toNat = parts.blSpl.toNat + parts.teeSpl.toNat * 2 ^ 8 + parts.snpSpl.toNat * 2 ^ 48 +
      parts.ucodeSpl.toNat * 2 ^ 56 := by
  have bl := parts.blSpl.toNat_lt
  have tee := parts.teeSpl.toNat_lt
  have snp := parts.snpSpl.toNat_lt
  have ucode := parts.ucodeSpl.toNat_lt
  have low : (parts.blSpl.toUInt64 ||| parts.teeSpl.toUInt64 <<< 8).toNat =
      parts.blSpl.toNat + parts.teeSpl.toNat * 2 ^ 8 :=
    Bits.toNat_or_shift (by decide) bl (by simp only [UInt8.toNat_toUInt64, UInt64.reduceToNat]; omega)
  have middle : (parts.blSpl.toUInt64 ||| parts.teeSpl.toUInt64 <<< 8 ||| parts.snpSpl.toUInt64 <<< 48).toNat =
      parts.blSpl.toNat + parts.teeSpl.toNat * 2 ^ 8 + parts.snpSpl.toNat * 2 ^ 48 := by
    rw [Bits.toNat_or_shift (by decide) (by simp only [low, UInt64.reduceToNat]; omega)
      (by simp only [UInt8.toNat_toUInt64, UInt64.reduceToNat]; omega), low]
    rfl
  rw [toU64, Bits.toNat_or_shift (by decide) (by simp only [middle, UInt64.reduceToNat]; omega)
    (by simp only [UInt8.toNat_toUInt64, UInt64.reduceToNat]; omega), middle]
  rfl

theorem fields_toU64 (parts : TcbParts) : fields widths parts.toU64.toNat = parts.layout := by
  have bl := parts.blSpl.toNat_lt
  have tee := parts.teeSpl.toNat_lt
  have snp := parts.snpSpl.toNat_lt
  have ucode := parts.ucodeSpl.toNat_lt
  simp only [toNat_toU64, fields, widths, layout, Nat.div_div_eq_div_mul, Nat.reduceMul, Nat.reducePow,
    List.cons.injEq, and_true]
  omega

theorem toU64_fromU64 {tcb : UInt64} (reserved : reservedBits tcb = 0) : (fromU64 tcb).toU64 = tcb := by
  apply Bits.eq_of_fields (show widths.sum = 64 from rfl)
  rw [fields_toU64, fields_eq reserved]

theorem fromU64_inj {tcb tcb' : UInt64} (reserved : reservedBits tcb = 0) (reserved' : reservedBits tcb' = 0)
    (same : fromU64 tcb = fromU64 tcb') : tcb = tcb' := by
  rw [← toU64_fromU64 reserved, same, toU64_fromU64 reserved']

end TcbParts

end Tinfoil.Sev
