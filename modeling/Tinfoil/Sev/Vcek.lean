import Tinfoil.Sev.Report

/-! # The VCEK of a report

The extensions of a chip's certificate name its hardware identifier and the TCB versions that its key
is derived from.  `vcekTcb_of_validated` and `chipId_of_validated` say what they fix of a report.
-/

namespace Tinfoil.Sev

structure CertificateLibrary where
  /-- `Certificate::from_der`: the extensions in their order, by object identifier. -/
  extensions : Bytes → Except String (List (String × Bytes))
  /-- `UintRef::from_der`: the octets of an INTEGER, without a leading zero. -/
  uintFromDer : Bytes → Except String Bytes
  /-- `Ia5StringRef::from_der` -/
  ia5StringFromDer : Bytes → Except String String
  /-- The `Debug` rendering of a string. -/
  debugStr : String → String

/-- A library's error, after what its caller was doing. -/
def orFailAttestation {α : Type} (context : String) : Except String α → Except Error α
  | .ok value => .ok value
  | .error error => failAttestation (context ++ error)

@[simp] theorem orFailAttestation_ok {α : Type} {context : String} {call : Except String α} {value : α} :
    orFailAttestation context call = .ok value ↔ call = .ok value := by
  cases call <;> simp [orFailAttestation, failAttestation]

/-- `ok_or_else` -/
def requireSome {α : Type} (value : Option α) (message : String) : Except Error α :=
  match value with
  | some value => .ok value
  | none => failAttestation message

@[simp] theorem requireSome_ok {α : Type} {value : Option α} {message : String} {result : α} :
    requireSome value message = .ok result ↔ value = some result := by
  cases value <;> simp [requireSome, failAttestation]

/-! ## Extensions -/

def oidBlSpl : String := "1.3.6.1.4.1.3704.1.3.1"

def oidTeeSpl : String := "1.3.6.1.4.1.3704.1.3.2"

def oidSnpSpl : String := "1.3.6.1.4.1.3704.1.3.3"

def oidUcodeSpl : String := "1.3.6.1.4.1.3704.1.3.8"

def oidHwid : String := "1.3.6.1.4.1.3704.1.4"

def oidProductName : String := "1.3.6.1.4.1.3704.1.2"

/-- Only certificates of a cloud provider have one. -/
def oidCspId : String := "1.3.6.1.4.1.3704.1.5"

section Vcek

variable (library : CertificateLibrary)

def decodeDerInteger (data : Bytes) : Except Error UInt8 := do
  let bytes ← orFailAttestation "Invalid DER INTEGER: " (library.uintFromDer data)
  match bytes with
  | [] => return 0
  | [byte] => return byte
  | _ => failAttestation ("DER INTEGER value " ++ hexEncode bytes ++ " does not fit in u8")

def getVcekExtension (vcekDer : Bytes) (targetOid : String) : Except Error (Option Bytes) := do
  let extensions ← orFailAttestation "Failed to parse VCEK: " (library.extensions vcekDer)
  return extensions.lookup targetOid

def requireVcekExtension (vcekDer : Bytes) (name targetOid : String) : Except Error Bytes := do
  requireSome (← getVcekExtension library vcekDer targetOid) ("Missing " ++ name ++ " in VCEK")

def vcekSpl (vcekDer : Bytes) (name targetOid : String) : Except Error UInt8 := do
  decodeDerInteger library (← requireVcekExtension library vcekDer name targetOid)

def validateVcekSpl (vcekDer : Bytes) (name targetOid : String) (spl : UInt8) : Except Error Unit := do
  let vcekVal ← vcekSpl library vcekDer name targetOid
  ensure (vcekVal = spl)
    ("VCEK " ++ name ++ " (" ++ toString vcekVal.toNat ++ ") does not match report (" ++
      toString spl.toNat ++ ")")

def validateProductName (vcekDer : Bytes) : Except Error Unit := do
  let vcekProduct ← requireVcekExtension library vcekDer "PRODUCT_NAME" oidProductName
  let productName ← orFailAttestation "Invalid PRODUCT_NAME encoding: " (library.ia5StringFromDer vcekProduct)
  ensure (productName = "Genoa") ("VCEK PRODUCT_NAME is not Genoa: " ++ library.debugStr productName)

def validateVcekExtensions (vcekDer reportedTcb : Bytes) : Except Error Unit := do
  let tcbVal : UInt64 := .ofNat (littleEndian reportedTcb)
  let blSpl := Bits.octet tcbVal 0
  let teeSpl := Bits.octet tcbVal 8
  let snpSpl := Bits.octet tcbVal 48
  let ucodeSpl := Bits.octet tcbVal 56
  validateVcekSpl library vcekDer "BL_SPL" oidBlSpl blSpl
  validateVcekSpl library vcekDer "TEE_SPL" oidTeeSpl teeSpl
  validateVcekSpl library vcekDer "SNP_SPL" oidSnpSpl snpSpl
  validateVcekSpl library vcekDer "UCODE_SPL" oidUcodeSpl ucodeSpl
  validateProductName library vcekDer
  let cspId ← getVcekExtension library vcekDer oidCspId
  ensure (cspId = none) "VCEK contains unexpected CSP_ID extension"

/-- With a masked chip key the identifier of the report is zero, else it is the one of the VCEK. -/
def validateVcekHwid (vcekDer chipId : Bytes) (maskChipKey : Bool) : Except Error Unit :=
  if maskChipKey then
    ensure (chipId.all fun byte => byte = 0) "maskChipKey is set but CHIP_ID is not zeroed"
  else do
    let hwid ← requireVcekExtension library vcekDer "HWID" oidHwid
    ensure (hwid.length = 64) ("VCEK HWID length is " ++ toString hwid.length ++ ", expected 64 bytes")
    ensure (hwid = chipId)
      ("VCEK HWID does not match report CHIP_ID: expected " ++ hexEncode chipId ++ ", got " ++ hexEncode hwid)

/-! ## What they fix -/

variable {library}

theorem validateVcekSpl_ok {vcekDer : Bytes} {name targetOid : String} {spl : UInt8} {result : Unit} :
    validateVcekSpl library vcekDer name targetOid spl = .ok result ↔
      vcekSpl library vcekDer name targetOid = .ok spl := by
  simp only [validateVcekSpl, bind_ok, ensure_ok]
  constructor
  · intro passed
    obtain ⟨vcekVal, read, rfl⟩ := passed
    exact read
  · exact fun read => ⟨spl, read, rfl⟩

variable (library) in
structure VcekTcb (vcekDer : Bytes) (parts : TcbParts) : Prop where
  bl : vcekSpl library vcekDer "BL_SPL" oidBlSpl = .ok parts.blSpl
  tee : vcekSpl library vcekDer "TEE_SPL" oidTeeSpl = .ok parts.teeSpl
  snp : vcekSpl library vcekDer "SNP_SPL" oidSnpSpl = .ok parts.snpSpl
  ucode : vcekSpl library vcekDer "UCODE_SPL" oidUcodeSpl = .ok parts.ucodeSpl

theorem VcekTcb.unique {vcekDer : Bytes} {parts parts' : TcbParts} (tcb : VcekTcb library vcekDer parts)
    (tcb' : VcekTcb library vcekDer parts') : parts = parts' := by
  have bl := Except.ok.inj (tcb.bl.symm.trans tcb'.bl)
  have tee := Except.ok.inj (tcb.tee.symm.trans tcb'.tee)
  have snp := Except.ok.inj (tcb.snp.symm.trans tcb'.snp)
  have ucode := Except.ok.inj (tcb.ucode.symm.trans tcb'.ucode)
  cases parts
  cases parts'
  simp only at bl tee snp ucode
  rw [bl, tee, snp, ucode]

theorem vcekTcb_of_validated {vcekDer reportedTcb : Bytes}
    (valid : validateVcekExtensions library vcekDer reportedTcb = .ok ()) :
    VcekTcb library vcekDer (TcbParts.fromU64 (.ofNat (littleEndian reportedTcb))) := by
  simp only [validateVcekExtensions, bind_ok, validateVcekSpl_ok] at valid
  obtain ⟨_, bl, _, tee, _, snp, _, ucode, -⟩ := valid
  exact { bl, tee, snp, ucode }

theorem chipId_of_validated {vcekDer chipId : Bytes}
    (valid : validateVcekHwid library vcekDer chipId false = .ok ()) :
    requireVcekExtension library vcekDer "HWID" oidHwid = .ok chipId := by
  simp only [validateVcekHwid, Bool.false_eq_true, if_false, bind_ok, ensure_ok] at valid
  obtain ⟨hwid, read, _, _, rfl⟩ := valid
  exact read

end Vcek

end Tinfoil.Sev
