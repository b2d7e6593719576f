import Tinfoil.Sev.Validation

/-! # The signature of a report

The signature field holds R and S, each a little-endian integer of 72 octets, and zeros after them.
Verification reads the low 48 octets of either, and validation checks the zeros after both, so that the
high 24 octets of each are read by nothing.  `signature_field_iff` says what holds of accepted reports
where they are zero.
-/

namespace Tinfoil.Sev

def signatureSize : Nat := 512

/-- The octets of R or S, with its padding. -/
def sigComponentSize : Nat := 72

def sigValueSize : Nat := 48

/-! ## Verification -/

structure SignatureLibrary (Key Signature : Type) where
  /-- `Certificate::from_der`, and the octets of its public key. -/
  subjectPublicKey : Bytes → Except String Bytes
  /-- `Signature::from_slice`: R and S side by side. -/
  signatureFromSlice : Bytes → Except String Signature
  /-- `VerifyingKey::from_sec1_bytes` -/
  keyFromSec1Bytes : Bytes → Except String Key
  /-- `VerifyingKey::verify` -/
  verify : Key → Bytes → Signature → Except String Unit

/-- R and S, the most significant octet first. -/
def parseSignatureComponents (sigBytes : Bytes) : Except Error (Bytes × Bytes) := do
  ensure (¬ sigBytes.length < sigComponentSize * 2) "Signature too short"
  let rLe := sigBytes.take sigValueSize
  let sLe := (sigBytes.drop sigComponentSize).take sigValueSize
  return (rLe.reverse, sLe.reverse)

namespace Report

variable (report : Report)

def signatureField : Bytes := report.slice signatureOffset signatureSize

def componentR : Bytes := report.slice signatureOffset sigComponentSize

def componentS : Bytes := report.slice (signatureOffset + sigComponentSize) sigComponentSize

end Report

section Verification

variable {Key Signature : Type} (library : SignatureLibrary Key Signature)

def verifyReportSignature (report : Report) (vcek : Bytes) : Except Error Unit := do
  let pubkeyBytes ← orFailAttestation "Failed to parse VCEK: " (library.subjectPublicKey vcek)
  let reportBody := report.slice 0 signatureOffset
  let (rBe, sBe) ← parseSignatureComponents report.signatureField
  let signature ← orFailAttestation "Invalid signature format: " (library.signatureFromSlice (rBe ++ sBe))
  let verifyingKey ← orFailAttestation "Invalid VCEK public key: " (library.keyFromSec1Bytes pubkeyBytes)
  orFailAttestation "Signature verification failed: " (library.verify verifyingKey reportBody signature)

def SignedWith (report : Report) (vcek r s : Bytes) : Prop :=
  ∃ pubkeyBytes signature key, library.subjectPublicKey vcek = .ok pubkeyBytes ∧
    library.signatureFromSlice (r ++ s) = .ok signature ∧ library.keyFromSec1Bytes pubkeyBytes = .ok key ∧
    library.verify key (report.slice 0 signatureOffset) signature = .ok ()

variable {library}

theorem verifyReportSignature_ok {report : Report} {vcek : Bytes} :
    verifyReportSignature library report vcek = .ok () ↔
      ∃ r s, parseSignatureComponents report.signatureField = .ok (r, s) ∧ SignedWith library report vcek r s := by
  simp only [verifyReportSignature, bind_ok, orFailAttestation_ok]
  constructor
  · intro passed
    obtain ⟨pubkeyBytes, parsed, components, read, signature, format, key, decoded, verified⟩ := passed
    exact ⟨components.1, components.2, read, pubkeyBytes, signature, key, parsed, format, decoded, verified⟩
  · intro passed
    obtain ⟨r, s, read, pubkeyBytes, signature, key, parsed, format, decoded, verified⟩ := passed
    exact ⟨pubkeyBytes, parsed, (r, s), read, signature, format, key, decoded, verified⟩

end Verification

/-! ## Ranges of a report -/

namespace Report

variable (report : Report)

theorem slice_append (offset size size' : Nat) :
    report.slice offset size ++ report.slice (offset + size) size' = report.slice offset (size + size') := by
  rw [slice, slice, slice, List.take_add, List.drop_drop]

theorem slice_slice (offset : Nat) {size start count : Nat} (inside : start + count ≤ size) :
    ((report.slice offset size).drop start).take count = report.slice (offset + start) count := by
  rw [slice, slice, List.drop_take, List.take_take, List.drop_drop, Nat.min_eq_left (by omega)]

theorem slice_eq_of_take {report report' : Report} (same : report.bytes.take reportSize = report'.bytes.take reportSize)
    {start count : Nat} (inside : start + count ≤ reportSize) : report.slice start count = report'.slice start count := by
  have part := congrArg (fun bytes => (bytes.drop start).take count) same
  have parts := report.slice_slice 0 inside
  have parts' := report'.slice_slice 0 inside
  rw [Nat.zero_add] at parts parts'
  exact parts.symm.trans (part.trans parts')

theorem zeroBytes_iff {start finish : Nat} :
    report.ZeroBytes start finish ↔ ∀ offset, start ≤ offset → offset < finish → report.octetAt offset = 0 := by
  constructor
  · intro zero offset above below
    rw [octetAt, List.getD_eq_getElem?_getD]
    cases octet : report.bytes[offset]? with
    | none => rfl
    | some byte =>
      refine zero byte (List.mem_of_getElem? (i := offset - start) ?_)
      rw [slice, List.getElem?_take_of_lt (by omega), List.getElem?_drop, Nat.add_sub_cancel' above, octet]
  · intro zero byte member
    obtain ⟨index, inside, rfl⟩ := List.getElem_of_mem member
    have short : index < finish - start := Nat.lt_of_lt_of_le inside (List.length_take_le ..)
    have octet := zero (start + index) (by omega) (by omega)
    rw [octetAt, List.getD_eq_getElem?_getD] at octet
    rw [slice, List.length_take, List.length_drop] at inside
    simp only [slice, List.getElem_take, List.getElem_drop]
    rwa [List.getElem?_eq_getElem (by omega), Option.getD_some] at octet

theorem take_reportSize :
    report.bytes.take reportSize =
      report.slice 0 signatureOffset ++ (report.slice 672 48 ++ report.slice 720 24) ++
        (report.slice 744 48 ++ report.slice 792 24) ++ report.slice 816 368 := by
  rw [slice_append, slice_append, List.append_assoc, List.append_assoc, slice_append]
  rw [slice_append report 672, signatureOffset, slice_append report 0]
  rfl

theorem parseSignatureComponents_eq :
    parseSignatureComponents report.signatureField =
      .ok ((report.slice 672 48).reverse, (report.slice 744 48).reverse) := by
  have length : report.signatureField.length = 512 := report.length_slice (by decide)
  have r : report.signatureField.take sigValueSize = report.slice 672 48 :=
    report.slice_slice 672 (show 0 + 48 ≤ 512 by decide)
  have s : (report.signatureField.drop sigComponentSize).take sigValueSize = report.slice 744 48 :=
    report.slice_slice 672 (show 72 + 48 ≤ 512 by decide)
  rw [parseSignatureComponents, length, r, s]
  rfl

end Report

/-! ## One reading -/

def InValue (offset : Nat) : Prop :=
  (signatureOffset ≤ offset ∧ offset < signatureOffset + sigValueSize) ∨
    (signatureOffset + sigComponentSize ≤ offset ∧ offset < signatureOffset + sigComponentSize + sigValueSize)

instance (offset : Nat) : Decidable (InValue offset) := inferInstanceAs (Decidable (_ ∨ _))

structure Report.PaddingZero (report : Report) : Prop where
  r : report.ZeroBytes 720 744
  s : report.ZeroBytes 792 816

theorem zeroOutsideValues_iff {report : Report} (zero : ZeroFields report) :
    (∀ offset, signatureOffset ≤ offset → offset < signatureOffset + signatureSize → ¬ InValue offset →
      report.octetAt offset = 0) ↔ report.PaddingZero := by
  have after := report.zeroBytes_iff.mp zero.signaturePadding
  simp only [InValue, signatureOffset, signatureSize, sigValueSize, sigComponentSize, ecdsaP384SignatureSize,
    reportSize] at after ⊢
  constructor
  · intro outside
    exact ⟨report.zeroBytes_iff.mpr fun offset above below => outside offset (by omega) (by omega) (by omega),
      report.zeroBytes_iff.mpr fun offset above below => outside offset (by omega) (by omega) (by omega)⟩
  · intro padding offset above below outside
    have r := report.zeroBytes_iff.mp padding.r
    have s := report.zeroBytes_iff.mp padding.s
    -- The field is R, its padding, S, its padding and the octets that validation checks.
    by_cases inR : offset < 744
    · exact r offset (by omega) (by omega)
    · by_cases inS : offset < 816
      · exact s offset (by omega) (by omega)
      · exact after offset (by omega) (by omega)

theorem component_eq_value_iff (report : Report) {offset : Nat} (inside : offset + 72 ≤ reportSize) :
    Der.value (report.slice offset 48).reverse = littleEndian (report.slice offset sigComponentSize) ↔
      report.ZeroBytes (offset + 48) (offset + 72) := by
  have parts : report.slice offset sigComponentSize = report.slice offset 48 ++ report.slice (offset + 48) 24 :=
    (report.slice_append offset 48 24).symm
  have width : offset + 72 - (offset + 48) = 24 := by omega
  rw [value_reverse, parts, littleEndian_append, report.length_slice (by omega), Report.ZeroBytes, width,
    ← littleEndian_eq_zero, Nat.left_eq_add, Nat.mul_eq_zero]
  simp

theorem slice_eq_of_zeroBytes {report report' : Report} (start finish : Nat)
    (inside : start + (finish - start) ≤ reportSize) (zero : report.ZeroBytes start finish)
    (zero' : report'.ZeroBytes start finish) :
    report.slice start (finish - start) = report'.slice start (finish - start) := by
  have length := report.length_slice inside
  have length' := report'.length_slice inside
  rw [List.eq_replicate_of_mem zero, List.eq_replicate_of_mem zero', length, length']

theorem take_eq_iff {report report' : Report} (zero : ZeroFields report) (zero' : ZeroFields report')
    (body : report.slice 0 signatureOffset = report'.slice 0 signatureOffset)
    (components : parseSignatureComponents report.signatureField = parseSignatureComponents report'.signatureField) :
    report.bytes.take reportSize = report'.bytes.take reportSize ↔
      report.slice 720 24 = report'.slice 720 24 ∧ report.slice 792 24 = report'.slice 792 24 := by
  rw [Report.parseSignatureComponents_eq, Report.parseSignatureComponents_eq] at components
  simp only [Except.ok.injEq, Prod.mk.injEq, List.reverse_inj] at components
  constructor
  · intro same
    exact ⟨Report.slice_eq_of_take same (by decide), Report.slice_eq_of_take same (by decide)⟩
  · intro padding
    have after : report.slice 816 368 = report'.slice 816 368 :=
      slice_eq_of_zeroBytes 816 1184 (by decide) zero.signaturePadding zero'.signaturePadding
    rw [report.take_reportSize, report'.take_reportSize, body, components.1, components.2, padding.1, padding.2,
      after]

/-- Of an accepted report, the octets outside the values are zero, and the components are the values that were
verified, exactly if the padding is zero.  Two accepted reports with one body and one pair of values are then the
same. -/
theorem signature_field_iff {Key Signature : Type} {library : SignatureLibrary Key Signature}
    {report report' : Report} {vcek vcek' : Bytes} (zero : validateMbzFields report = .ok ())
    (verified : verifyReportSignature library report vcek = .ok ()) (zero' : validateMbzFields report' = .ok ())
    (verified' : verifyReportSignature library report' vcek' = .ok ()) :
    ((∀ offset, signatureOffset ≤ offset → offset < signatureOffset + signatureSize → ¬ InValue offset →
      report.octetAt offset = 0) ↔ report.PaddingZero) ∧
    ∃ r s r' s', SignedWith library report vcek r s ∧ SignedWith library report' vcek' r' s' ∧
      ((Der.value r = littleEndian report.componentR ∧ Der.value s = littleEndian report.componentS) ↔
        report.PaddingZero) ∧
      (report.slice 0 signatureOffset = report'.slice 0 signatureOffset → (r, s) = (r', s') → report.PaddingZero →
        (report.bytes.take reportSize = report'.bytes.take reportSize ↔ report'.PaddingZero)) := by
  rw [validateMbzFields_ok] at zero zero'
  refine ⟨zeroOutsideValues_iff zero, ?_⟩
  obtain ⟨r, s, read, signed⟩ := verifyReportSignature_ok.mp verified
  obtain ⟨r', s', read', signed'⟩ := verifyReportSignature_ok.mp verified'
  refine ⟨r, s, r', s', signed, signed', ?_, ?_⟩
  · have values := report.parseSignatureComponents_eq.symm.trans read
    simp only [Except.ok.injEq, Prod.mk.injEq] at values
    obtain ⟨rfl, rfl⟩ := values
    have valueR := component_eq_value_iff report (show 672 + 72 ≤ reportSize by decide)
    have valueS := component_eq_value_iff report (show 744 + 72 ≤ reportSize by decide)
    exact (and_congr valueR valueS).trans ⟨fun zero => ⟨zero.1, zero.2⟩, fun padding => ⟨padding.r, padding.s⟩⟩
  · intro body values padding
    rw [take_eq_iff zero zero' body (read.trans ((congrArg Except.ok values).trans read'.symm))]
    constructor
    · intro same
      exact { r := fun byte member => padding.r byte (same.1 ▸ member),
              s := fun byte member => padding.s byte (same.2 ▸ member) }
    · intro padding'
      exact ⟨slice_eq_of_zeroBytes 720 744 (by decide) padding.r padding'.r,
        slice_eq_of_zeroBytes 792 816 (by decide) padding.s padding'.s⟩

/-! ## A signed report -/

namespace Sample

def publicKey : Bytes := (vcek.drop 125).take 97

def r : Bytes :=
  Der.bigEndian 48 0xd50e9209fa881c6de80b59713113d70952ceb7ea1e9a52f3a8042dd2792ccb24077eadaf3e0f3a64d1b8771c8d1fa7e8

def s : Bytes :=
  Der.bigEndian 48 0xfdb36502d39aa6449f5fe89c58f07200974696b957cd007513188d3729d45af4dbdc76c4e53a0edec733274cae119b10

/-- The signature of the body of version 2, which the scheme knows. -/
def scheme : SignatureLibrary Bytes Bytes where
  subjectPublicKey der := if der = vcek then .ok publicKey else .error "malformed certificate"
  signatureFromSlice octets := if octets.length = 96 then .ok octets else .error "signature error"
  keyFromSec1Bytes octets := if octets.length = 97 then .ok octets else .error "signature error"
  verify key message signature :=
    if key = publicKey ∧ message = body 2 ∧ signature = r ++ s then .ok () else .error "signature error"

/-- The signature with an octet of the padding of R set to `padding`. -/
def signature (padding : UInt8) : Octets 512 where
  val := r.reverse ++ padding :: zeros 23 ++ s.reverse ++ zeros 392
  property := by
    simp only [r, s, zeros, List.length_append, List.length_reverse, List.length_cons, List.length_replicate,
      Der.length_bigEndian]

end Sample

/-- Two octets of padding, one signature: both reports are accepted, and no check reads the octet they differ in. -/
theorem signature_field_padded :
    validateMbzFields (Sample.report 2 (Sample.signature 0)) = .ok () ∧
      verifyReportSignature Sample.scheme (Sample.report 2 (Sample.signature 0)) Sample.vcek = .ok () ∧
      validateMbzFields (Sample.report 2 (Sample.signature 1)) = .ok () ∧
      verifyReportSignature Sample.scheme (Sample.report 2 (Sample.signature 1)) Sample.vcek = .ok () ∧
      (Sample.report 2 (Sample.signature 1)).octetAt 720 = 1 ∧ ¬ InValue 720 ∧
      parseSignatureComponents (Sample.report 2 (Sample.signature 1)).signatureField = .ok (Sample.r, Sample.s) ∧
      Der.value Sample.r ≠ littleEndian (Sample.report 2 (Sample.signature 1)).componentR ∧
      (Sample.report 2 (Sample.signature 0)).slice 0 signatureOffset =
        (Sample.report 2 (Sample.signature 1)).slice 0 signatureOffset ∧
      parseSignatureComponents (Sample.report 2 (Sample.signature 0)).signatureField =
        parseSignatureComponents (Sample.report 2 (Sample.signature 1)).signatureField ∧
      (Sample.report 2 (Sample.signature 0)).bytes.take reportSize ≠
        (Sample.report 2 (Sample.signature 1)).bytes.take reportSize := by
  refine ⟨?_, ?_, ?_, ?_, ?_, ?_, ?_, ?_, ?_, ?_, ?_⟩ <;> decide +kernel

/-- The report without padding, beside itself. -/
theorem signature_field_unpadded :
    (Sample.report 2 (Sample.signature 0)).PaddingZero ∧
      ∀ offset, signatureOffset ≤ offset → offset < signatureOffset + signatureSize → ¬ InValue offset →
        (Sample.report 2 (Sample.signature 0)).octetAt offset = 0 := by
  have zero : validateMbzFields (Sample.report 2 (Sample.signature 0)) = .ok () := by decide +kernel
  have verified : verifyReportSignature Sample.scheme (Sample.report 2 (Sample.signature 0)) Sample.vcek = .ok () := by
    decide +kernel
  have padding : (Sample.report 2 (Sample.signature 0)).PaddingZero := { r := by decide +kernel, s := by decide +kernel }
  exact ⟨padding, (signature_field_iff zero verified zero verified).1.mpr padding⟩

end Tinfoil.Sev
