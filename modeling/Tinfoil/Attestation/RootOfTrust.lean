import Tinfoil.Attestation.Verify
import Tinfoil.Sev.Strictness

/-! # What a verified document rests on

A report is signed by the key of its chip's VCEK, which ASK certifies, which ARK certifies, whose key is compiled in.
`verify_full_exact` says that, with the default requirements, a document verifies exactly if it is such a report.
-/

namespace Tinfoil.Sev

/-! ## The chain -/

section Chain

variable {RsaKey RsaSignature : Type} (library : ChainLibrary RsaKey RsaSignature)

/-- The first attribute of a kind is a text. -/
def HasAttribute (name : DistinguishedName) (oid text : String) : Prop :=
  ∃ value, name.flatten.lookup oid = some value ∧
    (value.tag = .utf8String ∨ value.tag = .printableString ∨ value.tag = .ia5String ∨ value.tag = .teletexString) ∧
    library.stringFromAny value = .ok text

def amdLocation : List (String × String) :=
  [("2.5.4.6", "US"), ("2.5.4.8", "CA"), ("2.5.4.7", "Santa Clara"), ("2.5.4.10", "Advanced Micro Devices"),
    ("2.5.4.11", "Engineering")]

structure AmdCertificate (cert : ChainCertificate) (cn : String) (ca : Bool) (time : Nat) : Prop where
  version : cert.version = .v3
  valid : cert.notBefore ≤ time ∧ time ≤ cert.notAfter
  /-- A certificate without the extension is not one of a CA. -/
  constraints : ∃ constraints, cert.basicConstraints = .ok constraints ∧ constraints.getD false = ca
  name : HasAttribute library cert.subject "2.5.4.3" cn
  location : ∀ entry ∈ amdLocation, HasAttribute library cert.subject entry.1 entry.2
  algorithm : cert.signatureAlgorithm = cert.signature

/-- RSASSA-PSS with SHA-384 throughout.  The certificate says how long the salt is. -/
def PssSha384 (alg : AlgorithmIdentifier) (saltLen : Nat) : Prop :=
  alg.oid = "1.2.840.113549.1.1.10" ∧ ∃ paramsAny paramsDer params, alg.parameters = some paramsAny ∧
    library.reencode paramsAny = .ok paramsDer ∧ library.rsaPssParams paramsDer = .ok params ∧
    params.hash = oidSha384 ∧ params.maskGen = "1.2.840.113549.1.1.8" ∧ params.maskGenHash = some oidSha384 ∧
    params.saltLen = saltLen

/-- The issuer's key signed what the certificate says of itself. -/
structure CertifiedBy (cert issuer : ChainCertificate) : Prop where
  name : cert.issuer = issuer.subject
  signed : ∃ spki tbs saltLen key signature, issuer.spki = .ok spki ∧ cert.tbs = .ok tbs ∧
    PssSha384 library cert.signatureAlgorithm saltLen ∧ library.rsaPublicKey spki = .ok key ∧
    library.rsaSignature cert.signatureBytes = .ok signature ∧ library.verifyPss key saltLen tbs signature = .ok ()

def PinnedKey (ark : ChainCertificate) : Prop :=
  ∃ spki, ark.spki = .ok spki ∧ hexEncode (library.sha256 spki) = amdArkGenoaSpkiFingerprint

/-- The chain of a VCEK up to the pinned key. -/
structure Rooted (time : Nat) (vcekDer certChainPem : Bytes) (vcek ask ark : ChainCertificate) : Prop where
  leaf : library.certificate vcekDer = .ok vcek
  /-- Whatever stands after the two certificates. -/
  chain : ∃ askDer arkDer rest, library.parsePem certChainPem = .ok (askDer :: arkDer :: rest) ∧
    library.certificate askDer = .ok ask ∧ library.certificate arkDer = .ok ark
  chipKey : vcek.keyAlgorithm.oid = "1.2.840.10045.2.1" ∧
    ∃ params, vcek.keyAlgorithm.parameters = some params ∧ library.objectIdentifier params = some "1.3.132.0.34"
  ofChip : AmdCertificate library vcek "SEV-VCEK" false time
  ofAsk : AmdCertificate library ask "SEV-Genoa" true time
  ofArk : AmdCertificate library ark "ARK-Genoa" true time
  certified : [vcek, ask, ark, ark].IsChain (CertifiedBy library)
  pinned : PinnedKey library ark

variable {library}

theorem decodeDirectoryString_ok {value : AttributeValue} {text : String} :
    decodeDirectoryString library value = .ok text ↔
      (value.tag = .utf8String ∨ value.tag = .printableString ∨ value.tag = .ia5String ∨ value.tag = .teletexString) ∧
        library.stringFromAny value = .ok text := by
  cases tagged : value.tag <;> simp [decodeDirectoryString, tagged, failAttestation]

theorem extractNameAttr_ok {name : DistinguishedName} {oid text : String} :
    extractNameAttr library name oid = some (.ok text) ↔ HasAttribute library name oid text := by
  simp only [extractNameAttr, Option.map_eq_some_iff, decodeDirectoryString_ok, HasAttribute]

theorem requireNameAttr_ok {name : DistinguishedName} {oid certName attrLabel expected : String} {result : Unit} :
    requireNameAttr library name oid certName attrLabel expected = .ok result ↔
      HasAttribute library name oid expected := by
  rw [requireNameAttr, ← extractNameAttr_ok]
  cases extractNameAttr library name oid with
  | none => simp [failAttestation, bind, Except.bind]
  | some read => cases read <;> simp [failAttestation, bind, Except.bind]

theorem validateAmdLocation_ok {name : DistinguishedName} {certName : String} {result : Unit} :
    validateAmdLocation library name certName = .ok result ↔
      ∀ entry ∈ amdLocation, HasAttribute library name entry.1 entry.2 := by
  simp [validateAmdLocation, bind_ok, requireNameAttr_ok, amdLocation]

theorem requireCn_ok {name : DistinguishedName} {certName expected : String} {result : Unit} :
    requireCn library name certName expected = .ok result ↔ HasAttribute library name "2.5.4.3" expected := by
  rw [requireCn, extractCn, ← extractNameAttr_ok]
  cases extractNameAttr library name "2.5.4.3" with
  | none => simp [failAttestation, bind, Except.bind]
  | some read => cases read <;> simp [bind, Except.bind]

theorem validateBasicConstraints_ok {cert : ChainCertificate} {certName : String} {expectCa : Bool} {result : Unit} :
    validateBasicConstraints cert certName expectCa = .ok result ↔
      ∃ constraints, cert.basicConstraints = .ok constraints ∧ constraints.getD false = expectCa := by
  cases read : cert.basicConstraints with
  | error error => simp [validateBasicConstraints, read, failAttestation]
  | ok constraints =>
    cases constraints with
    | none => cases expectCa <;> simp [validateBasicConstraints, read, failAttestation]
    | some ca => cases ca <;> cases expectCa <;> simp [validateBasicConstraints, read, failAttestation]

theorem parseRsaPssSha384SaltLen_ok {alg : AlgorithmIdentifier} {certName : String} {saltLen : Nat} :
    parseRsaPssSha384SaltLen library alg certName = .ok saltLen ↔ PssSha384 library alg saltLen := by
  simp only [parseRsaPssSha384SaltLen, bind_ok, ensure_ok, requireSome_ok, orFailAttestation_ok, exists_const, pure,
    Except.pure, Except.ok.injEq, PssSha384, exists_and_left]

theorem certifiedBy_iff {cert issuer : ChainCertificate} {spki : Bytes} {certName context : String} {result : Unit}
    (key : issuer.spki = .ok spki) :
    CertifiedBy library cert issuer ↔
      cert.issuer = issuer.subject ∧ verifySignedBy library cert spki certName context = .ok result := by
  simp only [verifySignedBy, verifyRsaPssSignature, bind_ok, orFailAttestation_ok, parseRsaPssSha384SaltLen_ok]
  constructor
  · rintro ⟨name, spki', tbs, saltLen, rsaKey, signature, key', encoded, algorithm, read, decoded, verified⟩
    obtain rfl := Except.ok.inj (key.symm.trans key')
    exact ⟨name, tbs, encoded, saltLen, algorithm, rsaKey, read, signature, decoded, verified⟩
  · rintro ⟨name, tbs, encoded, saltLen, algorithm, rsaKey, read, signature, decoded, verified⟩
    exact ⟨name, spki, tbs, saltLen, rsaKey, signature, key, encoded, algorithm, read, decoded, verified⟩

theorem askAndArk_ok {certChainPem : Bytes} {ask ark : ChainCertificate} :
    askAndArk library certChainPem = .ok (ask, ark) ↔
      ∃ askDer arkDer rest, library.parsePem certChainPem = .ok (askDer :: arkDer :: rest) ∧
        library.certificate askDer = .ok ask ∧ library.certificate arkDer = .ok ark := by
  rw [askAndArk, parsePemChain]
  cases library.parsePem certChainPem with
  | error error => simp [orFailAttestation, failAttestation, bind, Except.bind]
  | ok ders =>
    rcases ders with _ | ⟨askDer, _ | ⟨arkDer, rest⟩⟩
    · simp [orFailAttestation, failAttestation, bind, Except.bind]
    · simp [orFailAttestation, failAttestation, bind, Except.bind]
    · have succeeded : orFailAttestation "Failed to parse PEM chain: " (.ok (askDer :: arkDer :: rest)) =
          .ok (askDer :: arkDer :: rest) := rfl
      simp only [succeeded, bind_ok, orFailAttestation_ok, Except.ok.injEq, exists_eq_left', pure, Except.pure,
        Prod.mk.injEq, List.cons.injEq]
      constructor
      · rintro ⟨_, asked, _, rooted, rfl, rfl⟩
        exact ⟨askDer, arkDer, rest, ⟨rfl, rfl, rfl⟩, asked, rooted⟩
      · rintro ⟨_, _, _, ⟨rfl, rfl, rfl⟩, asked, rooted⟩
        exact ⟨ask, asked, ark, rooted, rfl, rfl⟩

theorem validateArkFingerprint_ok {ark : ChainCertificate} {result : Unit} :
    validateArkFingerprint library ark = .ok result ↔ PinnedKey library ark := by
  simp [validateArkFingerprint, computeSpkiFingerprint, bind_ok, pure, Except.pure, PinnedKey]

theorem verifyCertChainCrypto_ok {now : Option Nat} {vcekDer certChainPem : Bytes} :
    verifyCertChainCrypto library now vcekDer certChainPem = .ok () ↔
      ∃ time vcek ask ark, now = some time ∧ Rooted library time vcekDer certChainPem vcek ask ark := by
  simp only [verifyCertChainCrypto, requireV3, validateVcekKey, validateSignatureAlgorithmConsistency, bind_ok,
    orFailAttestation_ok, ensure_ok, requireSome_ok, validateCertificateValidity_ok, validateBasicConstraints_ok,
    validateArkFingerprint_ok, requireCn_ok, validateAmdLocation_ok, exists_const, Prod.exists, askAndArk_ok,
    exists_eq_right]
  constructor
  · rintro ⟨vcek, leaf, vcekVersion, chipKey, ask, ark, chain, arkVersion, askVersion, ⟨time, clock, vcekValid⟩,
      ⟨_, clock', askValid⟩, ⟨_, clock'', arkValid⟩, arkCa, askCa, vcekLeaf, pinned, vcekIssuer, askIssuer, arkIssuer,
      arkName, askName, vcekName, arkLocation, askLocation, vcekLocation, arkAlgorithm, askAlgorithm, vcekAlgorithm,
      arkKey, arkSpki, _, arkSigned, _, askSigned, askKey, askSpki, vcekSigned⟩
    -- The three validities are at one time.
    obtain rfl := Option.some.inj (clock.symm.trans clock')
    obtain rfl := Option.some.inj (clock.symm.trans clock'')
    have arkCertified := (certifiedBy_iff arkSpki).mpr ⟨arkIssuer, arkSigned⟩
    have askCertified := (certifiedBy_iff arkSpki).mpr ⟨askIssuer, askSigned⟩
    have vcekCertified := (certifiedBy_iff askSpki).mpr ⟨vcekIssuer, vcekSigned⟩
    exact ⟨time, vcek, ask, ark, clock, {
      leaf, chain, chipKey, pinned
      ofChip := ⟨vcekVersion, vcekValid, vcekLeaf, vcekName, vcekLocation, vcekAlgorithm⟩
      ofAsk := ⟨askVersion, askValid, askCa, askName, askLocation, askAlgorithm⟩
      ofArk := ⟨arkVersion, arkValid, arkCa, arkName, arkLocation, arkAlgorithm⟩
      certified := .cons_cons vcekCertified (.cons_cons askCertified (.cons_cons arkCertified (.singleton _))) }⟩
  · rintro ⟨time, vcek, ask, ark, clock, rooted⟩
    obtain ⟨vcekVersion, vcekValid, vcekLeaf, vcekName, vcekLocation, vcekAlgorithm⟩ := rooted.ofChip
    obtain ⟨askVersion, askValid, askCa, askName, askLocation, askAlgorithm⟩ := rooted.ofAsk
    obtain ⟨arkVersion, arkValid, arkCa, arkName, arkLocation, arkAlgorithm⟩ := rooted.ofArk
    have certified := rooted.certified
    simp only [List.isChain_cons_cons, List.IsChain.singleton, and_true] at certified
    obtain ⟨vcekCertified, askCertified, arkCertified⟩ := certified
    -- A signature is checked with the key of the issuer, and ARK's key is read once for two of them.
    obtain ⟨arkKey, -, -, -, -, arkSpki, -⟩ := arkCertified.signed
    obtain ⟨askKey, -, -, -, -, askSpki, -⟩ := vcekCertified.signed
    obtain ⟨arkIssuer, arkSigned⟩ := (certifiedBy_iff arkSpki).mp arkCertified
    obtain ⟨askIssuer, askSigned⟩ := (certifiedBy_iff arkSpki).mp askCertified
    obtain ⟨vcekIssuer, vcekSigned⟩ := (certifiedBy_iff askSpki).mp vcekCertified
    exact ⟨vcek, rooted.leaf, vcekVersion, rooted.chipKey, ask, ark, rooted.chain, arkVersion, askVersion,
      ⟨time, clock, vcekValid⟩, ⟨time, clock, askValid⟩, ⟨time, clock, arkValid⟩, arkCa, askCa, vcekLeaf, rooted.pinned,
      vcekIssuer, askIssuer, arkIssuer, arkName, askName, vcekName, arkLocation, askLocation, vcekLocation,
      arkAlgorithm, askAlgorithm, vcekAlgorithm, arkKey, arkSpki, (), arkSigned, (), askSigned, askKey, askSpki,
      vcekSigned⟩

theorem Rooted.unique {time time' : Nat} {vcekDer certChainPem : Bytes} {vcek vcek' ask ask' ark ark' : ChainCertificate}
    (rooted : Rooted library time vcekDer certChainPem vcek ask ark)
    (rooted' : Rooted library time' vcekDer certChainPem vcek' ask' ark') : vcek = vcek' ∧ ask = ask' ∧ ark = ark' := by
  obtain ⟨askDer, arkDer, rest, listed, asked, root⟩ := rooted.chain
  obtain ⟨askDer', arkDer', rest', listed', asked', root'⟩ := rooted'.chain
  obtain ⟨rfl, rfl, rfl⟩ : askDer = askDer' ∧ arkDer = arkDer' ∧ rest = rest' := by
    simpa using Except.ok.inj (listed.symm.trans listed')
  exact ⟨Except.ok.inj (rooted.leaf.symm.trans rooted'.leaf), Except.ok.inj (asked.symm.trans asked'),
    Except.ok.inj (root.symm.trans root')⟩

theorem AmdCertificate.between {cert : ChainCertificate} {cn : String} {ca : Bool} {earlier time later : Nat}
    (first : AmdCertificate library cert cn ca earlier) (last : AmdCertificate library cert cn ca later)
    (after : earlier ≤ time) (before : time ≤ later) : AmdCertificate library cert cn ca time :=
  { first with valid := ⟨Nat.le_trans first.valid.1 after, Nat.le_trans before last.valid.2⟩ }

theorem Rooted.between {earlier time later : Nat} {vcekDer certChainPem : Bytes} {vcek ask ark : ChainCertificate}
    (first : Rooted library earlier vcekDer certChainPem vcek ask ark)
    (last : Rooted library later vcekDer certChainPem vcek ask ark) (after : earlier ≤ time) (before : time ≤ later) :
    Rooted library time vcekDer certChainPem vcek ask ark :=
  { first with
    ofChip := first.ofChip.between last.ofChip after before
    ofAsk := first.ofAsk.between last.ofAsk after before
    ofArk := first.ofArk.between last.ofArk after before }

end Chain

/-! ## The chip -/

section Chip

variable (library : CertificateLibrary)

/-- The first extension of a kind, or that there is none. -/
def HasExtension (vcekDer : Bytes) (oid : String) (value : Option Bytes) : Prop :=
  ∃ extensions, library.extensions vcekDer = .ok extensions ∧ extensions.lookup oid = value

/-- An integer of one octet, without leading zeros. -/
def HasSpl (vcekDer : Bytes) (oid : String) (spl : UInt8) : Prop :=
  ∃ value octets, HasExtension library vcekDer oid (some value) ∧ library.uintFromDer value = .ok octets ∧
    (octets = [] ∧ spl = 0 ∨ octets = [spl])

/-- The VCEK is that of the report's chip at the patch levels that the report names, and AMD's own. -/
structure OfChip (vcekDer : Bytes) (report : Report) : Prop where
  bl : HasSpl library vcekDer oidBlSpl (TcbParts.fromU64 report.reportedTcb).blSpl
  tee : HasSpl library vcekDer oidTeeSpl (TcbParts.fromU64 report.reportedTcb).teeSpl
  snp : HasSpl library vcekDer oidSnpSpl (TcbParts.fromU64 report.reportedTcb).snpSpl
  ucode : HasSpl library vcekDer oidUcodeSpl (TcbParts.fromU64 report.reportedTcb).ucodeSpl
  product : ∃ value, HasExtension library vcekDer oidProductName (some value) ∧
    library.ia5StringFromDer value = .ok "Genoa"
  notOfProvider : HasExtension library vcekDer oidCspId none
  /-- A report with a masked chip key does not name its chip. -/
  masked : report.signerInfo &&& 0x2 ≠ 0 → ∀ octet ∈ report.chipId, octet = 0
  named : report.signerInfo &&& 0x2 = 0 → HasExtension library vcekDer oidHwid (some report.chipId)

variable {library}

theorem getVcekExtension_ok {vcekDer : Bytes} {oid : String} {value : Option Bytes} :
    getVcekExtension library vcekDer oid = .ok value ↔ HasExtension library vcekDer oid value := by
  simp only [getVcekExtension, bind_ok, orFailAttestation_ok, pure, Except.pure, Except.ok.injEq, HasExtension]

theorem requireVcekExtension_ok {vcekDer : Bytes} {name oid : String} {value : Bytes} :
    requireVcekExtension library vcekDer name oid = .ok value ↔ HasExtension library vcekDer oid (some value) := by
  simp only [requireVcekExtension, bind_ok, requireSome_ok, getVcekExtension_ok, exists_eq_right]

theorem decodeDerInteger_ok {value : Bytes} {spl : UInt8} :
    decodeDerInteger library value = .ok spl ↔
      ∃ octets, library.uintFromDer value = .ok octets ∧ (octets = [] ∧ spl = 0 ∨ octets = [spl]) := by
  simp only [decodeDerInteger, bind_ok, orFailAttestation_ok]
  refine exists_congr fun octets => and_congr_right fun _ => ?_
  rcases octets with _ | ⟨octet, _ | ⟨_, _⟩⟩
  · simp [pure, Except.pure, eq_comm]
  · simp [pure, Except.pure]
  · simp [failAttestation]

theorem vcekSpl_ok {vcekDer : Bytes} {name oid : String} {spl : UInt8} :
    vcekSpl library vcekDer name oid = .ok spl ↔ HasSpl library vcekDer oid spl := by
  simp only [vcekSpl, bind_ok, requireVcekExtension_ok, decodeDerInteger_ok, HasSpl, exists_and_left]

theorem HasExtension.unique {vcekDer : Bytes} {oid : String} {value value' : Option Bytes}
    (has : HasExtension library vcekDer oid value) (has' : HasExtension library vcekDer oid value') : value = value' := by
  obtain ⟨extensions, read, rfl⟩ := has
  obtain ⟨extensions', read', rfl⟩ := has'
  rw [Except.ok.inj (read.symm.trans read')]

theorem OfChip.tcb {vcekDer : Bytes} {report : Report} (ofChip : OfChip library vcekDer report) :
    VcekTcb library vcekDer (TcbParts.fromU64 report.reportedTcb) :=
  ⟨vcekSpl_ok.mpr ofChip.bl, vcekSpl_ok.mpr ofChip.tee, vcekSpl_ok.mpr ofChip.snp, vcekSpl_ok.mpr ofChip.ucode⟩

theorem validateVcekHwid_ok {vcekDer : Bytes} {report : Report} {maskChipKey : Bool} {result : Unit} :
    validateVcekHwid library vcekDer report.chipId maskChipKey = .ok result ↔
      (maskChipKey = true → ∀ octet ∈ report.chipId, octet = 0) ∧
        (maskChipKey = false → HasExtension library vcekDer oidHwid (some report.chipId)) := by
  cases maskChipKey with
  | true => simp [validateVcekHwid]
  | false =>
    -- The length that the source checks is that of the field.
    have size : report.chipId.length = 64 := report.length_slice (by decide)
    simp only [validateVcekHwid, Bool.false_eq_true, if_false, bind_ok, requireVcekExtension_ok, ensure_ok,
      exists_const, false_implies, true_and, true_implies]
    constructor
    · rintro ⟨_, read, -, rfl⟩
      exact read
    · exact fun read => ⟨_, read, size, rfl⟩

theorem ofChip_iff {vcekDer : Bytes} {report : Report} {maskChipKey : Bool}
    (signer : validateSignerInfo report = .ok maskChipKey) :
    OfChip library vcekDer report ↔
      validateVcekExtensions library vcekDer (report.slice 384 8) = .ok () ∧
        validateVcekHwid library vcekDer report.chipId maskChipKey = .ok () := by
  have mask := (validateSignerInfo_ok.mp signer).2.2
  simp only [validateVcekHwid_ok, mask, decide_eq_true_eq, decide_eq_false_iff_not, not_not, validateVcekExtensions,
    validateProductName, bind_ok, validateVcekSpl_ok, vcekSpl_ok, requireVcekExtension_ok, getVcekExtension_ok,
    orFailAttestation_ok, ensure_ok, exists_const, exists_eq_right]
  constructor
  · rintro ⟨bl, tee, snp, ucode, product, notOfProvider, masked, named⟩
    exact ⟨⟨bl, tee, snp, ucode, product, notOfProvider⟩, masked, named⟩
  · rintro ⟨⟨bl, tee, snp, ucode, product, notOfProvider⟩, masked, named⟩
    exact ⟨bl, tee, snp, ucode, product, notOfProvider, masked, named⟩

end Chip

/-! ## The default requirements -/

def FirmwareFrom155 (major minor : UInt8) : Prop := 1 < major.toNat ∨ major.toNat = 1 ∧ 55 ≤ minor.toNat

/-- What the default options ask of a report. -/
structure Hardened (report : Report) : Prop where
  zeroFields : ZeroFields report
  signatureAlgo : report.signatureAlgo = signatureAlgoEcdsaP384Sha384
  /-- The report is signed with the VCEK. -/
  signer : report.signerInfo >>> 5 = 0 ∧ (report.signerInfo >>> 2) &&& 0x7 = 0
  policy : SnpPolicy.WellFormed report.policy
  debug : (SnpPolicy.fromU64 report.policy).debug = false
  migrateMa : (SnpPolicy.fromU64 report.policy).migrateMa = false
  cxlAllowed : (SnpPolicy.fromU64 report.policy).cxlAllowed = false
  memAes256Xts : (SnpPolicy.fromU64 report.policy).memAes256Xts = false
  platform : SnpPlatformInfo.WellFormed report.platformInfo
  tsmeEnabled : (SnpPlatformInfo.fromU64 report.platformInfo).tsmeEnabled = true
  vmpl : report.vmpl = 0
  /-- The firmware that runs cannot be rolled back. -/
  committed : report.committedTcb = report.currentTcb ∧ report.committedBuild = report.currentBuild ∧
    report.committedMinor = report.currentMinor ∧ report.committedMajor = report.currentMajor
  build : 21 ≤ report.currentBuild.toNat
  version : FirmwareFrom155 report.currentMajor report.currentMinor
  reportedTcb : defaultTcb ≤ TcbParts.fromU64 report.reportedTcb
  currentTcb : defaultTcb ≤ TcbParts.fromU64 report.currentTcb
  launchTcb : defaultTcb ≤ TcbParts.fromU64 report.launchTcb

section Default

variable {report : Report}

theorem versionWord_from155 {major minor : UInt8} :
    ¬ versionWord major minor < (1 : UInt16) <<< 8 ||| 55 ↔ FirmwareFrom155 major minor := by
  have word : ((1 : UInt16) <<< 8 ||| 55).toNat = 311 := rfl
  have low := minor.toNat_lt
  rw [UInt16.lt_iff_toNat_lt, versionWord_toNat, word, FirmwareFrom155]
  omega

theorem validateGuestPolicy_default {result : Unit} :
    validateGuestPolicy report ValidationOptions.default.guestPolicy = .ok result ↔
      SnpPolicy.WellFormed report.policy ∧ (SnpPolicy.fromU64 report.policy).debug = false ∧
        (SnpPolicy.fromU64 report.policy).migrateMa = false ∧ (SnpPolicy.fromU64 report.policy).cxlAllowed = false ∧
        (SnpPolicy.fromU64 report.policy).memAes256Xts = false := by
  have anyAbi (word : UInt16) : ¬ versionWord 0 0 > word := by
    rw [gt_iff_lt, UInt16.lt_iff_toNat_lt]
    exact Nat.not_lt_zero _
  simp only [validateGuestPolicy, validatePolicy, ValidationOptions.default, bind_ok, ensure_ok, whenSome_ok, exists_const,
    Option.some.injEq, forall_eq', anyAbi, not_false_eq_true, Bool.false_eq_true, imp_false, false_implies, implies_true,
    true_and, and_true, Bool.not_eq_true]
  constructor
  · rintro ⟨bit17, high, migrateMa, debug, cxlAllowed, memAes256Xts⟩
    exact ⟨⟨bit17, high⟩, debug, migrateMa, cxlAllowed, memAes256Xts⟩
  · rintro ⟨⟨bit17, high⟩, debug, migrateMa, cxlAllowed, memAes256Xts⟩
    exact ⟨bit17, high, migrateMa, debug, cxlAllowed, memAes256Xts⟩

theorem validateReportPlatform_default {result : Unit} :
    (∀ required, ValidationOptions.default.platformInfo = some required →
      validateReportPlatform report required = .ok result) ↔
      SnpPlatformInfo.WellFormed report.platformInfo ∧
        (SnpPlatformInfo.fromU64 report.platformInfo).tsmeEnabled = true := by
  simp [ValidationOptions.default, validateReportPlatform, validatePlatformInfo, bind_ok, SnpPlatformInfo.WellFormed]

theorem validateVmpl_default {result : Unit} :
    validateVmpl report ValidationOptions.default.vmpl = .ok result ↔ report.vmpl = 0 := by
  have zero : (0 : UInt8).toUInt32 = 0 := rfl
  simp only [validateVmpl, ValidationOptions.default, bind_ok, ensure_ok, whenSome_ok, exists_const, Option.some.injEq,
    forall_eq', zero]
  refine and_iff_right_of_imp fun lowest => ?_
  rw [lowest]
  decide

theorem validateCommittedTcb_ok {result : Unit} :
    validateCommittedTcb report = .ok result ↔
      report.committedTcb = report.currentTcb ∧ report.committedBuild = report.currentBuild ∧
        report.committedMinor = report.currentMinor ∧ report.committedMajor = report.currentMajor := by
  simp only [validateCommittedTcb, validateCommitted, bind_ok, ensure_ok, exists_const]

theorem validateMinimumBuild_default {result : Unit} :
    (∀ minBuild, ValidationOptions.default.minimumBuild = some minBuild →
      validateMinimumBuild report minBuild = .ok result) ↔
        21 ≤ report.currentBuild.toNat ∧ 21 ≤ report.committedBuild.toNat := by
  have required : (21 : UInt8).toNat = 21 := rfl
  simp only [ValidationOptions.default, Option.some.injEq, forall_eq', validateMinimumBuild, bind_ok, ensure_ok,
    exists_const, UInt8.lt_iff_toNat_lt, required, Nat.not_lt]

theorem validateMinimumVersion_default {result : Unit} :
    (∀ minVersion, ValidationOptions.default.minimumVersion = some minVersion →
      validateMinimumVersion report minVersion = .ok result) ↔
        FirmwareFrom155 report.currentMajor report.currentMinor ∧
          FirmwareFrom155 report.committedMajor report.committedMinor := by
  simp only [ValidationOptions.default, Option.some.injEq, forall_eq', validateMinimumVersion, validateVersionWord, bind_ok,
    ensure_ok, exists_const, versionWord_from155]

theorem validateTcbWord_ok {what : String} {tcb : UInt64} {minTcb : TcbParts} {result : Unit} :
    validateTcbWord what tcb minTcb = .ok result ↔ minTcb ≤ TcbParts.fromU64 tcb := by
  rw [validateTcbWord, ensure_ok, TcbParts.meetsMinimum_iff]

theorem fieldsAccepted_default {maskChipKey : Bool} :
    FieldsAccepted report .default maskChipKey ↔
      Hardened report ∧ maskChipKey = decide (report.signerInfo &&& 0x2 ≠ 0) := by
  constructor
  · intro accepted
    obtain ⟨high, signingKey, mask⟩ := validateSignerInfo_ok.mp accepted.signerInfo
    obtain ⟨policy, debug, migrateMa, cxlAllowed, memAes256Xts⟩ := validateGuestPolicy_default.mp accepted.guestPolicy
    obtain ⟨platform, tsmeEnabled⟩ := validateReportPlatform_default.mp accepted.platform
    have tcb := accepted.tcb _ rfl
    simp only [validateMinimumTcb, bind_ok, validateTcbWord_ok, exists_const] at tcb
    exact ⟨{
      zeroFields := accepted.zeroFields
      signatureAlgo := accepted.signatureAlgo
      signer := ⟨high, signingKey⟩
      policy, debug, migrateMa, cxlAllowed, memAes256Xts, platform, tsmeEnabled
      vmpl := validateVmpl_default.mp accepted.vmpl
      committed := validateCommittedTcb_ok.mp accepted.committedTcb
      build := (validateMinimumBuild_default.mp accepted.build).1
      version := (validateMinimumVersion_default.mp accepted.version).1
      reportedTcb := tcb.1
      currentTcb := tcb.2.1
      launchTcb := validateTcbWord_ok.mp (accepted.launchTcb _ rfl) }, mask⟩
  · rintro ⟨hardened, rfl⟩
    -- What is committed is what runs.
    obtain ⟨sameTcb, sameBuild, sameMinor, sameMajor⟩ := hardened.committed
    exact {
      zeroFields := hardened.zeroFields
      signatureAlgo := hardened.signatureAlgo
      signerInfo := validateSignerInfo_ok.mpr ⟨hardened.signer.1, hardened.signer.2, rfl⟩
      provisional := rfl
      committedTcb := validateCommittedTcb_ok.mpr hardened.committed
      guestPolicy := validateGuestPolicy_default.mpr
        ⟨hardened.policy, hardened.debug, hardened.migrateMa, hardened.cxlAllowed, hardened.memAes256Xts⟩
      guestSvn := by simp [ValidationOptions.default, validateGuestSvn]
      build := validateMinimumBuild_default.mpr ⟨hardened.build, by rw [sameBuild]; exact hardened.build⟩
      version := validateMinimumVersion_default.mpr
        ⟨hardened.version, by rw [sameMajor, sameMinor]; exact hardened.version⟩
      tcb := by
        simp [ValidationOptions.default, validateMinimumTcb, bind_ok, validateTcbWord_ok, sameTcb, hardened.reportedTcb,
          hardened.currentTcb]
      launchTcb := by simp [ValidationOptions.default, validateTcbWord_ok, hardened.launchTcb]
      platform := validateReportPlatform_default.mpr ⟨hardened.platform, hardened.tsmeEnabled⟩
      vmpl := validateVmpl_default.mpr hardened.vmpl
      equalities := by
        simp [ValidationOptions.default, validateEqualities, validateEqual, bind_ok] }

end Default

end Tinfoil.Sev

namespace Tinfoil.Attestation

open ReadThrough (Store)
open Sev (SevLibrary Report)

section Full

variable {RsaKey RsaSignature Key Signature : Type} (library : SevLibrary RsaKey RsaSignature Key Signature)

/-- A report that AMD's key stands for, over the key of its chip, and that meets the default requirements. -/
structure Endorsed (now : Option Nat) (report : Report) (vcekDer : Bytes) : Prop where
  rooted : ∃ time vcek ask ark, now = some time ∧
    Sev.Rooted library.chain time vcekDer library.genoaCertChain vcek ask ark
  ofChip : Sev.OfChip library.chain.toCertificateLibrary vcekDer report
  hardened : Sev.Hardened report
  /-- By the low 48 octets of R and S, in the order of the most significant one first. -/
  signed : Sev.SignedWith library.signature report vcekDer (report.slice 672 48).reverse (report.slice 744 48).reverse

variable {library}

theorem endorsed_iff {now : Option Nat} {report : Report} {vcekDer : Bytes} :
    Endorsed library now report vcekDer ↔
      Sev.Passes library now report vcekDer ∧ (∃ maskChipKey, Sev.FieldsAccepted report .default maskChipKey) ∧
        ∃ r s, Sev.parseSignatureComponents report.signatureField = .ok (r, s) ∧
          Sev.SignedWith library.signature report vcekDer r s := by
  simp only [Sev.fieldsAccepted_default, Report.parseSignatureComponents_eq, Except.ok.injEq, Prod.mk.injEq]
  constructor
  · rintro ⟨rooted, ofChip, hardened, signed⟩
    refine ⟨⟨Sev.verifyCertChainCrypto_ok.mpr rooted, ?_, fun maskChipKey signer => ((Sev.ofChip_iff signer).mp ofChip).2⟩,
      ⟨_, hardened, rfl⟩, _, _, ⟨rfl, rfl⟩, signed⟩
    exact ((Sev.ofChip_iff (Sev.validateSignerInfo_ok.mpr ⟨hardened.signer.1, hardened.signer.2, rfl⟩)).mp ofChip).1
  · rintro ⟨passes, ⟨maskChipKey, hardened, mask⟩, _, _, ⟨rfl, rfl⟩, signed⟩
    -- The chip is looked up by the same reading of the signer info.
    have signer := Sev.validateSignerInfo_ok.mpr ⟨hardened.signer.1, hardened.signer.2, mask⟩
    exact ⟨Sev.verifyCertChainCrypto_ok.mp passes.chain,
      (Sev.ofChip_iff signer).mpr ⟨passes.extensions, passes.hwid _ signer⟩, hardened, signed⟩

theorem Endorsed.between {report : Report} {vcekDer : Bytes} {earlier time later : Nat}
    (first : Endorsed library (some earlier) report vcekDer) (last : Endorsed library (some later) report vcekDer)
    (after : earlier ≤ time) (before : time ≤ later) : Endorsed library (some time) report vcekDer := by
  obtain ⟨_, vcek, ask, ark, same, rooted⟩ := first.rooted
  obtain rfl := Option.some.inj same
  obtain ⟨_, vcek', ask', ark', same', rooted'⟩ := last.rooted
  obtain rfl := Option.some.inj same'
  obtain ⟨rfl, rfl, rfl⟩ := rooted.unique rooted'
  exact { first with rooted := ⟨time, vcek, ask, ark, rfl, rooted.between rooted' after before⟩ }

theorem Endorsed.chip {now now' : Option Nat} {report report' : Report} {vcekDer : Bytes}
    (endorsed : Endorsed library now report vcekDer) (endorsed' : Endorsed library now' report' vcekDer) :
    report.reportedTcb = report'.reportedTcb ∧
      (report.signerInfo &&& 0x2 = 0 → report'.signerInfo &&& 0x2 = 0 → report.chipId = report'.chipId) := by
  refine ⟨?_, fun named named' => ?_⟩
  · -- No bit of the word is outside the four levels.
    exact Sev.TcbParts.fromU64_inj endorsed.hardened.zeroFields.reportedTcb endorsed'.hardened.zeroFields.reportedTcb
      (endorsed.ofChip.tcb.unique endorsed'.ofChip.tcb)
  · exact Option.some.inj ((endorsed.ofChip.named named).unique (endorsed'.ofChip.named named'))

variable (library) in
/-- A document verifies exactly if it is a report that AMD's key stands for, over a certificate of the report's chip
and patch levels, that the chip's key signed and that meets the default requirements.  With a certificate that was good
before and is good later, it verifies in between; and one certificate is good for one chip and one set of levels. -/
theorem verify_full_exact :
    (∀ disk host doc verification, (verifyFull library disk host doc).1 = .ok verification ↔
      doc.format = .sevGuestV2 ∧ ∃ report vcekDer, Sev.readReport library doc.body = .ok report ∧
        (Sev.fetchVcek library host disk report).1 = .ok vcekDer ∧ Endorsed library host.now report vcekDer ∧
        Sev.attested report = verification) ∧
    (∀ report vcekDer earlier time later, Endorsed library (some earlier) report vcekDer →
      Endorsed library (some later) report vcekDer → earlier ≤ time → time ≤ later →
      Endorsed library (some time) report vcekDer) ∧
    ∀ now now' report report' vcekDer, Endorsed library now report vcekDer → Endorsed library now' report' vcekDer →
      report.reportedTcb = report'.reportedTcb ∧
        (report.signerInfo &&& 0x2 = 0 → report'.signerInfo &&& 0x2 = 0 → report.chipId = report'.chipId) := by
  refine ⟨fun disk host doc verification => ?_, fun _ _ _ _ _ => Endorsed.between, fun _ _ _ _ _ => Endorsed.chip⟩
  rw [verifyFull_ok]
  constructor
  · rintro ⟨report, ⟨format, read, vcekDer, maskChipKey, fetched, passes, fields, signed⟩, same⟩
    exact ⟨format, report, vcekDer, read, fetched, endorsed_iff.mpr ⟨passes, ⟨maskChipKey, fields⟩, signed⟩, same⟩
  · rintro ⟨format, report, vcekDer, read, fetched, endorsed, same⟩
    obtain ⟨passes, ⟨maskChipKey, fields⟩, signed⟩ := endorsed_iff.mp endorsed
    exact ⟨report, ⟨format, read, vcekDer, maskChipKey, fetched, passes, fields, signed⟩, same⟩

end Full

end Tinfoil.Attestation
