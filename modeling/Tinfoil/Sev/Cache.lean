import Tinfoil.Attestation.Types
import Tinfoil.Base64
import Tinfoil.ReadThrough
import Tinfoil.Sev.CertChain
import Tinfoil.Sev.Signature

/-! # The VCEK on disk

A VCEK is read from a file where that holds a certificate, else from the key distribution service, and is
validated after that.  `vcek_cache` says when the file does not show in the result.
-/

namespace Tinfoil.Sev

open ReadThrough (Store Faults EachCall replay)
open Attestation (Verification)

/-! ## Verification with a given VCEK -/

structure SevLibrary (RsaKey RsaSignature Key Signature : Type) where
  chain : ChainLibrary RsaKey RsaSignature
  signature : SignatureLibrary Key Signature
  /-- The text of the base64 decoding error. -/
  decodeError : String → String
  /-- At most the given number of octets of the decompressed data. -/
  gunzip : Nat → Bytes → Except String Bytes
  /-- The certificates of ASK and ARK, compiled in. -/
  genoaCertChain : Bytes

def maxDecompressedSize : Nat := 10 * 1024 * 1024

section Full

variable {RsaKey RsaSignature Key Signature : Type} (library : SevLibrary RsaKey RsaSignature Key Signature)

def decodeReport (body : String) : Except Error Bytes := do
  let compressed ← requireSome (Base64.decode body.toList) ("Base64 decode failed: " ++ library.decodeError body)
  let reportBytes ← orFailAttestation "Gzip decompress failed: " (library.gunzip (maxDecompressedSize + 1) compressed)
  ensure (¬ reportBytes.length > maxDecompressedSize)
    ("Decompressed attestation exceeds maximum size (" ++ toString maxDecompressedSize ++ " bytes)")
  return reportBytes

def readReport (body : String) : Except Error Report := do
  validateReportStructure (← decodeReport library body)

def attested (report : Report) : Verification where
  measurement := ⟨.sevGuestV2, [hexEncode report.measurement]⟩
  tlsPublicKeyFp := hexEncode (report.reportData.take 32)
  hpkePublicKey := some (hexEncode (report.reportData.drop 32))

def verifyWithVcek (now : Option Nat) (report : Report) (options : ValidationOptions) (vcek : Bytes) :
    Except Error Verification := do
  verifyCertChainCrypto library.chain now vcek library.genoaCertChain
  let maskChipKey ← validateReportWithChain library.chain.toCertificateLibrary report vcek options
  validateVcekHwid library.chain.toCertificateLibrary vcek report.chipId maskChipKey
  verifyReportSignature library.signature report vcek
  return attested report

/-! ## The cache -/

/-- An answer of the key distribution service, after its retries. -/
structure Response where
  success : Bool
  status : String
  bytes : Except String Bytes

/-- What a call finds outside the program, apart from the files. -/
structure Host where
  /-- The clock, in seconds after the epoch. -/
  now : Option Nat
  cacheDir : Option String
  /-- A write goes to another name first, which nothing reads, so that the file is replaced as a whole or kept. -/
  faults : Faults
  kds : String → Except String Response

def kdsProxy : String := "https://kds-proxy.tinfoil.sh"

/-- `{:016x}` -/
def hex16 (value : UInt64) : String := String.ofList ((Nat.toDigits 16 value.toNat).leftpad 16 '0')

def vcekCachePath (cacheDir : Option String) (product chipIdHex : String) (reportedTcb : UInt64) : Option String :=
  cacheDir.map fun dir =>
    dir ++ "/tinfoil/VCEK_" ++ product ++ "_" ++ chipIdHex ++ "_" ++ hex16 reportedTcb ++ ".der"

def vcekUrl (chipIdHex : String) (tcbVal : UInt64) : String :=
  let spl (place : UInt64) : String := toString (Bits.octet tcbVal place).toNat
  kdsProxy ++ "/vcek/v1/Genoa/" ++ chipIdHex ++ "?blSPL=" ++ spl 0 ++ "&teeSPL=" ++ spl 8 ++ "&snpSPL=" ++ spl 48 ++
    "&ucodeSPL=" ++ spl 56

namespace Host

variable (host : Host) (report : Report)

def vcekPath : Option String := vcekCachePath host.cacheDir "Genoa" (hexEncode report.chipId) report.reportedTcb

def requestVcek : Except Error Bytes := do
  let response ← orFailAttestation "Failed to fetch VCEK: "
    (host.kds (vcekUrl (hexEncode report.chipId) report.reportedTcb))
  ensure response.success ("VCEK fetch failed: HTTP " ++ response.status)
  orFailAttestation "Failed to read VCEK: " response.bytes

def withoutCache : Host := { host with cacheDir := none }

end Host

def isCertificate (der : Bytes) : Bool := (library.chain.certificate der).toBool

def fetchVcek (host : Host) (disk : Store String Bytes) (report : Report) : Except Error Bytes × Store String Bytes :=
  match host.vcekPath report with
  | some path => ReadThrough.lookup host.faults (isCertificate library) disk path (host.requestVcek report)
  | none => (host.requestVcek report, disk)

structure Call where
  host : Host
  body : String
  options : ValidationOptions

/-- The result, and the files after it. -/
def verifyFullWithOptions (disk : Store String Bytes) (call : Call) :
    Except Error Verification × Store String Bytes :=
  match readReport library call.body with
  | .error error => (.error error, disk)
  | .ok report =>
    let fetched := fetchVcek library call.host disk report
    (fetched.1 >>= verifyWithVcek library call.host.now report call.options, fetched.2)

/-- The same call where there is no directory for caches. -/
def verifyUncached (call : Call) : Except Error Verification :=
  (verifyFullWithOptions library (fun _ => none) { call with host := call.host.withoutCache }).1

def cachedVcek (host : Host) (disk : Store String Bytes) (report : Report) : Option Bytes :=
  (host.vcekPath report).bind (ReadThrough.usable host.faults (isCertificate library) disk)

section Fetch

variable {library} {host : Host} {disk : Store String Bytes} {report : Report} {cached : Bytes}

theorem fetchVcek_hit (found : cachedVcek library host disk report = some cached) :
    (fetchVcek library host disk report).1 = .ok cached := by
  unfold cachedVcek at found
  unfold fetchVcek
  cases place : host.vcekPath report with
  | none => simp [place] at found
  | some path =>
    rw [place, Option.bind_some] at found
    exact congrArg Prod.fst (ReadThrough.lookup_hit found)

theorem fetchVcek_miss (missing : cachedVcek library host disk report = none) :
    (fetchVcek library host disk report).1 = host.requestVcek report := by
  unfold cachedVcek at missing
  unfold fetchVcek
  cases place : host.vcekPath report with
  | none => rfl
  | some path =>
    rw [place, Option.bind_some] at missing
    exact ReadThrough.lookup_miss missing

end Fetch

/-! ## When the cache does not show -/

structure Passes (now : Option Nat) (report : Report) (vcek : Bytes) : Prop where
  chain : verifyCertChainCrypto library.chain now vcek library.genoaCertChain = .ok ()
  extensions : validateVcekExtensions library.chain.toCertificateLibrary vcek (report.slice 384 8) = .ok ()
  hwid : ∀ maskChipKey, validateSignerInfo report = .ok maskChipKey →
    validateVcekHwid library.chain.toCertificateLibrary vcek report.chipId maskChipKey = .ok ()

/-- The service now serves a certificate that passes for the report of a call. -/
structure Serves (call : Call) (report : Report) (vcek : Bytes) : Prop where
  read : readReport library call.body = .ok report
  served : call.host.requestVcek report = .ok vcek
  passes : Passes library call.host.now report vcek

/-- A certificate that the call finds on the disk passes as well as the one that is served. -/
def CacheAsGood (disk : Store String Bytes) (call : Call) : Prop :=
  ∀ report vcek cached, Serves library call report vcek → cachedVcek library call.host disk report = some cached →
    Passes library call.host.now report cached ∧
      verifyReportSignature library.signature report cached = verifyReportSignature library.signature report vcek

variable {library}

section Call

variable {disk : Store String Bytes} {call : Call} {report : Report} {vcek cached : Bytes}

theorem readReport_of {body : String} {compressed : Bytes}
    (text : Base64.decode body.toList = some compressed)
    (unpacked : library.gunzip (maxDecompressedSize + 1) compressed = .ok report.bytes)
    (small : report.bytes.length ≤ maxDecompressedSize)
    (supported : report.version = 2 ∨ report.version = 3 ∨ report.version = 5) :
    readReport library body = .ok report := by
  simp only [readReport, decodeReport, text, unpacked, requireSome, orFailAttestation, ensure, gt_iff_lt,
    Nat.not_lt, if_pos small, bind, Except.bind, pure, Except.pure, validateReportStructure_bytes supported]

theorem verifyUncached_eq (serves : Serves library call report vcek) :
    verifyUncached library call = verifyWithVcek library call.host.now report call.options vcek := by
  have request : call.host.withoutCache.requestVcek report = .ok vcek := serves.served
  simp only [verifyUncached, verifyFullWithOptions, serves.read, fetchVcek, Host.vcekPath, Host.withoutCache,
    vcekCachePath, Option.map_none] at request ⊢
  rw [request]
  rfl

theorem verify_miss (serves : Serves library call report vcek)
    (missing : cachedVcek library call.host disk report = none) :
    (verifyFullWithOptions library disk call).1 = verifyWithVcek library call.host.now report call.options vcek := by
  simp only [verifyFullWithOptions, serves.read, fetchVcek_miss missing, serves.served]
  rfl

theorem verify_hit (serves : Serves library call report vcek)
    (found : cachedVcek library call.host disk report = some cached) :
    (verifyFullWithOptions library disk call).1 = verifyWithVcek library call.host.now report call.options cached := by
  simp only [verifyFullWithOptions, serves.read, fetchVcek_hit found]
  rfl

theorem verifyWithVcek_of_passes {now : Option Nat} {options : ValidationOptions}
    (passes : Passes library now report vcek) :
    verifyWithVcek library now report options vcek =
      (validateReportFieldsWithOptions report options >>= fun _ =>
        verifyReportSignature library.signature report vcek >>= fun _ => .ok (attested report)) := by
  rw [verifyWithVcek, passes.chain, validateReportWithChain]
  cases fields : validateReportFieldsWithOptions report options with
  | error error => rfl
  | ok maskChipKey =>
    -- The flag is the one in the signer info, for which the identifier was checked.
    have hwid := passes.hwid maskChipKey (fieldsAccepted_iff.mp fields).signerInfo
    simp only [bind, Except.bind, pure, Except.pure, passes.extensions, hwid]

theorem passes_of_verified {now : Option Nat} {options : ValidationOptions} {verification : Verification}
    (verified : verifyWithVcek library now report options vcek = .ok verification) :
    Passes library now report vcek ∧ verifyReportSignature library.signature report vcek = .ok () := by
  simp only [verifyWithVcek, bind_ok, validateReportWithChain_ok] at verified
  obtain ⟨_, chain, maskChipKey, ⟨fields, extensions⟩, _, hwid, _, signature, -⟩ := verified
  refine ⟨{ chain, extensions, hwid := fun mask signerInfo => ?_ }, signature⟩
  cases Except.ok.inj (signerInfo.symm.trans fields.signerInfo)
  exact hwid

end Call

/-! ## Histories -/

variable (library)

def next (disk : Store String Bytes) (call : Call) : Store String Bytes := (verifyFullWithOptions library disk call).2

/-- If the service now serves a certificate that passes, the call gives the result that it gives without a cache. -/
def Transparent (disk : Store String Bytes) (call : Call) : Prop :=
  ∀ report vcek, Serves library call report vcek →
    (verifyFullWithOptions library disk call).1 = verifyUncached library call

/-- Without a cache, a call that the service serves well accepts its report. -/
def GoodReport (_ : Store String Bytes) (call : Call) : Prop :=
  ∀ report vcek, Serves library call report vcek → ∃ verification, verifyUncached library call = .ok verification

/-- What the service answers to a call, for the file in which that keeps it. -/
def Offers (call : Call) (path : String) (vcek : Bytes) : Prop :=
  ∃ report, readReport library call.body = .ok report ∧ call.host.vcekPath report = some path ∧
    call.host.requestVcek report = .ok vcek

variable {library}

section Call

variable {disk : Store String Bytes} {call : Call}

theorem transparent_of_cacheAsGood (asGood : CacheAsGood library disk call) : Transparent library disk call := by
  intro report vcek serves
  rw [verifyUncached_eq serves]
  cases found : cachedVcek library call.host disk report with
  | none => exact verify_miss serves found
  | some cached =>
    -- Either certificate passes, so that both sides come down to the report and its signature.
    obtain ⟨passes, signature⟩ := asGood report vcek cached serves found
    rw [verify_hit serves found, verifyWithVcek_of_passes passes, verifyWithVcek_of_passes serves.passes, signature]

/-- A report that is accepted with the served certificate is accepted with the stored one only if that passes too. -/
theorem cacheAsGood_of_transparent (good : GoodReport library disk call) (transparent : Transparent library disk call) :
    CacheAsGood library disk call := by
  intro report vcek cached serves found
  obtain ⟨verification, accepted⟩ := good report vcek serves
  have hit : verifyWithVcek library call.host.now report call.options cached = .ok verification :=
    (verify_hit serves found).symm.trans ((transparent report vcek serves).trans accepted)
  have miss : verifyWithVcek library call.host.now report call.options vcek = .ok verification :=
    (verifyUncached_eq serves).symm.trans accepted
  obtain ⟨passes, signature⟩ := passes_of_verified hit
  exact ⟨passes, signature.trans (passes_of_verified miss).2.symm⟩

end Call

theorem next_origin (disk : Store String Bytes) (call : Call) (path : String) (vcek : Bytes)
    (held : next library disk call path = some vcek) : disk path = some vcek ∨ Offers library call path vcek := by
  unfold next verifyFullWithOptions at held
  cases read : readReport library call.body with
  | error error => exact .inl (by simpa [read] using held)
  | ok report =>
    simp only [read, fetchVcek] at held
    cases place : call.host.vcekPath report with
    | none => exact .inl (by simpa [place] using held)
    | some path' =>
      simp only [place] at held
      refine (ReadThrough.lookup_origin held).imp_right fun fetched => ?_
      exact ⟨report, read, fetched.1 ▸ place, fetched.2⟩

/-- A certificate that was served once is taken from the disk from then on, whether or not it passes. -/
theorem cachedVcek_next {disk : Store String Bytes} {call : Call} {later : Host} {report : Report} {path : String}
    {vcek : Bytes} (read : readReport library call.body = .ok report) (served : call.host.requestVcek report = .ok vcek)
    (place : call.host.vcekPath report = some path) (place' : later.vcekPath report = some path)
    (missing : cachedVcek library call.host disk report = none) (parses : isCertificate library vcek)
    (writes : call.host.faults.write = false) (reads : later.faults.read = false) :
    cachedVcek library later (next library disk call) report = some vcek := by
  rw [cachedVcek, place, Option.bind_some] at missing
  simp only [cachedVcek, place', Option.bind_some, next, verifyFullWithOptions, read, fetchVcek, place, served]
  exact ReadThrough.usable_of_lookup missing writes reads parses

/-- A call is transparent if all that its file held at first, or that earlier calls were served for it, passes. -/
theorem transparent_of_origins {disk : Store String Bytes} {earlier : List Call} {call : Call}
    (asGood : ∀ report vcek path cached, Serves library call report vcek → call.host.vcekPath report = some path →
      (disk path = some cached ∨ ∃ before ∈ earlier, Offers library before path cached) →
      Passes library call.host.now report cached ∧
        verifyReportSignature library.signature report cached = verifyReportSignature library.signature report vcek) :
    Transparent library (replay (next library) disk earlier) call := by
  refine transparent_of_cacheAsGood fun report vcek cached serves found => ?_
  rw [cachedVcek, Option.bind_eq_some_iff] at found
  obtain ⟨path, place, found⟩ := found
  exact asGood report vcek path cached serves place
    (ReadThrough.replay_origin next_origin (ReadThrough.store_of_usable found))

/-- In every history whose calls find no certificate on the disk, or one that passes as well as the served one, no
result shows the cache.  Where the reports are good, the calls of such histories do find these. -/
theorem vcek_cache (library : SevLibrary RsaKey RsaSignature Key Signature) (disk : Store String Bytes)
    (calls : List Call) :
    (EachCall (next library) (CacheAsGood library) disk calls →
      EachCall (next library) (Transparent library) disk calls) ∧
    (EachCall (next library) (GoodReport library) disk calls →
      EachCall (next library) (Transparent library) disk calls →
      EachCall (next library) (CacheAsGood library) disk calls) := by
  refine ⟨EachCall.imp fun _ _ => transparent_of_cacheAsGood, fun good transparent => ?_⟩
  exact (good.and transparent).imp fun _ _ both => cacheAsGood_of_transparent both.1 both.2

end Full

/-! ## A stored certificate that does not pass -/

namespace Sample

/-- A certificate under ASK with the patch levels, the identifier and the key above, as far as it is signed. -/
def tbs : Bytes :=
  List.flatMap (Der.bigEndian 46)
    [0x30820298a003020102020100304606092a864886f70d01010a3039a00f300d06096086480165030402020500a11c,
      0x301a06092a864886f70d010108300d06096086480165030402020500a203020130a303020101307b311430120603,
      0x55040b0c0b456e67696e656572696e67310b30090603550406130255533114301206035504070c0b53616e746120,
      0x436c617261310b300906035504080c024341311f301d060355040a0c16416476616e636564204d6963726f204465,
      0x76696365733112301006035504030c095345562d47656e6f61301e170d3236313131393035323732325a170d3333,
      0x313131393035323732325a307a31143012060355040b0c0b456e67696e656572696e67310b300906035504061302,
      0x55533114301206035504070c0b53616e746120436c617261310b300906035504080c024341311f301d060355040a,
      0x0c16416476616e636564204d6963726f20446576696365733111300f06035504030c085345562d5643454b307630] ++
  Der.bigEndian 20 0x1006072a8648ce3d020106052b81040022036200 ++ publicKey ++
  List.flatMap (Der.bigEndian 46)
    [0xa381b43081b1301406092b060104019c7801020407160547656e6f613011060a2b060104019c7801030104030201,
      0x073011060a2b060104019c7801030204030201003011060a2b060104019c78010303040302010e3011060a2b0601] ++
  Der.bigEndian 27 0x04019c780103080403020148304d06092b060104019c7801040440 ++ chipId

/-- RSASSA-PSS with SHA-384 and a salt of 48 octets: its parameters. -/
def pssParams : Bytes :=
  Der.bigEndian 59
    0x3039a00f300d06096086480165030402020500a11c301a06092a864886f70d010108300d06096086480165030402020500a203020130a303020101

def pss : AlgorithmIdentifier := { oid := "1.2.840.113549.1.1.10", parameters := some pssParams }

def askSignature : Bytes := (List.range 512).map .ofNat

def vcekGenoa : Bytes :=
  [0x30, 0x82, 0x04, 0xe9] ++ tbs ++ Der.bigEndian 13 0x304606092a864886f70d01010a ++ pssParams ++
    [0x03, 0x82, 0x02, 0x01, 0x00] ++ askSignature

def amdName (cn : String) : DistinguishedName :=
  [[("2.5.4.11", ⟨.utf8String, utf8Bytes "Engineering"⟩)], [("2.5.4.6", ⟨.printableString, utf8Bytes "US"⟩)],
    [("2.5.4.7", ⟨.utf8String, utf8Bytes "Santa Clara"⟩)], [("2.5.4.8", ⟨.utf8String, utf8Bytes "CA"⟩)],
    [("2.5.4.10", ⟨.utf8String, utf8Bytes "Advanced Micro Devices"⟩)], [("2.5.4.3", ⟨.utf8String, utf8Bytes cn⟩)]]

/-- ARK, or ASK under it.  What is encoded of it is written as its name. -/
def authority (cn : String) (notBefore : Nat) : ChainCertificate where
  version := .v3
  signature := pss
  issuer := amdName "ARK-Genoa"
  subject := amdName cn
  notBefore
  notAfter := notBefore + 788918400
  keyAlgorithm := { oid := "1.2.840.113549.1.1.1", parameters := some [0x05, 0x00] }
  spki := .ok (utf8Bytes cn)
  basicConstraints := .ok (some true)
  tbs := .ok (utf8Bytes cn)
  signatureAlgorithm := pss
  signatureBytes := utf8Bytes cn

/-- The part of a certificate that `vcekGenoa` and the certificate of the scheme have in common. -/
def leaf (signature : AlgorithmIdentifier) (issuer subject : DistinguishedName) (tbs signatureBytes : Bytes) :
    ChainCertificate where
  version := .v3
  signature
  issuer
  subject
  notBefore := 1795066042
  notAfter := 2015990842
  keyAlgorithm := { oid := "1.2.840.10045.2.1", parameters := some [0x06, 0x05, 0x2b, 0x81, 0x04, 0x00, 0x22] }
  spki := .ok (Der.bigEndian 23 0x3076301006072a8648ce3d020106052b81040022036200 ++ publicKey)
  basicConstraints := .ok none
  tbs := .ok tbs
  signatureAlgorithm := signature
  signatureBytes

def commonName (cn : String) : DistinguishedName := [[("2.5.4.3", ⟨.utf8String, utf8Bytes cn⟩)]]

def certificate (der : Bytes) : Except String ChainCertificate :=
  if der = utf8Bytes "ASK" then .ok (authority "SEV-Genoa" 1667223228)
  else if der = utf8Bytes "ARK" then .ok (authority "ARK-Genoa" 1643211277)
  else if der = vcekGenoa then .ok (leaf pss (amdName "SEV-Genoa") (amdName "SEV-VCEK") tbs askSignature)
  else if der = vcek then
    .ok (leaf ⟨"1.2.840.10045.4.3.3", none⟩ (commonName "SEV-VCEK") (commonName "SEV-VCEK")
      ((vcek.drop 4).take 432) ((vcek.drop 451).take 103))
  else .error "malformed certificate"

def chain : ChainLibrary Bytes Bytes where
  extensions der :=
    if der = vcekGenoa then (certificates.extensions vcek).map (·.take 6) else certificates.extensions der
  uintFromDer := certificates.uintFromDer
  ia5StringFromDer := certificates.ia5StringFromDer
  debugStr := certificates.debugStr
  certificate := certificate
  parsePem pem := if pem = utf8Bytes "ASK ARK" then .ok [utf8Bytes "ASK", utf8Bytes "ARK"] else .error "malformed PEM"
  stringFromAny attr := .ok (String.ofList (attr.value.map fun octet => .ofNat octet.toNat))
  objectIdentifier der := if der = [0x06, 0x05, 0x2b, 0x81, 0x04, 0x00, 0x22] then some "1.3.132.0.34" else none
  reencode := .ok
  rsaPssParams der :=
    if der = pssParams then
      .ok { hash := oidSha384, maskGen := "1.2.840.113549.1.1.8", maskGenHash := some oidSha384, saltLen := 48 }
    else .error "malformed parameters"
  rsaPublicKey := .ok
  rsaSignature := .ok
  verifyPss key saltLen message signature :=
    let ask := utf8Bytes "SEV-Genoa"
    let ark := utf8Bytes "ARK-Genoa"
    if saltLen = 48 ∧ (key, message, signature) ∈ [(ark, ark, ark), (ark, ask, ask), (ask, tbs, askSignature)] then
      .ok ()
    else .error "verification error"
  sha256 octets :=
    if octets = utf8Bytes "ARK-Genoa" then
      Der.bigEndian 32 0x429a69c9422aa258ee4d8db5fcda9c6470ef15f8cd5a9cebd6cbc7d90b863831
    else zeros 32

def compressed : Bytes :=
  List.flatMap (Der.bigEndian 46)
    [0x1f8b080000000000020363628001660662012310b383597c1ec4eb1a05d8002c1c71863513330b2b1b3b07271737,
      0x0f2f1fbf80a090b088a898b884a494b48cac9cbc82a292b28aaa9aba86a696b68eae9ebe81a191b189a999b985a5,
      0x95b58dad9dbd03cc7c51734606102664df60032f96cbf7ca94efb89862c56fb77e6d1dbbca699dca4bba2c2b3e07,
      0xcd927bb5fd5c10e77561c3c248ee17b9321dbf3827f15dc5658ec06cc1753eeac6c7eff1593d3d5276e7f697a82b] ++
  Der.bigEndian 45
    0x9ae6bd12c2a50c67c3774e739bce50f42162ce8bf8f92ecb665d664addfc7734650e0e0000d4f2b566a0040000

def library : SevLibrary Bytes Bytes Bytes Bytes where
  chain
  signature :=
    { scheme with
      subjectPublicKey := fun der => if der = vcekGenoa then .ok publicKey else scheme.subjectPublicKey der }
  decodeError _ := "invalid base64"
  gunzip limit data :=
    if data = compressed then .ok ((report 2 (signature 0)).bytes.take limit) else .error "invalid gzip header"
  genoaCertChain := utf8Bytes "ASK ARK"

def call (served : Bytes) : Call where
  host :=
    { now := some 1800000000
      cacheDir := some "/root/.cache"
      faults := { read := false, discard := false, write := false }
      kds := fun _ => .ok { success := true, status := "200 OK", bytes := .ok served } }
  body := String.ofList (Base64.encode compressed)
  options := .default

theorem readReport_call (served : Bytes) : readReport library (call served).body = .ok (report 2 (signature 0)) := by
  have text : Base64.decode (call served).body.toList = some compressed := by
    rw [call, String.toList_ofList, Base64.decode_encode]
  exact readReport_of text (by decide +kernel) (by decide +kernel) (.inl (by decide +kernel))

theorem serves : Serves library (call vcekGenoa) (report 2 (signature 0)) vcekGenoa where
  read := readReport_call vcekGenoa
  served := rfl
  passes :=
    { chain := by decide +kernel
      extensions := by decide +kernel
      hwid := by decide +kernel }

theorem cachedVcek_call (served later : Bytes) (parses : isCertificate library served) :
    cachedVcek library (call later).host (next library (fun _ => none) (call served)) (report 2 (signature 0)) =
      some served :=
  cachedVcek_next (readReport_call served) rfl rfl rfl rfl parses rfl rfl

end Sample

/-- The service first serves another certificate and then the one of the report, which is good. -/
theorem vcek_cache_stored :
    verifyUncached Sample.library (Sample.call Sample.vcekGenoa) =
        .ok (attested (Sample.report 2 (Sample.signature 0))) ∧
      ¬ EachCall (next Sample.library) (Transparent Sample.library) (fun _ => none)
        [Sample.call Sample.vcek, Sample.call Sample.vcekGenoa] := by
  have accepted : verifyUncached Sample.library (Sample.call Sample.vcekGenoa) =
      .ok (attested (Sample.report 2 (Sample.signature 0))) := by
    rw [verifyUncached_eq Sample.serves, verifyWithVcek_of_passes Sample.serves.passes]
    decide +kernel
  refine ⟨accepted, fun each => ?_⟩
  -- The first certificate parses, so that it is what the second call reads; its issuer is not ASK.
  have found := Sample.cachedVcek_call Sample.vcek Sample.vcekGenoa (by decide +kernel)
  have same := each.2.1 _ _ Sample.serves
  rw [verify_hit Sample.serves found, accepted] at same
  revert same
  decide +kernel

/-- The service serves the same certificate twice. -/
theorem vcek_cache_kept :
    EachCall (next Sample.library) (Transparent Sample.library) (fun _ => none)
      [Sample.call Sample.vcekGenoa, Sample.call Sample.vcekGenoa] := by
  refine (vcek_cache Sample.library _ _).1 ⟨?_, ?_, trivial⟩
  · intro report vcek cached _ found
    cases found
  · intro report vcek cached serves found
    cases Except.ok.inj (serves.read.symm.trans Sample.serves.read)
    cases Except.ok.inj (serves.served.symm.trans Sample.serves.served)
    cases found.symm.trans (Sample.cachedVcek_call Sample.vcekGenoa Sample.vcekGenoa (by decide +kernel))
    exact ⟨serves.passes, rfl⟩

end Tinfoil.Sev
