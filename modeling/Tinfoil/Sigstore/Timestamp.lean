import Tinfoil.ByKey
import Tinfoil.Sigstore.Fulcio
import Tinfoil.Sigstore.SigningTime

/-! # RFC 3161 timestamps

A token is accepted if a timestamp authority of the trust root made it over the hash of the signature: with the leaf
of its own chain, at a time at which the authority and every certificate of the chain were valid.  Certificates that
a token carries are not looked at.

* `verifyTimestamp_ok`: exactly the tokens that some authority `Vouches` for are accepted.
* `stamped_time_vouched`: an accepted bundle's time is signed by the log, or is the earliest vouched time.
* `stamped_once`: one set of signed attributes stamps one content at one time.
-/

namespace Tinfoil.Sigstore

open ByKey (mapM_ok)
open Json (Value)

/-! ## Tokens -/

inductive SignerIdentifier (Name Serial : Type) where
  | issuerAndSerialNumber (issuer : Name) (serialNumber : Serial)
  | subjectKeyIdentifier (ski : Bytes)

/-- A CMS attribute.  Its values are ASN.1 values of any type. -/
structure CmsAttribute (Any : Type) where
  oid : String
  values : List Any
  deriving DecidableEq

structure SignerInfo (Name Serial Any : Type) where
  sid : SignerIdentifier Name Serial
  /-- The object identifier of `digest_alg`. -/
  digestAlg : String
  signedAttrs : Option (List (CmsAttribute Any))
  signature : Bytes

structure SignedData (Name Serial Any : Type) where
  econtentType : String
  /-- The octets of the content. -/
  econtent : Option Bytes
  signerInfos : List (SignerInfo Name Serial Any)

structure ContentInfo (Any : Type) where
  contentType : String
  content : Any

structure TimeStampResp (Any : Type) where
  status : UInt8
  timeStampToken : Option Any

structure MessageImprint where
  hashAlgorithm : String
  hashedMessage : Bytes

structure TstInfo where
  messageImprint : MessageImprint
  /-- In seconds since 1970. -/
  genTime : UInt64

structure CmsLibrary (Certificate Name Algorithm Serial Any : Type) extends ChainLibrary Certificate Name Algorithm where
  timeStampResp : Bytes → Except String (TimeStampResp Any)
  contentInfo : Bytes → Except String (ContentInfo Any)
  signedData : Bytes → Except String (SignedData Name Serial Any)
  tstInfo : Bytes → Except String TstInfo
  anyToDer : Any → Except String Bytes
  decodeOid : Any → Except String String
  decodeOctets : Any → Except String Bytes
  /-- The attributes as a plain `SET OF`. -/
  attrsToDer : List (CmsAttribute Any) → Except String Bytes
  serialNumber : Certificate → Serial
  subjectKeyIdentifier : Certificate → Except String (Option Bytes)
  /-- The BasicConstraints extension, by its `cA`. -/
  basicConstraints : Certificate → Except String (Option Bool)
  /-- The ExtendedKeyUsage extension is marked critical. -/
  criticalKeyUsage : Certificate → Bool
  notBefore : Certificate → UInt64
  notAfter : Certificate → UInt64

def oidSignedData : String := "1.2.840.113549.1.7.2"

def oidTstInfo : String := "1.2.840.113549.1.9.16.1.4"

def oidContentType : String := "1.2.840.113549.1.9.3"

def oidMessageDigest : String := "1.2.840.113549.1.9.4"

def oidKpTimeStamping : String := "1.3.6.1.5.5.7.3.8"

def oidSha256 : String := "2.16.840.1.101.3.4.2.1"

def oidSha384 : String := "2.16.840.1.101.3.4.2.2"

def oidSha512 : String := "2.16.840.1.101.3.4.2.3"

section Token

variable {Certificate Name Algorithm Serial Any : Type} (library : CmsLibrary Certificate Name Algorithm Serial Any)

/-- Of a response, or of a bare token. -/
def tokenContentInfo (token : Bytes) : Except Error (ContentInfo Any) :=
  match library.timeStampResp token with
  | .ok resp =>
    if resp.status > 1 then
      fail ("RFC 3161 timestamp request was not granted (status " ++ toString resp.status ++ ")")
    else do
      let tokenAny ← okOrElse resp.timeStampToken "TimeStampResp has no timeStampToken"
      let tokenDer ← orFail "Failed to re-encode timeStampToken: " (library.anyToDer tokenAny)
      orFail "Failed to parse RFC 3161 timestamp token: " (library.contentInfo tokenDer)
  | .error _ => orFail "Failed to parse RFC 3161 timestamp token: " (library.contentInfo token)

def parseToken (token : Bytes) : Except Error (TstInfo × Bytes × SignedData Name Serial Any) := do
  let contentInfo ← tokenContentInfo library token
  ensure (contentInfo.contentType = oidSignedData) "RFC 3161 token is not CMS SignedData"
  let content ← orFail "Failed to re-encode SignedData: " (library.anyToDer contentInfo.content)
  let signedData ← orFail "Failed to parse CMS SignedData: " (library.signedData content)
  ensure (signedData.econtentType = oidTstInfo) "CMS SignedData content is not TSTInfo"
  let tstInfoDer ← okOrElse signedData.econtent "CMS SignedData has no TSTInfo content"
  let tstInfo ← orFail "Failed to parse TSTInfo: " (library.tstInfo tstInfoDer)
  return (tstInfo, tstInfoDer, signedData)

def attributeValue (attrs : List (CmsAttribute Any)) (oid : String) : Except Error Any := do
  let attr ← okOrElse (attrs.find? fun attr => attr.oid = oid) ("CMS signed attribute " ++ oid ++ " missing")
  match attr.values with
  | [value] => return value
  | _ => fail ("CMS signed attribute " ++ oid ++ " must have exactly 1 value")

def hashWith (oid : String) (data : Bytes) : Except Error Bytes :=
  if oid = oidSha256 then .ok (library.sha256 data)
  else if oid = oidSha384 then .ok (library.sha384 data)
  else if oid = oidSha512 then .ok (library.sha512 data)
  else fail ("Unsupported RFC 3161 digest algorithm " ++ oid)

def soleSigner (signedData : SignedData Name Serial Any) : Except Error (SignerInfo Name Serial Any) :=
  match signedData.signerInfos with
  | [signer] => .ok signer
  | signers => fail ("RFC 3161 timestamp must have exactly 1 signer, got " ++ toString signers.length)

/-! ## The authorities -/

def signerMatches [DecidableEq Name] [DecidableEq Serial] (sid : SignerIdentifier Name Serial) (cert : Certificate) :
    Bool :=
  match sid with
  | .issuerAndSerialNumber issuer serialNumber =>
    issuer = library.issuer cert && serialNumber = library.serialNumber cert
  | .subjectKeyIdentifier ski => library.subjectKeyIdentifier cert = .ok (some ski)

def TimestampAuthority.validAt (authority : TimestampAuthority) (time : UInt64) : Bool :=
  (authority.validFrom.all fun start => start ≤ time) && authority.validUntil.all fun finish => time ≤ finish

def insideValidity (genTime : UInt64) (cert : Certificate) : Except Error Unit :=
  ensure (library.notBefore cert ≤ genTime ∧ genTime ≤ library.notAfter cert)
    ("Timestamp " ++ toString genTime ++ " is outside TSA certificate validity [" ++
      toString (library.notBefore cert) ++ ", " ++ toString (library.notAfter cert) ++ "]")

def verifyCmsSignature (cert : Certificate) (digestOid : String) (message signature : Bytes) : Except Error Unit := do
  let digest ← hashWith library digestOid message
  let keyBytes := library.subjectPublicKey cert
  let verified ←
    if library.curve cert = some oidSecp256r1 then .ok (library.p256.verifyPrehash digest signature keyBytes)
    else if library.curve cert = some oidSecp384r1 then .ok (library.p384.verifyPrehash digest signature keyBytes)
    else fail "TSA certificate uses an unsupported key type"
  ensure (verified = true) "RFC 3161 timestamp CMS signature did not verify"

section Authority

variable [DecidableEq Name] [DecidableEq Algorithm] [DecidableEq Serial]

/-- `issuersDer` is the chain after the leaf. -/
def verifyIssuers (leaf : Certificate) (issuersDer : List Bytes) : Except Error Unit :=
  match issuersDer with
  | [] => verifyIssuedBy library.toChainLibrary leaf leaf "TSA certificate"
  | firstDer :: restDer => verifyAgainstChain library.toChainLibrary leaf firstDer restDer

def verifyWithAuthority (authority : TimestampAuthority) (signer : SignerInfo Name Serial Any) (signedAttrsDer : Bytes)
    (genTime : UInt64) : Except Error Unit := do
  ensure (authority.validAt genTime = true)
    ("Timestamp " ++ toString genTime ++ " is outside the timestamp authority's validity window")
  let chain ← authority.certChainDer.mapM fun der =>
    orFail "Failed to parse TSA certificate: " (library.certificateFromDer der)
  let leaf ← okOrElse chain.head? "Timestamp authority has an empty certificate chain"
  ensure (signerMatches library signer.sid leaf = true) "Timestamp signer is not the trusted TSA certificate"
  chain.forM (insideValidity library genTime)
  -- An extension that does not parse does not make a CA of the leaf.
  ensure (library.basicConstraints leaf ≠ .ok (some true)) "TSA signing certificate must not be a CA"
  let eku ← orFail "Failed to parse TSA EKU: " (library.extendedKeyUsage leaf)
  ensure (eku = some [oidKpTimeStamping] ∧ library.criticalKeyUsage leaf = true)
    "TSA certificate must have exactly one critical EKU: timeStamping"
  verifyIssuers library leaf authority.certChainDer.tail
  verifyCmsSignature library leaf signer.digestAlg signedAttrsDer signer.signature

/-- Until an authority accepts; if none does, the error of the last one. -/
def tryAuthorities (check : TimestampAuthority → Except Error Unit) (lastErr : Error) :
    List TimestampAuthority → Except Error Unit
  | [] => .error lastErr
  | authority :: rest =>
    match check authority with
    | .ok () => .ok ()
    | .error error => tryAuthorities check error rest

/-- The attributes are about the content, and signed. -/
def signedAttributes (signer : SignerInfo Name Serial Any) (tstInfoDer : Bytes) : Except Error Bytes := do
  let signedAttrs ← okOrElse signer.signedAttrs "RFC 3161 timestamp has no signed attributes"
  let contentType ← orFail "Invalid CMS content-type attribute: "
    (library.decodeOid (← attributeValue signedAttrs oidContentType))
  ensure (contentType = oidTstInfo) "CMS content-type attribute is not TSTInfo"
  let messageDigest ← orFail "Invalid CMS message-digest attribute: "
    (library.decodeOctets (← attributeValue signedAttrs oidMessageDigest))
  let digest ← hashWith library signer.digestAlg tstInfoDer
  ensure (digest = messageDigest) "CMS message-digest attribute does not match TSTInfo"
  orFail "Failed to re-encode CMS signed attributes: " (library.attrsToDer signedAttrs)

def verifyTimestamp (token signature : Bytes) (authorities : List TimestampAuthority) : Except Error UInt64 := do
  let (tstInfo, tstInfoDer, signedData) ← parseToken library token
  let digest ← hashWith library tstInfo.messageImprint.hashAlgorithm signature
  ensure (digest = tstInfo.messageImprint.hashedMessage)
    "RFC 3161 timestamp message imprint does not match the bundle signature"
  let signer ← soleSigner signedData
  let signedAttrsDer ← signedAttributes library signer tstInfoDer
  tryAuthorities (fun authority => verifyWithAuthority library authority signer signedAttrsDer tstInfo.genTime)
    (.sigstoreVerification "No timestamp authority in the trust root") authorities
  return tstInfo.genTime

end Authority

end Token

/-! ## Chains of certificates -/

section Chain

variable {Certificate Name Algorithm : Type} [DecidableEq Name] [DecidableEq Algorithm]
  (library : ChainLibrary Certificate Name Algorithm)

/-- The certificate's key made the signature of the digest, in the scheme of its curve. -/
def KeyVerifies (cert : Certificate) (digest signature : Bytes) : Prop :=
  (library.curve cert = some oidSecp256r1 ∧
      library.p256.verifyPrehash digest signature (library.subjectPublicKey cert) = true) ∨
    (library.curve cert = some oidSecp384r1 ∧
      library.p384.verifyPrehash digest signature (library.subjectPublicKey cert) = true)

/-- By name, and by a signature of what the child says of itself. -/
structure IssuedBy (child issuer : Certificate) : Prop where
  name : library.issuer child = library.subject issuer
  algorithm : library.signatureAlgorithm child = library.tbsSignature child
  signed : ∃ tbs digest, library.tbs child = .ok tbs ∧ tbsDigest library child tbs "" = .ok digest ∧
    KeyVerifies library issuer digest (library.signature child)

/-- Every certificate is issued by the next one, and the last one by itself. -/
structure ToRoot (chain : List Certificate) : Prop where
  issued : chain.IsChain (IssuedBy library)
  root : ∀ root ∈ chain.getLast?, IssuedBy library root root

variable {library}

omit [DecidableEq Name] [DecidableEq Algorithm] in
theorem verify_curve {cert : Certificate} {digest signature : Bytes} {unsupported refused : String} {result : Unit} :
    ((if library.curve cert = some oidSecp256r1 then do
        let verified ← Except.ok (library.p256.verifyPrehash digest signature (library.subjectPublicKey cert))
        ensure (verified = true) refused
      else if library.curve cert = some oidSecp384r1 then do
        let verified ← Except.ok (library.p384.verifyPrehash digest signature (library.subjectPublicKey cert))
        ensure (verified = true) refused
      else do
        let verified ← fail unsupported
        ensure (verified = true) refused) : Except Error Unit) = .ok result ↔
      KeyVerifies library cert digest signature := by
  have differ : oidSecp256r1 ≠ oidSecp384r1 := by decide
  by_cases first : library.curve cert = some oidSecp256r1
  · simp [KeyVerifies, first, differ, bind, Except.bind]
  · by_cases second : library.curve cert = some oidSecp384r1
    · simp [KeyVerifies, second, differ.symm, bind, Except.bind]
    · simp [KeyVerifies, first, second, fail, bind, Except.bind]

omit [DecidableEq Name] [DecidableEq Algorithm] in
/-- The context is for the error only. -/
theorem tbsDigest_ok {child : Certificate} {tbs digest : Bytes} (context context' : String) :
    tbsDigest library child tbs context = .ok digest ↔ tbsDigest library child tbs context' = .ok digest := by
  simp only [tbsDigest]
  split_ifs <;> simp [fail]

theorem verifyIssuedBy_ok {child issuer : Certificate} {context : String} {result : Unit} :
    verifyIssuedBy library child issuer context = .ok result ↔ IssuedBy library child issuer := by
  simp only [verifyIssuedBy, bind_ok, ensure_ok, orFail_ok, verify_curve, exists_const]
  constructor
  · rintro ⟨name, tbs, encoded, algorithm, digest, hashed, verified⟩
    exact ⟨name, algorithm, tbs, digest, encoded, (tbsDigest_ok context "").mp hashed, verified⟩
  · rintro ⟨name, algorithm, tbs, digest, encoded, hashed, verified⟩
    exact ⟨name, tbs, encoded, algorithm, digest, (tbsDigest_ok context "").mpr hashed, verified⟩

omit [DecidableEq Name] [DecidableEq Algorithm] in
theorem toRoot_cons {cert issuer : Certificate} {rest : List Certificate} :
    ToRoot library (cert :: issuer :: rest) ↔ IssuedBy library cert issuer ∧ ToRoot library (issuer :: rest) := by
  constructor
  · rintro ⟨issued, root⟩
    rw [List.isChain_cons_cons] at issued
    exact ⟨issued.1, issued.2, by simpa [List.getLast?_cons_cons] using root⟩
  · rintro ⟨issued, chain, root⟩
    exact ⟨.cons_cons issued chain, by simpa [List.getLast?_cons_cons] using root⟩

theorem walkChain_ok {cert : Certificate} {issuers : List Certificate} {result : Unit} :
    walkChain library cert issuers = .ok result ↔ ToRoot library (cert :: issuers) := by
  induction issuers generalizing cert with
  | nil =>
    simp only [walkChain, bind_ok, ensure_ok, verifyIssuedBy_ok, exists_const]
    constructor
    · rintro ⟨-, issued⟩
      exact ⟨.singleton _, by simpa using issued⟩
    · rintro ⟨-, root⟩
      have issued := root cert rfl
      exact ⟨issued.name.symm, issued⟩
  | cons issuer rest ih => simp only [walkChain, bind_ok, verifyIssuedBy_ok, ih, exists_const, toRoot_cons]

omit [DecidableEq Name] [DecidableEq Algorithm] in
theorem mapM_orFail {context : String} {chainDer : List Bytes} {chain : List Certificate} :
    (chainDer.mapM fun der => orFail context (library.certificateFromDer der)) = .ok chain ↔
      chainDer.map library.certificateFromDer = chain.map Except.ok := by
  rw [mapM_ok]
  induction chainDer generalizing chain with
  | nil => cases chain <;> simp
  | cons der rest ih => cases chain <;> simp [orFail_ok, ih]

theorem verifyAgainstChain_ok {leaf : Certificate} {firstDer : Bytes} {restDer : List Bytes} {issuers : List Certificate}
    {result : Unit} (parsed : (firstDer :: restDer).map library.certificateFromDer = issuers.map Except.ok) :
    verifyAgainstChain library leaf firstDer restDer = .ok result ↔ ToRoot library (leaf :: issuers) := by
  cases issuers with
  | nil => simp at parsed
  | cons first rest =>
    obtain ⟨parsedFirst, parsedRest⟩ := List.cons.inj parsed
    have reads : restDer.mapM (parseChainCert library) = .ok rest := mapM_orFail.mpr parsedRest
    simp only [verifyAgainstChain, bind_ok, reads, parseChainCert, orFail_ok, parsedFirst, verifyIssuedBy_ok,
      walkChain_ok, Except.ok.injEq, exists_eq_left', exists_const, toRoot_cons]

theorem FulcioCa.issued_iff {ca : FulcioCa} {leaf : Certificate} {certNotBefore : UInt64} :
    ca.issued library leaf certNotBefore ↔
      ca.validAt certNotBefore = true ∧ ∃ issuers, issuers ≠ [] ∧
        ca.certChainDer.map library.certificateFromDer = issuers.map Except.ok ∧ ToRoot library (leaf :: issuers) := by
  rw [FulcioCa.issued, Bool.and_eq_true]
  refine and_congr_right fun _ => ?_
  cases chain : ca.certChainDer with
  | nil => simp
  | cons firstDer restDer =>
    constructor
    · intro verified
      have accepted : verifyAgainstChain library leaf firstDer restDer = .ok () := by
        cases call : verifyAgainstChain library leaf firstDer restDer with
        | error error => simp [call, Except.toBool] at verified
        | ok result => rfl
      have parts := accepted
      simp only [verifyAgainstChain, bind_ok] at parts
      obtain ⟨first, readFirst, rest, readRest, -⟩ := parts
      have parsed : (firstDer :: restDer).map library.certificateFromDer = (first :: rest).map Except.ok := by
        rw [List.map_cons, List.map_cons, mapM_orFail.mp readRest, orFail_ok.mp readFirst]
      exact ⟨first :: rest, List.cons_ne_nil _ _, parsed, (verifyAgainstChain_ok parsed).mp accepted⟩
    · rintro ⟨issuers, -, parsed, toRoot⟩
      have accepted : verifyAgainstChain library leaf firstDer restDer = .ok () :=
        (verifyAgainstChain_ok parsed).mpr toRoot
      simp [accepted, Except.toBool]

end Chain

/-! ## What an authority vouches for -/

section Vouch

variable {Certificate Name Algorithm Serial Any : Type} [DecidableEq Name] [DecidableEq Algorithm] [DecidableEq Serial]
  (library : CmsLibrary Certificate Name Algorithm Serial Any)

/-- With its own leaf, within the validity of everything that the leaf rests on. -/
structure Vouches (authority : TimestampAuthority) (signer : SignerInfo Name Serial Any) (signedAttrsDer : Bytes)
    (time : UInt64) (leaf : Certificate) (issuers : List Certificate) : Prop where
  valid : authority.validAt time = true
  parsed : authority.certChainDer.map library.certificateFromDer = (leaf :: issuers).map Except.ok
  matched : signerMatches library signer.sid leaf = true
  inside : ∀ cert ∈ leaf :: issuers, library.notBefore cert ≤ time ∧ time ≤ library.notAfter cert
  endEntity : library.basicConstraints leaf ≠ .ok (some true)
  purpose : library.extendedKeyUsage leaf = .ok (some [oidKpTimeStamping])
  critical : library.criticalKeyUsage leaf = true
  chain : ToRoot library.toChainLibrary (leaf :: issuers)
  signed : ∃ digest, hashWith library signer.digestAlg signedAttrsDer = .ok digest ∧
    KeyVerifies library.toChainLibrary leaf digest signer.signature

/-- What a token is about, and how its only signer is bound to it. -/
structure Stamp (token : Bytes) where
  tstInfo : TstInfo
  tstInfoDer : Bytes
  signedData : SignedData Name Serial Any
  signer : SignerInfo Name Serial Any
  signedAttrs : List (CmsAttribute Any)
  contentType : Any
  messageDigest : Any
  digest : Bytes
  signedAttrsDer : Bytes
  read : parseToken library token = .ok (tstInfo, tstInfoDer, signedData)
  sole : signedData.signerInfos = [signer]
  attrs : signer.signedAttrs = some signedAttrs
  typed : attributeValue signedAttrs oidContentType = .ok contentType
  isTstInfo : library.decodeOid contentType = .ok oidTstInfo
  digested : attributeValue signedAttrs oidMessageDigest = .ok messageDigest
  isDigest : library.decodeOctets messageDigest = .ok digest
  content : hashWith library signer.digestAlg tstInfoDer = .ok digest
  encoded : library.attrsToDer signedAttrs = .ok signedAttrsDer

variable {library} in
structure Stamp.Covers {token : Bytes} (stamp : Stamp library token) (signature : Bytes) (time : UInt64) : Prop where
  time : stamp.tstInfo.genTime = time
  imprint : hashWith library stamp.tstInfo.messageImprint.hashAlgorithm signature =
    .ok stamp.tstInfo.messageImprint.hashedMessage

def Stamps (authorities : List TimestampAuthority) (token signature : Bytes) (time : UInt64) : Prop :=
  ∃ stamp : Stamp library token, stamp.Covers signature time ∧
    ∃ authority ∈ authorities, ∃ leaf issuers,
      Vouches library authority stamp.signer stamp.signedAttrsDer time leaf issuers

variable {library}

omit [DecidableEq Name] [DecidableEq Algorithm] [DecidableEq Serial] in
theorem Stamp.tstInfo_of_der {token : Bytes} (stamp : Stamp library token) :
    library.tstInfo stamp.tstInfoDer = .ok stamp.tstInfo := by
  have read := stamp.read
  simp only [parseToken, bind_ok, orFail_ok, ensure_ok, pure, Except.pure, Except.ok.injEq, Prod.mk.injEq] at read
  obtain ⟨_, _, _, _, _, _, _, _, _, _, _, _, tstInfo, parsed, rfl, rfl, -⟩ := read
  exact parsed

omit [DecidableEq Name] [DecidableEq Algorithm] [DecidableEq Serial] in
theorem forM_insideValidity {time : UInt64} {chain : List Certificate} {result : Unit} :
    chain.forM (insideValidity library time) = .ok result ↔
      ∀ cert ∈ chain, library.notBefore cert ≤ time ∧ time ≤ library.notAfter cert := by
  induction chain with
  | nil => simp [pure, Except.pure]
  | cons cert rest ih =>
    simp only [List.forM_eq_forM] at ih
    simp [insideValidity, bind_ok, ih]

omit [DecidableEq Serial] in
/-- The chain of a leaf alone and a longer one are verified by different calls, to the same effect. -/
theorem verifyIssuers_ok {chainDer : List Bytes} {leaf : Certificate} {issuers : List Certificate} {result : Unit}
    (parsed : chainDer.map library.certificateFromDer = (leaf :: issuers).map Except.ok) :
    verifyIssuers library leaf chainDer.tail = .ok result ↔ ToRoot library.toChainLibrary (leaf :: issuers) := by
  cases chainDer with
  | nil => cases parsed
  | cons leafDer issuersDer =>
    obtain ⟨-, parsed⟩ := List.cons.inj parsed
    cases issuersDer with
    | nil =>
      obtain rfl : issuers = [] := by simpa using parsed.symm
      rw [List.tail_cons, verifyIssuers, verifyIssuedBy_ok]
      exact ⟨fun issued => ⟨.singleton _, by simpa using issued⟩, fun chain => chain.root leaf rfl⟩
    | cons firstDer restDer => exact verifyAgainstChain_ok parsed

omit [DecidableEq Name] [DecidableEq Algorithm] [DecidableEq Serial] in
theorem verifyCmsSignature_ok {cert : Certificate} {digestOid : String} {message signature : Bytes} {result : Unit} :
    verifyCmsSignature library cert digestOid message signature = .ok result ↔
      ∃ digest, hashWith library digestOid message = .ok digest ∧
        KeyVerifies library.toChainLibrary cert digest signature := by
  simp only [verifyCmsSignature, bind_ok, verify_curve]

theorem verifyWithAuthority_ok {authority : TimestampAuthority} {signer : SignerInfo Name Serial Any}
    {signedAttrsDer : Bytes} {time : UInt64} {result : Unit} :
    verifyWithAuthority library authority signer signedAttrsDer time = .ok result ↔
      ∃ leaf issuers, Vouches library authority signer signedAttrsDer time leaf issuers := by
  simp only [verifyWithAuthority, bind_ok, ensure_ok, mapM_orFail, okOrElse_ok, forM_insideValidity, orFail_ok,
    verifyCmsSignature_ok, exists_const]
  constructor
  · rintro ⟨valid, chain, parsed, leaf, first, matched, inside, endEntity, _, purpose, ⟨rfl, critical⟩, _, tail, signed⟩
    obtain ⟨issuers, rfl⟩ := List.head?_eq_some_iff.mp first
    exact ⟨leaf, issuers, valid, parsed, matched, inside, endEntity, purpose, critical, (verifyIssuers_ok parsed).mp tail,
      signed⟩
  · rintro ⟨leaf, issuers, vouches⟩
    exact ⟨vouches.valid, leaf :: issuers, vouches.parsed, leaf, rfl, vouches.matched, vouches.inside,
      vouches.endEntity, _, vouches.purpose, ⟨rfl, vouches.critical⟩, (), (verifyIssuers_ok vouches.parsed).mpr vouches.chain,
      vouches.signed⟩

omit [DecidableEq Name] [DecidableEq Algorithm] [DecidableEq Serial] in
theorem tryAuthorities_ok {check : TimestampAuthority → Except Error Unit} {lastErr : Error}
    {authorities : List TimestampAuthority} {result : Unit} :
    tryAuthorities check lastErr authorities = .ok result ↔ ∃ authority ∈ authorities, check authority = .ok () := by
  induction authorities generalizing lastErr with
  | nil => simp [tryAuthorities]
  | cons authority rest ih =>
    cases checked : check authority with
    | ok _ => simp [tryAuthorities, checked]
    | error error => simp [tryAuthorities, checked, ih]

theorem verifyTimestamp_ok {token signature : Bytes} {authorities : List TimestampAuthority} {time : UInt64} :
    verifyTimestamp library token signature authorities = .ok time ↔
      Stamps library authorities token signature time := by
  have sole {signedData : SignedData Name Serial Any} {signer : SignerInfo Name Serial Any} :
      soleSigner signedData = .ok signer ↔ signedData.signerInfos = [signer] := by
    unfold soleSigner
    split <;> simp_all [fail]
  simp only [verifyTimestamp, signedAttributes, bind_ok, ensure_ok, okOrElse_ok, orFail_ok, tryAuthorities_ok,
    verifyWithAuthority_ok, sole, exists_const, pure, Except.pure, Except.ok.injEq]
  constructor
  · rintro ⟨⟨tstInfo, tstInfoDer, signedData⟩, read, _, imprint, rfl, signer, sole, signedAttrsDer, ⟨signedAttrs, attrs,
      contentType, typed, _, isTstInfo, rfl, messageDigest, digested, _, isDigest, _, content, rfl, encoded⟩,
      vouched, time⟩
    cases time
    exact ⟨⟨tstInfo, tstInfoDer, signedData, signer, signedAttrs, contentType, messageDigest, _, signedAttrsDer, read,
      sole, attrs, typed, isTstInfo, digested, isDigest, content, encoded⟩, ⟨rfl, imprint⟩, vouched⟩
  · rintro ⟨stamp, ⟨rfl, imprint⟩, vouched⟩
    exact ⟨(stamp.tstInfo, stamp.tstInfoDer, stamp.signedData), stamp.read, _, imprint, rfl, stamp.signer, stamp.sole,
      _, ⟨_, stamp.attrs, _, stamp.typed, _, stamp.isTstInfo, rfl, _, stamp.digested, _, stamp.isDigest, _,
      stamp.content, rfl, stamp.encoded⟩, vouched, rfl⟩

/-! ## What a set of signed attributes is good for -/

variable (library) in
/-- Two contents are told apart by no digest: each has, under its own algorithm, the digest of the other. -/
structure Collide (oid oid' : String) (data data' : Bytes) : Prop where
  differ : data ≠ data'
  same : ∃ digest, hashWith library oid data = .ok digest ∧ hashWith library oid' data' = .ok digest

omit [DecidableEq Name] [DecidableEq Algorithm] [DecidableEq Serial] in
theorem eq_of_hashWith {oid oid' : String} {data data' digest : Bytes} (hashed : hashWith library oid data = .ok digest)
    (hashed' : hashWith library oid' data' = .ok digest) : data = data' ∨ Collide library oid oid' data data' := by
  by_cases same : data = data'
  · exact .inl same
  · exact .inr ⟨same, digest, hashed, hashed'⟩

omit [DecidableEq Name] [DecidableEq Algorithm] [DecidableEq Serial] in
theorem Stamp.tstInfo_eq {token token' : Bytes} {stamp : Stamp library token} {stamp' : Stamp library token'}
    (same : stamp.signedAttrs = stamp'.signedAttrs) :
    stamp.tstInfo = stamp'.tstInfo ∨
      Collide library stamp.signer.digestAlg stamp'.signer.digestAlg stamp.tstInfoDer stamp'.tstInfoDer := by
  have digested := stamp.digested
  rw [same, stamp'.digested] at digested
  obtain sameValue := Except.ok.inj digested
  have isDigest := stamp.isDigest
  rw [← sameValue, stamp'.isDigest] at isDigest
  obtain sameDigest := Except.ok.inj isDigest
  rcases eq_of_hashWith stamp.content (sameDigest ▸ stamp'.content) with content | collide
  · refine .inl ?_
    have parsed := stamp.tstInfo_of_der
    rw [content, stamp'.tstInfo_of_der] at parsed
    exact (Except.ok.inj parsed).symm
  · exact .inr collide

omit [DecidableEq Name] [DecidableEq Algorithm] [DecidableEq Serial] in
/-- What was signed for one signature at one time is good for no other time and no other signature, unless it is these
two contents, or these two signatures, that have one digest. -/
theorem stamped_once
    (injective : ∀ attrs attrs' der, library.attrsToDer attrs = .ok der → library.attrsToDer attrs' = .ok der →
      attrs = attrs')
    {token token' signature signature' : Bytes} {time time' : UInt64} {stamp : Stamp library token}
    {stamp' : Stamp library token'} (covers : stamp.Covers signature time) (covers' : stamp'.Covers signature' time')
    (same : stamp.signedAttrsDer = stamp'.signedAttrsDer) :
    Collide library stamp.signer.digestAlg stamp'.signer.digestAlg stamp.tstInfoDer stamp'.tstInfoDer ∨
      (time = time' ∧ (signature = signature' ∨
        Collide library stamp.tstInfo.messageImprint.hashAlgorithm stamp'.tstInfo.messageImprint.hashAlgorithm
          signature signature')) := by
  have attrs := injective _ _ _ stamp.encoded (same ▸ stamp'.encoded)
  rcases Stamp.tstInfo_eq attrs with content | collide
  · have times : time = time' := by rw [← covers.time, content, covers'.time]
    have imprint := covers.imprint
    rw [congrArg (·.messageImprint.hashedMessage) content] at imprint
    exact .inr ⟨times, eq_of_hashWith imprint covers'.imprint⟩
  · exact .inl collide

/-! ## The time of an accepted bundle -/

variable (library) in
def Verifier.withTimestamps (verifier : Verifier) : Verifier :=
  { verifier with primitives := { verifier.primitives with verifyTimestamp := verifyTimestamp library } }

/-- Nothing but the list of times depends on the verification of timestamps. -/
def Verifier.Acceptance.withTimestamps {verifier : Verifier} {bundle : Value} (accepted : verifier.Acceptance bundle)
    (timestamps : verifyTimestamps (verifier.withTimestamps library).primitives bundle accepted.signature
      verifier.timestampAuthorities = .ok (accepted.tsaTimes, accepted.tsaErrors)) :
    (verifier.withTimestamps library).Acceptance bundle :=
  { accepted with timestamps := timestamps }

def HasToken (bundle : Value) (token : Bytes) : Prop :=
  ∃ timestamp ∈ rfc3161Timestamps bundle, ∃ b64, (timestamp.get "signedTimestamp").bind Value.asStr = some b64 ∧
    Base64.decode b64.toList = some token

/-- No timestamp that verifies is left out. -/
theorem mem_verifyTimestamps {primitives : Primitives} {bundle : Value} {signature : Bytes}
    {authorities : List TimestampAuthority} {times : List UInt64} {errors : List Error}
    (verified : verifyTimestamps primitives bundle signature authorities = .ok (times, errors)) {time : UInt64} :
    time ∈ times ↔ ∃ token, HasToken bundle token ∧ primitives.verifyTimestamp token signature authorities = .ok time := by
  constructor
  · intro member
    obtain ⟨timestamp, among, read⟩ := verifyTimestamps_ok verified member
    simp only [bundleTimestamp, bind_ok, okOrElse_ok, decodeB64_ok] at read
    obtain ⟨b64, text, token, decoded, accepted⟩ := read
    exact ⟨token, ⟨timestamp, among, b64, text, decoded⟩, accepted⟩
  · rintro ⟨token, ⟨timestamp, among, b64, text, decoded⟩, accepted⟩
    have read : bundleTimestamp primitives signature authorities timestamp = .ok time := by
      simp only [bundleTimestamp, bind_ok, okOrElse_ok, decodeB64_ok]
      exact ⟨b64, text, token, decoded, accepted⟩
    simp only [verifyTimestamps] at verified
    split at verified
    · cases verified
    · cases verified
      rw [List.mem_filterMap]
      exact ⟨.ok time, List.mem_map.mpr ⟨timestamp, among, read⟩, rfl⟩

variable (library) in
/-- Every vouched time of an accepted bundle is inside the window of the certificate.  The bundle's own time is signed
by the log, or is the earliest of the vouched times. -/
theorem stamped_time_vouched (verifier : Verifier) (bundle : Value)
    (accepted : (verifier.withTimestamps library).Acceptance bundle) :
    (∀ token time, HasToken bundle token →
      Stamps library verifier.timestampAuthorities token accepted.signature time →
      verifier.certNotBefore ≤ time ∧ time ≤ verifier.certNotAfter) ∧
    (accepted.SignedByLog ∨
      (∃ token, HasToken bundle token ∧
        Stamps library verifier.timestampAuthorities token accepted.signature accepted.time) ∧
      ∀ token time, HasToken bundle token →
        Stamps library verifier.timestampAuthorities token accepted.signature time → accepted.time ≤ time) := by
  have vouched {time : UInt64} : time ∈ accepted.tsaTimes ↔ ∃ token, HasToken bundle token ∧
      Stamps library verifier.timestampAuthorities token accepted.signature time := by
    simp only [mem_verifyTimestamps accepted.timestamps, Verifier.withTimestamps, verifyTimestamp_ok]
  constructor
  · intro token time among stamps
    exact checkTimestamps_ok accepted.inWindow (vouched.mpr ⟨token, among, stamps⟩)
  · obtain ⟨origin, -⟩ := accepted.time_origin
    rcases origin with signed | earliest
    · exact .inl signed
    · refine .inr ⟨vouched.mp earliest.1, ?_⟩
      intro token time among stamps
      exact (earliest.2 time (vouched.mpr ⟨token, among, stamps⟩)).1

end Vouch

/-! ## A stamped bundle -/

namespace Sample

/-- A response about the signature of one byte, by an authority with one root above its leaf. -/
def stampResponse : Bytes :=
  List.flatMap (Der.bigEndian 46)
    [0x308201c63003020100308201bd06092a864886f70d010702a08201ae308201aa020103310f300d06096086480165,
      0x0304020105003067060b2a864886f70d0109100104a0580456305402010106032a03043031300d06096086480165,
      0x03040201050004204bf5122f344554c53bde2ebb8cd2b7e3d1600ad631c385a5d7cce23c7785459a020102180f32,
      0x303236313131393039323932315a300302010131820129308201250201013014300f310d300b06035504030c0472,
      0x6f6f74020102300d06096086480165030402010500a081a4301a06092a864886f70d010903310d060b2a864886f7,
      0x0d0109100104301c06092a864886f70d010905310f170d3236313131393039323932315a302f06092a864886f70d,
      0x01090431220420306c58a8fb770418fa02e4b31124187176052d3073a7b060758daae6689d99013037060b2a8648,
      0x86f70d010910022f312830263024302204204369af24829398536910636c98671837693960320cc9885854575f0c,
      0x8bc3c24e300a06082a8648ce3d04030204483046022100bc4dc0cccf261b784748d901e7ca07f24e23b2ef1827b3] ++
  Der.bigEndian 44 0x03bcb2b36107752ae3022100d1aba4f6c45fbac8ac9bf8aff2818bc75c89bca62c60d90783212d78c5822294

def tsaLeaf : Bytes :=
  List.flatMap (Der.bigEndian 46)
    [0x308201653082010ca003020102020102300a06082a8648ce3d040302300f310d300b06035504030c04726f6f7430,
      0x1e170d3236313131393039323932315a170d3336313131363039323932315a300e310c300a06035504030c037473,
      0x613059301306072a8648ce3d020106082a8648ce3d03010703420004e0265b7df2f1b42cb4fc58f1640c90e8e3a9,
      0xa460aa6ca2f98824f567e4b58fedebecc60816d7cdcde131fff352f428f04692b438932d51272630a311daff3e43,
      0xa35a305830160603551d250101ff040c300a06082b06010505070308301d0603551d0e04160414c4a199f209736f,
      0x433bffa928fa770b95574128ec301f0603551d23041830168014ee6da6e3e9b68a55961f16271537e24ac57bec4e,
      0x300a06082a8648ce3d040302034700304402200bd62b683545518c5b6cb8dcffa010ceb3893fc47f645e4a6d52f3] ++
  Der.bigEndian 39 0xc594c18dfe02205b68e0f4c5b325bcd79d3051d6953f9291eff67161232850d9bdc32f46742e37

def tsaRoot : Bytes :=
  List.flatMap (Der.bigEndian 46)
    [0x308201513081f8a003020102021424436baabf52ff1d129b99e7ee91e5be219a3207300a06082a8648ce3d040302,
      0x300f310d300b06035504030c04726f6f74301e170d3236313131393039323932315a170d33363131313630393239,
      0x32315a300f310d300b06035504030c04726f6f743059301306072a8648ce3d020106082a8648ce3d030107034200,
      0x04bc6e425d2ef2a05b23ce3f75223640ed8a2d5294c13befb12115095280b7a9d9bb514fdd935686536ce0b8cb3c,
      0x3d19619878d0bbd64bc5cf1e6878537a42f168a3323030300f0603551d130101ff040530030101ff301d0603551d,
      0x0e04160414ee6da6e3e9b68a55961f16271537e24ac57bec4e300a06082a8648ce3d04030203480030450221009a,
      0x5b669bad9a64d3060c26718ce61c7b4d7c52da75c07470b4211491f12e59f102200d0ea3bdf5126aeb4eafe2fbf9] ++
  Der.bigEndian 19 0x83437913ae36dd31a39bb3af7b2a47bfd65368

def stampPart (start length : Nat) : Bytes := (stampResponse.drop start).take length

def stampContentType : Bytes := stampPart 223 13

def stampAttributes : List (CmsAttribute Bytes) :=
  [{ oid := oidContentType, values := [stampContentType] },
    { oid := "1.2.840.113549.1.9.5", values := [stampPart 251 15] },
    { oid := oidMessageDigest, values := [stampPart 281 34] },
    { oid := "1.2.840.113549.1.9.16.2.47", values := [stampPart 332 40] }]

def stampAttributesDer : Bytes := 0x31 :: stampPart 206 166

def tsaTbs (cert : Bytes) : Bytes := (cert.drop 4).take (if cert = tsaLeaf then 272 else 251)

def tsaKey (cert : Bytes) : Bytes := (cert.drop (if cert = tsaLeaf then 119 else 138)).take 65

def tsaSignature (cert : Bytes) : Bytes := cert.drop (if cert = tsaLeaf then 291 else 270)

/-- The inputs that were hashed, with their SHA-256 digests. -/
def stampDigests : List (Bytes × Bytes) := [
  ([1], Der.bigEndian 32 0x4bf5122f344554c53bde2ebb8cd2b7e3d1600ad631c385a5d7cce23c7785459a),
  (stampPart 71 86, Der.bigEndian 32 0x306c58a8fb770418fa02e4b31124187176052d3073a7b060758daae6689d9901),
  (stampAttributesDer, Der.bigEndian 32 0xa9903ace02e845edfa4907db258d4262e9d1621b832c6c9c5bbc0ee3905bf37a),
  (tsaTbs tsaLeaf, Der.bigEndian 32 0x809b5ebc0a60987edd20c2d1946c98b4e7e3b36d7e1cd4f890aa2a12cbc0882a),
  (tsaTbs tsaRoot, Der.bigEndian 32 0xfb3ef0f801d2a68c88a1dbac8e99744d5b7e84ee0ec477f73b615b65d20256d5)]

def stampDigest (data : Bytes) : Bytes := (stampDigests.lookup data).getD []

def stampSignatures : List (Bytes × Bytes × Bytes) :=
  [(tsaKey tsaLeaf, stampDigest stampAttributesDer, stampPart 386 72),
    (tsaKey tsaRoot, stampDigest (tsaTbs tsaLeaf), tsaSignature tsaLeaf),
    (tsaKey tsaRoot, stampDigest (tsaTbs tsaRoot), tsaSignature tsaRoot)]

def stampScheme : SignatureScheme where
  keyError _ := none
  signatureError _ := none
  verify key digest signature := stampSignatures.contains (key, digest, signature)

def stampToken : Bytes := stampResponse.drop 9

def stampSigner : SignerInfo String Bytes Bytes where
  sid := .issuerAndSerialNumber "CN=root" [2]
  digestAlg := oidSha256
  signedAttrs := some stampAttributes
  signature := stampPart 386 72

def stampTime : UInt64 := 1795080561

def cmsLibrary : CmsLibrary Bytes String String Bytes Bytes where
  certificateFromDer der := if der = tsaLeaf ∨ der = tsaRoot then .ok der else .error "malformed certificate"
  keyUsage _ := .ok none
  extendedKeyUsage cert := .ok (if cert = tsaLeaf then some [oidKpTimeStamping] else none)
  issuer _ := "CN=root"
  subject cert := if cert = tsaLeaf then "CN=tsa" else "CN=root"
  publicKeyInfo cert := .ok ((cert.drop (if cert = tsaLeaf then 93 else 112)).take 91)
  subjectPublicKey := tsaKey
  tbs cert := .ok (tsaTbs cert)
  signature := tsaSignature
  signatureAlgorithm _ := oidEcdsaSha256
  tbsSignature _ := oidEcdsaSha256
  algorithmOid := id
  curve _ := some oidSecp256r1
  sha256 := stampDigest
  sha384 _ := []
  sha512 _ := []
  p256 := stampScheme
  p384 := unusedScheme
  timeStampResp der :=
    if der = stampResponse then .ok { status := 0, timeStampToken := some stampToken } else .error "unexpected tag"
  contentInfo der :=
    if der = stampToken then .ok { contentType := oidSignedData, content := stampPart 28 430 }
    else .error "unexpected tag"
  signedData der :=
    if der = stampPart 28 430 then
      .ok { econtentType := oidTstInfo, econtent := some (stampPart 71 86), signerInfos := [stampSigner] }
    else .error "unexpected tag"
  tstInfo der :=
    if der = stampPart 71 86 then
      .ok { messageImprint := { hashAlgorithm := oidSha256, hashedMessage := stampPart 100 32 }, genTime := stampTime }
    else .error "unexpected tag"
  anyToDer := .ok
  decodeOid any := if any = stampContentType then .ok oidTstInfo else .error "unexpected tag"
  decodeOctets any := if any.take 2 = [4, 32] then .ok (any.drop 2) else .error "unexpected tag"
  attrsToDer attrs := if attrs = stampAttributes then .ok stampAttributesDer else .error "overlength"
  serialNumber cert := if cert = tsaLeaf then [2] else (cert.drop 14).take 20
  subjectKeyIdentifier cert := .ok (some ((cert.drop (if cert = tsaLeaf then 223 else 235)).take 20))
  basicConstraints cert := .ok (if cert = tsaLeaf then none else some true)
  criticalKeyUsage cert := cert = tsaLeaf
  notBefore _ := 1795080561
  notAfter _ := 2110440561

def authority : TimestampAuthority :=
  { certChainDer := [tsaLeaf, tsaRoot], validFrom := some 1795000000, validUntil := none }

theorem verifiedStamp : verifyTimestamp cmsLibrary stampResponse [1] [authority] = .ok stampTime := by
  decide +kernel

theorem contentInfo_token : cmsLibrary.contentInfo stampToken =
    .ok { contentType := oidSignedData, content := stampPart 28 430 } := by simp [cmsLibrary]

theorem responseInfo : tokenContentInfo cmsLibrary stampResponse =
    .ok { contentType := oidSignedData, content := stampPart 28 430 } := by
  have known : cmsLibrary.timeStampResp stampResponse = .ok { status := 0, timeStampToken := some stampToken } := by
    simp [cmsLibrary]
  have plain : cmsLibrary.anyToDer stampToken = .ok stampToken := rfl
  simp [tokenContentInfo, known, contentInfo_token, plain, orFail, okOrElse, bind, Except.bind]

theorem tokenInfo : tokenContentInfo cmsLibrary stampToken =
    .ok { contentType := oidSignedData, content := stampPart 28 430 } := by
  have other : stampToken ≠ stampResponse := by decide
  have bare : cmsLibrary.timeStampResp stampToken = .error "unexpected tag" := by simp [cmsLibrary, other]
  simp [tokenContentInfo, bare, contentInfo_token, orFail]

theorem stampRead {token : Bytes} (contentInfo : tokenContentInfo cmsLibrary token =
    .ok { contentType := oidSignedData, content := stampPart 28 430 }) :
    parseToken cmsLibrary token =
      .ok ({ messageImprint := { hashAlgorithm := oidSha256, hashedMessage := stampPart 100 32 }, genTime := stampTime },
        stampPart 71 86,
        { econtentType := oidTstInfo, econtent := some (stampPart 71 86), signerInfos := [stampSigner] }) := by
  rw [parseToken, contentInfo]
  simp [cmsLibrary, ensure, orFail, okOrElse, bind, Except.bind, pure, Except.pure]

theorem stampTyped : attributeValue stampAttributes oidContentType = .ok stampContentType ∧
    cmsLibrary.decodeOid stampContentType = .ok oidTstInfo := by decide

theorem stampDigested : attributeValue stampAttributes oidMessageDigest = .ok (stampPart 281 34) ∧
    cmsLibrary.decodeOctets (stampPart 281 34) = .ok (stampPart 283 32) ∧
      hashWith cmsLibrary stampSigner.digestAlg (stampPart 71 86) = .ok (stampPart 283 32) := by decide

theorem stampEncoded : cmsLibrary.attrsToDer stampAttributes = .ok stampAttributesDer := by simp [cmsLibrary]

def stamp {token : Bytes} (contentInfo : tokenContentInfo cmsLibrary token =
    .ok { contentType := oidSignedData, content := stampPart 28 430 }) : Stamp cmsLibrary token where
  tstInfo := { messageImprint := { hashAlgorithm := oidSha256, hashedMessage := stampPart 100 32 }, genTime := stampTime }
  tstInfoDer := stampPart 71 86
  signedData := { econtentType := oidTstInfo, econtent := some (stampPart 71 86), signerInfos := [stampSigner] }
  signer := stampSigner
  signedAttrs := stampAttributes
  contentType := stampContentType
  messageDigest := stampPart 281 34
  digest := stampPart 283 32
  signedAttrsDer := stampAttributesDer
  read := stampRead contentInfo
  sole := rfl
  attrs := rfl
  typed := stampTyped.1
  isTstInfo := stampTyped.2
  digested := stampDigested.1
  isDigest := stampDigested.2.1
  content := stampDigested.2.2
  encoded := stampEncoded

theorem stamp_covers {token : Bytes} (contentInfo : tokenContentInfo cmsLibrary token =
    .ok { contentType := oidSignedData, content := stampPart 28 430 }) : (stamp contentInfo).Covers [1] stampTime :=
  ⟨rfl, by show hashWith cmsLibrary oidSha256 [1] = .ok (stampPart 100 32); decide⟩

/-- An entry without a promise of the log, and the bundle with the response. -/
def stampedEntry : Value :=
  .object [
    ("canonicalizedBody", .string (b64 bodyBytes)),
    ("inclusionProof", proof .three "3"),
    ("kindVersion", .object [("kind", .string "hashedrekord"), ("version", .string "0.0.1")]),
    ("logId", .object [("keyId", .string (b64 logId))]),
    ("logIndex", .string "0")]

def stampedBundle : Value :=
  .object [
    ("dsseEnvelope", .object [("payload", .string "e30="), ("payloadType", .string "application/json"),
      ("signatures", .array [.object [("sig", .string "AQ==")]])]),
    ("verificationMaterial", .object [
      ("certificate", .object [("rawBytes", .string "AQ==")]),
      ("timestampVerificationData", .object [
        ("rfc3161Timestamps", .array [.object [("signedTimestamp", .string (b64 stampResponse))]])]),
      ("tlogEntries", .array [stampedEntry])])]

/-- A certificate for the ten minutes around the stamp. -/
def stampedVerifier : Verifier :=
  { verifier with certNotBefore := 1795080500, certNotAfter := 1795081100, timestampAuthorities := [authority] }

theorem stampedTokens :
    rfc3161Timestamps stampedBundle = [.object [("signedTimestamp", .string (b64 stampResponse))]] := rfl

theorem stampedTimestamps {primitives : Primitives}
    (verified : primitives.verifyTimestamp stampResponse [1] [authority] = .ok stampTime) :
    verifyTimestamps primitives stampedBundle [1] [authority] = .ok ([stampTime], []) := by
  have text : ((Value.object [("signedTimestamp", .string (b64 stampResponse))]).get "signedTimestamp").bind Value.asStr =
    some (b64 stampResponse) := rfl
  have read : bundleTimestamp primitives [1] [authority]
      (.object [("signedTimestamp", .string (b64 stampResponse))]) = .ok stampTime := by
    simp only [bundleTimestamp, bind_ok, okOrElse_ok]
    exact ⟨_, text, _, decodeB64_b64 _ _ _, verified⟩
  rw [verifyTimestamps, stampedTokens, List.map_singleton, read]
  rfl

theorem stampedKindVersion : verifyKindVersion primitives stampedEntry bodyBytes = .ok () := by
  obtain ⟨metadata, found, kind, version⟩ : ∃ metadata, stampedEntry.get "kindVersion" = some metadata ∧
      (metadata.get "kind").bind Value.asStr = some "hashedrekord" ∧
      (metadata.get "version").bind Value.asStr = some "0.0.1" := ⟨_, rfl, rfl, rfl⟩
  have bodyKind : (body.get "kind").bind Value.asStr = some "hashedrekord" := rfl
  have bodyVersion : (body.get "apiVersion").bind Value.asStr = some "0.0.1" := rfl
  simp [verifyKindVersion, parsedBody, found, kind, version, bodyKind, bodyVersion, okOrElse, bind,
    Except.bind, pure, Except.pure]

theorem stampedPayload : verifyPayloadHashBinding primitives stampedBundle bodyBytes = .ok () := by
  simp only [verifyPayloadHashBinding, parsedBody, bind, Except.bind]
  rfl

theorem stampedKey : findRekorKey primitives [rekorKey] (b64 logId) stampTime = .ok rekorKey := by
  have valid : rekorKey.validAt stampTime = true := by decide
  have id : rekorKey.keyId = b64 logId := rfl
  simp [findRekorKey, valid, id]

def stampedAcceptance : stampedVerifier.Acceptance stampedBundle where
  entry := stampedEntry
  bodyB64 := b64 bodyBytes
  bodyBytes := bodyBytes
  signature := [1]
  tsaTimes := [stampTime]
  tsaErrors := []
  time := stampTime
  proof := proof .three "3"
  logId := b64 logId
  logIdBytes := logId
  rekorKey := rekorKey
  envelope := envelope .three
  checkpoint := Head.three.checkpoint
  root := Head.three.hash.val
  index := 0
  size := 3
  hashes := Head.three.path.map Subtype.val
  outputs := Head.three.path
  rootOutput := Head.three.hash
  readEntry := rfl
  readBody := rfl
  decodedBody := decodeB64_b64 _ _ _
  kindVersion := stampedKindVersion
  readSignature := rfl
  timestamps := stampedTimestamps rfl
  inWindow := rfl
  observed := rfl
  readProof := rfl
  readLogId := rfl
  decodedLogId := decodeB64_b64 _ _ _
  foundKey := stampedKey
  readCheckpoint := rfl
  promise := rfl
  decodedCheckpoint := decodedCheckpoint .three
  signed := signed .three
  readRoot := readRoot .three "3"
  sameRoot := sameRoot .three
  readIndex := rfl
  readSize := rfl
  readHashes := readHashes .three "3"
  certificateBound := certificateBound "application/json" "e30=" .three "3"
  signatureBound := signatureBound "application/json" "e30=" .three "3"
  payloadBound := stampedPayload
  wholeHashes := wholeHashes .three
  wholeRoot := wholeRoot .three
  included := included (.inl rfl)

def vouchedAcceptance : (stampedVerifier.withTimestamps cmsLibrary).Acceptance stampedBundle :=
  stampedAcceptance.withTimestamps (stampedTimestamps verifiedStamp)

end Sample

/-- The response and the bare token stamp the same. -/
theorem stamped_once_bare :
    Collide Sample.cmsLibrary oidSha256 oidSha256 (Sample.stampPart 71 86) (Sample.stampPart 71 86) ∨
      (Sample.stampTime = Sample.stampTime ∧
        (([1] : Bytes) = [1] ∨ Collide Sample.cmsLibrary oidSha256 oidSha256 [1] [1])) := by
  refine stamped_once ?_ (Sample.stamp_covers Sample.responseInfo) (Sample.stamp_covers Sample.tokenInfo) rfl
  intro attrs attrs' der encoded encoded'
  simp only [Sample.cmsLibrary] at encoded encoded'
  split at encoded
  · rename_i known
    split at encoded'
    · rename_i known'
      rw [known, known']
    · cases encoded'
  · cases encoded

/-- The bundle without a promise of the log is accepted at the time of its stamp. -/
theorem stamped_time_vouched_sample :
    ∃ accepted : (Sample.stampedVerifier.withTimestamps Sample.cmsLibrary).Acceptance Sample.stampedBundle,
      accepted.time = Sample.stampTime ∧
      (accepted.SignedByLog ∨ ∃ token, HasToken Sample.stampedBundle token ∧
        Stamps Sample.cmsLibrary [Sample.authority] token accepted.signature accepted.time) := by
  refine ⟨Sample.vouchedAcceptance, rfl, ?_⟩
  obtain ⟨-, origin⟩ := stamped_time_vouched Sample.cmsLibrary Sample.stampedVerifier Sample.stampedBundle
    Sample.vouchedAcceptance
  exact origin.imp_right And.left

end Tinfoil.Sigstore
