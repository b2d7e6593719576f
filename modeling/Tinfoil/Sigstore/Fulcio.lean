import Tinfoil.Der
import Tinfoil.Sigstore.Certificate

/-! # The chain of a signing certificate

A signing certificate is accepted through an authority that was valid when it was issued, by name and by
signatures.  The key for its timestamps is looked up by name alone; `issuerSpki_iff` says when that is the key of
the authority.
-/

namespace Tinfoil.Sigstore

/-! ## The search by name -/

section Search

variable {Certificate Name : Type} (library : CertificateLibrary Certificate Name)

namespace FulcioCa

def Names (ca : FulcioCa) (leaf : Certificate) : Prop :=
  ∃ cert, ca.issuerCert library = some cert ∧ library.issuer leaf = library.subject cert

def HasSpki (ca : FulcioCa) (spki : Bytes) : Prop :=
  ∃ cert, ca.issuerCert library = some cert ∧ library.publicKeyInfo cert = .ok spki

def SharesSpki (ca ca' : FulcioCa) : Prop := ∃ spki, ca.HasSpki library spki ∧ ca'.HasSpki library spki

end FulcioCa

/-- Of the authorities with the name of the leaf's issuer, the first one in the list. -/
def FirstNamed (fulcioCas : List FulcioCa) (leaf : Certificate) (first : FulcioCa) : Prop :=
  ∃ before after, fulcioCas = before ++ first :: after ∧ first.Names library leaf ∧
    ∀ earlier ∈ before, ¬ earlier.Names library leaf

variable {library} {fulcioCas : List FulcioCa} {ca first : FulcioCa} {leaf : Certificate} {spki : Bytes}

theorem exists_firstNamed (member : ca ∈ fulcioCas) (named : ca.Names library leaf) :
    ∃ first, FirstNamed library fulcioCas leaf first := by
  induction fulcioCas with
  | nil => cases member
  | cons head rest ih =>
    by_cases found : head.Names library leaf
    · exact ⟨head, [], rest, rfl, found, by simp⟩
    · cases List.mem_cons.mp member with
      | inl same => exact absurd (same ▸ named) found
      | inr later =>
        obtain ⟨first, before, after, rfl, named', others⟩ := ih later
        exact ⟨first, head :: before, after, rfl, named', List.forall_mem_cons.mpr ⟨found, others⟩⟩

variable [DecidableEq Name]

theorem findIssuerSpki_named {rest : List FulcioCa} (named : ca.Names library leaf) :
    findIssuerSpki library (ca :: rest) leaf = .ok spki ↔ ca.HasSpki library spki := by
  obtain ⟨cert, issuer, name⟩ := named
  simp [findIssuerSpki, FulcioCa.HasSpki, issuer, name, orFail_ok]

theorem findIssuerSpki_skip {rest : List FulcioCa} (other : ¬ ca.Names library leaf) :
    findIssuerSpki library (ca :: rest) leaf =
      findIssuerSpki library rest leaf := by
  cases issuer : ca.issuerCert library with
  | none => simp [findIssuerSpki, issuer]
  | some cert =>
    have name : library.issuer leaf ≠ library.subject cert := fun same => other ⟨cert, issuer, same⟩
    simp [findIssuerSpki, issuer, name]

theorem findIssuerSpki_first (stops : FirstNamed library fulcioCas leaf first) :
    findIssuerSpki library fulcioCas leaf = .ok spki ↔ first.HasSpki library spki := by
  obtain ⟨before, after, rfl, named, others⟩ := stops
  induction before with
  | nil => exact findIssuerSpki_named named
  | cons earlier before ih =>
    rw [List.cons_append, findIssuerSpki_skip (others earlier List.mem_cons_self)]
    exact ih fun earlier' member => others earlier' (List.mem_cons_of_mem _ member)

end Search

/-! ## One certificate under another -/

structure ChainLibrary (Certificate Name Algorithm : Type) extends CertificateLibrary Certificate Name where
  /-- `tbs_certificate.to_der()` -/
  tbs : Certificate → Except String Bytes
  signature : Certificate → Bytes
  signatureAlgorithm : Certificate → Algorithm
  /-- Of `tbs_certificate`. -/
  tbsSignature : Certificate → Algorithm
  algorithmOid : Algorithm → String
  /-- The parameters of a certificate's key, where they are an object identifier. -/
  curve : Certificate → Option String
  sha256 : Bytes → Bytes
  sha384 : Bytes → Bytes
  sha512 : Bytes → Bytes
  /-- Of digests. -/
  p256 : SignatureScheme
  p384 : SignatureScheme

def oidSecp256r1 : String := "1.2.840.10045.3.1.7"

def oidSecp384r1 : String := "1.3.132.0.34"

def oidEcdsaSha256 : String := "1.2.840.10045.4.3.2"

def oidEcdsaSha384 : String := "1.2.840.10045.4.3.3"

def oidEcdsaSha512 : String := "1.2.840.10045.4.3.4"

/-- A key or a signature that cannot be read does not verify. -/
def SignatureScheme.verifyPrehash (scheme : SignatureScheme) (digest sigBytes pubkeyBytes : Bytes) : Bool :=
  (scheme.keyError pubkeyBytes).isNone && (scheme.signatureError sigBytes).isNone &&
    scheme.verify pubkeyBytes digest sigBytes

/-- `Error::SigstoreVerification`, unless the condition holds. -/
def ensure (condition : Prop) [Decidable condition] (message : String) : Except Error Unit :=
  if condition then .ok () else fail message

@[simp] theorem ensure_ok {condition : Prop} [Decidable condition] {message : String} {result : Unit} :
    ensure condition message = .ok result ↔ condition := by
  by_cases holds : condition <;> simp [ensure, fail, holds]

section Chain

variable {Certificate Name Algorithm : Type} [DecidableEq Name] [DecidableEq Algorithm]
  (library : ChainLibrary Certificate Name Algorithm)

/-- The hash is the one of the child's algorithm, whatever the issuer's curve is. -/
def tbsDigest (child : Certificate) (tbsBytes : Bytes) (context : String) : Except Error Bytes :=
  let oid := library.algorithmOid (library.signatureAlgorithm child)
  if oid = oidEcdsaSha256 then .ok (library.sha256 tbsBytes)
  else if oid = oidEcdsaSha384 then .ok (library.sha384 tbsBytes)
  else if oid = oidEcdsaSha512 then .ok (library.sha512 tbsBytes)
  else fail (context ++ " uses unsupported signature algorithm " ++ oid)

def verifyIssuedBy (child issuer : Certificate) (context : String) : Except Error Unit := do
  ensure (library.issuer child = library.subject issuer) (context ++ " issuer DN does not match issuer subject")
  let tbsBytes ← orFail "Failed to encode TBS: " (library.tbs child)
  let sigBytes := library.signature child
  let issuerPubkeyBytes := library.subjectPublicKey issuer
  ensure (library.signatureAlgorithm child = library.tbsSignature child)
    (context ++ " outer signature algorithm does not match tbs.signature")
  let digest ← tbsDigest library child tbsBytes context
  let verified ←
    if library.curve issuer = some oidSecp256r1 then
      .ok (library.p256.verifyPrehash digest sigBytes issuerPubkeyBytes)
    else if library.curve issuer = some oidSecp384r1 then
      .ok (library.p384.verifyPrehash digest sigBytes issuerPubkeyBytes)
    else fail (context ++ " issuer uses unsupported curve")
  ensure (verified = true) (context ++ " signature did not verify against issuer")

/-! ## The chain of an authority -/

def walkChain (cert : Certificate) : List Certificate → Except Error Unit
  | [] => do
    ensure (library.subject cert = library.issuer cert) "Fulcio chain does not end in a self-signed root"
    verifyIssuedBy library cert cert "Fulcio root certificate"
  | issuer :: rest => do
    verifyIssuedBy library cert issuer "Fulcio chain certificate"
    walkChain issuer rest

def parseChainCert (der : Bytes) : Except Error Certificate :=
  orFail "Failed to parse Fulcio chain cert: " (library.certificateFromDer der)

/-- The chain is not empty: `firstDer` is the one of the issuer. -/
def verifyAgainstChain (leaf : Certificate) (firstDer : Bytes) (restDer : List Bytes) : Except Error Unit := do
  let first ← parseChainCert library firstDer
  let rest ← restDer.mapM (parseChainCert library)
  verifyIssuedBy library leaf first "signing certificate"
  walkChain library first rest

/-! ## The search by window and signatures -/

namespace FulcioCa

variable (ca : FulcioCa)

def validAt (time : UInt64) : Bool := ca.validFrom ≤ time && ca.validUntil.all fun finish => time ≤ finish

def issued (leaf : Certificate) (certNotBefore : UInt64) : Bool :=
  ca.validAt certNotBefore &&
    match ca.certChainDer with
    | [] => false
    | firstDer :: restDer => (verifyAgainstChain library leaf firstDer restDer).toBool

end FulcioCa

def verifyFulcioChain (fulcioCas : List FulcioCa) (certDer : Bytes) (certNotBefore : UInt64) : Except Error Unit := do
  let signingCert ← orFail "Failed to parse signing certificate: " (library.certificateFromDer certDer)
  -- Authorities that the certificate does not verify under are passed over, whatever the error.
  if fulcioCas.any fun ca => ca.issued library signingCert certNotBefore then return ()
  else fail "Certificate not issued by any trusted Fulcio CA"

variable {library}

theorem verifyFulcioChain_ok {fulcioCas : List FulcioCa} {certDer : Bytes} {leaf : Certificate}
    {certNotBefore : UInt64} (parsed : library.certificateFromDer certDer = .ok leaf) :
    verifyFulcioChain library fulcioCas certDer certNotBefore = .ok () ↔
      ∃ ca ∈ fulcioCas, ca.issued library leaf certNotBefore := by
  rw [verifyFulcioChain, parsed, ← List.any_eq_true]
  by_cases found : fulcioCas.any fun ca => ca.issued library leaf certNotBefore
  · simp [orFail, found, bind, Except.bind, pure, Except.pure]
  · simp [orFail, found, bind, Except.bind, fail]

theorem issuer_of_verified {child issuer : Certificate} {context : String}
    (verified : verifyIssuedBy library child issuer context = .ok ()) :
    library.issuer child = library.subject issuer := by
  simp only [verifyIssuedBy, bind_ok, ensure_ok] at verified
  exact verified.choose_spec.1

theorem FulcioCa.names_of_issued {ca : FulcioCa} {leaf : Certificate} {certNotBefore : UInt64}
    (issued : ca.issued library leaf certNotBefore) : ca.Names library.toCertificateLibrary leaf := by
  rw [FulcioCa.issued, Bool.and_eq_true] at issued
  obtain ⟨-, verified⟩ := issued
  cases chain : ca.certChainDer with
  | nil => simp [chain] at verified
  | cons firstDer restDer =>
    simp only [chain] at verified
    cases accepted : verifyAgainstChain library leaf firstDer restDer with
    | error error => simp [accepted, Except.toBool] at verified
    | ok result =>
      simp only [verifyAgainstChain, parseChainCert, bind_ok, orFail_ok] at accepted
      obtain ⟨first, parsed, _, _, _, signed, -⟩ := accepted
      refine ⟨first, ?_, issuer_of_verified signed⟩
      simp [FulcioCa.issuerCert, chain, parsed, Except.toOption]

/-! ## Where they meet -/

/-- A certificate is accepted through an authority.  Its timestamps are verified with the key of that exactly if the
first authority of the same name has this key. -/
theorem issuerSpki_iff {fulcioCas : List FulcioCa} {certDer : Bytes} {leaf : Certificate} {certNotBefore : UInt64}
    {ca : FulcioCa} (parsed : library.certificateFromDer certDer = .ok leaf) (member : ca ∈ fulcioCas)
    (issued : ca.issued library leaf certNotBefore) :
    verifyFulcioChain library fulcioCas certDer certNotBefore = .ok () ∧
      ((∃ spki, ca.HasSpki library.toCertificateLibrary spki ∧
          findIssuerSpki library.toCertificateLibrary fulcioCas leaf = .ok spki) ↔
        ∀ first, FirstNamed library.toCertificateLibrary fulcioCas leaf first →
          ca.SharesSpki library.toCertificateLibrary first) := by
  refine ⟨(verifyFulcioChain_ok parsed).mpr ⟨ca, member, issued⟩, ?_⟩
  constructor
  · intro found first stops
    obtain ⟨spki, key, found⟩ := found
    exact ⟨spki, key, (findIssuerSpki_first stops).mp found⟩
  · intro shared
    -- The authority itself has the name, so that the search stops somewhere.
    obtain ⟨first, stops⟩ := exists_firstNamed member (FulcioCa.names_of_issued issued)
    obtain ⟨spki, key, key'⟩ := shared first stops
    exact ⟨spki, key, (findIssuerSpki_first stops).mpr key'⟩

end Chain

/-! ## A key rotation -/

namespace Sample

/-- An authority, and after a rotation of its key, and a leaf under the new key. -/
def fulcio2021 : Bytes :=
  List.flatMap (Der.bigEndian 46)
    [0x3082010d3081b5a003020102020101300a06082a8648ce3d0403023011310f300d06035504030c0666756c63696f,
      0x301e170d3231303130313030303030305a170d3331303130313030303030305a3011310f300d06035504030c0666,
      0x756c63696f3059301306072a8648ce3d020106082a8648ce3d030107034200048325dd6a411951c5b353ab1dbd85,
      0x9f297daaf9b0eb642e222f934298df60a8a66fc72655cbc824b631405123960784ad8a9e23d47b7dde71d6984523,
      0x88434f6b300a06082a8648ce3d04030203470030440220094f5b0afc6dc68903131fccdf614bca8a8356aed95ce7] ++
  Der.bigEndian 43 0xae8758bc244a2433ec0220731e466ca8f61b286f56fdca9892ab24b5f6298adba6fa1e564c53803222e9db

def fulcio2023 : Bytes :=
  List.flatMap (Der.bigEndian 46)
    [0x3082010d3081b5a003020102020102300a06082a8648ce3d0403023011310f300d06035504030c0666756c63696f,
      0x301e170d3233303130313030303030305a170d3333303130313030303030305a3011310f300d06035504030c0666,
      0x756c63696f3059301306072a8648ce3d020106082a8648ce3d03010703420004c2e21c18b1b348c4016730a86cdc,
      0x92b673ab234da20e146415fe8080159ead7094eedc75832e7085c382ce804957eb956db1455b3373e74f914ad2ee,
      0x793eefdc300a06082a8648ce3d0403020347003044022029927dc9ab06bd728c11af225a0918b3551baecc18785d] ++
  Der.bigEndian 43 0x2d83b0643a3df86ce70220123e9229defbb99edcab470975543bffb46784345e3e9da56994b1204374a3be

def leaf : Bytes :=
  List.flatMap (Der.bigEndian 46)
    [0x3081fc3081a4a003020102020103300a06082a8648ce3d0403023011310f300d06035504030c0666756c63696f30,
      0x1e170d3234303130313030303030305a170d3234303130313030313030305a30003059301306072a8648ce3d0201,
      0x06082a8648ce3d030107034200047584497d012a9a5ca1947a2b905d534b67dd6d4c8ccb85789ea0f066aa7fb28f,
      0x5e7d2f566f5531910add6fee1a61d28b231675d7c02c9c8b094d211f9d858593300a06082a8648ce3d0403020347,
      0x003044022036c6be569ad2123880b29aed42855c5083cf0afec08b58eff2434d08255b38ed02202c43c1dffceed6] ++
  Der.bigEndian 25 0xbfa0940ea301285433eecd6566f4d2b70dd660c36b2d0c24e5

structure Parsed where
  subject : String
  tbs : Bytes
  spki : Bytes
  signature : Bytes
  deriving DecidableEq

def fulcioCertificate (der : Bytes) : Parsed where
  subject := "CN=fulcio"
  tbs := (der.drop 4).take 184
  spki := (der.drop 97).take 91
  signature := der.drop 203

def leafCertificate : Parsed where
  subject := ""
  tbs := (leaf.drop 3).take 167
  spki := (leaf.drop 79).take 91
  signature := leaf.drop 185

def tbsHash (der : Bytes) : Bytes :=
  if der = (fulcioCertificate fulcio2021).tbs then
    Der.bigEndian 32 0xb34c5720b025fad0244d6d3b66f20133147faa676bbc512071a02749123065f9
  else if der = (fulcioCertificate fulcio2023).tbs then
    Der.bigEndian 32 0xb4f01c8b47882d69a508f70ed789941cdc7ba7e319e2f41df9574c2a50415dcc
  else Der.bigEndian 32 0xe0f37c8513809b9ccb3bfe54d98e440fa2c5989a581e0800dae7c82c1f301337

def fulcioSignatures : List (Bytes × Bytes × Bytes) :=
  let made (signer : Bytes) (signed : Parsed) :=
    ((fulcioCertificate signer).spki.drop 26, tbsHash signed.tbs, signed.signature)
  [made fulcio2021 (fulcioCertificate fulcio2021), made fulcio2023 (fulcioCertificate fulcio2023),
    made fulcio2023 leafCertificate]

def prehashed : SignatureScheme where
  keyError key := if key.length = 65 then none else some "signature error"
  signatureError signature := if signature.length = 70 then none else some "signature error"
  verify key digest signature := fulcioSignatures.contains (key, digest, signature)

def chainLibrary : ChainLibrary Parsed String String where
  certificateFromDer der :=
    if der = fulcio2021 ∨ der = fulcio2023 then .ok (fulcioCertificate der)
    else if der = leaf then .ok leafCertificate
    else .error "malformed certificate"
  keyUsage _ := .ok none
  extendedKeyUsage _ := .ok none
  issuer _ := "CN=fulcio"
  subject := Parsed.subject
  publicKeyInfo cert := .ok cert.spki
  subjectPublicKey cert := cert.spki.drop 26
  tbs cert := .ok cert.tbs
  signature := Parsed.signature
  signatureAlgorithm _ := oidEcdsaSha256
  tbsSignature _ := oidEcdsaSha256
  algorithmOid := id
  curve _ := some oidSecp256r1
  sha256 := tbsHash
  sha384 := tbsHash
  sha512 := tbsHash
  p256 := prehashed
  p384 := prehashed

/-- Until the end of 2022. -/
def ca2021 : FulcioCa := { certChainDer := [fulcio2021], validFrom := 1609459200, validUntil := some 1672444800 }

/-- From 2023 on. -/
def ca2023 : FulcioCa := { certChainDer := [fulcio2023], validFrom := 1672531200, validUntil := none }

theorem issued_leaf : ca2023.issued chainLibrary leafCertificate 1704067200 := by
  decide +kernel

def spki2023 : Bytes := (fulcioCertificate fulcio2023).spki

theorem hasSpki : ca2023.HasSpki chainLibrary.toCertificateLibrary spki2023 :=
  ⟨fulcioCertificate fulcio2023, by decide +kernel, rfl⟩

end Sample

/-- With the old authority in the list, the leaf is accepted through the new one and looked up under the old. -/
theorem issuerSpki_rotated :
    verifyFulcioChain Sample.chainLibrary [Sample.ca2021, Sample.ca2023] Sample.leaf 1704067200 = .ok () ∧
      Sample.ca2023.issued Sample.chainLibrary Sample.leafCertificate 1704067200 ∧
      ¬ Sample.ca2021.issued Sample.chainLibrary Sample.leafCertificate 1704067200 ∧
      Sample.ca2023.HasSpki Sample.chainLibrary.toCertificateLibrary Sample.spki2023 ∧
      findIssuerSpki Sample.chainLibrary.toCertificateLibrary [Sample.ca2021, Sample.ca2023] Sample.leafCertificate =
        .ok (Sample.fulcioCertificate Sample.fulcio2021).spki ∧
      (Sample.fulcioCertificate Sample.fulcio2021).spki ≠ Sample.spki2023 := by
  refine ⟨?_, Sample.issued_leaf, ?_, Sample.hasSpki, ?_, ?_⟩ <;> decide +kernel

/-- With the new authority first, its key is found. -/
theorem issuerSpki_current :
    ∃ spki, Sample.ca2023.HasSpki Sample.chainLibrary.toCertificateLibrary spki ∧
      findIssuerSpki Sample.chainLibrary.toCertificateLibrary [Sample.ca2023, Sample.ca2021] Sample.leafCertificate =
        .ok spki := by
  have member : Sample.ca2023 ∈ [Sample.ca2023, Sample.ca2021] := List.mem_cons_self
  have parsed : Sample.chainLibrary.certificateFromDer Sample.leaf = .ok Sample.leafCertificate := by decide +kernel
  refine (issuerSpki_iff parsed member Sample.issued_leaf).2.mpr fun first stops => ⟨_, Sample.hasSpki, ?_⟩
  obtain ⟨before, after, list, named, others⟩ := stops
  cases before with
  | nil =>
    obtain ⟨rfl, -⟩ := List.cons.inj list
    exact Sample.hasSpki
  | cons earlier before =>
    obtain ⟨rfl, -⟩ := List.cons.inj list
    exact absurd (FulcioCa.names_of_issued Sample.issued_leaf) (others _ List.mem_cons_self)

end Tinfoil.Sigstore
