import Tinfoil.Der
import Tinfoil.Sigstore.Acceptance
import Tinfoil.Sigstore.Certificate

/-! # The signature of an envelope

`verifyDsseSignature` takes a signature that starts with the octet of a DER sequence for a DER
encoding, any other for `r || s`.  `encoding_independent_iff` says for which signatures the two
encodings are told apart: not for those with that octet at the top of `r`.
-/

namespace Tinfoil.Sigstore

open Json (Value)

/-! ## Signatures of P-256 -/

def p256Order : Nat := 0xffffffff00000000ffffffffffffffffbce6faada7179e84f3b9cac2fc632551

/-- Two scalars, neither of them zero. -/
structure EcdsaSignature where
  r : Nat
  s : Nat
  validR : 0 < r ∧ r < p256Order
  validS : 0 < s ∧ s < p256Order

namespace EcdsaSignature

def der (signature : EcdsaSignature) : Bytes := Der.encodePair signature.r signature.s

/-- `r || s` -/
def raw (signature : EcdsaSignature) : Bytes :=
  Der.bigEndian 32 signature.r ++ Der.bigEndian 32 signature.s

def topOctet (signature : EcdsaSignature) : Nat := signature.r / 256 ^ 31

def ofScalars (r s : Nat) : Option EcdsaSignature :=
  if valid : (0 < r ∧ r < p256Order) ∧ 0 < s ∧ s < p256Order then some ⟨r, s, valid.1, valid.2⟩ else none

def fromDer (bytes : Bytes) : Option EcdsaSignature :=
  (Der.decodePair bytes).bind fun scalars => ofScalars scalars.1 scalars.2

def fromSlice (bytes : Bytes) : Option EcdsaSignature :=
  if bytes.length = 64 then ofScalars (Der.value (bytes.take 32)) (Der.value (bytes.drop 32)) else none

theorem ofScalars_eq_some {r s : Nat} {signature : EcdsaSignature} :
    ofScalars r s = some signature ↔ r = signature.r ∧ s = signature.s := by
  obtain ⟨r', s', validR, validS⟩ := signature
  unfold ofScalars
  split
  · simp
  · rename_i invalid
    constructor
    · exact fun h => by cases h
    · intro ⟨sameR, sameS⟩
      rw [sameR, sameS] at invalid
      exact absurd ⟨validR, validS⟩ invalid

theorem lt_width {scalar : Nat} (valid : 0 < scalar ∧ scalar < p256Order) : scalar < 256 ^ 32 :=
  Nat.lt_trans valid.2 (by decide)

theorem fromDer_eq_some {bytes : Bytes} {signature : EcdsaSignature} :
    fromDer bytes = some signature ↔ bytes = signature.der := by
  simp only [fromDer, Option.bind_eq_some_iff, ofScalars_eq_some]
  constructor
  · intro ⟨scalars, decoded, r, s⟩
    rw [← Der.decodePair_eq_some decoded, r, s, der]
  · intro same
    have short : Der.octetCount signature.r < 256 := by
      have fits : signature.r.log2 < 256 :=
        (Nat.log2_lt (Nat.pos_iff_ne_zero.mp signature.validR.1)).mpr (lt_width signature.validR)
      unfold Der.octetCount
      omega
    rw [same, der, Der.decodePair_encodePair short]
    exact ⟨_, rfl, rfl, rfl⟩

theorem fromSlice_eq_some {bytes : Bytes} {signature : EcdsaSignature} :
    fromSlice bytes = some signature ↔ bytes = signature.raw := by
  unfold fromSlice
  constructor
  · intro decoded
    split at decoded
    · rename_i length
      obtain ⟨r, s⟩ := ofScalars_eq_some.mp decoded
      have lengths : (bytes.take 32).length = 32 ∧ (bytes.drop 32).length = 32 := by simp [length]
      have front := Der.bigEndian_value (bytes.take 32)
      have back := Der.bigEndian_value (bytes.drop 32)
      rw [lengths.1] at front
      rw [lengths.2] at back
      rw [raw, ← r, ← s, front, back, List.take_append_drop]
    · cases decoded
  · intro same
    have front : bytes.take 32 = Der.bigEndian 32 signature.r :=
      same ▸ List.take_left' (Der.length_bigEndian ..)
    have back : bytes.drop 32 = Der.bigEndian 32 signature.s :=
      same ▸ List.drop_left' (Der.length_bigEndian ..)
    have length : bytes.length = 64 := by simp [same, raw]
    rw [if_pos length, front, back, Der.value_bigEndian (lt_width signature.validR),
      Der.value_bigEndian (lt_width signature.validS)]
    exact ofScalars_eq_some.mpr ⟨rfl, rfl⟩

theorem head_der (signature : EcdsaSignature) : signature.der.head? = some 0x30 := rfl

theorem head_raw (signature : EcdsaSignature) : signature.raw.head? = some 0x30 ↔ signature.topOctet = 0x30 := by
  have first : signature.raw.head? = some (UInt8.ofNat signature.topOctet) := rfl
  have octet : signature.topOctet < 256 := by
    have fits := lt_width signature.validR
    unfold topOctet
    omega
  rw [first, Option.some.injEq, ← UInt8.toNat_inj, UInt8.toNat_ofNat_of_lt' octet]
  rfl

end EcdsaSignature

/-! ## The verifier -/

structure SigningLibrary (Certificate Name Key : Type) extends CertificateLibrary Certificate Name where
  loadFulcioCas : Except Error (List FulcioCa)
  /-- The certificate timestamps embedded in a certificate. -/
  verifySct : (certDer issuerSpkiDer : Bytes) → Except Error Unit
  /-- `VerifyingKey::from_sec1_bytes` -/
  keyFromSec1Bytes : Bytes → Except String Key
  /-- `Signature::from_der` -/
  signatureFromDer : Bytes → Except String EcdsaSignature
  /-- `Signature::from_slice` -/
  signatureFromSlice : Bytes → Except String EcdsaSignature
  verify : Key → (message : Bytes) → EcdsaSignature → Except String Unit

/-- The decoders accept exactly their formats. -/
structure SigningLibrary.Exact {Certificate Name Key : Type}
    (library : SigningLibrary Certificate Name Key) : Prop where
  der : ∀ bytes signature, library.signatureFromDer bytes = .ok signature ↔ bytes = signature.der
  raw : ∀ bytes signature, library.signatureFromSlice bytes = .ok signature ↔ bytes = signature.raw

structure Envelope (Key : Type) where
  verifyingKey : Key
  pae : Bytes
  signatureB64 : String

section Verifier

variable {Certificate Name Key : Type} [DecidableEq Name] (primitives : Primitives)
  (library : SigningLibrary Certificate Name Key)

def signingKey (bundle : Value) : Except Error Key := do
  let certB64 ← okOrElse (strAt bundle ["verificationMaterial", "certificate", "rawBytes"])
    "No certificate in bundle"
  let certDer ← decodeB64 primitives "certificate" certB64
  let cert ← orFail "Failed to parse certificate: " (library.certificateFromDer certDer)
  validateCertificateExtensions library.toCertificateLibrary cert
  let fulcioCas ← library.loadFulcioCas
  let issuerSpkiDer ← findIssuerSpki library.toCertificateLibrary fulcioCas cert
  library.verifySct certDer issuerSpkiDer
  orFail "Invalid public key: " (library.keyFromSec1Bytes (library.subjectPublicKey cert))

def soleSignature (dsse : Value) : Except Error String := do
  let signatures ← okOrElse ((dsse.get "signatures").bind Value.asArray)
    "No signatures array in DSSE envelope"
  match signatures with
  | [signature] => okOrElse ((signature.get "sig").bind Value.asStr) "No sig field in DSSE signature"
  | _ => fail ("DSSE envelope must have exactly 1 signature, got " ++ toString signatures.length)

/-- Everything that is read, and checked, before the signature is decoded. -/
def readEnvelope (bundle : Value) : Except Error (Envelope Key) := do
  let verifyingKey ← signingKey primitives library bundle
  let dsse ← okOrElse (bundle.get "dsseEnvelope") "No dsseEnvelope in bundle"
  let payloadType ← okOrElse (strAt dsse ["payloadType"]) "No payloadType"
  let payloadB64 ← okOrElse (strAt dsse ["payload"]) "No payload"
  let signatureB64 ← soleSignature dsse
  let payload ← decodeB64 primitives "payload" payloadB64
  return { verifyingKey, pae := computePae payloadType payload, signatureB64 }

/-- The format is guessed from the first octet. -/
def decodeSignature (signatureBytes : Bytes) : Except Error EcdsaSignature :=
  if signatureBytes.head? = some 0x30 then
    orFail "Invalid DER signature: " (library.signatureFromDer signatureBytes)
  else
    orFail "Invalid raw signature: " (library.signatureFromSlice signatureBytes)

def checkSignature (verifyingKey : Key) (pae signatureBytes : Bytes) : Except Error Unit := do
  let signature ← decodeSignature library signatureBytes
  orFail "DSSE signature verification failed: " (library.verify verifyingKey pae signature)

def verifyDsseSignature (bundle : Value) : Except Error Unit := do
  let envelope ← readEnvelope primitives library bundle
  let signatureBytes ← decodeB64 primitives "signature" envelope.signatureB64
  checkSignature library envelope.verifyingKey envelope.pae signatureBytes

end Verifier

/-! ## The two encodings -/

section Decoding

variable {Certificate Name Key : Type} {library : SigningLibrary Certificate Name Key}

theorem decodeSignature_der (exact : library.Exact) (signature : EcdsaSignature) :
    decodeSignature library signature.der = .ok signature := by
  rw [decodeSignature, if_pos signature.head_der]
  exact orFail_ok.mpr ((exact.der _ _).mpr rfl)

theorem decodeSignature_raw (exact : library.Exact) {signature : EcdsaSignature}
    (clear : signature.topOctet ≠ 0x30) : decodeSignature library signature.raw = .ok signature := by
  rw [decodeSignature, if_neg (fun first => clear (signature.head_raw.mp first))]
  exact orFail_ok.mpr ((exact.raw _ _).mpr rfl)

theorem checkSignature_der (exact : library.Exact) (verifyingKey : Key) (pae : Bytes)
    (signature : EcdsaSignature) : checkSignature library verifyingKey pae signature.der =
      orFail "DSSE signature verification failed: " (library.verify verifyingKey pae signature) := by
  simp only [checkSignature, decodeSignature_der exact, bind, Except.bind]

/-- What an ambiguous raw encoding encodes in DER is another signature. -/
theorem ne_of_der_eq_raw {signature other : EcdsaSignature} (ambiguous : signature.topOctet = 0x30)
    (whole : other.der = signature.raw) : other ≠ signature :=
  fun same => Der.encodePair_ne ambiguous (same ▸ whole).symm

/-- An ambiguous raw encoding is judged as the DER encoding it looks like, and refused where it is none. -/
theorem checkSignature_ambiguous_iff (exact : library.Exact) {signature : EcdsaSignature}
    (ambiguous : signature.topOctet = 0x30) (verifyingKey : Key) (pae : Bytes) :
    checkSignature library verifyingKey pae signature.der = checkSignature library verifyingKey pae signature.raw ↔
      ∃ other : EcdsaSignature, other ≠ signature ∧ other.der = signature.raw ∧
        library.verify verifyingKey pae other = library.verify verifyingKey pae signature := by
  rw [checkSignature_der exact]
  simp only [checkSignature, decodeSignature, if_pos (signature.head_raw.mpr ambiguous)]
  cases decoded : library.signatureFromDer signature.raw with
  | ok other =>
    have whole := (exact.der _ _).mp decoded
    simp only [orFail, bind, Except.bind]
    constructor
    · exact fun same => ⟨other, ne_of_der_eq_raw ambiguous whole.symm, whole.symm, (orFail_inj same).symm⟩
    · intro judged
      obtain ⟨other', -, whole', same⟩ := judged
      have decoded' := (exact.der _ _).mpr whole'.symm
      rw [decoded] at decoded'
      rw [Except.ok.inj decoded', same]
  | error error =>
    simp only [orFail, fail, bind, Except.bind]
    constructor
    · intro same
      -- The messages of the two steps differ in their first letter.
      split at same
      · cases same
      · simp only [Except.error.injEq, Error.sigstoreVerification.injEq] at same
        have texts := congrArg (fun text => text.toList.head?) same
        simp [String.toList_append] at texts
    · intro judged
      obtain ⟨other, -, whole, -⟩ := judged
      rw [(exact.der _ _).mpr whole.symm] at decoded
      cases decoded

end Decoding

/-! ## Replacing the signature -/

def withSignature (bundle : Value) (signatureBytes : Bytes) : Value :=
  bundle.alter (fun _ => .string (String.ofList (Base64.encode signatureBytes)))
    ["dsseEnvelope", "signatures", "0", "sig"]

theorem soleSignature_alter (dsse : Value) (text text' : String) :
    soleSignature (dsse.alter (fun _ => .string text) ["signatures", "0", "sig"]) =
      (soleSignature (dsse.alter (fun _ => .string text') ["signatures", "0", "sig"])).map fun _ => text := by
  have first : Value.parseIndex "0" = some 0 := by decide
  simp only [soleSignature, Value.get_alter_same]
  cases dsse.get "signatures" with
  | none => rfl
  | some signatures =>
    cases signatures with
    | array items =>
      simp only [Option.map_some, Option.bind_some, Value.alter, first, Value.asArray]
      cases items with
      | nil => rfl
      | cons signature rest =>
        simp only [okOrElse, bind, Except.bind, List.modify_zero_cons]
        cases rest with
        | nil =>
          simp only [Value.get_alter_same]
          cases signature.get "sig" <;> rfl
        | cons _ _ => simp [fail, Except.map]
    | _ => rfl

section Replacing

variable {Certificate Name Key : Type} [DecidableEq Name] {primitives : Primitives}
  {library : SigningLibrary Certificate Name Key}

variable (primitives library) in
theorem readEnvelope_withSignature (bundle : Value) (signatureBytes signatureBytes' : Bytes) :
    readEnvelope primitives library (withSignature bundle signatureBytes) =
      (readEnvelope primitives library (withSignature bundle signatureBytes')).map fun envelope =>
        { envelope with signatureB64 := String.ofList (Base64.encode signatureBytes) } := by
  have key (bytes : Bytes) : signingKey primitives library (withSignature bundle bytes) =
      signingKey primitives library bundle := by
    have certificate : strAt (withSignature bundle bytes)
        ["verificationMaterial", "certificate", "rawBytes"] =
        strAt bundle ["verificationMaterial", "certificate", "rawBytes"] :=
      congrArg (Option.bind · Value.asStr) (Value.getPath_alter_fork [] (by decide) _ bundle)
    simp only [signingKey, certificate]
  have field (bytes : Bytes) (name : String) (other : name ≠ "signatures") (dsse : Value) :
      strAt (dsse.alter (fun _ => .string (String.ofList (Base64.encode bytes))) ["signatures", "0", "sig"]) [name] =
        strAt dsse [name] :=
    congrArg (Option.bind · Value.asStr) (Value.getPath_alter_fork [] other _ dsse)
  simp only [readEnvelope, key]
  cases signingKey primitives library bundle with
  | error error => rfl
  | ok verifyingKey =>
    simp only [withSignature, Value.get_alter_same]
    cases bundle.get "dsseEnvelope" with
    | none => rfl
    | some dsse =>
      simp only [Option.map_some, okOrElse, bind, Except.bind, field _ "payloadType" (by decide),
        field _ "payload" (by decide)]
      cases strAt dsse ["payloadType"] with
      | none => rfl
      | some payloadType =>
        cases strAt dsse ["payload"] with
        | none => rfl
        | some payloadB64 =>
          simp only
          rw [soleSignature_alter dsse _ (String.ofList (Base64.encode signatureBytes'))]
          cases soleSignature (dsse.alter (fun _ => .string (String.ofList (Base64.encode signatureBytes')))
              ["signatures", "0", "sig"]) with
          | error error => rfl
          | ok text =>
            simp only [Except.map]
            cases decodeB64 primitives "payload" payloadB64 <;> rfl

/-- Every check passes that comes before the signature, which is to verify under this key. -/
def Opens (primitives : Primitives) (library : SigningLibrary Certificate Name Key) (bundle : Value)
    (verifyingKey : Key) (pae : Bytes) : Prop :=
  ∃ signatureB64, readEnvelope primitives library bundle = .ok ⟨verifyingKey, pae, signatureB64⟩

theorem verify_of_opens {bundle : Value} {signatureBytes : Bytes} {verifyingKey : Key} {pae : Bytes}
    (opens : Opens primitives library (withSignature bundle signatureBytes) verifyingKey pae)
    (signatureBytes' : Bytes) :
    verifyDsseSignature primitives library (withSignature bundle signatureBytes') =
      checkSignature library verifyingKey pae signatureBytes' := by
  obtain ⟨signatureB64, read⟩ := opens
  have read' := readEnvelope_withSignature primitives library bundle signatureBytes' signatureBytes
  rw [read] at read'
  simp [verifyDsseSignature, read', Except.map, bind, Except.bind, decodeB64, String.toList_ofList,
    Base64.decode_encode, okOrElse]

theorem verify_of_closed {bundle : Value} {signatureBytes : Bytes}
    (closed : ∀ verifyingKey pae,
      ¬ Opens primitives library (withSignature bundle signatureBytes) verifyingKey pae)
    (signatureBytes' : Bytes) :
    verifyDsseSignature primitives library (withSignature bundle signatureBytes') =
      verifyDsseSignature primitives library (withSignature bundle signatureBytes) := by
  have read := readEnvelope_withSignature primitives library bundle signatureBytes' signatureBytes
  cases result : readEnvelope primitives library (withSignature bundle signatureBytes) with
  | error error =>
    rw [result] at read
    simp [verifyDsseSignature, read, result, Except.map, bind, Except.bind]
  | ok envelope => exact absurd ⟨envelope.signatureB64, result⟩ (closed envelope.verifyingKey envelope.pae)

/-- Verification tells the two encodings of a signature apart exactly where the raw one starts with
the octet of a DER sequence, the bundle gets as far as its signature, and the raw encoding is not by
chance the DER encoding of another signature with the same verdict. -/
theorem encoding_independent_iff (exact : library.Exact) (bundle : Value) (signature : EcdsaSignature) :
    verifyDsseSignature primitives library (withSignature bundle signature.der) =
        verifyDsseSignature primitives library (withSignature bundle signature.raw) ↔
      signature.topOctet ≠ 0x30 ∨
        ∀ verifyingKey pae,
          Opens primitives library (withSignature bundle signature.der) verifyingKey pae →
          ∃ other : EcdsaSignature, other ≠ signature ∧ other.der = signature.raw ∧
            library.verify verifyingKey pae other = library.verify verifyingKey pae signature := by
  by_cases opened : ∃ verifyingKey pae,
      Opens primitives library (withSignature bundle signature.der) verifyingKey pae
  · obtain ⟨verifyingKey, pae, opens⟩ := opened
    rw [verify_of_opens opens, verify_of_opens opens]
    by_cases ambiguous : signature.topOctet = 0x30
    · rw [checkSignature_ambiguous_iff exact ambiguous]
      constructor
      · intro judged
        right
        intro verifyingKey' pae' ⟨signatureB64', read'⟩
        obtain ⟨signatureB64, read⟩ := opens
        obtain ⟨rfl, rfl, -⟩ := Envelope.mk.inj (Except.ok.inj (read.symm.trans read'))
        exact judged
      · intro condition
        cases condition with
        | inl clear => exact absurd ambiguous clear
        | inr judged => exact judged verifyingKey pae opens
    · have clear := decodeSignature_raw exact ambiguous
      have same : checkSignature library verifyingKey pae signature.der =
          checkSignature library verifyingKey pae signature.raw := by
        rw [checkSignature_der exact]
        simp only [checkSignature, clear, bind, Except.bind]
      exact ⟨fun _ => .inl ambiguous, fun _ => same⟩
  · have closed : ∀ verifyingKey pae,
        ¬ Opens primitives library (withSignature bundle signature.der) verifyingKey pae :=
      fun verifyingKey pae opens => opened ⟨verifyingKey, pae, opens⟩
    constructor
    · exact fun _ => .inr fun verifyingKey pae opens => absurd opens (closed verifyingKey pae)
    · exact fun _ => (verify_of_closed closed signature.raw).symm

end Replacing

namespace Sample

/-- A key, and a signature by it over the sample payload with the octet of a sequence at the top of `r`. -/
def signingPublicKey : Bytes := bytesOf 65
  0x04f15a7f9f58279004e3af49350e2ba8660caedf529064bcf32e775bc7378f0446f8e9cee1a0c489bdcdd6a0d4fe966cf9905aa4e48b2d3cfc63f3aa78cd961a8d

def signature : EcdsaSignature where
  r := 0x301d9e502dc7e05da85da026a7ae9aa0fac9db7d52a95b3e3e3f9aa0a1b45b8b
  s := 0xa9fc3e29041b3a8055e448f16b8bd45534f98b2522158c53887b0b957c43a7aa
  validR := by decide
  validS := by decide

/-- Certificates are their encodings; the key has made one signature. -/
def signingLibrary : SigningLibrary Bytes String Bytes where
  certificateFromDer := .ok
  keyUsage _ := .ok (some true)
  extendedKeyUsage _ := .ok (some [idKpCodeSigning])
  issuer _ := "CN=sigstore-intermediate,O=sigstore.dev"
  subject _ := "CN=sigstore-intermediate,O=sigstore.dev"
  publicKeyInfo := .ok
  subjectPublicKey _ := signingPublicKey
  loadFulcioCas := .ok [⟨[[2]], 0, none⟩]
  verifySct _ _ := .ok ()
  keyFromSec1Bytes := .ok
  signatureFromDer bytes := (EcdsaSignature.fromDer bytes).elim (.error "signature error") .ok
  signatureFromSlice bytes := (EcdsaSignature.fromSlice bytes).elim (.error "signature error") .ok
  verify key message made :=
    if key = signingPublicKey ∧ message = computePae "application/json" [0x7b, 0x7d] ∧
        made.r = signature.r ∧ made.s = signature.s then .ok () else .error "signature error"

theorem signingLibrary_exact : signingLibrary.Exact := by
  have accepts {decoded : Option EcdsaSignature} {made : EcdsaSignature} :
      decoded.elim (.error "signature error") Except.ok = .ok made ↔ decoded = some made := by
    cases decoded <;> simp
  constructor
  case der => exact fun bytes made => accepts.trans EcdsaSignature.fromDer_eq_some
  case raw => exact fun bytes made => accepts.trans EcdsaSignature.fromSlice_eq_some

/-- Its scalars in the other order. -/
def swapped : EcdsaSignature where
  r := signature.s
  s := signature.r
  validR := signature.validS
  validS := signature.validR

theorem undecodable : EcdsaSignature.fromDer signature.raw = none := by decide +kernel

theorem opens (signatureBytes : Bytes) : Opens primitives signingLibrary
    (withSignature (bundle "3") signatureBytes) signingPublicKey (computePae "application/json" [0x7b, 0x7d]) :=
  ⟨_, rfl⟩

end Sample

/-- The encodings are told apart for the sample signature, and not for its scalars in the other order. -/
theorem encoding_independent_samples :
    (¬ verifyDsseSignature Sample.primitives Sample.signingLibrary
        (withSignature (Sample.bundle "3") Sample.signature.der) =
      verifyDsseSignature Sample.primitives Sample.signingLibrary
        (withSignature (Sample.bundle "3") Sample.signature.raw)) ∧
    verifyDsseSignature Sample.primitives Sample.signingLibrary
        (withSignature (Sample.bundle "3") Sample.swapped.der) =
      verifyDsseSignature Sample.primitives Sample.signingLibrary
        (withSignature (Sample.bundle "3") Sample.swapped.raw) := by
  rw [encoding_independent_iff Sample.signingLibrary_exact, encoding_independent_iff Sample.signingLibrary_exact]
  constructor
  · intro condition
    cases condition with
    | inl clear => exact clear (by decide)
    | inr judged =>
      obtain ⟨other, -, whole, -⟩ := judged _ _ (Sample.opens _)
      have decoded := EcdsaSignature.fromDer_eq_some.mpr whole.symm
      rw [Sample.undecodable] at decoded
      cases decoded
  · exact .inl (by decide)

/-- One valid signature: accepted in its DER encoding, refused in its raw one. -/
theorem raw_signature_refused :
    verifyDsseSignature Sample.primitives Sample.signingLibrary
        (withSignature (Sample.bundle "3") Sample.signature.der) = .ok () ∧
      verifyDsseSignature Sample.primitives Sample.signingLibrary
        (withSignature (Sample.bundle "3") Sample.signature.raw) =
        .error (.sigstoreVerification "Invalid DER signature: signature error") := by
  rw [verify_of_opens (Sample.opens []), verify_of_opens (Sample.opens [])]
  constructor
  · rw [checkSignature_der Sample.signingLibrary_exact]
    rfl
  · simp only [checkSignature, decodeSignature, if_pos (Sample.signature.head_raw.mpr (by decide)),
      Sample.signingLibrary, Sample.undecodable, Option.elim_none]
    rfl

/-! ## What a signature and a logged digest bind -/

def Carries (bundle : Value) (payloadType : String) (payload : Bytes) : Prop :=
  ∃ dsse payloadB64, bundle.get "dsseEnvelope" = some dsse ∧ strAt dsse ["payloadType"] = some payloadType ∧
    strAt dsse ["payload"] = some payloadB64 ∧ Base64.decode payloadB64.toList = some payload

def CarrySame (bundle bundle' : Value) : Prop :=
  ∃ payloadType payload, Carries bundle payloadType payload ∧ Carries bundle' payloadType payload

theorem carries_of_readEnvelope {Certificate Name Key : Type} [DecidableEq Name] {primitives : Primitives}
    {library : SigningLibrary Certificate Name Key} {bundle : Value} {envelope : Envelope Key}
    (read : readEnvelope primitives library bundle = .ok envelope) :
    ∃ payloadType payload, Carries bundle payloadType payload ∧
      envelope.pae = computePae payloadType payload := by
  simp only [readEnvelope, bind_ok, okOrElse_ok, decodeB64_ok] at read
  obtain ⟨_, _, dsse, found, payloadType, type, payloadB64, body, _, _, payload, decoded, same⟩ := read
  cases same
  exact ⟨payloadType, payload, ⟨dsse, payloadB64, found, type, body, decoded⟩, rfl⟩

theorem verified_of_accepted {Certificate Name Key : Type} [DecidableEq Name] {primitives : Primitives}
    {library : SigningLibrary Certificate Name Key} {bundle : Value} {envelope : Envelope Key}
    (read : readEnvelope primitives library bundle = .ok envelope)
    (accepted : verifyDsseSignature primitives library bundle = .ok ()) :
    ∃ signatureBytes signature, Base64.decode envelope.signatureB64.toList = some signatureBytes ∧
      decodeSignature library signatureBytes = .ok signature ∧
      library.verify envelope.verifyingKey envelope.pae signature = .ok () := by
  simp only [verifyDsseSignature, checkSignature, bind_ok, decodeB64_ok, orFail_ok] at accepted
  obtain ⟨envelope', read', signatureBytes, decoded, signature, parsed, verified⟩ := accepted
  obtain rfl := Except.ok.inj (read'.symm.trans read)
  exact ⟨signatureBytes, signature, decoded, parsed, verified⟩

theorem carries_of_paeDigest {primitives : Primitives} {bundle data : Value}
    (bound : verifyPaeDigest primitives bundle data = .ok ()) :
    ∃ payloadType payload digestB64, Carries bundle payloadType payload ∧
      strAt data ["digest"] = some digestB64 ∧
      Base64.decode digestB64.toList = some (primitives.sha256 (computePae payloadType payload)).val := by
  simp only [verifyPaeDigest] at bound
  split at bound
  · cases bound
  · simp only [bind_ok, okOrElse_ok, decodeB64_ok] at bound
    obtain ⟨digestB64, digest, expected, logged, dsse, found, payloadType, type, payloadB64, body, payload,
      decoded, compared⟩ := bound
    split at compared
    · cases compared
    · rename_i same
      rw [ne_eq, Decidable.not_not] at same
      exact ⟨payloadType, payload, digestB64, ⟨dsse, payloadB64, found, type, body, decoded⟩, digest,
        same ▸ logged⟩

/-- The encoding determines type and payload.  So two bundles accepted with one key and one signature
carry the same, or that signature verifies two messages; and two bundles that match one logged digest
carry the same, or SHA-256 collides on their encodings. -/
theorem pae_binds :
    (∀ payloadType payloadType' payload payload',
      computePae payloadType payload = computePae payloadType' payload' →
        payloadType = payloadType' ∧ payload = payload') ∧
    (∀ {Certificate Name Key : Type} [DecidableEq Name] (primitives : Primitives)
      (library : SigningLibrary Certificate Name Key) (bundle bundle' : Value) (envelope envelope' : Envelope Key),
      readEnvelope primitives library bundle = .ok envelope →
      readEnvelope primitives library bundle' = .ok envelope' →
      envelope.verifyingKey = envelope'.verifyingKey → envelope.signatureB64 = envelope'.signatureB64 →
      verifyDsseSignature primitives library bundle = .ok () →
      verifyDsseSignature primitives library bundle' = .ok () →
      CarrySame bundle bundle' ∨ envelope.pae ≠ envelope'.pae ∧ ∃ signature,
        library.verify envelope.verifyingKey envelope.pae signature = .ok () ∧
        library.verify envelope.verifyingKey envelope'.pae signature = .ok ()) ∧
    (∀ (primitives : Primitives) (bundle bundle' body data : Value) (canonicalizedBody : Bytes),
      parseBody primitives canonicalizedBody = .ok body →
      body.pointer ["spec", "hashedRekordV002", "data"] = some data →
      verifyPayloadHashBinding primitives bundle canonicalizedBody = .ok () →
      verifyPayloadHashBinding primitives bundle' canonicalizedBody = .ok () →
      CarrySame bundle bundle' ∨ ∃ payloadType payload payloadType' payload',
        Carries bundle payloadType payload ∧ Carries bundle' payloadType' payload' ∧
        computePae payloadType payload ≠ computePae payloadType' payload' ∧
        primitives.sha256 (computePae payloadType payload) =
          primitives.sha256 (computePae payloadType' payload')) := by
  refine ⟨fun _ _ _ _ same => computePae_inj same, ?_, ?_⟩
  · intro Certificate Name Key _ primitives library bundle bundle' envelope envelope' read read' key text
      accepted accepted'
    obtain ⟨payloadType, payload, carries, pae⟩ := carries_of_readEnvelope read
    obtain ⟨payloadType', payload', carries', pae'⟩ := carries_of_readEnvelope read'
    by_cases same : envelope.pae = envelope'.pae
    · obtain ⟨rfl, rfl⟩ := computePae_inj (pae.symm.trans (same.trans pae'))
      exact .inl ⟨payloadType, payload, carries, carries'⟩
    · -- The text of the signature determines the signature, for one key.
      obtain ⟨signatureBytes, signature, decoded, parsed, verified⟩ := verified_of_accepted read accepted
      obtain ⟨_, _, decoded', parsed', verified'⟩ := verified_of_accepted read' accepted'
      rw [← text, decoded] at decoded'
      cases decoded'
      rw [parsed] at parsed'
      cases parsed'
      exact .inr ⟨same, signature, verified, key ▸ verified'⟩
  · intro primitives bundle bundle' body data canonicalizedBody parsed found bound bound'
    simp only [verifyPayloadHashBinding, parsed, found, bind, Except.bind] at bound bound'
    obtain ⟨payloadType, payload, digestB64, carries, digest, logged⟩ := carries_of_paeDigest bound
    obtain ⟨payloadType', payload', _, carries', digest', logged'⟩ := carries_of_paeDigest bound'
    rw [digest] at digest'
    cases digest'
    have hashes := Subtype.ext (Option.some.inj (logged.symm.trans logged'))
    by_cases same : computePae payloadType payload = computePae payloadType' payload'
    · obtain ⟨rfl, rfl⟩ := computePae_inj same
      exact .inl ⟨payloadType, payload, carries, carries'⟩
    · exact .inr ⟨payloadType, payload, payloadType', payload', carries, carries', same, hashes⟩

end Tinfoil.Sigstore
