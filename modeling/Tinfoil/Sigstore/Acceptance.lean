import Tinfoil.Sigstore.Rekor

/-! # What an accepted bundle has passed -/

namespace Tinfoil.Sigstore

open Json (Value)

structure Verifier where
  primitives : Primitives
  overflowChecks : Bool
  certNotBefore : UInt64
  certNotAfter : UInt64
  rekorKeys : List RekorKey
  timestampAuthorities : List TimestampAuthority

namespace Verifier

variable (verifier : Verifier)

def Accepts (bundle : Value) : Prop :=
  verifyRekorEntryWithTrust verifier.primitives verifier.overflowChecks bundle verifier.certNotBefore
    verifier.certNotAfter verifier.rekorKeys verifier.timestampAuthorities = .ok ()

instance (bundle : Value) : Decidable (verifier.Accepts bundle) :=
  inferInstanceAs (Decidable (_ = _))

/-- The values that the steps of an accepted call pass on, with the steps they passed. -/
structure Acceptance (bundle : Value) where
  entry : Value
  bodyB64 : String
  bodyBytes : Bytes
  signature : Bytes
  tsaTimes : List UInt64
  tsaErrors : List Error
  time : UInt64
  proof : Value
  logId : String
  logIdBytes : Bytes
  rekorKey : RekorKey
  envelope : String
  checkpoint : SignedCheckpoint
  root : Bytes
  index : UInt64
  size : UInt64
  hashes : List Bytes
  outputs : List Hash
  rootOutput : Hash
  readEntry : tlogEntry bundle = .ok entry
  readBody : canonicalizedBody entry = .ok bodyB64
  decodedBody : decodeB64 verifier.primitives "canonicalizedBody" bodyB64 = .ok bodyBytes
  kindVersion : verifyKindVersion verifier.primitives entry bodyBytes = .ok ()
  readSignature : bundleDsseSignature verifier.primitives bundle = .ok signature
  timestamps : verifyTimestamps verifier.primitives bundle signature verifier.timestampAuthorities =
    .ok (tsaTimes, tsaErrors)
  inWindow : checkTimestamps tsaTimes verifier.certNotBefore verifier.certNotAfter = .ok ()
  observed : observerTime entry (entryKind entry) (entryVersion entry) tsaTimes tsaErrors
    verifier.certNotBefore verifier.certNotAfter = .ok time
  readProof : inclusionProof entry = .ok proof
  readLogId : strAt entry ["logId", "keyId"] = some logId
  decodedLogId : decodeB64 verifier.primitives "logId" logId = .ok logIdBytes
  foundKey : findRekorKey verifier.primitives verifier.rekorKeys logId time = .ok rekorKey
  readCheckpoint : checkpointText proof = .ok envelope
  promise : verifyInclusionPromise verifier.primitives entry rekorKey = .ok ()
  decodedCheckpoint : SignedCheckpoint.decode verifier.primitives envelope = .ok checkpoint
  signed : checkpoint.verifySignature verifier.primitives rekorKey.keyDer rekorKey.keyType rekorKey.host
    logIdBytes = .ok ()
  readRoot : rootHash verifier.primitives proof = .ok root
  sameRoot : compareRootHash checkpoint root = .ok ()
  readIndex : logIndex proof = .ok index
  readSize : treeSize proof = .ok size
  readHashes : proofHashes verifier.primitives proof = .ok hashes
  certificateBound : verifyCertificateBinding verifier.primitives bundle bodyBytes = .ok ()
  signatureBound : verifySignatureBinding verifier.primitives bundle bodyBytes = .ok ()
  payloadBound : verifyPayloadHashBinding verifier.primitives bundle bodyBytes = .ok ()
  wholeHashes : proofOutputs hashes = .ok outputs
  wholeRoot : Hash.tryFrom root = some rootOutput
  included : verifyInclusion (rfc6269Default verifier.primitives) verifier.overflowChecks index
    ((rfc6269Default verifier.primitives).hashLeaf bodyBytes) size outputs rootOutput = .ok ()

variable {verifier : Verifier} {bundle : Value}

theorem accepts_iff : verifier.Accepts bundle ↔ Nonempty (verifier.Acceptance bundle) := by
  simp only [Accepts, verifyRekorEntryWithTrust, bind_ok, lift_ok, okOrElse_ok, Checked.mapError_ok]
  constructor
  · rintro ⟨entry, readEntry, bodyB64, readBody, bodyBytes, decodedBody, ⟨⟩, kindVersion, signature,
      readSignature, ⟨tsaTimes, tsaErrors⟩, timestamps, ⟨⟩, inWindow, time, observed, proof, readProof,
      logId, readLogId, logIdBytes, decodedLogId, rekorKey, foundKey, envelope, readCheckpoint, ⟨⟩,
      promise, checkpoint, decodedCheckpoint, ⟨⟩, signed, root, readRoot, ⟨⟩, sameRoot, index, readIndex,
      size, readSize, hashes, readHashes, ⟨⟩, certificateBound, ⟨⟩, signatureBound, ⟨⟩, payloadBound,
      outputs, wholeHashes, rootOutput, wholeRoot, included⟩
    exact ⟨⟨entry, bodyB64, bodyBytes, signature, tsaTimes, tsaErrors, time, proof, logId, logIdBytes,
      rekorKey, envelope, checkpoint, root, index, size, hashes, outputs, rootOutput, readEntry, readBody,
      decodedBody, kindVersion, readSignature, timestamps, inWindow, observed, readProof, readLogId,
      decodedLogId, foundKey, readCheckpoint, promise, decodedCheckpoint, signed, readRoot, sameRoot,
      readIndex, readSize, readHashes, certificateBound, signatureBound, payloadBound, wholeHashes,
      wholeRoot, included⟩⟩
  · rintro ⟨accepted⟩
    exact ⟨_, accepted.readEntry, _, accepted.readBody, _, accepted.decodedBody, _, accepted.kindVersion,
      _, accepted.readSignature, _, accepted.timestamps, _, accepted.inWindow, _, accepted.observed, _,
      accepted.readProof, _, accepted.readLogId, _, accepted.decodedLogId, _, accepted.foundKey, _,
      accepted.readCheckpoint, _, accepted.promise, _, accepted.decodedCheckpoint, _, accepted.signed, _,
      accepted.readRoot, _, accepted.sameRoot, _, accepted.readIndex, _, accepted.readSize, _,
      accepted.readHashes, _, accepted.certificateBound, _, accepted.signatureBound, _,
      accepted.payloadBound, _, accepted.wholeHashes, _, accepted.wholeRoot, accepted.included⟩

/-- Each step is a function of what the steps before it passed on. -/
instance : Subsingleton (verifier.Acceptance bundle) := by
  refine ⟨fun accepted accepted' => ?_⟩
  cases accepted
  cases accepted'
  grind

end Verifier

/-! ## A sample entry

The first entry of a log with one Ed25519 key, which signed its tree at one entry and at three.  The
dependencies are tables of their values at what the entry needs.  The entry logs a digest that is not
the one of the bundle's payload.
-/

namespace Sample

def bytesOf (width value : Nat) : Bytes :=
  (List.range width).reverse.map fun place => UInt8.ofNat (value / 256 ^ place)

def hashOf (value : Nat) : Hash := ⟨bytesOf 32 value, by simp [bytesOf]⟩

def b64 (bytes : Bytes) : String := String.ofList (Base64.encode bytes)

def logId : Bytes := bytesOf 32 0x06e3fd8fda29bb60ab59557de61edb0aecdb231134be30e75b455f8e1b792fa9

def publicKey : Bytes := bytesOf 32 0xd75a980182b10ab7d54bfed3c964073a0ee172f3daa62325af021a68f707511a

def rekorKey : RekorKey where
  keyId := b64 logId
  host := "log"
  keyDer := bytesOf 12 0x302a300506032b6570032100 ++ publicKey
  keyType := "PKIX_ED25519"
  validFrom := some 0
  validUntil := none

def pem : String := "-----BEGIN CERTIFICATE-----\nAQ==\n-----END CERTIFICATE-----\n"

def bodyText : String :=
  "\x7b\"apiVersion\":\"0.0.1\",\"kind\":\"hashedrekord\",\"spec\":\x7b\"data\":\x7b\"hash\":" ++
    "\x7b\"algorithm\":\"sha256\",\"value\":" ++
    "\"0000000000000000000000000000000000000000000000000000000000000000\"\x7d\x7d," ++
    "\"signature\":\x7b\"content\":\"AQ==\",\"publicKey\":\x7b\"content\":" ++
    "\"-----BEGIN CERTIFICATE-----\\nAQ==\\n-----END CERTIFICATE-----\\n\"\x7d\x7d\x7d\x7d"

def body : Value :=
  .object [("apiVersion", .string "0.0.1"), ("kind", .string "hashedrekord"), ("spec", .object [
    ("data", .object [("hash", .object [("algorithm", .string "sha256"),
      ("value", .string "0000000000000000000000000000000000000000000000000000000000000000")])]),
    ("signature", .object [("content", .string "AQ=="),
      ("publicKey", .object [("content", .string pem)])])])]

def bodyBytes : Bytes := utf8Bytes bodyText

def leafHash : Hash := hashOf 0xfb7bc4c4ed21a66362f1f4cc1ced9b74f11150120611b909d3785752fe20c491

def secondHash : Hash := hashOf 0xa94dd4d3c2c6d2548ca4e560d72727bab5d795500191f5b85579130dd3b14603

def pairHash : Hash := hashOf 0xdc0533935fecda0f54120ada2f319230759043841a6287117fa28525b138ee53

def thirdHash : Hash := hashOf 0x656d3e8f544238cdf6e32d640f51ba0914959b14edd7a52d0b8b99ab4c8ac6c6

def root : Hash := hashOf 0x59f12b5bd89be467bba279cb7aeceb6ade7d4b2f421bc7c4a4c7fdd8b6af4e78

def contentHash : Hash := hashOf 0xa62701b4daded0861c51086c67cbbe7846361a49dcee24e66bd06741ef1a4375

/-- The inputs that were hashed, with their SHA-256 digests. -/
def digests : List (Bytes × Hash) := [
  (0 :: bodyBytes, leafHash),
  (1 :: (leafHash.val ++ secondHash.val), pairHash),
  (1 :: (pairHash.val ++ thirdHash.val), root),
  (computePae "application/json" [0x7b, 0x7d], contentHash)]

inductive Head where
  | one
  | three

namespace Head

def size : Head → UInt64
  | one => 1
  | three => 3

def hash : Head → Hash
  | one => leafHash
  | three => root

def path : Head → List Hash
  | one => []
  | three => [secondHash, thirdHash]

def signature : Head → Bytes
  | one => bytesOf 64
    0xfa9f3ea2a24541337042070798d1909485fb56d7dc780b2ef9e66e200a3ccac7fccb47e81cd95fc4100cc6d30ca95303aa3d45bd19d79e00e8336f40ade10f00
  | three => bytesOf 64
    0x70a20d51a2d608f802ba7654c42fec071bb8a59931c73bb563f9c1810c2538929520ff6d91033abd37e9b1e3e302c42394fa3c1c034c2929e9dee59101c4fc0c

def note (head : Head) : Checkpoint where
  origin := "log"
  size := head.size
  hash := head.hash
  otherContent := []

def checkpoint (head : Head) : SignedCheckpoint where
  note := head.note
  signatures := [⟨logId.take 4, head.signature, "log"⟩]

end Head

def setSignature : Bytes := bytesOf 64
  0x1d795f87d2a5d415598d664f567f77ddde630a6f0b84649b7493a002f1270438b218efe55b3d70d3da22710ddbd2d7599fb8b72ea9437837c53d2619f25b1909

def unusedScheme : SignatureScheme where
  keyError _ := some "unused"
  signatureError _ := some "unused"
  verify _ _ _ := false

/-- Accepts the three signatures that the log made. -/
def ed25519 : SignatureScheme where
  keyError _ := none
  signatureError _ := none
  verify key message signature :=
    key = publicKey ∧
      ((message = utf8Bytes Head.one.note.marshal ∧ signature = Head.one.signature) ∨
        (message = utf8Bytes Head.three.note.marshal ∧ signature = Head.three.signature) ∨
        (message = utf8Bytes (setPayload (b64 bodyBytes) 150 logId 0) ∧ signature = setSignature))

def envelope (head : Head) : String :=
  "log\n" ++ toString head.size.toNat ++ "\n" ++ b64 head.hash.val ++ "\n\n— log " ++
    b64 (logId.take 4 ++ head.signature) ++ "\n"

def proof (head : Head) (treeSize : String) : Value :=
  .object [
    ("checkpoint", .object [("envelope", .string (envelope head))]),
    ("hashes", .array (head.path.map fun hash => .string (b64 hash.val))),
    ("logIndex", .string "0"),
    ("rootHash", .string (b64 head.hash.val)),
    ("treeSize", .string treeSize)]

def entry (head : Head) (treeSize : String) : Value :=
  .object [
    ("canonicalizedBody", .string (b64 bodyBytes)),
    ("inclusionPromise", .object [("signedEntryTimestamp", .string (b64 setSignature))]),
    ("inclusionProof", proof head treeSize),
    ("integratedTime", .string "150"),
    ("kindVersion", .object [("kind", .string "hashedrekord"), ("version", .string "0.0.1")]),
    ("logId", .object [("keyId", .string (b64 logId))]),
    ("logIndex", .string "0")]

/-- The bundle of the entry under one of the two heads, with a payload and a tree size of the sender's choice. -/
def sealedBundle (payloadType payload : String) (head : Head) (treeSize : String) : Value :=
  .object [
    ("dsseEnvelope", .object [("payload", .string payload), ("payloadType", .string payloadType),
      ("signatures", .array [.object [("sig", .string "AQ==")]])]),
    ("verificationMaterial", .object [
      ("certificate", .object [("rawBytes", .string "AQ==")]),
      ("tlogEntries", .array [entry head treeSize])])]

def headBundle (head : Head) (treeSize : String) : Value := sealedBundle "application/json" "e30=" head treeSize

/-- The bundle under the head of three entries. -/
def bundle (treeSize : String) : Value := headBundle .three treeSize

def releaseDigest : String := "1f5b1f7a1a7c2e1d8f5a3a0c2b1e4d6f7a8b9c0d1e2f3a4b5c6d7e8f90a1b2c3"

def snpMeasurement : String :=
  "33162608e171154bae88886365341dad7eb5821ba87785041f7f2f6281511a65b01069894cfebad5370939e05a0a1ca1"

def rtmr1 : String :=
  "896d8b9138548e63779a121b8c2b1a087ddaa39901e1fd096319ff0005b9699fe04dd13adb33063a1d65dd4bcdc2f5b1"

def rtmr2 : String :=
  "fbe40d6adb70ef8047dbfbd9be05fcf39d9dd32d5b88c70dd5c06024d3a8d79a5d2e9e9723d3b3cb206bfd887eddcdec"

def statementText : String :=
  "\x7b\"_type\":\"https://in-toto.io/Statement/v1\",\"subject\":[\x7b\"name\":\"tinfoil-config.yml\",\"digest\":" ++
    "\x7b\"sha256\":\"" ++ releaseDigest ++ "\"\x7d\x7d],\"predicateType\":" ++
    "\"https://tinfoil.sh/predicate/snp-tdx-multiplatform/v1\",\"predicate\":\x7b\"snp_measurement\":\"" ++ snpMeasurement ++
    "\",\"tdx_measurement\":\x7b\"rtmr1\":\"" ++ rtmr1 ++ "\",\"rtmr2\":\"" ++ rtmr2 ++ "\"\x7d\x7d\x7d"

def releaseBundle : Value :=
  sealedBundle "application/vnd.in-toto+json" (b64 (utf8Bytes statementText)) .three "3"

/-- The text of its payload and of what follows. -/
def releaseRest : String :=
  b64 (utf8Bytes statementText) ++
    "\",\"payloadType\":\"application/vnd.in-toto+json\",\"signatures\":[\x7b\"sig\":\"AQ==\"\x7d]\x7d," ++
    "\"verificationMaterial\":\x7b\"certificate\":\x7b\"rawBytes\":\"AQ==\"\x7d,\"tlogEntries\":[" ++
    "\x7b\"canonicalizedBody\":\"" ++ b64 bodyBytes ++ "\",\"inclusionPromise\":\x7b\"signedEntryTimestamp\":\"" ++
    b64 setSignature ++ "\"\x7d,\"inclusionProof\":\x7b\"checkpoint\":\x7b\"envelope\":\"log\\n3\\n" ++ b64 root.val ++
    "\\n\\n— log " ++ b64 (logId.take 4 ++ Head.three.signature) ++ "\\n\"\x7d,\"hashes\":[\"" ++ b64 secondHash.val ++
    "\",\"" ++ b64 thirdHash.val ++ "\"],\"logIndex\":\"0\",\"rootHash\":\"" ++ b64 root.val ++
    "\",\"treeSize\":\"3\"\x7d,\"integratedTime\":\"150\",\"kindVersion\":\x7b\"kind\":\"hashedrekord\"," ++
    "\"version\":\"0.0.1\"\x7d,\"logId\":\x7b\"keyId\":\"" ++ b64 logId ++ "\"\x7d,\"logIndex\":\"0\"\x7d]\x7d\x7d"

def releaseText : String := "\x7b\"dsseEnvelope\":\x7b\"payload\":\"" ++ releaseRest

def primitives : Primitives where
  sha256 input := (digests.lookup input).getD (hashOf 0)
  fromSlice text :=
    if text = bodyBytes then .ok body
    else if text = utf8Bytes releaseText then .ok releaseBundle
    else .error "expected value"
  decodeError _ := "Invalid input"
  utf8Error _ := "invalid utf-8 sequence"
  parsePem text := if text = pem then .ok [1] else .error "malformedframing"
  debugStr text := "\"" ++ text ++ "\""
  ecdsaP256 := unusedScheme
  ed25519 := ed25519
  verifyTimestamp _ _ authorities :=
    if authorities.isEmpty then .error (.sigstoreVerification "No timestamp authority in the trust root")
    else .ok 1795080561

/-- In a release build. -/
def verifier : Verifier where
  primitives := primitives
  overflowChecks := false
  certNotBefore := 100
  certNotAfter := 200
  rekorKeys := [rekorKey]
  timestampAuthorities := []

/-! Each step that the entry passes. -/

@[simp] theorem decodeB64_b64 (primitives : Primitives) (what : String) (bytes : Bytes) :
    decodeB64 primitives what (b64 bytes) = .ok bytes := by
  simp [decodeB64, b64, String.toList_ofList, Base64.decode_encode, okOrElse]

theorem parsedBody : parseBody primitives bodyBytes = .ok body := by simp [parseBody, primitives]

theorem kindVersion (head : Head) (treeSize : String) :
    verifyKindVersion primitives (entry head treeSize) bodyBytes = .ok () := by
  obtain ⟨metadata, found, kind, version⟩ : ∃ metadata, (entry head treeSize).get "kindVersion" = some metadata ∧
      (metadata.get "kind").bind Value.asStr = some "hashedrekord" ∧
      (metadata.get "version").bind Value.asStr = some "0.0.1" := ⟨_, rfl, rfl, rfl⟩
  have bodyKind : (body.get "kind").bind Value.asStr = some "hashedrekord" := rfl
  have bodyVersion : (body.get "apiVersion").bind Value.asStr = some "0.0.1" := rfl
  simp [verifyKindVersion, parsedBody, found, kind, version, bodyKind, bodyVersion, okOrElse, bind,
    Except.bind, pure, Except.pure]

theorem decodedCheckpoint (head : Head) :
    SignedCheckpoint.decode primitives (envelope head) = .ok head.checkpoint := by
  have characters : (envelope head).toList = "log\n".toList ++ (toString head.size.toNat).toList ++
      "\n".toList ++ Base64.encode head.hash.val ++ "\n\n— log ".toList ++
        Base64.encode (logId.take 4 ++ head.signature) ++ "\n".toList := by
    simp only [envelope, b64, String.toList_append, String.toList_ofList]
  simp only [SignedCheckpoint.decode, characters]
  cases head with
  | one => decide
  | three => decide

theorem verifiedLogSignature (message signature : Bytes) (long : 64 ≤ signature.length)
    (accepted : ed25519.verify publicKey message (signature.take 64)) :
    verifyLogSignature primitives message signature rekorKey.keyDer rekorKey.keyType = .ok () := by
  have whole : rekorKey.keyDer.length = 44 := by decide
  have raw : rekorKey.keyDer.drop (rekorKey.keyDer.length - 32) = publicKey := by decide
  have scheme : primitives.ed25519 = ed25519 := rfl
  have type : rekorKey.keyType = "PKIX_ED25519" := rfl
  simp only [verifyLogSignature, type, verifyEd25519, raw, scheme, accepted]
  simp [whole, Nat.not_lt.mpr long, ed25519, pure, Except.pure]

theorem signed (head : Head) : SignedCheckpoint.verifySignature primitives head.checkpoint
    rekorKey.keyDer rekorKey.keyType rekorKey.host logId = .ok () := by
  have whole : 64 ≤ head.signature.length ∧ head.signature.take 64 = head.signature := by
    cases head with
    | one => decide
    | three => decide
  have verified := verifiedLogSignature (utf8Bytes head.note.marshal) head.signature whole.1
    (by cases head <;> simp [ed25519, whole.2])
  have hint : SignedCheckpoint.keyHint logId = some (logId.take 4) := by decide
  simp [SignedCheckpoint.verifySignature, SignedCheckpoint.verifies, Head.checkpoint, verified, hint,
    show rekorKey.host = "log" from rfl, Except.isOk, Except.toBool]

theorem promise (head : Head) (treeSize : String) :
    verifyInclusionPromise primitives (entry head treeSize) rekorKey = .ok () := by
  have verified := verifiedLogSignature (utf8Bytes (setPayload (b64 bodyBytes) 150 logId 0)) setSignature
    (by decide) (by simp [ed25519, show setSignature.take 64 = setSignature by decide])
  have body : fieldAt (entry head treeSize) ["canonicalizedBody"] = .ok (b64 bodyBytes) := rfl
  have id : fieldAt (entry head treeSize) ["logId", "keyId"] = .ok (b64 logId) := rfl
  have set : fieldAt (entry head treeSize) ["inclusionPromise", "signedEntryTimestamp"] =
    .ok (b64 setSignature) := rfl
  have time : intFieldAt (entry head treeSize) ["integratedTime"] = .ok 150 := rfl
  have index : intFieldAt (entry head treeSize) ["logIndex"] = .ok 0 := rfl
  have promised : entryVersion (entry head treeSize) = "0.0.1" ∧
    ((entry head treeSize).get "inclusionPromise").isSome := ⟨rfl, rfl⟩
  rw [verifyInclusionPromise, if_pos promised]
  simp only [verifySignedEntryTimestamp, bind_ok]
  refine ⟨_, id, _, decodeB64_b64 _ _ _, _, set, _, decodeB64_b64 _ _ _, _, body, _, time, _, index, ?_⟩
  rw [verified]
  rfl

theorem foundKey : findRekorKey primitives [rekorKey] (b64 logId) 150 = .ok rekorKey := by
  have valid : rekorKey.validAt 150 = true := by decide
  have id : rekorKey.keyId = b64 logId := rfl
  simp [findRekorKey, List.find?, valid, id]

theorem readRoot (head : Head) (treeSize : String) : rootHash primitives (proof head treeSize) = .ok head.hash.val := by
  have place : strAt (proof head treeSize) ["rootHash"] = some (b64 head.hash.val) := rfl
  simp [rootHash, place, okOrElse, bind, Except.bind]

theorem readHashes (head : Head) (treeSize : String) :
    proofHashes primitives (proof head treeSize) = .ok (head.path.map Subtype.val) := by
  have items : (proof head treeSize).get "hashes" =
    some (.array (head.path.map fun hash => .string (b64 hash.val))) := rfl
  cases head <;>
    simp [proofHashes, items, Head.path, Value.asArray, Value.asStr, okOrElse, bind, Except.bind, pure,
      Except.pure]

theorem sameRoot (head : Head) : compareRootHash head.checkpoint head.hash.val = .ok () := by
  simp [compareRootHash, Head.checkpoint, Head.note]

theorem wholeHashes (head : Head) : proofOutputs (head.path.map Subtype.val) = .ok head.path := by
  cases head with
  | one => rfl
  | three => rfl

theorem wholeRoot (head : Head) : Hash.tryFrom head.hash.val = some head.hash := by
  cases head with
  | one => rfl
  | three => rfl

theorem certificateBound (payloadType payload : String) (head : Head) (treeSize : String) :
    verifyCertificateBinding primitives (sealedBundle payloadType payload head treeSize) bodyBytes = .ok () := by
  have logged : rekorCertificate primitives body = .ok [1] := by
    have place : strAt body ["spec", "signature", "publicKey", "content"] = some pem := rfl
    have kind : bodyKind body = "hashedrekord" := rfl
    have absent : (body.pointer ["spec", "hashedRekordV002"]) = none := rfl
    simp [rekorCertificate, kind, absent, hashedRekordCertificate, place, okOrElse, bind, Except.bind,
      parsePemCertificate, primitives]
  have sent : bundleCertificate primitives (sealedBundle payloadType payload head treeSize) = .ok [1] := rfl
  simp [verifyCertificateBinding, parsedBody, logged, sent, bind, Except.bind, pure, Except.pure]

theorem signatureBound (payloadType payload : String) (head : Head) (treeSize : String) :
    verifySignatureBinding primitives (sealedBundle payloadType payload head treeSize) bodyBytes = .ok () := by
  have logged : rekorSignature primitives body = .ok [1] := rfl
  have sent : bundleDsseSignature primitives (sealedBundle payloadType payload head treeSize) = .ok [1] := rfl
  simp [verifySignatureBinding, parsedBody, logged, sent, bind, Except.bind, pure, Except.pure]

theorem payloadBound (payloadType payload : String) (head : Head) (treeSize : String) :
    verifyPayloadHashBinding primitives (sealedBundle payloadType payload head treeSize) bodyBytes = .ok () := by
  simp only [verifyPayloadHashBinding, parsedBody, bind, Except.bind]
  rfl

theorem sha256_content :
    primitives.sha256 (computePae "application/json" [0x7b, 0x7d]) = contentHash := by
  decide

/-- At the sizes that share the shape of three entries. -/
theorem included {size : UInt64} (same : size = 3 ∨ size = 4) :
    verifyInclusion (rfc6269Default primitives) false 0 ((rfc6269Default primitives).hashLeaf bodyBytes) size
      Head.three.path Head.three.hash = .ok () := by
  rcases same with rfl | rfl
  · decide +kernel
  · decide +kernel

theorem includedAlone :
    verifyInclusion (rfc6269Default primitives) false 0 ((rfc6269Default primitives).hashLeaf bodyBytes) 1
      Head.one.path Head.one.hash = .ok () := by
  decide +kernel

/-- A bundle is accepted with every size that its path verifies at. -/
def sealedAcceptance (payloadType payload : String) (head : Head) {treeSize : String} {size : UInt64}
    (parsed : parseU64 treeSize = some size)
    (included : verifyInclusion (rfc6269Default primitives) false 0
      ((rfc6269Default primitives).hashLeaf bodyBytes) size head.path head.hash = .ok ()) :
    verifier.Acceptance (sealedBundle payloadType payload head treeSize) where
  entry := entry head treeSize
  bodyB64 := b64 bodyBytes
  bodyBytes := bodyBytes
  signature := [1]
  tsaTimes := []
  tsaErrors := []
  time := 150
  proof := proof head treeSize
  logId := b64 logId
  logIdBytes := logId
  rekorKey := rekorKey
  envelope := envelope head
  checkpoint := head.checkpoint
  root := head.hash.val
  index := 0
  size := size
  hashes := head.path.map Subtype.val
  outputs := head.path
  rootOutput := head.hash
  readEntry := rfl
  readBody := rfl
  decodedBody := decodeB64_b64 _ _ _
  kindVersion := kindVersion head treeSize
  readSignature := rfl
  timestamps := rfl
  inWindow := rfl
  observed := rfl
  readProof := rfl
  readLogId := rfl
  decodedLogId := decodeB64_b64 _ _ _
  foundKey := foundKey
  readCheckpoint := rfl
  promise := promise head treeSize
  decodedCheckpoint := decodedCheckpoint head
  signed := signed head
  readRoot := readRoot head treeSize
  sameRoot := sameRoot head
  readIndex := rfl
  readSize := okOrElse_ok.mpr parsed
  readHashes := readHashes head treeSize
  certificateBound := certificateBound payloadType payload head treeSize
  signatureBound := signatureBound payloadType payload head treeSize
  payloadBound := payloadBound payloadType payload head treeSize
  wholeHashes := wholeHashes head
  wholeRoot := wholeRoot head
  included := included

def headAcceptance (head : Head) {treeSize : String} {size : UInt64} (parsed : parseU64 treeSize = some size)
    (included : verifyInclusion (rfc6269Default primitives) false 0
      ((rfc6269Default primitives).hashLeaf bodyBytes) size head.path head.hash = .ok ()) :
    verifier.Acceptance (headBundle head treeSize) :=
  sealedAcceptance "application/json" "e30=" head parsed included

/-- The bundle is accepted with the signed size and with one other. -/
def acceptance {treeSize : String} {size : UInt64} (parsed : parseU64 treeSize = some size)
    (same : size = 3 ∨ size = 4) : verifier.Acceptance (bundle treeSize) :=
  headAcceptance .three parsed (included same)

theorem accepts {treeSize : String} {size : UInt64} (parsed : parseU64 treeSize = some size)
    (same : size = 3 ∨ size = 4) : verifier.Accepts (bundle treeSize) :=
  Verifier.accepts_iff.mpr ⟨acceptance parsed same⟩

end Sample

end Tinfoil.Sigstore
