import Tinfoil.Sigstore.Checkpoint
import Tinfoil.Sigstore.Dsse
import Tinfoil.Sigstore.Merkle

/-! # Rekor entries

`verifyRekorEntryWithTrust` is the verifier of a bundle's transparency log entry, one function
for each of its steps.  `accepted_iff` lists what an accepted bundle has passed.
-/

namespace Tinfoil.Sigstore

open Json (Value)

def fail {α : Type} (message : String) : Except Error α := .error (.sigstoreVerification message)

/-- A string at the end of a chain of members. -/
def strAt (value : Value) (keys : List String) : Option String := (value.getPath keys).bind Value.asStr

/-- An unsigned integer, as a JSON string (protobuf JSON int64) or a JSON number. -/
def intValue (value : Value) : Option UInt64 := (value.asStr.bind parseU64).or value.asU64

section Steps

variable (primitives : Primitives)

/-! ## The entry and its body -/

def tlogEntry (bundle : Value) : Except Error Value := do
  let tlogEntries ← okOrElse
    ((bundle.getPath ["verificationMaterial", "tlogEntries"]).bind Value.asArray)
    "No tlogEntries in bundle"
  match tlogEntries with
  | [entry] => return entry
  | _ => fail ("Expected exactly 1 tlog entry, got " ++ toString tlogEntries.length)

def canonicalizedBody (entry : Value) : Except Error String :=
  okOrElse ((entry.get "canonicalizedBody").bind Value.asStr) "Missing canonicalizedBody in tlog entry"

def parseBody (canonicalizedBody : Bytes) : Except Error Value :=
  match primitives.fromSlice canonicalizedBody with
  | .ok body => .ok body
  | .error error => fail ("Failed to parse canonicalizedBody: " ++ error)

def debugOption : Option String → String
  | some text => "Some(" ++ primitives.debugStr text ++ ")"
  | none => "None"

def verifyKindVersion (entry : Value) (canonicalizedBody : Bytes) : Except Error Unit := do
  let kindVersion ← okOrElse (entry.get "kindVersion") "Missing kindVersion in tlog entry metadata"
  let expectedKind := (kindVersion.get "kind").bind Value.asStr
  let expectedVersion := (kindVersion.get "version").bind Value.asStr
  let body ← parseBody primitives canonicalizedBody
  let bodyKind := (body.get "kind").bind Value.asStr
  let bodyVersion := (body.get "apiVersion").bind Value.asStr
  if bodyKind ≠ expectedKind ∨ bodyVersion ≠ expectedVersion then
    fail ("Tlog entry kind/version mismatch: body has " ++ debugOption primitives bodyKind ++ "/" ++
      debugOption primitives bodyVersion ++ ", metadata has " ++ debugOption primitives expectedKind ++
      "/" ++ debugOption primitives expectedVersion)

def entryKind (entry : Value) : String := (((entry.index "kindVersion").index "kind").asStr).getD ""

def entryVersion (entry : Value) : String :=
  (((entry.index "kindVersion").index "version").asStr).getD ""

/-! ## The observer time -/

def bundleDsseSignature (bundle : Value) : Except Error Bytes := do
  let sigB64 ← okOrElse
    ((bundle.pointer ["dsseEnvelope", "signatures", "0", "sig"]).bind Value.asStr)
    "Missing signature in bundle (dsseEnvelope.signatures[0].sig)"
  decodeB64 primitives "bundle signature" sigB64

def maxTimestamps : Nat := 32

/-- One element of `rfc3161Timestamps`. -/
def bundleTimestamp (signature : Bytes) (authorities : List TimestampAuthority) (timestamp : Value) :
    Except Error UInt64 := do
  let b64 ← okOrElse ((timestamp.get "signedTimestamp").bind Value.asStr)
    "RFC 3161 timestamp missing signedTimestamp"
  let token ← decodeB64 primitives "RFC 3161 timestamp" b64
  primitives.verifyTimestamp token signature authorities

def errorOf {α : Type} : Except Error α → Option Error
  | .ok _ => none
  | .error error => some error

def rfc3161Timestamps (bundle : Value) : List Value :=
  ((bundle.getPath ["verificationMaterial", "timestampVerificationData", "rfc3161Timestamps"]).bind
    Value.asArray).getD []

/-- The times that verified, and one error for each timestamp that did not. -/
def verifyTimestamps (bundle : Value) (signature : Bytes) (authorities : List TimestampAuthority) :
    Except Error (List UInt64 × List Error) := do
  let timestamps := rfc3161Timestamps bundle
  if timestamps.length > maxTimestamps then
    fail ("Too many RFC 3161 timestamps: " ++ toString timestamps.length ++ " > " ++
      toString maxTimestamps)
  else
    let verified := timestamps.map (bundleTimestamp primitives signature authorities)
    return (verified.filterMap Except.toOption, verified.filterMap errorOf)

/-- `Iterator::min`. -/
def earliest : List UInt64 → Option UInt64
  | [] => none
  | time :: times => some (times.foldl (fun least time => if time < least then time else least) time)

def noTimestamp (tsaErrors : List Error) (what : String) : String :=
  let detail :=
    if tsaErrors.isEmpty then " in bundle"
    else " (" ++ "; ".intercalate (tsaErrors.map Error.display) ++ ")"
  what ++ ": no verified RFC 3161 timestamp" ++ detail

def showWindow (certNotBefore certNotAfter : UInt64) : String :=
  "certificate validity window [" ++ toString certNotBefore.toNat ++ ", " ++
    toString certNotAfter.toNat ++ "]"

def checkTimestamps (tsaTimes : List UInt64) (certNotBefore certNotAfter : UInt64) :
    Except Error Unit :=
  match tsaTimes.find? fun time => time < certNotBefore || time > certNotAfter with
  | some time =>
    fail ("RFC 3161 timestamp " ++ toString time.toNat ++ " is outside " ++
      showWindow certNotBefore certNotAfter)
  | none => .ok ()

def signedEntryTimestamp (entry : Value) : Option Value :=
  entry.pointer ["inclusionPromise", "signedEntryTimestamp"]

def observerTime (entry : Value) (kind version : String) (tsaTimes : List UInt64)
    (tsaErrors : List Error) (certNotBefore certNotAfter : UInt64) : Except Error UInt64 :=
  if (kind = "dsse" ∨ kind = "hashedrekord") ∧ version = "0.0.1" then
    if (signedEntryTimestamp entry).isNone then
      okOrElse (earliest tsaTimes) (noTimestamp tsaErrors
        "Rekor v1 entry has no inclusion promise, cannot establish signing time")
    else do
      let integratedTime ← okOrElse ((entry.get "integratedTime").bind intValue)
        "Missing or invalid integratedTime in tlog entry"
      if integratedTime < certNotBefore ∨ integratedTime > certNotAfter then
        fail ("Rekor entry integrated time " ++ toString integratedTime.toNat ++ " is outside " ++
          showWindow certNotBefore certNotAfter)
      else
        return integratedTime
  else if kind = "hashedrekord" ∧ version = "0.0.2" then
    okOrElse (earliest tsaTimes) (noTimestamp tsaErrors
      "Rekor v2 entry has no integratedTime, an RFC 3161 timestamp is required")
  else
    fail ("Unsupported Rekor entry type: " ++ kind ++ "/" ++ version)

/-! ## The log key -/

def RekorKey.validAt (key : RekorKey) (time : UInt64) : Bool :=
  (key.validFrom.all fun start => start ≤ time) && key.validUntil.all fun finish => time ≤ finish

def findRekorKey (rekorKeys : List RekorKey) (logId : String) (observerTime : UInt64) :
    Except Error RekorKey :=
  okOrElse (rekorKeys.find? fun key => key.keyId = logId && key.validAt observerTime)
    ("No Rekor key valid at time " ++ toString observerTime.toNat ++ " for log ID: " ++ logId ++
      ". Trusted log IDs: [" ++
      ", ".intercalate (rekorKeys.map fun key => primitives.debugStr key.keyId) ++ "]")

def showPointer (tokens : List String) : String := String.join (tokens.map ("/" ++ ·))

def fieldAt (entry : Value) (tokens : List String) : Except Error String :=
  okOrElse ((entry.pointer tokens).bind Value.asStr) ("Missing " ++ showPointer tokens ++ " in tlog entry")

def intFieldAt (entry : Value) (tokens : List String) : Except Error UInt64 :=
  okOrElse ((entry.pointer tokens).bind intValue) ("Missing " ++ showPointer tokens ++ " in tlog entry")

/-- The message that a signed entry timestamp signs. -/
def setPayload (body : String) (integratedTime : UInt64) (logId : Bytes) (logIndex : UInt64) : String :=
  "\x7b\"body\":\"" ++ body ++ "\",\"integratedTime\":" ++ toString integratedTime.toNat ++
    ",\"logID\":\"" ++ hexEncode logId ++ "\",\"logIndex\":" ++ toString logIndex.toNat ++ "\x7d"

def verifySignedEntryTimestamp (entry : Value) (rekorKey : RekorKey) : Except Error Unit := do
  let logId ← decodeB64 primitives "logId" (← fieldAt entry ["logId", "keyId"])
  let set ← decodeB64 primitives "signedEntryTimestamp"
    (← fieldAt entry ["inclusionPromise", "signedEntryTimestamp"])
  let body ← fieldAt entry ["canonicalizedBody"]
  let integratedTime ← intFieldAt entry ["integratedTime"]
  let logIndex ← intFieldAt entry ["logIndex"]
  let payload := setPayload body integratedTime logId logIndex
  match verifyLogSignature primitives (utf8Bytes payload) set rekorKey.keyDer rekorKey.keyType with
  | .ok () => return ()
  | .error error => fail ("Rekor signed entry timestamp (SET) did not verify: " ++ error.display)

def verifyInclusionPromise (entry : Value) (rekorKey : RekorKey) : Except Error Unit :=
  if entryVersion entry = "0.0.1" ∧ (entry.get "inclusionPromise").isSome then
    verifySignedEntryTimestamp primitives entry rekorKey
  else
    .ok ()

/-! ## The inclusion proof -/

def inclusionProof (entry : Value) : Except Error Value :=
  okOrElse (entry.get "inclusionProof") "Missing inclusion proof in tlog entry"

def checkpointText (inclusionProof : Value) : Except Error String :=
  okOrElse (strAt inclusionProof ["checkpoint", "envelope"]) "Missing checkpoint in inclusion proof"

def rootHash (inclusionProof : Value) : Except Error Bytes := do
  let rootHashB64 ← okOrElse (strAt inclusionProof ["rootHash"]) "Missing rootHash in inclusion proof"
  decodeB64 primitives "rootHash" rootHashB64

def compareRootHash (signedCheckpoint : SignedCheckpoint) (rootHash : Bytes) : Except Error Unit :=
  if signedCheckpoint.note.hash.val ≠ rootHash then
    fail ("Inclusion proof contains invalid root hash: signed checkpoint has " ++
      hexEncode signedCheckpoint.note.hash.val ++ ", inclusion proof has " ++ hexEncode rootHash)
  else
    .ok ()

def proofNumber (inclusionProof : Value) (key : String) : Except Error UInt64 :=
  okOrElse ((strAt inclusionProof [key]).bind parseU64) ("Missing " ++ key ++ " in inclusion proof")

def logIndex (inclusionProof : Value) : Except Error UInt64 := proofNumber inclusionProof "logIndex"

def treeSize (inclusionProof : Value) : Except Error UInt64 := proofNumber inclusionProof "treeSize"

def proofHashes (inclusionProof : Value) : Except Error (List Bytes) := do
  let items ← okOrElse ((inclusionProof.get "hashes").bind Value.asArray)
    "Missing hashes in inclusion proof"
  let texts ← items.mapM fun item =>
    okOrElse item.asStr "Non-string element in inclusion proof hashes"
  texts.mapM (decodeB64 primitives "proof hash")

def proofOutputs (proofHashes : List Bytes) : Except Error (List Hash) :=
  proofHashes.mapM fun hash => okOrElse (Hash.tryFrom hash) "Invalid proof hash length (expected 32 bytes)"

/-! ## What the body binds -/

def parsePemCertificate (pemText : String) : Except Error Bytes :=
  match primitives.parsePem pemText with
  | .ok contents => .ok contents
  | .error error => fail ("Invalid PEM certificate: " ++ error)

def fromUtf8 (what : String) (bytes : Bytes) : Except Error String :=
  okOrElse (String.fromUTF8? (ByteArray.mk bytes.toArray))
    ("Invalid UTF-8 in " ++ what ++ ": " ++ primitives.utf8Error bytes)

def bodyKind (body : Value) : String := ((body.get "kind").bind Value.asStr).getD "unknown"

/-- `spec.signatures[0]` of a DSSE entry. -/
def firstSignature (body : Value) : Option Value :=
  ((body.getPath ["spec", "signatures"]).bind Value.asArray).bind List.head?

def unknownKind {α : Type} (kind : String) : Except Error α :=
  fail ("Unknown Rekor entry kind: " ++ kind ++ ". Expected 'dsse' or 'hashedrekord'")

/-- A DSSE entry logs the certificate as base64 of PEM. -/
def dsseCertificate (body : Value) : Except Error Bytes := do
  let verifierB64 ← okOrElse (((firstSignature body).bind (Value.get "verifier")).bind Value.asStr)
    "Missing certificate in DSSE Rekor entry (spec.signatures[0].verifier)"
  let verifierPemBytes ← decodeB64 primitives "verifier" verifierB64
  let verifierPem ← fromUtf8 primitives "verifier" verifierPemBytes
  parsePemCertificate primitives verifierPem

/-- Version 0.0.2 logs it as base64 of DER. -/
def hashedRekordV002Certificate (body : Value) : Except Error Bytes := do
  let rawB64 ← okOrElse
    ((body.pointer ["spec", "hashedRekordV002", "signature", "verifier", "x509Certificate",
      "rawBytes"]).bind Value.asStr)
    "Missing certificate in hashedrekord 0.0.2 Rekor entry (signature.verifier.x509Certificate.rawBytes)"
  decodeB64 primitives "Rekor entry certificate" rawB64

/-- Version 0.0.1 logs it as PEM. -/
def hashedRekordCertificate (body : Value) : Except Error Bytes := do
  let rekorCertPem ← okOrElse (strAt body ["spec", "signature", "publicKey", "content"])
    "Missing certificate in hashedrekord Rekor entry (spec.signature.publicKey.content)"
  parsePemCertificate primitives rekorCertPem

def rekorCertificate (body : Value) : Except Error Bytes :=
  if bodyKind body = "dsse" then dsseCertificate primitives body
  else if bodyKind body = "hashedrekord" ∧ (body.pointer ["spec", "hashedRekordV002"]).isSome then
    hashedRekordV002Certificate primitives body
  else if bodyKind body = "hashedrekord" then hashedRekordCertificate primitives body
  else unknownKind (bodyKind body)

def bundleCertificate (bundle : Value) : Except Error Bytes := do
  let bundleCertB64 ← okOrElse (strAt bundle ["verificationMaterial", "certificate", "rawBytes"])
    "Missing certificate in bundle (verificationMaterial.certificate.rawBytes)"
  decodeB64 primitives "bundle certificate" bundleCertB64

def verifyCertificateBinding (bundle : Value) (canonicalizedBody : Bytes) : Except Error Unit := do
  let body ← parseBody primitives canonicalizedBody
  let rekorCertDer ← rekorCertificate primitives body
  let bundleCertDer ← bundleCertificate primitives bundle
  if rekorCertDer ≠ bundleCertDer then
    fail ("Certificate mismatch: bundle certificate does not match Rekor entry certificate. " ++
      "This could indicate a substitution attack.")

def dsseSignature (body : Value) : Except Error Bytes := do
  let sigB64 ← okOrElse (((firstSignature body).bind (Value.get "signature")).bind Value.asStr)
    "Missing signature in DSSE Rekor entry (spec.signatures[0].signature)"
  decodeB64 primitives "Rekor signature" sigB64

/-- The signature under `spec` (version 0.0.1) or under `spec.hashedRekordV002` (0.0.2). -/
def hashedRekordSignature (holder : Option Value) : Except Error Bytes := do
  let sigB64 ← okOrElse (holder.bind fun holder => strAt holder ["signature", "content"])
    "Missing signature in hashedrekord Rekor entry (spec.signature.content)"
  decodeB64 primitives "Rekor signature" sigB64

def rekorSignature (body : Value) : Except Error Bytes :=
  if bodyKind body = "dsse" then dsseSignature primitives body
  else if bodyKind body = "hashedrekord" then
    hashedRekordSignature primitives
      ((body.get "spec").bind fun spec => (spec.get "hashedRekordV002").or (some spec))
  else unknownKind (bodyKind body)

def verifySignatureBinding (bundle : Value) (canonicalizedBody : Bytes) : Except Error Unit := do
  let body ← parseBody primitives canonicalizedBody
  let rekorSignatureBytes ← rekorSignature primitives body
  if rekorSignatureBytes ≠ (← bundleDsseSignature primitives bundle) then
    fail ("Signature mismatch: bundle signature does not match Rekor entry signature. " ++
      "This could indicate a substitution attack.")

/-- The digest of version 0.0.2: SHA-256 of the pre-authentication encoding. -/
def verifyPaeDigest (bundle data : Value) : Except Error Unit := do
  let algorithm := ((data.get "algorithm").bind Value.asStr).getD ""
  if algorithm ≠ "SHA2_256" then
    fail ("Unsupported hashedrekord digest algorithm: " ++ algorithm ++ ". Expected SHA2_256")
  else
    let digestB64 ← okOrElse (strAt data ["digest"]) "hashedrekord 0.0.2 entry missing data.digest"
    let expected ← decodeB64 primitives "data.digest" digestB64
    let envelope ← okOrElse (bundle.get "dsseEnvelope") "Missing dsseEnvelope in bundle for hash check"
    let payloadType ← okOrElse (strAt envelope ["payloadType"]) "Missing DSSE payloadType"
    let payloadB64 ← okOrElse (strAt envelope ["payload"]) "Missing DSSE payload"
    let payload ← decodeB64 primitives "DSSE payload" payloadB64
    let actual := (primitives.sha256 (computePae payloadType payload)).val
    if actual ≠ expected then
      fail ("Payload hash mismatch: Rekor entry expects PAE digest " ++ hexEncode expected ++
        ", computed " ++ hexEncode actual)

/-- The digest of a DSSE entry: SHA-256 of the payload. -/
def verifyPayloadHash (bundle body : Value) : Except Error Unit := do
  let payloadHash ← okOrElse (body.getPath ["spec", "payloadHash"])
    "DSSE Rekor entry missing required payloadHash field"
  let expectedHash ← okOrElse (strAt payloadHash ["value"])
    "Malformed payloadHash: object present but missing 'value' field"
  let algorithm := ((payloadHash.get "algorithm").bind Value.asStr).getD ""
  if algorithm ≠ "sha256" then
    fail ("Unsupported payload hash algorithm: " ++ algorithm ++ ". Expected sha256")
  else
    let payloadB64 ← okOrElse (strAt bundle ["dsseEnvelope", "payload"])
      "Missing DSSE payload in bundle for hash check"
    let payload ← decodeB64 primitives "DSSE payload" payloadB64
    let actualHash := hexEncode (primitives.sha256 payload).val
    if actualHash ≠ expectedHash then
      fail ("Payload hash mismatch: Rekor entry expects " ++ expectedHash ++ ", computed " ++ actualHash)

def verifyPayloadHashBinding (bundle : Value) (canonicalizedBody : Bytes) : Except Error Unit := do
  let body ← parseBody primitives canonicalizedBody
  let kind := ((body.get "kind").bind Value.asStr).getD ""
  match body.pointer ["spec", "hashedRekordV002", "data"] with
  | some data => verifyPaeDigest primitives bundle data
  -- Entries of another kind have no payload digest that is looked at.
  | none => if kind ≠ "dsse" then return () else verifyPayloadHash primitives bundle body

/-! ## The verifier -/

/-- `Rfc6269Default`: SHA-256. -/
def rfc6269Default : Rfc6269Hasher Hash := .ofDigest primitives.sha256 Subtype.val

def verifyRekorEntryWithTrust (overflowChecks : Bool) (bundle : Value)
    (certNotBefore certNotAfter : UInt64) (rekorKeys : List RekorKey)
    (timestampAuthorities : List TimestampAuthority) : Checked Error Unit := do
  let entry ← tlogEntry bundle
  let bodyB64 ← canonicalizedBody entry
  let bodyBytes ← decodeB64 primitives "canonicalizedBody" bodyB64
  verifyKindVersion primitives entry bodyBytes
  let signature ← bundleDsseSignature primitives bundle
  let tsa ← verifyTimestamps primitives bundle signature timestampAuthorities
  checkTimestamps tsa.1 certNotBefore certNotAfter
  let time ← observerTime entry (entryKind entry) (entryVersion entry) tsa.1 tsa.2
    certNotBefore certNotAfter
  let proof ← inclusionProof entry
  let logId ← okOrElse (strAt entry ["logId", "keyId"]) "Missing logId in tlog entry"
  let logIdBytes ← decodeB64 primitives "logId" logId
  let rekorKey ← findRekorKey primitives rekorKeys logId time
  let envelope ← checkpointText proof
  verifyInclusionPromise primitives entry rekorKey
  let checkpoint ← SignedCheckpoint.decode primitives envelope
  checkpoint.verifySignature primitives rekorKey.keyDer rekorKey.keyType rekorKey.host logIdBytes
  -- The signed checkpoint fixes the root, but its size is not looked at.
  let root ← rootHash primitives proof
  compareRootHash checkpoint root
  let index ← logIndex proof
  let size ← treeSize proof
  let hashes ← proofHashes primitives proof
  verifyCertificateBinding primitives bundle bodyBytes
  verifySignatureBinding primitives bundle bodyBytes
  verifyPayloadHashBinding primitives bundle bodyBytes
  -- The path is checked last, at the index and the size that the bundle names.
  let leafHash := (rfc6269Default primitives).hashLeaf bodyBytes
  let outputs ← proofOutputs hashes
  let rootOutput ← okOrElse (Hash.tryFrom root) "Invalid root hash length (expected 32 bytes)"
  (verifyInclusion (rfc6269Default primitives) overflowChecks index leafHash size outputs
    rootOutput).mapError fun error =>
      .sigstoreVerification ("Merkle inclusion proof verification failed: " ++ error.display)

end Steps

end Tinfoil.Sigstore
