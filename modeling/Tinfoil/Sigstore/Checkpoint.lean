import Tinfoil.Sigstore.Trust
import Tinfoil.Text

/-! # Checkpoints: the signed tree heads of a log -/

namespace Tinfoil.Sigstore

/-! ## Log signatures -/

section LogSignature

variable (primitives : Primitives)

def verifyEcdsaP256 (message signature keyDer : Bytes) : Except Error Unit := do
  if let some error := primitives.ecdsaP256.keyError keyDer then
    throw (.sigstoreVerification ("Invalid Rekor ECDSA public key: " ++ error))
  if let some error := primitives.ecdsaP256.signatureError signature then
    throw (.sigstoreVerification ("Invalid ECDSA signature format: " ++ error))
  if !primitives.ecdsaP256.verify keyDer message signature then
    throw (.sigstoreVerification "Checkpoint ECDSA signature verification failed")

/-- The raw key is what follows the header of the SPKI document. -/
def verifyEd25519 (message signature keyDer : Bytes) : Except Error Unit := do
  if signature.length < 64 then
    throw (.sigstoreVerification "Ed25519 checkpoint signature too short")
  let sigBytes := signature.take 64
  if keyDer.length < 44 then
    throw (.sigstoreVerification "Invalid Ed25519 SPKI key length")
  let rawKey := keyDer.drop (keyDer.length - 32)
  if let some error := primitives.ed25519.keyError rawKey then
    throw (.sigstoreVerification ("Invalid Rekor Ed25519 public key: " ++ error))
  if let some error := primitives.ed25519.signatureError sigBytes then
    throw (.sigstoreVerification ("Invalid Ed25519 signature format: " ++ error))
  if !primitives.ed25519.verify rawKey message sigBytes then
    throw (.sigstoreVerification "Checkpoint Ed25519 signature verification failed")

/-- The scheme is the `keyDetails` of the trust root. -/
def verifyLogSignature (message signature keyDer : Bytes) (keyType : String) : Except Error Unit :=
  if keyType = "PKIX_ECDSA_P256_SHA_256" then verifyEcdsaP256 primitives message signature keyDer
  else if keyType = "PKIX_ED25519" then verifyEd25519 primitives message signature keyDer
  else .error (.sigstoreVerification ("Unsupported Rekor key type: " ++ keyType))

end LogSignature

/-! ## Notes -/

inductive OtherContent where
  | keyValue (key value : String)
  | value (value : String)
  deriving DecidableEq, Repr

namespace OtherContent

def display : OtherContent → String
  | .keyValue key content => key ++ ": " ++ content
  | .value content => content

def ofLine (line : List Char) : OtherContent :=
  match Text.splitOnce [':', ' '] line with
  | some (key, content) => .keyValue (String.ofList key) (String.ofList content)
  | none => .value (String.ofList line)

end OtherContent

structure Checkpoint where
  origin : String
  size : UInt64
  hash : Hash
  otherContent : List OtherContent
  deriving DecidableEq

namespace Checkpoint

/-- The text of a note, as the log signs it. -/
def marshal (checkpoint : Checkpoint) : String :=
  let hashB64 := String.ofList (Base64.encode checkpoint.hash.val)
  let otherContent := String.join (checkpoint.otherContent.map fun content => content.display ++ "\n")
  checkpoint.origin ++ "\n" ++ toString checkpoint.size.toNat ++ "\n" ++ hashB64 ++ "\n" ++ otherContent

/-- A note: origin, decimal size, base64 root hash and further lines. -/
def unmarshal (text : List Char) : Except Error Checkpoint :=
  match text.splitOn '\n' with
  | origin :: size :: hashB64 :: otherContent => do
    if (Text.trim origin).isEmpty then
      throw (.sigstoreVerification "Checkpoint origin string must not be empty")
    let size ← okOrElse (parseU64 (String.ofList size)) "Checkpoint size is not a valid decimal number"
    let decoded ← okOrElse (Base64.decode hashB64) "Failed to decode checkpoint root hash"
    let hash ← okOrElse (Hash.tryFrom decoded) "Checkpoint root hash is not 32 bytes"
    let lines := otherContent.filter fun line => !line.isEmpty
    return {
      origin := String.ofList origin
      size := size
      hash := hash
      otherContent := lines.map OtherContent.ofLine }
  | _ => .error (.sigstoreVerification "Checkpoint note not in expected format")

end Checkpoint

/-! ## Signature lines -/

structure CheckpointSignature where
  keyFingerprint : Bytes
  raw : Bytes
  name : String
  deriving DecidableEq

namespace CheckpointSignature

/-- A signature line: em dash, name and base64 of the key hint followed by the signature. -/
def encode (signature : CheckpointSignature) : String :=
  let sigB64 := String.ofList (Base64.encode (signature.keyFingerprint ++ signature.raw))
  "— " ++ signature.name ++ " " ++ sigB64 ++ "\n"

def decode (primitives : Primitives) (line : List Char) : Except Error CheckpointSignature := do
  let text := Text.trimEndMatches '\n' (Text.trimStartMatches '\n' line)
  if text.head? ≠ some '—' then
    throw (.sigstoreVerification "Checkpoint signature line missing em dash")
  match text.splitOn ' ' with
  | [_, name, sigB64] =>
    let sig ← okOrElse (Base64.decode (Text.trimEnd sigB64)) "Failed to decode checkpoint signature"
    if sig.length < 4 then
      throw (.sigstoreVerification "Checkpoint signature too short for key fingerprint")
    return { keyFingerprint := sig.take 4, raw := sig.drop 4, name := String.ofList name }
  | _ =>
    throw (.sigstoreVerification
      ("Unexpected checkpoint signature format: " ++ primitives.debugStr (String.ofList text)))

end CheckpointSignature

/-! ## Signed checkpoints -/

structure SignedCheckpoint where
  note : Checkpoint
  signatures : List CheckpointSignature
  deriving DecidableEq

namespace SignedCheckpoint

variable (primitives : Primitives)

/-- A note and its signature lines, parted by the first blank line. -/
def decode (text : String) : Except Error SignedCheckpoint := do
  let checkpoint := Text.trimEndMatches '"' (Text.trimStartMatches '"' text.toList)
  let (note, sigs) ← okOrElse (Text.splitOnce ['\n', '\n'] checkpoint)
    "Invalid checkpoint format: missing signature section"
  let lines := (Text.lines sigs).filter fun line => !(Text.trim line).isEmpty
  let signatures ← lines.mapM (CheckpointSignature.decode primitives)
  if signatures.isEmpty then
    throw (.sigstoreVerification "Checkpoint has no signatures")
  let note ← Checkpoint.unmarshal note
  return { note := note, signatures := signatures }

def encode (checkpoint : SignedCheckpoint) : String :=
  let note := checkpoint.note.marshal ++ "\n"
  let emptyLine := "\n"
  let signatures := String.intercalate "\n" (checkpoint.signatures.map CheckpointSignature.encode)
  note ++ emptyLine ++ signatures

/-- The log's key hint: the first four bytes of its id, if it has four. -/
def keyHint (logId : Bytes) : Option Bytes := if logId.length < 4 then none else some (logId.take 4)

/-- A signature line of the log itself, verified; lines of witnesses are passed over. -/
def verifies (checkpoint : SignedCheckpoint) (keyDer : Bytes) (keyType name : String) (logId : Bytes)
    (signature : CheckpointSignature) : Bool :=
  signature.name = name && keyHint logId = some signature.keyFingerprint &&
    (verifyLogSignature primitives (utf8Bytes checkpoint.note.marshal) signature.raw keyDer
      keyType).isOk

def verifySignature (checkpoint : SignedCheckpoint) (keyDer : Bytes) (keyType name : String)
    (logId : Bytes) : Except Error Unit :=
  if checkpoint.signatures.any (checkpoint.verifies primitives keyDer keyType name logId) then .ok ()
  else
    .error (.sigstoreVerification ("No valid checkpoint signature found for log " ++ name ++
      " (key hint " ++ hexEncode ((keyHint logId).getD []) ++ ")"))

end SignedCheckpoint

end Tinfoil.Sigstore
