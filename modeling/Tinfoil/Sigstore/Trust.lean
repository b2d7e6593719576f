import Tinfoil.Basic
import Tinfoil.Base64
import Tinfoil.Json.Value

/-! # The trust root, and the code that the verifier takes from its dependencies -/

namespace Tinfoil.Sigstore

open Json (Value)

/-- A SHA-256 output, `[u8; 32]`. -/
abbrev Hash := { bytes : Bytes // bytes.length = 32 }

def Hash.tryFrom (bytes : Bytes) : Option Hash :=
  if whole : bytes.length = 32 then some ⟨bytes, whole⟩ else none

structure RekorKey where
  keyId : String
  host : String
  keyDer : Bytes
  keyType : String
  validFrom : Option UInt64
  validUntil : Option UInt64

structure TimestampAuthority where
  certChainDer : List Bytes
  validFrom : Option UInt64
  validUntil : Option UInt64

/-- A signature scheme of a dependency: how it reads keys and signatures, and its verdict on a
key and a signature that it could read. -/
structure SignatureScheme where
  keyError : Bytes → Option String
  signatureError : Bytes → Option String
  verify : (key message signature : Bytes) → Bool

structure Primitives where
  sha256 : Bytes → Hash
  /-- `serde_json::from_slice`, with the text of its error. -/
  fromSlice : Bytes → Except String Value
  decodeError : String → String
  utf8Error : Bytes → String
  /-- `pem::parse`: the contents of the document. -/
  parsePem : String → Except String Bytes
  debugStr : String → String
  ecdsaP256 : SignatureScheme
  ed25519 : SignatureScheme
  /-- An RFC 3161 token, checked against the message it stamps. -/
  verifyTimestamp : (token signature : Bytes) → List TimestampAuthority → Except Error UInt64

/-- `Error::SigstoreVerification`, for an absent value. -/
def okOrElse {α : Type} (value : Option α) (message : String) : Except Error α :=
  match value with
  | some value => .ok value
  | none => .error (.sigstoreVerification message)

@[simp] theorem okOrElse_ok {α : Type} {value : Option α} {message : String} {result : α} :
    okOrElse value message = .ok result ↔ value = some result := by
  cases value <;> simp [okOrElse]

/-- `decode_b64`, with the error that its callers make of a failure to decode `what`. -/
def decodeB64 (primitives : Primitives) (what text : String) : Except Error Bytes :=
  okOrElse (Base64.decode text.toList)
    ("Failed to decode " ++ what ++ ": " ++ primitives.decodeError text)

theorem decodeB64_ok {primitives : Primitives} {what text : String} {bytes : Bytes} :
    decodeB64 primitives what text = .ok bytes ↔ Base64.decode text.toList = some bytes :=
  okOrElse_ok

end Tinfoil.Sigstore
