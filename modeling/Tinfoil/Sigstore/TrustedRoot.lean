import Tinfoil.Text
import Tinfoil.Sigstore.Fulcio
import Tinfoil.Sigstore.Keyring

/-! # Loading the trust root

Each loader reads the whole trust root, and one entry that cannot be read fails it.  `loadCtlogKeyring_accepts` says
which signatures the loaded keyring accepts.
-/

namespace Tinfoil.Sigstore

structure ValidityPeriod where
  start : String
  finish : Option String

structure PublicKeyInfo where
  rawBytes : String
  keyDetails : String
  validFor : Option ValidityPeriod

structure Tlog where
  baseUrl : String
  publicKey : PublicKeyInfo
  /-- The `keyId` of the log's identifier. -/
  logId : String

abbrev CertChain := List String

structure CertificateAuthority where
  certChain : CertChain
  validFor : ValidityPeriod

structure TimestampAuthorityEntry where
  certChain : CertChain
  validFor : Option ValidityPeriod

structure TrustedRoot where
  tlogs : List Tlog
  certificateAuthorities : List CertificateAuthority
  /-- The keys of the logs. -/
  ctlogs : List PublicKeyInfo
  timestampAuthorities : List TimestampAuthorityEntry

structure TrustedRootLibrary where
  /-- `serde_json::from_str` -/
  fromStr : String → Except String TrustedRoot
  /-- `OffsetDateTime::parse`, in seconds since 1970. -/
  parseRfc3339 : String → Except String Int

section Load

variable (library : TrustedRootLibrary) (primitives : Primitives)

/-- The time fits an `i64`. -/
def parseRfc3339ToUnix (text : String) : Except Error UInt64 := do
  let ts ← orFail ("Invalid RFC3339 timestamp '" ++ text ++ "': ") (library.parseRfc3339 text)
  if ts < 0 then fail ("Timestamp before Unix epoch: '" ++ text ++ "'")
  else return UInt64.ofNat ts.toNat

def parseEnd (finish : Option String) : Except Error (Option UInt64) :=
  match finish with
  | none => .ok none
  | some finish => do return some (← parseRfc3339ToUnix library finish)

def parseValidity (validFor : Option ValidityPeriod) : Except Error (Option UInt64 × Option UInt64) :=
  match validFor with
  | none => .ok (none, none)
  | some period => do
    let start ← parseRfc3339ToUnix library period.start
    let finish ← parseEnd library period.finish
    return (some start, finish)

def loadRoot (json : String) : Except Error TrustedRoot :=
  orFail "Failed to parse trusted root: " (library.fromStr json)

/-! ## Timestamp authorities and certificate authorities -/

def TimestampAuthorityEntry.load (tsa : TimestampAuthorityEntry) : Except Error TimestampAuthority := do
  let certChainDer ← tsa.certChain.mapM (decodeB64 primitives "TSA cert")
  let (validFrom, validUntil) ← parseValidity library tsa.validFor
  return { certChainDer, validFrom, validUntil }

def loadTimestampAuthorities (json : String) : Except Error (List TimestampAuthority) := do
  let root ← loadRoot library json
  root.timestampAuthorities.mapM (TimestampAuthorityEntry.load library primitives)

def CertificateAuthority.load (ca : CertificateAuthority) : Except Error FulcioCa := do
  let certChainDer ← ca.certChain.mapM (decodeB64 primitives "Fulcio cert")
  let validFrom ← parseRfc3339ToUnix library ca.validFor.start
  let validUntil ← parseEnd library ca.validFor.finish
  return { certChainDer, validFrom, validUntil }

def loadFulcioCas (json : String) : Except Error (List FulcioCa) := do
  let root ← loadRoot library json
  root.certificateAuthorities.mapM (CertificateAuthority.load library primitives)

/-! ## Log keys -/

/-- What follows the last separator, if there are no more of them than the fuel. -/
def lastPiece (separator : List Char) : (fuel : Nat) → List Char → List Char
  | 0, text => text
  | fuel + 1, text =>
    match Text.splitOnce separator text with
    | none => text
    | some (_, rest) => lastPiece separator fuel rest

def hostOf (baseUrl : String) : String :=
  let rest := lastPiece "://".toList baseUrl.length baseUrl.toList
  String.ofList ((rest.splitOn '/').headD [])

def Tlog.load (tlog : Tlog) : Except Error RekorKey := do
  let keyDer ← decodeB64 primitives "Rekor key" tlog.publicKey.rawBytes
  let (validFrom, validUntil) ← parseValidity library tlog.publicKey.validFor
  return { keyId := tlog.logId, host := hostOf tlog.baseUrl, keyDer, keyType := tlog.publicKey.keyDetails,
           validFrom, validUntil }

def loadRekorKeys (json : String) : Except Error (List RekorKey) := do
  let root ← loadRoot library json
  root.tlogs.mapM (Tlog.load library primitives)

def PublicKeyInfo.load (publicKey : PublicKeyInfo) : Except Error KeyEntry := do
  let spkiDer ← decodeB64 primitives "CT log key" publicKey.rawBytes
  let (validFrom, validUntil) ← parseValidity library publicKey.validFor
  return { spkiDer, validFrom, validUntil }

/-- Keys of other kinds are left out. -/
def PublicKeyInfo.isP256 (publicKey : PublicKeyInfo) : Bool := publicKey.keyDetails = "PKIX_ECDSA_P256_SHA_256"

/-- The text of an error (`Display`). -/
def KeyringError.display : KeyringError → String
  | .keyMalformed _ => "malformed key"
  | .algoUnsupported => "unsupported algorithm"
  | .keyNotFound => "requested key not in keyring"
  | .keyNotValidAtTime => "key not valid at requested time"
  | .verificationFailed => "verification failed"

def loadCtlogEntries (json : String) : Except Error (List KeyEntry) := do
  let root ← loadRoot library json
  (root.ctlogs.filter PublicKeyInfo.isP256).mapM (PublicKeyInfo.load library primitives)

variable {VerifyingKey Signature : Type} (keys : KeyringLibrary VerifyingKey Signature)

def loadCtlogKeyring (json : String) : Except Error (Keyring VerifyingKey) := do
  let keysWithValidity ← loadCtlogEntries library primitives json
  match Keyring.newWithValidity keys keysWithValidity with
  | .ok keyring => return keyring
  | .error error => fail ("Failed to create CT log keyring: " ++ error.display)

variable {library primitives keys}

theorem loadCtlogKeyring_ok {json : String} {keyring : Keyring VerifyingKey} :
    loadCtlogKeyring library primitives keys json = .ok keyring ↔
      ∃ entries, loadCtlogEntries library primitives json = .ok entries ∧
        Keyring.newWithValidity keys entries = .ok keyring := by
  simp only [loadCtlogKeyring, bind_ok]
  refine exists_congr fun entries => and_congr_right fun _ => ?_
  cases Keyring.newWithValidity keys entries <;> simp [fail, pure, Except.pure]

/-- The loaded keyring accepts what the entries accept: every entry for a key on P-256 counts, and the last one of an
identifier decides. -/
theorem loadCtlogKeyring_accepts {json : String} {keyId : Hash} {signature data : Bytes} {timestampSecs : UInt64} :
    (∃ keyring, loadCtlogKeyring library primitives keys json = .ok keyring ∧
      Keyring.verifyAt keys keyring keyId signature data timestampSecs = .ok ()) ↔
      ∃ entries, loadCtlogEntries library primitives json = .ok entries ∧
        (∀ entry ∈ entries, entry.Supported keys) ∧
          ∃ front last back, entries = front ++ last :: back ∧
            last.Vouches keys keyId signature data timestampSecs ∧ ∀ later ∈ back, ¬ later.HasId keys keyId := by
  simp only [loadCtlogKeyring_ok, ← keyringAccepts_iff, KeyringAccepts]
  constructor
  · rintro ⟨keyring, ⟨entries, loaded, built⟩, verified⟩
    exact ⟨entries, loaded, keyring, built, verified⟩
  · rintro ⟨entries, loaded, keyring, built, verified⟩
    exact ⟨keyring, ⟨entries, loaded, built⟩, verified⟩

end Load

end Tinfoil.Sigstore
