import Tinfoil.ByKey
import Tinfoil.Der
import Tinfoil.Sigstore.Trust

/-! # The keys of certificate transparency logs

A keyring is built from keys with windows of validity, and holds one key, with one window, for each key
identifier.  `keyring_exact_iff` says when none of the windows is lost.
-/

namespace Tinfoil.Sigstore

open ByKey (byKey byKey_eq_some exists_last exists_mapM_ok mapM_ok)

inductive KeyringError where
  | keyMalformed (error : String)
  | algoUnsupported
  | keyNotFound
  | keyNotValidAtTime
  | verificationFailed
  deriving DecidableEq, Repr

def okOr {α : Type} (value : Option α) (error : KeyringError) : Except KeyringError α :=
  match value with
  | some value => .ok value
  | none => .error error

@[simp] theorem okOr_ok {α : Type} {value : Option α} {error : KeyringError} {result : α} :
    okOr value error = .ok result ↔ value = some result := by
  cases value <;> simp [okOr]

structure SubjectPublicKeyInfo where
  algorithm : String
  parameters : Option Bytes
  subjectPublicKey : Bytes
  /-- The whole, encoded again. -/
  der : Bytes

structure KeyringLibrary (VerifyingKey Signature : Type) where
  spkiFromDer : Bytes → Except String SubjectPublicKeyInfo
  /-- `decode_as::<ObjectIdentifier>` -/
  objectIdentifier : Bytes → Option String
  /-- `VerifyingKey::from_sec1_bytes` -/
  keyFromSec1Bytes : Bytes → Option VerifyingKey
  sha256 : Bytes → Hash
  /-- `Signature::from_der` -/
  signatureFromDer : Bytes → Option Signature
  verify : VerifyingKey → (data : Bytes) → Signature → Bool

structure Key (VerifyingKey : Type) where
  inner : VerifyingKey
  /-- The key identifier. -/
  fingerprint : Hash
  validFrom : Option UInt64
  validUntil : Option UInt64
  deriving DecidableEq

abbrev Keyring (VerifyingKey : Type) := Hash → Option (Key VerifyingKey)

structure KeyEntry where
  spkiDer : Bytes
  validFrom : Option UInt64
  validUntil : Option UInt64
  deriving DecidableEq, Repr

def idEcPublicKey : String := "1.2.840.10045.2.1"

def secp256r1 : String := "1.2.840.10045.3.1.7"

section Keyring

variable {VerifyingKey Signature : Type} (library : KeyringLibrary VerifyingKey Signature)

/-! ## Keys -/

def Key.new (spkiBytes : Bytes) : Except KeyringError (Key VerifyingKey) := do
  let spki ← match library.spkiFromDer spkiBytes with
    | .ok spki => .ok spki
    | .error error => .error (.keyMalformed error)
  let params ← okOr spki.parameters .algoUnsupported
  let paramsOid ← okOr (library.objectIdentifier params) .algoUnsupported
  -- Only keys on P-256 are supported.
  if spki.algorithm ≠ idEcPublicKey ∨ paramsOid ≠ secp256r1 then
    .error .algoUnsupported
  else
    let inner ← okOr (library.keyFromSec1Bytes spki.subjectPublicKey) .algoUnsupported
    return { inner, fingerprint := library.sha256 spki.der, validFrom := none, validUntil := none }

namespace Key

variable (key : Key VerifyingKey)

def withValidity (validFrom validUntil : Option UInt64) : Key VerifyingKey := { key with validFrom, validUntil }

def validAt (timestampSecs : UInt64) : Bool :=
  !(key.validFrom.any fun start => timestampSecs < start) &&
    !(key.validUntil.any fun finish => timestampSecs > finish)

def Vouches (signature data : Bytes) (timestampSecs : UInt64) : Prop :=
  key.validAt timestampSecs ∧ ∃ sig, library.signatureFromDer signature = some sig ∧ library.verify key.inner data sig

end Key

def KeyEntry.key (entry : KeyEntry) : Except KeyringError (Key VerifyingKey) := do
  return (← Key.new library entry.spkiDer).withValidity entry.validFrom entry.validUntil

/-! ## Keyrings -/

namespace Keyring

/-- A later key takes the place of an earlier one with the same fingerprint. -/
def newWithValidity (keys : List KeyEntry) : Except KeyringError (Keyring VerifyingKey) := do
  let parsed ← keys.mapM (KeyEntry.key library)
  return byKey Key.fingerprint parsed

def verifyAt (keyring : Keyring VerifyingKey) (keyId : Hash) (signature data : Bytes) (timestampSecs : UInt64) :
    Except KeyringError Unit := do
  let key ← okOr (keyring keyId) .keyNotFound
  if !key.validAt timestampSecs then
    .error .keyNotValidAtTime
  else
    let sig ← okOr (library.signatureFromDer signature) .verificationFailed
    if library.verify key.inner data sig then return () else .error .verificationFailed

end Keyring

/-! ## What a list of entries accepts -/

section Query

variable (keyId : Hash) (signature data : Bytes) (timestampSecs : UInt64)

def KeyEntry.Supported (entry : KeyEntry) : Prop := ∃ key, entry.key library = .ok key

def KeyEntry.HasId (entry : KeyEntry) : Prop := ∃ key, entry.key library = .ok key ∧ key.fingerprint = keyId

def KeyEntry.Vouches (entry : KeyEntry) : Prop :=
  ∃ key, entry.key library = .ok key ∧ key.fingerprint = keyId ∧ key.Vouches library signature data timestampSecs

def KeyringAccepts (entries : List KeyEntry) : Prop :=
  ∃ keyring, Keyring.newWithValidity library entries = .ok keyring ∧
    Keyring.verifyAt library keyring keyId signature data timestampSecs = .ok ()

variable {library keyId signature data timestampSecs}

theorem verifyAt_ok {keyring : Keyring VerifyingKey} :
    Keyring.verifyAt library keyring keyId signature data timestampSecs = .ok () ↔
      ∃ key, keyring keyId = some key ∧ key.Vouches library signature data timestampSecs := by
  simp only [Keyring.verifyAt, bind_ok, okOr_ok]
  refine exists_congr fun key => and_congr_right fun _ => ?_
  by_cases valid : key.validAt timestampSecs
  · simp only [valid, Key.Vouches, Bool.not_true, Bool.false_eq_true, if_false, true_and, bind_ok, okOr_ok]
    refine exists_congr fun sig => and_congr_right fun _ => ?_
    by_cases verified : library.verify key.inner data sig <;> simp [verified, pure, Except.pure]
  · simp [valid, Key.Vouches]

theorem newWithValidity_ok {entries : List KeyEntry} {keyring : Keyring VerifyingKey} :
    Keyring.newWithValidity library entries = .ok keyring ↔
      ∃ parsed, entries.map (KeyEntry.key library) = parsed.map Except.ok ∧ byKey Key.fingerprint parsed = keyring := by
  simp only [Keyring.newWithValidity, bind_ok, mapM_ok, pure, Except.pure, Except.ok.injEq]

theorem keyringAccepts_iff {entries : List KeyEntry} :
    KeyringAccepts library keyId signature data timestampSecs entries ↔
      (∀ entry ∈ entries, entry.Supported library) ∧
        ∃ front last back, entries = front ++ last :: back ∧
          last.Vouches library keyId signature data timestampSecs ∧ ∀ later ∈ back, ¬ later.HasId library keyId := by
  constructor
  · intro accepted
    obtain ⟨keyring, built, verified⟩ := accepted
    obtain ⟨parsed, read, rfl⟩ := newWithValidity_ok.mp built
    obtain ⟨key, held, vouches⟩ := verifyAt_ok.mp verified
    obtain ⟨frontKeys, backKeys, rfl, fingerprint, others⟩ := byKey_eq_some.mp held
    refine ⟨fun entry member => ?_, ?_⟩
    · have result := List.mem_map_of_mem (f := KeyEntry.key library) member
      rw [read, List.mem_map] at result
      obtain ⟨key', -, same⟩ := result
      exact ⟨key', same.symm⟩
    · -- The list of entries splits where the list of keys does.
      rw [List.map_append, List.map_cons, List.map_eq_append_iff] at read
      obtain ⟨front, rest, rfl, -, read⟩ := read
      obtain ⟨last, back, rfl, lastKey, read⟩ := List.map_eq_cons_iff.mp read
      refine ⟨front, last, back, rfl, ⟨key, lastKey, fingerprint, vouches⟩, fun later member named => ?_⟩
      obtain ⟨key', laterKey, same⟩ := named
      have result := List.mem_map_of_mem (f := KeyEntry.key library) member
      rw [read, laterKey, List.mem_map] at result
      obtain ⟨_, member', inj⟩ := result
      cases inj
      exact others key' member' same
  · intro decided
    obtain ⟨supported, front, last, back, rfl, ⟨key, lastKey, fingerprint, vouches⟩, others⟩ := decided
    obtain ⟨frontKeys, readFront⟩ := exists_mapM_ok fun entry member =>
      supported entry (List.mem_append_left _ member)
    obtain ⟨backKeys, readBack⟩ := exists_mapM_ok fun entry member =>
      supported entry (List.mem_append_right _ (List.mem_cons_of_mem _ member))
    have built : Keyring.newWithValidity library (front ++ last :: back) =
        .ok (byKey Key.fingerprint (frontKeys ++ key :: backKeys)) :=
      newWithValidity_ok.mpr ⟨_, by simp [readFront, lastKey, readBack], rfl⟩
    refine ⟨_, built, verifyAt_ok.mpr ⟨key, byKey_eq_some.mpr ⟨frontKeys, backKeys, rfl, fingerprint, ?_⟩, vouches⟩⟩
    intro key' member same
    have result := List.mem_map_of_mem (f := Except.ok (ε := KeyringError)) member
    rw [← readBack, List.mem_map] at result
    obtain ⟨later, member', laterKey⟩ := result
    exact others later member' ⟨key', laterKey, same⟩

section Exact

variable {entries : List KeyEntry}

theorem KeyEntry.Vouches.hasId {entry : KeyEntry} (vouches : entry.Vouches library keyId signature data timestampSecs) :
    entry.HasId library keyId := by
  obtain ⟨key, read, same, -⟩ := vouches
  exact ⟨key, read, same⟩

theorem vouches_of_accepts (accepted : KeyringAccepts library keyId signature data timestampSecs entries) :
    ∃ entry ∈ entries, entry.Vouches library keyId signature data timestampSecs := by
  obtain ⟨-, front, last, back, rfl, vouches, -⟩ := keyringAccepts_iff.mp accepted
  exact ⟨last, by simp, vouches⟩

theorem vouches_of_concat {entry : KeyEntry} (named : entry.HasId library keyId)
    (accepted : KeyringAccepts library keyId signature data timestampSecs (entries ++ [entry])) :
    entry.Vouches library keyId signature data timestampSecs := by
  obtain ⟨-, front, last, back, split, vouches, others⟩ := keyringAccepts_iff.mp accepted
  cases back using List.reverseRecOn with
  | nil =>
    obtain ⟨-, same⟩ := List.append_inj' split rfl
    cases same
    exact vouches
  | append_singleton back later =>
    rw [← List.cons_append, ← List.append_assoc] at split
    obtain ⟨-, same⟩ := List.append_inj' split rfl
    cases same
    exact absurd named (others entry (by simp))

variable (library keyId signature data timestampSecs) in
/-- If an entry accepts the signature, then all entries are supported, and those of the key identifier accept it. -/
def Agree (entries : List KeyEntry) : Prop :=
  (∃ entry ∈ entries, entry.Vouches library keyId signature data timestampSecs) →
    ∀ entry ∈ entries, entry.Supported library ∧
      (entry.HasId library keyId → entry.Vouches library keyId signature data timestampSecs)

theorem Agree.perm {entries' : List KeyEntry} (agree : Agree library keyId signature data timestampSecs entries)
    (same : entries'.Perm entries) : Agree library keyId signature data timestampSecs entries' := by
  intro vouched entry member
  obtain ⟨entry', member', vouches⟩ := vouched
  exact agree ⟨entry', same.mem_iff.mp member', vouches⟩ entry (same.mem_iff.mp member)

theorem Agree.accepts_iff (agree : Agree library keyId signature data timestampSecs entries) :
    KeyringAccepts library keyId signature data timestampSecs entries ↔
      ∃ entry ∈ entries, entry.Vouches library keyId signature data timestampSecs := by
  refine ⟨vouches_of_accepts, fun vouched => keyringAccepts_iff.mpr ?_⟩
  have agreed := agree vouched
  obtain ⟨entry, member, vouches⟩ := vouched
  obtain ⟨front, last, back, rfl, named, others⟩ := exists_last ⟨entry, member, vouches.hasId⟩
  exact ⟨fun entry member => (agreed entry member).1, front, last, back, rfl, (agreed last (by simp)).2 named, others⟩

end Exact

/-- A keyring accepts what an entry accepts, and in every order of the entries, exactly if the entries agree. -/
theorem keyring_exact_iff {library : KeyringLibrary VerifyingKey Signature} {entries : List KeyEntry} {keyId : Hash}
    {signature data : Bytes} {timestampSecs : UInt64} :
    ((KeyringAccepts library keyId signature data timestampSecs entries ↔
        ∃ entry ∈ entries, entry.Vouches library keyId signature data timestampSecs) ∧
      ∀ entries', entries'.Perm entries →
        (KeyringAccepts library keyId signature data timestampSecs entries' ↔
          KeyringAccepts library keyId signature data timestampSecs entries)) ↔
      Agree library keyId signature data timestampSecs entries := by
  constructor
  · intro exact vouched entry member
    obtain ⟨exact, orders⟩ := exact
    have accepted := exact.mpr vouched
    refine ⟨(keyringAccepts_iff.mp accepted).1 entry member, fun named => ?_⟩
    -- With the entry moved to the end, it is the one that the keyring holds.
    obtain ⟨front, back, rfl⟩ := List.append_of_mem member
    have moved : ((front ++ back) ++ [entry]).Perm (front ++ entry :: back) :=
      (List.perm_append_singleton entry (front ++ back)).trans List.perm_middle.symm
    exact vouches_of_concat named ((orders _ moved).mpr accepted)
  · intro agree
    refine ⟨agree.accepts_iff, fun entries' same => ?_⟩
    rw [(agree.perm same).accepts_iff, agree.accepts_iff]
    exact exists_congr fun entry => and_congr_left fun _ => same.mem_iff

end Query

end Keyring

/-! ## Two windows of one key -/

namespace Sample

def logSpki : Bytes :=
  Der.bigEndian 46 0x3059301306072a8648ce3d020106082a8648ce3d030107034200048325dd6a411951c5b353ab1dbd859f297daaf9 ++
    Der.bigEndian 45 0xb0eb642e222f934298df60a8a66fc72655cbc824b631405123960784ad8a9e23d47b7dde71d698452388434f6b

def logKeyId : Hash where
  val := Der.bigEndian 32 0xb08c5bcd7965be91c6def0436fccb077b6d179f1210daee1ec71356712ae134a
  property := Der.length_bigEndian ..

/-- The signature of the key over `some message`. -/
def logSignature : Bytes :=
  Der.bigEndian 46 0x304402203cd05353955eade3d7b5df68c86b4ac365a483bc0d2b4c2a83ae01be7e4fdd10022019f7ac1db81af9dc ++
    Der.bigEndian 24 0x9bcfda338dd513739d4e9772cb22266dc9e8d58f3bbdfa54

def keyringLibrary : KeyringLibrary Bytes Bytes where
  spkiFromDer der :=
    if der = logSpki then
      .ok { algorithm := idEcPublicKey, parameters := some (Der.bigEndian 10 0x06082a8648ce3d030107),
            subjectPublicKey := der.drop 26, der }
    else .error "malformed key"
  objectIdentifier der := if der = Der.bigEndian 10 0x06082a8648ce3d030107 then some secp256r1 else none
  keyFromSec1Bytes octets := if octets.length = 65 then some octets else none
  sha256 octets := if octets = logSpki then logKeyId else ⟨List.replicate 32 0, List.length_replicate⟩
  signatureFromDer octets := if octets.length = 70 then some octets else none
  verify key data signature := key = logSpki.drop 26 ∧ data = utf8Bytes "some message" ∧ signature = logSignature

def logEntry (validFrom validUntil : UInt64) : KeyEntry where
  spkiDer := logSpki
  validFrom := some validFrom
  validUntil := some validUntil

def logKey (validFrom validUntil : UInt64) : Key Bytes where
  inner := logSpki.drop 26
  fingerprint := logKeyId
  validFrom := some validFrom
  validUntil := some validUntil

theorem key_logEntry (validFrom validUntil : UInt64) :
    (logEntry validFrom validUntil).key keyringLibrary = .ok (logKey validFrom validUntil) := by
  have key : Key.new keyringLibrary logSpki =
      .ok { inner := logSpki.drop 26, fingerprint := logKeyId, validFrom := none, validUntil := none } := by
    decide
  rw [KeyEntry.key, logEntry, key]
  rfl

end Sample

/-- The window of the first entry is lost to the one of the second, and the other way round in the other order. -/
theorem keyring_windows_lost :
    (∃ entry ∈ [Sample.logEntry 1000 2000, Sample.logEntry 3000 4000], entry.Vouches Sample.keyringLibrary
        Sample.logKeyId Sample.logSignature (utf8Bytes "some message") 1500) ∧
      ¬ KeyringAccepts Sample.keyringLibrary Sample.logKeyId Sample.logSignature (utf8Bytes "some message") 1500
        [Sample.logEntry 1000 2000, Sample.logEntry 3000 4000] ∧
      KeyringAccepts Sample.keyringLibrary Sample.logKeyId Sample.logSignature (utf8Bytes "some message") 1500
        [Sample.logEntry 3000 4000, Sample.logEntry 1000 2000] := by
  have vouches : (Sample.logEntry 1000 2000).Vouches Sample.keyringLibrary Sample.logKeyId Sample.logSignature
      (utf8Bytes "some message") 1500 :=
    ⟨_, Sample.key_logEntry 1000 2000, rfl, rfl, Sample.logSignature, by decide, by decide⟩
  have supported (entry : KeyEntry) (member : entry ∈ [Sample.logEntry 3000 4000, Sample.logEntry 1000 2000]) :
      entry.Supported Sample.keyringLibrary := by
    simp only [List.mem_cons, List.not_mem_nil, or_false] at member
    obtain rfl | rfl := member
    · exact ⟨_, Sample.key_logEntry 3000 4000⟩
    · exact ⟨_, Sample.key_logEntry 1000 2000⟩
  refine ⟨⟨_, List.mem_cons_self, vouches⟩, fun accepted => ?_, ?_⟩
  · -- The second entry decides, and its window does not contain the time.
    have named : (Sample.logEntry 3000 4000).HasId Sample.keyringLibrary Sample.logKeyId :=
      ⟨_, Sample.key_logEntry 3000 4000, rfl⟩
    have concat : KeyringAccepts Sample.keyringLibrary Sample.logKeyId Sample.logSignature (utf8Bytes "some message")
        1500 ([Sample.logEntry 1000 2000] ++ [Sample.logEntry 3000 4000]) := accepted
    obtain ⟨key, read, -, valid, -⟩ := vouches_of_concat named concat
    cases Except.ok.inj ((Sample.key_logEntry 3000 4000).symm.trans read)
    cases valid
  · exact keyringAccepts_iff.mpr ⟨supported, [Sample.logEntry 3000 4000], _, [], rfl, vouches, by simp⟩

end Tinfoil.Sigstore
