import Tinfoil.Sigstore.Acceptance

/-! # The tree size of an accepted bundle

The size that inclusion is verified at is a field of the bundle; the size that the log signed is read
and used nowhere.  `verifyInclusion_congr` and `innerSize_of_verified` say which sizes one proof is
accepted at, `signed_size_decides` for which entries that is the signed size only.
-/

namespace Tinfoil.Sigstore

open Json (Value)

/-! ## The sizes that one proof is accepted at -/

theorem innerSize_le_width {index size : UInt64} (inside : index < size) :
    MerkleTree.innerSize index.toNat size.toNat ≤ 64 := by
  have short : index.toNat < size.toNat := inside
  have fits := size.toNat_lt
  rw [MerkleTree.innerSize_le_iff, Nat.div_eq_of_lt index.toNat_lt, Nat.div_eq_of_lt (by omega)]

/-- Higher inner parts come with longer paths, also at 64 levels, where the shift is masked. -/
theorem masked_shape_lt {index size : UInt64} {lower : Nat} (inside : index < size)
    (higher : lower < MerkleTree.innerSize index.toNat size.toNat) :
    lower + MerkleTree.popCount 64 (index.toNat >>> (lower % 64)) <
      MerkleTree.innerSize index.toNat size.toNat +
        MerkleTree.popCount 64 (index.toNat >>> (MerkleTree.innerSize index.toNat size.toNat % 64)) := by
  have narrow := innerSize_le_width inside
  have short : index.toNat < size.toNat := inside
  have shape : lower + MerkleTree.popCount 64 (index.toNat >>> lower) <
    MerkleTree.innerSize index.toNat size.toNat + MerkleTree.popCount 64
      (index.toNat >>> MerkleTree.innerSize index.toNat size.toNat) := MerkleTree.shape_lt short higher
  rw [Nat.mod_eq_of_lt (by omega : lower < 64)]
  by_cases whole : MerkleTree.innerSize index.toNat size.toNat = 64
  · have nothing : index.toNat >>> 64 = 0 := by
      rw [Nat.shiftRight_eq_div_pow]
      exact Nat.div_eq_of_lt index.toNat_lt
    rw [whole, nothing, MerkleTree.popCount_zero] at shape
    rw [whole]
    omega
  · rwa [Nat.mod_eq_of_lt (by omega : MerkleTree.innerSize index.toNat size.toNat < 64)]

section Sizes

variable {O : Type} [DecidableEq O] {hasher : Rfc6269Hasher O} {overflowChecks : Bool}
  {index size size' : UInt64} {leafHash root : O} {proofHashes : List O}

theorem innerProofSize_eq_iff (inside : index < size) (inside' : index < size') :
    innerProofSize index size = innerProofSize index size' ↔
      MerkleTree.innerSize index.toNat size.toNat = MerkleTree.innerSize index.toNat size'.toNat := by
  rw [← UInt64.toNat_inj, toNat_innerProofSize inside, toNat_innerProofSize inside']

/-- The verifier reads no more of the size than the inner part of the path. -/
theorem verifyInclusion_congr (inside : index < size) (inside' : index < size')
    (same : MerkleTree.innerSize index.toNat size.toNat = MerkleTree.innerSize index.toNat size'.toNat) :
    verifyInclusion hasher overflowChecks index leafHash size proofHashes root =
      verifyInclusion hasher overflowChecks index leafHash size' proofHashes root := by
  have inner := (innerProofSize_eq_iff inside inside').mpr same
  have below : ¬ index ≥ size := UInt64.not_le.mpr inside
  have below' : ¬ index ≥ size' := UInt64.not_le.mpr inside'
  simp only [verifyInclusion, rootFromInclusionProof, decompInclusionProof, below, below', if_false, inner]

theorem shiftRight_ok {ε : Type} {value amount shifted : UInt64}
    (passed : (shiftRight overflowChecks value amount : Checked ε UInt64) = .ok shifted) :
    shifted = value >>> amount := by
  unfold shiftRight at passed
  split at passed
  · cases passed
  · exact (Except.ok.inj passed).symm

omit [DecidableEq O] in
theorem length_of_root
    (computed : rootFromInclusionProof hasher overflowChecks index leafHash size proofHashes = .ok root) :
    proofHashes.length =
      (innerProofSize index size + countOnes (index >>> innerProofSize index size)).toNat := by
  by_contra other
  simp only [rootFromInclusionProof, decompInclusionProof] at computed
  split at computed
  · cases computed
  · simp only [bind_ok] at computed
    obtain ⟨⟨inner, border⟩, ⟨upper, shifted, same⟩, computed⟩ := computed
    obtain ⟨rfl, rfl⟩ := Prod.mk.inj (Except.ok.inj same)
    rw [shiftRight_ok shifted] at computed
    simp only [ne_eq, other, not_false_eq_true, if_true, Checked.fail, bind, Except.bind] at computed
    cases computed

theorem length_of_verified
    (verified : verifyInclusion hasher overflowChecks index leafHash size proofHashes root = .ok ()) :
    index < size ∧ proofHashes.length = MerkleTree.innerSize index.toNat size.toNat +
      MerkleTree.popCount 64 (index.toNat >>> (MerkleTree.innerSize index.toNat size.toNat % 64)) := by
  by_cases inside : index < size
  · refine ⟨inside, ?_⟩
    have below : ¬ index ≥ size := UInt64.not_le.mpr inside
    simp only [verifyInclusion, below, if_false, bind_ok] at verified
    obtain ⟨calcRoot, computed, -⟩ := verified
    have ones := popCount_le 64
      (index.toNat >>> (MerkleTree.innerSize index.toNat size.toNat % 64))
    have narrow := innerSize_le_width inside
    rw [length_of_root computed, UInt64.toNat_add, toNat_countOnes, UInt64.toNat_shiftRight,
      toNat_innerProofSize inside]
    apply Nat.mod_eq_of_lt
    omega
  · have beyond : index ≥ size := UInt64.not_lt.mp inside
    simp [verifyInclusion, beyond, Checked.fail, bind, Except.bind] at verified

theorem innerSize_of_verified {leafHash' root' : O}
    (verified : verifyInclusion hasher overflowChecks index leafHash size proofHashes root = .ok ())
    (verified' : verifyInclusion hasher overflowChecks index leafHash' size' proofHashes root' = .ok ()) :
    MerkleTree.innerSize index.toNat size.toNat = MerkleTree.innerSize index.toNat size'.toNat := by
  obtain ⟨inside, length⟩ := length_of_verified verified
  obtain ⟨inside', length'⟩ := length_of_verified verified'
  have same := length.symm.trans length'
  have order := lt_trichotomy (MerkleTree.innerSize index.toNat size.toNat)
    (MerkleTree.innerSize index.toNat size'.toNat)
  obtain lower | equal | higher := order
  · exact absurd same (masked_shape_lt inside' lower).ne
  · exact equal
  · exact absurd same (masked_shape_lt inside higher).ne'

end Sizes

/-! ## The sizes that share a shape -/

/-- With this size an index is in a tree of no other size with a path of the same shape. -/
def SoleSize (index size : Nat) : Prop :=
  size = index + 1 ∨ index % 2 = 0 ∧ size = index + 2 ∨ size = 2 ^ 64 - 1 ∧ 2 ^ 64 - 4 ≤ index

theorem eq_of_soleSize {index size size' : Nat} (inside : index < size) (inside' : index < size')
    (fits' : size' < 2 ^ 64) (sole : SoleSize index size)
    (same : MerkleTree.innerSize index size = MerkleTree.innerSize index size') : size' = size := by
  have level (upper : Nat) : index / 2 ^ upper = (size - 1) / 2 ^ upper ↔
      index / 2 ^ upper = (size' - 1) / 2 ^ upper := by
    rw [← MerkleTree.innerSize_le_iff, ← MerkleTree.innerSize_le_iff, same]
  have zero := level 0
  have one := level 1
  have two := level 2
  simp only [Nat.pow_zero, Nat.div_one, Nat.reducePow] at zero one two
  unfold SoleSize at sole
  omega

theorem exists_other_size {index size : Nat} (inside : index < size) (fits : size < 2 ^ 64)
    (several : ¬ SoleSize index size) :
    ∃ size', index < size' ∧ size' < 2 ^ 64 ∧ size' ≠ size ∧
      MerkleTree.innerSize index size = MerkleTree.innerSize index size' := by
  unfold SoleSize at several
  by_cases last : size = 2 ^ 64 - 1
  · -- The next size does not fit 64 bits, so the last two bits change.
    have same : (size - 1) / 2 ^ 2 = (size - 2 - 1) / 2 ^ 2 := by omega
    exact ⟨size - 2, by omega, by omega, by omega, MerkleTree.innerSize_congr same (by omega)⟩
  · by_cases odd : size % 2 = 1
    · have same : (size - 1) / 2 ^ 1 = (size + 1 - 1) / 2 ^ 1 := by omega
      exact ⟨size + 1, by omega, by omega, by omega, MerkleTree.innerSize_congr same (by omega)⟩
    · have same : (size - 1) / 2 ^ 1 = (size - 1 - 1) / 2 ^ 1 := by omega
      exact ⟨size - 1, by omega, by omega, by omega, MerkleTree.innerSize_congr same (by omega)⟩

/-! ## Bundles that differ in their tree size -/

def treeSizePath : List String :=
  ["verificationMaterial", "tlogEntries", "0", "inclusionProof", "treeSize"]

def withTreeSize (bundle : Value) (text : String) : Value :=
  bundle.alter (fun _ => .string text) treeSizePath

section Variant

variable {primitives : Primitives} {text : String}

def entryVariant (text : String) : Value → Value :=
  Value.alter (fun _ => .string text) ["inclusionProof", "treeSize"]

def proofVariant (text : String) : Value → Value := Value.alter (fun _ => .string text) ["treeSize"]

section Bundle

variable {bundle : Value}

theorem tlogEntry_variant {entry : Value} (read : tlogEntry bundle = .ok entry) :
    tlogEntry (withTreeSize bundle text) = .ok (entryVariant text entry) := by
  have altered : (withTreeSize bundle text).getPath ["verificationMaterial", "tlogEntries"] =
      (bundle.getPath ["verificationMaterial", "tlogEntries"]).map
        (Value.alter (fun _ => .string text) ["0", "inclusionProof", "treeSize"]) :=
    Value.getPath_alter_append _ _
  simp only [tlogEntry, bind_ok, okOrElse_ok, Option.bind_eq_some_iff] at read ⊢
  obtain ⟨entries, ⟨holder, found, isArray⟩, sole⟩ := read
  obtain rfl : entries = [entry] := by
    split at sole
    · cases sole
      rfl
    · cases sole
  obtain rfl : holder = .array [entry] := by
    cases holder with
    | array items => rw [Option.some.inj isArray]
    | _ => cases isArray
  rw [found] at altered
  exact ⟨[entryVariant text entry], ⟨_, altered, rfl⟩, rfl⟩

theorem envelope_variant : (withTreeSize bundle text).get "dsseEnvelope" = bundle.get "dsseEnvelope" :=
  Value.get_alter_other bundle (by decide)

theorem material_variant {key : String} (other : key ≠ "tlogEntries") (keys : List String) :
    (withTreeSize bundle text).getPath ("verificationMaterial" :: key :: keys) =
      bundle.getPath ("verificationMaterial" :: key :: keys) :=
  Value.getPath_alter_fork ["verificationMaterial"] other keys bundle

theorem bundleDsseSignature_variant :
    bundleDsseSignature primitives (withTreeSize bundle text) = bundleDsseSignature primitives bundle := by
  rw [bundleDsseSignature, bundleDsseSignature, withTreeSize, treeSizePath,
    Value.pointer_alter_other (by decide) (by decide)]

theorem verifyTimestamps_variant (signature : Bytes) (authorities : List TimestampAuthority) :
    verifyTimestamps primitives (withTreeSize bundle text) signature authorities =
      verifyTimestamps primitives bundle signature authorities := by
  have same : rfc3161Timestamps (withTreeSize bundle text) = rfc3161Timestamps bundle := by
    rw [rfc3161Timestamps, rfc3161Timestamps, material_variant (by decide)]
  rw [verifyTimestamps, verifyTimestamps, same]

theorem verifyCertificateBinding_variant (bodyBytes : Bytes) :
    verifyCertificateBinding primitives (withTreeSize bundle text) bodyBytes =
      verifyCertificateBinding primitives bundle bodyBytes := by
  have same : bundleCertificate primitives (withTreeSize bundle text) =
      bundleCertificate primitives bundle := by
    rw [bundleCertificate, bundleCertificate, strAt, strAt, material_variant (by decide)]
  rw [verifyCertificateBinding, verifyCertificateBinding, same]

theorem verifySignatureBinding_variant (bodyBytes : Bytes) :
    verifySignatureBinding primitives (withTreeSize bundle text) bodyBytes =
      verifySignatureBinding primitives bundle bodyBytes := by
  rw [verifySignatureBinding, verifySignatureBinding, bundleDsseSignature_variant]

theorem verifyPayloadHashBinding_variant (bodyBytes : Bytes) :
    verifyPayloadHashBinding primitives (withTreeSize bundle text) bodyBytes =
      verifyPayloadHashBinding primitives bundle bodyBytes := by
  simp only [verifyPayloadHashBinding, verifyPaeDigest, verifyPayloadHash, strAt, Value.getPath,
    envelope_variant]

end Bundle

section Entry

variable {entry : Value}

theorem get_entryVariant {key : String} (other : key ≠ "inclusionProof") :
    (entryVariant text entry).get key = entry.get key := Value.get_alter_other entry other

theorem index_entryVariant {key : String} (other : key ≠ "inclusionProof") :
    (entryVariant text entry).index key = entry.index key := Value.index_alter_other other entry

theorem pointer_entryVariant {key : String} (member : Value.parseIndex key = none)
    (other : key ≠ "inclusionProof") (keys : List String) :
    (entryVariant text entry).pointer (key :: keys) = entry.pointer (key :: keys) :=
  Value.pointer_alter_other member other keys entry

theorem canonicalizedBody_variant : canonicalizedBody (entryVariant text entry) = canonicalizedBody entry := by
  simp (disch := decide) only [canonicalizedBody, get_entryVariant]

theorem verifyKindVersion_variant (bodyBytes : Bytes) :
    verifyKindVersion primitives (entryVariant text entry) bodyBytes =
      verifyKindVersion primitives entry bodyBytes := by
  simp (disch := decide) only [verifyKindVersion, get_entryVariant]

theorem entryKind_variant : entryKind (entryVariant text entry) = entryKind entry := by
  simp (disch := decide) only [entryKind, index_entryVariant]

theorem entryVersion_variant : entryVersion (entryVariant text entry) = entryVersion entry := by
  simp (disch := decide) only [entryVersion, index_entryVariant]

theorem observerTime_variant (kind version : String) (times : List UInt64) (errors : List Error)
    (certNotBefore certNotAfter : UInt64) :
    observerTime (entryVariant text entry) kind version times errors certNotBefore certNotAfter =
      observerTime entry kind version times errors certNotBefore certNotAfter := by
  simp (disch := decide) only [observerTime, signedEntryTimestamp, pointer_entryVariant, get_entryVariant]
  rfl

theorem logId_variant :
    strAt (entryVariant text entry) ["logId", "keyId"] = strAt entry ["logId", "keyId"] := by
  simp (disch := decide) only [strAt, Value.getPath, get_entryVariant]

theorem verifyInclusionPromise_variant (rekorKey : RekorKey) :
    verifyInclusionPromise primitives (entryVariant text entry) rekorKey =
      verifyInclusionPromise primitives entry rekorKey := by
  simp (disch := decide) only [verifyInclusionPromise, verifySignedEntryTimestamp, entryVersion_variant,
    get_entryVariant, fieldAt, intFieldAt, pointer_entryVariant]

theorem inclusionProof_variant {proof : Value} (read : inclusionProof entry = .ok proof) :
    inclusionProof (entryVariant text entry) = .ok (proofVariant text proof) := by
  simp only [inclusionProof, okOrElse_ok] at read ⊢
  rw [entryVariant, Value.get_alter_same, read]
  rfl

end Entry

section Proof

variable {proof : Value}

theorem get_proofVariant {key : String} (other : key ≠ "treeSize") :
    (proofVariant text proof).get key = proof.get key := Value.get_alter_other proof other

theorem checkpointText_variant : checkpointText (proofVariant text proof) = checkpointText proof := by
  simp (disch := decide) only [checkpointText, strAt, Value.getPath, get_proofVariant]

theorem rootHash_variant :
    rootHash primitives (proofVariant text proof) = rootHash primitives proof := by
  simp (disch := decide) only [rootHash, strAt, Value.getPath, get_proofVariant]

theorem logIndex_variant : logIndex (proofVariant text proof) = logIndex proof := by
  simp (disch := decide) only [logIndex, proofNumber, strAt, Value.getPath, get_proofVariant]

theorem proofHashes_variant :
    proofHashes primitives (proofVariant text proof) = proofHashes primitives proof := by
  simp (disch := decide) only [proofHashes, get_proofVariant]

theorem treeSize_variant {size : UInt64} (read : treeSize proof = .ok size) (size' : UInt64) :
    treeSize (proofVariant text proof) = .ok size' ↔ parseU64 text = some size' := by
  simp only [treeSize, proofNumber, okOrElse_ok, strAt, Value.getPath] at read ⊢
  rw [proofVariant, Value.get_alter_same]
  cases found : proof.get "treeSize" with
  | none => simp [found] at read
  | some old => rfl

end Proof

end Variant

/-! ## The bundles that one log entry makes -/

section Family

variable {verifier : Verifier} {bundle : Value} {text : String}

theorem accepts_variant (accepted : verifier.Acceptance bundle) {size : UInt64}
    (parsed : parseU64 text = some size)
    (included : verifyInclusion (rfc6269Default verifier.primitives) verifier.overflowChecks accepted.index
      ((rfc6269Default verifier.primitives).hashLeaf accepted.bodyBytes) size accepted.outputs
      accepted.rootOutput = .ok ()) : verifier.Accepts (withTreeSize bundle text) := by
  refine Verifier.accepts_iff.mpr ⟨{
    entry := entryVariant text accepted.entry
    bodyB64 := accepted.bodyB64
    bodyBytes := accepted.bodyBytes
    signature := accepted.signature
    tsaTimes := accepted.tsaTimes
    tsaErrors := accepted.tsaErrors
    time := accepted.time
    proof := proofVariant text accepted.proof
    logId := accepted.logId
    logIdBytes := accepted.logIdBytes
    rekorKey := accepted.rekorKey
    envelope := accepted.envelope
    checkpoint := accepted.checkpoint
    root := accepted.root
    index := accepted.index
    size := size
    hashes := accepted.hashes
    outputs := accepted.outputs
    rootOutput := accepted.rootOutput
    readEntry := tlogEntry_variant accepted.readEntry
    readBody := canonicalizedBody_variant.trans accepted.readBody
    decodedBody := accepted.decodedBody
    kindVersion := (verifyKindVersion_variant _).trans accepted.kindVersion
    readSignature := bundleDsseSignature_variant.trans accepted.readSignature
    timestamps := (verifyTimestamps_variant _ _).trans accepted.timestamps
    inWindow := accepted.inWindow
    observed := by
      rw [observerTime_variant, entryKind_variant, entryVersion_variant]
      exact accepted.observed
    readProof := inclusionProof_variant accepted.readProof
    readLogId := logId_variant.trans accepted.readLogId
    decodedLogId := accepted.decodedLogId
    foundKey := accepted.foundKey
    readCheckpoint := checkpointText_variant.trans accepted.readCheckpoint
    promise := (verifyInclusionPromise_variant _).trans accepted.promise
    decodedCheckpoint := accepted.decodedCheckpoint
    signed := accepted.signed
    readRoot := rootHash_variant.trans accepted.readRoot
    sameRoot := accepted.sameRoot
    readIndex := logIndex_variant.trans accepted.readIndex
    readSize := (treeSize_variant accepted.readSize size).mpr parsed
    readHashes := proofHashes_variant.trans accepted.readHashes
    certificateBound := (verifyCertificateBinding_variant _).trans accepted.certificateBound
    signatureBound := (verifySignatureBinding_variant _).trans accepted.signatureBound
    payloadBound := (verifyPayloadHashBinding_variant _).trans accepted.payloadBound
    wholeHashes := accepted.wholeHashes
    wholeRoot := accepted.wholeRoot
    included := included }⟩

theorem included_of_accepts_variant (accepted : verifier.Acceptance bundle)
    (variant : verifier.Acceptance (withTreeSize bundle text)) :
    parseU64 text = some variant.size ∧
      ∃ leafHash rootOutput, verifyInclusion (rfc6269Default verifier.primitives) verifier.overflowChecks
        accepted.index leafHash variant.size accepted.outputs rootOutput = .ok () := by
  have sameEntry : variant.entry = entryVariant text accepted.entry :=
    Except.ok.inj (variant.readEntry.symm.trans (tlogEntry_variant accepted.readEntry))
  have sameProof : variant.proof = proofVariant text accepted.proof := by
    have read := variant.readProof
    rw [sameEntry, inclusionProof_variant accepted.readProof] at read
    exact (Except.ok.inj read).symm
  have sameIndex : variant.index = accepted.index := by
    have read := variant.readIndex
    rw [sameProof, logIndex_variant, accepted.readIndex] at read
    exact (Except.ok.inj read).symm
  have sameHashes : variant.hashes = accepted.hashes := by
    have read := variant.readHashes
    rw [sameProof, proofHashes_variant, accepted.readHashes] at read
    exact (Except.ok.inj read).symm
  have sameOutputs : variant.outputs = accepted.outputs := by
    have whole := variant.wholeHashes
    rw [sameHashes, accepted.wholeHashes] at whole
    exact (Except.ok.inj whole).symm
  have readSize := variant.readSize
  rw [sameProof, treeSize_variant accepted.readSize] at readSize
  have included := variant.included
  rw [sameIndex, sameOutputs] at included
  exact ⟨readSize, _, _, included⟩

end Family

/-- Every accepted bundle with the entry of this one names the signed size exactly if this one does and
no other size has a path of the same shape. -/
theorem signed_size_decides (verifier : Verifier) (bundle : Value) (accepts : verifier.Accepts bundle) :
    ∃ accepted : verifier.Acceptance bundle,
      (∀ text, verifier.Accepts (withTreeSize bundle text) →
        parseU64 text = some accepted.checkpoint.note.size) ↔
      accepted.size = accepted.checkpoint.note.size ∧
        SoleSize accepted.index.toNat accepted.checkpoint.note.size.toNat := by
  obtain ⟨accepted⟩ := Verifier.accepts_iff.mp accepts
  obtain ⟨inside, -⟩ := length_of_verified accepted.included
  -- Any size of the same inner part is accepted.
  have others {size' : UInt64} (inside' : accepted.index < size')
      (same : MerkleTree.innerSize accepted.index.toNat accepted.size.toNat =
        MerkleTree.innerSize accepted.index.toNat size'.toNat) :
      verifier.Accepts (withTreeSize bundle (toString size'.toNat)) := by
    apply accepts_variant accepted (parseU64_toString size')
    rw [← verifyInclusion_congr inside inside' same]
    exact accepted.included
  refine ⟨accepted, ?_, ?_⟩
  · intro signedOnly
    have own := signedOnly _ (others inside rfl)
    rw [parseU64_toString] at own
    have signed := Option.some.inj own
    refine ⟨signed, ?_⟩
    by_contra several
    rw [← signed] at several
    obtain ⟨size', inside', fits', other, same⟩ :=
      exists_other_size (UInt64.lt_iff_toNat_lt.mp inside) accepted.size.toNat_lt several
    obtain ⟨size', rfl⟩ : ∃ word : UInt64, word.toNat = size' :=
      ⟨.ofNat size', UInt64.toNat_ofNat_of_lt' fits'⟩
    have named := signedOnly _ (others (UInt64.lt_iff_toNat_lt.mpr inside') same)
    rw [parseU64_toString, ← signed] at named
    exact other (congrArg UInt64.toNat (Option.some.inj named))
  · rintro ⟨signed, sole⟩ text acceptsText
    obtain ⟨variant⟩ := Verifier.accepts_iff.mp acceptsText
    obtain ⟨parsed, leafHash, rootOutput, included⟩ := included_of_accepts_variant accepted variant
    obtain ⟨inside', -⟩ := length_of_verified included
    have same := innerSize_of_verified accepted.included included
    rw [← signed] at sole
    have equal := eq_of_soleSize inside inside' variant.size.toNat_lt sole same
    rw [parsed, ← signed, UInt64.toNat_inj.mp equal]

/-- Under the head of one entry no other size is accepted, under that of three one is. -/
theorem signed_size_decides_sample :
    (∃ accepted : Sample.verifier.Acceptance (Sample.headBundle .one "1"),
      accepted.size = accepted.checkpoint.note.size ∧
        SoleSize accepted.index.toNat accepted.checkpoint.note.size.toNat ∧
        ∀ text, Sample.verifier.Accepts (withTreeSize (Sample.headBundle .one "1") text) →
          parseU64 text = some accepted.checkpoint.note.size) ∧
      ∃ accepted : Sample.verifier.Acceptance (Sample.bundle "3"),
        accepted.size = accepted.checkpoint.note.size ∧
          ¬ SoleSize accepted.index.toNat accepted.checkpoint.note.size.toNat ∧
          ¬ ∀ text, Sample.verifier.Accepts (withTreeSize (Sample.bundle "3") text) →
            parseU64 text = some accepted.checkpoint.note.size := by
  constructor
  · have parsed : parseU64 "1" = some 1 := by decide
    obtain ⟨accepted, decided⟩ := signed_size_decides Sample.verifier (Sample.headBundle .one "1")
      (Verifier.accepts_iff.mpr ⟨Sample.headAcceptance .one parsed Sample.includedAlone⟩)
    obtain rfl : accepted = Sample.headAcceptance .one parsed Sample.includedAlone := Subsingleton.elim _ _
    have sole : SoleSize 0 1 := .inl rfl
    exact ⟨Sample.headAcceptance .one parsed Sample.includedAlone, rfl, sole, decided.mpr ⟨rfl, sole⟩⟩
  · have parsed : parseU64 "3" = some 3 := by decide
    obtain ⟨accepted, decided⟩ := signed_size_decides Sample.verifier (Sample.bundle "3")
      (Sample.accepts parsed (.inl rfl))
    obtain rfl : accepted = Sample.acceptance parsed (.inl rfl) := Subsingleton.elim _ _
    have several : ¬ SoleSize 0 3 := by simp [SoleSize]
    exact ⟨Sample.acceptance parsed (.inl rfl), rfl, several, fun signedOnly => several (decided.mp signedOnly).2⟩

/-- A bundle that names four entries is accepted with a checkpoint over three. -/
theorem accepted_at_unsigned_size :
    Sample.verifier.Accepts (Sample.bundle "4") ∧
      ∃ accepted : Sample.verifier.Acceptance (Sample.bundle "4"),
        accepted.size = 4 ∧ accepted.checkpoint.note.size = 3 := by
  have parsed : parseU64 "4" = some 4 := by decide
  exact ⟨Sample.accepts parsed (.inr rfl), Sample.acceptance parsed (.inr rfl), rfl, rfl⟩

end Tinfoil.Sigstore
