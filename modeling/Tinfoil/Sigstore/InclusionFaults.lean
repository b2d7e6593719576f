import Tinfoil.Sigstore.TreeSize

/-! # Faults of the inclusion verifier

`Faulting` is the inclusion verifier with every subtraction, addition, shift and slice checked; the
plain one of `Merkle` has a check for one of its shifts only.  The two agree, and nothing faults, for
exactly the sizes that do not part from the index in the highest of the 64 bits
(`inclusion_safe_iff`): there `inner` is 64 and `index >> inner` overflows.
-/

namespace Tinfoil.Sigstore

open Json (Value)

/-! ## Checked operations -/

def checkedSub {ε : Type} (left right : UInt64) : Checked ε UInt64 :=
  if left < right then .error .panic else .ok (left - right)

def checkedAdd {ε : Type} (left right : UInt64) : Checked ε UInt64 :=
  if UInt64.size ≤ left.toNat + right.toNat then .error .panic else .ok (left + right)

/-- `&items[..bound]`. -/
def sliceTo {ε O : Type} (items : List O) (bound : Nat) : Checked ε (List O) :=
  if items.length < bound then .error .panic else .ok (items.take bound)

/-- `&items[bound..]`. -/
def sliceFrom {ε O : Type} (items : List O) (bound : Nat) : Checked ε (List O) :=
  if items.length < bound then .error .panic else .ok (items.drop bound)

namespace Faulting

variable {ε : Type}

def innerProofSize (index treeSize : UInt64) : Checked ε UInt64 := do
  let last ← checkedSub treeSize 1
  checkedSub 64 (leadingZeros (index ^^^ last))

def decompInclusionProof (index treeSize : UInt64) : Checked ε (UInt64 × UInt64) := do
  let inner ← innerProofSize index treeSize
  let upper ← shiftRight true index inner
  return (inner, countOnes upper)

variable {O : Type} (hasher : Rfc6269Hasher O)

def chainInner (seed : O) (proofHashes : List O) (index : UInt64) : Checked ε O :=
  proofHashes.zipIdx.foldlM (fun seed entry => do
    let shifted ← shiftRight true index (.ofNat entry.2)
    return if shifted &&& 1 = 0 then hasher.node seed entry.1 else hasher.node entry.1 seed) seed

def rootFromInclusionProof (index : UInt64) (leafHash : O) (treeSize : UInt64) (proofHashes : List O) :
    Checked MerkleProofError O := do
  if index ≥ treeSize then Checked.fail .indexGtTreeSize
  let (inner, border) ← decompInclusionProof index treeSize
  let want ← checkedAdd inner border
  if proofHashes.length ≠ want.toNat then
    Checked.fail (.wrongProofSize proofHashes.length want.toNat)
  let lower ← sliceTo proofHashes inner.toNat
  let left ← chainInner hasher leafHash lower index
  let upper ← sliceFrom proofHashes inner.toNat
  return chainBorderRight hasher left upper

end Faulting

/-! ## Where nothing faults -/

section Faults

variable {O : Type} {hasher : Rfc6269Hasher O} {index treeSize : UInt64}

theorem faulting_innerProofSize {ε : Type} (inside : index < treeSize) :
    (Faulting.innerProofSize index treeSize : Checked ε UInt64) = .ok (innerProofSize index treeSize) := by
  have short : index.toNat < treeSize.toNat := inside
  have nonempty : ¬ treeSize < 1 := by
    rw [UInt64.lt_iff_toNat_lt]
    show ¬ treeSize.toNat < 1
    omega
  have zeros : ¬ 64 < leadingZeros (index ^^^ (treeSize - 1)) := by
    rw [UInt64.lt_iff_toNat_lt, leadingZeros, UInt64.toNat_ofNat_of_lt']
    · show ¬ 64 < 64 - _
      omega
    · show _ < 18446744073709551616
      omega
  simp [Faulting.innerProofSize, checkedSub, nonempty, zeros, innerProofSize, bind, Except.bind]

/-- The only shift that can overflow is the one by the inner part. -/
theorem faulting_decompInclusionProof {ε : Type} (inside : index < treeSize) :
    (Faulting.decompInclusionProof index treeSize : Checked ε _) =
      decompInclusionProof true index treeSize := by
  simp only [Faulting.decompInclusionProof, faulting_innerProofSize inside]
  rfl

theorem shiftRight_of_lt {ε : Type} (overflowChecks : Bool) {value amount : UInt64}
    (small : amount < 64) : (shiftRight overflowChecks value amount : Checked ε UInt64) =
      .ok (value >>> amount) := by
  simp [shiftRight, UInt64.not_le.mpr small]

/-- Up to 64 levels no shift of `chain_inner` overflows. -/
theorem faulting_chainInner {ε : Type} (seed : O) (proofHashes : List O) (index : UInt64)
    (short : proofHashes.length ≤ 64) :
    (Faulting.chainInner hasher seed proofHashes index : Checked ε O) =
      .ok (chainInner hasher seed proofHashes index) := by
  have levels (start : Nat) (seed : O) (proofHashes : List O)
      (short : start + proofHashes.length ≤ 64) :
      ((proofHashes.zipIdx start).foldlM (fun seed entry => do
        let shifted ← shiftRight true index (.ofNat entry.2)
        return if shifted &&& 1 = 0 then hasher.node seed entry.1 else hasher.node entry.1 seed) seed :
          Checked ε O) =
      .ok ((proofHashes.zipIdx start).foldl (fun seed entry =>
        if (index >>> UInt64.ofNat entry.2) &&& 1 = 0 then hasher.node seed entry.1
        else hasher.node entry.1 seed) seed) := by
    induction proofHashes generalizing start seed with
    | nil => rfl
    | cons hash rest ih =>
      simp only [List.length_cons] at short
      have small : UInt64.ofNat start < 64 := by
        rw [UInt64.lt_iff_toNat_lt,
          UInt64.toNat_ofNat_of_lt' (by show _ < 18446744073709551616; omega)]
        show start < 64
        omega
      simp only [List.zipIdx_cons, List.foldlM_cons, List.foldl_cons, shiftRight_of_lt true small]
      exact ih (start + 1) _ (by omega)
  exact levels 0 seed proofHashes (by omega)

theorem decompInclusionProof_of_lt {ε : Type} (overflowChecks : Bool)
    (narrow : innerProofSize index treeSize < 64) :
    (decompInclusionProof overflowChecks index treeSize : Checked ε _) =
      .ok (innerProofSize index treeSize, countOnes (index >>> innerProofSize index treeSize)) := by
  simp only [decompInclusionProof, shiftRight_of_lt overflowChecks narrow]
  rfl

theorem checkedAdd_levels {ε : Type} {inner : UInt64} (narrow : inner < 64) (value : UInt64) :
    (checkedAdd inner (countOnes value) : Checked ε UInt64) = .ok (inner + countOnes value) ∧
      inner.toNat ≤ (inner + countOnes value).toNat := by
  have ones := popCount_le 64 value.toNat
  have levels : inner.toNat < 64 := narrow
  have exactly : (inner + countOnes value).toNat =
      inner.toNat + MerkleTree.popCount 64 value.toNat := by
    rw [UInt64.toNat_add, toNat_countOnes]
    apply Nat.mod_eq_of_lt
    omega
  constructor
  · have fits : ¬ UInt64.size ≤ inner.toNat + (countOnes value).toNat := by
      rw [toNat_countOnes, UInt64.size]
      omega
    simp [checkedAdd, fits]
  · omega

variable (hasher) in
/-- Below 64 inner levels nothing faults, and the plain verifier computes the same in either build
profile. -/
theorem faulting_root (overflowChecks : Bool) (leafHash : O) (proofHashes : List O)
    (inside : index < treeSize) (narrow : innerProofSize index treeSize < 64) :
    Faulting.rootFromInclusionProof hasher index leafHash treeSize proofHashes ≠ .error .panic ∧
      rootFromInclusionProof hasher overflowChecks index leafHash treeSize proofHashes =
        Faulting.rootFromInclusionProof hasher index leafHash treeSize proofHashes := by
  have within : ¬ index ≥ treeSize := UInt64.not_le.mpr inside
  obtain ⟨sum, atLeast⟩ := checkedAdd_levels (ε := MerkleProofError) narrow
    (index >>> innerProofSize index treeSize)
  simp only [Faulting.rootFromInclusionProof, rootFromInclusionProof, within, if_false,
    faulting_decompInclusionProof inside, decompInclusionProof_of_lt _ narrow, bind, Except.bind,
    sum, pure, Except.pure]
  generalize (innerProofSize index treeSize +
    countOnes (index >>> innerProofSize index treeSize)).toNat = want at atLeast
  by_cases whole : proofHashes.length = want
  · -- Both slices end at the inner part, which the length check has covered.
    have inRange : ¬ proofHashes.length < (innerProofSize index treeSize).toNat := by omega
    have levels : (innerProofSize index treeSize).toNat < 64 := narrow
    have short : (proofHashes.take (innerProofSize index treeSize).toNat).length ≤ 64 := by
      rw [List.length_take]
      omega
    subst whole
    simp only [ne_eq, not_true_eq_false, if_false, sliceTo, sliceFrom, inRange,
      faulting_chainInner _ _ _ short]
    exact ⟨(by intro same; cases same), trivial⟩
  · simp only [whole, ne_eq, not_false_eq_true, if_true, Checked.fail]
    exact ⟨(by intro same; cases same), trivial⟩

theorem faulting_root_wide (leafHash : O) (proofHashes : List O) (inside : index < treeSize)
    (wide : ¬ innerProofSize index treeSize < 64) :
    Faulting.rootFromInclusionProof hasher index leafHash treeSize proofHashes = .error .panic := by
  have within : ¬ index ≥ treeSize := UInt64.not_le.mpr inside
  have overflow : 64 ≤ innerProofSize index treeSize := UInt64.not_lt.mp wide
  simp [Faulting.rootFromInclusionProof, within, faulting_decompInclusionProof inside,
    decompInclusionProof, shiftRight, overflow, bind, Except.bind]

end Faults

/-! ## The sizes that fault -/

/-- There are 64 inner levels when the highest bits of the index and of the last leaf differ. -/
theorem innerProofSize_lt_iff {index treeSize : UInt64} (inside : index < treeSize) :
    innerProofSize index treeSize < 64 ↔ treeSize.toNat ≤ 2 ^ 63 ∨ 2 ^ 63 ≤ index.toNat := by
  have short : index.toNat < treeSize.toNat := inside
  have fits := treeSize.toNat_lt
  have levels : innerProofSize index treeSize < 64 ↔
      MerkleTree.innerSize index.toNat treeSize.toNat ≤ 63 := by
    rw [UInt64.lt_iff_toNat_lt, toNat_innerProofSize inside]
    exact Nat.lt_succ_iff
  rw [levels, MerkleTree.innerSize_le_iff]
  omega

theorem requiredLength_eq {O : Type} (hasher : Rfc6269Hasher O) {index treeSize : UInt64}
    (inside : index < treeSize) (narrow : innerProofSize index treeSize < 64) (entries : List Bytes)
    (size : entries.length = treeSize.toNat) :
    (innerProofSize index treeSize + countOnes (index >>> innerProofSize index treeSize)).toNat =
      (hasher.auditPath index.toNat entries).length := by
  have short : index.toNat < entries.length := by rw [size]; exact inside
  have found : entries[index.toNat]? = some entries[index.toNat] := List.getElem?_eq_getElem short
  have fits : entries.length ≤ 2 ^ 64 := by rw [size]; exact treeSize.toNat_lt.le
  have path : (MerkleTree.path hasher.hashLeaf hasher.node hasher.emptyRoot index.toNat entries).length =
    MerkleTree.pathSize 64 index.toNat entries.length :=
      (MerkleTree.computedRoot_path entries index.toNat fits found).1
  have levels : MerkleTree.innerSize index.toNat treeSize.toNat < 64 := by
    rw [← toNat_innerProofSize inside]
    exact narrow
  have ones := popCount_le 64 (index.toNat >>> MerkleTree.innerSize index.toNat treeSize.toNat)
  rw [Rfc6269Hasher.auditPath, path, size, UInt64.toNat_add, toNat_countOnes, UInt64.toNat_shiftRight,
    toNat_innerProofSize inside, Nat.mod_eq_of_lt levels]
  apply Nat.mod_eq_of_lt
  omega

/-! ## Whole bundles -/

/-- Both build profiles end alike, and not in a panic. -/
def Unfaulted {ε α : Type} (release checked : Checked ε α) : Prop :=
  release = checked ∧ checked ≠ .error .panic

theorem Unfaulted.bind {ε α β : Type} {first : Except ε α} {release checked : α → Checked ε β}
    (next : ∀ value, first = .ok value → Unfaulted (release value) (checked value)) :
    Unfaulted ((liftM first : Checked ε α) >>= release) ((liftM first : Checked ε α) >>= checked) := by
  cases first with
  | error error => exact ⟨rfl, by intro same; cases same⟩
  | ok value => exact next value rfl

theorem Unfaulted.mapError {ε ε' α : Type} {change : ε → ε'} {release checked : Checked ε α}
    (unfaulted : Unfaulted release checked) :
    Unfaulted (release.mapError change) (checked.mapError change) := by
  obtain ⟨rfl, unpanicked⟩ := unfaulted
  refine ⟨rfl, ?_⟩
  rcases release with (error | _) | value
  · intro same; cases same
  · exact absurd rfl unpanicked
  · intro same; cases same

theorem verifyInclusion_unfaulted {O : Type} [DecidableEq O] (hasher : Rfc6269Hasher O)
    {index size : UInt64} (narrow : index < size → innerProofSize index size < 64) (leafHash rootHash : O)
    (proofHashes : List O) :
    Unfaulted (verifyInclusion hasher false index leafHash size proofHashes rootHash)
      (verifyInclusion hasher true index leafHash size proofHashes rootHash) := by
  by_cases inside : index < size
  · have within : ¬ index ≥ size := UInt64.not_le.mpr inside
    obtain ⟨unpanicked, release⟩ := faulting_root hasher false leafHash proofHashes inside (narrow inside)
    have checked := (faulting_root hasher true leafHash proofHashes inside (narrow inside)).2
    rw [← checked] at unpanicked
    simp only [verifyInclusion, within, if_false, release, ← checked]
    refine ⟨rfl, ?_⟩
    rcases computed : rootFromInclusionProof hasher true index leafHash size proofHashes with
      (error | _) | root
    · intro same; cases same
    · exact absurd computed unpanicked
    · -- A root that differs is an error, not a panic.
      by_cases same : root = rootHash <;> simp [bind, Except.bind, same, pure, Except.pure, Checked.fail]
  · have beyond : index ≥ size := UInt64.not_lt.mp inside
    simp only [verifyInclusion, beyond, if_true]
    exact ⟨rfl, by intro same; cases same⟩

def NamesSizes (bundle : Value) (index size : UInt64) : Prop :=
  ∃ entry proof, tlogEntry bundle = .ok entry ∧ inclusionProof entry = .ok proof ∧
    logIndex proof = .ok index ∧ treeSize proof = .ok size

theorem NamesSizes.unique {bundle : Value} {index index' size size' : UInt64}
    (names : NamesSizes bundle index size) (names' : NamesSizes bundle index' size') :
    index = index' ∧ size = size' := by
  obtain ⟨entry, proof, readEntry, readProof, readIndex, readSize⟩ := names
  obtain ⟨entry', proof', readEntry', readProof', readIndex', readSize'⟩ := names'
  obtain rfl := Except.ok.inj (readEntry.symm.trans readEntry')
  obtain rfl := Except.ok.inj (readProof.symm.trans readProof')
  exact ⟨Except.ok.inj (readIndex.symm.trans readIndex'), Except.ok.inj (readSize.symm.trans readSize')⟩

/-- A bundle can fault only through the sizes that it names. -/
theorem verifyRekorEntry_unfaulted (primitives : Primitives) {bundle : Value}
    (narrow : ∀ index size, NamesSizes bundle index size → index < size → innerProofSize index size < 64)
    (certNotBefore certNotAfter : UInt64) (rekorKeys : List RekorKey)
    (timestampAuthorities : List TimestampAuthority) :
    Unfaulted
      (verifyRekorEntryWithTrust primitives false bundle certNotBefore certNotAfter rekorKeys timestampAuthorities)
      (verifyRekorEntryWithTrust primitives true bundle certNotBefore certNotAfter rekorKeys timestampAuthorities) := by
  unfold verifyRekorEntryWithTrust
  apply Unfaulted.bind; intro entry readEntry
  iterate 7 (apply Unfaulted.bind; intro _ _)
  apply Unfaulted.bind; intro proof readProof
  iterate 9 (apply Unfaulted.bind; intro _ _)
  apply Unfaulted.bind; intro index readIndex
  apply Unfaulted.bind; intro size readSize
  iterate 6 (apply Unfaulted.bind; intro _ _)
  apply Unfaulted.mapError
  apply verifyInclusion_unfaulted
  exact narrow index size ⟨entry, proof, readEntry, readProof, readIndex, readSize⟩

/-! ## The sizes without a fault -/

structure InclusionSafe (index treeSize : UInt64) : Prop where
  /-- The shift amount of `decomp_inclusion_proof`. -/
  shift : innerProofSize index treeSize < 64
  /-- With every operation checked, no proof makes one of them fault. -/
  unfaulted : ∀ {O : Type} (hasher : Rfc6269Hasher O) leafHash proofHashes,
    Faulting.rootFromInclusionProof hasher index leafHash treeSize proofHashes ≠ .error .panic
  /-- So nothing wraps in a build without the checks. -/
  unwrapped : ∀ {O : Type} (hasher : Rfc6269Hasher O) overflowChecks leafHash proofHashes,
    rootFromInclusionProof hasher overflowChecks index leafHash treeSize proofHashes =
      Faulting.rootFromInclusionProof hasher index leafHash treeSize proofHashes
  /-- The required length is that of the RFC 6962 audit path. -/
  length : ∀ {O : Type} (hasher : Rfc6269Hasher O) entries inner border,
    entries.length = treeSize.toNat →
    (decompInclusionProof false index treeSize : Checked Unit _) = .ok (inner, border) →
      (inner + border).toNat = (hasher.auditPath index.toNat entries).length
  /-- No bundle with these sizes makes the verifier panic, or depend on the build profile. -/
  bundles : ∀ primitives bundle certNotBefore certNotAfter rekorKeys timestampAuthorities,
    NamesSizes bundle index treeSize → Unfaulted
      (verifyRekorEntryWithTrust primitives false bundle certNotBefore certNotAfter rekorKeys timestampAuthorities)
      (verifyRekorEntryWithTrust primitives true bundle certNotBefore certNotAfter rekorKeys timestampAuthorities)

/-- Inclusion verification is free of faults unless the index lies below `2^63` and the tree
reaches beyond it. -/
theorem inclusion_safe_iff {index treeSize : UInt64} (inside : index < treeSize) :
    InclusionSafe index treeSize ↔ treeSize.toNat ≤ 2 ^ 63 ∨ 2 ^ 63 ≤ index.toNat := by
  rw [← innerProofSize_lt_iff inside]
  constructor
  · exact fun safe => safe.shift
  · intro narrow
    constructor
    case shift => exact narrow
    case unfaulted =>
      intro O hasher leafHash proofHashes
      exact (faulting_root hasher true leafHash proofHashes inside narrow).1
    case unwrapped =>
      intro O hasher overflowChecks leafHash proofHashes
      exact (faulting_root hasher overflowChecks leafHash proofHashes inside narrow).2
    case length =>
      intro O hasher entries inner border size decomposed
      rw [decompInclusionProof_of_lt false narrow] at decomposed
      obtain ⟨rfl, rfl⟩ := Prod.mk.inj (Except.ok.inj decomposed)
      exact requiredLength_eq hasher inside narrow entries size
    case bundles =>
      intro primitives bundle certNotBefore certNotAfter rekorKeys timestampAuthorities names
      apply verifyRekorEntry_unfaulted
      intro other size names' _
      obtain ⟨rfl, rfl⟩ := names.unique names'
      exact narrow

/-- A log of `2^63` entries is verified without a fault, one of an entry more is not. -/
theorem inclusion_safe_samples :
    InclusionSafe 9223372036854775807 9223372036854775808 ∧ ¬ InclusionSafe 0 9223372036854775809 := by
  constructor
  · exact (inclusion_safe_iff (by decide)).mpr (.inl (by decide))
  · exact fun safe => absurd ((inclusion_safe_iff (by decide)).mp safe) (by decide)

theorem lift_bind_of_ok {ε α β : Type} {first : Except ε α} {value : α} {next : α → Checked ε β}
    (passed : first = .ok value) : ((liftM first : Checked ε α) >>= next) = next value := by
  rw [passed]
  rfl

namespace Sample

theorem verified_to_inclusion (overflowChecks : Bool) {text : String} {size : UInt64}
    (parsed : parseU64 text = some size) :
    verifyRekorEntryWithTrust primitives overflowChecks (bundle text) 100 200 [rekorKey] [] =
      (verifyInclusion (rfc6269Default primitives) overflowChecks 0
        ((rfc6269Default primitives).hashLeaf bodyBytes) size Head.three.path Head.three.hash).mapError
          fun error => .sigstoreVerification ("Merkle inclusion proof verification failed: " ++ error.display) := by
  have readSize : treeSize (proof .three text) = .ok size := okOrElse_ok.mpr parsed
  -- All the checks before the path pass, one after the other.
  unfold bundle headBundle verifyRekorEntryWithTrust
  rw [lift_bind_of_ok (show tlogEntry (sealedBundle _ _ .three text) = .ok (entry .three text) from rfl),
    lift_bind_of_ok (show canonicalizedBody (entry .three text) = .ok (b64 bodyBytes) from rfl),
    lift_bind_of_ok (decodeB64_b64 _ _ _), lift_bind_of_ok (kindVersion .three text),
    lift_bind_of_ok (show bundleDsseSignature primitives (sealedBundle _ _ .three text) = .ok [1] from rfl),
    lift_bind_of_ok (show verifyTimestamps primitives (sealedBundle _ _ .three text) [1] [] = .ok ([], []) from rfl),
    lift_bind_of_ok (show checkTimestamps [] 100 200 = .ok () from rfl),
    lift_bind_of_ok (show observerTime (entry .three text) (entryKind (entry .three text)) (entryVersion (entry .three text))
      [] [] 100 200 = .ok 150 from rfl),
    lift_bind_of_ok (show inclusionProof (entry .three text) = .ok (proof .three text) from rfl),
    lift_bind_of_ok (show okOrElse (strAt (entry .three text) ["logId", "keyId"]) "Missing logId in tlog entry" =
      .ok (b64 logId) from rfl),
    lift_bind_of_ok (decodeB64_b64 _ _ _), lift_bind_of_ok foundKey,
    lift_bind_of_ok (show checkpointText (proof .three text) = .ok (envelope .three) from rfl),
    lift_bind_of_ok (promise .three text), lift_bind_of_ok (decodedCheckpoint .three), lift_bind_of_ok (signed .three),
    lift_bind_of_ok (readRoot .three text), lift_bind_of_ok (sameRoot .three),
    lift_bind_of_ok (show logIndex (proof .three text) = .ok 0 from rfl),
    lift_bind_of_ok readSize,
    lift_bind_of_ok (readHashes .three text), lift_bind_of_ok (certificateBound _ _ .three text),
    lift_bind_of_ok (signatureBound _ _ .three text), lift_bind_of_ok (payloadBound _ _ .three text),
    lift_bind_of_ok (wholeHashes .three),
    lift_bind_of_ok (show okOrElse (Hash.tryFrom Head.three.hash.val) _ = .ok Head.three.hash from rfl)]

end Sample

/-- The second entry of a log with one entry more than `2^63`: checked builds panic, whatever the
proof; the others ask for 65 hashes where the audit path has 64.  The sample bundle reaches the panic. -/
theorem second_entry_faults :
    ¬ InclusionSafe 1 9223372036854775809 ∧
    (∀ leafHash proofHashes, rootFromInclusionProof transcript true 1 leafHash 9223372036854775809
      proofHashes = .error .panic) ∧
    (decompInclusionProof false 1 9223372036854775809 : Checked Unit _) = .ok (64, 1) ∧
    (∀ entries : List Bytes, entries.length = 9223372036854775809 →
      (transcript.auditPath 1 entries).length = 64) ∧
    verifyRekorEntryWithTrust Sample.primitives true (Sample.bundle "9223372036854775809") 100 200
      [Sample.rekorKey] [] = .error .panic := by
  have wide : ¬ innerProofSize 1 9223372036854775809 < 64 := by decide
  refine ⟨fun safe => wide safe.shift, ?_, by decide, ?_, ?_⟩
  · intro leafHash proofHashes
    rfl
  · intro entries size
    have found : entries[1]? = some entries[1] := List.getElem?_eq_getElem (by omega)
    have path : (MerkleTree.path transcript.hashLeaf transcript.node transcript.emptyRoot 1 entries).length =
      MerkleTree.pathSize 64 1 entries.length := (MerkleTree.computedRoot_path entries 1 (by omega) found).1
    rw [Rfc6269Hasher.auditPath, path, size]
    decide
  · rw [Sample.verified_to_inclusion true (show parseU64 "9223372036854775809" =
      some 9223372036854775809 by decide)]
    rfl

end Tinfoil.Sigstore
