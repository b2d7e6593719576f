import Tinfoil.Basic
import Tinfoil.MerkleBinding

/-! # Merkle inclusion proofs

The verifier of `MerkleProofVerifier`, over any hasher, on 64-bit sizes.  `overflowChecks` is
the build profile: with it a shift by 64 or more panics, without it the amount is masked.
`rootFromInclusionProof_eq` reduces it to the bit-level verifier of `MerkleTree`, and
`verify_inclusion_exact` says that it accepts exactly the RFC 6962 audit path.
-/

namespace Tinfoil.Sigstore

/-! ## Hashers -/

/-- `Rfc6269HasherTrait<O>`, with the bytes of a hash. -/
structure Rfc6269Hasher (O : Type) where
  asRef : O → Bytes
  emptyRoot : O
  hashLeaf : Bytes → O
  hashChildren : Bytes → Bytes → O

namespace Rfc6269Hasher

variable {O : Type}

/-- The blanket implementation for a digest: leaf prefix 0, node prefix 1. -/
def ofDigest (digest : Bytes → O) (asRef : O → Bytes) : Rfc6269Hasher O where
  asRef := asRef
  emptyRoot := digest []
  hashLeaf leaf := digest (0 :: leaf)
  hashChildren left right := digest (1 :: (left ++ right))

def node (hasher : Rfc6269Hasher O) (left right : O) : O :=
  hasher.hashChildren (hasher.asRef left) (hasher.asRef right)

def treeHash (hasher : Rfc6269Hasher O) (entries : List Bytes) : O :=
  MerkleTree.root hasher.hashLeaf hasher.node hasher.emptyRoot entries

def auditPath (hasher : Rfc6269Hasher O) (index : Nat) (entries : List Bytes) : List O :=
  MerkleTree.path hasher.hashLeaf hasher.node hasher.emptyRoot index entries

end Rfc6269Hasher

/-! ## The verifier -/

inductive MerkleProofError where
  | mismatchedRoot (expected got : String)
  | indexGtTreeSize
  | wrongProofSize (got want : Nat)
  deriving DecidableEq, Repr

def MerkleProofError.display : MerkleProofError → String
  | .mismatchedRoot expected got => "root hash mismatch: expected " ++ expected ++ ", got " ++ got
  | .indexGtTreeSize => "leaf index >= tree size"
  | .wrongProofSize got want =>
    "wrong proof size: got " ++ toString got ++ ", want " ++ toString want

def leadingZeros (value : UInt64) : UInt64 := UInt64.ofNat (64 - MerkleTree.bitLength value.toNat)

def countOnes (value : UInt64) : UInt64 := UInt64.ofNat (MerkleTree.popCount 64 value.toNat)

/-- `value >> amount`. -/
def shiftRight {ε : Type} (overflowChecks : Bool) (value amount : UInt64) : Checked ε UInt64 :=
  if overflowChecks ∧ 64 ≤ amount then .error .panic else .ok (value >>> amount)

def innerProofSize (index treeSize : UInt64) : UInt64 :=
  64 - leadingZeros (index ^^^ (treeSize - 1))

def decompInclusionProof {ε : Type} (overflowChecks : Bool) (index treeSize : UInt64) :
    Checked ε (UInt64 × UInt64) := do
  let inner := innerProofSize index treeSize
  let upper ← shiftRight overflowChecks index inner
  return (inner, countOnes upper)

section Verifier

variable {O : Type} (hasher : Rfc6269Hasher O)

def chainInner (seed : O) (proofHashes : List O) (index : UInt64) : O :=
  proofHashes.zipIdx.foldl (fun seed entry =>
    if (index >>> UInt64.ofNat entry.2) &&& 1 = 0 then hasher.node seed entry.1
    else hasher.node entry.1 seed) seed

def chainBorderRight (seed : O) (proofHashes : List O) : O :=
  proofHashes.foldl (fun seed hash => hasher.node hash seed) seed

/-- The length of a slice fits a `u64`, so it is compared as a number. -/
def rootFromInclusionProof (overflowChecks : Bool) (index : UInt64) (leafHash : O)
    (treeSize : UInt64) (proofHashes : List O) : Checked MerkleProofError O := do
  if index ≥ treeSize then Checked.fail .indexGtTreeSize
  let (inner, border) ← decompInclusionProof overflowChecks index treeSize
  if proofHashes.length ≠ (inner + border).toNat then
    Checked.fail (.wrongProofSize proofHashes.length (inner + border).toNat)
  let left := chainInner hasher leafHash (proofHashes.take inner.toNat) index
  return chainBorderRight hasher left (proofHashes.drop inner.toNat)

def verifyInclusion [DecidableEq O] (overflowChecks : Bool) (index : UInt64) (leafHash : O)
    (treeSize : UInt64) (proofHashes : List O) (rootHash : O) : Checked MerkleProofError Unit := do
  if index ≥ treeSize then Checked.fail .indexGtTreeSize
  let calcRoot ← rootFromInclusionProof hasher overflowChecks index leafHash treeSize proofHashes
  if calcRoot ≠ rootHash then
    Checked.fail (.mismatchedRoot (hexEncode (hasher.asRef calcRoot)) (hexEncode (hasher.asRef rootHash)))

end Verifier

/-! ## 64-bit arithmetic is arithmetic -/

/-- The inner part has at most 64 levels, and is the one of the numbers. -/
theorem toNat_innerProofSize {index treeSize : UInt64} (inside : index < treeSize) :
    (innerProofSize index treeSize).toNat =
      MerkleTree.innerSize index.toNat treeSize.toNat := by
  have positive : (1 : UInt64) ≤ treeSize := by
    rw [UInt64.le_iff_toNat_le]
    rw [UInt64.lt_iff_toNat_lt] at inside
    simp
    omega
  have last : (treeSize - 1).toNat = treeSize.toNat - 1 := by
    rw [UInt64.toNat_sub_of_le _ _ positive]
    rfl
  -- Both numbers fit into 64 bits, and so do the bits in which they differ.
  have width : MerkleTree.bitLength (index.toNat ^^^ (treeSize.toNat - 1)) ≤ 64 := by
    apply MerkleTree.bitLength_le
    rw [← last, ← UInt64.toNat_xor]
    exact UInt64.toNat_lt _
  have zeros : (leadingZeros (index ^^^ (treeSize - 1))).toNat =
      64 - MerkleTree.innerSize index.toNat treeSize.toNat := by
    rw [leadingZeros, UInt64.toNat_xor, last, UInt64.toNat_ofNat_of_lt']
    · rfl
    · show _ < 18446744073709551616
      omega
  have small : leadingZeros (index ^^^ (treeSize - 1)) ≤ 64 := by
    rw [UInt64.le_iff_toNat_le, zeros]
    exact Nat.sub_le _ _
  rw [innerProofSize, UInt64.toNat_sub_of_le _ _ small, zeros]
  show 64 - (64 - MerkleTree.innerSize _ _) = _
  unfold MerkleTree.innerSize at *
  omega

theorem popCount_le (width value : Nat) : MerkleTree.popCount width value ≤ width := by
  induction width generalizing value with
  | zero => rfl
  | succ width ih =>
    have := ih (value / 2)
    simp only [MerkleTree.popCount]
    omega

theorem toNat_countOnes (value : UInt64) :
    (countOnes value).toNat = MerkleTree.popCount 64 value.toNat := by
  have small := popCount_le 64 value.toNat
  rw [countOnes, UInt64.toNat_ofNat_of_lt']
  show _ < 18446744073709551616
  omega

theorem decompInclusionProof_eq {ε : Type} (overflowChecks : Bool) {index treeSize : UInt64}
    (inside : index < treeSize)
    (narrow : MerkleTree.innerSize index.toNat treeSize.toNat < 64) :
    ∃ inner border, (decompInclusionProof overflowChecks index treeSize : Checked ε _) = .ok (inner, border) ∧
      inner.toNat = MerkleTree.innerSize index.toNat treeSize.toNat ∧
      border.toNat = MerkleTree.borderSize 64 index.toNat treeSize.toNat := by
  have inner := toNat_innerProofSize inside
  have shift : (shiftRight overflowChecks index (innerProofSize index treeSize) : Checked ε UInt64) =
      .ok (index >>> innerProofSize index treeSize) := by
    have amount : ¬ 64 ≤ innerProofSize index treeSize := by
      rw [UInt64.le_iff_toNat_le, inner]
      exact Nat.not_le.mpr narrow
    simp [shiftRight, amount]
  refine ⟨_, countOnes (index >>> innerProofSize index treeSize), ?_, inner, ?_⟩
  · simp only [decompInclusionProof, shift]
    rfl
  · rw [toNat_countOnes, UInt64.toNat_shiftRight, inner, Nat.mod_eq_of_lt narrow]
    rfl

section Reduction

variable {O : Type} {hasher : Rfc6269Hasher O}

theorem chainBorderRight_eq (seed : O) (proofHashes : List O) :
    chainBorderRight hasher seed proofHashes =
      MerkleTree.climbBorder hasher.node seed proofHashes := rfl

theorem chainInner_eq (seed : O) (proofHashes : List O) (index : UInt64)
    (short : proofHashes.length ≤ 64) :
    chainInner hasher seed proofHashes index =
      MerkleTree.climb hasher.node seed proofHashes index.toNat := by
  have shifted (start : Nat) (seed : O) (proofHashes : List O)
      (short : start + proofHashes.length ≤ 64) :
      (proofHashes.zipIdx start).foldl (fun seed entry =>
        if (index >>> UInt64.ofNat entry.2) &&& 1 = 0 then hasher.node seed entry.1
        else hasher.node entry.1 seed) seed =
      MerkleTree.climb hasher.node seed proofHashes (index.toNat >>> start) := by
    induction proofHashes generalizing start seed with
    | nil => rfl
    | cons hash rest ih =>
      simp only [List.length_cons] at short
      have bit : ((index >>> UInt64.ofNat start) &&& 1 = 0) ↔ (index.toNat >>> start) % 2 = 0 := by
        have amount : (UInt64.ofNat start).toNat % 64 = start := by
          rw [UInt64.toNat_ofNat_of_lt' (by show _ < 18446744073709551616; omega)]
          omega
        rw [← UInt64.toNat_inj, UInt64.toNat_and, UInt64.toNat_shiftRight, amount]
        exact Eq.congr (Nat.and_one_is_mod _) rfl
      simp only [List.zipIdx_cons, List.foldl_cons, MerkleTree.climb, bit]
      rw [ih (start + 1) _ (by omega), Nat.shiftRight_succ]
  exact shifted 0 seed proofHashes (by omega)

/-- The code's verifier is the bit-level one, in either build profile. -/
theorem rootFromInclusionProof_ok {overflowChecks : Bool} {index treeSize : UInt64} {leafHash root : O}
    {proofHashes : List O} (inside : index < treeSize)
    (narrow : MerkleTree.innerSize index.toNat treeSize.toNat < 64) :
    rootFromInclusionProof hasher overflowChecks index leafHash treeSize proofHashes = .ok root ↔
      proofHashes.length = MerkleTree.pathSize 64 index.toNat treeSize.toNat ∧
        MerkleTree.computedRoot hasher.node index.toNat treeSize.toNat leafHash proofHashes = root := by
  obtain ⟨inner, border, decomposed, innerNat, borderNat⟩ :=
    decompInclusionProof_eq (ε := MerkleProofError) overflowChecks inside narrow
  have sum : (inner + border).toNat = MerkleTree.pathSize 64 index.toNat treeSize.toNat := by
    have small := popCount_le 64 (index.toNat >>> MerkleTree.innerSize index.toNat treeSize.toNat)
    rw [UInt64.toNat_add, innerNat, borderNat]
    apply Nat.mod_eq_of_lt
    unfold MerkleTree.borderSize
    omega
  have within : ¬ index ≥ treeSize := UInt64.not_le.mpr inside
  simp only [rootFromInclusionProof, within, if_false, decomposed, bind, Except.bind, Checked.fail,
    pure, Except.pure, sum, innerNat]
  by_cases whole : proofHashes.length = MerkleTree.pathSize 64 index.toNat treeSize.toNat
  · have short : (proofHashes.take (MerkleTree.innerSize index.toNat treeSize.toNat)).length ≤ 64 := by
      rw [List.length_take]
      omega
    simp [whole, chainInner_eq _ _ _ short, chainBorderRight_eq, MerkleTree.computedRoot]
  · simp [whole]

theorem verifyInclusion_ok [DecidableEq O] {overflowChecks : Bool} {index treeSize : UInt64}
    {leafHash root : O} {proofHashes : List O} (inside : index < treeSize)
    (narrow : MerkleTree.innerSize index.toNat treeSize.toNat < 64) :
    verifyInclusion hasher overflowChecks index leafHash treeSize proofHashes root = .ok () ↔
      proofHashes.length = MerkleTree.pathSize 64 index.toNat treeSize.toNat ∧
        MerkleTree.computedRoot hasher.node index.toNat treeSize.toNat leafHash proofHashes = root := by
  rw [← rootFromInclusionProof_ok inside narrow]
  have within : ¬ index ≥ treeSize := UInt64.not_le.mpr inside
  simp only [verifyInclusion, within, if_false]
  cases computed : rootFromInclusionProof hasher overflowChecks index leafHash treeSize proofHashes with
  | error failure => simp [bind, Except.bind]
  | ok calcRoot =>
    by_cases same : calcRoot = root <;>
      simp [bind, Except.bind, Checked.fail, pure, Except.pure, same]

theorem innerSize_lt {index size : Nat} (inside : index < size) (fits : size ≤ 2 ^ 63) :
    MerkleTree.innerSize index size < 64 := by
  have short := MerkleTree.innerSize_le (by omega : index < 2 ^ 63) fits (by omega)
  omega

variable (hasher) in
/-- `verify_inclusion` accepts the audit path of an entry, and nothing but the entry with its
audit path if nodes have no collisions. -/
theorem verify_inclusion_exact [DecidableEq O] (overflowChecks : Bool) (entries : List Bytes)
    (index : Nat) (fits : entries.length ≤ 2 ^ 63) (inside : index < entries.length) :
    verifyInclusion hasher overflowChecks (.ofNat index) (hasher.hashLeaf entries[index])
        (.ofNat entries.length) (hasher.auditPath index entries) (hasher.treeHash entries) = .ok () ∧
      (Function.Injective2 hasher.node → ∀ leafHash proofHashes,
        verifyInclusion hasher overflowChecks (.ofNat index) leafHash (.ofNat entries.length)
            proofHashes (hasher.treeHash entries) = .ok () →
          leafHash = hasher.hashLeaf entries[index] ∧
            proofHashes = hasher.auditPath index entries) := by
  have found : entries[index]? = some entries[index] := List.getElem?_eq_getElem inside
  have small : entries.length < 18446744073709551616 := by omega
  have indexNat : (UInt64.ofNat index).toNat = index :=
    UInt64.toNat_ofNat_of_lt' (Nat.lt_trans inside small)
  have sizeNat : (UInt64.ofNat entries.length).toNat = entries.length :=
    UInt64.toNat_ofNat_of_lt' small
  have below : UInt64.ofNat index < UInt64.ofNat entries.length := by
    rw [UInt64.lt_iff_toNat_lt, indexNat, sizeNat]
    exact inside
  -- Up to `2^63` entries the index is shifted by less than 64.
  have narrow : MerkleTree.innerSize (UInt64.ofNat index).toNat
      (UInt64.ofNat entries.length).toNat < 64 := by
    rw [indexNat, sizeNat]
    exact innerSize_lt inside fits
  have fits' : entries.length ≤ 2 ^ 64 := by omega
  constructor
  · rw [verifyInclusion_ok below narrow, indexNat, sizeNat]
    exact MerkleTree.computedRoot_path entries index fits' found
  · intro injective leafHash proofHashes accepted
    rw [verifyInclusion_ok below narrow, indexNat, sizeNat] at accepted
    exact (MerkleTree.eq_path_of_computedRoot entries index fits' found accepted.1 accepted.2).resolve_right
      fun clash => clash.not_injective injective

end Reduction

/-! ## A hasher without collisions -/

/-- Every byte is announced, the end is marked. -/
def delimited : Bytes → Bytes
  | [] => [0]
  | byte :: rest => 1 :: byte :: delimited rest

theorem delimited_append_inj {left left' right right' : Bytes}
    (same : delimited left ++ right = delimited left' ++ right') : left = left' ∧ right = right' := by
  induction left generalizing left' with
  | nil => cases left' <;> simp_all [delimited]
  | cons byte rest ih =>
    cases left' with
    | nil => simp [delimited] at same
    | cons byte' rest' =>
      simp only [delimited, List.cons_append, List.cons.injEq, true_and] at same
      obtain ⟨rfl, same⟩ := same
      obtain ⟨rfl, rfl⟩ := ih same
      exact ⟨rfl, rfl⟩

/-- The digest of a message is the message. -/
def transcript : Rfc6269Hasher Bytes := .ofDigest id delimited

theorem transcript_injective : Function.Injective2 transcript.node := by
  intro left left' right right' same
  have opened : delimited left ++ delimited right = delimited left' ++ delimited right' :=
    (List.cons.inj same).2
  obtain ⟨rfl, rest⟩ := delimited_append_inj opened
  have ended : delimited right ++ [] = delimited right' ++ [] := by rw [rest]
  exact ⟨rfl, (delimited_append_inj ended).1⟩

theorem verify_inclusion_exact_transcript :
    verifyInclusion transcript true (.ofNat 2) (transcript.hashLeaf [3])
        (.ofNat 3) (transcript.auditPath 2 [[1], [2], [3]]) (transcript.treeHash [[1], [2], [3]]) =
          .ok () ∧
      ∀ leafHash proofHashes,
        verifyInclusion transcript true (.ofNat 2) leafHash (.ofNat 3) proofHashes
            (transcript.treeHash [[1], [2], [3]]) = .ok () →
          leafHash = transcript.hashLeaf [3] ∧
            proofHashes = transcript.auditPath 2 [[1], [2], [3]] :=
  have exact := verify_inclusion_exact transcript true [[1], [2], [3]] 2 (by decide) (by decide)
  ⟨exact.1, exact.2 transcript_injective⟩

end Tinfoil.Sigstore
