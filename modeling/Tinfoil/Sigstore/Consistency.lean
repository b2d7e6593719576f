import Tinfoil.MerkleConsistency
import Tinfoil.Sigstore.Merkle

/-! # Merkle consistency proofs

`verifyConsistency` compares two heads of a log.  It accepts exactly the RFC 6962 proof between the tree hash of
the log and that of its first entries (`verify_consistency_exact`); over any number of heads, each accepted after
the one before it, the log has only grown (`heads_follow_iff`).  Both are short of a `Clash` of two pairs that were
hashed, one for the proofs and one for the log.
-/

namespace Tinfoil.Sigstore

open MerkleTree (Clash LeafClash)

inductive ConsistencyError where
  | mismatchedRoot (expected got : String)
  | unexpectedNonEmptyProof
  | unexpectedEmptyProof
  | newTreeSmaller (new old : UInt64)
  | wrongProofSize (got want : Nat)
  | wrongEmptyTreeHash
  deriving DecidableEq, Repr

def ConsistencyError.display : ConsistencyError → String
  | .mismatchedRoot expected got => "root hash mismatch: expected " ++ expected ++ ", got " ++ got
  | .unexpectedNonEmptyProof => "unexpected non-empty proof"
  | .unexpectedEmptyProof => "unexpected empty proof"
  | .newTreeSmaller new old =>
    "new tree size " ++ toString new.toNat ++ " < old tree size " ++ toString old.toNat
  | .wrongProofSize got want => "wrong proof size: got " ++ toString got ++ ", want " ++ toString want
  | .wrongEmptyTreeHash => "wrong empty tree hash"

def trailingZeros (value : UInt64) : UInt64 := .ofNat (MerkleTree.trailingZeros 64 value.toNat)

/-- `left - right`, which panics or wraps around where it overflows. -/
def subtract {ε : Type} (overflowChecks : Bool) (left right : UInt64) : Checked ε UInt64 :=
  if overflowChecks ∧ left < right then .error .panic else .ok (left - right)

section Verifier

variable {O : Type} (hasher : Rfc6269Hasher O)

def Rfc6269Hasher.consistencyProof (count : Nat) (entries : List Bytes) : List O :=
  MerkleTree.consistencyProof hasher.hashLeaf hasher.node hasher.emptyRoot count entries

/-- The pairs that are hashed for the tree hash of a log. -/
def Rfc6269Hasher.treePairs (entries : List Bytes) : List (O × O) :=
  MerkleTree.treePairs hasher.hashLeaf hasher.node hasher.emptyRoot entries

/-- The pairs that `verifyPath` hashes on the way to the new root. -/
def Rfc6269Hasher.proofPairs (oldSize newSize : UInt64) (proofHashes : List O) (oldRoot : O) : List (O × O) :=
  let shift := trailingZeros oldSize
  MerkleTree.proofPairs hasher.node shift.toNat ((oldSize - 1) >>> shift).toNat newSize.toNat proofHashes oldRoot

def chainInnerRight (seed : O) (proofHashes : List O) (index : UInt64) : O :=
  proofHashes.zipIdx.foldl (fun seed entry =>
    if (index >>> UInt64.ofNat entry.2) &&& 1 = 1 then hasher.node entry.1 seed else seed) seed

variable [DecidableEq O]

def verifyMatch (computed root : O) : Checked ConsistencyError Unit :=
  if computed = root then
    .ok ()
  else
    Checked.fail (.mismatchedRoot (hexEncode (hasher.asRef computed)) (hexEncode (hasher.asRef root)))

def verifyPath (mask : UInt64) (inner : Nat) (seed : O) (proof : List O) (oldRoot newRoot : O) :
    Checked ConsistencyError Unit := do
  let hash1 := chainInnerRight hasher seed (proof.take inner) mask
  verifyMatch hasher (chainBorderRight hasher hash1 (proof.drop inner)) oldRoot
  let hash2 := chainInner hasher seed (proof.take inner) mask
  verifyMatch hasher (chainBorderRight hasher hash2 (proof.drop inner)) newRoot

/-- The proof between two logs of which neither is empty and the new one is longer. -/
def verifyGrowth (overflowChecks : Bool) (oldSize newSize : UInt64) (first : O) (rest : List O)
    (oldRoot newRoot : O) : Checked ConsistencyError Unit := do
  let proofHashes := first :: rest
  let shift := trailingZeros oldSize
  let (inner, border) ← decompInclusionProof overflowChecks (oldSize - 1) newSize
  let inner ← subtract overflowChecks inner shift
  -- The old log is one block, or the proof starts with its last block.
  let (seed, start) := if oldSize = 1 <<< shift then (oldRoot, (0 : UInt64)) else (first, 1)
  if proofHashes.length ≠ (start + inner + border).toNat then
    Checked.fail (.wrongProofSize proofHashes.length (start + inner + border).toNat)
  else
    let mask := (oldSize - 1) >>> shift
    verifyPath hasher mask inner.toNat seed (proofHashes.drop start.toNat) oldRoot newRoot

def verifyConsistency (overflowChecks : Bool) (oldSize newSize : UInt64) (proofHashes : List O)
    (oldRoot newRoot : O) : Checked ConsistencyError Unit :=
  if oldSize > newSize then
    Checked.fail (.newTreeSmaller newSize oldSize)
  else if oldSize = newSize then
    match proofHashes with
    | [] => verifyMatch hasher oldRoot newRoot
    | _ :: _ => Checked.fail .unexpectedNonEmptyProof
  else if oldSize = 0 then
    match proofHashes with
    | [] => if oldRoot = hasher.emptyRoot then .ok () else Checked.fail .wrongEmptyTreeHash
    | _ :: _ => Checked.fail .unexpectedNonEmptyProof
  else
    match proofHashes with
    | [] => Checked.fail .unexpectedEmptyProof
    | first :: rest => verifyGrowth hasher overflowChecks oldSize newSize first rest oldRoot newRoot

end Verifier

/-! ## The bit-level verifier -/

section Reduction

variable {O : Type} {hasher : Rfc6269Hasher O}

theorem chainInnerRight_eq (seed : O) (proofHashes : List O) (index : UInt64) (short : proofHashes.length ≤ 64) :
    chainInnerRight hasher seed proofHashes index =
      MerkleTree.climbRight hasher.node seed proofHashes index.toNat := by
  have shifted (start : Nat) (seed : O) (proofHashes : List O) (short : start + proofHashes.length ≤ 64) :
      (proofHashes.zipIdx start).foldl (fun seed entry =>
        if (index >>> UInt64.ofNat entry.2) &&& 1 = 1 then hasher.node entry.1 seed else seed) seed =
      MerkleTree.climbRight hasher.node seed proofHashes (index.toNat >>> start) := by
    induction proofHashes generalizing start seed with
    | nil => rfl
    | cons hash rest ih =>
      simp only [List.length_cons] at short
      have bit : ((index >>> UInt64.ofNat start) &&& 1 = 1) ↔ ¬ (index.toNat >>> start) % 2 = 0 := by
        have amount : (UInt64.ofNat start).toNat % 64 = start := by
          rw [UInt64.toNat_ofNat_of_lt' (by show _ < 18446744073709551616; omega)]
          omega
        rw [← UInt64.toNat_inj, UInt64.toNat_and, UInt64.toNat_shiftRight, amount, Nat.mod_two_not_eq_zero]
        exact Eq.congr (Nat.and_one_is_mod _) rfl
      simp only [List.zipIdx_cons, List.foldl_cons, MerkleTree.climbRight, bit, ite_not]
      rw [ih (start + 1) _ (by omega), Nat.shiftRight_succ]
  exact shifted 0 seed proofHashes (by omega)

variable [DecidableEq O]

theorem verifyMatch_ok {computed root : O} {result : Unit} :
    verifyMatch hasher computed root = .ok result ↔ computed = root := by
  by_cases same : computed = root <;> simp [verifyMatch, Checked.fail, same]

/-- Two sizes of a growing log, the older one as blocks. -/
structure Grown (oldSize newSize : UInt64) (level index : Nat) : Prop where
  shift : (trailingZeros oldSize).toNat = level
  narrow : level < 64
  even : index % 2 = 0
  blocks : oldSize.toNat = 2 ^ level * (index + 1)
  part : 2 ^ level * (index + 1) < newSize.toNat
  fits : newSize.toNat ≤ 2 ^ 63

theorem exists_grown {oldSize newSize : UInt64} (positive : 0 < oldSize.toNat) (grown : oldSize.toNat < newSize.toNat)
    (fits : newSize.toNat ≤ 2 ^ 63) : ∃ level index, Grown oldSize newSize level index := by
  obtain ⟨narrow, index, even, blocks⟩ := MerkleTree.trailingZeros_spec positive oldSize.toNat_lt
  refine ⟨MerkleTree.trailingZeros 64 oldSize.toNat, index, ?_, narrow, even, blocks, blocks ▸ grown, fits⟩
  rw [trailingZeros, UInt64.toNat_ofNat_of_lt']
  show _ < 18446744073709551616
  omega

section Growth

variable {oldSize newSize : UInt64} {level index : Nat} (grown : Grown oldSize newSize level index)

include grown

theorem Grown.toNat_last : (oldSize - 1).toNat = 2 ^ level * (index + 1) - 1 := by
  have positive : 0 < 2 ^ level * (index + 1) := Nat.mul_pos (Nat.two_pow_pos level) (Nat.succ_pos index)
  have one : (1 : UInt64) ≤ oldSize := by
    rw [UInt64.le_iff_toNat_le, grown.blocks]
    exact positive
  rw [UInt64.toNat_sub_of_le _ _ one, grown.blocks]
  rfl

theorem Grown.toNat_mask : ((oldSize - 1) >>> trailingZeros oldSize).toNat = index := by
  rw [UInt64.toNat_shiftRight, grown.shift, grown.toNat_last, Nat.mod_eq_of_lt grown.narrow,
    Nat.shiftRight_eq_div_pow, MerkleTree.last_div]

omit [DecidableEq O] in
theorem Grown.proofPairs_eq {proofHashes : List O} {oldRoot : O} :
    hasher.proofPairs oldSize newSize proofHashes oldRoot =
      MerkleTree.proofPairs hasher.node level index newSize.toNat proofHashes oldRoot := by
  rw [Rfc6269Hasher.proofPairs, grown.toNat_mask, grown.shift]

theorem Grown.oneBlock : oldSize = 1 <<< trailingZeros oldSize ↔ index = 0 := by
  have small : 2 ^ level < 2 ^ 64 := Nat.pow_lt_pow_right (by decide) grown.narrow
  have power : ((1 : UInt64) <<< trailingZeros oldSize).toNat = 2 ^ level := by
    rw [UInt64.toNat_shiftLeft, grown.shift, Nat.mod_eq_of_lt grown.narrow, Nat.shiftLeft_eq,
      Nat.mod_eq_of_lt (by simpa using small)]
    exact Nat.one_mul _
  have unit := Nat.two_pow_pos level
  rw [← UInt64.toNat_inj, power, grown.blocks]
  constructor
  · intro same
    have single : index + 1 = 1 := Nat.eq_of_mul_eq_mul_left unit (by rw [same, Nat.mul_one])
    omega
  · rintro rfl
    rw [Nat.zero_add, Nat.mul_one]

theorem Grown.decomp (ε : Type) (overflowChecks : Bool) : ∃ inner border inner',
    (decompInclusionProof overflowChecks (oldSize - 1) newSize : Checked ε _) = .ok (inner, border) ∧
    (subtract overflowChecks inner (trailingZeros oldSize) : Checked ε _) = .ok inner' ∧
    inner'.toNat = MerkleTree.innerSize index (MerkleTree.blockCount level newSize.toNat) ∧
    border.toNat = MerkleTree.borderSize 64 index (MerkleTree.blockCount level newSize.toNat) := by
  have below : oldSize - 1 < newSize := by
    rw [UInt64.lt_iff_toNat_lt, grown.toNat_last]
    have := grown.part
    omega
  have narrow := innerSize_lt (UInt64.lt_iff_toNat_lt.mp below) grown.fits
  obtain ⟨inner, border, decomposed, innerNat, borderNat⟩ : ∃ inner border,
      (decompInclusionProof overflowChecks (oldSize - 1) newSize : Checked ε _) = .ok (inner, border) ∧ _ :=
    decompInclusionProof_eq overflowChecks below narrow
  rw [grown.toNat_last] at innerNat borderNat
  rw [MerkleTree.innerSize_blocks grown.part] at innerNat
  rw [MerkleTree.borderSize_blocks grown.part] at borderNat
  have enough : trailingZeros oldSize ≤ inner := by
    rw [UInt64.le_iff_toNat_le, grown.shift, innerNat]
    exact Nat.le_add_right ..
  refine ⟨inner, border, inner - trailingZeros oldSize, decomposed, ?_, ?_, borderNat⟩
  · simp [subtract, UInt64.not_lt.mpr enough]
  · rw [UInt64.toNat_sub_of_le _ _ enough, innerNat, grown.shift, Nat.add_sub_cancel_left]

omit [DecidableEq O] in
theorem Grown.not_checks_nil {oldRoot newRoot : O} :
    ¬ MerkleTree.Checks hasher.node 64 level index newSize.toNat [] oldRoot newRoot := by
  have lower := MerkleTree.lt_blockCount.mpr grown.part
  have parted : ¬ MerkleTree.innerSize index (MerkleTree.blockCount level newSize.toNat) ≤ 0 := by
    rw [MerkleTree.innerSize_le_iff, pow_zero, Nat.div_one, Nat.div_one]
    omega
  intro checks
  unfold MerkleTree.Checks at checks
  split at checks
  · have whole := checks.whole
    rw [List.length_nil, MerkleTree.pathSize] at whole
    omega
  · obtain ⟨seed, path, nothing, -⟩ := checks
    cases nothing

theorem Grown.innerSize_lt : MerkleTree.innerSize index (MerkleTree.blockCount level newSize.toNat) < 64 := by
  have lower := MerkleTree.lt_blockCount.mpr grown.part
  have fewer : MerkleTree.blockCount level newSize.toNat ≤ newSize.toNat :=
    MerkleTree.blockCount_le (Nat.zero_lt_of_lt grown.part)
  exact Sigstore.innerSize_lt (by omega) (Nat.le_trans fewer grown.fits)

theorem Grown.verifyPath_ok {inner : UInt64} {seed oldRoot newRoot : O} {path : List O}
    (innerNat : inner.toNat = MerkleTree.innerSize index (MerkleTree.blockCount level newSize.toNat)) :
    verifyPath hasher ((oldSize - 1) >>> trailingZeros oldSize) inner.toNat seed path oldRoot newRoot = .ok () ↔
      MerkleTree.earlierRoot hasher.node index (MerkleTree.blockCount level newSize.toNat) seed path = oldRoot ∧
        MerkleTree.computedRoot hasher.node index (MerkleTree.blockCount level newSize.toNat) seed path = newRoot := by
  have short : (path.take (MerkleTree.innerSize index (MerkleTree.blockCount level newSize.toNat))).length ≤ 64 := by
    have := grown.innerSize_lt
    rw [List.length_take]
    omega
  rw [innerNat]
  simp only [verifyPath, bind_ok, verifyMatch_ok, exists_const, chainInnerRight_eq _ _ _ short,
    chainInner_eq _ _ _ short, chainBorderRight_eq, grown.toNat_mask]
  rfl

/-- The code's verifier is the bit-level one, in either build profile. -/
theorem Grown.verifyGrowth_ok {overflowChecks : Bool} {first oldRoot newRoot : O} {rest : List O} :
    verifyGrowth hasher overflowChecks oldSize newSize first rest oldRoot newRoot = .ok () ↔
      MerkleTree.Checks hasher.node 64 level index newSize.toNat (first :: rest) oldRoot newRoot := by
  obtain ⟨inner, border, inner', decomposed, subtracted, innerNat, borderNat⟩ :=
    grown.decomp ConsistencyError overflowChecks
  have sum {start : UInt64} (bit : start.toNat ≤ 1) : (start + inner' + border).toNat =
      start.toNat + MerkleTree.pathSize 64 index (MerkleTree.blockCount level newSize.toNat) := by
    have small := popCount_le 64 (index >>> MerkleTree.innerSize index (MerkleTree.blockCount level newSize.toNat))
    have short := grown.innerSize_lt
    rw [UInt64.toNat_add, UInt64.toNat_add, borderNat, MerkleTree.pathSize, innerNat]
    unfold MerkleTree.borderSize
    omega
  -- The length is compared first, then both roots.
  have leads {start : UInt64} {seed : O} {path : List O} (bit : start.toNat ≤ 1)
      (length : (first :: rest).length = start.toNat + path.length) (failure : ConsistencyError) :
      (if (first :: rest).length ≠ (start + inner' + border).toNat then Checked.fail failure
      else verifyPath hasher ((oldSize - 1) >>> trailingZeros oldSize) inner'.toNat seed path oldRoot newRoot) =
        .ok () ↔ MerkleTree.Leads hasher.node 64 level index newSize.toNat seed path oldRoot newRoot := by
    simp only [sum bit, length, ne_eq, Nat.add_left_cancel_iff]
    by_cases whole : path.length = MerkleTree.pathSize 64 index (MerkleTree.blockCount level newSize.toNat)
    · rw [if_neg (not_not.mpr whole), grown.verifyPath_ok innerNat]
      exact ⟨fun roots => ⟨whole, roots.1, roots.2⟩, fun leads => ⟨leads.earlier, leads.later⟩⟩
    · rw [if_pos whole]
      exact ⟨fun accepted => (by cases accepted), fun leads => absurd leads.whole whole⟩
  simp only [verifyGrowth, decomposed, subtracted, bind, Except.bind, grown.oneBlock, MerkleTree.Checks]
  by_cases zero : index = 0
  · simp only [zero, if_true, UInt64.toNat_zero, List.drop_zero]
    rw [← zero]
    exact leads (by decide) (by simp) _
  · simp only [zero, if_false, UInt64.toNat_one, List.drop_one, List.tail_cons, List.cons.injEq]
    rw [leads (by decide) (by simp [Nat.add_comm])]
    constructor
    · exact fun leads => ⟨first, rest, ⟨rfl, rfl⟩, leads⟩
    · rintro ⟨seed, path, ⟨rfl, rfl⟩, leads⟩
      exact leads

theorem Grown.verifyConsistency_ok {overflowChecks : Bool} {proofHashes : List O} {oldRoot newRoot : O} :
    verifyConsistency hasher overflowChecks oldSize newSize proofHashes oldRoot newRoot = .ok () ↔
      MerkleTree.Checks hasher.node 64 level index newSize.toNat proofHashes oldRoot newRoot := by
  have below : oldSize < newSize := by
    rw [UInt64.lt_iff_toNat_lt, grown.blocks]
    exact grown.part
  have positive : oldSize ≠ 0 := by
    rintro rfl
    have blocks := grown.blocks
    simp at blocks
  simp only [verifyConsistency, gt_iff_lt, UInt64.not_lt.mpr (UInt64.le_of_lt below), UInt64.ne_of_lt below,
    positive, if_false]
  cases proofHashes with
  | nil => exact ⟨fun accepted => (by cases accepted), fun checks => absurd checks grown.not_checks_nil⟩
  | cons first rest => exact grown.verifyGrowth_ok

end Growth

theorem verifyConsistency_self {overflowChecks : Bool} {size : UInt64} {proofHashes : List O} {oldRoot newRoot : O} :
    verifyConsistency hasher overflowChecks size size proofHashes oldRoot newRoot = .ok () ↔
      oldRoot = newRoot ∧ proofHashes = [] := by
  cases proofHashes <;> simp [verifyConsistency, UInt64.lt_irrefl, verifyMatch_ok, Checked.fail]

theorem verifyConsistency_zero {overflowChecks : Bool} {size : UInt64} {proofHashes : List O} {oldRoot newRoot : O}
    (positive : 0 < size.toNat) :
    verifyConsistency hasher overflowChecks 0 size proofHashes oldRoot newRoot = .ok () ↔
      oldRoot = hasher.emptyRoot ∧ proofHashes = [] := by
  have below : 0 < size := UInt64.lt_iff_toNat_lt.mpr positive
  simp only [verifyConsistency, gt_iff_lt, UInt64.not_lt.mpr (UInt64.le_of_lt below), UInt64.ne_of_lt below,
    if_false, if_true]
  cases proofHashes with
  | nil => by_cases root : oldRoot = hasher.emptyRoot <;> simp [root, Checked.fail]
  | cons first rest => simp [Checked.fail]

omit [DecidableEq O] in
@[simp] theorem consistencyProof_length (entries : List Bytes) :
    hasher.consistencyProof entries.length entries = [] := by
  cases entries with
  | nil => rfl
  | cons first rest =>
    rw [Rfc6269Hasher.consistencyProof, MerkleTree.consistencyProof, if_neg (by simp),
      MerkleTree.subproof_all (by simp), if_pos rfl]

section Log

variable {overflowChecks : Bool} {oldSize newSize : UInt64} {entries : List Bytes}

theorem verifyConsistency_proof (size : newSize.toNat = entries.length) (fits : entries.length ≤ 2 ^ 63)
    (inside : oldSize.toNat ≤ entries.length) :
    verifyConsistency hasher overflowChecks oldSize newSize (hasher.consistencyProof oldSize.toNat entries)
      (hasher.treeHash (entries.take oldSize.toNat)) (hasher.treeHash entries) = .ok () := by
  rcases Nat.lt_or_eq_of_le inside with part | whole
  · rcases Nat.eq_zero_or_pos oldSize.toNat with zero | positive
    · obtain rfl : oldSize = 0 := UInt64.toNat_inj.mp zero
      rw [verifyConsistency_zero (by omega)]
      simp [Rfc6269Hasher.consistencyProof, MerkleTree.consistencyProof, Rfc6269Hasher.treeHash, MerkleTree.root]
    · obtain ⟨level, index, grown⟩ := exists_grown positive (size ▸ part) (size ▸ fits)
      have below := grown.part
      rw [size] at below
      rw [grown.verifyConsistency_ok, size, grown.blocks]
      exact MerkleTree.checks_consistencyProof grown.even below (by omega)
  · obtain rfl : oldSize = newSize := UInt64.toNat_inj.mp (whole.trans size.symm)
    rw [whole, List.take_length, consistencyProof_length, verifyConsistency_self]
    exact ⟨rfl, rfl⟩

theorem eq_of_verifyConsistency (size : newSize.toNat = entries.length)
    (fits : entries.length ≤ 2 ^ 63) (inside : oldSize.toNat ≤ entries.length) {proofHashes : List O} {oldRoot : O}
    (accepted : verifyConsistency hasher overflowChecks oldSize newSize proofHashes oldRoot (hasher.treeHash entries) =
      .ok ()) :
    (oldRoot = hasher.treeHash (entries.take oldSize.toNat) ∧
        proofHashes = hasher.consistencyProof oldSize.toNat entries) ∨
      Clash hasher.node (hasher.proofPairs oldSize newSize proofHashes oldRoot) (hasher.treePairs entries) := by
  rcases Nat.lt_or_eq_of_le inside with part | whole
  · rcases Nat.eq_zero_or_pos oldSize.toNat with zero | positive
    · obtain rfl : oldSize = 0 := UInt64.toNat_inj.mp zero
      rw [verifyConsistency_zero (by omega)] at accepted
      obtain ⟨rfl, rfl⟩ := accepted
      left
      simp [Rfc6269Hasher.consistencyProof, MerkleTree.consistencyProof, Rfc6269Hasher.treeHash, MerkleTree.root]
    · obtain ⟨level, index, grown⟩ := exists_grown positive (size ▸ part) (size ▸ fits)
      have below := grown.part
      rw [size] at below
      rw [grown.verifyConsistency_ok, size] at accepted
      rw [grown.blocks, grown.proofPairs_eq, size]
      exact MerkleTree.eq_of_checks grown.even below (by omega) accepted
  · obtain rfl : oldSize = newSize := UInt64.toNat_inj.mp (whole.trans size.symm)
    rw [verifyConsistency_self] at accepted
    left
    rwa [whole, List.take_length, consistencyProof_length]

end Log

variable (hasher) in
/-- `verify_consistency` accepts the consistency proof between the tree hash of a log and that of its first
entries.  It accepts nothing else, unless it hashes a pair that clashes with one of the log's tree. -/
theorem verify_consistency_exact (overflowChecks : Bool) (entries : List Bytes) (count : Nat)
    (fits : entries.length ≤ 2 ^ 63) (inside : count ≤ entries.length) :
    verifyConsistency hasher overflowChecks (.ofNat count) (.ofNat entries.length)
        (hasher.consistencyProof count entries) (hasher.treeHash (entries.take count)) (hasher.treeHash entries) =
          .ok () ∧
      ∀ proofHashes oldRoot,
        verifyConsistency hasher overflowChecks (.ofNat count) (.ofNat entries.length) proofHashes oldRoot
            (hasher.treeHash entries) = .ok () →
          (oldRoot = hasher.treeHash (entries.take count) ∧ proofHashes = hasher.consistencyProof count entries) ∨
            Clash hasher.node (hasher.proofPairs (.ofNat count) (.ofNat entries.length) proofHashes oldRoot)
              (hasher.treePairs entries) := by
  have sizeNat : (UInt64.ofNat entries.length).toNat = entries.length :=
    UInt64.toNat_ofNat_of_lt' (by show _ < 18446744073709551616; omega)
  have countNat : (UInt64.ofNat count).toNat = count :=
    UInt64.toNat_ofNat_of_lt' (by show _ < 18446744073709551616; omega)
  rw [← countNat] at inside ⊢
  rw [countNat, ← countNat, UInt64.ofNat_toNat]
  exact ⟨verifyConsistency_proof sizeNat fits inside, fun _ _ => eq_of_verifyConsistency sizeNat fits inside⟩

/-! ## Heads of a log -/

structure TreeHead (O : Type) where
  size : UInt64
  rootHash : O

variable (hasher) in
structure TreeHead.IsOf (head : TreeHead O) (entries : List Bytes) : Prop where
  size : head.size.toNat = entries.length
  rootHash : head.rootHash = hasher.treeHash entries
  fits : entries.length ≤ 2 ^ 63

variable (hasher) in
/-- Each head is accepted after the one before it, with its proof. -/
def Follows (overflowChecks : Bool) (first : TreeHead O) : List (List O × TreeHead O) → TreeHead O → Prop
  | [], last => first = last
  | (proofHashes, next) :: rest, last =>
    verifyConsistency hasher overflowChecks first.size next.size proofHashes first.rootHash next.rootHash = .ok () ∧
      Follows overflowChecks next rest last

variable (hasher) in
def followPairs (first : TreeHead O) : List (List O × TreeHead O) → List (O × O)
  | [] => []
  | (proofHashes, next) :: rest =>
    hasher.proofPairs first.size next.size proofHashes first.rootHash ++ followPairs next rest

variable (hasher) in
def headPairs (heads : List (TreeHead O)) (entries : List Bytes) : List (O × O) :=
  heads.flatMap fun head => hasher.treePairs (entries.take head.size.toNat)

theorem size_le_of_accepted {overflowChecks : Bool} {oldSize newSize : UInt64} {proofHashes : List O}
    {oldRoot newRoot : O}
    (accepted : verifyConsistency hasher overflowChecks oldSize newSize proofHashes oldRoot newRoot = .ok ()) :
    oldSize.toNat ≤ newSize.toNat := by
  rw [← UInt64.le_iff_toNat_le, ← UInt64.not_lt]
  intro shrunk
  simp [verifyConsistency, shrunk, Checked.fail] at accepted

/-- A head that is accepted before the head of a log is the head of its first entries. -/
theorem TreeHead.IsOf.take {overflowChecks : Bool} {old new : TreeHead O} {entries : List Bytes} {proofHashes : List O}
    (isOf : new.IsOf hasher entries)
    (accepted :
      verifyConsistency hasher overflowChecks old.size new.size proofHashes old.rootHash new.rootHash = .ok ()) :
    old.IsOf hasher (entries.take old.size.toNat) ∨
      Clash hasher.node (hasher.proofPairs old.size new.size proofHashes old.rootHash) (hasher.treePairs entries) := by
  have ordered := size_le_of_accepted accepted
  rw [isOf.size] at ordered
  rw [isOf.rootHash] at accepted
  refine (eq_of_verifyConsistency isOf.size isOf.fits ordered accepted).imp_left ?_
  rintro ⟨rootHash, -⟩
  have length := List.length_take_of_le ordered
  exact ⟨length.symm, rootHash, length.le.trans (ordered.trans isOf.fits)⟩

theorem Follows.isOf_take {overflowChecks : Bool} {first last : TreeHead O} {steps : List (List O × TreeHead O)}
    {entries : List Bytes} (follows : Follows hasher overflowChecks first steps last) (isOf : last.IsOf hasher entries) :
    first.IsOf hasher (entries.take first.size.toNat) ∨
      Clash hasher.node (followPairs hasher first steps) (headPairs hasher (steps.map Prod.snd) entries) := by
  induction steps generalizing first with
  | nil =>
    cases follows
    left
    rwa [isOf.size, List.take_length]
  | cons step rest ih =>
    obtain ⟨proofHashes, next⟩ := step
    obtain ⟨accepted, follows⟩ := follows
    rcases ih follows with later | clash
    · rcases later.take accepted with earlier | clash
      · left
        rwa [List.take_take, Nat.min_eq_left (size_le_of_accepted accepted)] at earlier
      · exact .inr (clash.mono (List.subset_append_left ..) (List.subset_append_left ..))
    · exact .inr (clash.mono (List.subset_append_right ..) (List.subset_append_right ..))

/-- Heads of a log that has grown are accepted after one another.  Conversely, over any number of heads, each accepted
after the one before it, a log has only grown, unless two of its entries clash, or two pairs do that were hashed for it
and for the proofs and the older log. -/
theorem heads_follow_iff (overflowChecks : Bool) {first last : TreeHead O} {older newer : List Bytes}
    (isOld : first.IsOf hasher older) (isNew : last.IsOf hasher newer) :
    (older <+: newer →
      Follows hasher overflowChecks first [(hasher.consistencyProof older.length newer, last)] last) ∧
    ∀ steps, Follows hasher overflowChecks first steps last →
      older <+: newer ∨ LeafClash hasher.hashLeaf older newer ∨
        Clash hasher.node (hasher.treePairs older ++ followPairs hasher first steps)
          (headPairs hasher (first :: steps.map Prod.snd) newer) := by
  constructor
  · rintro ⟨rest, rfl⟩
    have accepted : verifyConsistency hasher overflowChecks first.size last.size _ _ _ = .ok () :=
      verifyConsistency_proof isNew.size isNew.fits (by simp [isOld.size])
    rw [isOld.size, List.take_left, ← isOld.rootHash, ← isNew.rootHash] at accepted
    exact ⟨accepted, rfl⟩
  · intro steps follows
    -- From the last head back, each one is of the first entries of the newer log.
    rcases follows.isOf_take isNew with back | clash
    · have length := isOld.size.symm.trans back.size
      rcases MerkleTree.eq_of_root length (isOld.rootHash.symm.trans back.rootHash) with same | leaves | clash
      · exact .inl ⟨newer.drop first.size.toNat, by rw [same, List.take_append_drop]⟩
      · exact .inr (.inl leaves.of_take_right)
      · exact .inr (.inr (clash.mono (List.subset_append_left ..) (List.subset_append_left ..)))
    · exact .inr (.inr (clash.mono (List.subset_append_right ..) (List.subset_append_right ..)))

end Reduction

/-! ## Logs whose hashes are transcripts -/

theorem transcript_leaves : Function.Injective transcript.hashLeaf := by
  intro leaf leaf' same
  have opened : delimited leaf ++ [] = delimited leaf' ++ [] := by rw [(List.cons.inj same).2]
  exact (delimited_append_inj opened).1

theorem verify_consistency_exact_transcript :
    verifyConsistency transcript true (.ofNat 2) (.ofNat 3) (transcript.consistencyProof 2 [[1], [2], [3]])
        (transcript.treeHash [[1], [2]]) (transcript.treeHash [[1], [2], [3]]) = .ok () ∧
      ∀ proofHashes oldRoot,
        verifyConsistency transcript true (.ofNat 2) (.ofNat 3) proofHashes oldRoot
            (transcript.treeHash [[1], [2], [3]]) = .ok () →
          oldRoot = transcript.treeHash [[1], [2]] ∧ proofHashes = transcript.consistencyProof 2 [[1], [2], [3]] :=
  have exact := verify_consistency_exact transcript true [[1], [2], [3]] 2 (by decide) (by decide)
  ⟨exact.1, fun proofHashes oldRoot accepted =>
    (exact.2 proofHashes oldRoot accepted).resolve_right fun clash => clash.not_injective transcript_injective⟩

/-- A log that replaced an entry is not reached, whatever heads are shown in between. -/
theorem heads_follow_iff_replaced :
    ¬ ∃ steps, Follows transcript true ⟨2, transcript.treeHash [[1], [2]]⟩ steps
      ⟨3, transcript.treeHash [[1], [4], [3]]⟩ := by
  rintro ⟨steps, follows⟩
  have isOld : (TreeHead.mk 2 (transcript.treeHash [[1], [2]])).IsOf transcript [[1], [2]] := ⟨rfl, rfl, by decide⟩
  have isNew : (TreeHead.mk 3 (transcript.treeHash [[1], [4], [3]])).IsOf transcript [[1], [4], [3]] :=
    ⟨rfl, rfl, by decide⟩
  rcases (heads_follow_iff true isOld isNew).2 steps follows with kept | leaves | clash
  · revert kept
    decide
  · exact leaves.not_injective transcript_leaves
  · exact clash.not_injective transcript_injective

end Tinfoil.Sigstore
