import Tinfoil.MerkleBinding

/-! # Consistency proofs of RFC 6962

`consistencyProof` is the recursive definition.  `earlierRoot` climbs like `computedRoot` and leaves out what is
on the right, so that it ends at the tree hash of the entries up to the index.

A log of `2 ^ level * (index + 1)` entries, the index even, is `index + 1` blocks of a larger log.  Its
consistency proof is the audit path of the last of them in the tree of blocks (`consistencyProof_eq`), and the
bit-level verifier decides it (`checks_consistencyProof`, `eq_of_checks`).
-/

namespace MerkleTree

/-! ## The earlier root -/

section Earlier

variable {O : Type*} (node : O → O → O)

/-- Fold a path upwards, without the siblings on the right. -/
def climbRight : O → List O → Nat → O
  | seed, [], _ => seed
  | seed, sibling :: path, index =>
    climbRight (if index % 2 = 0 then seed else node sibling seed) path (index / 2)

def earlierRoot (index size : Nat) (seed : O) (path : List O) : O :=
  climbBorder node (climbRight node seed (path.take (innerSize index size)) index)
    (path.drop (innerSize index size))

/-- A node without what is on its right.  The siblings of a path are marked `inr`. -/
def leftOnly : O ⊕ O → O ⊕ O → O ⊕ O
  | .inr sibling, .inl below => .inl (node sibling below)
  | below, _ => below

variable {node}

theorem climb_leftOnly (seed : O) (path : List O) (index : Nat) :
    climb (leftOnly node) (.inl seed) (path.map .inr) index = .inl (climbRight node seed path index) := by
  induction path generalizing seed index with
  | nil => rfl
  | cons sibling path ih =>
    rw [List.map_cons, climb, climbRight, ← ih]
    by_cases even : index % 2 = 0 <;> simp [even, leftOnly]

theorem climbBorder_leftOnly (seed : O) (path : List O) :
    climbBorder (leftOnly node) (.inl seed) (path.map .inr) = .inl (climbBorder node seed path) := by
  induction path generalizing seed with
  | nil => rfl
  | cons sibling path ih => exact ih (node sibling seed)

/-- The earlier root is a root of other nodes, and inherits the steps of its recursion. -/
theorem computedRoot_leftOnly (index size : Nat) (seed : O) (path : List O) :
    computedRoot (leftOnly node) index size (.inl seed) (path.map .inr) =
      .inl (earlierRoot node index size seed path) := by
  rw [computedRoot, ← List.map_take, ← List.map_drop, climb_leftOnly, climbBorder_leftOnly, earlierRoot]

theorem earlierRoot_left {index size level : Nat} {seed sibling : O} {path : List O} (below : 2 ^ level < size)
    (high : size ≤ 2 ^ (level + 1)) (left : index < 2 ^ level) (whole : path.length = level) :
    earlierRoot node index size seed (path ++ [sibling]) = climbRight node seed path index := by
  have step : computedRoot (leftOnly node) index size (.inl seed) (path.map .inr ++ [.inr sibling]) =
      leftOnly node (climb (leftOnly node) (.inl seed) (path.map .inr) index) (.inr sibling) :=
    computedRoot_left below high left (by rw [List.length_map, whole])
  rw [climb_leftOnly, ← List.map_singleton, ← List.map_append, computedRoot_leftOnly] at step
  exact Sum.inl.inj step

theorem earlierRoot_right {width index size level : Nat} {seed sibling : O} {path : List O}
    (high : size ≤ 2 ^ (level + 1)) (right : 2 ^ level ≤ index) (inside : index < size)
    (whole : path.length = pathSize width (index - 2 ^ level) (size - 2 ^ level)) :
    earlierRoot node index size seed (path ++ [sibling]) =
      node sibling (earlierRoot node (index - 2 ^ level) (size - 2 ^ level) seed path) := by
  have step : computedRoot (leftOnly node) index size (.inl seed) (path.map .inr ++ [.inr sibling]) =
      leftOnly node (.inr sibling)
        (computedRoot (leftOnly node) (index - 2 ^ level) (size - 2 ^ level) (.inl seed) (path.map .inr)) :=
    computedRoot_right high right inside (by rw [List.length_map, whole])
  rw [computedRoot_leftOnly, ← List.map_singleton, ← List.map_append, computedRoot_leftOnly] at step
  exact Sum.inl.inj step

theorem earlierRoot_perfect {index level : Nat} (inside : index < 2 ^ level) (seed : O) {path : List O}
    (whole : path.length = level) :
    earlierRoot node index (2 ^ level) seed path = climbRight node seed path index := by
  have same : computedRoot (leftOnly node) index (2 ^ level) (.inl seed) (path.map .inr) =
      climb (leftOnly node) (.inl seed) (path.map .inr) index :=
    (perfect le_rfl inside (Sum.inl seed)).2 _ (by rw [List.length_map, whole])
  rw [computedRoot_leftOnly, climb_leftOnly] at same
  exact Sum.inl.inj same

end Earlier

theorem pathSize_perfect {width index level : Nat} (narrow : level ≤ width) (inside : index < 2 ^ level) :
    pathSize width index (2 ^ level) = level := by
  obtain ⟨size, -⟩ : _ ∧ ∀ path : List Unit, _ → computedRoot (fun _ _ => ()) _ _ () path = _ :=
    perfect narrow inside ()
  exact size

theorem split_eq {size level : Nat} (below : 2 ^ level < size) (high : size ≤ 2 ^ (level + 1)) :
    split size = 2 ^ level := by
  have positive := Nat.two_pow_pos level
  have log : (size - 1).log2 = level := (Nat.log2_eq_iff (by omega)).mpr ⟨by omega, by omega⟩
  rw [split, log]

theorem le_two_mul_split {size : Nat} (several : 2 ≤ size) : size ≤ 2 * split size := by
  obtain ⟨level, shape, -, high⟩ := split_level several
  rw [pow_succ] at high
  omega

section Tree

variable {α O : Type*} {leaf : α → O} {node : O → O → O} {empty : O}

theorem root_take_right {entries : List α} {count : Nat} (several : 2 ≤ entries.length)
    (right : split entries.length < count) (inside : count ≤ entries.length) :
    root leaf node empty (entries.take count) =
      node (root leaf node empty (entries.take (split entries.length)))
        (root leaf node empty ((entries.drop (split entries.length)).take (count - split entries.length))) := by
  obtain ⟨level, shape, below, high⟩ := split_level several
  have length : (entries.take count).length = count := List.length_take_of_le inside
  have same : split (entries.take count).length = split entries.length := by
    rw [length, shape]
    exact split_eq (by omega) (by omega)
  have positive := split_pos entries.length
  rw [root_split (by omega : 2 ≤ (entries.take count).length), same, List.take_take, Nat.min_eq_left right.le,
    List.drop_take]

/-- The audit path leads to the tree hash of the entries up to the index as well. -/
theorem earlierRoot_path {width : Nat} (entries : List α) (index : Nat) {entry : α}
    (fits : entries.length ≤ 2 ^ width) (found : entries[index]? = some entry) :
    earlierRoot node index entries.length (leaf entry) (path leaf node empty index entries) =
      root leaf node empty (entries.take (index + 1)) := by
  have inside := (List.getElem?_eq_some_iff.mp found).1
  rcases Nat.lt_or_ge entries.length 2 with single | several
  · obtain ⟨only, rfl⟩ := List.length_eq_one_iff.mp (by omega : entries.length = 1)
    have zero : index = 0 := by simpa using inside
    subst zero
    cases found
    simp [path, root, innerSize, bitLength, earlierRoot, climbRight, climbBorder]
  · obtain ⟨level, shape, below, high⟩ := split_level several
    have narrow := level_lt below fits
    have takeLength := length_take_split several
    have dropLength : (entries.drop (split entries.length)).length =
      entries.length - split entries.length := List.length_drop
    have leftFits : (entries.take (split entries.length)).length ≤ 2 ^ width := by omega
    have rightFits : (entries.drop (split entries.length)).length ≤ 2 ^ width := by omega
    rcases Nat.lt_or_ge index (split entries.length) with left | right
    · have found := getElem?_take_split left found
      have whole : (path leaf node empty index (entries.take (split entries.length))).length =
          pathSize width index _ := (computedRoot_path _ index leftFits found).1
      have correct := earlierRoot_path _ index leftFits found
      -- The right half adds nothing to the earlier root.
      rw [path_left several left]
      rw [takeLength, shape, pathSize_perfect narrow.le (shape ▸ left)] at whole
      rw [takeLength, List.take_take, Nat.min_eq_left left] at correct
      rw [shape] at left correct ⊢
      rw [earlierRoot_left below high left whole, ← correct, earlierRoot_perfect left _ whole]
    · have found := getElem?_drop_split right found
      have whole : (path leaf node empty (index - split entries.length) (entries.drop (split entries.length))).length =
          pathSize width (index - split entries.length) _ := (computedRoot_path _ _ rightFits found).1
      have correct := earlierRoot_path _ _ rightFits found
      -- The left half is whole in both trees.
      rw [path_right several right, root_take_right several (by omega) inside]
      rw [dropLength, shape] at whole correct
      rw [shape] at right ⊢
      rw [earlierRoot_right high right inside whole, correct, ← Nat.sub_add_comm right]
termination_by entries.length
decreasing_by
  · exact take_split_lt several
  · exact drop_split_lt several

end Tree

/-! ## Blocks -/

section Blocks

variable {α O : Type*} (leaf : α → O) (node : O → O → O) (empty : O)

/-- The number of blocks of `2 ^ level` entries, the last one maybe short. -/
def blockCount (level size : Nat) : Nat := (size - 1) / 2 ^ level + 1

def block (level number : Nat) (entries : List α) : List α := (entries.drop (2 ^ level * number)).take (2 ^ level)

def blockRoots (level : Nat) (entries : List α) : List O :=
  (List.range (blockCount level entries.length)).map fun number =>
    root leaf node empty (block level number entries)

variable {leaf node empty}

@[simp] theorem length_blockRoots (level : Nat) (entries : List α) :
    (blockRoots leaf node empty level entries).length = blockCount level entries.length := by
  simp [blockRoots]

theorem blockCount_mul {level count : Nat} (positive : 0 < count) : blockCount level (2 ^ level * count) = count := by
  have unit := Nat.two_pow_pos level
  obtain ⟨before, rfl⟩ := Nat.exists_eq_succ_of_ne_zero positive.ne'
  rw [blockCount, Nat.mul_succ, Nat.add_sub_assoc unit, Nat.mul_add_div unit, Nat.div_eq_of_lt (by omega)]

theorem lt_blockCount {level size number : Nat} :
    number + 1 < blockCount level size ↔ 2 ^ level * (number + 1) < size := by
  have positive := Nat.two_pow_pos level
  rw [blockCount, Nat.add_lt_add_iff_right, Nat.lt_iff_add_one_le, Nat.le_div_iff_mul_le positive, Nat.mul_comm]
  have some_block : 0 < 2 ^ level * (number + 1) := Nat.mul_pos positive (Nat.succ_pos number)
  omega

theorem blockCount_le {level size : Nat} (positive : 0 < size) : blockCount level size ≤ size := by
  have := Nat.div_le_self (size - 1) (2 ^ level)
  unfold blockCount
  omega

theorem block_take {level number count : Nat} (inside : number < count) (entries : List α) :
    block level number (entries.take (2 ^ level * count)) = block level number entries := by
  have room : 2 ^ level ≤ 2 ^ level * count - 2 ^ level * number := by
    rw [← Nat.mul_sub]
    exact Nat.le_mul_of_pos_right _ (by omega)
  rw [block, block, List.drop_take, List.take_take, Nat.min_eq_left room]

theorem block_drop (level number count : Nat) (entries : List α) :
    block level number (entries.drop (2 ^ level * count)) = block level (count + number) entries := by
  rw [block, block, List.drop_drop, Nat.mul_add]

theorem blockRoots_take {level count : Nat} {entries : List α} (positive : 0 < count)
    (inside : 2 ^ level * count ≤ entries.length) :
    blockRoots leaf node empty level (entries.take (2 ^ level * count)) =
      (blockRoots leaf node empty level entries).take count := by
  have counted : blockCount level (entries.take (2 ^ level * count)).length = count := by
    rw [List.length_take_of_le inside, blockCount_mul positive]
  have within : count ≤ blockCount level entries.length := by
    calc count = blockCount level (2 ^ level * count) := (blockCount_mul positive).symm
      _ ≤ blockCount level entries.length :=
        Nat.add_le_add_right (Nat.div_le_div_right (Nat.sub_le_sub_right inside 1)) 1
  rw [blockRoots, blockRoots, counted, ← List.map_take, List.take_range, Nat.min_eq_left within]
  refine List.map_congr_left fun number member => ?_
  rw [block_take (List.mem_range.mp member)]

theorem blockRoots_drop {level count : Nat} {entries : List α} (inside : 2 ^ level * count < entries.length) :
    blockRoots leaf node empty level (entries.drop (2 ^ level * count)) =
      (blockRoots leaf node empty level entries).drop count := by
  have counted : blockCount level (entries.drop (2 ^ level * count)).length + count =
      blockCount level entries.length := by
    have last : entries.length - 1 = (entries.length - 2 ^ level * count - 1) + 2 ^ level * count := by omega
    rw [List.length_drop, blockCount, blockCount, last, Nat.add_mul_div_left _ _ (Nat.two_pow_pos level)]
    omega
  apply List.ext_getElem
  · rw [List.length_drop, length_blockRoots, length_blockRoots, ← counted, Nat.add_sub_cancel]
  · intro number left right
    simp [blockRoots, block_drop]

theorem blockRoots_single {level : Nat} {entries : List α} (short : entries.length ≤ 2 ^ level) :
    blockRoots leaf node empty level entries = [root leaf node empty entries] := by
  have positive := Nat.two_pow_pos level
  have counted : blockCount level entries.length = 1 := by
    rw [blockCount, Nat.div_eq_of_lt (by omega)]
  simp [blockRoots, counted, block, List.take_of_length_le short]

theorem split_blockCount {level top size : Nat} (below : 2 ^ (level + top) < size)
    (high : size ≤ 2 ^ (level + top + 1)) : split (blockCount level size) = 2 ^ top := by
  have positive := Nat.two_pow_pos level
  apply split_eq
  · rw [blockCount, Nat.lt_add_one_iff, Nat.le_div_iff_mul_le positive, Nat.mul_comm, ← pow_add]
    omega
  · rw [blockCount, Nat.add_one_le_iff, Nat.div_lt_iff_lt_mul positive, ← pow_add]
    rw [show top + 1 + level = level + top + 1 by omega]
    omega

/-- A log of more than one block splits between two blocks. -/
theorem split_level_add {level : Nat} {entries : List α} (long : 2 ^ level < entries.length) :
    2 ≤ entries.length ∧ ∃ top, split entries.length = 2 ^ level * 2 ^ top ∧
      split (blockCount level entries.length) = 2 ^ top ∧ 2 ≤ blockCount level entries.length := by
  have positive := Nat.two_pow_pos level
  have several : 2 ≤ entries.length := by omega
  obtain ⟨height, shape, below, high⟩ := split_level several
  have tall : level < height + 1 :=
    (Nat.pow_lt_pow_iff_right (by decide)).mp (Nat.lt_of_lt_of_le long high)
  obtain ⟨top, rfl⟩ := Nat.exists_eq_add_of_le (Nat.le_of_lt_succ tall)
  refine ⟨several, top, by rw [shape, pow_add], split_blockCount below high, ?_⟩
  rw [← Nat.lt_iff_add_one_le, ← Nat.zero_add 1, lt_blockCount]
  simpa using long

theorem root_blockRoots (level : Nat) (entries : List α) :
    root id node empty (blockRoots leaf node empty level entries) = root leaf node empty entries := by
  rcases Nat.lt_or_ge (2 ^ level) entries.length with long | short
  · obtain ⟨several, top, shape, shape', several'⟩ := split_level_add long
    have below := split_lt several
    rw [root_split several, root_split (by rwa [length_blockRoots]), length_blockRoots, shape',
      ← blockRoots_take (Nat.two_pow_pos top) (by omega), ← blockRoots_drop (by omega), ← shape,
      root_blockRoots level (entries.take _), root_blockRoots level (entries.drop _)]
  · rw [blockRoots_single short]
    simp [root]
termination_by entries.length
decreasing_by
  · exact take_split_lt several
  · exact drop_split_lt several

theorem treePairs_blockRoots (level : Nat) (entries : List α) :
    treePairs id node empty (blockRoots leaf node empty level entries) ⊆ treePairs leaf node empty entries := by
  let Within (upper whole : O × List (O × O)) : Prop := upper.1 = whole.1 ∧ upper.2 ⊆ whole.2
  have leaves : List.Forall₂ (fun upper whole => Within (untraced upper) whole)
      (blockRoots leaf node empty level entries)
      (blockRoots (untraced ∘ leaf) (traced node) (untraced empty) level entries) := by
    rw [blockRoots, blockRoots, List.forall₂_map_left_iff, List.forall₂_map_right_iff]
    refine List.forall₂_same.mpr fun number _ => ?_
    rw [root_traced]
    exact ⟨rfl, List.nil_subset _⟩
  have nodes {left left' right right' : O × List (O × O)} (lefts : Within left left') (rights : Within right right') :
      Within (traced node left right) (traced node left' right') := by
    obtain ⟨sameLeft, leftPairs⟩ := lefts
    obtain ⟨sameRight, rightPairs⟩ := rights
    refine ⟨by simp [traced, sameLeft, sameRight], ?_⟩
    simp only [traced, sameLeft, sameRight]
    exact List.cons_subset_cons _ (List.append_subset.mpr
      ⟨List.subset_append_of_subset_left _ leftPairs, List.subset_append_of_subset_right _ rightPairs⟩)
  have related : Within (root untraced (traced node) (untraced empty) (blockRoots leaf node empty level entries))
      (root id (traced node) (untraced empty)
        (blockRoots (untraced ∘ leaf) (traced node) (untraced empty) level entries)) :=
    root_rel nodes ⟨rfl, List.Subset.refl _⟩ leaves
  rw [root_blockRoots, root_traced] at related
  exact related.2

end Blocks

/-! ## Consistency proofs -/

section Proofs

variable {α O : Type*} (leaf : α → O) (node : O → O → O) (empty : O)

/-- `SUBPROOF` of RFC 6962; `known` is its `b`: the verifier knows the root of the first `count` entries. -/
def subproof : Nat → Bool → List α → List O
  | _, _, [] => []
  | _, known, [entry] => if known then [] else [leaf entry]
  | count, known, first :: second :: rest =>
    let entries := first :: second :: rest
    let left := entries.take (split entries.length)
    let right := entries.drop (split entries.length)
    if count = entries.length then
      if known then [] else [root leaf node empty entries]
    else if count ≤ split entries.length then
      subproof count known left ++ [root leaf node empty right]
    else
      subproof (count - split entries.length) false right ++ [root leaf node empty left]
termination_by _ _ entries => entries.length
decreasing_by
  · exact take_split_lt (by simp)
  · exact drop_split_lt (by simp)

/-- `PROOF` of RFC 6962; there is nothing to prove of an empty log. -/
def consistencyProof (count : Nat) (entries : List α) : List O :=
  if count = 0 then [] else subproof leaf node empty count true entries

variable {leaf node empty}

theorem subproof_all {entries : List α} {known : Bool} (present : entries ≠ []) :
    subproof leaf node empty entries.length known entries = if known then [] else [root leaf node empty entries] := by
  match entries with
  | [] => exact absurd rfl present
  | [entry] => simp [subproof, root]
  | first :: second :: rest => rw [subproof]; exact if_pos rfl

theorem subproof_left {entries : List α} {count : Nat} {known : Bool} (several : 2 ≤ entries.length)
    (left : count ≤ split entries.length) :
    subproof leaf node empty count known entries =
      subproof leaf node empty count known (entries.take (split entries.length)) ++
        [root leaf node empty (entries.drop (split entries.length))] := by
  have below := split_lt several
  match entries with
  | first :: second :: rest =>
    rw [subproof]
    exact (if_neg (by omega)).trans (if_pos left)

theorem subproof_right {entries : List α} {count : Nat} {known : Bool} (several : 2 ≤ entries.length)
    (right : split entries.length < count) (part : count < entries.length) :
    subproof leaf node empty count known entries =
      subproof leaf node empty (count - split entries.length) false (entries.drop (split entries.length)) ++
        [root leaf node empty (entries.take (split entries.length))] := by
  match entries with
  | first :: second :: rest =>
    rw [subproof]
    exact (if_neg part.ne).trans (if_neg (Nat.not_le.mpr right))

/-- The root of a block, and the audit path of the block.  The root is left out where it is known: of the first
block. -/
theorem subproof_eq {level index : Nat} (even : index % 2 = 0) (known : Bool) (entries : List α)
    (inside : 2 ^ level * (index + 1) < entries.length ∨ index = 0 ∧ entries.length = 2 ^ level) :
    subproof leaf node empty (2 ^ level * (index + 1)) known entries =
      (if known ∧ index = 0 then [] else [root leaf node empty (block level index entries)]) ++
        path id node empty index (blockRoots leaf node empty level entries) := by
  have unit := Nat.two_pow_pos level
  rcases inside with part | whole
  · have grown : 2 ^ level ≤ 2 ^ level * (index + 1) := Nat.le_mul_of_pos_right _ (Nat.succ_pos index)
    obtain ⟨several, top, shape, shape', several'⟩ := split_level_add (Nat.lt_of_le_of_lt grown part)
    have below := split_lt several
    have several' : 2 ≤ (blockRoots leaf node empty level entries).length := by rwa [length_blockRoots]
    have takeLength := length_take_split several
    rcases Nat.lt_or_ge index (2 ^ top) with left | right
    · have covers : 2 ^ level * (index + 1) ≤ split entries.length := shape ▸ Nat.mul_le_mul_left _ left
      -- An even index ends the left half only where that is a single block.
      have inside' : 2 ^ level * (index + 1) < (entries.take (split entries.length)).length ∨
          index = 0 ∧ (entries.take (split entries.length)).length = 2 ^ level := by
        rw [takeLength, shape]
        cases top with
        | zero => exact .inr ⟨by simpa using left, by simp⟩
        | succ top =>
          refine .inl (Nat.mul_lt_mul_of_pos_left ?_ unit)
          rw [pow_succ] at left ⊢
          omega
      rw [subproof_left several covers, subproof_eq even known _ inside',
        path_left several' (by rwa [length_blockRoots, shape']), length_blockRoots, shape', List.append_assoc,
        shape, block_take left, blockRoots_take (Nat.two_pow_pos top) (by omega), ← blockRoots_drop (by omega),
        root_blockRoots]
    · have past : split entries.length < 2 ^ level * (index + 1) :=
        shape ▸ Nat.mul_lt_mul_of_pos_left (Nat.lt_succ_of_le right) unit
      have even' : (index - 2 ^ top) % 2 = 0 := by
        cases top with
        | zero =>
          have last := lt_blockCount.mpr part
          have high := le_two_mul_split several'
          rw [length_blockRoots, shape'] at high
          omega
        | succ top =>
          rw [pow_succ] at right ⊢
          omega
      have later : 2 ^ level * (index + 1) - split entries.length = 2 ^ level * (index - 2 ^ top + 1) := by
        rw [shape, ← Nat.mul_sub, Nat.sub_add_comm right]
      have inside' : 2 ^ level * (index - 2 ^ top + 1) < (entries.drop (split entries.length)).length := by
        rw [← later, List.length_drop]
        omega
      have high := Nat.two_pow_pos top
      rw [subproof_right several past part, later, subproof_eq even' false _ (.inl inside'),
        path_right several' (by rwa [length_blockRoots, shape']), length_blockRoots, shape', List.append_assoc,
        shape, block_drop, Nat.add_sub_cancel' right, blockRoots_drop (by omega),
        ← blockRoots_take (Nat.two_pow_pos top) (by omega), root_blockRoots]
      simp [show index ≠ 0 by omega]
  · obtain ⟨rfl, length⟩ := whole
    have present : entries ≠ [] := List.ne_nil_of_length_pos (by omega)
    have all : subproof leaf node empty _ known entries = _ := subproof_all present
    rw [length] at all
    rw [blockRoots_single length.le, Nat.zero_add, Nat.mul_one, all]
    simp [path, block, List.take_of_length_le length.le]
termination_by entries.length
decreasing_by
  · exact take_split_lt several
  · exact drop_split_lt several

/-- The consistency proof of `index + 1` blocks, the index even. -/
theorem consistencyProof_eq {level index : Nat} (even : index % 2 = 0) {entries : List α}
    (part : 2 ^ level * (index + 1) < entries.length) :
    consistencyProof leaf node empty (2 ^ level * (index + 1)) entries =
      (if index = 0 then [] else [root leaf node empty (block level index entries)]) ++
        path id node empty index (blockRoots leaf node empty level entries) := by
  have positive : 2 ^ level * (index + 1) ≠ 0 := (Nat.mul_pos (Nat.two_pow_pos level) (Nat.succ_pos index)).ne'
  rw [consistencyProof, if_neg positive, subproof_eq even true entries (.inl part)]
  simp

/-! ## The verifier of consistency proofs -/

section Checks

variable (node) (width level index size : Nat)

/-- A path from a block of the larger log that leads to both roots. -/
structure Leads (seed : O) (path : List O) (oldRoot newRoot : O) : Prop where
  whole : path.length = pathSize width index (blockCount level size)
  earlier : earlierRoot node index (blockCount level size) seed path = oldRoot
  later : computedRoot node index (blockCount level size) seed path = newRoot

/-- What is checked of a proof that the log of `index + 1` blocks is the beginning of one of `size` entries. -/
def Checks (proof : List O) (oldRoot newRoot : O) : Prop :=
  if index = 0 then
    Leads node width level index size oldRoot proof oldRoot newRoot
  else
    ∃ seed path, proof = seed :: path ∧ Leads node width level index size seed path oldRoot newRoot

def proofPairs (proof : List O) (oldRoot : O) : List (O × O) :=
  if index = 0 then
    pathPairs node index (blockCount level size) oldRoot proof
  else
    match proof with
    | [] => []
    | seed :: path => pathPairs node index (blockCount level size) seed path

end Checks

section Decides

variable {width level index : Nat} {entries : List α}

theorem getElem?_blockRoots (part : 2 ^ level * (index + 1) < entries.length) :
    (blockRoots leaf node empty level entries)[index]? = some (root leaf node empty (block level index entries)) := by
  have inside : index < blockCount level entries.length := by
    have := lt_blockCount.mpr part
    omega
  simp [blockRoots, inside]

theorem blockRoots_fit (part : 2 ^ level * (index + 1) < entries.length) (fits : entries.length ≤ 2 ^ width) :
    (blockRoots leaf node empty level entries).length ≤ 2 ^ width := by
  rw [length_blockRoots]
  exact Nat.le_trans (blockCount_le (Nat.zero_lt_of_lt part)) fits

theorem leads_block (part : 2 ^ level * (index + 1) < entries.length) (fits : entries.length ≤ 2 ^ width) :
    Leads node width level index entries.length (root leaf node empty (block level index entries))
      (path id node empty index (blockRoots leaf node empty level entries))
      (root leaf node empty (entries.take (2 ^ level * (index + 1)))) (root leaf node empty entries) := by
  have found : (blockRoots leaf node empty level entries)[index]? = _ := getElem?_blockRoots part
  have small : (blockRoots leaf node empty level entries).length ≤ 2 ^ width := blockRoots_fit part fits
  have audited : _ ∧ computedRoot node index _ (id _) (path id node empty index _) = _ :=
    computedRoot_path _ index small found
  have earlier : earlierRoot node index _ (id _) (path id node empty index _) = _ :=
    earlierRoot_path _ index small found
  rw [root_blockRoots, length_blockRoots] at audited
  rw [← blockRoots_take (Nat.succ_pos index) part.le, root_blockRoots, length_blockRoots] at earlier
  exact ⟨audited.1, earlier, audited.2⟩

theorem block_zero : block level 0 entries = entries.take (2 ^ level * (0 + 1)) := by simp [block]

theorem checks_consistencyProof (even : index % 2 = 0) (part : 2 ^ level * (index + 1) < entries.length)
    (fits : entries.length ≤ 2 ^ width) :
    Checks node width level index entries.length
      (consistencyProof leaf node empty (2 ^ level * (index + 1)) entries)
      (root leaf node empty (entries.take (2 ^ level * (index + 1)))) (root leaf node empty entries) := by
  rw [Checks, consistencyProof_eq even part]
  split
  · rename_i zero
    subst zero
    have leads : Leads node width level 0 entries.length (root leaf node empty _) (path id node empty 0 _) _ _ :=
      leads_block part fits
    rwa [block_zero] at leads
  · exact ⟨_, _, rfl, leads_block part fits⟩

/-- Nothing else passes, unless a pair of the proof clashes with one of the log's tree. -/
theorem eq_of_checks (even : index % 2 = 0) (part : 2 ^ level * (index + 1) < entries.length)
    (fits : entries.length ≤ 2 ^ width) {proof : List O} {oldRoot : O}
    (checks : Checks node width level index entries.length proof oldRoot (root leaf node empty entries)) :
    (oldRoot = root leaf node empty (entries.take (2 ^ level * (index + 1))) ∧
        proof = consistencyProof leaf node empty (2 ^ level * (index + 1)) entries) ∨
      Clash node (proofPairs node level index entries.length proof oldRoot) (treePairs leaf node empty entries) := by
  -- What leads to the root of the log is a block with its audit path.
  have audited {seed : O} {siblings : List O}
      (leads : Leads node width level index entries.length seed siblings oldRoot (root leaf node empty entries)) :
      (seed = root leaf node empty (block level index entries) ∧
        siblings = path id node empty index (blockRoots leaf node empty level entries) ∧
        oldRoot = root leaf node empty (entries.take (2 ^ level * (index + 1)))) ∨
      Clash node (pathPairs node index (blockCount level entries.length) seed siblings)
        (treePairs leaf node empty entries) := by
    obtain ⟨whole, earlier, later⟩ := leads
    have found : (blockRoots leaf node empty level entries)[index]? = _ := getElem?_blockRoots part
    rw [← root_blockRoots level, ← length_blockRoots] at later
    rw [← length_blockRoots] at whole
    rcases eq_path_of_computedRoot _ index (blockRoots_fit part fits) found whole later with ⟨rfl, rfl⟩ | clash
    · exact .inl ⟨rfl, rfl, earlier.symm.trans (leads_block part fits).earlier⟩
    · rw [length_blockRoots] at clash
      exact .inr (clash.mono (List.Subset.refl _) (treePairs_blockRoots level entries))
  rw [consistencyProof_eq even part]
  unfold Checks at checks
  unfold proofPairs
  split at checks
  · rename_i zero
    rw [if_pos zero, if_pos zero, List.nil_append]
    exact (audited checks).imp_left fun ⟨_, siblings, earlier⟩ => ⟨earlier, siblings⟩
  · rename_i other
    obtain ⟨seed, siblings, rfl, leads⟩ := checks
    rw [if_neg other, if_neg other]
    refine (audited leads).imp_left ?_
    rintro ⟨rfl, rfl, earlier⟩
    exact ⟨earlier, rfl⟩

end Decides

end Proofs

/-! ## The bits of a size -/

/-- The number of zeros below the lowest one, or `width`. -/
def trailingZeros : Nat → Nat → Nat
  | 0, _ => 0
  | width + 1, value => if value % 2 = 1 then 0 else trailingZeros width (value / 2) + 1

theorem trailingZeros_spec {width value : Nat} (positive : 0 < value) (small : value < 2 ^ width) :
    trailingZeros width value < width ∧
      ∃ index, index % 2 = 0 ∧ value = 2 ^ trailingZeros width value * (index + 1) := by
  induction width generalizing value with
  | zero => omega
  | succ width ih =>
    rw [pow_succ] at small
    by_cases odd : value % 2 = 1
    · exact ⟨by simp [trailingZeros, odd], value - 1, by omega, by simp [trailingZeros, odd]; omega⟩
    · obtain ⟨short, index, even, half⟩ := ih (by omega : 0 < value / 2) (by omega)
      have unrolled : trailingZeros (width + 1) value = trailingZeros width (value / 2) + 1 := by
        simp [trailingZeros, odd]
      refine ⟨by omega, index, even, ?_⟩
      rw [unrolled, pow_succ, Nat.mul_right_comm, ← half]
      omega

theorem last_div {level index : Nat} : (2 ^ level * (index + 1) - 1) / 2 ^ level = index := by
  have counted : blockCount level (2 ^ level * (index + 1)) = index + 1 := blockCount_mul (Nat.succ_pos index)
  exact Nat.succ.inj counted

/-- Above the blocks, the last entry of the older log and the last one of the newer part as their blocks do. -/
theorem innerSize_blocks {level index size : Nat} (part : 2 ^ level * (index + 1) < size) :
    innerSize (2 ^ level * (index + 1) - 1) size = level + innerSize index (blockCount level size) := by
  have lower := lt_blockCount.mpr part
  have apart : index ≠ (size - 1) / 2 ^ level := by
    unfold blockCount at lower
    omega
  apply eq_of_forall_ge_iff
  intro upper
  rw [innerSize_le_iff, blockCount]
  rcases Nat.lt_or_ge upper level with below | above
  · refine iff_of_false (fun meet => apart ?_) (by omega)
    obtain ⟨rest, rfl⟩ := Nat.exists_eq_add_of_le below.le
    have lifted := congrArg (· / 2 ^ rest) meet
    simp only [Nat.div_div_eq_div_mul, ← pow_add] at lifted
    rwa [last_div] at lifted
  · obtain ⟨rest, rfl⟩ := Nat.exists_eq_add_of_le above
    rw [Nat.add_le_add_iff_left, innerSize_le_iff, pow_add, ← Nat.div_div_eq_div_mul, ← Nat.div_div_eq_div_mul,
      last_div, Nat.add_sub_cancel]

theorem borderSize_blocks {width level index size : Nat} (part : 2 ^ level * (index + 1) < size) :
    borderSize width (2 ^ level * (index + 1) - 1) size = borderSize width index (blockCount level size) := by
  rw [borderSize, innerSize_blocks part, Nat.shiftRight_add, Nat.shiftRight_eq_div_pow _ level, last_div, borderSize]

end MerkleTree
