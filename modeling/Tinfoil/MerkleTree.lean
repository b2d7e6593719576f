import Mathlib.Algebra.Order.Group.Nat
import Mathlib.Data.Nat.Bitwise
import Mathlib.Data.List.Basic
import Mathlib.Tactic.Ring

/-! # RFC 6962 Merkle trees

`root` and `path` are the recursive definitions of the tree hash and of the audit path, over
any leaf and node functions.  `computedRoot` is the bit-level verifier: an inner part of the
path is folded by the bits of the index, the rest along the right border of the tree.

* `computedRoot_left`, `computedRoot_right` — one step of the recursion is the last hash of
  the path; the inner part grows to the whole height on the left of the split and stays the
  same on the right of it.
* `computedRoot_path` — the audit path leads to the tree hash.
* `innerSize_congr`, `shape_lt` — sizes with one inner part share the verifier, others need
  paths of another length.
-/

namespace MerkleTree

/-! ## Bits -/

def bitLength (value : Nat) : Nat := if value = 0 then 0 else value.log2 + 1

/-- The number of ones among the low `width` bits. -/
def popCount : Nat → Nat → Nat
  | 0, _ => 0
  | width + 1, value => value % 2 + popCount width (value / 2)

theorem bitLength_le {value width : Nat} (small : value < 2 ^ width) : bitLength value ≤ width := by
  unfold bitLength
  split
  · omega
  · rename_i positive
    exact (Nat.log2_lt positive).mpr small

theorem bitLength_eq {value level : Nat} (low : 2 ^ level ≤ value) (high : value < 2 ^ (level + 1)) :
    bitLength value = level + 1 := by
  have positive : value ≠ 0 := by have := Nat.two_pow_pos level; omega
  simp only [bitLength, positive, if_false]
  rw [(Nat.log2_eq_iff positive).mpr ⟨low, high⟩]

@[simp] theorem popCount_zero (width : Nat) : popCount width 0 = 0 := by
  induction width with
  | zero => rfl
  | succ width ih => simp [popCount, ih]

theorem popCount_two_pow_add {level width low : Nat} (inside : level < width)
    (small : low < 2 ^ level) : popCount width (2 ^ level + low) = popCount width low + 1 := by
  induction level generalizing width low with
  | zero =>
    obtain ⟨width, rfl⟩ := Nat.exists_eq_succ_of_ne_zero (by omega : width ≠ 0)
    have zero : low = 0 := by simpa using small
    simp [popCount, zero]
  | succ level ih =>
    obtain ⟨width, rfl⟩ := Nat.exists_eq_succ_of_ne_zero (by omega : width ≠ 0)
    have parity : (2 ^ (level + 1) + low) % 2 = low % 2 := by rw [pow_succ]; omega
    have half : (2 ^ (level + 1) + low) / 2 = 2 ^ level + low / 2 := by rw [pow_succ]; omega
    simp only [popCount, parity, half]
    rw [ih (by omega) (by rw [pow_succ] at small; omega)]
    omega

theorem xor_two_pow_add {level left right : Nat} (leftSmall : left < 2 ^ level)
    (rightSmall : right < 2 ^ level) :
    (2 ^ level + left) ^^^ (2 ^ level + right) = left ^^^ right := by
  have top {low : Nat} (small : low < 2 ^ level) : 2 ^ level + low = 2 ^ level ||| low := by
    simpa using Nat.two_pow_add_eq_or_of_lt small 1
  rw [top leftSmall, top rightSmall]
  apply Nat.eq_of_testBit_eq
  intro bit
  by_cases top : level = bit
  · subst top
    simp [Nat.testBit_lt_two_pow leftSmall, Nat.testBit_lt_two_pow rightSmall]
  · simp [top]

theorem two_pow_add_shiftRight {level shift low : Nat} (inside : shift ≤ level) :
    (2 ^ level + low) >>> shift = 2 ^ (level - shift) + low >>> shift := by
  obtain ⟨rest, rfl⟩ := Nat.exists_eq_add_of_le inside
  rw [Nat.shiftRight_eq_div_pow, Nat.shiftRight_eq_div_pow, Nat.add_sub_cancel_left, pow_add,
    Nat.mul_add_div (Nat.two_pow_pos shift)]

/-! ## The split -/

/-- The largest power of two below `size`, for `size ≥ 2`. -/
def split (size : Nat) : Nat := 2 ^ (size - 1).log2

theorem split_pos (size : Nat) : 0 < split size := Nat.two_pow_pos _

theorem split_level {size : Nat} (several : 2 ≤ size) :
    ∃ level, split size = 2 ^ level ∧ 2 ^ level < size ∧ size ≤ 2 ^ (level + 1) := by
  have positive : size - 1 ≠ 0 := by omega
  obtain ⟨low, high⟩ := (Nat.log2_eq_iff positive).mp rfl
  exact ⟨(size - 1).log2, rfl, by omega, by omega⟩

theorem split_lt {size : Nat} (several : 2 ≤ size) : split size < size := by
  obtain ⟨level, same, below, -⟩ := split_level several
  omega

theorem length_take_split {α : Type*} {entries : List α} (several : 2 ≤ entries.length) :
    (entries.take (split entries.length)).length = split entries.length := by
  have := split_lt several
  rw [List.length_take]
  omega

theorem take_split_lt {α : Type*} {entries : List α} (several : 2 ≤ entries.length) :
    (entries.take (split entries.length)).length < entries.length := by
  rw [length_take_split several]
  exact split_lt several

theorem drop_split_lt {α : Type*} {entries : List α} (several : 2 ≤ entries.length) :
    (entries.drop (split entries.length)).length < entries.length := by
  have := split_pos entries.length
  rw [List.length_drop]
  omega

/-! ## Tree hash and audit path -/

section Tree

variable {α O : Type*} (leaf : α → O) (node : O → O → O) (empty : O)

/-- `MTH` of RFC 6962. -/
def root : List α → O
  | [] => empty
  | [entry] => leaf entry
  | first :: second :: rest =>
    let entries := first :: second :: rest
    node (root (entries.take (split entries.length))) (root (entries.drop (split entries.length)))
termination_by entries => entries.length
decreasing_by
  · exact take_split_lt (by simp)
  · exact drop_split_lt (by simp)

/-- `PATH` of RFC 6962. -/
def path : Nat → List α → List O
  | _, [] => []
  | _, [_] => []
  | index, first :: second :: rest =>
    let entries := first :: second :: rest
    let left := entries.take (split entries.length)
    let right := entries.drop (split entries.length)
    if index < split entries.length then
      path index left ++ [root leaf node empty right]
    else
      path (index - split entries.length) right ++ [root leaf node empty left]
termination_by _ entries => entries.length
decreasing_by
  · exact take_split_lt (by simp)
  · exact drop_split_lt (by simp)

variable {leaf node empty}

theorem root_split {entries : List α} (several : 2 ≤ entries.length) :
    root leaf node empty entries =
      node (root leaf node empty (entries.take (split entries.length)))
        (root leaf node empty (entries.drop (split entries.length))) := by
  match entries with
  | first :: second :: rest => rw [root]

theorem path_left {entries : List α} {index : Nat} (several : 2 ≤ entries.length)
    (left : index < split entries.length) :
    path leaf node empty index entries =
      path leaf node empty index (entries.take (split entries.length)) ++
        [root leaf node empty (entries.drop (split entries.length))] := by
  match entries with
  | first :: second :: rest => rw [path]; exact if_pos left

theorem path_right {entries : List α} {index : Nat} (several : 2 ≤ entries.length)
    (right : split entries.length ≤ index) :
    path leaf node empty index entries =
      path leaf node empty (index - split entries.length) (entries.drop (split entries.length)) ++
        [root leaf node empty (entries.take (split entries.length))] := by
  match entries with
  | first :: second :: rest => rw [path]; exact if_neg (Nat.not_lt.mpr right)

end Tree

/-! ## The verifier -/

section Verifier

variable {O : Type*} (node : O → O → O)

/-- Fold a path upwards, the bits of the index telling left from right. -/
def climb : O → List O → Nat → O
  | seed, [], _ => seed
  | seed, sibling :: path, index =>
    climb (if index % 2 = 0 then node seed sibling else node sibling seed) path (index / 2)

/-- Fold a path along the right border: every sibling is on the left. -/
def climbBorder (seed : O) (path : List O) : O :=
  path.foldl (fun below sibling => node sibling below) seed

/-- Where the paths to `index` and to the last leaf part. -/
def innerSize (index size : Nat) : Nat := bitLength (index ^^^ (size - 1))

def borderSize (width index size : Nat) : Nat := popCount width (index >>> innerSize index size)

def pathSize (width index size : Nat) : Nat := innerSize index size + borderSize width index size

def computedRoot (index size : Nat) (seed : O) (path : List O) : O :=
  climbBorder node (climb node seed (path.take (innerSize index size)) index)
    (path.drop (innerSize index size))

variable {node}

theorem climb_append (seed sibling : O) (path : List O) (index : Nat) :
    climb node seed (path ++ [sibling]) index =
      if index.testBit path.length then node sibling (climb node seed path index)
      else node (climb node seed path index) sibling := by
  induction path generalizing seed index with
  | nil => by_cases even : index % 2 = 0 <;> simp [climb, Nat.testBit_zero, even]
  | cons first path ih =>
    simp only [List.cons_append, climb, ih, List.length_cons, Nat.testBit_add_one]

/-- Only the low bits of the index matter. -/
theorem climb_add {seed : O} {path : List O} {level : Nat} (short : path.length ≤ level)
    (high index : Nat) : climb node seed path (2 ^ level * high + index) = climb node seed path index := by
  induction path generalizing seed level index with
  | nil => rfl
  | cons first path ih =>
    obtain ⟨level, rfl⟩ := Nat.exists_eq_succ_of_ne_zero (by simp at short; omega : level ≠ 0)
    have parity : (2 ^ (level + 1) * high + index) % 2 = index % 2 := by
      rw [pow_succ, Nat.mul_comm _ 2, Nat.mul_assoc]; omega
    have half : (2 ^ (level + 1) * high + index) / 2 = 2 ^ level * high + index / 2 := by
      rw [pow_succ, Nat.mul_comm _ 2, Nat.mul_assoc]; omega
    simp only [climb, Nat.succ_eq_add_one, parity, half]
    exact ih (by simpa using short) _

theorem climbBorder_append (seed sibling : O) (path : List O) :
    climbBorder node seed (path ++ [sibling]) = node sibling (climbBorder node seed path) := by
  simp [climbBorder]

/-! ## One step of the recursion -/

theorem innerSize_left {index size level : Nat} (below : 2 ^ level < size)
    (high : size ≤ 2 ^ (level + 1)) (left : index < 2 ^ level) :
    innerSize index size = level + 1 := by
  have top : (size - 1).testBit level = true := by
    rw [Nat.testBit_eq_decide_div_mod_eq]
    have quotient : (size - 1) / 2 ^ level = 1 := by
      rw [pow_succ] at high
      rw [Nat.div_eq_iff (Nat.two_pow_pos level)]
      omega
    simp [quotient]
  apply bitLength_eq
  · apply Nat.ge_two_pow_of_testBit
    simp [top, Nat.testBit_lt_two_pow left]
  · apply Nat.xor_lt_two_pow <;> rw [pow_succ] at * <;> omega

theorem pathSize_left {width index size level : Nat} (below : 2 ^ level < size)
    (high : size ≤ 2 ^ (level + 1)) (left : index < 2 ^ level) :
    pathSize width index size = level + 1 := by
  have inner := innerSize_left below high left
  have none : index >>> (level + 1) = 0 := by
    rw [Nat.shiftRight_eq_div_pow]
    exact Nat.div_eq_of_lt (by rw [pow_succ]; omega)
  simp [pathSize, borderSize, inner, none]

theorem innerSize_le {index size level : Nat} (left : index < 2 ^ level) (right : size ≤ 2 ^ level)
    (positive : 0 < size) : innerSize index size ≤ level :=
  bitLength_le (Nat.xor_lt_two_pow left (by omega))

theorem innerSize_right {index size level : Nat} (high : size ≤ 2 ^ (level + 1))
    (right : 2 ^ level ≤ index) (inside : index < size) :
    innerSize index size = innerSize (index - 2 ^ level) (size - 2 ^ level) := by
  rw [pow_succ] at high
  have index' : 2 ^ level + (index - 2 ^ level) = index := by omega
  have last : 2 ^ level + (size - 2 ^ level - 1) = size - 1 := by omega
  have same : index ^^^ (size - 1) = (index - 2 ^ level) ^^^ (size - 2 ^ level - 1) := by
    rw [← xor_two_pow_add (by omega : index - 2 ^ level < 2 ^ level) (by omega), index', last]
  rw [innerSize, innerSize, same]

theorem pathSize_right {width index size level : Nat} (narrow : level < width)
    (high : size ≤ 2 ^ (level + 1)) (right : 2 ^ level ≤ index) (inside : index < size) :
    pathSize width index size = pathSize width (index - 2 ^ level) (size - 2 ^ level) + 1 := by
  have same := innerSize_right high right inside
  rw [pow_succ] at high
  have short : innerSize (index - 2 ^ level) (size - 2 ^ level) ≤ level :=
    innerSize_le (by omega) (by omega) (by omega)
  have shifted : index >>> innerSize index size =
      2 ^ (level - innerSize index size) + (index - 2 ^ level) >>> innerSize index size := by
    rw [← two_pow_add_shiftRight (same ▸ short)]
    rw [show 2 ^ level + (index - 2 ^ level) = index by omega]
  have small : (index - 2 ^ level) >>> innerSize index size <
      2 ^ (level - innerSize index size) := by
    rw [Nat.shiftRight_eq_div_pow, Nat.div_lt_iff_lt_mul (Nat.two_pow_pos _), ← pow_add]
    rw [Nat.sub_add_cancel (same ▸ short)]
    omega
  unfold pathSize borderSize
  rw [shifted, popCount_two_pow_add (by omega) small, same]
  omega

theorem computedRoot_left {index size level : Nat} {seed sibling : O} {path : List O}
    (below : 2 ^ level < size) (high : size ≤ 2 ^ (level + 1)) (left : index < 2 ^ level)
    (whole : path.length = level) :
    computedRoot node index size seed (path ++ [sibling]) =
      node (climb node seed path index) sibling := by
  have inner := innerSize_left below high left
  have length : (path ++ [sibling]).length = level + 1 := by simp [whole]
  rw [computedRoot, inner, List.take_of_length_le (by omega), List.drop_of_length_le (by omega)]
  rw [climb_append, whole, Nat.testBit_lt_two_pow left]
  rfl

theorem computedRoot_right {width index size level : Nat} {seed sibling : O} {path : List O}
    (high : size ≤ 2 ^ (level + 1)) (right : 2 ^ level ≤ index) (inside : index < size)
    (whole : path.length = pathSize width (index - 2 ^ level) (size - 2 ^ level)) :
    computedRoot node index size seed (path ++ [sibling]) =
      node sibling (computedRoot node (index - 2 ^ level) (size - 2 ^ level) seed path) := by
  have same := innerSize_right high right inside
  rw [pow_succ] at high
  have short : innerSize (index - 2 ^ level) (size - 2 ^ level) ≤ level :=
    innerSize_le (by omega) (by omega) (by omega)
  have fits : innerSize (index - 2 ^ level) (size - 2 ^ level) ≤ path.length := by
    rw [whole]; exact Nat.le_add_right _ _
  -- Below the split the bits of the index are those of the index in the right subtree.
  have folded : climb node seed (path.take (innerSize (index - 2 ^ level) (size - 2 ^ level))) index =
      climb node seed (path.take (innerSize (index - 2 ^ level) (size - 2 ^ level)))
        (index - 2 ^ level) := by
    rw [← climb_add (by simp; omega : _ ≤ level) 1 (index - 2 ^ level)]
    rw [show 2 ^ level * 1 + (index - 2 ^ level) = index by omega]
  unfold computedRoot
  rw [same, List.take_append_of_le_length fits, List.drop_append_of_le_length fits,
    climbBorder_append, folded]

theorem exists_concat {path : List O} {length : Nat} (whole : path.length = length + 1) :
    ∃ lower sibling, path = lower ++ [sibling] ∧ lower.length = length := by
  rcases path.eq_nil_or_concat' with rfl | ⟨lower, sibling, rfl⟩
  · simp at whole
  · exact ⟨lower, sibling, rfl, by simpa using whole⟩

theorem perfect {width index level : Nat} (narrow : level ≤ width) (inside : index < 2 ^ level)
    (seed : O) : pathSize width index (2 ^ level) = level ∧
      ∀ path : List O, path.length = level →
        computedRoot node index (2 ^ level) seed path = climb node seed path index := by
  induction level generalizing index with
  | zero =>
    have zero : index = 0 := by simpa using inside
    subst zero
    refine ⟨by simp [pathSize, borderSize, innerSize, bitLength], ?_⟩
    intro path empty
    rw [List.length_eq_zero_iff.mp empty]
    simp [computedRoot, climbBorder]
  | succ level ih =>
    have positive := Nat.two_pow_pos level
    have double : 2 ^ (level + 1) = 2 ^ level * 2 := pow_succ 2 level
    rcases Nat.lt_or_ge index (2 ^ level) with left | right
    · refine ⟨pathSize_left (by omega) le_rfl left, ?_⟩
      intro path whole
      obtain ⟨lower, sibling, rfl, length⟩ := exists_concat whole
      rw [computedRoot_left (by omega) le_rfl left length, climb_append, length,
        Nat.testBit_lt_two_pow left]
      rfl
    · have rest : 2 ^ (level + 1) - 2 ^ level = 2 ^ level := by omega
      obtain ⟨size, same⟩ := ih (by omega) (by omega : index - 2 ^ level < 2 ^ level)
      refine ⟨by rw [pathSize_right (by omega) le_rfl right inside, rest, size], ?_⟩
      intro path whole
      obtain ⟨lower, sibling, rfl, length⟩ := exists_concat whole
      -- Below the top level only the lower bits of the index count.
      have folded : climb node seed lower index = climb node seed lower (index - 2 ^ level) := by
        rw [← climb_add length.le 1 (index - 2 ^ level)]
        rw [show 2 ^ level * 1 + (index - 2 ^ level) = index by omega]
      have top : index.testBit level = true := by
        rw [show index = 2 ^ level + (index - 2 ^ level) by omega, Nat.testBit_two_pow_add_eq,
          Nat.testBit_lt_two_pow (by omega : index - 2 ^ level < 2 ^ level)]
        rfl
      have whole : lower.length = pathSize width (index - 2 ^ level) (2 ^ (level + 1) - 2 ^ level) := by
        rw [rest, size, length]
      rw [computedRoot_right le_rfl right inside whole, rest, same lower length, climb_append, length,
        top, if_pos rfl, folded]

end Verifier

/-! ## The verifier accepts the audit path -/

section Decides

variable {α O : Type*} {leaf : α → O} {node : O → O → O} {empty : O}

theorem level_lt {width level size : Nat} (below : 2 ^ level < size) (fits : size ≤ 2 ^ width) :
    level < width :=
  (Nat.pow_lt_pow_iff_right (by decide)).mp (Nat.lt_of_lt_of_le below fits)

theorem getElem?_take_split {entries : List α} {index : Nat} {entry : α}
    (left : index < split entries.length) (found : entries[index]? = some entry) :
    (entries.take (split entries.length))[index]? = some entry := by
  rw [List.getElem?_take_of_lt left, found]

theorem getElem?_drop_split {entries : List α} {index : Nat} {entry : α}
    (right : split entries.length ≤ index) (found : entries[index]? = some entry) :
    (entries.drop (split entries.length))[index - split entries.length]? = some entry := by
  rw [List.getElem?_drop, Nat.add_sub_cancel' right, found]

/-- The audit path has the expected length and leads to the tree hash. -/
theorem computedRoot_path {width : Nat} (entries : List α) (index : Nat) {entry : α}
    (fits : entries.length ≤ 2 ^ width) (found : entries[index]? = some entry) :
    (path leaf node empty index entries).length = pathSize width index entries.length ∧
      computedRoot node index entries.length (leaf entry) (path leaf node empty index entries) =
        root leaf node empty entries := by
  have inside := (List.getElem?_eq_some_iff.mp found).1
  rcases Nat.lt_or_ge entries.length 2 with single | several
  · obtain ⟨only, rfl⟩ := List.length_eq_one_iff.mp (by omega : entries.length = 1)
    have zero : index = 0 := by simpa using inside
    subst zero
    cases found
    simp [path, root, pathSize, borderSize, innerSize, bitLength, computedRoot, climb, climbBorder]
  · obtain ⟨level, shape, below, high⟩ := split_level several
    have narrow := level_lt below fits
    have takeLength := length_take_split several
    have dropLength : (entries.drop (split entries.length)).length =
      entries.length - split entries.length := List.length_drop
    have leftFits : (entries.take (split entries.length)).length ≤ 2 ^ width := by omega
    have rightFits : (entries.drop (split entries.length)).length ≤ 2 ^ width := by omega
    rcases Nat.lt_or_ge index (split entries.length) with left | right
    · obtain ⟨whole, correct⟩ := computedRoot_path (entries.take (split entries.length)) index leftFits
        (getElem?_take_split left found)
      rw [path_left several left, root_split several]
      rw [takeLength, shape] at whole correct
      rw [shape] at left ⊢
      -- The left half is a perfect tree, where the bits of the index alone say how to climb.
      obtain ⟨size, same⟩ := perfect narrow.le left (leaf entry)
      rw [size] at whole
      rw [same _ whole] at correct
      refine ⟨?_, ?_⟩
      · rw [List.length_append, whole, pathSize_left below high left]
        rfl
      · rw [computedRoot_left below high left whole, correct]
    · obtain ⟨whole, correct⟩ := computedRoot_path (entries.drop (split entries.length))
        (index - split entries.length) rightFits (getElem?_drop_split right found)
      rw [path_right several right, root_split several]
      rw [dropLength, shape] at whole correct
      rw [shape] at right ⊢
      refine ⟨?_, ?_⟩
      · rw [List.length_append, whole, pathSize_right narrow high right inside]
        rfl
      · rw [computedRoot_right high right inside whole, correct]
termination_by entries.length
decreasing_by
  · exact take_split_lt several
  · exact drop_split_lt several

end Decides

/-! ## The sizes that share a shape -/

theorem bitLength_le_iff {value width : Nat} : bitLength value ≤ width ↔ value < 2 ^ width := by
  constructor
  · intro short
    unfold bitLength at short
    split at short
    · rename_i zero
      rw [zero]
      exact Nat.two_pow_pos width
    · rename_i positive
      exact (Nat.log2_lt positive).mp short
  · exact bitLength_le

/-- The inner part ends at the level where the index and the last leaf meet. -/
theorem innerSize_le_iff {index size level : Nat} :
    innerSize index size ≤ level ↔ index / 2 ^ level = (size - 1) / 2 ^ level := by
  rw [innerSize, bitLength_le_iff, ← Nat.div_eq_zero_iff_lt (Nat.two_pow_pos level),
    ← Nat.shiftRight_eq_div_pow, Nat.shiftRight_xor_distrib, Nat.xor_eq_zero_iff,
    Nat.shiftRight_eq_div_pow, Nat.shiftRight_eq_div_pow]

/-- Sizes that agree from some level on, and part from the index there, have one shape. -/
theorem innerSize_congr {index size size' level : Nat}
    (same : (size - 1) / 2 ^ level = (size' - 1) / 2 ^ level)
    (apart : index / 2 ^ level ≠ (size - 1) / 2 ^ level) :
    innerSize index size = innerSize index size' := by
  have lift {lower value : Nat} (below : lower ≤ level) :
      value / 2 ^ lower / 2 ^ (level - lower) = value / 2 ^ level := by
    rw [Nat.div_div_eq_div_mul, ← pow_add, Nat.add_sub_cancel' below]
  apply eq_of_forall_ge_iff
  intro upper
  rw [innerSize_le_iff, innerSize_le_iff]
  by_cases below : upper ≤ level
  · have parted {last : Nat} (apart : index / 2 ^ level ≠ last / 2 ^ level) :
        index / 2 ^ upper ≠ last / 2 ^ upper := by
      intro meet
      apply apart
      rw [← lift below, meet, lift below]
    exact iff_of_false (parted apart) (parted (same ▸ apart))
  · obtain ⟨rest, rfl⟩ := Nat.exists_eq_add_of_le (Nat.le_of_not_le below)
    rw [pow_add, ← Nat.div_div_eq_div_mul, ← Nat.div_div_eq_div_mul, ← Nat.div_div_eq_div_mul, same]

theorem popCount_le_succ (width value : Nat) : popCount width value ≤ popCount (width + 1) value := by
  induction width generalizing value with
  | zero => exact Nat.zero_le _
  | succ width ih =>
    have := ih (value / 2)
    rw [popCount, popCount]
    omega

theorem popCount_half (width value : Nat) :
    popCount width value ≤ value % 2 + popCount width (value / 2) := by
  have := popCount_le_succ width value
  rwa [popCount] at this

theorem popCount_shiftRight (width value levels : Nat) :
    popCount width value ≤ levels + popCount width (value >>> levels) := by
  induction levels generalizing value with
  | zero => simp
  | succ levels ih =>
    have half := popCount_half width value
    have rest := ih (value / 2)
    rw [← Nat.shiftRight_succ_inside] at rest
    omega

/-- Higher inner parts come with longer paths: at its top the index goes left. -/
theorem shape_lt {width index size lower : Nat} (inside : index < size) (higher : lower < innerSize index size) :
    lower + popCount width (index >>> lower) <
      innerSize index size + popCount width (index >>> innerSize index size) := by
  obtain ⟨top, same⟩ : ∃ top, innerSize index size = top + 1 := ⟨innerSize index size - 1, by omega⟩
  have meet := innerSize_le_iff.mp same.le
  have part : ¬ innerSize index size ≤ top := by omega
  rw [innerSize_le_iff] at part
  have ordered : index / 2 ^ top ≤ (size - 1) / 2 ^ top := Nat.div_le_div_right (by omega)
  rw [pow_succ, ← Nat.div_div_eq_div_mul, ← Nat.div_div_eq_div_mul] at meet
  have left : (index >>> top) % 2 = 0 := by
    rw [Nat.shiftRight_eq_div_pow]
    omega
  have last := popCount_half width (index >>> top)
  have rest := popCount_shiftRight width (index >>> lower) (top - lower)
  rw [← Nat.shiftRight_add, Nat.add_sub_cancel' (by omega)] at rest
  rw [left, ← Nat.shiftRight_succ] at last
  rw [same]
  omega

end MerkleTree
