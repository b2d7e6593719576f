import Mathlib.Data.List.Forall2
import Tinfoil.MerkleTree

/-! # What a tree hash binds

Two ways to one tree hash are the same, or hash two different pairs to one hash.  `traced` keeps the pairs that are
hashed beside each hash, so that such a `Clash` is one of pairs that were hashed, and not one of any pairs.

* `eq_path_of_computedRoot` — what leads to a tree hash is the leaf with its audit path.
* `eq_of_root` — logs of one length with one tree hash are the same.
-/

namespace MerkleTree

/-! ## The pairs behind a hash -/

section Traced

variable {α O : Type*} (leaf : α → O) (node : O → O → O) (empty : O)

/-- A hash that nothing was hashed for. -/
def untraced (hash : O) : O × List (O × O) := (hash, [])

/-- A node, with the pairs that were hashed for it. -/
def traced (left right : O × List (O × O)) : O × List (O × O) :=
  (node left.1 right.1, (left.1, right.1) :: (left.2 ++ right.2))

def treePairs (entries : List α) : List (O × O) :=
  (root (untraced ∘ leaf) (traced node) (untraced empty) entries).2

def pathPairs (index size : Nat) (seed : O) (path : List O) : List (O × O) :=
  (computedRoot (traced node) index size (untraced seed) (path.map untraced)).2

/-- Two different pairs, one of each list, have one hash. -/
def Clash (pairs pairs' : List (O × O)) : Prop :=
  ∃ pair ∈ pairs, ∃ pair' ∈ pairs', pair ≠ pair' ∧ node pair.1 pair.2 = node pair'.1 pair'.2

variable {leaf node empty}

/-- Tree hashes of the same shape are related as their leaves are. -/
theorem root_rel {β O' : Type*} {R : O → O' → Prop} {leaf' : β → O'} {node' : O' → O' → O'} {empty' : O'}
    (nodes : ∀ {left left' right right'}, R left left' → R right right' → R (node left right) (node' left' right'))
    (nothing : R empty empty') {entries : List α} {entries' : List β}
    (leaves : List.Forall₂ (fun entry entry' => R (leaf entry) (leaf' entry')) entries entries') :
    R (root leaf node empty entries) (root leaf' node' empty' entries') := by
  have length := leaves.length_eq
  rcases Nat.lt_or_ge entries.length 2 with single | several
  · cases leaves with
    | nil => simpa [root] using nothing
    | cons first rest =>
      cases rest with
      | nil => simpa [root] using first
      | cons second rest =>
        rw [List.length_cons, List.length_cons] at single
        omega
  · have several' : 2 ≤ entries'.length := length ▸ several
    rw [root_split several, root_split several', ← length]
    exact nodes (root_rel nodes nothing (List.forall₂_take _ leaves))
      (root_rel nodes nothing (List.forall₂_drop _ leaves))
termination_by entries.length
decreasing_by
  · exact take_split_lt several
  · exact drop_split_lt several

theorem root_traced (entries : List α) :
    root (untraced ∘ leaf) (traced node) (untraced empty) entries =
      (root leaf node empty entries, treePairs leaf node empty entries) := by
  -- The pairs are carried along and change no hash.
  have same : (root (untraced ∘ leaf) (traced node) (untraced empty) entries).1 = root leaf node empty entries := by
    refine root_rel (R := fun (pair : O × List (O × O)) hash => pair.1 = hash) ?_ rfl
      (List.forall₂_same.mpr fun _ _ => rfl)
    rintro _ _ _ _ rfl rfl
    rfl
  rw [← same]
  rfl

theorem treePairs_split {entries : List α} (several : 2 ≤ entries.length) :
    treePairs leaf node empty entries =
      (root leaf node empty (entries.take (split entries.length)),
          root leaf node empty (entries.drop (split entries.length))) ::
        (treePairs leaf node empty (entries.take (split entries.length)) ++
          treePairs leaf node empty (entries.drop (split entries.length))) := by
  rw [treePairs, root_split several, root_traced, root_traced]
  rfl

theorem climb_traced (seed : O) (path : List O) (index : Nat) (pairs : List (O × O)) :
    (climb (traced node) (seed, pairs) (path.map untraced) index).1 = climb node seed path index := by
  induction path generalizing seed index pairs with
  | nil => rfl
  | cons sibling path ih => by_cases even : index % 2 = 0 <;> simp [climb, even, traced, untraced, ih]

theorem climbBorder_traced (seed : O × List (O × O)) (path : List O) :
    (climbBorder (traced node) seed (path.map untraced)).1 = climbBorder node seed.1 path := by
  induction path generalizing seed with
  | nil => rfl
  | cons sibling path ih => exact ih _

theorem computedRoot_traced (index size : Nat) (seed : O) (path : List O) :
    computedRoot (traced node) index size (untraced seed) (path.map untraced) =
      (computedRoot node index size seed path, pathPairs node index size seed path) := by
  have same : (computedRoot (traced node) index size (untraced seed) (path.map untraced)).1 =
      computedRoot node index size seed path := by
    rw [computedRoot, ← List.map_take, ← List.map_drop, climbBorder_traced, untraced, climb_traced, computedRoot]
  rw [← same]
  rfl

theorem pathPairs_left {index size level : Nat} {seed sibling : O} {path : List O} (below : 2 ^ level < size)
    (high : size ≤ 2 ^ (level + 1)) (left : index < 2 ^ level) (whole : path.length = level) :
    pathPairs node index size seed (path ++ [sibling]) =
      (climb node seed path index, sibling) :: pathPairs node index (2 ^ level) seed path := by
  have length : (path.map untraced).length = level := by rw [List.length_map, whole]
  have lower : computedRoot (traced node) index (2 ^ level) (untraced seed) (path.map untraced) = _ :=
    (perfect le_rfl left (untraced seed)).2 _ length
  rw [pathPairs, List.map_append, List.map_singleton, computedRoot_left below high left length, ← lower,
    computedRoot_traced, (perfect le_rfl left seed).2 _ whole]
  simp [traced, untraced]

theorem pathPairs_right {width index size level : Nat} {seed sibling : O} {path : List O} (high : size ≤ 2 ^ (level + 1))
    (right : 2 ^ level ≤ index) (inside : index < size)
    (whole : path.length = pathSize width (index - 2 ^ level) (size - 2 ^ level)) :
    pathPairs node index size seed (path ++ [sibling]) =
      (sibling, computedRoot node (index - 2 ^ level) (size - 2 ^ level) seed path) ::
        pathPairs node (index - 2 ^ level) (size - 2 ^ level) seed path := by
  rw [pathPairs, List.map_append, List.map_singleton, computedRoot_right high right inside (by rwa [List.length_map]),
    computedRoot_traced]
  rfl

end Traced

/-! ## Clashes -/

section Clash

variable {O : Type*} {node : O → O → O} {pairs pairs' more more' : List (O × O)}

theorem Clash.mono (clash : Clash node pairs pairs') (sub : pairs ⊆ more) (sub' : pairs' ⊆ more') :
    Clash node more more' := by
  obtain ⟨pair, member, pair', member', differ, same⟩ := clash
  exact ⟨pair, sub member, pair', sub' member', differ, same⟩

theorem Clash.not_injective (clash : Clash node pairs pairs') : ¬ Function.Injective2 node := by
  intro injective
  obtain ⟨pair, -, pair', -, differ, same⟩ := clash
  obtain ⟨left, right⟩ := injective same
  exact differ (Prod.ext left right)

theorem eq_or_clash {left left' right right' : O} (same : node left right = node left' right') :
    (left = left' ∧ right = right') ∨ Clash node ((left, right) :: pairs) ((left', right') :: pairs') := by
  by_cases pair : (left, right) = (left', right')
  · exact .inl (Prod.mk.inj pair)
  · exact .inr ⟨_, List.mem_cons_self, _, List.mem_cons_self, pair, same⟩

end Clash

/-! ## Paths to a tree hash -/

section Decides

variable {α O : Type*} {leaf : α → O} {node : O → O → O} {empty : O}

/-- Whatever leads to the tree hash is the leaf with its audit path, or a pair on the way clashes with one of the
tree. -/
theorem eq_path_of_computedRoot {width : Nat} (entries : List α) (index : Nat) {entry : α}
    (fits : entries.length ≤ 2 ^ width) (found : entries[index]? = some entry) {seed : O} {proof : List O}
    (whole : proof.length = pathSize width index entries.length)
    (correct : computedRoot node index entries.length seed proof = root leaf node empty entries) :
    (seed = leaf entry ∧ proof = path leaf node empty index entries) ∨
      Clash node (pathPairs node index entries.length seed proof) (treePairs leaf node empty entries) := by
  have inside := (List.getElem?_eq_some_iff.mp found).1
  rcases Nat.lt_or_ge entries.length 2 with single | several
  · obtain ⟨only, rfl⟩ := List.length_eq_one_iff.mp (by omega : entries.length = 1)
    have zero : index = 0 := by simpa using inside
    subst zero
    cases found
    have nothing : proof = [] := by
      simpa [pathSize, borderSize, innerSize, bitLength] using whole
    subst nothing
    exact .inl (by simpa [path, root, computedRoot, climb, climbBorder] using correct)
  · obtain ⟨level, shape, below, high⟩ := split_level several
    have narrow := level_lt below fits
    have takeLength := length_take_split several
    have dropLength : (entries.drop (split entries.length)).length =
      entries.length - split entries.length := List.length_drop
    have leftFits : (entries.take (split entries.length)).length ≤ 2 ^ width := by omega
    have rightFits : (entries.drop (split entries.length)).length ≤ 2 ^ width := by omega
    -- The last hash fixes both halves, or is one of a clash.
    rw [root_split several] at correct
    rw [treePairs_split several]
    rcases Nat.lt_or_ge index (split entries.length) with left | right
    · rw [path_left several left]
      rw [pathSize_left below high (shape ▸ left)] at whole
      obtain ⟨lower, sibling, rfl, length⟩ := exists_concat whole
      rw [computedRoot_left below high (shape ▸ left) length] at correct
      rw [pathPairs_left below high (shape ▸ left) length]
      rcases eq_or_clash correct with ⟨leftRoot, rightRoot⟩ | clash
      · obtain ⟨size, same⟩ := perfect narrow.le (shape ▸ left) seed
        have lowerWhole : lower.length =
            pathSize width index (entries.take (split entries.length)).length := by
          rw [takeLength, shape, size, length]
        have lowerCorrect : computedRoot node index (entries.take (split entries.length)).length seed
            lower = root leaf node empty (entries.take (split entries.length)) := by
          rw [takeLength, shape, same lower length, leftRoot, shape]
        rcases eq_path_of_computedRoot _ index leftFits (getElem?_take_split left found) lowerWhole lowerCorrect with
          ⟨rfl, rfl⟩ | clash
        · exact .inl ⟨rfl, by rw [rightRoot]⟩
        · rw [takeLength, shape] at clash
          refine .inr (clash.mono (List.subset_cons_self ..) ?_)
          rw [shape]
          exact List.subset_cons_of_subset _ (List.subset_append_left ..)
      · exact .inr clash
    · rw [path_right several right]
      rw [pathSize_right narrow high (shape ▸ right) inside] at whole
      obtain ⟨lower, sibling, rfl, length⟩ := exists_concat whole
      rw [computedRoot_right high (shape ▸ right) inside length] at correct
      rw [pathPairs_right high (shape ▸ right) inside length]
      rcases eq_or_clash correct with ⟨leftRoot, rightRoot⟩ | clash
      · rw [← shape] at length rightRoot
        rw [← dropLength] at length rightRoot
        rcases eq_path_of_computedRoot _ _ rightFits (getElem?_drop_split right found) length rightRoot with
          ⟨rfl, rfl⟩ | clash
        · exact .inl ⟨rfl, by rw [leftRoot]⟩
        · rw [dropLength, shape] at clash
          refine .inr (clash.mono (List.subset_cons_self ..) ?_)
          rw [shape]
          exact List.subset_cons_of_subset _ (List.subset_append_right ..)
      · exact .inr clash
termination_by entries.length
decreasing_by
  · exact take_split_lt several
  · exact drop_split_lt several

/-! ## Logs with one tree hash -/

/-- Two different entries at one place have one hash. -/
def LeafClash (leaf : α → O) (entries entries' : List α) : Prop :=
  ∃ (number : Nat) (entry entry' : α), entries[number]? = some entry ∧ entries'[number]? = some entry' ∧ entry ≠ entry' ∧
    leaf entry = leaf entry'

theorem LeafClash.of_take_right {entries entries' : List α} {count : Nat}
    (clash : LeafClash leaf entries (entries'.take count)) : LeafClash leaf entries entries' := by
  obtain ⟨number, entry, entry', here, here', differ⟩ := clash
  simp only [List.getElem?_take, Option.ite_none_right_eq_some] at here'
  exact ⟨number, entry, entry', here, here'.2, differ⟩

theorem LeafClash.of_take {entries entries' : List α} {count : Nat}
    (clash : LeafClash leaf (entries.take count) (entries'.take count)) : LeafClash leaf entries entries' := by
  obtain ⟨number, entry, entry', here, here', differ⟩ := clash
  simp only [List.getElem?_take, Option.ite_none_right_eq_some] at here
  exact LeafClash.of_take_right ⟨number, entry, entry', here.2, here', differ⟩

theorem LeafClash.of_drop {entries entries' : List α} {count : Nat}
    (clash : LeafClash leaf (entries.drop count) (entries'.drop count)) : LeafClash leaf entries entries' := by
  obtain ⟨number, entry, entry', here, here', differ⟩ := clash
  rw [List.getElem?_drop] at here here'
  exact ⟨_, entry, entry', here, here', differ⟩

theorem LeafClash.not_injective {entries entries' : List α} (clash : LeafClash leaf entries entries') :
    ¬ Function.Injective leaf := by
  intro injective
  obtain ⟨-, entry, entry', -, -, differ, same⟩ := clash
  exact differ (injective same)

/-- Logs of one length with one tree hash are the same, or two of their entries or two pairs of their trees clash. -/
theorem eq_of_root {entries entries' : List α} (length : entries.length = entries'.length)
    (same : root leaf node empty entries = root leaf node empty entries') :
    entries = entries' ∨ LeafClash leaf entries entries' ∨
      Clash node (treePairs leaf node empty entries) (treePairs leaf node empty entries') := by
  rcases Nat.lt_or_ge entries.length 2 with single | several
  · cases entries with
    | nil => exact .inl (List.eq_nil_of_length_eq_zero length.symm).symm
    | cons entry rest =>
      rw [List.length_cons] at single
      obtain rfl : rest = [] := List.eq_nil_of_length_eq_zero (by omega)
      obtain ⟨entry', rfl⟩ := List.length_eq_one_iff.mp length.symm
      simp only [root] at same
      by_cases entries : entry = entry'
      · exact .inl (by rw [entries])
      · exact .inr (.inl ⟨0, entry, entry', rfl, rfl, entries, same⟩)
  · have several' : 2 ≤ entries'.length := length ▸ several
    rw [root_split several, root_split several', ← length] at same
    rw [treePairs_split several, treePairs_split several', ← length]
    -- The last hash fixes both halves here as well, and the logs are split at one place.
    rcases eq_or_clash same with ⟨left, right⟩ | clash
    · rcases eq_of_root (by rw [List.length_take, List.length_take, length]) left with front | leaves | clash
      · rcases eq_of_root (by rw [List.length_drop, List.length_drop, length]) right with back | leaves | clash
        · rw [← List.take_append_drop (split entries.length) entries, front, back, List.take_append_drop]
          exact .inl rfl
        · exact .inr (.inl leaves.of_drop)
        · exact .inr (.inr (clash.mono (List.subset_cons_of_subset _ (List.subset_append_right ..))
            (List.subset_cons_of_subset _ (List.subset_append_right ..))))
      · exact .inr (.inl leaves.of_take)
      · exact .inr (.inr (clash.mono (List.subset_cons_of_subset _ (List.subset_append_left ..))
          (List.subset_cons_of_subset _ (List.subset_append_left ..))))
    · exact .inr (.inr clash)
termination_by entries.length
decreasing_by
  · exact take_split_lt several
  · exact drop_split_lt several

end Decides

end MerkleTree
