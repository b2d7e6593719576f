import Mathlib.Data.List.Basic

/-! # Streams cut into blocks by separators

A delimiter says where the first block of a text ends.  It is asked again each time more of the
text has arrived, so what it finds must depend on the block and its separator only.
-/

namespace Framing

/-- The length of the first block and of the separator after it. -/
structure Delimiter (α : Type) where
  find : List α → Option (Nat × Nat)
  inside : ∀ {text : List α} {idx len : Nat}, find text = some (idx, len) → 0 < len ∧ idx + len ≤ text.length
  stable : ∀ {text : List α} {idx len : Nat}, find text = some (idx, len) → ∀ more, find (text ++ more) = some (idx, len)
  settled : ∀ {text more : List α} {idx len : Nat}, find (text ++ more) = some (idx, len) →
    idx + len ≤ text.length → find text = some (idx, len)

/-- A block and the separator that ends it. -/
structure Block (α : Type) where
  content : List α
  separator : List α

def Block.whole {α : Type} (block : Block α) : List α := block.content ++ block.separator

variable {α : Type} (delimiter : Delimiter α)

/-- The complete blocks of a text. -/
def blocks (text : List α) : List (Block α) :=
  match _found : delimiter.find text with
  | none => []
  | some (idx, len) => ⟨text.take idx, (text.drop idx).take len⟩ :: blocks (text.drop (idx + len))
termination_by text.length
decreasing_by
  have := delimiter.inside _found
  rw [List.length_drop]
  omega

/-- What follows the last complete block. -/
def tail (text : List α) : List α :=
  match _found : delimiter.find text with
  | none => text
  | some (idx, len) => tail (text.drop (idx + len))
termination_by text.length
decreasing_by
  have := delimiter.inside _found
  rw [List.length_drop]
  omega

variable {delimiter} {text : List α}

theorem blocks_none (none : delimiter.find text = none) : blocks delimiter text = [] := by
  rw [blocks]
  split
  · rfl
  · rename_i found
    rw [none] at found
    cases found

theorem tail_none (none : delimiter.find text = none) : tail delimiter text = text := by
  rw [tail]
  split
  · rfl
  · rename_i found
    rw [none] at found
    cases found

theorem blocks_some {idx len : Nat} (found : delimiter.find text = some (idx, len)) :
    blocks delimiter text =
      ⟨text.take idx, (text.drop idx).take len⟩ :: blocks delimiter (text.drop (idx + len)) := by
  rw [blocks]
  split
  · rename_i none
    rw [found] at none
    cases none
  · rename_i found'
    rw [found] at found'
    cases found'
    rfl

theorem tail_some {idx len : Nat} (found : delimiter.find text = some (idx, len)) :
    tail delimiter text = tail delimiter (text.drop (idx + len)) := by
  rw [tail]
  split
  · rename_i none
    rw [found] at none
    cases none
  · rename_i found'
    rw [found] at found'
    cases found'
    rfl

theorem find_tail (text : List α) : delimiter.find (tail delimiter text) = none := by
  induction text using tail.induct delimiter with
  | case1 text none => rw [tail_none none, none]
  | case2 text idx len found ih => rw [tail_some found, ih]

theorem blocks_append (text more : List α) :
    blocks delimiter (text ++ more) = blocks delimiter text ++ blocks delimiter (tail delimiter text ++ more) := by
  induction text using tail.induct delimiter with
  | case1 text none => rw [tail_none none, blocks_none none, List.nil_append]
  | case2 text idx len found ih =>
    have range := (delimiter.inside found).2
    rw [blocks_some (delimiter.stable found more), blocks_some found, tail_some found,
      List.drop_append_of_le_length range, ih, List.take_append_of_le_length (by omega),
      List.drop_append_of_le_length (by omega), List.take_append_of_le_length (by rw [List.length_drop]; omega),
      List.cons_append]

theorem tail_append (text more : List α) :
    tail delimiter (text ++ more) = tail delimiter (tail delimiter text ++ more) := by
  induction text using tail.induct delimiter with
  | case1 text none => rw [tail_none none]
  | case2 text idx len found ih =>
    rw [tail_some (delimiter.stable found more), tail_some found,
      List.drop_append_of_le_length (delimiter.inside found).2, ih]

theorem text_blocks (text : List α) :
    (blocks delimiter text).flatMap Block.whole ++ tail delimiter text = text := by
  induction text using tail.induct delimiter with
  | case1 text none => rw [tail_none none, blocks_none none, List.flatMap_nil, List.nil_append]
  | case2 text idx len found ih =>
    rw [blocks_some found, tail_some found, List.flatMap_cons, List.append_assoc, ih, Block.whole,
      List.append_assoc, ← List.drop_drop, List.take_append_drop, List.take_append_drop]

theorem tail_of_nil (none : blocks delimiter text = []) : tail delimiter text = text := by
  have whole : (blocks delimiter text).flatMap Block.whole ++ tail delimiter text = text := text_blocks text
  rwa [none, List.flatMap_nil, List.nil_append] at whole

theorem find_of_blocks {block : Block α} {later : List (Block α)} (first : blocks delimiter text = block :: later) :
    ∃ more, text = block.whole ++ more ∧ blocks delimiter more = later ∧
      tail delimiter more = tail delimiter text ∧
      delimiter.find text = some (block.content.length, block.separator.length) := by
  match found : delimiter.find text with
  | none =>
    rw [blocks_none found] at first
    cases first
  | some (idx, len) =>
    rw [blocks_some found] at first
    cases first
    have range := (delimiter.inside found).2
    refine ⟨text.drop (idx + len), ?_, rfl, (tail_some found).symm, ?_⟩
    · rw [Block.whole, List.append_assoc, ← List.drop_drop, List.take_append_drop, List.take_append_drop]
    · rw [List.length_take_of_le (by omega), List.length_take_of_le (by rw [List.length_drop]; omega)]

theorem blocks_whole {block : Block α} {later : List (Block α)} (first : blocks delimiter text = block :: later)
    (more : List α) :
    blocks delimiter (block.whole ++ more) = block :: blocks delimiter more ∧
      tail delimiter (block.whole ++ more) = tail delimiter more := by
  obtain ⟨back, rfl, -, -, found⟩ := find_of_blocks first
  have length : block.whole.length = block.content.length + block.separator.length := List.length_append
  have found := delimiter.stable (delimiter.settled found (Nat.le_of_eq length.symm)) more
  rw [blocks_some found, tail_some found, ← length, List.drop_left, Block.whole, List.append_assoc,
    List.take_left, List.drop_left, List.take_left]
  exact ⟨rfl, rfl⟩

theorem split_blocks {earlier later : List (Block α)} (split : blocks delimiter text = earlier ++ later) :
    ∃ more, text = earlier.flatMap Block.whole ++ more ∧ blocks delimiter more = later := by
  induction earlier generalizing text with
  | nil => exact ⟨text, rfl, split⟩
  | cons block earlier ih =>
    obtain ⟨more, rfl, next, -, -⟩ := find_of_blocks split
    obtain ⟨last, rfl, blocks⟩ := ih next
    exact ⟨last, by rw [List.flatMap_cons, List.append_assoc], blocks⟩

/-- The blocks of a text that ends inside one of the blocks of another. -/
theorem blocks_front {earlier later : List (Block α)} (split : blocks delimiter text = earlier ++ later)
    {last : List α} (noEnd : delimiter.find last = none) :
    blocks delimiter (earlier.flatMap Block.whole ++ last) = earlier ∧
      tail delimiter (earlier.flatMap Block.whole ++ last) = last := by
  induction earlier generalizing text with
  | nil => exact ⟨blocks_none noEnd, tail_none noEnd⟩
  | cons block earlier ih =>
    obtain ⟨more, -, next, -, -⟩ := find_of_blocks split
    have here := blocks_whole split (earlier.flatMap Block.whole ++ last)
    have there := ih next
    rw [List.flatMap_cons, List.append_assoc, here.1, here.2, there.1]
    exact ⟨rfl, there.2⟩

/-- A block whose separator has not arrived in full is still open. -/
theorem find_cut {block : Block α} {later : List (Block α)} (first : blocks delimiter text = block :: later) :
    delimiter.find (block.content ++ block.separator.dropLast) = none := by
  obtain ⟨more, split, -, -, found⟩ := find_of_blocks first
  match early : delimiter.find (block.content ++ block.separator.dropLast) with
  | none => rfl
  | some (idx, len) =>
    have present : block.separator ≠ [] := fun empty => by
      have := (delimiter.inside found).1
      rw [empty] at this
      cases this
    have whole : text = (block.content ++ block.separator.dropLast) ++ (block.separator.getLast present :: more) := by
      rw [split, Block.whole, List.append_assoc, List.append_assoc, List.append_cons,
        List.dropLast_append_getLast]
    have range := (delimiter.inside early).2
    have same := delimiter.stable early (block.separator.getLast present :: more)
    rw [← whole, found] at same
    cases same
    have := List.length_pos_iff.mpr present
    rw [List.length_append, List.length_dropLast] at range
    omega

theorem length_open {more : List α} {block : Block α} {later : List (Block α)}
    (noEnd : delimiter.find text = none) (first : blocks delimiter (text ++ more) = block :: later) :
    text.length < block.whole.length := by
  obtain ⟨-, -, -, -, found⟩ := find_of_blocks first
  rw [Block.whole, List.length_append]
  by_contra short
  rw [delimiter.settled found (Nat.le_of_not_lt short)] at noEnd
  cases noEnd

end Framing
