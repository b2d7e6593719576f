import Tinfoil.Basic
import Tinfoil.Framing

/-! # Where an event ends

Text is kept as its UTF-8 bytes, so an offset counts bytes, as in the source.
-/

namespace Tinfoil.Sse

/-- `str::find`: the offset of the first occurrence. -/
def find (pattern : Bytes) : Bytes → Option Nat
  | [] => if pattern = [] then some 0 else none
  | byte :: text =>
    if pattern.isPrefixOf (byte :: text) then some 0 else (find pattern text).map (· + 1)

theorem find_split {pattern text : Bytes} {idx : Nat} (found : find pattern text = some idx) :
    ∃ front back, text = front ++ (pattern ++ back) ∧ front.length = idx := by
  induction text generalizing idx with
  | nil =>
    simp only [find] at found
    split at found
    · rename_i empty
      cases found
      exact ⟨[], [], by rw [empty]; rfl, rfl⟩
    · cases found
  | cons byte text ih =>
    simp only [find] at found
    split at found
    · rename_i here
      cases found
      obtain ⟨back, split⟩ := List.isPrefixOf_iff_prefix.mp here
      exact ⟨[], back, split.symm, rfl⟩
    · obtain ⟨idx', later, rfl⟩ := Option.map_eq_some_iff.mp found
      obtain ⟨front, back, split, length⟩ := ih later
      exact ⟨byte :: front, back, by rw [split, List.cons_append], by rw [List.length_cons, length]⟩

theorem find_append {pattern text : Bytes} {idx : Nat} (found : find pattern text = some idx) (more : Bytes) :
    find pattern (text ++ more) = some idx := by
  induction text generalizing idx with
  | nil =>
    simp only [find] at found
    split at found
    · rename_i empty
      cases found
      rw [empty]
      cases more <;> rfl
    · cases found
  | cons byte text ih =>
    simp only [find, List.cons_append] at found ⊢
    split at found
    · rename_i here
      have front : pattern.isPrefixOf (byte :: (text ++ more)) = true :=
        List.isPrefixOf_iff_prefix.mpr
          ((List.isPrefixOf_iff_prefix.mp here).trans (List.prefix_append (byte :: text) more))
      rw [if_pos front, found]
    · rename_i differs
      obtain ⟨idx', later, rfl⟩ := Option.map_eq_some_iff.mp found
      obtain ⟨front, back, split, -⟩ := find_split later
      -- The pattern is found further on, so that it is no longer than what there is.
      have short : pattern.length ≤ (byte :: text).length := by
        rw [split, List.length_cons, List.length_append, List.length_append]
        omega
      have still : ¬ pattern.isPrefixOf (byte :: (text ++ more)) = true := by
        intro front
        apply differs
        apply List.isPrefixOf_iff_prefix.mpr
        exact List.prefix_of_prefix_length_le (List.isPrefixOf_iff_prefix.mp front)
          (List.prefix_append (byte :: text) more) short
      rw [if_neg still, ih later, Option.map_some]

theorem find_late {pattern text more : Bytes} {idx : Nat} (absent : find pattern text = none)
    (found : find pattern (text ++ more) = some idx) : text.length < idx + pattern.length := by
  induction text generalizing idx with
  | nil =>
    have present : pattern ≠ [] := by
      rintro rfl
      cases absent
    have := List.length_pos_iff.mpr present
    rw [List.length_nil]
    omega
  | cons byte text ih =>
    simp only [find, List.cons_append] at absent found
    split at absent
    · cases absent
    · rename_i differs
      rw [Option.map_eq_none_iff] at absent
      split at found
      · rename_i front
        cases found
        by_contra short
        apply differs
        apply List.isPrefixOf_iff_prefix.mpr
        exact List.prefix_of_prefix_length_le (List.isPrefixOf_iff_prefix.mp front)
          (List.prefix_append (byte :: text) more) (by omega)
      · obtain ⟨idx', later, rfl⟩ := Option.map_eq_some_iff.mp found
        have := ih absent later
        rw [List.length_cons]
        omega

theorem getElem_find {pattern text : Bytes} {idx : Nat} (found : find pattern text = some idx)
    (offset : Nat) (within : offset < pattern.length) : text[idx + offset]? = pattern[offset]? := by
  obtain ⟨front, back, rfl, rfl⟩ := find_split found
  rw [List.getElem?_append_right (by omega), Nat.add_sub_cancel_left, List.getElem?_append_left within]

/-- `\n\n` -/
def lfSeparator : Bytes := [10, 10]

/-- `\r\n\r\n` -/
def crlfSeparator : Bytes := [13, 10, 13, 10]

def findEventBoundary (buffer : Bytes) : Option (Nat × Nat) :=
  let lf := (find lfSeparator buffer).map fun idx => (idx, 2)
  let crlf := (find crlfSeparator buffer).map fun idx => (idx, 4)
  -- They start with different bytes, so that one of two is the earlier one.
  match lf, crlf with
  | some lf, some crlf => some (if lf.1 < crlf.1 then lf else crlf)
  | some boundary, none => some boundary
  | none, some boundary => some boundary
  | none, none => none

theorem findEventBoundary_cases {buffer : Bytes} {idx len : Nat}
    (found : findEventBoundary buffer = some (idx, len)) :
    (len = 2 ∧ find lfSeparator buffer = some idx ∧ ∀ other, find crlfSeparator buffer = some other → idx < other) ∨
      (len = 4 ∧ find crlfSeparator buffer = some idx ∧ ∀ other, find lfSeparator buffer = some other → idx ≤ other) := by
  unfold findEventBoundary at found
  cases lf : find lfSeparator buffer with
  | none =>
    cases crlf : find crlfSeparator buffer with
    | none =>
      rw [lf, crlf] at found
      cases found
    | some last =>
      rw [lf, crlf] at found
      cases found
      exact .inr ⟨rfl, rfl, fun other same => by cases same⟩
  | some first =>
    cases crlf : find crlfSeparator buffer with
    | none =>
      rw [lf, crlf] at found
      cases found
      exact .inl ⟨rfl, rfl, fun other same => by cases same⟩
    | some last =>
      simp only [lf, crlf, Option.map_some, Option.some.injEq] at found
      split at found
      · rename_i before
        cases found
        exact .inl ⟨rfl, rfl, fun other same => by cases same; exact before⟩
      · rename_i before
        cases found
        exact .inr ⟨rfl, rfl, fun other same => by cases same; exact Nat.le_of_not_lt before⟩

theorem find_inside {pattern text : Bytes} {idx : Nat} (found : find pattern text = some idx) :
    idx + pattern.length ≤ text.length := by
  obtain ⟨front, back, rfl, rfl⟩ := find_split found
  simp only [List.length_append]
  omega

theorem findEventBoundary_inside {buffer : Bytes} {idx len : Nat}
    (found : findEventBoundary buffer = some (idx, len)) : 0 < len ∧ idx + len ≤ buffer.length := by
  obtain ⟨rfl, lf, -⟩ | ⟨rfl, crlf, -⟩ := findEventBoundary_cases found
  · exact ⟨by decide, find_inside lf⟩
  · exact ⟨by decide, find_inside crlf⟩

theorem findEventBoundary_lf {buffer : Bytes} {idx : Nat} (lf : find lfSeparator buffer = some idx)
    (first : ∀ other, find crlfSeparator buffer = some other → idx < other) :
    findEventBoundary buffer = some (idx, 2) := by
  unfold findEventBoundary
  cases crlf : find crlfSeparator buffer with
  | none => rw [lf]; rfl
  | some other => simp [lf, first other crlf]

theorem findEventBoundary_crlf {buffer : Bytes} {idx : Nat} (crlf : find crlfSeparator buffer = some idx)
    (first : ∀ other, find lfSeparator buffer = some other → idx ≤ other) :
    findEventBoundary buffer = some (idx, 4) := by
  unfold findEventBoundary
  cases lf : find lfSeparator buffer with
  | none => rw [crlf]; rfl
  | some other => simp [crlf, Nat.not_lt.mpr (first other lf)]

/-- A separator completed later never starts before one that was already found. -/
theorem findEventBoundary_append {buffer : Bytes} {idx len : Nat}
    (found : findEventBoundary buffer = some (idx, len)) (more : Bytes) :
    findEventBoundary (buffer ++ more) = some (idx, len) := by
  obtain ⟨rfl, lf, first⟩ | ⟨rfl, crlf, first⟩ := findEventBoundary_cases found
  · have still := find_append lf more
    apply findEventBoundary_lf still
    intro other later
    match before : find crlfSeparator buffer with
    | some other' =>
      rw [find_append before more] at later
      cases later
      exact first _ before
    | none =>
      have late := find_late before later
      have range := find_inside lf
      -- a later separator that overlaps this one would have a carriage return where this one has a line feed
      by_contra overlap
      have one := getElem_find still 0 (by decide)
      have two := getElem_find still 1 (by decide)
      have start := getElem_find later 0 (by decide)
      have middle := getElem_find later 2 (by decide)
      obtain rfl | rfl : other = idx ∨ idx = other + 1 := by
        change buffer.length < other + 4 at late
        change idx + 2 ≤ buffer.length at range
        omega
      · rw [one] at start
        cases start
      · rw [two] at middle
        cases middle
  · have still := find_append crlf more
    apply findEventBoundary_crlf still
    intro other later
    match before : find lfSeparator buffer with
    | some other' =>
      rw [find_append before more] at later
      cases later
      exact first _ before
    | none =>
      have late := find_late before later
      have range := find_inside crlf
      change buffer.length < other + 2 at late
      change idx + 4 ≤ buffer.length at range
      omega

theorem find_front {pattern text more : Bytes} {idx : Nat} (found : find pattern (text ++ more) = some idx)
    (range : idx + pattern.length ≤ text.length) : find pattern text = some idx := by
  match before : find pattern text with
  | none => exact absurd (find_late before found) (Nat.not_lt.mpr range)
  | some other => rw [← find_append before more, found]

theorem findEventBoundary_front {buffer more : Bytes} {idx len : Nat}
    (found : findEventBoundary (buffer ++ more) = some (idx, len)) (range : idx + len ≤ buffer.length) :
    findEventBoundary buffer = some (idx, len) := by
  obtain ⟨rfl, lf, first⟩ | ⟨rfl, crlf, first⟩ := findEventBoundary_cases found
  · apply findEventBoundary_lf (find_front lf range)
    intro other there
    exact first other (find_append there more)
  · apply findEventBoundary_crlf (find_front crlf range)
    intro other there
    exact first other (find_append there more)

def boundary : Framing.Delimiter UInt8 where
  find := findEventBoundary
  inside := findEventBoundary_inside
  stable := findEventBoundary_append
  settled := findEventBoundary_front

end Tinfoil.Sse
