import Mathlib.Data.List.Basic
import Mathlib.Data.List.DropRight

/-! # String functions of the standard library, on lists of characters -/

namespace Text

/-- The characters of Unicode's `White_Space`. -/
def isWhitespace (character : Char) : Bool :=
  let code := character.toNat
  (9 ≤ code && code ≤ 13) || code = 32 || code = 0x85 || code = 0xA0 || code = 0x1680 ||
    (0x2000 ≤ code && code ≤ 0x200A) || code = 0x2028 || code = 0x2029 || code = 0x202F ||
    code = 0x205F || code = 0x3000

def trimStartMatches (character : Char) (text : List Char) : List Char :=
  text.dropWhile (· = character)

def trimEndMatches (character : Char) (text : List Char) : List Char :=
  text.rdropWhile (· = character)

def trimStart (text : List Char) : List Char := text.dropWhile isWhitespace

def trimEnd (text : List Char) : List Char := text.rdropWhile isWhitespace

def trim (text : List Char) : List Char := trimEnd (text.dropWhile isWhitespace)

/-- `strip_prefix`: the text after a given front. -/
def stripFront (front text : List Char) : Option (List Char) :=
  if front.isPrefixOf text then some (text.drop front.length) else none

/-- The text before and after the first occurrence of a separator. -/
def splitOnce (separator : List Char) : List Char → Option (List Char × List Char)
  | [] => if separator = [] then some ([], []) else none
  | character :: text =>
    if separator.isPrefixOf (character :: text) then
      some ([], (character :: text).drop separator.length)
    else
      (splitOnce separator text).map fun halves => (character :: halves.1, halves.2)

def unlines (lines : List (List Char)) : List Char := lines.flatMap (· ++ ['\n'])

/-- A carriage return belongs to the line ending only where a line feed follows. -/
def stripReturn (line : List Char) : List Char :=
  if line.getLast? = some '\r' then line.dropLast else line

/-- The lines of a text: an empty piece after the last line feed is no line. -/
def lines (text : List Char) : List (List Char) :=
  let pieces := text.splitOn '\n'
  let last := (pieces.getLast?.getD [])
  pieces.dropLast.map stripReturn ++ if last = [] then [] else [last]

example : lines "a\r\nb\n\nc\r".toList = ["a".toList, "b".toList, [], "c\r".toList] := by decide

theorem append_separator_inj {α : Type} {separator : α} {front front' back back' : List α}
    (absent : separator ∉ front) (absent' : separator ∉ front')
    (same : front ++ separator :: back = front' ++ separator :: back') :
    front = front' ∧ back = back' := by
  induction front generalizing front' with
  | nil =>
    cases front' with
    | nil => simpa using same
    | cons first rest =>
      simp only [List.nil_append, List.cons_append, List.cons.injEq] at same
      exact absurd same.1 fun h => absent' (by simp [h])
  | cons first rest ih =>
    cases front' with
    | nil =>
      simp only [List.nil_append, List.cons_append, List.cons.injEq] at same
      exact absurd same.1 fun h => absent (by simp [h])
    | cons first' rest' =>
      simp only [List.cons_append, List.cons.injEq] at same
      obtain ⟨rfl, same⟩ := same
      simp only [List.mem_cons, not_or] at absent absent'
      obtain ⟨rfl, rfl⟩ := ih absent.2 absent'.2 same
      exact ⟨rfl, rfl⟩

/-! ## Splitting -/

theorem splitOnce_sound {separator text front back : List Char}
    (split : splitOnce separator text = some (front, back)) : text = front ++ (separator ++ back) := by
  induction text generalizing front with
  | nil =>
    simp only [splitOnce] at split
    split at split
    · rename_i empty
      cases split
      rw [empty]
      rfl
    · cases split
  | cons character text ih =>
    simp only [splitOnce] at split
    split at split
    · rename_i found
      cases split
      obtain ⟨rest, whole⟩ := List.isPrefixOf_iff_prefix.mp found
      rw [← whole, List.drop_left, List.nil_append]
    · obtain ⟨⟨front', back'⟩, split', same⟩ := Option.map_eq_some_iff.mp split
      cases same
      rw [ih split', List.cons_append]

theorem not_mem_splitOn {separator : Char} {text piece : List Char} (member : piece ∈ text.splitOn separator) :
    separator ∉ piece := by
  induction text generalizing piece with
  | nil =>
    rw [List.splitOn_nil, List.mem_singleton] at member
    simp [member]
  | cons character text ih =>
    rw [List.splitOn_cons_eq_if_modifyHead] at member
    split at member
    · rw [List.mem_cons] at member
      cases member with
      | inl empty => simp [empty]
      | inr member => exact ih member
    · rename_i differs
      match pieces : text.splitOn separator with
      | [] => exact absurd pieces (List.splitOn_ne_nil separator text)
      | first :: rest =>
        rw [pieces, List.modifyHead_cons, List.mem_cons] at member
        cases member with
        | inl same =>
          have absent := ih (pieces ▸ List.mem_cons_self ..)
          rw [same, List.mem_cons]
          rintro (rfl | inside)
          · simp at differs
          · exact absent inside
        | inr member => exact ih (pieces ▸ List.mem_cons_of_mem _ member)

/-- The text before the first blank line has no empty line after its first one. -/
theorem splitOnce_blank_lines {text front back : List Char}
    (split : splitOnce ['\n', '\n'] text = some (front, back)) :
    ∀ line ∈ (front.splitOn '\n').tail, line ≠ [] := by
  induction text generalizing front with
  | nil => simp [splitOnce] at split
  | cons character text ih =>
    simp only [splitOnce] at split
    split at split
    · cases split
      simp
    · rename_i open_
      obtain ⟨⟨front', back'⟩, later, same⟩ := Option.map_eq_some_iff.mp split
      cases same
      rw [List.splitOn_cons_eq_if_modifyHead]
      split
      · rename_i lineFeed
        rw [beq_iff_eq] at lineFeed
        -- a line feed here and an empty line after it would be the blank line
        match pieces : front'.splitOn '\n' with
        | [] => exact absurd pieces (List.splitOn_ne_nil '\n' front')
        | first :: rest =>
          have tail := ih later
          rw [pieces] at tail
          rw [List.tail_cons, List.forall_mem_cons]
          refine ⟨?_, tail⟩
          rintro rfl
          apply open_
          have text' := splitOnce_sound later
          cases front' with
          | nil => simp [text', lineFeed]
          | cons next front' =>
            rw [List.splitOn_cons_eq_if_modifyHead] at pieces
            split at pieces
            · rename_i lineFeed'
              rw [beq_iff_eq] at lineFeed'
              simp [text', lineFeed, lineFeed']
            · match rest' : front'.splitOn '\n' with
              | [] => exact absurd rest' (List.splitOn_ne_nil '\n' front')
              | _ :: _ =>
                rw [rest', List.modifyHead_cons] at pieces
                cases pieces
      · have tail := ih later
        match pieces : front'.splitOn '\n' with
        | [] => exact absurd pieces (List.splitOn_ne_nil '\n' front')
        | first :: rest =>
          rw [pieces] at tail
          exact tail

theorem splitOnce_skip {line rest : List Char} (oneLine : '\n' ∉ line) :
    splitOnce ['\n', '\n'] (line ++ rest) =
      (splitOnce ['\n', '\n'] rest).map fun halves => (line ++ halves.1, halves.2) := by
  induction line with
  | nil => simp
  | cons character line ih =>
    simp only [List.mem_cons, not_or] at oneLine
    have passed : ¬ ['\n', '\n'].isPrefixOf (character :: (line ++ rest)) = true := by
      simp [List.isPrefixOf, oneLine.1]
    rw [List.cons_append, splitOnce, if_neg passed, ih oneLine.2, Option.map_map]
    rfl

/-- Lines that are not empty are read up to the blank line after them. -/
theorem splitOnce_intercalate {lines : List (List Char)} (present : lines ≠ [])
    (clean : ∀ line ∈ lines, line ≠ [] ∧ '\n' ∉ line) (back : List Char) :
    splitOnce ['\n', '\n'] (['\n'].intercalate lines ++ '\n' :: '\n' :: back) =
      some (['\n'].intercalate lines, back) := by
  induction lines with
  | nil => exact absurd rfl present
  | cons line lines ih =>
    rw [List.forall_mem_cons] at clean
    match lines with
    | [] =>
      rw [List.intercalate_singleton, splitOnce_skip clean.1.2]
      simp [splitOnce]
    | next :: lines =>
      have later := ih (List.cons_ne_nil next lines) clean.2
      obtain ⟨nonempty, oneLine⟩ := clean.2 next (List.mem_cons_self ..)
      obtain ⟨first, rest, rfl⟩ := List.exists_cons_of_ne_nil nonempty
      simp only [List.mem_cons, not_or] at oneLine
      rw [List.intercalate_cons_cons, List.append_assoc, List.append_assoc, splitOnce_skip clean.1.2]
      rw [List.intercalate_cons_cons_left, List.cons_append] at later
      rw [List.intercalate_cons_cons_left, List.cons_append, List.nil_append, List.cons_append, splitOnce,
        if_neg (by simp [List.isPrefixOf, oneLine.1]), later, Option.map_some, Option.map_some]
      simp

theorem unlines_eq {lines : List (List Char)} (present : lines ≠ []) :
    unlines lines = ['\n'].intercalate lines ++ ['\n'] := by
  induction lines with
  | nil => exact absurd rfl present
  | cons line lines ih =>
    match lines with
    | [] => simp [unlines]
    | next :: lines =>
      rw [unlines, List.flatMap_cons, ← unlines, ih (List.cons_ne_nil next lines), List.intercalate_cons_cons]
      simp

theorem unlines_splitOn (text : List Char) : unlines (text.splitOn '\n') = text ++ ['\n'] := by
  rw [unlines_eq (List.splitOn_ne_nil '\n' text), List.intercalate_splitOn]

theorem unlines_injective {lines lines' : List (List Char)} (clean : ∀ line ∈ lines, '\n' ∉ line)
    (clean' : ∀ line ∈ lines', '\n' ∉ line) (present : lines ≠ []) (present' : lines' ≠ [])
    (same : unlines lines = unlines lines') : lines = lines' := by
  rw [unlines_eq present, unlines_eq present'] at same
  have split := congrArg (List.splitOn '\n') (List.append_cancel_right same)
  rwa [List.splitOn_intercalate '\n' clean present, List.splitOn_intercalate '\n' clean' present'] at split

theorem mem_intercalate {separator piece : List Char} {character : Char} {pieces : List (List Char)}
    (member : piece ∈ pieces) (inside : character ∈ piece) : character ∈ separator.intercalate pieces := by
  induction pieces with
  | nil => cases member
  | cons first rest ih =>
    match rest with
    | [] =>
      rw [List.mem_singleton] at member
      rwa [List.intercalate_singleton, ← member]
    | second :: rest =>
      rw [List.intercalate_cons_cons, List.mem_append, List.mem_append]
      rw [List.mem_cons] at member
      cases member with
      | inl same => exact .inl (.inl (same ▸ inside))
      | inr later => exact .inr (ih later)

theorem mem_of_mem_splitOn {separator character : Char} {text piece : List Char}
    (member : piece ∈ text.splitOn separator) (inside : character ∈ piece) : character ∈ text := by
  have whole := @mem_intercalate [separator] _ _ _ member inside
  rwa [List.intercalate_splitOn] at whole

theorem not_mem_lines {text line : List Char} (member : line ∈ lines text) : '\n' ∉ line := by
  have piece {line : List Char} (member : line ∈ text.splitOn '\n') : '\n' ∉ line := not_mem_splitOn member
  simp only [lines, List.mem_append, List.mem_map] at member
  obtain ⟨whole, member, rfl⟩ | last := member
  · have clean := piece (List.dropLast_subset _ member)
    unfold stripReturn
    split
    · exact fun inside => clean (List.dropLast_subset _ inside)
    · exact clean
  · split at last
    · cases last
    · rw [List.mem_singleton] at last
      obtain ⟨final, found⟩ : ∃ final, (text.splitOn '\n').getLast? = some final :=
        ⟨_, List.getLast?_eq_some_getLast (List.splitOn_ne_nil '\n' text)⟩
      rw [last, found]
      exact piece (List.mem_of_getLast? found)

/-! ## Trimming -/

theorem trimEnd_concat {text : List Char} {last : Char} (kept : isWhitespace last = false) :
    trimEnd (text ++ [last]) = text ++ [last] :=
  List.rdropWhile_concat_neg _ _ _ (by simp [kept])

theorem trimEndMatches_concat {character last : Char} {text : List Char} (kept : last ≠ character) :
    trimEndMatches character (text ++ [last]) = text ++ [last] :=
  List.rdropWhile_concat_neg _ _ _ (by simp [kept])

theorem trimStartMatches_cons {character first : Char} {text : List Char} (kept : first ≠ character) :
    trimStartMatches character (first :: text) = first :: text := by
  simp [trimStartMatches, kept]

theorem lines_nil : lines [] = [] := by simp [lines]

theorem lines_cons {line : List Char} (oneLine : '\n' ∉ line) (rest : List Char) :
    lines (line ++ '\n' :: rest) = stripReturn line :: lines rest := by
  obtain ⟨first, pieces, split⟩ := List.exists_cons_of_ne_nil (List.splitOn_ne_nil '\n' rest)
  simp only [lines, List.splitOn_append_cons_self_of_not_mem oneLine, split]
  simp

end Text
