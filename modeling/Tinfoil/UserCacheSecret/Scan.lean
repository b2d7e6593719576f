import Mathlib.Data.List.DropRight
import Tinfoil.Basic
import Tinfoil.Json.Decode

/-! # The byte scanner that finds a top-level member -/

namespace Tinfoil.UserCacheSecret

open Json

def skipJsonWhitespace (raw : Bytes) (index : Nat) : Nat :=
  index + ((raw.drop index).takeWhile isBlank).length

/-- The loop of `json_string_end`, over the bytes from an index on. -/
def closingQuote : Bytes → Nat → Bool → Option Nat
  | [], _, _ => none
  | byte :: rest, index, escaped =>
    if escaped then closingQuote rest (index + 1) false
    else if byte = backslash then closingQuote rest (index + 1) true
    else if byte = quote then some (index + 1)
    else closingQuote rest (index + 1) false

def jsonStringEnd (raw : Bytes) (start : Nat) : Option Nat :=
  if raw[start]? = some quote then closingQuote (raw.drop (start + 1)) (start + 1) false else none

/-- The loop of `json_value_end` over an object or array. -/
def closingBracket : Bytes → Nat → Nat → Bool → Bool → Option Nat
  | [], _, _, _, _ => none
  | byte :: rest, index, depth, inString, escaped =>
    if inString then
      if escaped then closingBracket rest (index + 1) depth true false
      else if byte = backslash then closingBracket rest (index + 1) depth true true
      else if byte = quote then closingBracket rest (index + 1) depth false false
      else closingBracket rest (index + 1) depth true false
    else if byte = quote then closingBracket rest (index + 1) depth true escaped
    else if byte = 0x7B || byte = 0x5B then closingBracket rest (index + 1) (depth + 1) false escaped
    else if byte = 0x7D || byte = 0x5D then
      if depth = 0 then none
      else if depth - 1 = 0 then some (index + 1)
      else closingBracket rest (index + 1) (depth - 1) false escaped
    else closingBracket rest (index + 1) depth false escaped

def jsonValueEnd (raw : Bytes) (start : Nat) : Option Nat := do
  let first ← raw[start]?
  if first = quote then jsonStringEnd raw start
  else if first = 0x7B || first = 0x5B then closingBracket (raw.drop start) start 0 false false
  else
    let scalar := (raw.drop start).takeWhile fun byte => byte ≠ comma && byte ≠ 0x7D
    let trimmed := scalar.rdropWhile isBlank
    if trimmed = [] then none else some (start + trimmed.length)

/-- Key and value of the member at an index, and the index of the first byte after it that is no
white space. -/
def readMember (raw : Bytes) (index : Nat) : Option (String × (Nat × Nat) × Nat) := do
  let keyEnd ← jsonStringEnd raw index
  let key ← parseString ((raw.drop index).take (keyEnd - index))
  let separator := skipJsonWhitespace raw keyEnd
  if raw[separator]? = some colon then
    let valueStart := skipJsonWhitespace raw (separator + 1)
    let valueEnd ← jsonValueEnd raw valueStart
    return (key, (valueStart, valueEnd), skipJsonWhitespace raw valueEnd)
  else none

/-! ## The scanner moves forward -/

theorem le_skipJsonWhitespace (raw : Bytes) (index : Nat) : index ≤ skipJsonWhitespace raw index :=
  Nat.le_add_right _ _

theorem lt_of_closingQuote {bytes : Bytes} {index stop : Nat} {escaped : Bool}
    (found : closingQuote bytes index escaped = some stop) : index < stop := by
  induction bytes generalizing index escaped with
  | nil => cases found
  | cons byte rest ih =>
    rw [closingQuote] at found
    split at found
    · exact Nat.lt_of_succ_lt (ih found)
    split at found
    · exact Nat.lt_of_succ_lt (ih found)
    split at found
    · cases found
      exact Nat.lt_succ_self _
    · exact Nat.lt_of_succ_lt (ih found)

theorem lt_of_jsonStringEnd {raw : Bytes} {start stop : Nat} (found : jsonStringEnd raw start = some stop) :
    start < stop := by
  rw [jsonStringEnd, Option.ite_none_right_eq_some] at found
  exact Nat.lt_of_succ_lt (lt_of_closingQuote found.2)

theorem lt_of_closingBracket {bytes : Bytes} {index depth stop : Nat} {inString escaped : Bool}
    (found : closingBracket bytes index depth inString escaped = some stop) : index < stop := by
  induction bytes generalizing index depth inString escaped with
  | nil => cases found
  | cons byte rest ih =>
    rw [closingBracket] at found
    repeat' split at found
    all_goals first
      | exact Nat.lt_of_succ_lt (ih found)
      | (cases found; exact Nat.lt_succ_self _)
      | cases found

theorem lt_of_jsonValueEnd {raw : Bytes} {start stop : Nat} (found : jsonValueEnd raw start = some stop) :
    start < stop := by
  simp only [jsonValueEnd, bind, Option.bind_eq_some_iff] at found
  obtain ⟨first, -, found⟩ := found
  split at found
  · exact lt_of_jsonStringEnd found
  split at found
  · exact lt_of_closingBracket found
  · rw [Option.ite_none_left_eq_some] at found
    obtain ⟨present, found⟩ := found
    have length := List.length_pos_iff.mpr present
    cases found
    omega

theorem lt_of_readMember {raw : Bytes} {index next : Nat} {key : String} {range : Nat × Nat}
    (found : readMember raw index = some (key, range, next)) : index < next := by
  simp only [readMember, bind, Option.bind_eq_some_iff, Option.ite_none_right_eq_some, pure,
    Option.some.injEq, Prod.mk.injEq] at found
  obtain ⟨keyEnd, keyFound, key, -, -, valueEnd, valueFound, -, -, rfl⟩ := found
  calc index
    _ < keyEnd := lt_of_jsonStringEnd keyFound
    _ ≤ skipJsonWhitespace raw keyEnd := le_skipJsonWhitespace _ _
    _ < skipJsonWhitespace raw keyEnd + 1 := Nat.lt_succ_self _
    _ ≤ skipJsonWhitespace raw (skipJsonWhitespace raw keyEnd + 1) := le_skipJsonWhitespace _ _
    _ < valueEnd := lt_of_jsonValueEnd valueFound
    _ ≤ skipJsonWhitespace raw valueEnd := le_skipJsonWhitespace _ _

/-- The loop of `top_level_value_range`. -/
def scanMembers (raw : Bytes) (field : String) (index : Nat) (found : Option (Nat × Nat)) :
    Option (Nat × Nat) :=
  if index < raw.length then
    let start := skipJsonWhitespace raw index
    if raw[start]? = some 0x7D then found
    else
      match member : readMember raw start with
      | none => none
      | some (key, range, next) =>
        if key = field && found.isSome then none
        else
          let found := if key = field then some range else found
          if raw[next]? = some comma then scanMembers raw field (next + 1) found
          else if raw[next]? = some 0x7D then found
          else none
  else none
termination_by raw.length - index
decreasing_by
  have forward := lt_of_readMember member
  have skipped := le_skipJsonWhitespace raw index
  omega

def topLevelValueRange (raw : Bytes) (field : String) : Option (Nat × Nat) :=
  let index := skipJsonWhitespace raw 0
  if raw[index]? = some 0x7B then scanMembers raw field (index + 1) none else none

/-! ## Where the text is known

Each lemma takes what the text has from an index on, and says where the scanner goes. -/

theorem drop_advance {raw front rest : Bytes} {index : Nat} (here : raw.drop index = front ++ rest) :
    raw.drop (index + front.length) = rest := by
  rw [← List.drop_drop, here, List.drop_left]

theorem drop_next {raw rest : Bytes} {index : Nat} {byte : UInt8} (here : raw.drop index = byte :: rest) :
    raw.drop (index + 1) = rest := by
  rw [← List.drop_drop, here]
  rfl

theorem getElem?_here {raw rest : Bytes} {index : Nat} {byte : UInt8} (here : raw.drop index = byte :: rest) :
    raw[index]? = some byte := by
  rw [← List.head?_drop, here, List.head?_cons]

theorem skipJsonWhitespace_here {raw rest : Bytes} {index : Nat} {blank : Blank}
    (here : raw.drop index = blank.bytes ++ rest) (stop : Stops isBlank rest) :
    skipJsonWhitespace raw index = index + blank.bytes.length := by
  rw [skipJsonWhitespace, here, (span_of_stops (fun byte => blank.isBlank_of_mem) stop).1]

theorem closingQuote_inert {bytes : Bytes} (inert : ∀ byte ∈ bytes, byte ≠ quote ∧ byte ≠ backslash)
    (rest : Bytes) (index : Nat) :
    closingQuote (bytes ++ rest) index false = closingQuote rest (index + bytes.length) false := by
  induction bytes generalizing index with
  | nil => rfl
  | cons byte bytes ih =>
    obtain ⟨notQuote, notBackslash⟩ := inert byte List.mem_cons_self
    have others := ih (fun byte member => inert byte (List.mem_cons_of_mem _ member)) (index + 1)
    simp only [List.cons_append, closingQuote, notQuote, notBackslash, if_false, others, List.length_cons,
      Bool.false_eq_true]
    congr 1
    omega

theorem hexDigits_inert {byte : UInt8} (digit : isHexDigit byte = true) : byte ≠ quote ∧ byte ≠ backslash := by
  constructor
  · rintro rfl
    exact absurd digit (by decide)
  · rintro rfl
    exact absurd digit (by decide)

theorem closingQuote_piece (piece : Piece) (rest : Bytes) (index : Nat) :
    closingQuote (piece.text ++ rest) index false = closingQuote rest (index + piece.text.length) false := by
  cases piece with
  | plain character valid => exact closingQuote_inert (plain_bytes valid) rest index
  | escape letter valid => rfl
  | unicode a b c d valid =>
    -- the `u` is skipped as an escaped byte, the digits are read as they are
    have digits : ∀ byte ∈ [a, b, c, d], byte ≠ quote ∧ byte ≠ backslash := fun byte member =>
      hexDigits_inert (List.all_eq_true.mp valid byte member)
    exact closingQuote_inert digits rest (index + 2)

theorem closingQuote_literal (pieces : List Piece) (rest : Bytes) (index : Nat) :
    closingQuote (innerText pieces ++ quote :: rest) index false =
      some (index + (innerText pieces).length + 1) := by
  induction pieces generalizing index with
  | nil => rfl
  | cons piece pieces ih =>
    have text : innerText (piece :: pieces) = piece.text ++ innerText pieces := List.flatMap_cons
    rw [text, List.append_assoc, closingQuote_piece, ih, List.length_append]
    congr 1
    omega

theorem jsonStringEnd_here {raw rest : Bytes} {start : Nat} {pieces : List Piece}
    (here : raw.drop start = literalText pieces ++ rest) :
    jsonStringEnd raw start = some (start + (literalText pieces).length) := by
  have opened : raw[start]? = some quote := getElem?_here here
  have inner : raw.drop (start + 1) = innerText pieces ++ quote :: rest := by
    rw [drop_next here]
    simp
  rw [jsonStringEnd, if_pos opened, inner, closingQuote_literal, literalText, List.length_cons,
    List.length_append, List.length_singleton]
  congr 1
  omega

/-! ### Brackets -/

theorem closingBracket_inString (bytes : Bytes) (index depth : Nat) (escaped : Bool) :
    closingBracket bytes index depth true escaped =
      (closingQuote bytes index escaped).bind fun stop =>
        closingBracket (bytes.drop (stop - index)) stop depth false false := by
  induction bytes generalizing index escaped with
  | nil => rfl
  | cons byte rest ih =>
    -- one byte further in both texts
    have further (escaped : Bool) : (closingQuote rest (index + 1) escaped).bind (fun stop =>
        closingBracket (rest.drop (stop - (index + 1))) stop depth false false) =
        (closingQuote rest (index + 1) escaped).bind fun stop =>
          closingBracket ((byte :: rest).drop (stop - index)) stop depth false false := by
      cases found : closingQuote rest (index + 1) escaped with
      | none => rfl
      | some stop =>
        have forward := lt_of_closingQuote found
        have distance : stop - index = stop - (index + 1) + 1 := by omega
        rw [Option.bind_some, Option.bind_some, distance, List.drop_succ_cons]
    rw [closingBracket, closingQuote]
    by_cases inEscape : escaped = true
    · simp only [inEscape, if_true, ih, further]
    by_cases starts : byte = backslash
    · simp only [inEscape, if_pos starts, if_true, ih, Bool.false_eq_true, if_false]
      exact further true
    by_cases ends : byte = quote
    · have other : quote ≠ backslash := by decide
      simp [inEscape, ends, other]
    · simp only [inEscape, starts, ends, if_true, ih, further, Bool.false_eq_true, if_false]

/-- Inside a bracket the loop passes over a text without leaving that bracket. -/
def Neutral (bytes : Bytes) : Prop := ∀ rest index depth,
  closingBracket (bytes ++ rest) index (depth + 1) false false =
    closingBracket rest (index + bytes.length) (depth + 1) false false

theorem Neutral.nil : Neutral [] := fun _ _ _ => rfl

theorem Neutral.append {front back : Bytes} (first : Neutral front) (second : Neutral back) :
    Neutral (front ++ back) := by
  intro rest index depth
  rw [List.append_assoc, first, second, List.length_append, Nat.add_assoc]

def isInert (byte : UInt8) : Bool :=
  byte ≠ quote && byte ≠ 0x7B && byte ≠ 0x5B && byte ≠ 0x7D && byte ≠ 0x5D

theorem Neutral.cons {byte : UInt8} {bytes : Bytes} (inert : isInert byte = true) (others : Neutral bytes) :
    Neutral (byte :: bytes) := by
  intro rest index depth
  simp only [isInert, Bool.and_eq_true, decide_eq_true_eq] at inert
  obtain ⟨⟨⟨⟨notQuote, notBrace⟩, notBracket⟩, notBraceEnd⟩, notBracketEnd⟩ := inert
  rw [List.cons_append, closingBracket]
  simp only [notQuote, notBrace, notBracket, notBraceEnd, notBracketEnd, decide_false, Bool.or_self,
    Bool.false_eq_true, if_false, others rest, List.length_cons]
  congr 1
  omega

theorem Neutral.of_inert {bytes : Bytes} (inert : ∀ byte ∈ bytes, isInert byte = true) : Neutral bytes := by
  induction bytes with
  | nil => exact Neutral.nil
  | cons byte bytes ih =>
    exact Neutral.cons (inert byte List.mem_cons_self) (ih fun byte member =>
      inert byte (List.mem_cons_of_mem _ member))

theorem Neutral.literal (pieces : List Piece) : Neutral (literalText pieces) := by
  intro rest index depth
  have opened : literalText pieces ++ rest = quote :: (innerText pieces ++ quote :: rest) := by
    simp [literalText]
  have inside : (innerText pieces ++ quote :: rest).drop (index + 1 + (innerText pieces).length + 1 - (index + 1)) =
      rest := by
    have distance : index + 1 + (innerText pieces).length + 1 - (index + 1) =
      (innerText pieces).length + 1 := by omega
    rw [distance, ← List.drop_drop, List.drop_left]
    rfl
  rw [opened, closingBracket]
  simp only [Bool.false_eq_true, if_false, if_true, closingBracket_inString, closingQuote_literal,
    Option.bind_some, inside]
  rw [literalText, List.length_cons, List.length_append, List.length_singleton]
  congr 1
  omega

theorem Neutral.blank (blank : Blank) : Neutral blank.bytes := by
  apply Neutral.of_inert
  intro byte member
  have all : ∀ byte, isBlank byte = true → isInert byte = true := forall_byte (by decide +kernel)
  exact all byte (blank.isBlank_of_mem member)

theorem Neutral.word (token : Word) : Neutral token.text := by
  apply Neutral.of_inert
  intro byte member
  have all : ∀ byte, isWordByte byte = true → isInert byte = true := forall_byte (by decide +kernel)
  exact all byte (token.isWordByte_of_mem member)

theorem Neutral.head {kind : Kind} (head : Head kind) : Neutral head.text := by
  cases head with
  | item => exact Neutral.nil
  | name pieces beforeColon afterColon =>
    exact ((Neutral.literal pieces).append (Neutral.blank beforeColon)).append
      (Neutral.cons rfl (Neutral.blank afterColon))

theorem closingBracket_opening (kind : Kind) (bytes : Bytes) (index depth : Nat) :
    closingBracket (kind.opening :: bytes) index depth false false =
      closingBracket bytes (index + 1) (depth + 1) false false := by
  cases kind <;> rfl

theorem closingBracket_closing (kind : Kind) (bytes : Bytes) (index depth : Nat) :
    closingBracket (kind.closing :: bytes) index (depth + 2) false false =
      closingBracket bytes (index + 1) (depth + 1) false false := by
  cases kind <;> rfl

theorem closingBracket_last (kind : Kind) (bytes : Bytes) (index : Nat) :
    closingBracket (kind.closing :: bytes) index 1 false false = some (index + 1) := by
  cases kind <;> rfl

theorem Neutral.brackets {inner : Bytes} (kind : Kind) (neutral : Neutral inner) :
    Neutral (kind.opening :: (inner ++ [kind.closing])) := by
  intro rest index depth
  rw [List.cons_append, closingBracket_opening, List.append_assoc, neutral, List.singleton_append,
    closingBracket_closing]
  simp only [List.length_cons, List.length_append, List.length_nil]
  congr 1
  omega

theorem Neutral.tree {layer : Layer} (tree : Tree layer) : Neutral tree.text := by
  induction tree with
  | word token => exact Neutral.word token
  | string pieces => exact Neutral.literal pieces
  | empty kind inside => exact Neutral.brackets kind (Neutral.blank inside)
  | group kind entries ih => exact Neutral.brackets kind ih
  | last before head value after ih =>
    exact (((Neutral.blank before).append (Neutral.head head)).append ih).append (Neutral.blank after)
  | cons before head value after rest ihValue ihRest =>
    exact ((((Neutral.blank before).append (Neutral.head head)).append ihValue).append
      (Neutral.blank after)).append (Neutral.cons rfl ihRest)

theorem closingBracket_brackets {inner rest : Bytes} (kind : Kind) (neutral : Neutral inner) (index : Nat) :
    closingBracket (kind.opening :: (inner ++ [kind.closing]) ++ rest) index 0 false false =
      some (index + (kind.opening :: (inner ++ [kind.closing])).length) := by
  rw [List.cons_append, closingBracket_opening, List.append_assoc, neutral, List.singleton_append,
    closingBracket_last]
  simp only [List.length_cons, List.length_append, List.length_nil]
  congr 1
  omega

/-! ### Members -/

/-- Bytes that a scalar may end before: a comma or the end of the object. -/
def EndsMember (byte : UInt8) : Prop := byte = comma ∨ byte = 0x7D

theorem EndsMember.delimiter {byte : UInt8} (ends : EndsMember byte) : isDelimiter byte = true := by
  cases ends <;> subst byte <;> rfl

theorem EndsMember.stops_blank {byte : UInt8} (ends : EndsMember byte) (rest : Bytes) :
    Stops isBlank (byte :: rest) := by
  cases ends <;> subst byte <;> exact Stops.cons rfl

theorem rdropWhile_blank {text : Bytes} (solid : ∀ present : text ≠ [], isBlank (text.getLast present) = false)
    (blank : Blank) : (text ++ blank.bytes).rdropWhile isBlank = text := by
  obtain ⟨bytes, valid⟩ := blank
  simp only
  induction bytes using List.reverseRecOn with
  | nil =>
    rw [List.append_nil, List.rdropWhile_eq_self_iff]
    intro present
    simp [solid present]
  | append_singleton bytes byte ih =>
    rw [List.all_append, Bool.and_eq_true] at valid
    have space : isBlank byte = true := by simpa using valid.2
    rw [← List.append_assoc, List.rdropWhile_concat_pos _ _ _ space]
    exact ih valid.1

theorem Word.last_solid (token : Word) (present : token.text ≠ []) :
    isBlank (token.text.getLast present) = false := by
  have inWord := token.isWordByte_of_mem (List.getLast_mem present)
  by_contra blank
  have delimiter : isDelimiter (token.text.getLast present) = true := by
    rw [Bool.not_eq_false] at blank
    simp [isDelimiter, blank]
  rw [isWordByte_of_isDelimiter delimiter] at inWord
  cases inWord

theorem jsonValueEnd_word {raw rest : Bytes} {start : Nat} {token : Word} {after : Blank} {stop : UInt8}
    (ends : EndsMember stop) (here : raw.drop start = token.text ++ (after.bytes ++ stop :: rest)) :
    jsonValueEnd raw start = some (start + token.text.length) := by
  have scalarByte : ∀ byte, isWordByte byte = true ∨ isBlank byte = true →
      (decide (byte ≠ comma) && decide (byte ≠ 0x7D)) = true := forall_byte (by decide +kernel)
  have scalar : (raw.drop start).takeWhile (fun byte => decide (byte ≠ comma) && decide (byte ≠ 0x7D)) =
      token.text ++ after.bytes := by
    rw [here, ← List.append_assoc]
    apply (span_of_stops _ (Stops.cons _)).1
    · intro byte member
      rw [List.mem_append] at member
      cases member with
      | inl member => exact scalarByte byte (.inl (token.isWordByte_of_mem member))
      | inr member => exact scalarByte byte (.inr (after.isBlank_of_mem member))
    · cases ends <;> subst stop <;> rfl
  cases text : token.text with
  | nil => exact absurd text token.text_ne_nil
  | cons first others =>
    have trimmed := rdropWhile_blank (Word.last_solid token) after
    rw [text] at here trimmed
    have opens : isDelimiter first = false := token.head (by rw [text]; rfl)
    have other : first ≠ quote ∧ first ≠ 0x7B ∧ first ≠ 0x5B := by
      refine ⟨?_, ?_, ?_⟩ <;> rintro rfl <;> exact absurd opens (by decide)
    simp only [jsonValueEnd, getElem?_here here, bind, Option.bind_some, if_neg other.1, other.2,
      decide_false, Bool.or_self, Bool.false_eq_true, if_false, scalar, text, trimmed]
    rw [if_neg (List.cons_ne_nil _ _)]

theorem jsonValueEnd_group {raw inner rest : Bytes} {start : Nat} (kind : Kind) (neutral : Neutral inner)
    (here : raw.drop start = kind.opening :: (inner ++ [kind.closing]) ++ rest) :
    jsonValueEnd raw start = some (start + (kind.opening :: (inner ++ [kind.closing])).length) := by
  have opened : raw[start]? = some kind.opening := getElem?_here here
  have notQuote : kind.opening ≠ quote := by cases kind <;> decide
  have bracket : (decide (kind.opening = 0x7B) || decide (kind.opening = 0x5B)) = true := by
    cases kind <;> rfl
  simp only [jsonValueEnd, opened, bind, Option.bind_some, if_neg notQuote, if_pos bracket, here]
  exact closingBracket_brackets kind neutral start

theorem jsonValueEnd_here {raw rest : Bytes} {start : Nat} {tree : Tree .value} {after : Blank} {stop : UInt8}
    (ends : EndsMember stop) (here : raw.drop start = tree.text ++ (after.bytes ++ stop :: rest)) :
    jsonValueEnd raw start = some (start + tree.text.length) := by
  cases tree with
  | word token => exact jsonValueEnd_word ends here
  | string pieces =>
    have opened : raw[start]? = some quote := getElem?_here here
    simp only [jsonValueEnd, opened, bind, Option.bind_some, if_true]
    exact jsonStringEnd_here here
  | empty kind inside => exact jsonValueEnd_group kind (Neutral.blank inside) here
  | group kind entries => exact jsonValueEnd_group kind (Neutral.tree entries) here

theorem readMember_here {raw rest : Bytes} {index : Nat} {pieces : List Piece} {beforeColon afterColon : Blank}
    {value : Tree .value} {after : Blank} {stop : UInt8} {key : String} (ends : EndsMember stop)
    (decoded : decodeString pieces = some key)
    (here : raw.drop index =
      (Head.name pieces beforeColon afterColon).text ++ (value.text ++ (after.bytes ++ stop :: rest))) :
    let start := index + (Head.name pieces beforeColon afterColon).text.length
    readMember raw index =
      some (key, (start, start + value.text.length), start + value.text.length + after.bytes.length) := by
  intro start
  have atKey : raw.drop index = literalText pieces ++ (beforeColon.bytes ++
      colon :: (afterColon.bytes ++ (value.text ++ (after.bytes ++ stop :: rest)))) := by
    rw [here]
    simp [Head.text]
  have keyEnd := jsonStringEnd_here atKey
  have afterKey := drop_advance atKey
  have atColon := drop_advance afterKey
  have separator := skipJsonWhitespace_here afterKey (Stops.cons rfl)
  have afterSeparator := drop_next atColon
  have valueStart := skipJsonWhitespace_here afterSeparator (value.stops_blank _)
  have atValue := drop_advance afterSeparator
  have valueEnd := jsonValueEnd_here ends atValue
  have next := skipJsonWhitespace_here (drop_advance atValue) (ends.stops_blank rest)
  have keyText : (raw.drop index).take (index + (literalText pieces).length - index) = literalText pieces := by
    rw [Nat.add_sub_cancel_left, atKey, List.take_left]
  have startEq : index + (literalText pieces).length + beforeColon.bytes.length + 1 + afterColon.bytes.length =
      start := by
    simp only [start, Head.text, List.length_append, List.length_cons]
    omega
  rw [startEq] at valueStart valueEnd next
  simp only [readMember, keyEnd, bind, Option.bind_some, keyText, parseString_literal, decoded, separator,
    getElem?_here atColon, if_true, valueStart, valueEnd, next]
  rfl

/-- The places of the values that belong to a name, in entries that start at an index. -/
def ranges (field : String) : {layer : Layer} → Tree layer → Nat → List (Nat × Nat)
  | _, .last before head value _, index =>
    let start := index + before.bytes.length + head.text.length
    if head.IsNamed field then [(start, start + value.text.length)] else []
  | _, .cons before head value after rest, index =>
    let start := index + before.bytes.length + head.text.length
    let others := ranges field rest (start + value.text.length + after.bytes.length + 1)
    if head.IsNamed field then (start, start + value.text.length) :: others else others
  | _, _, _ => []

/-- The only one of several places; none where there are more. -/
def soleRange : Option (Nat × Nat) → List (Nat × Nat) → Option (Nat × Nat)
  | found, [] => found
  | none, range :: rest => soleRange (some range) rest
  | some _, _ :: _ => none

theorem scanMembers_step {raw : Bytes} {field key : String} {index next : Nat} {range : Nat × Nat}
    {found : Option (Nat × Nat)} {blank : Blank} {rest : Bytes}
    (here : raw.drop index = blank.bytes ++ rest) (stop : Stops isBlank rest) (opened : rest.head? = some quote)
    (member : readMember raw (index + blank.bytes.length) = some (key, range, next)) :
    scanMembers raw field index found =
      if key = field && found.isSome then none
      else
        let found := if key = field then some range else found
        if raw[next]? = some comma then scanMembers raw field (next + 1) found
        else if raw[next]? = some 0x7D then found
        else none := by
  have start := skipJsonWhitespace_here here stop
  have inside : index < raw.length := by
    by_contra outside
    rw [List.drop_eq_nil_of_le (Nat.le_of_not_lt outside)] at here
    rw [(List.append_eq_nil_iff.mp here.symm).2] at opened
    cases opened
  have atQuote : raw[index + blank.bytes.length]? = some quote := by
    rw [← List.head?_drop, drop_advance here, opened]
  have notEnd : raw[index + blank.bytes.length]? ≠ some 0x7D := by
    rw [atQuote]
    decide
  rw [scanMembers, if_pos inside]
  simp only [start, if_neg notEnd]
  split
  · rename_i missing
    rw [start, member] at missing
    cases missing
  · rename_i key' range' next' read
    rw [start, member] at read
    cases read
    rfl

theorem scanMembers_entries {layer : Layer} (tree : Tree layer) (object : layer = .entries .object)
    (named : tree.labelled.isSome = true) {raw rest : Bytes} {field : String} {index : Nat}
    {found : Option (Nat × Nat)} (here : raw.drop index = tree.text ++ 0x7D :: rest) :
    scanMembers raw field index found = soleRange found (ranges field tree index) := by
  induction tree generalizing index found with
  | word | string | empty | group => cases object
  | last before head value after ih =>
    cases object
    cases head with
    | name pieces beforeColon afterColon =>
      obtain ⟨key, decoded⟩ : ∃ key, decodeString pieces = some key := by
        rw [← Option.isSome_iff_exists]
        simpa [Tree.labelled, Head.label] using named
      -- The parts of the entry are read off the front, one after the other.
      have atBlank : raw.drop index = before.bytes ++ ((Head.name pieces beforeColon afterColon).text ++
          (value.text ++ (after.bytes ++ 0x7D :: rest))) := by
        rw [here]
        simp [Tree.text]
      have atHead := drop_advance atBlank
      have member := readMember_here (.inr rfl) decoded atHead
      have atEnd := getElem?_here (drop_advance (drop_advance (drop_advance atHead)))
      have stop : Stops isBlank ((Head.name pieces beforeColon afterColon).text ++
          (value.text ++ (after.bytes ++ 0x7D :: rest))) := Stops.cons rfl
      have notComma : (0x7D : UInt8) ≠ comma := by decide
      rw [scanMembers_step atBlank stop rfl member, atEnd]
      by_cases same : key = field
      · cases found <;> simp [same, ranges, Head.IsNamed, decoded, soleRange, notComma]
      · simp [same, ranges, Head.IsNamed, decoded, soleRange, notComma]
  | cons before head value after others _ ih =>
    cases object
    cases head with
    | name pieces beforeColon afterColon =>
      obtain ⟨⟨key, decoded⟩, following⟩ : (∃ key, decodeString pieces = some key) ∧
          others.labelled.isSome = true := by
        rw [← Option.isSome_iff_exists]
        cases decoded : decodeString pieces with
        | none => simp [Tree.labelled, Head.label, decoded] at named
        | some key =>
          cases labelled : others.labelled with
          | none => simp [Tree.labelled, Head.label, labelled] at named
          | some entries => exact ⟨rfl, rfl⟩
      have atBlank : raw.drop index = before.bytes ++ ((Head.name pieces beforeColon afterColon).text ++
          (value.text ++ (after.bytes ++ comma :: (others.text ++ 0x7D :: rest)))) := by
        rw [here]
        simp [Tree.text]
      have atHead := drop_advance atBlank
      have member := readMember_here (.inl rfl) decoded atHead
      have atComma := drop_advance (drop_advance (drop_advance atHead))
      have stop : Stops isBlank ((Head.name pieces beforeColon afterColon).text ++
          (value.text ++ (after.bytes ++ comma :: (others.text ++ 0x7D :: rest)))) := Stops.cons rfl
      have atOthers := drop_next atComma
      rw [scanMembers_step atBlank stop rfl member, getElem?_here atComma]
      by_cases same : key = field
      · cases found with
        | none => simp [same, ranges, Head.IsNamed, decoded, soleRange, ih rfl following atOthers]
        | some range => simp [same, ranges, Head.IsNamed, decoded, soleRange]
      · simp [same, ranges, Head.IsNamed, decoded, ih rfl following atOthers]

theorem topLevelValueRange_group {raw rest : Bytes} {before : Blank} {entries : Tree (.entries .object)}
    (named : entries.labelled.isSome = true) (field : String)
    (text : raw = before.bytes ++ (Tree.group .object entries).text ++ rest) :
    topLevelValueRange raw field = soleRange none (ranges field entries (before.bytes.length + 1)) := by
  have here : raw.drop 0 = before.bytes ++ (0x7B :: (entries.text ++ 0x7D :: rest)) := by
    rw [List.drop_zero, text]
    simp [Tree.text, Kind.opening, Kind.closing]
  have start := skipJsonWhitespace_here here (Stops.cons rfl)
  rw [Nat.zero_add] at start
  have atBrace := drop_advance here
  rw [Nat.zero_add] at atBrace
  rw [topLevelValueRange, start, if_pos (getElem?_here atBrace)]
  exact scanMembers_entries entries rfl named (drop_next atBrace)

end Tinfoil.UserCacheSecret
