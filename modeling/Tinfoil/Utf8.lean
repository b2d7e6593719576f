import Mathlib.Data.List.Basic

/-! # UTF-8 text as a list of bytes -/

namespace Utf8

def encode (text : List Char) : List UInt8 := text.flatMap String.utf8EncodeChar

/-- The character that a list of bytes starts with, and the bytes after it. -/
def decodeChar (bytes : List UInt8) : Option (Char × List UInt8) :=
  (bytes.toByteArray.utf8DecodeChar? 0).map fun character => (character, bytes.drop character.utf8Size)

theorem decodeChar_encode (character : Char) (rest : List UInt8) :
    decodeChar (String.utf8EncodeChar character ++ rest) = some (character, rest) := by
  have front : (String.utf8EncodeChar character ++ rest).toByteArray.utf8DecodeChar? 0 = some character := by
    rw [List.toByteArray_append]
    exact ByteArray.utf8DecodeChar?_utf8EncodeChar_append
  rw [decodeChar, front, Option.map_some, ← String.length_utf8EncodeChar, List.drop_left]

theorem decodeChar_sound {bytes rest : List UInt8} {character : Char}
    (front : decodeChar bytes = some (character, rest)) :
    bytes = String.utf8EncodeChar character ++ rest := by
  simp only [decodeChar, Option.map_eq_some_iff, Prod.mk.injEq] at front
  obtain ⟨decoded, front, rfl, rfl⟩ := front
  have split := congrArg (·.data.toList) (ByteArray.eq_of_utf8DecodeChar?_eq_some front)
  simpa [ByteArray.data_append, List.take_of_length_le] using split

theorem encodeChar_ascii {character : Char} (ascii : character.toNat < 128) :
    String.utf8EncodeChar character = [UInt8.ofNat character.toNat] := by
  have small : character.val.toNat ≤ 0x7f := Nat.le_of_lt_succ ascii
  simp only [String.utf8EncodeChar, if_pos small]
  rfl

theorem encodeChar_high {character : Char} (high : 128 ≤ character.toNat) :
    ∀ byte ∈ String.utf8EncodeChar character, 128 ≤ byte.toNat := by
  have large : ¬ character.val.toNat ≤ 0x7f := Nat.not_le.mpr high
  intro byte member
  simp only [String.utf8EncodeChar, if_neg large] at member
  split at member
  · simp only [List.mem_cons, List.not_mem_nil, or_false] at member
    obtain rfl | rfl := member <;> simp only [UInt8.toNat_ofNat'] <;> omega
  · split at member <;> simp only [List.mem_cons, List.not_mem_nil, or_false] at member
    · obtain rfl | rfl | rfl := member <;> simp only [UInt8.toNat_ofNat'] <;> omega
    · obtain rfl | rfl | rfl | rfl := member <;> simp only [UInt8.toNat_ofNat'] <;> omega

/-! ## The longest text that a list of bytes starts with -/

theorem decodeChar_shorter {bytes rest : List UInt8} {character : Char}
    (front : decodeChar bytes = some (character, rest)) : rest.length < bytes.length := by
  rw [decodeChar_sound front, List.length_append, String.length_utf8EncodeChar]
  have := character.utf8Size_pos
  omega

/-- The characters read before the first position where no character can be read. -/
def decode (bytes : List UInt8) : List Char :=
  match _front : decodeChar bytes with
  | none => []
  | some (character, rest) => character :: decode rest
termination_by bytes.length
decreasing_by exact decodeChar_shorter _front

/-- `Utf8Error::valid_up_to`. -/
def validUpTo (bytes : List UInt8) : Nat := (encode (decode bytes)).length

theorem decode_none {bytes : List UInt8} (front : decodeChar bytes = none) : decode bytes = [] := by
  rw [decode]
  split
  · rfl
  · rename_i character rest same
    rw [front] at same
    cases same

theorem decode_some {bytes rest : List UInt8} {character : Char}
    (front : decodeChar bytes = some (character, rest)) : decode bytes = character :: decode rest := by
  rw [decode]
  split
  · rename_i same
    rw [front] at same
    cases same
  · rename_i character' rest' same
    rw [front] at same
    cases same
    rfl

theorem encode_cons (character : Char) (text : List Char) :
    encode (character :: text) = String.utf8EncodeChar character ++ encode text :=
  List.flatMap_cons ..

theorem encode_append (text text' : List Char) : encode (text ++ text') = encode text ++ encode text' :=
  List.flatMap_append ..

theorem decode_append (text : List Char) (more : List UInt8) :
    decode (encode text ++ more) = text ++ decode more := by
  induction text with
  | nil => rfl
  | cons character text ih =>
    have front := decodeChar_encode character (encode text ++ more)
    rw [encode_cons, List.append_assoc, decode_some front, ih, List.cons_append]

theorem validUpTo_append (text : List Char) (more : List UInt8) :
    validUpTo (encode text ++ more) = (encode text).length + validUpTo more := by
  rw [validUpTo, decode_append, encode_append, List.length_append, validUpTo]

/-- The bytes are the text read from them and a remainder that starts with no character. -/
theorem split_decode (bytes : List UInt8) :
    ∃ rest, bytes = encode (decode bytes) ++ rest ∧ decodeChar rest = none := by
  induction bytes using decode.induct with
  | case1 bytes front => exact ⟨bytes, by rw [decode_none front]; rfl, front⟩
  | case2 bytes character rest front ih =>
    obtain ⟨rest', split, stuck⟩ := ih
    refine ⟨rest', ?_, stuck⟩
    rw [decode_some front, encode_cons, List.append_assoc, ← split]
    exact decodeChar_sound front

theorem take_validUpTo (bytes : List UInt8) : bytes.take (validUpTo bytes) = encode (decode bytes) := by
  obtain ⟨rest, split, -⟩ := split_decode bytes
  conv_lhs => rw [split, validUpTo]
  rw [← split]
  exact (congrArg (List.take _) split).trans List.take_left

theorem decodeChar_drop (bytes : List UInt8) : decodeChar (bytes.drop (validUpTo bytes)) = none := by
  obtain ⟨rest, split, stuck⟩ := split_decode bytes
  have remainder : bytes.drop (validUpTo bytes) = rest := by
    exact (congrArg (List.drop _) split).trans List.drop_left
  rw [remainder, stuck]

/-! ## Where reading stops -/

/-- A byte that only a character of two or more bytes starts with. -/
def isLead (first : UInt8) : Bool := 0xC2 ≤ first && first ≤ 0xF4

def isContinuation (byte : UInt8) : Bool := 0x80 ≤ byte && byte ≤ 0xBF

/-- The second byte of a character: no overlong form, no surrogate, nothing past the last character. -/
def isSecond (first second : UInt8) : Bool :=
  if first = 0xE0 then 0xA0 ≤ second && second ≤ 0xBF
  else if first = 0xED then 0x80 ≤ second && second ≤ 0x9F
  else if first = 0xF0 then 0x90 ≤ second && second ≤ 0xBF
  else if first = 0xF4 then 0x80 ≤ second && second ≤ 0x8F
  else isContinuation second

/-- `Utf8Error::error_len` of bytes that no character starts: `none` where they end inside one. -/
def errorLen : List UInt8 → Option Nat
  | [] => none
  | first :: rest =>
    if !isLead first then some 1
    else match rest with
      | [] => none
      | second :: rest =>
        if !isSecond first second then some 1
        else match rest with
          | [] => none
          | third :: rest =>
            if !isContinuation third then some 2
            else if rest = [] then none
            else some 3

theorem errorLen_short {bytes : List UInt8} (inside : errorLen bytes = none) : bytes.length ≤ 3 := by
  match bytes with
  | [] | [_] | [_, _] | [_, _, _] => simp
  | first :: second :: third :: fourth :: rest =>
    simp only [errorLen] at inside
    split at inside
    · cases inside
    · split at inside
      · cases inside
      · cases three : isContinuation third <;> simp [three] at inside

theorem errorLen_append {bytes : List UInt8} {len : Nat} (outside : errorLen bytes = some len)
    (more : List UInt8) : errorLen (bytes ++ more) = some len := by
  match bytes with
  | [] => cases outside
  | first :: rest =>
    cases lead : isLead first
    case false => simpa [errorLen, lead] using outside
    match rest with
    | [] => simp [errorLen, lead] at outside
    | second :: rest =>
      cases two : isSecond first second
      case false => simpa [errorLen, lead, two] using outside
      match rest with
      | [] => simp [errorLen, lead, two] at outside
      | third :: rest =>
        cases three : isContinuation third
        case false => simpa [errorLen, lead, two, three] using outside
        match rest with
        | [] => simp [errorLen, lead, two, three] at outside
        | _ :: _ => simpa [errorLen, lead, two, three] using outside

theorem isLead_ofNat {value : Nat} (low : 0xC2 ≤ value) (high : value ≤ 0xF4) :
    isLead (.ofNat value) = true := by
  simp only [isLead, Bool.and_eq_true, decide_eq_true_eq, UInt8.le_iff_toNat_le, UInt8.toNat_ofNat']
  constructor <;> simp only [UInt8.reduceToNat] <;> omega

theorem isContinuation_ofNat {value : Nat} (low : 0x80 ≤ value) (high : value ≤ 0xBF) :
    isContinuation (.ofNat value) = true := by
  simp only [isContinuation, Bool.and_eq_true, decide_eq_true_eq, UInt8.le_iff_toNat_le, UInt8.toNat_ofNat']
  constructor <;> simp only [UInt8.reduceToNat] <;> omega

theorem isSecond_ofNat {first second : Nat} (byte : first < 256) (low : 0x80 ≤ second) (high : second ≤ 0xBF)
    (overlong : first = 0xE0 → 0xA0 ≤ second) (surrogate : first = 0xED → second ≤ 0x9F)
    (overlong' : first = 0xF0 → 0x90 ≤ second) (last : first = 0xF4 → second ≤ 0x8F) :
    isSecond (.ofNat first) (.ofNat second) = true := by
  have same (value : UInt8) : UInt8.ofNat first = value ↔ first = value.toNat := by
    rw [← UInt8.toNat_inj, UInt8.toNat_ofNat', Nat.mod_eq_of_lt byte]
  simp only [isSecond, same, isContinuation, UInt8.le_iff_toNat_le, UInt8.toNat_ofNat', UInt8.reduceToNat,
    Nat.mod_eq_of_lt (show second < 2 ^ 8 by omega)]
  split
  · simp only [Bool.and_eq_true, decide_eq_true_eq]; omega
  · split
    · simp only [Bool.and_eq_true, decide_eq_true_eq]; omega
    · split
      · simp only [Bool.and_eq_true, decide_eq_true_eq]; omega
      · split <;> simp only [Bool.and_eq_true, decide_eq_true_eq] <;> omega

/-- A character cut short is incomplete, not invalid. -/
theorem errorLen_cut {character : Char} {front back : List UInt8}
    (split : String.utf8EncodeChar character = front ++ back) (cut : back ≠ []) : errorLen front = none := by
  have valid : character.val.toNat < 0xD800 ∨ 0xDFFF < character.val.toNat ∧ character.val.toNat < 0x110000 :=
    character.valid
  have size : front.length < (String.utf8EncodeChar character).length := by
    rw [split, List.length_append]
    have := List.length_pos_iff.mpr cut
    omega
  have front_eq : front = (String.utf8EncodeChar character).take front.length := by
    rw [split, List.take_left]
  -- From here on only the length of the front matters.
  clear split
  revert front_eq size
  generalize front.length = length
  rintro size rfl
  -- A case for each number of octets, and in it one for each shorter length.
  unfold String.utf8EncodeChar at size ⊢
  generalize character.val.toNat = v at *
  simp only at size ⊢
  split at size
  · have none : length = 0 := by simpa using size
    rw [none]
    rfl
  · rename_i large
    rw [if_neg large]
    split at size
    · rename_i two
      rw [if_pos two]
      simp only [List.length_cons, List.length_nil] at size
      have lead : isLead (.ofNat (v / 64 % 32 + 192)) = true := isLead_ofNat (by omega) (by omega)
      obtain rfl | rfl : length = 0 ∨ length = 1 := by omega
      · rfl
      · simp only [List.take, errorLen, lead]
        rfl
    · rename_i more
      rw [if_neg more]
      split at size
      · rename_i three
        rw [if_pos three]
        simp only [List.length_cons, List.length_nil] at size
        have lead : isLead (.ofNat (v / 4096 % 16 + 224)) = true := isLead_ofNat (by omega) (by omega)
        have second : isSecond (.ofNat (v / 4096 % 16 + 224)) (.ofNat (v / 64 % 64 + 128)) = true := by
          apply isSecond_ofNat <;> omega
        obtain rfl | rfl | rfl : length = 0 ∨ length = 1 ∨ length = 2 := by omega
        · rfl
        · simp only [List.take, errorLen, lead]
          rfl
        · simp only [List.take, errorLen, lead, second]
          rfl
      · rename_i four
        rw [if_neg four]
        simp only [List.length_cons, List.length_nil] at size
        have lead : isLead (.ofNat (v / 262144 % 8 + 240)) = true := isLead_ofNat (by omega) (by omega)
        have second : isSecond (.ofNat (v / 262144 % 8 + 240)) (.ofNat (v / 4096 % 64 + 128)) = true := by
          apply isSecond_ofNat <;> omega
        have third : isContinuation (.ofNat (v / 64 % 64 + 128)) = true :=
          isContinuation_ofNat (by omega) (by omega)
        obtain rfl | rfl | rfl | rfl : length = 0 ∨ length = 1 ∨ length = 2 ∨ length = 3 := by omega
        · rfl
        · simp only [List.take, errorLen, lead]
          rfl
        · simp only [List.take, errorLen, lead, second]
          rfl
        · simp only [List.take, errorLen, lead, second, third]
          rfl

theorem decodeChar_invalid {bytes : List UInt8} {len : Nat} (stuck : decodeChar bytes = none)
    (outside : errorLen bytes = some len) (more : List UInt8) : decodeChar (bytes ++ more) = none := by
  match front : decodeChar (bytes ++ more) with
  | none => rfl
  | some (character, rest) =>
    have split := decodeChar_sound front
    obtain ⟨mid, left, right⟩ | ⟨mid, left, right⟩ := List.append_eq_append_iff.mp split
    · match mid with
      | [] =>
        have whole := decodeChar_encode character []
        rw [List.append_nil, left, List.append_nil, stuck] at whole
        cases whole
      | byte :: mid =>
        rw [errorLen_cut left (List.cons_ne_nil byte mid)] at outside
        cases outside
    · rw [left, decodeChar_encode] at stuck
      cases stuck

/-! ## Reading in parts -/

def text (bytes : List UInt8) : List UInt8 := bytes.take (validUpTo bytes)

def rest (bytes : List UInt8) : List UInt8 := bytes.drop (validUpTo bytes)

/-- `Utf8Error`. -/
structure DecodeError where
  validUpTo : Nat
  errorLen : Option Nat
  deriving DecidableEq, Repr

/-- `std::str::from_utf8`. -/
def fromUtf8 (bytes : List UInt8) : Except DecodeError (List UInt8) :=
  if rest bytes = [] then .ok bytes else .error ⟨validUpTo bytes, errorLen (rest bytes)⟩

theorem text_append_rest (bytes : List UInt8) : text bytes ++ rest bytes = bytes := List.take_append_drop ..

theorem text_of_stuck {bytes : List UInt8} (stuck : decodeChar bytes = none) : text bytes = [] := by
  rw [text, take_validUpTo, decode_none stuck]
  rfl

theorem rest_of_stuck {bytes : List UInt8} (stuck : decodeChar bytes = none) : rest bytes = bytes := by
  have whole := text_append_rest bytes
  rwa [text_of_stuck stuck, List.nil_append] at whole

theorem validUpTo_continue (bytes more : List UInt8) :
    validUpTo (bytes ++ more) = (text bytes).length + validUpTo (rest bytes ++ more) := by
  have front := validUpTo_append (decode bytes) (rest bytes ++ more)
  rwa [← take_validUpTo, ← text, ← List.append_assoc, text_append_rest] at front

theorem text_append (bytes more : List UInt8) : text (bytes ++ more) = text bytes ++ text (rest bytes ++ more) := by
  have split : bytes ++ more = text bytes ++ (rest bytes ++ more) := by
    rw [← List.append_assoc, text_append_rest]
  rw [text, validUpTo_continue, split, List.take_length_add_append]
  rfl

theorem rest_append (bytes more : List UInt8) : rest (bytes ++ more) = rest (rest bytes ++ more) := by
  have split : bytes ++ more = text bytes ++ (rest bytes ++ more) := by
    rw [← List.append_assoc, text_append_rest]
  rw [rest, validUpTo_continue, split, List.drop_length_add_append]
  rfl

theorem rest_invalid {bytes : List UInt8} {len : Nat} (outside : errorLen (rest bytes) = some len)
    (more : List UInt8) : text (bytes ++ more) = text bytes ∧ errorLen (rest (bytes ++ more)) = some len := by
  have stuck := decodeChar_invalid (decodeChar_drop bytes) outside more
  rw [text_append, rest_append]
  change decodeChar (rest bytes ++ more) = none at stuck
  rw [text_of_stuck stuck, rest_of_stuck stuck, List.append_nil]
  exact ⟨rfl, errorLen_append outside more⟩

theorem rest_encode (text : List Char) : rest (encode text) = [] := by
  have all := validUpTo_append text []
  rw [List.append_nil] at all
  rw [rest, List.drop_eq_nil_iff, all]
  omega

theorem text_encode (chars : List Char) : text (encode chars) = encode chars := by
  have split := text_append_rest (encode chars)
  rwa [rest_encode, List.append_nil] at split

/-- A text cut before a byte of ASCII is cut between two characters. -/
theorem rest_ascii {chars : List Char} {front back : List UInt8} {byte : UInt8}
    (split : encode chars = front ++ byte :: back) (ascii : byte.toNat < 128) : rest front = [] := by
  have stuck : decodeChar (rest front) = none := decodeChar_drop front
  have all := rest_encode chars
  rw [split, rest_append] at all
  match next : decodeChar (rest front ++ byte :: back) with
  | none =>
    rw [rest_of_stuck next] at all
    simp at all
  | some (character, more) =>
    -- A character across the cut would have the byte of ASCII inside.
    have bytes := decodeChar_sound next
    obtain ⟨mid, left, right⟩ | ⟨mid, left, -⟩ := List.append_eq_append_iff.mp bytes
    · match mid with
      | [] =>
        have whole := decodeChar_encode character []
        rw [List.append_nil, left, List.append_nil, stuck] at whole
        cases whole
      | first :: mid =>
        rw [List.cons_append, List.cons.injEq] at right
        have inside : byte ∈ String.utf8EncodeChar character := by
          rw [left, ← right.1]
          simp
        by_cases low : character.toNat < 128
        · rw [encodeChar_ascii low] at left
          have length := congrArg List.length left
          simp only [List.length_cons, List.length_nil, List.length_append] at length
          exact List.eq_nil_of_length_eq_zero (by omega)
        · exact absurd (encodeChar_high (Nat.le_of_not_lt low) byte inside) (by omega)
    · rw [left, decodeChar_encode] at stuck
      cases stuck

end Utf8
