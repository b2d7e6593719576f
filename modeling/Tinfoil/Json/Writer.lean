import Tinfoil.Json.Decode

/-! # Writing a string

The compact spelling: two-character escapes where they exist, `\u00XX` for the other control
characters, every other character as itself. -/

namespace Json

def hexDigitOf (value : Fin 16) : UInt8 :=
  if value.val < 10 then .ofNat (0x30 + value.val) else .ofNat (0x57 + value.val)

theorem isHexDigit_hexDigitOf (value : Fin 16) : isHexDigit (hexDigitOf value) = true := by
  revert value
  decide

def controlPiece (code : Nat) : Piece :=
  .unicode 0x30 0x30 (hexDigitOf (.ofNat 16 (code / 16))) (hexDigitOf (.ofNat 16 code))
    (by simp only [List.all_cons, List.all_nil, isHexDigit_hexDigitOf]; rfl)

def pieceOf (character : Char) : Piece :=
  if valid : isPlain character = true then .plain character valid
  else if character = '"' then .escape 0x22 rfl
  else if character = '\\' then .escape 0x5C rfl
  else if character = '\x08' then .escape 0x62 rfl
  else if character = '\x0c' then .escape 0x66 rfl
  else if character = '\n' then .escape 0x6E rfl
  else if character = '\r' then .escape 0x72 rfl
  else if character = '\t' then .escape 0x74 rfl
  else controlPiece character.toNat

def writtenPieces (text : String) : List Piece := text.toList.map pieceOf

def writeString (text : String) : Bytes := literalText (writtenPieces text)

theorem codeUnit_control : ∀ code : Fin 32,
    codeUnit 0x30 0x30 (hexDigitOf (.ofNat 16 (code.val / 16))) (hexDigitOf (.ofNat 16 code.val)) = code.val := by
  decide

theorem decode_control {code : Nat} (small : code < 32) (rest : List Piece) :
    decodePieces (controlPiece code :: rest) = (decodePieces rest).map (Char.ofNat code :: ·) := by
  have unit := codeUnit_control ⟨code, small⟩
  have low : isLowSurrogate code = false := by
    simp only [isLowSurrogate, Bool.and_eq_false_iff, decide_eq_false_iff_not]
    omega
  have high : isHighSurrogate code = false := by
    simp only [isHighSurrogate, Bool.and_eq_false_iff, decide_eq_false_iff_not]
    omega
  rw [controlPiece, decodePieces_unicode, unit]
  · rwa [unit]
  · rwa [unit]

theorem decode_pieceOf (character : Char) (rest : List Piece) :
    decodePieces (pieceOf character :: rest) = (decodePieces rest).map (character :: ·) := by
  rw [pieceOf]
  by_cases plain : isPlain character = true
  · rw [dif_pos plain]
    rfl
  rw [dif_neg plain]
  by_cases isQuote : character = '"'
  · subst isQuote
    rfl
  by_cases isBackslash : character = '\\'
  · subst isBackslash
    rfl
  rw [if_neg isQuote, if_neg isBackslash]
  repeat' split
  all_goals first | (subst character; rfl) | skip
  -- neither plain nor one of the named characters: a control character
  have small : character.toNat < 32 := by
    have notQuote : character.toNat ≠ '"'.toNat := fun same => isQuote (Char.toNat_inj.mp same)
    have notBackslash : character.toNat ≠ '\\'.toNat := fun same => isBackslash (Char.toNat_inj.mp same)
    simp only [isPlain, Bool.and_eq_true, decide_eq_true_eq] at plain
    by_contra large
    exact plain ⟨⟨Nat.le_of_not_lt large, notQuote⟩, notBackslash⟩
  rw [decode_control small, Char.ofNat_toNat]

theorem decodeString_written (text : String) : decodeString (writtenPieces text) = some text := by
  have all (characters : List Char) : decodePieces (characters.map pieceOf) = some characters := by
    induction characters with
    | nil => rfl
    | cons character rest ih => rw [List.map_cons, decode_pieceOf, ih, Option.map_some]
  rw [decodeString, writtenPieces, all, Option.map_some, String.ofList_toList]

theorem isLiteral_writeString (text : String) : IsLiteral (writeString text) text :=
  ⟨writtenPieces text, rfl, decodeString_written text⟩

end Json
