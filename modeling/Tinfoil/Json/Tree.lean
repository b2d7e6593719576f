import Tinfoil.Utf8

/-! # The grammar of JSON texts

A syntax tree keeps the spelling of a text byte by byte: white space, the spelling of every
number and every escape of a string.  `Tree.text` is the text that a tree spells. -/

namespace Json

abbrev Bytes := List UInt8

/-! ## Tokens -/

def isBlank (byte : UInt8) : Bool := byte = 0x20 || byte = 0x09 || byte = 0x0A || byte = 0x0D

structure Blank where
  bytes : Bytes
  valid : bytes.all isBlank = true
  deriving DecidableEq, Repr

def Blank.none : Blank := ⟨[], rfl⟩

def isDigit (byte : UInt8) : Bool := 0x30 ≤ byte && byte ≤ 0x39

def isDigits (text : Bytes) : Bool := text ≠ [] && text.all isDigit

/-- An integer has no leading zero. -/
def isInteger (text : Bytes) : Bool := isDigits text && (text.head? ≠ some 0x30 || text = [0x30])

def isExponentMark (byte : UInt8) : Bool := byte = 0x65 || byte = 0x45

def dropSign (text : Bytes) : Bytes :=
  if text.head? = some 0x2B || text.head? = some 0x2D then text.tail else text

/-- `[ minus ] int [ frac ] [ exp ]` -/
def isNumber (text : Bytes) : Bool :=
  let unsigned := if text.head? = some 0x2D then text.tail else text
  let mantissa := unsigned.takeWhile (!isExponentMark ·)
  let exponent := unsigned.dropWhile (!isExponentMark ·)
  let integer := mantissa.takeWhile (· ≠ 0x2E)
  let fraction := mantissa.dropWhile (· ≠ 0x2E)
  isInteger integer && (fraction = [] || isDigits fraction.tail) &&
    (exponent = [] || isDigits (dropSign exponent.tail))

/-- `null`, `true` and `false` -/
def literalNames : List Bytes :=
  [[0x6E, 0x75, 0x6C, 0x6C], [0x74, 0x72, 0x75, 0x65], [0x66, 0x61, 0x6C, 0x73, 0x65]]

def isWord (text : Bytes) : Bool := literalNames.contains text || isNumber text

structure Word where
  text : Bytes
  valid : isWord text = true
  deriving DecidableEq, Repr

def isWordByte (byte : UInt8) : Bool :=
  isDigit byte || (0x61 ≤ byte && byte ≤ 0x7A) || byte = 0x45 || byte = 0x2B || byte = 0x2D || byte = 0x2E

abbrev quote : UInt8 := 0x22
abbrev backslash : UInt8 := 0x5C
abbrev comma : UInt8 := 0x2C
abbrev colon : UInt8 := 0x3A

/-- A character that a string shows as itself. -/
def isPlain (character : Char) : Bool :=
  0x20 ≤ character.toNat && character.toNat ≠ 0x22 && character.toNat ≠ 0x5C

def escapedChar (letter : UInt8) : Option Char :=
  if letter = 0x22 then some '"'
  else if letter = 0x5C then some '\\'
  else if letter = 0x2F then some '/'
  else if letter = 0x62 then some '\x08'
  else if letter = 0x66 then some '\x0c'
  else if letter = 0x6E then some '\n'
  else if letter = 0x72 then some '\r'
  else if letter = 0x74 then some '\t'
  else none

def isHexDigit (byte : UInt8) : Bool :=
  isDigit byte || (0x61 ≤ byte && byte ≤ 0x66) || (0x41 ≤ byte && byte ≤ 0x46)

/-- What stands between the quotes of a string: characters, `\n` and the like, `\uXXXX`. -/
inductive Piece where
  | plain (character : Char) (valid : isPlain character = true)
  | escape (letter : UInt8) (valid : (escapedChar letter).isSome = true)
  | unicode (a b c d : UInt8) (valid : [a, b, c, d].all isHexDigit = true)
  deriving DecidableEq, Repr

def Piece.text : Piece → Bytes
  | plain character _ => String.utf8EncodeChar character
  | escape letter _ => [backslash, letter]
  | unicode a b c d _ => [backslash, 0x75, a, b, c, d]

def innerText (pieces : List Piece) : Bytes := pieces.flatMap Piece.text

def literalText (pieces : List Piece) : Bytes := quote :: (innerText pieces ++ [quote])

/-! ## Trees -/

inductive Kind where
  | array
  | object
  deriving DecidableEq, Repr

def Kind.opening : Kind → UInt8
  | array => 0x5B
  | object => 0x7B

def Kind.closing : Kind → UInt8
  | array => 0x5D
  | object => 0x7D

/-- What stands before the value of an entry: nothing in an array, name and colon in an object. -/
inductive Head : Kind → Type where
  | item : Head .array
  | name (pieces : List Piece) (beforeColon afterColon : Blank) : Head .object
  deriving DecidableEq, Repr

def Head.text : {kind : Kind} → Head kind → Bytes
  | _, item => []
  | _, name pieces beforeColon afterColon =>
    literalText pieces ++ beforeColon.bytes ++ colon :: afterColon.bytes

/-- A tree spells a value, or the entries of a non-empty array or object. -/
inductive Layer where
  | value
  | entries (kind : Kind)

inductive Tree : Layer → Type where
  | word (token : Word) : Tree .value
  | string (pieces : List Piece) : Tree .value
  | empty (kind : Kind) (inside : Blank) : Tree .value
  | group (kind : Kind) (entries : Tree (.entries kind)) : Tree .value
  | last {kind : Kind} (before : Blank) (head : Head kind) (value : Tree .value) (after : Blank) :
    Tree (.entries kind)
  | cons {kind : Kind} (before : Blank) (head : Head kind) (value : Tree .value) (after : Blank)
    (rest : Tree (.entries kind)) : Tree (.entries kind)

def Tree.text : {layer : Layer} → Tree layer → Bytes
  | _, word token => token.text
  | _, string pieces => literalText pieces
  | _, empty kind inside => kind.opening :: (inside.bytes ++ [kind.closing])
  | _, group kind entries => kind.opening :: (entries.text ++ [kind.closing])
  | _, last before head value after => before.bytes ++ head.text ++ value.text ++ after.bytes
  | _, cons before head value after rest =>
    before.bytes ++ head.text ++ value.text ++ after.bytes ++ comma :: rest.text

/-- A JSON text: one value in white space. -/
structure Document where
  before : Blank
  root : Tree .value
  after : Blank

def Document.text (document : Document) : Bytes :=
  document.before.bytes ++ document.root.text ++ document.after.bytes

/-! ## Bytes of tokens -/

theorem Blank.isBlank_of_mem (blank : Blank) {byte : UInt8} (member : byte ∈ blank.bytes) :
    isBlank byte = true := List.all_eq_true.mp blank.valid byte member

theorem isDigit_of_isDigits {text : Bytes} (digits : isDigits text = true) :
    ∀ byte ∈ text, isDigit byte = true := by
  simp only [isDigits, Bool.and_eq_true] at digits
  exact List.all_eq_true.mp digits.2

theorem isWordByte_of_isDigit {byte : UInt8} (digit : isDigit byte = true) :
    isWordByte byte = true := by
  simp [isWordByte, digit]

theorem wordBytes_of_tail {text : Bytes} (head : ∀ byte, text.head? = some byte → isWordByte byte = true)
    (tail : ∀ byte ∈ text.tail, isWordByte byte = true) : ∀ byte ∈ text, isWordByte byte = true := by
  cases text with
  | nil => simp
  | cons first rest =>
    intro byte member
    cases member with
    | head => exact head first rfl
    | tail _ member => exact tail byte member

theorem wordBytes_of_dropSign {text : Bytes} (digits : isDigits (dropSign text) = true) :
    ∀ byte ∈ text, isWordByte byte = true := by
  have inner := fun byte member => isWordByte_of_isDigit (isDigit_of_isDigits digits byte member)
  by_cases sign : (text.head? = some 0x2B || text.head? = some 0x2D) = true
  · rw [dropSign, if_pos sign] at inner
    apply wordBytes_of_tail _ inner
    intro byte first
    rw [first] at sign
    have sign : byte = 0x2B ∨ byte = 0x2D := by simpa using sign
    cases sign <;> subst byte <;> rfl
  · rwa [dropSign, if_neg sign] at inner

theorem dropWhile_head {text : Bytes} {keep : UInt8 → Bool} {byte : UInt8}
    (first : (text.dropWhile keep).head? = some byte) : keep byte = false := by
  have stop := List.head?_dropWhile_not keep text
  rw [first] at stop
  simpa using stop

theorem isNumber_bytes {text : Bytes} (number : isNumber text = true) :
    text ≠ [] ∧ ∀ byte ∈ text, isWordByte byte = true := by
  simp only [isNumber, isInteger, Bool.and_eq_true] at number
  generalize unsignedEq : (if text.head? = some 0x2D then text.tail else text) = unsigned at number
  obtain ⟨⟨⟨digits, -⟩, fraction⟩, exponent⟩ := number
  have present : unsigned ≠ [] := by
    rintro rfl
    exact absurd digits (by decide)
  have unsignedBytes : ∀ byte ∈ unsigned, isWordByte byte = true := by
    -- An integer, a fraction and an exponent, the last two with a mark in front.
    rw [← List.takeWhile_append_dropWhile (p := (!isExponentMark ·)) (l := unsigned)]
    intro byte member
    rw [List.mem_append] at member
    cases member with
    | inl member =>
      rw [← List.takeWhile_append_dropWhile (p := fun byte => decide (byte ≠ 0x2E))
        (l := unsigned.takeWhile (!isExponentMark ·)), List.mem_append] at member
      cases member with
      | inl member => exact isWordByte_of_isDigit (isDigit_of_isDigits digits byte member)
      | inr member =>
        rw [Bool.or_eq_true, decide_eq_true_eq] at fraction
        cases fraction with
        | inl absent =>
          rw [absent] at member
          cases member
        | inr digits =>
          refine wordBytes_of_tail ?_ (fun byte member =>
            isWordByte_of_isDigit (isDigit_of_isDigits digits byte member)) byte member
          intro byte first
          have point : byte = 0x2E := by simpa using dropWhile_head first
          subst point
          rfl
    | inr member =>
      rw [Bool.or_eq_true, decide_eq_true_eq] at exponent
      cases exponent with
      | inl absent =>
        rw [absent] at member
        cases member
      | inr digits =>
        refine wordBytes_of_tail ?_ (wordBytes_of_dropSign digits) byte member
        intro byte first
        have mark : isExponentMark byte = true := by simpa using dropWhile_head first
        have mark : byte = 0x65 ∨ byte = 0x45 := by simpa [isExponentMark] using mark
        cases mark <;> subst byte <;> rfl
  by_cases minus : text.head? = some 0x2D
  · rw [if_pos minus] at unsignedEq
    subst unsignedEq
    refine ⟨fun empty => ?_, wordBytes_of_tail ?_ unsignedBytes⟩
    · rw [empty] at minus
      cases minus
    · intro byte first
      rw [minus] at first
      cases first
      rfl
  · rw [if_neg minus] at unsignedEq
    subst unsignedEq
    exact ⟨present, unsignedBytes⟩

theorem Word.text_ne_nil (word : Word) : word.text ≠ [] := by
  have valid := word.valid
  rw [isWord, Bool.or_eq_true] at valid
  cases valid with
  | inl name =>
    intro empty
    rw [empty] at name
    exact absurd name (by decide)
  | inr number => exact (isNumber_bytes number).1

theorem Word.isWordByte_of_mem (word : Word) {byte : UInt8} (member : byte ∈ word.text) :
    isWordByte byte = true := by
  have valid := word.valid
  rw [isWord, Bool.or_eq_true] at valid
  cases valid with
  | inl name =>
    have names : ∀ name ∈ literalNames, ∀ byte ∈ name, isWordByte byte = true := by
      decide +kernel
    exact names _ (by simpa using name) byte member
  | inr number => exact (isNumber_bytes number).2 byte member

theorem forall_byte {motive : UInt8 → Prop} (all : ∀ value : Fin 256, motive (.ofNat value)) (byte : UInt8) :
    motive byte := by
  have here := all ⟨byte.toNat, byte.toNat_lt⟩
  rwa [UInt8.ofNat_toNat] at here

/-- A byte that no word contains: white space, a quote or punctuation. -/
def isDelimiter (byte : UInt8) : Bool :=
  isBlank byte || [quote, comma, colon, 0x5B, 0x5D, 0x7B, 0x7D].contains byte

theorem isWordByte_of_isDelimiter {byte : UInt8} (delimiter : isDelimiter byte = true) :
    isWordByte byte = false := by
  have all : ∀ byte, isDelimiter byte = true → isWordByte byte = false := forall_byte (by decide +kernel)
  exact all byte delimiter

/-- No byte of a character that stands for itself ends the string or starts an escape. -/
theorem plain_bytes {character : Char} (plain : isPlain character = true) :
    ∀ byte ∈ String.utf8EncodeChar character, byte ≠ quote ∧ byte ≠ backslash := by
  simp only [isPlain, Bool.and_eq_true, decide_eq_true_eq] at plain
  intro byte member
  by_cases ascii : character.toNat < 128
  · rw [Utf8.encodeChar_ascii ascii, List.mem_singleton] at member
    have value : byte.toNat = character.toNat := by
      rw [member, UInt8.toNat_ofNat']
      omega
    constructor <;> rintro rfl
    · exact plain.1.2 value.symm
    · exact plain.2 value.symm
  · have high := Utf8.encodeChar_high (Nat.le_of_not_lt ascii) byte member
    constructor <;> rintro rfl <;> exact absurd high (by decide)

theorem Piece.text_ne_nil (piece : Piece) : piece.text ≠ [] := by
  cases piece with
  | plain character valid => exact String.utf8EncodeChar_ne_nil
  | escape letter valid => simp [text]
  | unicode a b c d valid => simp [text]

theorem Piece.head_ne_quote (piece : Piece) : piece.text.head? ≠ some quote := by
  cases piece with
  | plain character valid =>
    intro first
    exact (plain_bytes valid quote (List.mem_of_head? first)).1 rfl
  | escape letter valid => simp [text, quote, backslash]
  | unicode a b c d valid => simp [text, quote, backslash]

theorem Word.head (token : Word) {byte : UInt8} (first : token.text.head? = some byte) :
    isDelimiter byte = false := by
  have inWord := token.isWordByte_of_mem (List.mem_of_head? first)
  by_contra delimiter
  rw [isWordByte_of_isDelimiter (by simpa using delimiter)] at inWord
  cases inWord

theorem Tree.text_ne_nil (tree : Tree .value) : tree.text ≠ [] := by
  cases tree with
  | word token => exact token.text_ne_nil
  | string pieces => simp [Tree.text, literalText]
  | empty kind inside => simp [Tree.text]
  | group kind entries => simp [Tree.text]

theorem Tree.head_not_blank (tree : Tree .value) {byte : UInt8} (first : tree.text.head? = some byte) :
    isBlank byte = false := by
  cases tree with
  | word token =>
    have start := token.head first
    rw [isDelimiter, Bool.or_eq_false_iff] at start
    exact start.1
  | string pieces =>
    cases first
    rfl
  | empty kind inside =>
    cases first
    cases kind <;> rfl
  | group kind entries =>
    cases first
    cases kind <;> rfl

end Json
