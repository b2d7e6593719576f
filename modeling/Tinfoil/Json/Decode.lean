import Mathlib.Data.String.Basic
import Tinfoil.Json.Parser
import Tinfoil.Json.Value
import Tinfoil.OrderedMap

/-! # What a JSON text stands for -/

namespace Json

/-! ## Strings -/

def hexDigitValue (byte : UInt8) : Nat :=
  if byte ≤ 0x39 then byte.toNat - 0x30
  else if byte ≤ 0x46 then byte.toNat - 0x37
  else byte.toNat - 0x57

def codeUnit (a b c d : UInt8) : Nat :=
  ((hexDigitValue a * 16 + hexDigitValue b) * 16 + hexDigitValue c) * 16 + hexDigitValue d

def isHighSurrogate (unit : Nat) : Bool := 0xD800 ≤ unit && unit < 0xDC00

def isLowSurrogate (unit : Nat) : Bool := 0xDC00 ≤ unit && unit < 0xE000

def ofSurrogates (high low : Nat) : Char := Char.ofNat (0x10000 + (high - 0xD800) * 0x400 + (low - 0xDC00))

/-- The characters of a string.  An unpaired surrogate stands for no character. -/
def decodePieces : List Piece → Option (List Char)
  | [] => some []
  | .plain character _ :: rest => (decodePieces rest).map (character :: ·)
  | .escape letter valid :: rest => (decodePieces rest).map ((escapedChar letter).get valid :: ·)
  | .unicode a b c d _ :: rest =>
    let unit := codeUnit a b c d
    if isLowSurrogate unit then none
    else if isHighSurrogate unit then
      match rest with
      | .unicode a b c d _ :: rest =>
        if isLowSurrogate (codeUnit a b c d) then
          (decodePieces rest).map (ofSurrogates unit (codeUnit a b c d) :: ·)
        else none
      | _ => none
    else (decodePieces rest).map (Char.ofNat unit :: ·)

theorem decodePieces_unicode {a b c d : UInt8} (valid : [a, b, c, d].all isHexDigit = true) (rest : List Piece)
    (low : isLowSurrogate (codeUnit a b c d) = false) (high : isHighSurrogate (codeUnit a b c d) = false) :
    decodePieces (.unicode a b c d valid :: rest) =
      (decodePieces rest).map (Char.ofNat (codeUnit a b c d) :: ·) := by
  conv_lhs => unfold decodePieces
  simp [low, high]

def decodeString (pieces : List Piece) : Option String := (decodePieces pieces).map String.ofList

theorem decodeString_empty {pieces : List Piece} : decodeString pieces = some "" ↔ pieces = [] := by
  constructor
  · intro decoded
    rw [decodeString, Option.map_eq_some_iff] at decoded
    obtain ⟨characters, decoded, empty⟩ := decoded
    rw [String.ofList_eq_empty_iff] at empty
    subst empty
    cases pieces with
    | nil => rfl
    | cons piece rest =>
      cases piece with
      | plain character valid => simp [decodePieces] at decoded
      | escape letter valid => simp [decodePieces] at decoded
      | unicode a b c d valid =>
        unfold decodePieces at decoded
        by_cases low : isLowSurrogate (codeUnit a b c d) = true
        · simp [low] at decoded
        by_cases high : isHighSurrogate (codeUnit a b c d) = true
        · simp only [if_neg low, if_pos high] at decoded
          split at decoded
          · simp at decoded
          · cases decoded
        · simp [low, high] at decoded
  · rintro rfl
    rfl

def IsLiteral (bytes : Bytes) (text : String) : Prop :=
  ∃ pieces, bytes = literalText pieces ∧ decodeString pieces = some text

def Tree.asString : Tree .value → Option String
  | string pieces => decodeString pieces
  | _ => none

def parseString (bytes : Bytes) : Option String := do
  let document ← parse bytes
  document.root.asString

theorem parseString_literal (pieces : List Piece) : parseString (literalText pieces) = decodeString pieces := by
  have parsed := parse_text ⟨Blank.none, .string pieces, Blank.none⟩
  simp only [Document.text, Tree.text, Blank.none, List.nil_append, List.append_nil] at parsed
  rw [parseString, parsed]
  rfl

/-! ## Entries -/

/-- What the value of an entry is found by. -/
abbrev Label : Kind → Type
  | .array => Unit
  | .object => String

def Head.label : {kind : Kind} → Head kind → Option (Label kind)
  | _, item => some ()
  | _, name pieces _ _ => decodeString pieces

def Head.IsNamed (field : String) : {kind : Kind} → Head kind → Bool
  | _, item => false
  | _, name pieces _ _ => decodeString pieces = some field

abbrev Layer.Entries : Layer → Type
  | value => Unit
  | entries kind => List (Label kind × Tree .value)

def Tree.labelled : {layer : Layer} → Tree layer → Option layer.Entries
  | _, last _ head value _ => head.label.map fun label => [(label, value)]
  | _, cons _ head value _ rest => do
    let label ← head.label
    let entries ← rest.labelled
    return (label, value) :: entries
  | _, word _ => none
  | _, string _ => none
  | _, empty _ _ => none
  | _, group _ _ => none

/-- The members of an object whose names are all strings. -/
def Tree.members : Tree .value → Option (List (String × Tree .value))
  | empty .object _ => some []
  | group .object entries => entries.labelled
  | _ => none

/-! ## Values -/

/-- What a layer stands for. -/
abbrev Layer.Meaning : Layer → Type
  | value => Value
  | entries kind => List (Label kind × Value)

/-- The value of a word; how a number is kept is up to the reader of the text. -/
def decodeWord (number : Bytes → Option Number) (text : Bytes) : Option Value :=
  if text = [0x6E, 0x75, 0x6C, 0x6C] then some .null
  else if text = [0x74, 0x72, 0x75, 0x65] then some (.bool true)
  else if text = [0x66, 0x61, 0x6C, 0x73, 0x65] then some (.bool false)
  else (number text).map .number

def ofEntries : (kind : Kind) → List (Label kind × Value) → Value
  | .array, entries => .array (entries.map (·.2))
  | .object, entries => .object (OrderedMap.ofList entries)

def Tree.decode (number : Bytes → Option Number) : {layer : Layer} → Tree layer → Option layer.Meaning
  | _, word token => decodeWord number token.text
  | _, string pieces => (decodeString pieces).map .string
  | _, empty kind _ => some (ofEntries kind [])
  | _, group kind entries => (entries.decode number).map (ofEntries kind)
  | _, last _ head value _ => do
    let label ← head.label
    let value ← value.decode number
    return [(label, value)]
  | _, cons _ head value _ rest => do
    let label ← head.label
    let value ← value.decode number
    let entries ← rest.decode number
    return (label, value) :: entries

def parseValue (number : Bytes → Option Number) (bytes : Bytes) : Option Value := do
  let document ← parse bytes
  document.root.decode number

def decodeEntry (number : Bytes → Option Number) {label : Type} (entry : label × Tree .value) :
    Option (label × Value) := (entry.2.decode number).map (entry.1, ·)

theorem Tree.decode_entries (number : Bytes → Option Number) {kind : Kind} (entries : Tree (.entries kind)) :
    entries.decode number = entries.labelled.bind (List.mapM (decodeEntry number)) := by
  suffices all : ∀ {layer : Layer} (tree : Tree layer) {kind : Kind} (same : layer = .entries kind),
      (same ▸ tree).decode number = (same ▸ tree).labelled.bind (List.mapM (decodeEntry number)) from
    all entries rfl
  intro layer tree
  induction tree with
  | last before head value after ih =>
    intro kind same
    cases same
    cases label : head.label with
    | none => simp [Tree.decode, Tree.labelled, label]
    | some label' =>
      cases decoded : value.decode number <;>
        simp [Tree.decode, Tree.labelled, label, decodeEntry, decoded]
  | cons before head value after rest ihValue ihRest =>
    intro kind same
    cases same
    have following := ihRest rfl
    cases label : head.label with
    | none => simp [Tree.decode, Tree.labelled, label]
    | some label' =>
      cases decoded : value.decode number with
      | none => cases entries : rest.labelled <;>
          simp [Tree.decode, Tree.labelled, label, decodeEntry, decoded, entries]
      | some value' => cases entries : rest.labelled <;>
          simp [Tree.decode, Tree.labelled, label, decodeEntry, decoded, entries, following]
  | _ => intro kind same; cases same

theorem Tree.decode_members (number : Bytes → Option Number) {root : Tree .value}
    {members : List (String × Tree .value)} (object : root.members = some members) :
    root.decode number =
      (members.mapM (decodeEntry number)).map fun values => .object (OrderedMap.ofList values) := by
  cases root with
  | word | string => cases object
  | empty kind inside =>
    cases kind with
    | array => cases object
    | object =>
      cases object
      rfl
  | group kind entries =>
    cases kind with
    | array => cases object
    | object =>
      have labelled : entries.labelled = some members := object
      rw [Tree.decode, decode_entries, labelled, Option.bind_some]
      rfl

theorem labels_decoded {number : Bytes → Option Number} {label : Type} {entries : List (label × Tree .value)}
    {values : List (label × Value)} (decoded : entries.mapM (decodeEntry number) = some values) :
    values.map (·.1) = entries.map (·.1) := by
  induction entries generalizing values with
  | nil =>
    cases decoded
    rfl
  | cons entry entries ih =>
    simp only [List.mapM_cons, bind, Option.bind_eq_some_iff, pure, Option.some.injEq, decodeEntry,
      Option.map_eq_some_iff] at decoded
    obtain ⟨first, ⟨value, -, rfl⟩, others, following, rfl⟩ := decoded
    rw [List.map_cons, List.map_cons, ih following]

end Json
