import Tinfoil.Json.Tree

/-! # A parser for JSON texts

`parse` finds the tree of a text: it accepts exactly the texts that a tree spells, and a text has
one tree. -/

namespace Json

/-! ## Tokens -/

def splitBlank (bytes : Bytes) : Blank × Bytes :=
  (⟨bytes.takeWhile isBlank, List.all_takeWhile⟩, bytes.dropWhile isBlank)

def parseWord (bytes : Bytes) : Option (Word × Bytes) :=
  let text := bytes.takeWhile isWordByte
  if valid : isWord text = true then some (⟨text, valid⟩, bytes.dropWhile isWordByte) else none

def parseUnicode : Bytes → Option (Piece × Bytes)
  | a :: b :: c :: d :: rest =>
    if valid : [a, b, c, d].all isHexDigit = true then some (.unicode a b c d valid, rest) else none
  | _ => none

def parseEscape : Bytes → Option (Piece × Bytes)
  | [] => none
  | letter :: rest =>
    if letter = 0x75 then parseUnicode rest
    else if valid : (escapedChar letter).isSome = true then some (.escape letter valid, rest)
    else none

def parsePlain (bytes : Bytes) : Option (Piece × Bytes) :=
  match Utf8.decodeChar bytes with
  | some (character, rest) =>
    if valid : isPlain character = true then some (.plain character valid, rest) else none
  | none => none

def parsePiece (bytes : Bytes) : Option (Piece × Bytes) :=
  if bytes.head? = some backslash then parseEscape bytes.tail else parsePlain bytes

def parsePieces : Nat → Bytes → Option (List Piece × Bytes)
  | 0, _ => none
  | fuel + 1, bytes =>
    if bytes.head? = some quote then some ([], bytes.tail)
    else do
      let (piece, rest) ← parsePiece bytes
      let (pieces, rest) ← parsePieces fuel rest
      return (piece :: pieces, rest)

def parseLiteral (bytes : Bytes) : Option (List Piece × Bytes) :=
  if bytes.head? = some quote then parsePieces (bytes.length + 1) bytes.tail else none

def parseHead : (kind : Kind) → Bytes → Option (Head kind × Bytes)
  | .array, bytes => some (.item, bytes)
  | .object, bytes => do
    let (pieces, rest) ← parseLiteral bytes
    let (beforeColon, rest) := splitBlank rest
    if rest.head? = some colon then
      let (afterColon, rest) := splitBlank rest.tail
      return (.name pieces beforeColon afterColon, rest)
    else none

/-! ## Trees -/

/-- An array or object after its opening bracket. -/
def parseGroup (kind : Kind) (parseEntries : Bytes → Option (Tree (.entries kind) × Bytes))
    (bytes : Bytes) : Option (Tree .value × Bytes) :=
  let (inside, rest) := splitBlank bytes
  if rest.head? = some kind.closing then some (.empty kind inside, rest.tail)
  else (parseEntries bytes).map fun (entries, rest) => (.group kind entries, rest)

/-- Entries are read with their closing bracket, which belongs to the group around them. -/
def parseTree : (layer : Layer) → Nat → Bytes → Option (Tree layer × Bytes)
  | _, 0, _ => none
  | .value, fuel + 1, bytes =>
    if bytes.head? = some quote then
      (parseLiteral bytes).map fun (pieces, rest) => (.string pieces, rest)
    else if bytes.head? = some Kind.array.opening then
      parseGroup .array (parseTree (.entries .array) fuel) bytes.tail
    else if bytes.head? = some Kind.object.opening then
      parseGroup .object (parseTree (.entries .object) fuel) bytes.tail
    else (parseWord bytes).map fun (token, rest) => (.word token, rest)
  | .entries kind, fuel + 1, bytes => do
    let (before, rest) := splitBlank bytes
    let (head, rest) ← parseHead kind rest
    let (value, rest) ← parseTree .value fuel rest
    let (after, rest) := splitBlank rest
    if rest.head? = some comma then
      let (entries, rest) ← parseTree (.entries kind) fuel rest.tail
      return (.cons before head value after entries, rest)
    else if rest.head? = some kind.closing then return (.last before head value after, rest.tail)
    else none

def parseFront (bytes : Bytes) : Option (Blank × Tree .value × Bytes) := do
  let (before, rest) := splitBlank bytes
  let (root, rest) ← parseTree .value (2 * rest.length + 1) rest
  return (before, root, rest)

def parse (bytes : Bytes) : Option Document := do
  let (before, root, rest) ← parseFront bytes
  let (after, rest) := splitBlank rest
  if rest = [] then return ⟨before, root, after⟩ else none

/-! ## What the parser accepts is spelt by what it returns -/

theorem splitBlank_text (bytes : Bytes) : (splitBlank bytes).1.bytes ++ (splitBlank bytes).2 = bytes :=
  List.takeWhile_append_dropWhile

theorem eq_of_head {bytes : Bytes} {byte : UInt8} (first : bytes.head? = some byte) :
    bytes = byte :: bytes.tail := (List.cons_head?_tail first).symm

theorem parseWord_sound {bytes rest : Bytes} {token : Word} (parsed : parseWord bytes = some (token, rest)) :
    bytes = token.text ++ rest := by
  simp only [parseWord, Option.dite_none_right_eq_some, Option.some.injEq, Prod.mk.injEq] at parsed
  obtain ⟨-, rfl, rfl⟩ := parsed
  exact List.takeWhile_append_dropWhile.symm

theorem parseUnicode_sound {bytes rest : Bytes} {piece : Piece} (parsed : parseUnicode bytes = some (piece, rest)) :
    backslash :: 0x75 :: bytes = piece.text ++ rest := by
  simp only [parseUnicode] at parsed
  split at parsed
  · simp only [Option.dite_none_right_eq_some, Option.some.injEq, Prod.mk.injEq] at parsed
    obtain ⟨-, rfl, rfl⟩ := parsed
    rfl
  · cases parsed

theorem parseEscape_sound {bytes rest : Bytes} {piece : Piece} (parsed : parseEscape bytes = some (piece, rest)) :
    backslash :: bytes = piece.text ++ rest := by
  cases bytes with
  | nil => cases parsed
  | cons letter bytes =>
    rw [parseEscape] at parsed
    by_cases unicode : letter = 0x75
    · rw [if_pos unicode] at parsed
      rw [unicode]
      exact parseUnicode_sound parsed
    · simp only [if_neg unicode, Option.dite_none_right_eq_some, Option.some.injEq, Prod.mk.injEq] at parsed
      obtain ⟨-, rfl, rfl⟩ := parsed
      rfl

theorem parsePlain_sound {bytes rest : Bytes} {piece : Piece} (parsed : parsePlain bytes = some (piece, rest)) :
    bytes = piece.text ++ rest := by
  rw [parsePlain] at parsed
  split at parsed
  · rename_i character back front
    simp only [Option.dite_none_right_eq_some, Option.some.injEq, Prod.mk.injEq] at parsed
    obtain ⟨-, rfl, rfl⟩ := parsed
    exact Utf8.decodeChar_sound front
  · cases parsed

theorem parsePiece_sound {bytes rest : Bytes} {piece : Piece} (parsed : parsePiece bytes = some (piece, rest)) :
    bytes = piece.text ++ rest := by
  rw [parsePiece] at parsed
  by_cases escaped : bytes.head? = some backslash
  · rw [if_pos escaped] at parsed
    rw [eq_of_head escaped]
    exact parseEscape_sound parsed
  · rw [if_neg escaped] at parsed
    exact parsePlain_sound parsed

theorem parsePieces_sound {fuel : Nat} {bytes rest : Bytes} {pieces : List Piece}
    (parsed : parsePieces fuel bytes = some (pieces, rest)) : bytes = innerText pieces ++ quote :: rest := by
  induction fuel generalizing bytes pieces with
  | zero => cases parsed
  | succ fuel ih =>
    rw [parsePieces] at parsed
    by_cases closed : bytes.head? = some quote
    · simp only [if_pos closed, Option.some.injEq, Prod.mk.injEq] at parsed
      obtain ⟨rfl, rfl⟩ := parsed
      exact eq_of_head closed
    · simp only [if_neg closed, bind, Option.bind_eq_some_iff, Prod.exists, pure, Option.some.injEq,
        Prod.mk.injEq] at parsed
      obtain ⟨piece, middle, first, others, back, following, rfl, rfl⟩ := parsed
      rw [parsePiece_sound first, ih following, innerText, innerText, List.flatMap_cons, List.append_assoc]

theorem parseLiteral_sound {bytes rest : Bytes} {pieces : List Piece}
    (parsed : parseLiteral bytes = some (pieces, rest)) : bytes = literalText pieces ++ rest := by
  simp only [parseLiteral, Option.ite_none_right_eq_some] at parsed
  rw [eq_of_head parsed.1, parsePieces_sound parsed.2, literalText]
  simp

theorem parseHead_sound {kind : Kind} {bytes rest : Bytes} {head : Head kind}
    (parsed : parseHead kind bytes = some (head, rest)) : bytes = head.text ++ rest := by
  cases kind with
  | array =>
    simp only [parseHead, Option.some.injEq, Prod.mk.injEq] at parsed
    obtain ⟨rfl, rfl⟩ := parsed
    rfl
  | object =>
    simp only [parseHead, bind, Option.bind_eq_some_iff, Prod.exists, pure, Option.ite_none_right_eq_some,
      Option.some.injEq, Prod.mk.injEq] at parsed
    obtain ⟨pieces, middle, name, separated, rfl, rfl⟩ := parsed
    have spaced : middle = (splitBlank middle).1.bytes ++ colon :: (splitBlank middle).2.tail := by
      rw [← eq_of_head separated, splitBlank_text]
    rw [parseLiteral_sound name]
    conv_lhs => rw [spaced, ← splitBlank_text (splitBlank middle).2.tail]
    simp [Head.text]

/-- What a parsed layer is followed by within its own syntax. -/
def Layer.closing : Layer → Bytes
  | value => []
  | entries kind => [kind.closing]

theorem parseGroup_sound {kind : Kind} {bytes rest : Bytes} {tree : Tree .value}
    {parseEntries : Bytes → Option (Tree (.entries kind) × Bytes)}
    (sound : ∀ {bytes rest entries}, parseEntries bytes = some (entries, rest) →
      bytes = entries.text ++ (Layer.entries kind).closing ++ rest)
    (parsed : parseGroup kind parseEntries bytes = some (tree, rest)) :
    kind.opening :: bytes = tree.text ++ rest := by
  rw [parseGroup] at parsed
  by_cases closed : (splitBlank bytes).2.head? = some kind.closing
  · simp only [if_pos closed, Option.some.injEq, Prod.mk.injEq] at parsed
    obtain ⟨rfl, rfl⟩ := parsed
    conv_lhs => rw [← splitBlank_text bytes, eq_of_head closed]
    simp [Tree.text]
  · simp only [if_neg closed, Option.map_eq_some_iff, Prod.exists, Prod.mk.injEq] at parsed
    obtain ⟨entries, back, inner, rfl, rfl⟩ := parsed
    rw [sound inner]
    simp [Tree.text, Layer.closing]

theorem parseTree_sound {layer : Layer} {fuel : Nat} {bytes rest : Bytes} {tree : Tree layer}
    (parsed : parseTree layer fuel bytes = some (tree, rest)) :
    bytes = tree.text ++ layer.closing ++ rest := by
  induction fuel generalizing layer bytes rest with
  | zero => cases layer <;> cases parsed
  | succ fuel ih =>
    cases layer with
    | value =>
      rw [parseTree] at parsed
      simp only [Layer.closing, List.append_nil]
      -- The first byte tells strings, arrays and objects; all else is a word.
      by_cases string : bytes.head? = some quote
      · simp only [if_pos string, Option.map_eq_some_iff, Prod.exists, Prod.mk.injEq] at parsed
        obtain ⟨pieces, back, literal, rfl, rfl⟩ := parsed
        exact parseLiteral_sound literal
      rw [if_neg string] at parsed
      by_cases array : bytes.head? = some Kind.array.opening
      · rw [if_pos array] at parsed
        rw [eq_of_head array]
        exact parseGroup_sound ih parsed
      rw [if_neg array] at parsed
      by_cases object : bytes.head? = some Kind.object.opening
      · rw [if_pos object] at parsed
        rw [eq_of_head object]
        exact parseGroup_sound ih parsed
      simp only [if_neg object, Option.map_eq_some_iff, Prod.exists, Prod.mk.injEq] at parsed
      obtain ⟨token, back, word, rfl, rfl⟩ := parsed
      exact parseWord_sound word
    | entries kind =>
      simp only [parseTree, bind, Option.bind_eq_some_iff, Prod.exists, pure] at parsed
      obtain ⟨head, afterHead, headParsed, value, afterValue, valueParsed, parsed⟩ := parsed
      rw [← splitBlank_text bytes, parseHead_sound headParsed, ih valueParsed]
      conv_lhs => rw [← splitBlank_text afterValue]
      by_cases more : (splitBlank afterValue).2.head? = some comma
      · simp only [if_pos more, Option.bind_eq_some_iff, Prod.exists, Option.some.injEq, Prod.mk.injEq] at parsed
        obtain ⟨entries, back, following, rfl, rfl⟩ := parsed
        rw [eq_of_head more, ih following]
        simp [Tree.text, Layer.closing]
      · simp only [if_neg more, Option.ite_none_right_eq_some, Option.some.injEq, Prod.mk.injEq] at parsed
        obtain ⟨closed, rfl, rfl⟩ := parsed
        rw [eq_of_head closed]
        simp [Tree.text, Layer.closing]

theorem parseFront_sound {bytes rest : Bytes} {before : Blank} {root : Tree .value}
    (parsed : parseFront bytes = some (before, root, rest)) : bytes = before.bytes ++ root.text ++ rest := by
  simp only [parseFront, bind, Option.bind_eq_some_iff, Prod.exists, pure, Option.some.injEq,
    Prod.mk.injEq] at parsed
  obtain ⟨tree, back, value, rfl, rfl, rfl⟩ := parsed
  have valueText := parseTree_sound value
  rw [Layer.closing, List.append_nil] at valueText
  rw [List.append_assoc, ← valueText, splitBlank_text]

theorem parse_sound {bytes : Bytes} {document : Document} (parsed : parse bytes = some document) :
    bytes = document.text := by
  simp only [parse, bind, Option.bind_eq_some_iff, Prod.exists, pure, Option.ite_none_right_eq_some,
    Option.some.injEq] at parsed
  obtain ⟨before, root, back, front, ended, rfl⟩ := parsed
  have afterText := splitBlank_text back
  rw [ended, List.append_nil] at afterText
  rw [parseFront_sound front, Document.text, afterText]

/-! ## Every spelling is accepted -/

/-- A run of bytes of one sort ends where the text goes on. -/
def Stops (test : UInt8 → Bool) (rest : Bytes) : Prop := ∀ byte, rest.head? = some byte → test byte = false

theorem Stops.nil (test : UInt8 → Bool) : Stops test [] := by
  intro byte first
  cases first

theorem Stops.cons {test : UInt8 → Bool} {byte : UInt8} {rest : Bytes} (stop : test byte = false) :
    Stops test (byte :: rest) := by
  intro first same
  cases same
  exact stop

theorem Stops.append {test : UInt8 → Bool} {front rest : Bytes} (stop : Stops test front) (present : front ≠ []) :
    Stops test (front ++ rest) := by
  intro byte first
  rw [List.head?_append_of_ne_nil _ present] at first
  exact stop byte first

theorem span_of_stops {test : UInt8 → Bool} {front rest : Bytes} (all : ∀ byte ∈ front, test byte = true)
    (stop : Stops test rest) :
    (front ++ rest).takeWhile test = front ∧ (front ++ rest).dropWhile test = rest := by
  rw [List.takeWhile_append_of_pos all, List.dropWhile_append_of_pos all]
  cases rest with
  | nil => simp
  | cons byte rest => simp [stop byte rfl]

theorem splitBlank_append {blank : Blank} {rest : Bytes} (stop : Stops isBlank rest) :
    splitBlank (blank.bytes ++ rest) = (blank, rest) := by
  obtain ⟨taken, dropped⟩ := span_of_stops (fun byte => blank.isBlank_of_mem) stop
  cases blank
  simp only [splitBlank, Prod.mk.injEq, Blank.mk.injEq]
  exact ⟨taken, dropped⟩

theorem parseWord_append {token : Word} {rest : Bytes} (stop : Stops isWordByte rest) :
    parseWord (token.text ++ rest) = some (token, rest) := by
  obtain ⟨taken, dropped⟩ := span_of_stops (fun byte => token.isWordByte_of_mem) stop
  cases token with
  | mk text valid =>
    simp only [parseWord, Option.dite_none_right_eq_some, Option.some.injEq, Prod.mk.injEq, Word.mk.injEq]
    rw [taken, dropped]
    exact ⟨valid, rfl, rfl⟩

theorem parsePiece_append (piece : Piece) (rest : Bytes) :
    parsePiece (piece.text ++ rest) = some (piece, rest) := by
  cases piece with
  | plain character valid =>
    have first : (String.utf8EncodeChar character ++ rest).head? ≠ some backslash := by
      rw [List.head?_append_of_ne_nil _ String.utf8EncodeChar_ne_nil]
      intro first
      exact (plain_bytes valid backslash (List.mem_of_head? first)).2 rfl
    simp only [Piece.text, parsePiece, if_neg first, parsePlain, Utf8.decodeChar_encode]
    rw [dif_pos valid]
  | escape letter valid =>
    have other : letter ≠ 0x75 := by
      rintro rfl
      exact absurd valid (by decide)
    simp [Piece.text, parsePiece, parseEscape, other, valid]
  | unicode a b c d valid =>
    have digits : [a, b, c, d].all isHexDigit = true := valid
    simp only [Piece.text, parsePiece, parseEscape, parseUnicode, List.cons_append, List.nil_append,
      List.head?_cons, List.tail_cons, if_true]
    rw [dif_pos digits]

theorem parsePieces_append {fuel : Nat} {pieces : List Piece} {rest : Bytes} (enough : pieces.length < fuel) :
    parsePieces fuel (innerText pieces ++ quote :: rest) = some (pieces, rest) := by
  induction pieces generalizing fuel with
  | nil =>
    cases fuel with
    | zero => cases enough
    | succ fuel => rfl
  | cons piece pieces ih =>
    cases fuel with
    | zero => cases enough
    | succ fuel =>
      have text : innerText (piece :: pieces) ++ quote :: rest =
          piece.text ++ (innerText pieces ++ quote :: rest) := by
        rw [innerText, innerText, List.flatMap_cons, List.append_assoc]
      have opened : (piece.text ++ (innerText pieces ++ quote :: rest)).head? ≠ some quote := by
        rw [List.head?_append_of_ne_nil _ piece.text_ne_nil]
        exact piece.head_ne_quote
      rw [text, parsePieces, if_neg opened, parsePiece_append]
      simp only [bind, Option.bind_some, ih (Nat.lt_of_succ_lt_succ enough)]
      rfl

theorem length_le_innerText (pieces : List Piece) : pieces.length ≤ (innerText pieces).length := by
  induction pieces with
  | nil => exact Nat.le_refl _
  | cons piece pieces ih =>
    have present := List.length_pos_iff.mpr piece.text_ne_nil
    simp only [innerText, List.flatMap_cons, List.length_append, List.length_cons] at ih ⊢
    omega

theorem parseLiteral_append (pieces : List Piece) (rest : Bytes) :
    parseLiteral (literalText pieces ++ rest) = some (pieces, rest) := by
  have enough : pieces.length < (literalText pieces ++ rest).length + 1 := by
    have bound := length_le_innerText pieces
    simp only [literalText, List.length_append, List.length_cons]
    omega
  have opened : (literalText pieces ++ rest).head? = some quote := rfl
  have inner : (literalText pieces ++ rest).tail = innerText pieces ++ quote :: rest := by
    simp [literalText]
  rw [parseLiteral, if_pos opened, inner, parsePieces_append enough]

theorem Tree.stops_blank (tree : Tree .value) (rest : Bytes) : Stops isBlank (tree.text ++ rest) :=
  Stops.append (fun _ first => tree.head_not_blank first) tree.text_ne_nil

theorem Head.stops_blank {kind : Kind} (head : Head kind) {rest : Bytes} (stop : Stops isBlank rest) :
    Stops isBlank (head.text ++ rest) := by
  cases head with
  | item => exact stop
  | name pieces beforeColon afterColon => exact Stops.cons rfl

theorem Kind.closing_delimiter (kind : Kind) : isDelimiter kind.closing = true := by
  cases kind <;> rfl

theorem Kind.closing_not_blank (kind : Kind) : isBlank kind.closing = false := by
  cases kind <;> rfl

theorem Blank.stops_word (blank : Blank) {byte : UInt8} (rest : Bytes) (delimiter : isDelimiter byte = true) :
    Stops isWordByte (blank.bytes ++ byte :: rest) := by
  cases bytes : blank.bytes with
  | nil => exact Stops.cons (isWordByte_of_isDelimiter delimiter)
  | cons first others =>
    have space : isBlank first = true := blank.isBlank_of_mem (by simp [bytes])
    exact Stops.cons (isWordByte_of_isDelimiter (by simp [isDelimiter, space]))

theorem parseHead_append {kind : Kind} (head : Head kind) {rest : Bytes} (stop : Stops isBlank rest) :
    parseHead kind (head.text ++ rest) = some (head, rest) := by
  cases head with
  | item => rfl
  | name pieces beforeColon afterColon =>
    have text : (Head.name pieces beforeColon afterColon).text ++ rest =
        literalText pieces ++ (beforeColon.bytes ++ colon :: (afterColon.bytes ++ rest)) := by
      simp [Head.text]
    have colonStops : Stops isBlank (colon :: (afterColon.bytes ++ rest)) := Stops.cons rfl
    simp only [text, parseHead, parseLiteral_append, bind, Option.bind_some, splitBlank_append colonStops,
      List.head?_cons, List.tail_cons, if_true, splitBlank_append stop]
    rfl

theorem parseGroup_empty (kind : Kind) (inside : Blank) (rest : Bytes)
    (parseEntries : Bytes → Option (Tree (.entries kind) × Bytes)) :
    parseGroup kind parseEntries (inside.bytes ++ kind.closing :: rest) = some (.empty kind inside, rest) := by
  have stop : Stops isBlank (kind.closing :: rest) := Stops.cons kind.closing_not_blank
  simp [parseGroup, splitBlank_append stop]

theorem Tree.entries_head {kind : Kind} (entries : Tree (.entries kind)) (rest : Bytes) :
    (splitBlank (entries.text ++ rest)).2.head? ≠ some kind.closing := by
  have first : ∃ (before : Blank) (head : Head kind) (value : Tree .value) (back : Bytes),
      entries.text ++ rest = before.bytes ++ (head.text ++ (value.text ++ back)) := by
    cases entries with
    | last before head value after => exact ⟨before, head, value, after.bytes ++ rest, by simp [text]⟩
    | cons before head value after others =>
      exact ⟨before, head, value, after.bytes ++ comma :: (others.text ++ rest), by simp [text]⟩
  obtain ⟨before, head, value, back, same⟩ := first
  rw [same, splitBlank_append (head.stops_blank (value.stops_blank back))]
  cases head with
  | name pieces beforeColon afterColon => simp [Head.text, literalText, Kind.closing, quote]
  | item =>
    simp only [Head.text, List.nil_append]
    rw [List.head?_append_of_ne_nil _ value.text_ne_nil]
    intro closed
    cases value with
    | word token => exact absurd (token.head closed) (by decide)
    | string pieces => simp [Tree.text, literalText, Kind.closing, quote] at closed
    | empty inner inside => cases inner <;> simp [Tree.text, Kind.opening, Kind.closing] at closed
    | group inner entries => cases inner <;> simp [Tree.text, Kind.opening, Kind.closing] at closed

theorem parseGroup_entries {kind : Kind} {entries : Tree (.entries kind)} {rest : Bytes}
    {parseEntries : Bytes → Option (Tree (.entries kind) × Bytes)}
    (parsed : parseEntries (entries.text ++ (Layer.entries kind).closing ++ rest) = some (entries, rest)) :
    parseGroup kind parseEntries (entries.text ++ [kind.closing] ++ rest) =
      some (.group kind entries, rest) := by
  have opened : (splitBlank (entries.text ++ [kind.closing] ++ rest)).2.head? ≠ some kind.closing := by
    rw [List.append_assoc]
    exact entries.entries_head _
  rw [Layer.closing] at parsed
  simp only [parseGroup]
  rw [if_neg opened, parsed]
  rfl

/-- The first entry is read; what stands after it decides how to go on. -/
theorem parseTree_entries {kind : Kind} {value : Tree .value} {fuel : Nat} {rest : Bytes}
    (before : Blank) (head : Head kind) (after : Blank) (stop : Stops isBlank rest)
    (parsed : parseTree .value fuel (value.text ++ (after.bytes ++ rest)) = some (value, after.bytes ++ rest)) :
    parseTree (.entries kind) (fuel + 1) (before.bytes ++ (head.text ++ (value.text ++ (after.bytes ++ rest)))) =
      if rest.head? = some comma then
        (parseTree (.entries kind) fuel rest.tail).map fun (entries, rest) =>
          (.cons before head value after entries, rest)
      else if rest.head? = some kind.closing then some (.last before head value after, rest.tail)
      else none := by
  have valueStops := value.stops_blank (after.bytes ++ rest)
  rw [parseTree, splitBlank_append (head.stops_blank valueStops)]
  simp only [parseHead_append head valueStops, parsed, bind, Option.bind_some, splitBlank_append stop, pure,
    Option.map_eq_bind]
  rfl

/-- The bytes that a layer needs for its recursion: two for each level, one more for entries. -/
def Tree.need {layer : Layer} (tree : Tree layer) : Nat := 2 * tree.text.length + layer.closing.length

theorem parseTree_word {token : Word} {fuel : Nat} {rest : Bytes} (stop : Stops isWordByte rest) :
    parseTree .value (fuel + 1) (token.text ++ rest) = some (.word token, rest) := by
  have first (byte : UInt8) (delimiter : isDelimiter byte = true) : (token.text ++ rest).head? ≠ some byte := by
    rw [List.head?_append_of_ne_nil _ token.text_ne_nil]
    intro same
    rw [token.head same] at delimiter
    cases delimiter
  rw [parseTree, if_neg (first _ rfl), if_neg (first _ rfl), if_neg (first _ rfl), parseWord_append stop]
  rfl

theorem parseTree_group {kind : Kind} {fuel : Nat} (bytes : Bytes) :
    parseTree .value (fuel + 1) (kind.opening :: bytes) =
      parseGroup kind (parseTree (.entries kind) fuel) bytes := by
  cases kind <;> rfl

theorem parseTree_append {layer : Layer} (tree : Tree layer) {fuel : Nat} {rest : Bytes}
    (enough : tree.need ≤ fuel) (stop : Stops isWordByte (layer.closing ++ rest)) :
    parseTree layer fuel (tree.text ++ layer.closing ++ rest) = some (tree, rest) := by
  induction tree generalizing fuel rest with
  | word token =>
    have present := List.length_pos_iff.mpr token.text_ne_nil
    cases fuel with
    | zero =>
      rw [Tree.need, Tree.text] at enough
      omega
    | succ fuel =>
      rw [Layer.closing, List.append_nil, Tree.text]
      exact parseTree_word stop
  | string pieces =>
    cases fuel with
    | zero => simp [Tree.need, Tree.text, literalText] at enough
    | succ fuel =>
      rw [Layer.closing, List.append_nil, Tree.text, parseTree, if_pos (by rfl), parseLiteral_append]
      rfl
  | empty kind inside =>
    cases fuel with
    | zero => simp [Tree.need, Tree.text] at enough
    | succ fuel =>
      rw [Layer.closing, List.append_nil, Tree.text, List.cons_append, parseTree_group, List.append_assoc]
      exact parseGroup_empty kind inside rest _
  | group kind entries ih =>
    cases fuel with
    | zero => simp [Tree.need, Tree.text] at enough
    | succ fuel =>
      have inner : entries.need ≤ fuel := by
        simp only [Tree.need, Tree.text, Layer.closing, List.length_cons, List.length_append,
          List.length_nil] at enough ⊢
        omega
      have closes : Stops isWordByte ((Layer.entries kind).closing ++ rest) :=
        Stops.cons (isWordByte_of_isDelimiter kind.closing_delimiter)
      rw [Layer.closing, List.append_nil, Tree.text, List.cons_append, parseTree_group]
      exact parseGroup_entries (ih inner closes)
  | @last kind before head value after ih =>
    cases fuel with
    | zero => simp [Tree.need, Layer.closing] at enough
    | succ fuel =>
      have inner : value.need ≤ fuel := by
        simp only [Tree.need, Tree.text, Layer.closing, List.length_cons, List.length_append,
          List.length_nil] at enough ⊢
        omega
      have stops : Stops isWordByte (Layer.value.closing ++ (after.bytes ++ kind.closing :: rest)) :=
        after.stops_word rest kind.closing_delimiter
      have parsed := ih inner stops
      rw [Layer.closing, List.append_nil] at parsed
      have text : (Tree.last before head value after).text ++ (Layer.entries kind).closing ++ rest =
          before.bytes ++ (head.text ++ (value.text ++ (after.bytes ++ kind.closing :: rest))) := by
        simp [Tree.text, Layer.closing]
      -- A comma would go on with the list, the bracket closes it.
      have notComma : kind.closing ≠ comma := by cases kind <;> decide
      rw [text, parseTree_entries before head after (Stops.cons kind.closing_not_blank) parsed]
      simp [notComma]
  | @cons kind before head value after others ihValue ihOthers =>
    cases fuel with
    | zero => simp [Tree.need, Layer.closing] at enough
    | succ fuel =>
      have lengths : value.need ≤ fuel ∧ others.need ≤ fuel := by
        simp only [Tree.need, Tree.text, Layer.closing, List.length_cons, List.length_append,
          List.length_nil] at enough ⊢
        omega
      have stops : Stops isWordByte (Layer.value.closing ++
          (after.bytes ++ comma :: (others.text ++ (Layer.entries kind).closing ++ rest))) :=
        after.stops_word _ rfl
      have parsed := ihValue lengths.1 stops
      have following := ihOthers lengths.2 stop
      rw [Layer.closing, List.append_nil] at parsed
      have text : (Tree.cons before head value after others).text ++ (Layer.entries kind).closing ++ rest =
          before.bytes ++ (head.text ++ (value.text ++ (after.bytes ++
            comma :: (others.text ++ (Layer.entries kind).closing ++ rest)))) := by
        simp [Tree.text, Layer.closing]
      rw [text, parseTree_entries before head after (Stops.cons rfl) parsed]
      rw [List.head?_cons, if_pos rfl, List.tail_cons, following]
      rfl

theorem parseFront_append {before : Blank} {root : Tree .value} {rest : Bytes} (stop : Stops isWordByte rest) :
    parseFront (before.bytes ++ root.text ++ rest) = some (before, root, rest) := by
  have enough : root.need ≤ 2 * (root.text ++ rest).length + 1 := by
    simp only [Tree.need, Layer.closing, List.length_append, List.length_nil]
    omega
  have parsed := parseTree_append root enough stop
  rw [Layer.closing, List.append_nil] at parsed
  rw [parseFront, List.append_assoc, splitBlank_append (root.stops_blank rest)]
  simp only [parsed, bind, Option.bind_some]
  rfl

theorem Blank.stops_word_end (blank : Blank) : Stops isWordByte blank.bytes := by
  cases bytes : blank.bytes with
  | nil => exact Stops.nil _
  | cons byte rest =>
    have space : isBlank byte = true := blank.isBlank_of_mem (by simp [bytes])
    exact Stops.cons (isWordByte_of_isDelimiter (by simp [isDelimiter, space]))

theorem splitBlank_blank (blank : Blank) : splitBlank blank.bytes = (blank, []) := by
  have whole : splitBlank (blank.bytes ++ []) = (blank, []) := splitBlank_append (Stops.nil isBlank)
  rwa [List.append_nil] at whole

theorem parseFront_text (document : Document) :
    parseFront document.text = some (document.before, document.root, document.after.bytes) :=
  parseFront_append document.after.stops_word_end

theorem parse_text (document : Document) : parse document.text = some document := by
  rw [parse, parseFront_text]
  simp [splitBlank_blank]

theorem parse_iff {bytes : Bytes} {document : Document} :
    parse bytes = some document ↔ bytes = document.text := by
  constructor
  · exact parse_sound
  · rintro rfl
    exact parse_text document

theorem Document.text_injective {document document' : Document} (same : document.text = document'.text) :
    document = document' := by
  have parsed := parse_text document
  rw [same, parse_text document'] at parsed
  exact (Option.some.inj parsed).symm

theorem Tree.text_injective {tree tree' : Tree .value} (same : tree.text = tree'.text) : tree = tree' := by
  have documents : (Document.mk Blank.none tree Blank.none).text = (Document.mk Blank.none tree' Blank.none).text := by
    rw [Document.text, Document.text, same]
  exact congrArg Document.root (Document.text_injective documents)

end Json
