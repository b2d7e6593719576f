import Tinfoil.Sigstore.Acceptance

/-! # The text of a checkpoint

A log's signature is checked over the note as `marshal` prints it, not as it was received.  Here
the two are compared, and what `encode` prints is read back.
-/

namespace Tinfoil.Sigstore

/-! ## Notes -/

namespace OtherContent

theorem display_ofLine (line : List Char) : (ofLine line).display.toList = line := by
  unfold ofLine
  split
  · rename_i key content split
    simp [display, Text.splitOnce_sound split]
  · simp [display]

end OtherContent

namespace Checkpoint

theorem unmarshal_ok {text : List Char} {checkpoint : Checkpoint} (read : unmarshal text = .ok checkpoint) :
    ∃ origin size otherContent,
      text.splitOn '\n' = origin :: size :: Base64.encode checkpoint.hash.val :: otherContent ∧
        Text.trim origin ≠ [] ∧ checkpoint.origin = String.ofList origin ∧
        parseU64 (String.ofList size) = some checkpoint.size ∧
        checkpoint.otherContent = (otherContent.filter fun line => !line.isEmpty).map OtherContent.ofLine := by
  unfold unmarshal at read
  split at read
  · rename_i origin size hashB64 otherContent lines
    split at read
    · cases read
    · rename_i present
      simp only [bind_ok, okOrElse_ok] at read
      obtain ⟨value, parsed, decoded, decodes, hash, whole, read⟩ := read
      cases read
      have same : hash.val = decoded := by
        unfold Hash.tryFrom at whole
        split at whole
        · cases whole
          rfl
        · cases whole
      refine ⟨origin, size, otherContent, ?_, ?_, rfl, parsed, rfl⟩
      · rw [lines, same, Base64.encode_of_decode decodes]
      · simpa using present
  · cases read

theorem marshal_toList {checkpoint : Checkpoint} {lines : List (List Char)}
    (other : checkpoint.otherContent = lines.map OtherContent.ofLine) :
    checkpoint.marshal.toList =
      Text.unlines (checkpoint.origin.toList :: (toString checkpoint.size.toNat).toList ::
        Base64.encode checkpoint.hash.val :: lines) := by
  have printed : (String.join (checkpoint.otherContent.map fun content => content.display ++ "\n")).toList =
      Text.unlines lines := by
    rw [other]
    clear other
    induction lines with
    | nil => rfl
    | cons line lines ih =>
      rw [List.map_cons, List.map_cons, String.join_cons, String.toList_append, ih, String.toList_append,
        OtherContent.display_ofLine, Text.unlines, Text.unlines, List.flatMap_cons]
      rfl
  simp only [marshal, String.toList_append, printed, String.toList_ofList, Text.unlines, List.flatMap_cons,
    List.append_assoc]
  rfl

end Checkpoint

namespace SignedCheckpoint

def unquoted (text : String) : List Char :=
  Text.trimEndMatches '"' (Text.trimStartMatches '"' text.toList)

/-- The note of an envelope: what stands before its first blank line. -/
def noteText (text : String) : Option (List Char) := (Text.splitOnce ['\n', '\n'] (unquoted text)).map (·.1)

theorem decode_ok {primitives : Primitives} {text : String} {checkpoint : SignedCheckpoint}
    (decoded : decode primitives text = .ok checkpoint) :
    ∃ note sigs, Text.splitOnce ['\n', '\n'] (unquoted text) = some (note, sigs) ∧
      ((Text.lines sigs).filter fun line => !(Text.trim line).isEmpty).mapM (CheckpointSignature.decode primitives) =
        .ok checkpoint.signatures ∧
      checkpoint.signatures ≠ [] ∧ Checkpoint.unmarshal note = .ok checkpoint.note := by
  simp only [decode, bind_ok, okOrElse_ok] at decoded
  obtain ⟨⟨note, sigs⟩, split, signatures, lines, decoded⟩ := decoded
  split at decoded
  · cases decoded
  · rename_i present
    simp only [bind_ok] at decoded
    obtain ⟨note', read, same⟩ := decoded
    cases same
    exact ⟨note, sigs, split, lines, by simpa using present, read⟩

/-- The note is printed line by line as it was received, except for its size. -/
theorem marshal_lines {text : List Char} {checkpoint : Checkpoint} (accepted : Checkpoint.unmarshal text = .ok checkpoint)
    (noBlank : ∀ line ∈ (text.splitOn '\n').tail, line ≠ []) :
    ∃ size otherContent,
      text.splitOn '\n' = checkpoint.origin.toList :: size :: Base64.encode checkpoint.hash.val :: otherContent ∧
        parseU64 (String.ofList size) = some checkpoint.size ∧
        checkpoint.otherContent = otherContent.map OtherContent.ofLine ∧
        Text.trim checkpoint.origin.toList ≠ [] := by
  obtain ⟨origin, size, otherContent, lines, present, sameOrigin, parsed, other⟩ := Checkpoint.unmarshal_ok accepted
  rw [lines] at noBlank
  have all : (otherContent.filter fun line => !line.isEmpty) = otherContent := by
    rw [List.filter_eq_self]
    intro line member
    simpa using noBlank line (by simp [member])
  rw [all] at other
  have origin' : checkpoint.origin.toList = origin := by rw [sameOrigin, String.toList_ofList]
  exact ⟨size, otherContent, origin' ▸ lines, parsed, other, origin' ▸ present⟩

/-- The message that the signature is checked over is the received note exactly where the note
writes its size in canonical form. -/
theorem marshal_eq_noteText_iff {primitives : Primitives} {text : String} {checkpoint : SignedCheckpoint}
    {note : List Char} (decoded : decode primitives text = .ok checkpoint) (received : noteText text = some note) :
    checkpoint.note.marshal.toList = note ++ ['\n'] ↔
      ∃ size, (note.splitOn '\n')[1]? = some size ∧ IsCanonicalDecimal size := by
  obtain ⟨note', sigs, split, -, -, accepted⟩ := decode_ok decoded
  rw [noteText, split, Option.map_some, Option.some.injEq] at received
  subst received
  obtain ⟨size, otherContent, lines, parsed, other, -⟩ :=
    marshal_lines accepted (Text.splitOnce_blank_lines split)
  have canonical := toString_parseU64 parsed
  rw [String.toList_ofList] at canonical
  rw [lines, Checkpoint.marshal_toList other, ← Text.unlines_splitOn, lines]
  constructor
  · intro same
    refine ⟨size, rfl, canonical.mp ?_⟩
    simp only [Text.unlines, List.flatMap_cons, List.append_assoc] at same
    have rest := List.append_cancel_left (List.append_cancel_left same)
    simpa using List.append_cancel_right rest
  · rintro ⟨size', same, form⟩
    cases same
    rw [canonical.mpr form]

def signedSize : String := "log\n+5\nAAAAAAAAAAAAAAAAAAAAAAAAAAAAAAAAAAAAAAAAAAA=\n\n— log AAAAAAEB\n"

def signedSizeCheckpoint : SignedCheckpoint where
  note := { origin := "log", size := 5, hash := ⟨List.replicate 32 0, rfl⟩, otherContent := [] }
  signatures := [⟨[0, 0, 0, 0], [1, 1], "log"⟩]

theorem decode_signedSize : decode Sample.primitives signedSize = .ok signedSizeCheckpoint := by decide

/-- The message has the size without its sign. -/
theorem marshal_ne_noteText_sample :
    ¬ ∀ (primitives : Primitives) (text : String) (checkpoint : SignedCheckpoint) (note : List Char),
      decode primitives text = .ok checkpoint → noteText text = some note →
      checkpoint.note.marshal.toList = note ++ ['\n'] := by
  intro same
  have received : noteText signedSize = some "log\n+5\nAAAAAAAAAAAAAAAAAAAAAAAAAAAAAAAAAAAAAAAAAAA=".toList := by
    decide
  have message := same _ _ _ _ decode_signedSize received
  revert message
  decide

theorem marshal_eq_noteText_sample :
    signedSizeCheckpoint.note.marshal.toList = "log\n+5\nAAAAAAAAAAAAAAAAAAAAAAAAAAAAAAAAAAAAAAAAAAA=".toList ++ ['\n'] ↔
      ∃ size, ("log\n+5\nAAAAAAAAAAAAAAAAAAAAAAAAAAAAAAAAAAAAAAAAAAA=".toList.splitOn '\n')[1]? = some size ∧
        IsCanonicalDecimal size :=
  marshal_eq_noteText_iff decode_signedSize (by decide)

end SignedCheckpoint

/-! ## Signature lines -/

namespace CheckpointSignature

/-- A signature that its line can be printed for: the name is one word. -/
structure Printable (signature : CheckpointSignature) : Prop where
  hint : signature.keyFingerprint.length = 4
  oneWord : ' ' ∉ signature.name.toList
  oneLine : '\n' ∉ signature.name.toList

theorem decode_printable {primitives : Primitives} {line : List Char} {signature : CheckpointSignature}
    (oneLine : '\n' ∉ line) (decoded : decode primitives line = .ok signature) : signature.Printable := by
  simp only [decode] at decoded
  split at decoded
  · cases decoded
  · split at decoded
    · rename_i words _ name sigB64 split
      simp only [bind_ok, okOrElse_ok] at decoded
      obtain ⟨sig, -, decoded⟩ := decoded
      split at decoded
      · cases decoded
      · rename_i long
        cases decoded
        have member : name ∈ (Text.trimEndMatches '\n' (Text.trimStartMatches '\n' line)).splitOn ' ' := by
          rw [split]
          simp
        refine ⟨List.length_take_of_le (Nat.le_of_not_lt long), ?_, ?_⟩
        · rw [String.toList_ofList]
          exact Text.not_mem_splitOn member
        · rw [String.toList_ofList]
          intro inside
          apply oneLine
          have inside := Text.mem_of_mem_splitOn member inside
          exact List.dropWhile_subset _ ((List.rdropWhile_prefix _ _).subset inside)
    · cases decoded

def line (signature : CheckpointSignature) : List Char :=
  '—' :: ' ' :: (signature.name.toList ++ ' ' :: Base64.encode (signature.keyFingerprint ++ signature.raw))

theorem encode_toList (signature : CheckpointSignature) : signature.encode.toList = signature.line ++ ['\n'] := by
  simp [encode, line, String.toList_append]

variable {signature : CheckpointSignature}

theorem Printable.line_concat (printable : signature.Printable) :
    ∃ front last, Base64.encode (signature.keyFingerprint ++ signature.raw) = front ++ [last] ∧
      Text.isWhitespace last = false := by
  have present : signature.keyFingerprint ++ signature.raw ≠ [] := by
    intro empty
    have hint := printable.hint
    rw [(List.append_eq_nil_iff.mp empty).1] at hint
    cases hint
  obtain empty | ⟨front, last, whole⟩ := List.eq_nil_or_concat (Base64.encode (signature.keyFingerprint ++ signature.raw))
  · exact absurd empty (Base64.encode_ne_nil present)
  · rw [List.concat_eq_append] at whole
    refine ⟨front, last, whole, ?_⟩
    apply Base64.forall_encode (by decide) (by decide) (signature.keyFingerprint ++ signature.raw)
    rw [whole]
    simp

theorem Printable.line_oneLine (printable : signature.Printable) : '\n' ∉ signature.line := by
  have encoded : '\n' ∉ Base64.encode (signature.keyFingerprint ++ signature.raw) := by
    intro member
    have := Base64.forall_encode (p := (· = '\n')) (by decide) (by decide) _ _ member
    simp at this
  simp [line, printable.oneLine, encoded]

theorem Printable.line_kept (printable : signature.Printable) :
    Text.stripReturn signature.line = signature.line ∧ Text.trim signature.line ≠ [] := by
  obtain ⟨front, last, whole, kept⟩ := printable.line_concat
  have concat : signature.line = ('—' :: ' ' :: (signature.name.toList ++ ' ' :: front)) ++ [last] := by
    simp [line, whole]
  constructor
  · have carriageReturn : last ≠ '\r' := by
      rintro rfl
      cases kept
    rw [concat, Text.stripReturn, List.getLast?_concat, if_neg (by simpa using carriageReturn)]
  · have start : signature.line.dropWhile Text.isWhitespace = signature.line := by
      rw [line, List.dropWhile_cons_of_neg (by decide)]
    rw [Text.trim, start, concat, Text.trimEnd_concat kept]
    exact List.append_ne_nil_of_right_ne_nil _ (List.cons_ne_nil last [])

theorem decode_line (primitives : Primitives) (printable : signature.Printable) :
    decode primitives signature.line = .ok signature := by
  obtain ⟨front, last, whole, kept⟩ := printable.line_concat
  have trimmed : Text.trimEndMatches '\n' (Text.trimStartMatches '\n' signature.line) = signature.line := by
    have concat : signature.line = ('—' :: ' ' :: (signature.name.toList ++ ' ' :: front)) ++ [last] := by
      simp [line, whole]
    have lineFeed : last ≠ '\n' := by
      rintro rfl
      cases kept
    rw [line, Text.trimStartMatches_cons (by decide), ← line, concat, Text.trimEndMatches_concat lineFeed]
  -- There is no blank in the base64 text, so that the line has three words.
  have oneWord : ' ' ∉ Base64.encode (signature.keyFingerprint ++ signature.raw) := by
    intro member
    have := Base64.forall_encode (p := Text.isWhitespace) (by decide) (by decide) _ _ member
    cases this
  have words : signature.line.splitOn ' ' =
      [['—'], signature.name.toList, Base64.encode (signature.keyFingerprint ++ signature.raw)] := by
    rw [show signature.line = ['—'] ++ ' ' :: (signature.name.toList ++ ' ' :: _) from rfl,
      List.splitOn_append_cons_self_of_not_mem (by decide), List.splitOn_append_cons_self_of_not_mem printable.oneWord,
      List.splitOn_eq_singleton oneWord]
  have start : signature.line.head? = some '—' := rfl
  -- The first four octets are the hint of the key.
  have long : ¬ (signature.keyFingerprint ++ signature.raw).length < 4 := by
    rw [List.length_append, printable.hint]
    omega
  have trimmed' : Text.trimEnd (Base64.encode (signature.keyFingerprint ++ signature.raw)) = _ :=
    whole ▸ Text.trimEnd_concat kept
  have decoded := Base64.decode_encode (signature.keyFingerprint ++ signature.raw)
  have hint : (signature.keyFingerprint ++ signature.raw).take 4 = signature.keyFingerprint ∧
      (signature.keyFingerprint ++ signature.raw).drop 4 = signature.raw := by
    rw [← printable.hint, List.take_left, List.drop_left]
    exact ⟨rfl, rfl⟩
  simp only [decode, trimmed, start, words, trimmed', decoded, okOrElse]
  rw [if_neg (by simp)]
  change (if (signature.keyFingerprint ++ signature.raw).length < 4 then _ else _) = _
  rw [if_neg long, hint.1, hint.2, String.ofList_toList]
  rfl

end CheckpointSignature

/-! ## Envelopes -/

namespace SignedCheckpoint

/-- A checkpoint whose fields hold nothing that its text would be split at. -/
structure Printable (checkpoint : SignedCheckpoint) (lines : List (List Char)) : Prop where
  unquoted : checkpoint.note.origin.toList.head? ≠ some '"'
  origin : Text.trim checkpoint.note.origin.toList ≠ []
  oneLine : '\n' ∉ checkpoint.note.origin.toList
  other : checkpoint.note.otherContent = lines.map OtherContent.ofLine
  lines : ∀ line ∈ lines, line ≠ [] ∧ '\n' ∉ line
  signed : checkpoint.signatures ≠ []
  signatures : ∀ signature ∈ checkpoint.signatures, signature.Printable

theorem head_unquoted (text : String) : (unquoted text).head? ≠ some '"' := by
  intro quote
  have whole := List.rdropWhile_prefix (· = '"') (Text.trimStartMatches '"' text.toList)
  change unquoted text <+: _ at whole
  match found : unquoted text with
  | [] =>
    rw [found] at quote
    cases quote
  | first :: rest =>
    rw [found, List.head?_cons, Option.some.injEq] at quote
    obtain ⟨more, same⟩ := whole
    have start := List.head?_dropWhile_not (· = '"') text.toList
    rw [show text.toList.dropWhile (· = '"') = Text.trimStartMatches '"' text.toList from rfl, ← same, found, quote]
      at start
    simp at start

variable {primitives : Primitives} {checkpoint : SignedCheckpoint} {lines : List (List Char)}

theorem mapM_printable {lines : List (List Char)} {signatures : List CheckpointSignature}
    (oneLine : ∀ line ∈ lines, '\n' ∉ line)
    (decoded : lines.mapM (CheckpointSignature.decode primitives) = .ok signatures) :
    ∀ signature ∈ signatures, signature.Printable := by
  induction lines generalizing signatures with
  | nil =>
    cases decoded
    simp
  | cons line lines ih =>
    simp only [List.mapM_cons, bind_ok] at decoded
    obtain ⟨first, decodedFirst, rest, decodedRest, same⟩ := decoded
    cases same
    rw [List.forall_mem_cons] at oneLine ⊢
    exact ⟨CheckpointSignature.decode_printable oneLine.1 decodedFirst, ih oneLine.2 decodedRest⟩

theorem decode_printable {text : String} (decoded : decode primitives text = .ok checkpoint) :
    ∃ lines, checkpoint.Printable lines := by
  obtain ⟨note, sigs, split, signatures, signed, accepted⟩ := decode_ok decoded
  obtain ⟨size, otherContent, pieces, -, other, present⟩ := marshal_lines accepted (Text.splitOnce_blank_lines split)
  have whole := Text.splitOnce_sound split
  have clean {piece : List Char} (member : piece ∈ note.splitOn '\n') : '\n' ∉ piece := Text.not_mem_splitOn member
  have noBlank := Text.splitOnce_blank_lines split
  rw [pieces] at clean noBlank
  refine ⟨otherContent, ?_, present, clean (by simp), other, ?_, signed, ?_⟩
  · intro quote
    apply head_unquoted text
    rw [whole, show note = _ from (List.intercalate_splitOn '\n').symm, pieces, List.intercalate_cons_cons]
    match origin : checkpoint.note.origin.toList with
    | [] =>
      rw [origin] at quote
      cases quote
    | first :: rest =>
      rw [origin] at quote
      exact quote
  · intro line member
    exact ⟨noBlank line (by simp [member]), clean (by simp [member])⟩
  · apply mapM_printable _ signatures
    intro line member
    exact Text.not_mem_lines (List.mem_of_mem_filter member)

/-! ### Printing and reading back -/

def noteLines (checkpoint : Checkpoint) (lines : List (List Char)) : List (List Char) :=
  checkpoint.origin.toList :: (toString checkpoint.size.toNat).toList :: Base64.encode checkpoint.hash.val :: lines

/-- The signature lines as they are printed, with a blank line between two. -/
def signatureText (signatures : List CheckpointSignature) : List Char :=
  ['\n'].intercalate (signatures.map fun signature => signature.line ++ ['\n'])

theorem encode_toList (other : checkpoint.note.otherContent = lines.map OtherContent.ofLine) :
    checkpoint.encode.toList = ['\n'].intercalate (noteLines checkpoint.note lines) ++
      '\n' :: '\n' :: '\n' :: signatureText checkpoint.signatures := by
  have signatures : (String.intercalate "\n" (checkpoint.signatures.map CheckpointSignature.encode)).toList =
      signatureText checkpoint.signatures := by
    rw [String.toList_intercalate, List.map_map]
    simp only [signatureText, Function.comp_def, CheckpointSignature.encode_toList]
    rfl
  have note : checkpoint.note.marshal.toList = _ := Checkpoint.marshal_toList other
  rw [Text.unlines_eq (List.cons_ne_nil _ _)] at note
  simp only [encode, String.toList_append, signatures, note, noteLines, List.append_assoc]
  rfl

theorem Printable.noteLines_clean (printable : checkpoint.Printable lines) :
    ∀ line ∈ noteLines checkpoint.note lines, line ≠ [] ∧ '\n' ∉ line := by
  simp only [noteLines, List.forall_mem_cons]
  refine ⟨⟨?_, printable.oneLine⟩, ⟨?_, not_mem_digits _ _ (by decide)⟩, ⟨?_, ?_⟩, printable.lines⟩
  · intro empty
    apply printable.origin
    rw [empty]
    rfl
  · rw [Nat.toString_eq_repr, Nat.toList_repr]
    exact Nat.toDigits_ne_nil
  · apply Base64.encode_ne_nil
    intro empty
    have size := checkpoint.note.hash.property
    rw [empty] at size
    cases size
  · intro member
    have := Base64.forall_encode (p := (· = '\n')) (by decide) (by decide) _ _ member
    simp at this

theorem lines_signatureText {signatures : List CheckpointSignature}
    (printable : ∀ signature ∈ signatures, signature.Printable) :
    ((Text.lines (signatureText signatures)).filter fun line => !(Text.trim line).isEmpty) =
      signatures.map CheckpointSignature.line := by
  induction signatures with
  | nil => simp [signatureText, Text.lines_nil]
  | cons signature signatures ih =>
    rw [List.forall_mem_cons] at printable
    have oneLine := printable.1.line_oneLine
    obtain ⟨whole, present⟩ := printable.1.line_kept
    match signatures with
    | [] => simp [signatureText, Text.lines_cons oneLine, Text.lines_nil, whole, present]
    | next :: later =>
      have rest := ih printable.2
      have split : signatureText (signature :: next :: later) =
          signature.line ++ '\n' :: ([] ++ '\n' :: signatureText (next :: later)) := by
        simp [signatureText]
      rw [split, Text.lines_cons oneLine, Text.lines_cons (by simp), List.filter_cons_of_pos (by simp [whole, present]),
        List.filter_cons_of_neg (by simp [Text.stripReturn, Text.trim, Text.trimEnd]), rest, whole]
      rfl

theorem signatureText_concat {signatures : List CheckpointSignature} (signed : signatures ≠ []) :
    ∃ front, signatureText signatures = front ++ ['\n'] := by
  induction signatures with
  | nil => exact absurd rfl signed
  | cons signature signatures ih =>
    match signatures with
    | [] => exact ⟨signature.line, by simp [signatureText]⟩
    | next :: later =>
      obtain ⟨front, split⟩ := ih (List.cons_ne_nil next later)
      refine ⟨signature.line ++ '\n' :: '\n' :: front, ?_⟩
      have whole : signatureText (signature :: next :: later) =
          signature.line ++ '\n' :: '\n' :: signatureText (next :: later) := by
        simp [signatureText]
      rw [whole, split, List.append_assoc, List.cons_append, List.cons_append]

theorem unquoted_encode (printable : checkpoint.Printable lines) :
    unquoted checkpoint.encode = checkpoint.encode.toList := by
  obtain ⟨front, last⟩ := signatureText_concat printable.signed
  rw [unquoted, encode_toList printable.other, last, noteLines]
  match origin : checkpoint.note.origin.toList with
  | [] =>
    have present := printable.origin
    rw [origin] at present
    exact absurd rfl present
  | first :: rest =>
    have kept : first ≠ '"' := by
      rintro rfl
      exact printable.unquoted (by rw [origin]; rfl)
    rw [List.intercalate_cons_cons_left, List.cons_append, Text.trimStartMatches_cons kept]
    simp only [← List.cons_append, ← List.append_assoc]
    exact Text.trimEndMatches_concat (by decide)

theorem unmarshal_noteLines (printable : checkpoint.Printable lines) :
    Checkpoint.unmarshal (['\n'].intercalate (noteLines checkpoint.note lines)) = .ok checkpoint.note := by
  have clean : ∀ line ∈ noteLines checkpoint.note lines, '\n' ∉ line :=
    fun line member => (printable.noteLines_clean line member).2
  have split := List.splitOn_intercalate '\n' clean (List.cons_ne_nil _ _)
  have kept : (lines.filter fun line => !line.isEmpty) = lines := by
    rw [List.filter_eq_self]
    intro line member
    simpa using (printable.lines line member).1
  have size : parseU64 (String.ofList (toString checkpoint.note.size.toNat).toList) = some checkpoint.note.size := by
    rw [String.ofList_toList, parseU64_toString]
  have hash : Hash.tryFrom checkpoint.note.hash.val = some checkpoint.note.hash := by
    rw [Hash.tryFrom, dif_pos checkpoint.note.hash.property]
  have origin : ¬ (Text.trim checkpoint.note.origin.toList).isEmpty = true := by
    simpa using printable.origin
  rw [Checkpoint.unmarshal, split]
  simp only [noteLines, if_neg origin, kept, ← printable.other, bind_ok, okOrElse_ok]
  refine ⟨_, size, _, Base64.decode_encode _, _, hash, ?_⟩
  rw [String.ofList_toList]
  rfl

theorem mapM_line {signatures : List CheckpointSignature}
    (printable : ∀ signature ∈ signatures, signature.Printable) :
    (signatures.map CheckpointSignature.line).mapM (CheckpointSignature.decode primitives) = .ok signatures := by
  induction signatures with
  | nil => rfl
  | cons signature signatures ih =>
    rw [List.forall_mem_cons] at printable
    rw [List.map_cons, List.mapM_cons, CheckpointSignature.decode_line primitives printable.1, ih printable.2]
    rfl

theorem decode_encode (primitives : Primitives) (printable : checkpoint.Printable lines) :
    decode primitives checkpoint.encode = .ok checkpoint := by
  have split : Text.splitOnce _ (['\n'].intercalate (noteLines checkpoint.note lines) ++ _) = some _ :=
    Text.splitOnce_intercalate (List.cons_ne_nil _ _) printable.noteLines_clean
      ('\n' :: signatureText checkpoint.signatures)
  have blank : ((Text.lines ('\n' :: signatureText checkpoint.signatures)).filter fun line =>
      !(Text.trim line).isEmpty) = checkpoint.signatures.map CheckpointSignature.line := by
    rw [← List.nil_append ('\n' :: _), Text.lines_cons (by simp),
      List.filter_cons_of_neg (by simp [Text.stripReturn, Text.trim, Text.trimEnd]),
      lines_signatureText printable.signatures]
  have signed : ¬ checkpoint.signatures.isEmpty = true := by simpa using printable.signed
  rw [← encode_toList printable.other, ← unquoted_encode printable] at split
  simp only [decode, bind_ok, okOrElse_ok]
  refine ⟨_, split, checkpoint.signatures, ?_, ?_⟩
  · rw [blank, mapM_line printable.signatures]
  · rw [if_neg signed]
    exact bind_ok.mpr ⟨checkpoint.note, unmarshal_noteLines printable, rfl⟩

theorem marshal_injective {checkpoint' : SignedCheckpoint} {lines' : List (List Char)}
    (printable : checkpoint.Printable lines) (printable' : checkpoint'.Printable lines')
    (same : checkpoint.note.marshal = checkpoint'.note.marshal) : checkpoint.note = checkpoint'.note := by
  have text := congrArg String.toList same
  rw [Checkpoint.marshal_toList printable.other, Checkpoint.marshal_toList printable'.other] at text
  have split := Text.unlines_injective (fun line member => (printable.noteLines_clean line member).2)
    (fun line member => (printable'.noteLines_clean line member).2) (List.cons_ne_nil _ _) (List.cons_ne_nil _ _) text
  simp only [noteLines, List.cons.injEq] at split
  obtain ⟨origin, size, hash, rest⟩ := split
  have other := printable.other
  rw [rest, ← printable'.other] at other
  have size := UInt64.toNat_inj.mp (toString_injective size)
  have hash := Subtype.ext (Base64.encode_injective hash)
  obtain ⟨⟨_, _, _, _⟩, _⟩ := checkpoint
  obtain ⟨⟨_, _, _, _⟩, _⟩ := checkpoint'
  cases String.toList_injective origin
  cases size
  cases hash
  cases other
  rfl

/-- Accepted checkpoints are read back from what is printed of them, and one signed message is the
note of at most one origin, size, root hash and extra content. -/
theorem round_trip (primitives : Primitives) :
    (∀ text checkpoint, decode primitives text = .ok checkpoint →
        decode primitives checkpoint.encode = .ok checkpoint) ∧
      ∀ text text' checkpoint checkpoint', decode primitives text = .ok checkpoint →
        decode primitives text' = .ok checkpoint' → checkpoint.note.marshal = checkpoint'.note.marshal →
        checkpoint.note = checkpoint'.note := by
  constructor
  · intro text checkpoint decoded
    obtain ⟨lines, printable⟩ := decode_printable decoded
    exact decode_encode primitives printable
  · intro text text' checkpoint checkpoint' decoded decoded' same
    obtain ⟨lines, printable⟩ := decode_printable decoded
    obtain ⟨lines', printable'⟩ := decode_printable decoded'
    exact marshal_injective printable printable' same

/-- A note with two pairs and a line without a key, signed by the log and by a witness. -/
def witnessed : String :=
  "log\n+5\nAAAAAAAAAAAAAAAAAAAAAAAAAAAAAAAAAAAAAAAAAAA=\nTimestamp: 1700000000\nnote: a: b\nplain\n\n" ++
    "— log AAAAAAEB\n— witness AAAAAQID\n"

def witnessedCheckpoint : SignedCheckpoint where
  note :=
    { origin := "log", size := 5, hash := ⟨List.replicate 32 0, rfl⟩
      otherContent := [.keyValue "Timestamp" "1700000000", .keyValue "note" "a: b", .value "plain"] }
  signatures := [⟨[0, 0, 0, 0], [1, 1], "log"⟩, ⟨[0, 0, 0, 1], [2, 3], "witness"⟩]

theorem round_trip_sample :
    decode Sample.primitives witnessedCheckpoint.encode = .ok witnessedCheckpoint :=
  (round_trip Sample.primitives).1 witnessed witnessedCheckpoint (by decide +kernel)

end SignedCheckpoint

end Tinfoil.Sigstore
