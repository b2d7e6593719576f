import Tinfoil.Sse.Stream

/-! # How a stream is cut into chunks

What `parse_event_stream` delivers is compared with the blocks of the whole text.  A chunk leaves
the parser with the open tail of the text read so far and with the start of a character; the run
lemma `readChunks_whole` carries this over all chunks.
-/

namespace Tinfoil.Sse

open Framing (Block blocks tail)
open Json (Value)

section

variable {fromStr : String → Except String Value}

/-! ## One chunk -/

/-- The events of a list of blocks, up to the first one that is rejected. -/
def deliver (fromStr : String → Except String Value) : List (Block UInt8) → EventStream Unit
  | [] => pure ()
  | block :: later =>
    if maxSseEventBytes < block.content.length then .fail oversizedError
    else do
      let values ← .ofExcept (parseEventBlock fromStr block.content)
      .yield values
      deliver fromStr later

theorem deliver_append (earlier later : List (Block UInt8)) :
    deliver fromStr (earlier ++ later) = (do deliver fromStr earlier; deliver fromStr later) := by
  induction earlier with
  | nil => rfl
  | cons block earlier ih =>
    simp only [List.cons_append, deliver]
    split
    · rfl
    · simp only [ih, bind_assoc]

theorem drainEvents_eq (buffer : Bytes) :
    drainEvents fromStr buffer = (do deliver fromStr (blocks boundary buffer); pure (tail boundary buffer)) := by
  induction buffer using drainEvents.induct with
  | case1 buffer none =>
    have open_ : boundary.find buffer = .none := none
    rw [drainEvents, Framing.blocks_none open_, Framing.tail_none open_]
    split
    · rfl
    · rename_i found
      rw [none] at found
      cases found
  | case2 buffer idx len found oversized =>
    have first : boundary.find buffer = some (idx, len) := found
    have short : (buffer.take idx).length = idx := List.length_take_of_le (by
      have := (boundary.inside first).2
      omega)
    rw [drainEvents, Framing.blocks_some first]
    split
    · rename_i none
      rw [found] at none
      cases none
    · rename_i found'
      rw [found] at found'
      cases found'
      rw [if_pos oversized, deliver, short, if_pos oversized, Generator.fail_bind]
  | case3 buffer idx len found fits ih =>
    have first : boundary.find buffer = some (idx, len) := found
    have short : (buffer.take idx).length = idx := List.length_take_of_le (by
      have := (boundary.inside first).2
      omega)
    rw [drainEvents, Framing.blocks_some first, Framing.tail_some first]
    split
    · rename_i none
      rw [found] at none
      cases none
    · rename_i found'
      rw [found] at found'
      cases found'
      simp only [if_neg fits, deliver, short, ih, bind_assoc]

theorem extend_eq (state : State) (chunk : Bytes) :
    state.extend chunk =
      (⟨state.buffer ++ Utf8.text (state.pending ++ chunk), Utf8.rest (state.pending ++ chunk)⟩,
        Utf8.errorLen (Utf8.rest (state.pending ++ chunk))) := by
  simp only [State.extend, Utf8.fromUtf8]
  generalize state.pending ++ chunk = pending
  by_cases whole : Utf8.rest pending = []
  · have taken : Utf8.text pending = pending := by
      have split := Utf8.text_append_rest pending
      rwa [whole, List.append_nil] at split
    rw [if_pos whole, whole, taken]
    rfl
  · rw [if_neg whole]
    rfl

theorem readChunk_eq (state : State) (chunk : Bytes) :
    readChunk fromStr state chunk =
      (let buffer := state.buffer ++ Utf8.text (state.pending ++ chunk)
      let rest := Utf8.rest (state.pending ++ chunk)
      if (Utf8.errorLen rest).isSome then .fail invalidUtf8Error
      else do
        deliver fromStr (blocks boundary buffer)
        if maxSseEventBytes < (tail boundary buffer).length then .fail oversizedError
        else pure ⟨tail boundary buffer, rest⟩) := by
  simp only [readChunk, extend_eq, drainEvents_eq, bind_assoc, pure_bind]
  generalize Utf8.rest (state.pending ++ chunk) = rest
  cases stops : Utf8.errorLen rest with
  | none =>
    have few : ¬ maxPendingUtf8Bytes < rest.length := Nat.not_lt.mpr (Utf8.errorLen_short stops)
    simp only [Option.isSome_none, Bool.false_eq_true, few, or_self, if_false]
  | some len => simp only [Option.isSome_some, true_or, if_true]

/-! ## All chunks -/

def Passes (fromStr : String → Except String Value) (block : Block UInt8) : Prop :=
  block.content.length ≤ maxSseEventBytes ∧ ∃ values, parseEventBlock fromStr block.content = .ok values

theorem deliver_ok {list : List (Block UInt8)} :
    (deliver fromStr list).result = .ok () ↔ ∀ block ∈ list, Passes fromStr block := by
  induction list with
  | nil => simp [deliver]
  | cons block later ih =>
    rw [List.forall_mem_cons, ← ih, deliver, Passes]
    split
    · rename_i oversized
      constructor
      · intro ends
        cases ends
      · intro passes
        omega
    · rename_i fits
      cases parsed : parseEventBlock fromStr block.content with
      | error e =>
        simp only [Generator.ofExcept, Generator.fail_bind]
        constructor
        · intro ends
          cases ends
        · rintro ⟨⟨-, _, same⟩, -⟩
          cases same
      | ok values =>
        constructor
        · intro ends
          exact ⟨⟨Nat.le_of_not_lt fits, values, rfl⟩, ends⟩
        · exact fun passes => passes.2

/-- Each event that is reached and is small enough leaves room in the buffer for all of its
separator but the last byte. -/
def SeparatorsFit (fromStr : String → Except String Value) (list : List (Block UInt8)) : Prop :=
  ∀ earlier block later, list = earlier ++ block :: later → (∀ passed ∈ earlier, Passes fromStr passed) →
    block.content.length ≤ maxSseEventBytes → block.whole.length ≤ maxSseEventBytes + 1

theorem SeparatorsFit.later {earlier list : List (Block UInt8)} (fit : SeparatorsFit fromStr (earlier ++ list))
    (passes : ∀ passed ∈ earlier, Passes fromStr passed) : SeparatorsFit fromStr list := by
  intro earlier' block later split passes' small
  apply fit (earlier ++ earlier') block later
  · rw [split, List.append_assoc]
  · intro passed member
    rw [List.mem_append] at member
    exact member.elim (passes passed) (passes' passed)
  · exact small

/-- A text and the bytes after it, taken at once. -/
def deliverAll (fromStr : String → Except String Value) (text rest : Bytes) : EventStream Unit := do
  deliver fromStr (blocks boundary text)
  if maxSseEventBytes < (tail boundary text).length then .fail oversizedError
  else finish fromStr ⟨tail boundary text, rest⟩

theorem deliverAll_oversized {text more rest : Bytes} (noEnd : boundary.find text = none)
    (large : maxSseEventBytes < text.length) (fit : SeparatorsFit fromStr (blocks boundary (text ++ more))) :
    deliverAll fromStr (text ++ more) rest = .fail oversizedError := by
  match first : blocks boundary (text ++ more) with
  | [] =>
    rw [deliverAll, first, Framing.tail_of_nil first, if_pos (by rw [List.length_append]; omega)]
    rfl
  | block :: later =>
    have longer := Framing.length_open noEnd first
    have oversized : maxSseEventBytes < block.content.length := by
      by_contra fits
      have := fit [] block later first (by intro passed member; cases member) (Nat.le_of_not_lt fits)
      omega
    rw [deliverAll, first, deliver, if_pos oversized]
    rfl

theorem readChunks_whole (chunks : List Bytes) (state : State) (noEnd : boundary.find state.buffer = none)
    (small : state.buffer.length ≤ maxSseEventBytes) (stuck : Utf8.decodeChar state.pending = none)
    (valid : Utf8.errorLen (Utf8.rest (state.pending ++ chunks.flatten)) = none)
    (fit : SeparatorsFit fromStr (blocks boundary (state.buffer ++ Utf8.text (state.pending ++ chunks.flatten)))) :
    readChunks fromStr state (chunks.map .ok) =
      deliverAll fromStr (state.buffer ++ Utf8.text (state.pending ++ chunks.flatten))
        (Utf8.rest (state.pending ++ chunks.flatten)) := by
  induction chunks generalizing state with
  | nil =>
    rw [List.flatten_nil, List.append_nil, Utf8.text_of_stuck stuck, Utf8.rest_of_stuck stuck, List.append_nil,
      deliverAll, Framing.blocks_none noEnd, Framing.tail_none noEnd, if_neg (Nat.not_lt.mpr small)]
    rfl
  | cons chunk chunks ih =>
    rw [List.flatten_cons, ← List.append_assoc] at valid fit ⊢
    rw [List.map_cons, readChunks, readChunk_eq]
    generalize state.pending ++ chunk = pending at valid fit ⊢
    cases stops : Utf8.errorLen (Utf8.rest pending) with
    | some len =>
      rw [(Utf8.rest_invalid stops chunks.flatten).2] at valid
      cases valid
    | none =>
      rw [Utf8.rest_append] at valid ⊢
      rw [Utf8.text_append, ← List.append_assoc] at fit ⊢
      generalize state.buffer ++ Utf8.text pending = buffer at fit ⊢
      rw [Framing.blocks_append] at fit
      -- What this chunk completes is delivered first, then all that its tail begins.
      have split : deliverAll fromStr (buffer ++ Utf8.text (Utf8.rest pending ++ chunks.flatten))
          (Utf8.rest (Utf8.rest pending ++ chunks.flatten)) = (do
            deliver fromStr (blocks boundary buffer)
            deliverAll fromStr (tail boundary buffer ++ Utf8.text (Utf8.rest pending ++ chunks.flatten))
              (Utf8.rest (Utf8.rest pending ++ chunks.flatten))) := by
        rw [deliverAll, Framing.blocks_append, Framing.tail_append, deliver_append, bind_assoc]
        rfl
      simp only [split, stops, Option.isSome_none, Bool.false_eq_true, if_false, bind_assoc]
      apply Generator.bind_congr_ok
      intro _ ends
      -- Where the blocks of this chunk passed, the condition is left to the later ones.
      have later := fit.later (deliver_ok.mp ends)
      split
      · rename_i large
        rw [deliverAll_oversized (Framing.find_tail buffer) large later]
        rfl
      · rename_i fits
        exact ih ⟨tail boundary buffer, Utf8.rest pending⟩ (Framing.find_tail buffer)
          (Nat.le_of_not_lt fits) (Utf8.decodeChar_drop pending) valid later

/-! ## The reference -/

def parseBlocks (fromStr : String → Except String Value) : List Bytes → List Value × Option Error
  | [] => ([], none)
  | block :: later =>
    match parseEventBlock fromStr block with
    | .error e => ([], some e)
    | .ok values =>
      let rest := parseBlocks fromStr later
      (values ++ rest.1, rest.2)

/-- A text split at its successive earliest event boundaries. -/
def reference (fromStr : String → Except String Value) (text : Bytes) : List Value × Option Error :=
  parseBlocks fromStr ((blocks boundary text).map Block.content ++ [tail boundary text])

/-- The values that a stream delivers, and the error that ends it. -/
def outcome (stream : EventStream Unit) : List Value × Option Error := (stream.yielded.flatten, stream.error)

theorem outcome_finish (last : Bytes) : outcome (finish fromStr ⟨last, []⟩) = parseBlocks fromStr [last] := by
  by_cases empty : last = []
  · subst empty
    have nothing : parseEventBlock fromStr [] = .ok [] := by
      rw [parseEventBlock, Utf8.decode_none (by rfl)]
      rfl
    simp [finish, parseBlocks, nothing, outcome]
  · simp only [finish, ne_eq, not_true_eq_false, if_false, empty, not_false_eq_true, if_true, parseBlocks]
    cases parseEventBlock fromStr last with
    | error e => rfl
    | ok values => simp [outcome, Generator.ofExcept, Generator.yield, Generator.bind_of_ok, Generator.error]

theorem outcome_deliver {list : List (Block UInt8)} {last : Bytes}
    (small : ∀ block ∈ list, block.content.length ≤ maxSseEventBytes) :
    outcome (do deliver fromStr list; finish fromStr ⟨last, []⟩) =
      parseBlocks fromStr (list.map Block.content ++ [last]) := by
  induction list with
  | nil => exact outcome_finish last
  | cons block later ih =>
    rw [List.forall_mem_cons] at small
    rw [deliver, if_neg (Nat.not_lt.mpr small.1), List.map_cons, List.cons_append, parseBlocks, ← ih small.2]
    cases parseEventBlock fromStr block.content with
    | error e => rfl
    | ok values =>
      simp only [Generator.ofExcept, bind_assoc]
      rfl

/-- A stream of text whose events fit the buffer is delivered as its blocks are parsed, however the
network cuts it. -/
theorem parseEventStream_reference (text : List Char) (chunks : List Bytes)
    (cut : chunks.flatten = Utf8.encode text)
    (fits : ∀ block ∈ blocks boundary (Utf8.encode text), block.whole.length ≤ maxSseEventBytes)
    (fits' : (tail boundary (Utf8.encode text)).length ≤ maxSseEventBytes) :
    outcome (parseEventStream fromStr (chunks.map .ok)) = reference fromStr (Utf8.encode text) := by
  have whole := @readChunks_whole fromStr chunks ⟨[], []⟩ (by decide) (by decide) (by rfl)
  rw [List.nil_append, List.nil_append, cut, Utf8.rest_encode, Utf8.text_encode] at whole
  rw [parseEventStream, whole rfl, deliverAll, if_neg (Nat.not_lt.mpr fits'), reference, outcome_deliver]
  · intro block member
    have := fits block member
    rw [Block.whole, List.length_append] at this
    omega
  · intro earlier block later split _ _
    have := fits block (split ▸ List.mem_append_right earlier (List.mem_cons_self ..))
    omega

/-- Cut inside a character and inside both separators. -/
theorem parseEventStream_reference_sample :
    outcome (parseEventStream (fun _ => .ok .null)
      (["data: \"".toUTF8.data.toList ++ [0xC3], [0xA9, 34, 10], [], [10, 100], "ata: null\r\n\r".toUTF8.data.toList,
        [10], "data: null".toUTF8.data.toList].map .ok)) =
      reference (fun _ => .ok .null) (Utf8.encode "data: \"é\"\n\ndata: null\r\n\r\ndata: null".toList) :=
  parseEventStream_reference _ _ (by decide +kernel) (by decide +kernel) (by decide +kernel)

end

end Tinfoil.Sse
