import Tinfoil.Sse.Chunking

/-! # Streams that fail

Whether a failing stream fails in the same way for every way of cutting it into chunks.  Two things
stand in the way: the buffer is measured together with the part of a separator that has arrived,
and an invalid byte ends the stream before the events read along with it are handed over.
-/

namespace Tinfoil.Sse

open Framing (Block blocks tail)
open Json (Value)

section

variable {fromStr : String → Except String Value}

/-! ## Where an event list stops -/

theorem parseLine_error {line : List Char} {e : Error} (failed : parseLine fromStr line = .error e) :
    ∃ detail, e = .network ("failed to decode SSE payload as JSON: " ++ detail) := by
  unfold parseLine at failed
  split at failed
  · cases failed
  · simp only at failed
    split at failed
    · cases failed
    · split at failed
      · cases failed
      · rename_i e' _
        cases failed
        exact ⟨_, by rw [String.append_assoc, String.append_assoc, String.append_assoc]⟩

theorem parseLines_error {lines : List (List Char)} {e : Error} (failed : parseLines fromStr lines = .error e) :
    ∃ detail, e = .network ("failed to decode SSE payload as JSON: " ++ detail) := by
  induction lines with
  | nil => cases failed
  | cons line later ih =>
    rw [parseLines] at failed
    cases first : parseLine fromStr line with
    | error e' =>
      rw [first] at failed
      cases failed
      exact parseLine_error first
    | ok value =>
      rw [first] at failed
      cases rest : parseLines fromStr later with
      | error e' =>
        rw [rest] at failed
        cases failed
        exact ih rest
      | ok values =>
        rw [rest] at failed
        cases failed

theorem parseEventBlock_error {event : Bytes} {e : Error} (failed : parseEventBlock fromStr event = .error e) :
    e ≠ oversizedError ∧ e ≠ invalidUtf8Error := by
  obtain ⟨detail, rfl⟩ := parseLines_error failed
  constructor
  · intro same
    simp only [oversizedError, Error.network.injEq] at same
    have first := congrArg (fun text => text.toList.head?) same
    simp at first
  · intro same
    simp only [invalidUtf8Error, Error.network.injEq] at same
    have first := congrArg (fun text => text.toList.head?) same
    simp at first

/-- Every event is handed over, or some event is the first that is not. -/
theorem deliver_stops (list : List (Block UInt8)) :
    ((deliver fromStr list).result = .ok () ∧ (deliver fromStr list).yielded.length = list.length) ∨
      ∃ earlier block later e, list = earlier ++ block :: later ∧ (∀ passed ∈ earlier, Passes fromStr passed) ∧
        (deliver fromStr list).result = .error e ∧ (deliver fromStr list).yielded.length = earlier.length ∧
        (maxSseEventBytes < block.content.length ∧ e = oversizedError ∨
          block.content.length ≤ maxSseEventBytes ∧ parseEventBlock fromStr block.content = .error e) := by
  induction list with
  | nil => exact .inl ⟨rfl, rfl⟩
  | cons block list ih =>
    rw [deliver]
    by_cases oversized : maxSseEventBytes < block.content.length
    · rw [if_pos oversized]
      exact .inr ⟨[], block, list, _, rfl, by simp, rfl, rfl, .inl ⟨oversized, rfl⟩⟩
    · rw [if_neg oversized]
      have small := Nat.le_of_not_lt oversized
      cases parsed : parseEventBlock fromStr block.content with
      | error e => exact .inr ⟨[], block, list, e, rfl, by simp, rfl, rfl, .inr ⟨small, parsed⟩⟩
      | ok values =>
        have next : (do
            let values ← Generator.ofExcept (.ok values)
            Generator.yield values
            deliver fromStr list : EventStream Unit) =
            ⟨values :: (deliver fromStr list).yielded, (deliver fromStr list).result⟩ := rfl
        rw [next]
        obtain ⟨ends, length⟩ | ⟨earlier, stop, later, e, rfl, passes, ends, length, why⟩ := ih
        · exact .inl ⟨ends, by rw [List.length_cons, List.length_cons, length]⟩
        · refine .inr ⟨block :: earlier, stop, later, e, rfl, ?_, ends, ?_, why⟩
          · exact List.forall_mem_cons.mpr ⟨⟨small, values, parsed⟩, passes⟩
          · rw [List.length_cons, List.length_cons, length]

/-! ## The law -/

/-- The event that follows the first `count` complete ones: complete itself, or the open tail. -/
def eventAfter (text : Bytes) (count : Nat) : Bytes :=
  (((blocks boundary text)[count]?).map Block.content).getD (tail boundary text)

structure Uniform (fromStr : String → Except String Value) (bytes : Bytes) : Prop where
  /-- The same values are delivered, and an error ends all streams or none. -/
  same : ∀ chunks chunks' : List Bytes, chunks.flatten = bytes → chunks'.flatten = bytes →
    (parseEventStream fromStr (chunks.map .ok)).yielded.flatten =
        (parseEventStream fromStr (chunks'.map .ok)).yielded.flatten ∧
      (parseEventStream fromStr (chunks.map .ok)).error.isSome =
        (parseEventStream fromStr (chunks'.map .ok)).error.isSome
  /-- Only an event past the limit is rejected for its size. -/
  small : ∀ chunks : List Bytes, chunks.flatten = bytes →
    (parseEventStream fromStr (chunks.map .ok)).error = some oversizedError →
    maxSseEventBytes <
      (eventAfter (Utf8.text bytes) (parseEventStream fromStr (chunks.map .ok)).yielded.length).length
  /-- An event past the limit is rejected for its size. -/
  large : ∀ chunks : List Bytes, chunks.flatten = bytes →
    ∀ block, (blocks boundary (Utf8.text bytes))[(parseEventStream fromStr (chunks.map .ok)).yielded.length]? =
      some block → maxSseEventBytes < block.content.length →
    (parseEventStream fromStr (chunks.map .ok)).error = some oversizedError
  /-- So is one that the end of the response leaves open. -/
  largeTail : ∀ chunks : List Bytes, chunks.flatten = bytes → Utf8.errorLen (Utf8.rest bytes) = none →
    (parseEventStream fromStr (chunks.map .ok)).yielded.length = (blocks boundary (Utf8.text bytes)).length →
    maxSseEventBytes < (tail boundary (Utf8.text bytes)).length →
    (parseEventStream fromStr (chunks.map .ok)).error = some oversizedError
  /-- The events before an invalid byte are handed over before the error. -/
  complete : ∀ chunks : List Bytes, chunks.flatten = bytes →
    (parseEventStream fromStr (chunks.map .ok)).error = some invalidUtf8Error →
    (parseEventStream fromStr (chunks.map .ok)).yielded.length = (blocks boundary (Utf8.text bytes)).length

/-! ## Streams without an invalid byte -/

theorem finish_error {last rest : Bytes} {e : Error} (ends : (finish fromStr ⟨last, rest⟩).error = some e) :
    e ≠ oversizedError ∧ e ≠ invalidUtf8Error := by
  unfold finish at ends
  split at ends
  · cases ends
    decide +kernel
  · split at ends
    · cases parsed : parseEventBlock fromStr last with
      | error e' =>
        simp only [parsed] at ends
        cases ends
        exact parseEventBlock_error parsed
      | ok values =>
        simp only [parsed] at ends
        cases ends
    · cases ends

theorem deliverAll_cases (text rest : Bytes) :
    ((deliverAll fromStr text rest).error = some oversizedError ∧
        maxSseEventBytes < (eventAfter text (deliverAll fromStr text rest).yielded.length).length ∧
        (deliverAll fromStr text rest).yielded.length ≤ (blocks boundary text).length) ∨
      ((deliverAll fromStr text rest).error ≠ some oversizedError ∧
        (deliverAll fromStr text rest).error ≠ some invalidUtf8Error ∧
        ((deliverAll fromStr text rest).yielded.length < (blocks boundary text).length →
          (eventAfter text (deliverAll fromStr text rest).yielded.length).length ≤ maxSseEventBytes) ∧
        ((blocks boundary text).length ≤ (deliverAll fromStr text rest).yielded.length →
          (tail boundary text).length ≤ maxSseEventBytes)) := by
  obtain ⟨ends, length⟩ | ⟨earlier, block, later, e, split, -, ends, length, why⟩ :=
    @deliver_stops fromStr (blocks boundary text)
  · have whole : deliverAll fromStr text rest =
        ⟨(deliver fromStr (blocks boundary text)).yielded ++ _, _⟩ := Generator.bind_of_ok ends _
    by_cases large : maxSseEventBytes < (tail boundary text).length
    · left
      rw [whole, if_pos large, Generator.yielded_fail, List.append_nil, length, eventAfter,
        List.getElem?_eq_none (Nat.le_refl _)]
      exact ⟨rfl, large, Nat.le_refl _⟩
    · right
      rw [whole, if_neg large, List.length_append, length]
      refine ⟨?_, ?_, fun short => absurd short (by omega), fun _ => Nat.le_of_not_lt large⟩
      · exact fun failed => (finish_error failed).1 rfl
      · exact fun failed => (finish_error failed).2 rfl
  · have whole : deliverAll fromStr text rest = ⟨(deliver fromStr (blocks boundary text)).yielded, .error e⟩ :=
      Generator.bind_of_error ends _
    -- The block at which delivery ends is the one after those that were handed over.
    have stop : eventAfter text earlier.length = block.content := by
      rw [eventAfter, split, List.getElem?_append_right (Nat.le_refl _), Nat.sub_self]
      rfl
    have inside : earlier.length < (blocks boundary text).length := by
      rw [split, List.length_append, List.length_cons]
      omega
    rw [whole, length, stop]
    obtain ⟨large, rfl⟩ | ⟨small, failed⟩ := why
    · exact .inl ⟨rfl, large, Nat.le_of_lt inside⟩
    · have other := parseEventBlock_error failed
      refine .inr ⟨?_, ?_, fun _ => small, fun past => absurd past (Nat.not_le.mpr inside)⟩
      · exact fun same => other.1 (Option.some.inj same)
      · exact fun same => other.2 (Option.some.inj same)

theorem eventAfter_of_getElem {text : Bytes} {count : Nat} {block : Block UInt8}
    (here : (blocks boundary text)[count]? = some block) : eventAfter text count = block.content := by
  rw [eventAfter, here]
  rfl

theorem uniform_of_valid {bytes : Bytes} (valid : Utf8.errorLen (Utf8.rest bytes) = none)
    (fit : SeparatorsFit fromStr (blocks boundary (Utf8.text bytes))) : Uniform fromStr bytes := by
  -- However the bytes are cut, the run is that of the whole text.
  have run (chunks : List Bytes) (cut : chunks.flatten = bytes) :
      parseEventStream fromStr (chunks.map .ok) = deliverAll fromStr (Utf8.text bytes) (Utf8.rest bytes) := by
    subst cut
    exact readChunks_whole chunks ⟨[], []⟩ (by decide) (by decide) (by rfl) valid fit
  have cases := @deliverAll_cases fromStr (Utf8.text bytes) (Utf8.rest bytes)
  constructor
  · intro chunks chunks' cut cut'
    rw [run chunks cut, run chunks' cut']
    exact ⟨rfl, rfl⟩
  · intro chunks cut oversized
    rw [run chunks cut] at oversized ⊢
    obtain ⟨-, large, -⟩ | ⟨other, -⟩ := cases
    · exact large
    · exact absurd oversized other
  · intro chunks cut block here large
    rw [run chunks cut] at here ⊢
    obtain ⟨oversized, -⟩ | ⟨-, -, small, -⟩ := cases
    · exact oversized
    · have fits := small (List.getElem?_eq_some_iff.mp here).1
      rw [eventAfter_of_getElem here] at fits
      omega
  · intro chunks cut _ count large
    rw [run chunks cut] at count ⊢
    obtain ⟨oversized, -⟩ | ⟨-, -, -, small⟩ := cases
    · exact oversized
    · have fits := small (Nat.le_of_eq count.symm)
      omega
  · intro chunks cut invalid
    rw [run chunks cut] at invalid
    obtain ⟨oversized, -⟩ | ⟨-, other, -⟩ := cases
    · rw [oversized] at invalid
      exact absurd (Option.some.inj invalid) (by decide +kernel)
    · exact absurd invalid other

/-! ## Streams with an invalid byte -/

/-- Where no event is complete before the invalid byte, nothing is delivered. -/
theorem readChunks_invalid (chunks : List Bytes) (state : State) {len : Nat}
    (inside : Utf8.errorLen state.pending = none) (stuck : Utf8.decodeChar state.pending = none)
    (invalid : Utf8.errorLen (Utf8.rest (state.pending ++ chunks.flatten)) = some len)
    (none : blocks boundary (state.buffer ++ Utf8.text (state.pending ++ chunks.flatten)) = []) :
    (readChunks fromStr state (chunks.map .ok)).yielded = [] ∧
      ((readChunks fromStr state (chunks.map .ok)).error = some invalidUtf8Error ∨
        (readChunks fromStr state (chunks.map .ok)).error = some oversizedError ∧
          maxSseEventBytes < (state.buffer ++ Utf8.text (state.pending ++ chunks.flatten)).length) := by
  induction chunks generalizing state with
  | nil =>
    rw [List.flatten_nil, List.append_nil, Utf8.rest_of_stuck stuck, inside] at invalid
    cases invalid
  | cons chunk chunks ih =>
    rw [List.flatten_cons, ← List.append_assoc] at invalid none ⊢
    rw [List.map_cons, readChunks, readChunk_eq]
    generalize state.pending ++ chunk = pending at invalid none ⊢
    cases stops : Utf8.errorLen (Utf8.rest pending) with
    | some len' =>
      simp only [stops, Option.isSome_some, if_true, Generator.fail_bind]
      exact ⟨rfl, .inl rfl⟩
    | none =>
      rw [Utf8.rest_append] at invalid
      rw [Utf8.text_append, ← List.append_assoc] at none ⊢
      generalize state.buffer ++ Utf8.text pending = buffer at none ⊢
      -- Neither this chunk nor what comes after it completes an event.
      have noBlock := none
      rw [Framing.blocks_append, List.append_eq_nil_iff] at noBlock
      simp only [noBlock.1, Framing.tail_of_nil noBlock.1, stops, Option.isSome_none, Bool.false_eq_true, if_false,
        deliver, pure_bind]
      by_cases large : maxSseEventBytes < buffer.length
      · rw [if_pos large, Generator.fail_bind, List.length_append]
        exact ⟨rfl, .inr ⟨rfl, by omega⟩⟩
      · rw [if_neg large, pure_bind]
        exact ih ⟨buffer, Utf8.rest pending⟩ stops (Utf8.decodeChar_drop pending) invalid none

theorem uniform_of_invalid {bytes : Bytes} {len : Nat} (invalid : Utf8.errorLen (Utf8.rest bytes) = some len)
    (none : blocks boundary (Utf8.text bytes) = []) : Uniform fromStr bytes := by
  have run (chunks : List Bytes) (cut : chunks.flatten = bytes) :
      (parseEventStream fromStr (chunks.map .ok)).yielded = [] ∧
        ((parseEventStream fromStr (chunks.map .ok)).error = some invalidUtf8Error ∨
          (parseEventStream fromStr (chunks.map .ok)).error = some oversizedError ∧
            maxSseEventBytes < (Utf8.text bytes).length) := by
    subst cut
    exact readChunks_invalid chunks ⟨[], []⟩ (by rfl) (by decide) invalid none
  -- All ways of cutting end in an error.
  have fails (chunks : List Bytes) (cut : chunks.flatten = bytes) :
      (parseEventStream fromStr (chunks.map .ok)).error.isSome = true := by
    obtain ⟨-, error | ⟨error, -⟩⟩ := run chunks cut
    all_goals rw [error]; rfl
  constructor
  · intro chunks chunks' cut cut'
    rw [(run chunks cut).1, (run chunks' cut').1, fails chunks cut, fails chunks' cut']
    exact ⟨rfl, rfl⟩
  · intro chunks cut oversized
    obtain ⟨empty, error | ⟨-, large⟩⟩ := run chunks cut
    · rw [error] at oversized
      exact absurd (Option.some.inj oversized) (by decide +kernel)
    · rwa [empty, eventAfter, none, Framing.tail_of_nil none]
  · intro chunks cut block here
    rw [none] at here
    cases here
  · intro chunks cut valid
    rw [invalid] at valid
    cases valid
  · intro chunks cut _
    rw [(run chunks cut).1, none]
    rfl

/-! ## The condition -/

theorem deliver_passes {list : List (Block UInt8)} (passes : ∀ block ∈ list, Passes fromStr block) :
    (deliver fromStr list).yielded.length = list.length := by
  obtain ⟨-, length⟩ | ⟨earlier, block, later, e, -, -, ends, -⟩ := @deliver_stops fromStr list
  · exact length
  · rw [deliver_ok.mpr passes] at ends
    cases ends

theorem separator_eq {text : Bytes} {block : Block UInt8} {later : List (Block UInt8)}
    (first : blocks boundary text = block :: later) :
    block.separator = lfSeparator ∨ block.separator = crlfSeparator := by
  obtain ⟨more, split, -, -, found⟩ := Framing.find_of_blocks first
  have read {pattern : Bytes} (at_ : find pattern text = some block.content.length)
      (length : block.separator.length = pattern.length) : block.separator = pattern := by
    obtain ⟨front, back, split', same⟩ := find_split at_
    rw [split, Block.whole, List.append_assoc] at split'
    exact (List.append_inj (List.append_inj split' same.symm).2 length).1
  obtain ⟨len, at_, -⟩ | ⟨len, at_, -⟩ := findEventBoundary_cases found
  · exact .inl (read at_ len)
  · exact .inr (read at_ len)

theorem Uniform.separatorsFit {bytes : Bytes} (uniform : Uniform fromStr bytes) :
    SeparatorsFit fromStr (blocks boundary (Utf8.text bytes)) := by
  intro earlier block later split passes small
  by_contra large
  obtain ⟨front, whole, first⟩ := Framing.split_blocks split
  obtain ⟨more, rfl, -, -, -⟩ := Framing.find_of_blocks first
  have lineFeed : block.separator = block.separator.dropLast ++ [10] := by
    obtain same | same := separator_eq first
    all_goals rw [same]; rfl
  have chunks : Utf8.text bytes =
      (earlier.flatMap Block.whole ++ (block.content ++ block.separator.dropLast)) ++ 10 :: more := by
    rw [whole, Block.whole, lineFeed]
    simp
  have length : maxSseEventBytes < (block.content ++ block.separator.dropLast).length := by
    rw [Block.whole, List.length_append] at large
    rw [List.length_append, List.length_dropLast]
    omega
  have noEnd := Framing.find_cut first
  have blocks := Framing.blocks_front split noEnd
  -- the first chunk ends before the last byte of the separator
  generalize earlier.flatMap Block.whole ++ (block.content ++ block.separator.dropLast) = chunk at chunks blocks
  have valid : Utf8.rest chunk = [] := by
    have text : Utf8.encode (Utf8.decode bytes) = chunk ++ 10 :: more := by
      rw [← chunks, Utf8.text, Utf8.take_validUpTo]
    exact Utf8.rest_ascii text (by decide)
  have cut : [chunk, 10 :: more ++ Utf8.rest bytes].flatten = bytes := by
    have split := Utf8.text_append_rest bytes
    rw [chunks] at split
    simpa using split
  have stops : parseEventStream fromStr ([chunk, 10 :: more ++ Utf8.rest bytes].map .ok) =
      ⟨(deliver fromStr earlier).yielded, .error oversizedError⟩ := by
    have taken := Utf8.text_append_rest chunk
    rw [valid, List.append_nil] at taken
    rw [parseEventStream, List.map_cons, readChunks, readChunk_eq]
    simp only [List.nil_append, valid, taken, blocks, Utf8.errorLen, Option.isSome_none, Bool.false_eq_true, if_false,
      length, if_true, bind_assoc, Generator.fail_bind]
    rw [Generator.bind_of_ok (deliver_ok.mpr passes), Generator.yielded_fail, List.append_nil]
    rfl
  have rejected := uniform.small _ cut (by rw [stops]; rfl)
  rw [stops, deliver_passes passes, eventAfter, split, List.getElem?_append_right (Nat.le_refl _),
    Nat.sub_self] at rejected
  exact absurd rejected (Nat.not_lt.mpr small)

/-- Exactly when all ways of cutting a stream end alike. -/
theorem uniform_iff (bytes : Bytes) :
    Uniform fromStr bytes ↔
      SeparatorsFit fromStr (blocks boundary (Utf8.text bytes)) ∧
        ((Utf8.errorLen (Utf8.rest bytes)).isSome → blocks boundary (Utf8.text bytes) = []) := by
  constructor
  · intro uniform
    refine ⟨uniform.separatorsFit, fun invalid => ?_⟩
    have once : parseEventStream fromStr ([bytes].map .ok) = .fail invalidUtf8Error := by
      rw [parseEventStream, List.map_cons, readChunks, readChunk_eq]
      simp only [List.nil_append, invalid, if_true]
      rfl
    have count := uniform.complete [bytes] (by simp) (by rw [once]; rfl)
    rw [once] at count
    exact List.eq_nil_of_length_eq_zero count.symm
  · rintro ⟨fit, none⟩
    cases ends : Utf8.errorLen (Utf8.rest bytes) with
    | none => exact uniform_of_valid ends fit
    | some len => exact uniform_of_invalid ends (none (by rw [ends]; rfl))

/-- An event and an invalid byte: read at once, the event is lost. -/
theorem not_uniform_sample :
    ¬ Uniform (fun payload => if payload = "null" then .ok .null else .error "expected value at line 1 column 1")
      ("data: null\n\n".toUTF8.data.toList ++ [0xFF]) := by
  intro uniform
  have values := (uniform.same ["data: null\n\n".toUTF8.data.toList ++ [0xFF]]
    ["data: null\n\n".toUTF8.data.toList, [0xFF]] (by decide) (by decide)).1
  have count := congrArg List.length values
  revert count
  decide +kernel

end

end Tinfoil.Sse
