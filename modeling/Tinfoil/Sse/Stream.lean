import Tinfoil.Basic
import Tinfoil.Text
import Tinfoil.Utf8
import Tinfoil.Sse.Boundary
import Tinfoil.Generator
import Tinfoil.Json.Value

/-! # Server-sent events

`parse_event_stream` reads a response in the chunks the network delivers: a chunk may end inside a
character and inside a separator.
-/

namespace Tinfoil.Sse

open Json (Value)

def maxSseEventBytes : Nat := 1024 * 1024

def maxPendingUtf8Bytes : Nat := 3

def oversizedError : Error :=
  .network ("SSE event exceeded " ++ toString maxSseEventBytes ++ " bytes")

def invalidUtf8Error : Error := .network "SSE stream contained invalid UTF-8"

def incompleteUtf8Error : Error := .network "SSE stream ended with incomplete UTF-8"

section

-- `serde_json::from_str`, with the text of its error
variable (fromStr : String → Except String Value)

/-! ## One event -/

/-- The value on one line of an event, where it carries one. -/
def parseLine (line : List Char) : Except Error (Option Value) :=
  match Text.stripFront "data:".toList (Text.trimStart line) with
  | none => .ok none
  | some rest =>
    let payload := String.ofList (Text.trim rest)
    if payload = "" ∨ payload = "[DONE]" then .ok none
    else match fromStr payload with
      | .ok value => .ok (some value)
      | .error e =>
        .error (.network ("failed to decode SSE payload as JSON: " ++ e ++ " (payload: " ++ payload ++ ")"))

def parseLines : List (List Char) → Except Error (List Value)
  | [] => .ok []
  | line :: lines => do
    let value ← parseLine fromStr line
    let out ← parseLines lines
    return value.toList ++ out

def parseEventBlock (event : Bytes) : Except Error (List Value) :=
  parseLines fromStr (Text.lines (Utf8.decode event))

/-! ## The stream -/

/-- What has been read and not been handled: whole characters, and the start of one more. -/
structure State where
  buffer : Bytes
  pending : Bytes

/-- A chunk is read as far as it is text; the result tells where it is not. -/
def State.extend (state : State) (chunk : Bytes) : State × Option Nat :=
  let pending := state.pending ++ chunk
  match Utf8.fromUtf8 pending with
  | .ok valid => (⟨state.buffer ++ valid, []⟩, none)
  | .error e => (⟨state.buffer ++ pending.take e.validUpTo, pending.drop e.validUpTo⟩, e.errorLen)

/-- A stream of events: each item holds the values that one event carries. -/
abbrev EventStream (α : Type) := Generator (List Value) Error α

def drainEvents (buffer : Bytes) : EventStream Bytes :=
  match _found : findEventBoundary buffer with
  | none => pure buffer
  | some (idx, separatorLen) =>
    if maxSseEventBytes < idx then .fail oversizedError
    else do
      let values ← .ofExcept (parseEventBlock fromStr (buffer.take idx))
      .yield values
      drainEvents (buffer.drop (idx + separatorLen))
termination_by buffer.length
decreasing_by
  have := findEventBoundary_inside _found
  rw [List.length_drop]
  omega

def readChunk (state : State) (chunk : Bytes) : EventStream State :=
  let (state, errorLen) := state.extend chunk
  if errorLen.isSome ∨ maxPendingUtf8Bytes < state.pending.length then .fail invalidUtf8Error
  else do
    let buffer ← drainEvents fromStr state.buffer
    if maxSseEventBytes < buffer.length then .fail oversizedError
    else pure { state with buffer := buffer }

/-- The end of the response: servers do not always end the last event. -/
def finish (state : State) : EventStream Unit :=
  if state.pending ≠ [] then .fail incompleteUtf8Error
  else if state.buffer ≠ [] then do
    let values ← .ofExcept (parseEventBlock fromStr state.buffer)
    .yield values
  else pure ()

def readChunks : State → List (Except String Bytes) → EventStream Unit
  | state, [] => finish fromStr state
  | _, .error e :: _ => .fail (.network e)
  | state, .ok chunk :: chunks => do
    let state ← readChunk fromStr state chunk
    readChunks state chunks

/-- The chunks of a response, or the error text of its transport. -/
def parseEventStream (chunks : List (Except String Bytes)) : EventStream Unit :=
  readChunks fromStr ⟨[], []⟩ chunks

end

end Tinfoil.Sse
