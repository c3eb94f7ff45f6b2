import AiGateway.Errors
import AiGateway.OpenAI.Chunks

/-!
# The reader of server-sent events

`parseSSEStream` decodes the bytes of a body as they arrive, cuts the text into
lines and closes an event at every blank line. What is left when the body ends
counts as a last line and a last event; a body that breaks off in an error gives
only the events that were closed before.
-/

namespace AiGateway
namespace OpenAI

open Foundations (Transducer Yields)

/-- A `TextDecoder` that is given its input in pieces. -/
structure TextDecoder where
  State : Type
  start : State
  /-- `decode(bytes, { stream: true })`. -/
  decode : State → List UInt8 → State × String
  /-- `decode()`, which flushes the decoder. -/
  flush : State → String

namespace TextDecoder

variable (decoder : TextDecoder)

/-- The text of some pieces, from a state of the decoder. -/
def decodeFrom (state : decoder.State) : List (List UInt8) → String
  | [] => decoder.flush state
  | bytes :: pieces =>
      let (state, text) := decoder.decode state bytes
      text ++ decodeFrom state pieces

/-- The text of a whole body. -/
def decodeAll (pieces : List (List UInt8)) : String :=
  decoder.decodeFrom decoder.start pieces

end TextDecoder

section Lines

/-- The complete lines of a buffer, and what follows the last of them. -/
def completeLines : List Char → List (List Char) × List Char
  | [] => ([], [])
  | char :: rest =>
      let (lines, remainder) := completeLines rest
      if char = '\n' then
        ([] :: lines, remainder)
      else
        match lines with
        | [] => ([], char :: remainder)
        | line :: lines => ((char :: line) :: lines, remainder)

/-- `stripTrailingCR(line)`. -/
def stripTrailingCR (line : List Char) : List Char :=
  if line.getLast? = some '\r' then line.dropLast else line

/-- `parseField(line)`: the name and the value of a field. -/
def parseField (line : List Char) : List Char × List Char :=
  match line.dropWhile (· ≠ ':') with
  | [] => (line, [])
  | _ :: value =>
      (line.takeWhile (· ≠ ':'),
        if value.head? = some ' ' then value.drop 1 else value)

/-- The event that is not closed yet. -/
structure PendingEvent where
  dataLines : List String := []
  eventName : Option String := none
  deriving DecidableEq, Repr

/-- `flush()`: the pending event, if any of its fields was sent. -/
def PendingEvent.flush (pending : PendingEvent) : List SSEEvent :=
  if pending.dataLines = [] ∧ pending.eventName = none then
    []
  else
    [{ event := pending.eventName
       data := "\n".intercalate pending.dataLines }]

/-- `processLine(rawLine)`. -/
def processLine (pending : PendingEvent) (rawLine : List Char) :
    PendingEvent × List SSEEvent :=
  let line := stripTrailingCR rawLine
  if line = [] then
    ({}, pending.flush)
  else if line.head? = some ':' then
    (pending, [])
  else
    let (field, value) := parseField line
    if field = "data".toList then
      ({ pending with
          dataLines := pending.dataLines ++ [String.ofList value] }, [])
    else if field = "event".toList then
      ({ pending with eventName := some (String.ofList value) }, [])
    else
      (pending, [])

/-- Lines, one after the other. -/
def processLines (pending : PendingEvent) :
    List (List Char) → PendingEvent × List SSEEvent
  | [] => (pending, [])
  | line :: lines =>
      let (pending, events) := processLine pending line
      let (pending, later) := processLines pending lines
      (pending, events ++ later)

end Lines

section Reader

variable (decoder : TextDecoder)

/-- The variables of `parseSSEStream`. -/
structure ReaderState where
  decoding : decoder.State
  buffer : List Char := []
  pending : PendingEvent := {}

/-- The loop of `parseSSEStream` over the reads, and what follows it. -/
def eventReader :
    Transducer (ReaderState decoder) (List UInt8) SSEEvent Thrown where
  step state bytes :=
    let (decoding, text) := decoder.decode state.decoding bytes
    let (lines, buffer) := completeLines (state.buffer ++ text.toList)
    let (pending, events) := processLines state.pending lines
    ({ decoding := decoding, buffer := buffer, pending := pending }, events,
      .proceed)
  finish state :=
    let buffer := state.buffer ++ (decoder.flush state.decoding).toList
    if buffer = [] then
      state.pending.flush
    else
      let (pending, events) := processLine state.pending buffer
      events ++ pending.flush

/-- `parseSSEStream(body)`. -/
def parseSSEStream (body : Yields (List UInt8) Thrown) :
    Yields SSEEvent Thrown :=
  (eventReader decoder).transduce { decoding := decoder.start } body

/-- The reader passes on an error of the body. -/
theorem ending_parseSSEStream (body : Yields (List UInt8) Thrown) :
    (parseSSEStream decoder body).ending = body.ending :=
  (eventReader decoder).ending_transduce_of_proceeds (fun _ _ => rfl) _ body

end Reader

end OpenAI
end AiGateway
