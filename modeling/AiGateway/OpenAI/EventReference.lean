import AiGateway.Foundations.Utf8
import AiGateway.OpenAI.EventStream

/-!
# The events of a text

What `parseSSEStream` should yield, read off the whole text at once: its lines
fall into records at the empty ones, and a record with a field that counts is an
event. The reader yields exactly these events, however the bytes of the text are
cut into reads.
-/

namespace AiGateway
namespace OpenAI

open Foundations (Ending Transducer Utf8.decode Utf8.encode Utf8.finish Yields)

section Reference

/-- The lines of a text; what follows the last line feed counts if there is
anything. -/
def textLines (text : List Char) : List (List Char) :=
  let segments := text.splitOnP (· = '\n')
  if segments.getLast? = some [] then segments.dropLast else segments

/-- The values of a field in a record without its comments, in order. -/
def fieldValues (name : String) (record : List (List Char)) : List String :=
  record.filterMap fun line =>
    let (field, value) := parseField line
    if line.head? ≠ some ':' ∧ field = name.toList then
      some (String.ofList value)
    else
      none

/-- The event of a record, if it has a field that counts. -/
def recordEvent (record : List (List Char)) : Option SSEEvent :=
  if fieldValues "data" record = [] ∧ fieldValues "event" record = [] then
    none
  else
    some
      { event := (fieldValues "event" record).getLast?
        data := "\n".intercalate (fieldValues "data" record) }

/-- The events of a text: its lines without their carriage returns, cut at the
empty ones. -/
def textEvents (text : List Char) : List SSEEvent :=
  (((textLines text).map stripTrailingCR).splitOnP List.isEmpty).filterMap
    recordEvent

end Reference

section Lines

/-- What follows the complete lines is the last segment of a text. -/
theorem splitOnP_lineFeed (text : List Char) :
    text.splitOnP (· = '\n') =
      (completeLines text).1 ++ [(completeLines text).2] := by
  induction text with
  | nil => rfl
  | cons char rest inductionHypothesis =>
      rw [List.splitOnP_cons_eq_if_modifyHead, inductionHypothesis,
        completeLines]
      rcases completeLines rest with ⟨_ | ⟨line, lines⟩, remainder⟩ <;>
        by_cases isLineFeed : char = '\n' <;> simp [isLineFeed]

theorem textLines_eq (text : List Char) :
    textLines text =
      (completeLines text).1 ++
        if (completeLines text).2 = [] then [] else [(completeLines text).2] := by
  unfold textLines
  rw [splitOnP_lineFeed]
  by_cases isEmpty : (completeLines text).2 = [] <;> simp [isEmpty]

/-- A text that arrives in two parts. -/
theorem completeLines_append (first second : List Char) :
    completeLines (first ++ second) =
      ((completeLines first).1 ++
          (completeLines ((completeLines first).2 ++ second)).1,
        (completeLines ((completeLines first).2 ++ second)).2) := by
  induction first with
  | nil => rfl
  | cons char rest inductionHypothesis =>
      rw [List.cons_append, completeLines, completeLines, inductionHypothesis]
      rcases completeLines rest with ⟨_ | ⟨line, lines⟩, remainder⟩
      · by_cases isLineFeed : char = '\n' <;> simp [completeLines, isLineFeed]
      · by_cases isLineFeed : char = '\n' <;> simp [isLineFeed]

/-- A text without a line feed is no complete line. -/
theorem completeLines_of_notMem
    {text : List Char}
    (noLineFeed : '\n' ∉ text) : completeLines text = ([], text) := by
  induction text with
  | nil => rfl
  | cons char rest inductionHypothesis =>
      rw [List.mem_cons, not_or] at noLineFeed
      rw [completeLines, inductionHypothesis noLineFeed.2]
      simp [Ne.symm noLineFeed.1]

/-- What follows the complete lines has no line feed. -/
theorem lineFeed_notMem_remainder (text : List Char) :
    '\n' ∉ (completeLines text).2 := by
  induction text with
  | nil => exact List.not_mem_nil
  | cons char rest inductionHypothesis =>
      rw [completeLines]
      revert inductionHypothesis
      rcases completeLines rest with ⟨_ | ⟨line, lines⟩, remainder⟩ <;>
        by_cases isLineFeed : char = '\n' <;>
        simp [isLineFeed, @eq_comm _ '\n']

/-- A text that goes on without a line feed. -/
theorem completeLines_append_of_notMem
    {text : List Char}
    (noLineFeed : '\n' ∉ text)
    (before : List Char) :
    completeLines (before ++ text) =
      ((completeLines before).1, (completeLines before).2 ++ text) := by
  have open' : '\n' ∉ (completeLines before).2 ++ text := by
    rw [List.mem_append, not_or]
    exact ⟨lineFeed_notMem_remainder before, noLineFeed⟩
  rw [completeLines_append, completeLines_of_notMem open', List.append_nil]

end Lines

section Records

/-- One more line of a record. -/
theorem fieldValues_concat
    (name : String)
    (record : List (List Char))
    (line : List Char) :
    fieldValues name (record ++ [line]) =
      fieldValues name record ++
        if line.head? ≠ some ':' ∧ (parseField line).1 = name.toList then
          [String.ofList (parseField line).2]
        else
          [] := by
  unfold fieldValues
  rw [List.filterMap_append, List.filterMap_cons, List.filterMap_nil]
  by_cases counts : line.head? ≠ some ':' ∧ (parseField line).1 = name.toList
  · simp only [if_pos counts]
  · simp only [if_neg counts]

/-- The pending event after the lines of a record. -/
def PendingEvent.ofRecord (record : List (List Char)) : PendingEvent where
  dataLines := fieldValues "data" record
  eventName := (fieldValues "event" record).getLast?

/-- A record is closed with its event, if it has one. -/
theorem flush_ofRecord (record : List (List Char)) :
    (PendingEvent.ofRecord record).flush = (recordEvent record).toList := by
  unfold PendingEvent.flush PendingEvent.ofRecord recordEvent
  simp only [List.getLast?_eq_none_iff]
  split_ifs <;> rfl

/-- An empty line closes a record, any other line belongs to it. -/
theorem processLine_ofRecord (record : List (List Char)) (rawLine : List Char) :
    processLine (.ofRecord record) rawLine =
      if stripTrailingCR rawLine = [] then
        (.ofRecord [], (recordEvent record).toList)
      else
        (.ofRecord (record ++ [stripTrailingCR rawLine]), []) := by
  have differ : "event".toList ≠ "data".toList := by decide
  unfold processLine
  dsimp only
  split_ifs with isEmpty isComment isData isEvent
  · rw [flush_ofRecord]
    rfl
  · simp only [PendingEvent.ofRecord, fieldValues_concat, isComment, ne_eq,
      not_true, false_and, if_false, List.append_nil]
  · simp only [PendingEvent.ofRecord, fieldValues_concat, isComment, ne_eq,
      not_false_eq_true, isData, differ.symm, and_true, and_false, if_true,
      if_false, List.append_nil]
  · simp only [PendingEvent.ofRecord, fieldValues_concat, isComment, ne_eq,
      not_false_eq_true, isEvent, differ, and_true, and_false, if_true,
      if_false, List.append_nil, List.getLast?_concat]
  · simp only [PendingEvent.ofRecord, fieldValues_concat, isData, isEvent,
      and_false, if_false, List.append_nil]

/-- Lines after those of a record, and the end of the text. -/
theorem processLines_ofRecord
    (record : List (List Char))
    (rawLines : List (List Char)) :
    (processLines (.ofRecord record) rawLines).2 ++
        (processLines (.ofRecord record) rawLines).1.flush =
      (((rawLines.map stripTrailingCR).splitOnP List.isEmpty).modifyHead
        (record ++ ·)).filterMap recordEvent := by
  induction rawLines generalizing record with
  | nil =>
      rw [processLines, List.nil_append, flush_ofRecord, List.map_nil,
        List.splitOnP_nil, List.modifyHead_cons, List.append_nil,
        List.filterMap_cons]
      cases recordEvent record <;> rfl
  | cons rawLine rawLines inductionHypothesis =>
      rw [processLines, processLine_ofRecord, List.map_cons,
        List.splitOnP_cons_eq_if_modifyHead]
      by_cases isEmpty : stripTrailingCR rawLine = []
      · have next := inductionHypothesis []
        have unchanged : List.modifyHead (α := List (List Char)) ([] ++ ·) =
            id := by
          funext records
          cases records <;> rfl
        rw [unchanged, id_eq] at next
        simp only [isEmpty, if_true, List.isEmpty_nil, List.modifyHead_cons,
          List.append_nil, List.append_assoc, next, List.filterMap_cons]
        cases recordEvent record <;> rfl
      · have nonempty : (stripTrailingCR rawLine).isEmpty = false := by
          rwa [List.isEmpty_eq_false_iff]
        have next := inductionHypothesis (record ++ [stripTrailingCR rawLine])
        simp only [isEmpty, nonempty, if_false, Bool.false_eq_true,
          List.nil_append, next, List.modifyHead_modifyHead]
        congr 2
        funext rest
        simp

end Records

section Reader

variable (decoder : TextDecoder)

/-- What is assumed of a decoder: its pieces decode as the whole does, and its
end adds no line feed. -/
structure TextDecoder.Streams (text : List UInt8 → String) : Prop where
  agrees : ∀ pieces, decoder.decodeAll pieces = text pieces.flatten
  lineFeed_notMem_flush : ∀ state, '\n' ∉ (decoder.flush state).toList

/-- The lines of two texts, one after the other. -/
theorem processLines_append
    (pending : PendingEvent)
    (first second : List (List Char)) :
    processLines pending (first ++ second) =
      ((processLines (processLines pending first).1 second).1,
        (processLines pending first).2 ++
          (processLines (processLines pending first).1 second).2) := by
  induction first generalizing pending with
  | nil => rfl
  | cons line lines inductionHypothesis =>
      simp only [List.cons_append, processLines, inductionHypothesis,
        List.append_assoc]

/-- The events of a text, line by line. -/
theorem textEvents_eq (text : List Char) :
    textEvents text =
      (processLines {} (textLines text)).2 ++
        (processLines {} (textLines text)).1.flush := by
  have lines := processLines_ofRecord [] (textLines text)
  have unchanged : List.modifyHead (α := List (List Char)) ([] ++ ·) = id := by
    funext records
    cases records <;> rfl
  rw [unchanged, id_eq] at lines
  exact lines.symm

/-- The reader after a text. -/
def readerAfter (decoding : decoder.State) (text : List Char) :
    ReaderState decoder where
  decoding := decoding
  buffer := (completeLines text).2
  pending := (processLines {} (completeLines text).1).1

/-- The events that a text has closed. -/
def closedEvents (text : List Char) : List SSEEvent :=
  (processLines {} (completeLines text).1).2

/-- A read takes the reader on to the text with what it brings. -/
theorem step_readerAfter
    (decoding : decoder.State)
    (text : List Char)
    (bytes : List UInt8) :
    (eventReader decoder).after (readerAfter decoder decoding text) bytes =
        readerAfter decoder (decoder.decode decoding bytes).1
          (text ++ (decoder.decode decoding bytes).2.toList) ∧
      closedEvents text ++
          (eventReader decoder).output (readerAfter decoder decoding text)
            bytes =
        closedEvents (text ++ (decoder.decode decoding bytes).2.toList) := by
  unfold closedEvents readerAfter
  rw [completeLines_append, processLines_append]
  exact ⟨rfl, rfl⟩

/-- The end of the body closes the events that are left. -/
theorem finish_readerAfter
    (decoding : decoder.State)
    (text : List Char)
    (noLineFeed : '\n' ∉ (decoder.flush decoding).toList) :
    closedEvents text ++
        (eventReader decoder).finish (readerAfter decoder decoding text) =
      textEvents (text ++ (decoder.flush decoding).toList) := by
  rw [textEvents_eq, textLines_eq, completeLines_append_of_notMem noLineFeed]
  unfold closedEvents readerAfter eventReader
  dsimp only
  split_ifs with isEmpty
  · rw [List.append_nil]
  · rw [processLines_append, List.append_assoc]
    simp only [processLines, List.append_nil]

/-- The reads that are left, after a text. -/
theorem run_readerAfter
    (noLineFeed : ∀ state, '\n' ∉ (decoder.flush state).toList)
    (decoding : decoder.State)
    (text : List Char)
    (pieces : List (List UInt8)) :
    ((eventReader decoder).run .finished (readerAfter decoder decoding text)
        pieces).prepend (closedEvents text) =
      { items :=
          textEvents (text ++ (decoder.decodeFrom decoding pieces).toList)
        ending := .finished } := by
  induction pieces generalizing decoding text with
  | nil =>
      have items :=
        finish_readerAfter decoder decoding text (noLineFeed decoding)
      rw [TextDecoder.decodeFrom, ← items]
      rfl
  | cons bytes pieces inductionHypothesis =>
      obtain ⟨after, events⟩ := step_readerAfter decoder decoding text bytes
      have runCons : (eventReader decoder).run .finished
          (readerAfter decoder decoding text) (bytes :: pieces) =
            ((eventReader decoder).run .finished
              ((eventReader decoder).after
                (readerAfter decoder decoding text) bytes) pieces).prepend
              ((eventReader decoder).output
                (readerAfter decoder decoding text) bytes) := rfl
      rw [runCons, Yields.prepend_prepend, events, after, inductionHypothesis,
        TextDecoder.decodeFrom, String.toList_append, List.append_assoc]

end Reader

section Utf8

/-- The decoder of UTF-8. -/
def utf8Decoder : TextDecoder where
  State := Foundations.Utf8.State
  start := {}
  decode state bytes :=
    let (state, chars) := Utf8.decode state bytes
    (state, String.ofList chars)
  flush state := String.ofList (Utf8.finish state.begun)

/-- The text of a whole body. -/
def decodeUtf8 (bytes : List UInt8) : String := utf8Decoder.decodeAll [bytes]

/-- Where a piece ends does not matter to the decoder of UTF-8. -/
theorem decodeFrom_utf8Decoder
    (state : Foundations.Utf8.State)
    (pieces : List (List UInt8)) :
    utf8Decoder.decodeFrom state pieces =
      utf8Decoder.decodeFrom state [pieces.flatten] := by
  induction pieces generalizing state with
  | nil =>
      simp [TextDecoder.decodeFrom, utf8Decoder]
  | cons bytes pieces inductionHypothesis =>
      have rest := inductionHypothesis (Utf8.decode state bytes).1
      change String.ofList (Utf8.decode state bytes).2 ++
        utf8Decoder.decodeFrom (Utf8.decode state bytes).1 pieces = _
      rw [rest, List.flatten_cons]
      simp only [TextDecoder.decodeFrom, utf8Decoder,
        Foundations.Utf8.decode_append, String.ofList_append,
        String.append_assoc]

theorem streams_utf8Decoder : utf8Decoder.Streams decodeUtf8 where
  agrees pieces := decodeFrom_utf8Decoder _ pieces
  lineFeed_notMem_flush state := by
    change '\n' ∉ (String.ofList (Utf8.finish state.begun)).toList
    rw [String.toList_ofList]
    exact Foundations.Utf8.lineFeed_notMem_finish state.begun

/-- The bytes of a text. -/
def encodeUtf8 (text : String) : List UInt8 := Utf8.encode text.toList

theorem decodeUtf8_encodeUtf8
    {text : String}
    (noMark : text.toList.head? ≠ some Foundations.Utf8.byteOrderMark) :
    decodeUtf8 (encodeUtf8 text) = text := by
  obtain ⟨isOver, isText⟩ := Foundations.Utf8.decode_encode noMark
  change String.ofList (Utf8.decode {} (Utf8.encode text.toList)).2 ++
    String.ofList
      (Utf8.finish (Utf8.decode {} (Utf8.encode text.toList)).1.begun) = _
  rw [isOver, isText, String.ofList_toList]
  exact String.append_empty

end Utf8

/-- A body that is read to its end yields the events of its text. -/
theorem parseSSEStream_of_streams
    {decoder : TextDecoder}
    {text : List UInt8 → String}
    (streams : decoder.Streams text)
    (pieces : List (List UInt8)) :
    parseSSEStream decoder { items := pieces, ending := .finished } =
      { items := textEvents (text pieces.flatten).toList
        ending := .finished } := by
  have run := run_readerAfter decoder streams.lineFeed_notMem_flush
    decoder.start [] pieces
  have decoded : decoder.decodeFrom decoder.start pieces =
      text pieces.flatten := streams.agrees pieces
  rw [decoded] at run
  exact run

end OpenAI
end AiGateway
