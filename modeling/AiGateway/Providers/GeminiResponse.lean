import AiGateway.OpenAI.Completion
import AiGateway.Providers.StreamOrder

/-!
# Whole and streamed responses of Gemini

A response arrives whole, or in frames that each hold some of its parts. What a
client puts together from the frames is the translation of the whole response.
-/

namespace AiGateway
namespace Providers
namespace Gemini

open Foundations (Json Transducer Yields)
open OpenAI

section WholeResponses

/-- The first candidate of a response or of a frame, if it is a record. -/
def firstCandidate (frame : Json) : Option Json :=
  ((frame.get "candidates").bind fun list => list.asArray.head?).filter
    Json.isRecord

/-- The parts of the first candidate. -/
def frameParts (frame : Json) : List Json :=
  (((firstCandidate frame).bind (Json.getRecord "content")).bind
    (Json.get "parts")).elim [] Json.asArray

/-- The finish reason of the first candidate, if it is a string. -/
def frameFinishReason (frame : Json) : Option String :=
  (firstCandidate frame).bind (Json.getString "finishReason")

/-- The variables of `extractParts`. -/
structure Extracted where
  text : String := ""
  toolCalls : List ToolCall := []
  index : Nat := 0

-- the identifier of the tool call with a given index
variable (newToolCallId : Nat → String)

/-- One part of the response. -/
def Extracted.extractPart (extracted : Extracted) (part : Json) : Extracted :=
  if part.isRecord then
    match part.getString "text", part.getRecord "functionCall" with
    | some text, _ => { extracted with text := extracted.text ++ text }
    | none, some call =>
        { extracted with
          toolCalls := extracted.toolCalls ++
            [{ id := newToolCallId extracted.index
               function :=
                 { name := (call.getString "name").getD
                     ("tool_" ++ toString extracted.index)
                   arguments := (call.getOr "args" (.object [])).stringify } }]
          index := extracted.index + 1 }
    | none, none => extracted
  else
    extracted

/-- `extractParts(content)`, for the parts of the content. -/
def extractParts (parts : List Json) : Extracted :=
  parts.foldl (Extracted.extractPart newToolCallId) {}

/-- `GeminiProvider.translateResponse`, with the identifier and the time that it
makes up. -/
def translateResponse
    (id : String)
    (created : Nat)
    (providerId : String)
    (raw : Json)
    (request : ChatCompletionRequest) : Except Thrown ChatCompletion :=
  if raw.isRecord then
    let extracted := extractParts newToolCallId (frameParts raw)
    .ok
      { id := id
        created := created
        model := request.model
        content := if extracted.text = "" then none else some extracted.text
        toolCalls := extracted.toolCalls
        finishReason :=
          mapFinishReason (frameFinishReason raw) (!extracted.toolCalls.isEmpty)
        usage := readUsage (raw.get "usageMetadata") }
  else
    .error (.gateway (.provider "Gemini returned an unexpected response shape."
      502 providerId (some true)))

end WholeResponses

section StreamedResponses

-- `JSON.parse`, which may reject
variable (parse : String → Option Json)

/-- The frame that an event carries, if it is a record. -/
def readFrame (event : SSEEvent) : Option Json :=
  if event.data = "" then
    none
  else
    let frame := safeJsonParse parse event.data
    if frame.isRecord then some frame else none

/-- The events stream a response: their frames split its parts, and the last one
carries its finish reason and its usage. -/
structure Streams (raw : Json) (events : List SSEEvent) : Prop where
  isRecord : raw.isRecord = true
  frames : ∃ earlier last,
    events.map (readFrame parse) = (earlier ++ [last]).map some ∧
      (earlier ++ [last]).flatMap frameParts = frameParts raw ∧
      (∀ frame ∈ earlier, frameFinishReason frame = none) ∧
      frameFinishReason last = frameFinishReason raw ∧
      last.get "usageMetadata" = raw.get "usageMetadata"

end StreamedResponses

section Building

variable
  (header : StreamHeader)
  (newToolCallId : Nat → String)

/-- What a client put together so far is what was extracted so far, and the
deltas of tool calls had the first indices. -/
structure Builds
    (extracted : Extracted)
    (state : StreamState)
    (chunks : List ChatCompletionChunk) : Prop where
  text : (accumulate chunks).text = extracted.text
  calls : ((accumulate chunks).toolCalls.map fun (_, call) =>
      (call.name, call.arguments)) =
    extracted.toolCalls.map fun call =>
      (some call.function.name, call.function.arguments)
  numbered : Numbered state.toolIndex (accumulate chunks).toolCalls
  indices : (chunks.flatMap toolCallDeltas).map ToolCallDelta.index =
    (List.range state.toolIndex).map Nat.cast
  toolIndex : state.toolIndex = extracted.index
  index : extracted.index = extracted.toolCalls.length
  sawToolUse : state.sawToolUse = !extracted.toolCalls.isEmpty
  usage : (accumulate chunks).usage = none

theorem Builds.start : Builds {} {} [] where
  text := rfl
  calls := rfl
  numbered := .nil
  indices := rfl
  toolIndex := rfl
  index := rfl
  sawToolUse := rfl
  usage := rfl

theorem accumulate_append (chunks later : List ChatCompletionChunk) :
    accumulate (chunks ++ later) = (accumulate chunks).addAll later :=
  Accumulated.addAll_append _ _ _

/-- The role chunk adds nothing. -/
theorem addAll_emitRole (message : Accumulated) (state : StreamState) :
    message.addAll (emitRole header state) = message := by
  unfold emitRole
  split_ifs <;> simp

theorem toolCallDeltas_emitRole (state : StreamState) :
    (emitRole header state).flatMap toolCallDeltas = [] := by
  unfold emitRole
  split_ifs <;> rfl

/-- A part adds the same to both. -/
theorem Builds.part
    {extracted : Extracted}
    {state : StreamState}
    {chunks : List ChatCompletionChunk}
    (builds : Builds extracted state chunks)
    (part : Json) :
    Builds (extracted.extractPart newToolCallId part)
      (normalisePart header newToolCallId state part).1
      (chunks ++ (normalisePart header newToolCallId state part).2) := by
  obtain ⟨text, calls, numbered, indices, toolIndex, index, sawToolUse, usage⟩ :=
    builds
  unfold Extracted.extractPart normalisePart
  split_ifs
  · cases part.getString "text" with
    | some words =>
        refine ⟨?_, ?_, ?_, ?_, toolIndex, index, sawToolUse, ?_⟩
        · simp [accumulate_append, addAll_emitRole, text]
        · simpa [accumulate_append, addAll_emitRole] using calls
        · simpa [accumulate_append, addAll_emitRole] using numbered
        · simpa [toolCallDeltas_emitRole] using indices
        · simpa [accumulate_append, addAll_emitRole] using usage
    | none =>
        cases part.getRecord "functionCall" with
        | some call =>
            dsimp only
            refine ⟨?_, ?_, ?_, ?_, ?_, ?_, ?_, ?_⟩
            · simpa [accumulate_append, addAll_emitRole] using text
            · simp [accumulate_append, addAll_emitRole,
                mergeToolCall_next numbered, AccumulatedCall.extend, calls,
                toolIndex]
            · simpa [accumulate_append, addAll_emitRole,
                mergeToolCall_next numbered] using numbered.append_singleton _
            · simp [toolCallDeltas_emitRole, indices, List.range_succ]
            · exact congrArg (· + 1) toolIndex
            · simp [index]
            · simp
            · simpa [accumulate_append, addAll_emitRole] using usage
        | none =>
            refine ⟨?_, ?_, ?_, ?_, toolIndex, index, sawToolUse, ?_⟩
            · simpa [accumulate_append, addAll_emitRole] using text
            · simpa [accumulate_append, addAll_emitRole] using calls
            · simpa [accumulate_append, addAll_emitRole] using numbered
            · simpa [toolCallDeltas_emitRole] using indices
            · simpa [accumulate_append, addAll_emitRole] using usage
  · rw [List.append_nil]
    exact ⟨text, calls, numbered, indices, toolIndex, index, sawToolUse, usage⟩

theorem Builds.parts
    {extracted : Extracted}
    {state : StreamState}
    {chunks : List ChatCompletionChunk}
    (builds : Builds extracted state chunks)
    (parts : List Json) :
    Builds (parts.foldl (Extracted.extractPart newToolCallId) extracted)
      (normaliseParts header newToolCallId state parts).1
      (chunks ++ (normaliseParts header newToolCallId state parts).2) := by
  induction parts generalizing extracted state chunks with
  | nil =>
      rw [normaliseParts, List.append_nil]
      exact builds
  | cons part parts inductionHypothesis =>
      have later :=
        inductionHypothesis (builds.part header newToolCallId part)
      rw [List.append_assoc] at later
      exact later

/-- What a frame says besides its parts. -/
def noteFrame (state : StreamState) (frame : Json) : StreamState :=
  let usage := readUsage (frame.get "usageMetadata")
  { state with
    usage := if 0 < usage.totalTokens then usage else state.usage
    finishReason := frameFinishReason frame <|> state.finishReason }

/-- A frame is noted, and then its parts are translated. -/
theorem normaliseFrame_eq (state : StreamState) (frame : Json) :
    normaliseFrame header newToolCallId state frame =
      normaliseParts header newToolCallId (noteFrame state frame)
        (frameParts frame) := by
  have isCandidate : ((frame.get "candidates").bind fun list =>
      list.asArray.head?).filter Json.isRecord = firstCandidate frame := rfl
  unfold normaliseFrame noteFrame frameFinishReason frameParts
  rw [isCandidate]
  cases firstCandidate frame with
  | none =>
      dsimp only
      split_ifs <;> rfl
  | some candidate =>
      dsimp only
      rw [Option.bind_some, Option.bind_some]
      cases candidate.getString "finishReason" with
      | none => split_ifs <;> rfl
      | some reason => split_ifs <;> rfl

/-- Reading notes leaves what was built. -/
theorem Builds.note
    {extracted : Extracted}
    {state : StreamState}
    {chunks : List ChatCompletionChunk}
    (builds : Builds extracted state chunks)
    (frame : Json) : Builds extracted (noteFrame state frame) chunks :=
  ⟨builds.text, builds.calls, builds.numbered, builds.indices, builds.toolIndex,
    builds.index, builds.sawToolUse, builds.usage⟩

-- `JSON.parse`, which may reject
variable (parse : String → Option Json) (wantUsage : Bool)

/-- An event that carries a frame. -/
theorem normaliseEvent_of_frame
    (state : StreamState)
    {event : SSEEvent}
    {frame : Json}
    (isFrame : readFrame parse event = some frame) :
    normaliseEvent header newToolCallId parse state event =
      normaliseFrame header newToolCallId state frame := by
  unfold readFrame at isFrame
  unfold normaliseEvent
  dsimp only at isFrame ⊢
  split_ifs at isFrame ⊢
  cases isFrame
  rfl

/-- Frames add what their parts add to the whole. -/
theorem Builds.frames
    {extracted : Extracted}
    {state : StreamState}
    {chunks : List ChatCompletionChunk}
    (builds : Builds extracted state chunks)
    {events : List SSEEvent}
    {frames : List Json}
    (areFrames : events.map (readFrame parse) = frames.map some) :
    let adapter := normaliser header newToolCallId parse wantUsage
    Builds
      ((frames.flatMap frameParts).foldl (Extracted.extractPart newToolCallId)
        extracted)
      (adapter.afterAll state events)
      (chunks ++ adapter.outputAll state events) := by
  intro adapter
  induction events generalizing frames extracted state chunks with
  | nil =>
      rw [List.map_nil, eq_comm, List.map_eq_nil_iff] at areFrames
      subst areFrames
      rw [Transducer.outputAll_nil, List.append_nil]
      exact builds
  | cons event events inductionHypothesis =>
      cases frames with
      | nil => cases areFrames
      | cons frame frames =>
          obtain ⟨isFrame, areLater⟩ := List.cons.inj areFrames
          rw [List.flatMap_cons, List.foldl_append, Transducer.outputAll_cons,
            Transducer.afterAll_cons, ← List.append_assoc]
          refine inductionHypothesis ?_ areLater
          change Builds _
            (normaliseEvent header newToolCallId parse state event).1
            (chunks ++ (normaliseEvent header newToolCallId parse state event).2)
          rw [normaliseEvent_of_frame header newToolCallId parse state isFrame,
            normaliseFrame_eq]
          exact (builds.note frame).parts header newToolCallId (frameParts frame)

theorem finishReason_normalisePart (state : StreamState) (part : Json) :
    (normalisePart header newToolCallId state part).1.finishReason =
      state.finishReason := by
  unfold normalisePart
  split_ifs
  · split <;> rfl
  · rfl

theorem finishReason_normaliseParts (state : StreamState) (parts : List Json) :
    (normaliseParts header newToolCallId state parts).1.finishReason =
      state.finishReason := by
  induction parts generalizing state with
  | nil => rfl
  | cons part parts inductionHypothesis =>
      exact (inductionHypothesis _).trans
        (finishReason_normalisePart header newToolCallId state part)

/-- After a frame the notes are those that were taken of it. -/
theorem notes_after
    (state : StreamState)
    {event : SSEEvent}
    {frame : Json}
    (isFrame : readFrame parse event = some frame) :
    let after := (normaliser header newToolCallId parse wantUsage).after state event
    after.usage = (noteFrame state frame).usage ∧
      after.finishReason = (noteFrame state frame).finishReason := by
  intro after
  have afterEq : after = (normaliseParts header newToolCallId
      (noteFrame state frame) (frameParts frame)).1 := by
    rw [← normaliseFrame_eq,
      ← normaliseEvent_of_frame header newToolCallId parse state isFrame]
    rfl
  rw [afterEq]
  exact ⟨(usage_normaliseParts header newToolCallId _ _).1,
    finishReason_normaliseParts header newToolCallId _ _⟩

/-- The notes of the last frame are kept. -/
theorem notes_afterAll
    {state : StreamState}
    {events : List SSEEvent}
    {earlier : List Json}
    {last : Json}
    (areFrames : events.map (readFrame parse) = (earlier ++ [last]).map some)
    (noReason : state.finishReason = none)
    (noEarlier : ∀ frame ∈ earlier, frameFinishReason frame = none)
    (positive : 0 < (readUsage (last.get "usageMetadata")).totalTokens) :
    let after := (normaliser header newToolCallId parse wantUsage).afterAll state
      events
    after.usage = readUsage (last.get "usageMetadata") ∧
      after.finishReason = frameFinishReason last := by
  induction earlier generalizing events state with
  | nil =>
      obtain ⟨event, rfl, isFrame⟩ : ∃ event, events = [event] ∧
          readFrame parse event = some last := by
        obtain ⟨event, later, rfl, isFrame, noLater⟩ := List.map_eq_cons_iff.1 areFrames
        rw [List.map_nil, List.map_eq_nil_iff] at noLater
        exact ⟨event, by rw [noLater], isFrame⟩
      obtain ⟨usageEq, reasonEq⟩ :=
        notes_after header newToolCallId parse wantUsage state isFrame
      refine ⟨usageEq.trans (if_pos positive), reasonEq.trans ?_⟩
      rw [noteFrame, noReason]
      cases frameFinishReason last <;> rfl
  | cons frame earlier inductionHypothesis =>
      obtain ⟨event, later, rfl, isFrame, areLater⟩ :=
        List.map_eq_cons_iff.1 areFrames
      obtain ⟨noneNow, noneLater⟩ := List.forall_mem_cons.1 noEarlier
      obtain ⟨-, reasonEq⟩ :=
        notes_after header newToolCallId parse wantUsage state isFrame
      have stillNone : ((normaliser header newToolCallId parse wantUsage).after
          state event).finishReason = none := by
        rw [reasonEq, noteFrame, noneNow, noReason]
        rfl
      have kept := inductionHypothesis areLater stillNone noneLater
      exact kept

/-- A stream agrees with a completion: it is complete, its tool calls have the
first indices, and what a client puts together from it is what the completion
holds, up to the identifiers of the tool calls; usage is sent if it is wanted. -/
structure Agrees
    (chunks : List ChatCompletionChunk)
    (whole : ChatCompletion) : Prop where
  complete : IsComplete header wantUsage chunks
  indices : (chunks.flatMap toolCallDeltas).map ToolCallDelta.index =
    (List.range whole.toolCalls.length).map Nat.cast
  text : (accumulate chunks).text = whole.content.getD ""
  toolCalls : ((accumulate chunks).toolCalls.map fun (_, call) =>
      (call.name, call.arguments)) =
    whole.toolCalls.map fun call =>
      (some call.function.name, call.function.arguments)
  finishReason : (accumulate chunks).finishReason = some whole.finishReason
  usage : (accumulate chunks).usage = if wantUsage then some whole.usage else none

/-- The stream of a response agrees with the translation of the whole
response. -/
theorem stream_agrees
    (id : String)
    (created : Nat)
    (providerId : String)
    (request : ChatCompletionRequest)
    {raw : Json}
    {events : List SSEEvent}
    (streams : Streams parse raw events)
    (positive : 0 < (readUsage (raw.get "usageMetadata")).totalTokens) :
    ∃ whole,
      translateResponse newToolCallId id created providerId raw request =
        .ok whole ∧
      Agrees header wantUsage
        ((normaliser header newToolCallId parse wantUsage).transduce {}
          { items := events, ending := .finished }).items
        whole := by
  obtain ⟨isRecord, earlier, last, areFrames, partsEq, noEarlier, reasonEq, usageEq⟩ :=
    streams
  refine ⟨_, if_pos isRecord, ?_⟩
  have builds := Builds.frames header newToolCallId parse wantUsage Builds.start
    areFrames
  dsimp only at builds
  rw [partsEq, List.nil_append] at builds
  obtain ⟨sameUsage, sameReason⟩ := notes_afterAll header newToolCallId parse
    wantUsage areFrames (rfl : ({} : StreamState).finishReason = none) noEarlier
    (by rwa [usageEq])
  have chunksEq := items_normalised header newToolCallId parse wantUsage events
  have messageEq := congrArg accumulate chunksEq
  rw [accumulate_append, accumulate_append, addAll_emitRole,
    Accumulated.addAll_closingChunks, sameUsage, sameReason, builds.sawToolUse,
    reasonEq, usageEq] at messageEq
  refine ⟨isComplete_normalised header newToolCallId parse wantUsage events,
    ?_, ?_, ?_, ?_, ?_⟩
  · have counted := builds.indices
    rw [builds.toolIndex, builds.index] at counted
    rw [chunksEq, List.flatMap_append, List.flatMap_append,
      toolCallDeltas_emitRole, toolCallDeltas_closingChunks, List.append_nil,
      List.append_nil]
    exact counted
  · rw [messageEq]
    refine builds.text.trans ?_
    change _ = (if (extractParts newToolCallId (frameParts raw)).text = "" then none
      else some _).getD ""
    by_cases isEmpty : (extractParts newToolCallId (frameParts raw)).text = ""
    · rw [if_pos isEmpty]
      exact isEmpty
    · rw [if_neg isEmpty]
      rfl
  · rw [messageEq]
    exact builds.calls
  · rw [messageEq]
    rfl
  · rw [messageEq, builds.usage]

/-- A text and a call in two frames, of which the last reports the usage. -/
theorem stream_agrees_of_two_frames :
    let header : StreamHeader := { id := "chatcmpl-1", created := 0, model := "m" }
    let text : Json := .object [("text", .string "It is")]
    let call : Json :=
      .object [("functionCall", .object [("name", .string "now")])]
    let usage : Json := .object [("promptTokenCount", .number 1)]
    let response (parts : List Json) (reason : List (String × Json)) : Json :=
      .object
        [("candidates", .array [.object
            (("content", .object [("parts", .array parts)]) :: reason)]),
          ("usageMetadata", usage)]
    let reason : List (String × Json) := [("finishReason", .string "STOP")]
    let parse := fun data =>
      if data = "first" then some (response [text] [])
      else if data = "last" then some (response [call] reason)
      else none
    let events : List SSEEvent :=
      [{ event := none, data := "first" }, { event := none, data := "last" }]
    ∃ whole,
      translateResponse (fun _ => "call_1") "chatcmpl-1" 0 "gemini"
          (response [text, call] reason) { model := "m", messages := [] } =
        .ok whole ∧
      Agrees header true
        ((normaliser header (fun _ => "call_1") parse true).transduce {}
          { items := events, ending := .finished }).items
        whole := by
  intro header text call usage response reason parse events
  have positive : 0 < (readUsage ((response [text, call] reason).get
      "usageMetadata")).totalTokens := by
    decide +kernel
  have streams : Streams parse (response [text, call] reason) events :=
    ⟨rfl, [response [text] []], response [call] reason, rfl, rfl,
      List.forall_mem_singleton.2 rfl, rfl, rfl⟩
  exact stream_agrees header (fun _ => "call_1") parse true "chatcmpl-1" 0 "gemini"
    { model := "m", messages := [] } streams positive

end Building

end Gemini
end Providers
end AiGateway
