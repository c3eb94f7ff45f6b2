import AiGateway.Errors
import AiGateway.OpenAI.Chunks
import AiGateway.Providers.Config

/-!
# Streams from Anthropic

Events are typed. The finish chunk and the usage chunk are sent when the message
stops, after which nothing more is read; an error event is thrown.
-/

namespace AiGateway
namespace Providers
namespace Anthropic

open Foundations (Decimal Json Control Transducer Yields)
open OpenAI

/-- `mapStopReason(reason, sawToolUse)`. -/
def mapStopReason (reason : Option String) (sawToolUse : Bool) :
    FinishReason :=
  if reason = some "max_tokens" ∨
      reason = some "model_context_window_exceeded" then
    .length
  else if reason = some "refusal" then .contentFilter
  else if reason = some "tool_use" ∨ sawToolUse then .toolCalls
  else .stop

/-- `readUsageField(usage, field)`. -/
def readUsageField (usage : Option Json) (field : String) : Option ℚ :=
  (usage.filter Json.isRecord).bind fun usage => readNumber (usage.get field)

/-- The variables of `normaliseStream`. -/
structure StreamState where
  promptTokens : ℚ := 0
  completionTokens : ℚ := 0
  stopReason : Option String := none
  sawToolUse : Bool := false
  nextToolIndex : Nat := 0
  /-- The index of the tool call of a content block; the last entry counts. -/
  toolIndexByBlock : List (ℚ × Nat) := []
  roleEmitted : Bool := false
  deriving DecidableEq

section Normalise

variable
  (header : StreamHeader)
  (wantUsage : Bool)
  (providerId : String)

/-- The chunks that end the message. -/
def stopChunks (state : StreamState) : List ChatCompletionChunk :=
  makeFinishChunk header (mapStopReason state.stopReason state.sawToolUse) ::
    if wantUsage then
      [makeUsageChunk header
        { promptTokens := state.promptTokens
          completionTokens := state.completionTokens
          totalTokens := state.promptTokens + state.completionTokens }]
    else
      []

/-- The start of a content block. -/
def startBlock (state : StreamState) (frame : Json) :
    StreamState × List ChatCompletionChunk :=
  let index := (readNumber (frame.get "index")).getD 0
  match (frame.getRecord "content_block").filter fun block =>
      block.getString "type" = some "tool_use" with
  | none => (state, [])
  | some block =>
      ({ state with
          nextToolIndex := state.nextToolIndex + 1
          toolIndexByBlock :=
            (index, state.nextToolIndex) :: state.toolIndexByBlock
          sawToolUse := true },
        [makeToolCallChunk header
          { index := state.nextToolIndex
            hasType := true
            id := block.getString "id"
            name := block.getString "name"
            arguments := some "" }])

/-- A fragment of a content block. -/
def blockDelta (state : StreamState) (frame : Json) :
    List ChatCompletionChunk :=
  let index := (readNumber (frame.get "index")).getD 0
  match frame.getRecord "delta" with
  | none => []
  | some delta =>
      match delta.getString "type", delta.getString "text",
          delta.getString "partial_json" with
      | some "text_delta", some text, _ => [makeContentChunk header text]
      | some "input_json_delta", _, some fragment =>
          [makeToolCallChunk header
            { index := ((state.toolIndexByBlock.lookup index).getD 0 : Nat)
              arguments := some fragment }]
      | _, _, _ => []

/-- The message of an error event. -/
def errorMessage (frame : Json) : String :=
  ((frame.getRecord "error").bind (Json.getString "message")).getD
    "stream error"

/-- One event that is a record, of a given type. -/
def normaliseFrame (state : StreamState) (type : String) (frame : Json) :
    StreamState × List ChatCompletionChunk × Control Thrown :=
  match type with
  | "message_start" =>
      let usage := (frame.getRecord "message").bind (Json.get "usage")
      ({ state with
          promptTokens :=
            (readUsageField usage "input_tokens").getD state.promptTokens
          roleEmitted := true },
        if state.roleEmitted then [] else [makeRoleChunk header], .proceed)
  | "content_block_start" =>
      let (state, chunks) := startBlock header state frame
      (state, chunks, .proceed)
  | "content_block_delta" => (state, blockDelta header state frame, .proceed)
  | "message_delta" =>
      let stopReason :=
        (frame.getRecord "delta").bind (Json.getString "stop_reason")
      ({ state with
          stopReason := stopReason <|> state.stopReason
          completionTokens :=
            (readUsageField (frame.get "usage") "output_tokens").getD
              state.completionTokens },
        [], .proceed)
  | "error" =>
      (state, [],
        .fail (.gateway (.provider
          ("Anthropic stream error: " ++ errorMessage frame) 502 providerId)))
  | "message_stop" => (state, stopChunks header wantUsage state, .done)
  | _ => (state, [], .proceed)

-- `JSON.parse`, which may reject
variable (parse : String → Option Json)

/-- The record that an event carries and its type. -/
def readEvent (event : SSEEvent) : Option (String × Json) :=
  if event.data = "" then
    none
  else
    let frame := safeJsonParse parse event.data
    if frame.isRecord then
      some ((frame.getString "type" <|> event.event).getD "", frame)
    else
      none

/-- `AnthropicProvider.normaliseStream`. -/
def normaliser :
    Transducer StreamState SSEEvent ChatCompletionChunk Thrown where
  step state event :=
    match readEvent parse event with
    | none => (state, [], .proceed)
    | some (type, frame) =>
        normaliseFrame header wantUsage providerId state type frame
  finish _ := []

/-- The usage that an event reports. -/
def reportedUsage (event : SSEEvent) : Option Json :=
  match readEvent parse event with
  | some ("message_start", frame) =>
      (frame.getRecord "message").bind (Json.get "usage")
  | some ("message_delta", frame) => frame.get "usage"
  | _ => none

/-- Does an event stop the message? -/
def isMessageStop (event : SSEEvent) : Bool :=
  (readEvent parse event).any fun (type, _) => type = "message_stop"

end Normalise

section Usage

variable
  (header : StreamHeader)
  (wantUsage : Bool)
  (providerId : String)

theorem usage_of_mem_startBlock (state : StreamState) (frame : Json) :
    ∀ chunk ∈ (startBlock header state frame).2, chunk.usage = none := by
  unfold startBlock
  dsimp only
  split <;> simp [makeToolCallChunk]

theorem usage_of_mem_blockDelta (state : StreamState) (frame : Json) :
    ∀ chunk ∈ blockDelta header state frame, chunk.usage = none := by
  unfold blockDelta
  dsimp only
  split
  · simp
  · split <;> simp [makeContentChunk, makeToolCallChunk]

/-- A block changes no token count. -/
theorem tokens_startBlock (state : StreamState) (frame : Json) :
    (startBlock header state frame).1.promptTokens = state.promptTokens ∧
      (startBlock header state frame).1.completionTokens =
        state.completionTokens := by
  unfold startBlock
  dsimp only
  split <;> exact ⟨rfl, rfl⟩

variable (parse : String → Option Json)

/-- The adapter is done with the event that stops the message, which makes it
send the chunks that end the message. -/
theorem control_eq_done_iff (state : StreamState) (event : SSEEvent) :
    (normaliser header wantUsage providerId parse).control state event = .done ↔
      isMessageStop parse event = true := by
  unfold Transducer.control normaliser isMessageStop
  dsimp only
  cases readEvent parse event with
  | none => simp
  | some read =>
      obtain ⟨type, frame⟩ := read
      dsimp only
      unfold normaliseFrame
      split <;> simp_all

theorem output_of_isMessageStop
    {state : StreamState}
    {event : SSEEvent}
    (isStop : isMessageStop parse event = true) :
    (normaliser header wantUsage providerId parse).output state event =
      stopChunks header wantUsage state := by
  unfold isMessageStop at isStop
  unfold Transducer.output normaliser
  dsimp only
  cases readEq : readEvent parse event with
  | none =>
      rw [readEq] at isStop
      cases isStop
  | some read =>
      obtain ⟨type, frame⟩ := read
      rw [readEq] at isStop
      have isType : type = "message_stop" := by simpa using isStop
      subst isType
      rfl

/-- While the adapter goes on, an event without usage leaves the token counts
alone, and its chunks carry no usage. -/
theorem usage_normaliser
    (state : StreamState)
    (event : SSEEvent)
    (notReported : reportedUsage parse event = none)
    (proceeds :
      (normaliser header wantUsage providerId parse).control state event =
        .proceed) :
    let after := (normaliser header wantUsage providerId parse).after state event
    (after.promptTokens = state.promptTokens ∧
        after.completionTokens = state.completionTokens) ∧
      ∀ chunk ∈ (normaliser header wantUsage providerId parse).output state event,
        chunk.usage = none := by
  unfold reportedUsage at notReported
  unfold Transducer.control normaliser at proceeds
  unfold Transducer.after Transducer.output normaliser
  dsimp only at proceeds ⊢
  cases readEq : readEvent parse event with
  | none => simp
  | some read =>
      obtain ⟨type, frame⟩ := read
      rw [readEq] at notReported proceeds
      dsimp only at proceeds ⊢
      unfold normaliseFrame at proceeds ⊢
      split
      · have noUsage : (frame.getRecord "message").bind (Json.get "usage") =
            none := notReported
        dsimp only
        rw [noUsage]
        refine ⟨⟨rfl, rfl⟩, ?_⟩
        split_ifs <;> simp [makeRoleChunk]
      · exact ⟨tokens_startBlock header state frame,
          usage_of_mem_startBlock header state frame⟩
      · exact ⟨⟨rfl, rfl⟩, usage_of_mem_blockDelta header state frame⟩
      · have noUsage : frame.get "usage" = none := notReported
        dsimp only
        rw [noUsage]
        exact ⟨⟨rfl, rfl⟩, by simp⟩
      · cases proceeds
      · cases proceeds
      · exact ⟨⟨rfl, rfl⟩, by simp⟩

end Usage

end Anthropic
end Providers
end AiGateway
