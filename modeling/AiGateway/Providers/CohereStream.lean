import AiGateway.Errors
import AiGateway.OpenAI.Chunks
import AiGateway.Providers.Config

/-!
# Streams from Cohere

Events are typed. The adapter keeps the finish reason and the usage of the last
end of the message, and closes the stream with one finish chunk and, if it is
wanted, one usage chunk.
-/

namespace AiGateway
namespace Providers
namespace Cohere

open Foundations (Decimal Json Control Transducer Yields)
open OpenAI

/-- `readUsage(usage)`. -/
def readUsage (usage : Option Json) : CompletionUsage :=
  let tokens :=
    (usage.filter Json.isRecord).bind (Json.getRecord "tokens")
  let input := (readNumber (tokens.bind (Json.get "input_tokens"))).getD 0
  let output := (readNumber (tokens.bind (Json.get "output_tokens"))).getD 0
  { promptTokens := input
    completionTokens := output
    totalTokens := input + output }

/-- `mapFinishReason(reason, sawToolUse)`. -/
def mapFinishReason (reason : Option String) (sawToolUse : Bool) :
    FinishReason :=
  if sawToolUse || reason = some "TOOL_CALL" then .toolCalls
  else
    match reason with
    | some "MAX_TOKENS" => .length
    | some "ERROR_TOXIC" => .contentFilter
    | _ => .stop

/-- `readDeltaText(delta)`. -/
def readDeltaText (delta : Option Json) : Option String :=
  ((delta.bind (Json.getRecord "message")).bind
    (Json.getRecord "content")).bind (Json.getString "text")

/-- What `readDeltaToolCall` returns. -/
structure DeltaToolCall where
  id : Option String
  name : Option String
  arguments : Option String
  deriving DecidableEq

/-- `readDeltaToolCall(delta)`. -/
def readDeltaToolCall (delta : Option Json) : Option DeltaToolCall :=
  let toolCalls :=
    (delta.bind (Json.getRecord "message")).bind (Json.get "tool_calls")
  -- An array passes `isRecord`, so its first element is never looked at.
  (toolCalls.filter Json.isRecord).map fun call =>
    let function := call.getRecord "function"
    { id := call.getString "id"
      name := function.bind (Json.getString "name")
      arguments := function.bind (Json.getString "arguments") }

/-- The variables of `normaliseStream`. -/
structure StreamState where
  roleEmitted : Bool := false
  sawToolUse : Bool := false
  finishReason : Option String := none
  usage : CompletionUsage := .zero
  deriving DecidableEq

section Normalise

variable (header : StreamHeader)

/-- `emitRole()`. -/
def emitRole (state : StreamState) : List ChatCompletionChunk :=
  if state.roleEmitted then [] else [makeRoleChunk header]

/-- One event that is a record, with the name that its frame gave it. -/
def normaliseFrame
    (state : StreamState)
    (name : Option String)
    (frame : Json) : StreamState × List ChatCompletionChunk :=
  let type := (frame.getString "type" <|> name).getD ""
  let delta := frame.getRecord "delta"
  let index := (readNumber (frame.get "index")).getD 0
  let opened := { state with roleEmitted := true }
  match type with
  | "message-start" => (opened, emitRole header state)
  | "content-delta" =>
      match readDeltaText delta with
      | some text =>
          (opened, emitRole header state ++ [makeContentChunk header text])
      | none => (state, [])
  | "tool-call-start" =>
      match readDeltaToolCall delta with
      | some call =>
          ({ opened with sawToolUse := true },
            emitRole header state ++
              [makeToolCallChunk header
                { index := index
                  id := call.id
                  hasType := true
                  name := call.name
                  arguments := some (call.arguments.getD "") }])
      | none => (state, [])
  | "tool-call-delta" =>
      match (readDeltaToolCall delta).bind DeltaToolCall.arguments with
      | some arguments =>
          (state,
            [makeToolCallChunk header
              { index := index, arguments := some arguments }])
      | none => (state, [])
  | "message-end" =>
      let state :=
        match delta.bind (Json.getString "finish_reason") with
        | some reason => { state with finishReason := some reason }
        | none => state
      let usage := readUsage (delta.bind (Json.get "usage"))
      (if 0 < usage.totalTokens then { state with usage := usage } else state, [])
  | _ => (state, [])

-- `JSON.parse`, which may reject
variable (parse : String → Option Json)

/-- The body of the loop over the events. -/
def normaliseEvent (state : StreamState) (event : SSEEvent) :
    StreamState × List ChatCompletionChunk :=
  if event.data = "" ∨ event.data = "[DONE]" then
    (state, [])
  else
    let frame := safeJsonParse parse event.data
    if frame.isRecord then normaliseFrame header state event.event frame
    else (state, [])

/-- `CohereProvider.normaliseStream`. -/
def normaliser (wantUsage : Bool) :
    Transducer StreamState SSEEvent ChatCompletionChunk Thrown where
  step state event :=
    let (state, chunks) := normaliseEvent header parse state event
    (state, chunks, .proceed)
  finish state :=
    emitRole header state ++
      [makeFinishChunk header
        (mapFinishReason state.finishReason state.sawToolUse)] ++
      if wantUsage then [makeUsageChunk header state.usage] else []

/-- The usage that an event reports. -/
def reportedUsage (event : SSEEvent) : Option Json :=
  if event.data = "" ∨ event.data = "[DONE]" then
    none
  else
    let frame := safeJsonParse parse event.data
    if (frame.getString "type" <|> event.event).getD "" = "message-end" then
      (frame.getRecord "delta").bind (Json.get "usage")
    else
      none

end Normalise

section Usage

theorem totalTokens_readUsage_none : (readUsage none).totalTokens = 0 := by
  simp [readUsage, readNumber]

variable (header : StreamHeader) (parse : String → Option Json)

theorem usage_of_mem_emitRole
    {state : StreamState}
    {chunk : ChatCompletionChunk}
    (isChunk : chunk ∈ emitRole header state) : chunk.usage = none := by
  unfold emitRole at isChunk
  split_ifs at isChunk
  · cases isChunk
  · rw [List.mem_singleton.1 isChunk]
    rfl

/-- The chunks of a frame carry no usage. -/
theorem usage_of_mem_normaliseFrame
    (state : StreamState)
    (name : Option String)
    (frame : Json) :
    ∀ chunk ∈ (normaliseFrame header state name frame).2,
      chunk.usage = none := by
  have noRole : ∀ chunk ∈ emitRole header state, chunk.usage = none :=
    fun _ => usage_of_mem_emitRole header
  unfold normaliseFrame
  dsimp only
  split
  · exact noRole
  · split
    · exact List.forall_mem_append.2 ⟨noRole, by simp [makeContentChunk]⟩
    · simp
  · split
    · exact List.forall_mem_append.2 ⟨noRole, by simp [makeToolCallChunk]⟩
    · simp
  · split <;> simp [makeToolCallChunk]
  · simp
  · simp

/-- Only the end of the message changes the usage that is kept. -/
theorem usage_normaliseFrame
    (state : StreamState)
    (name : Option String)
    (frame : Json) :
    (normaliseFrame header state name frame).1.usage =
      if (frame.getString "type" <|> name).getD "" = "message-end" ∧
          0 < (readUsage
            ((frame.getRecord "delta").bind (Json.get "usage"))).totalTokens then
        readUsage ((frame.getRecord "delta").bind (Json.get "usage"))
      else state.usage := by
  unfold normaliseFrame
  dsimp only
  generalize (frame.getString "type" <|> name).getD "" = type
  split
  · simp
  · split <;> simp
  · split <;> simp
  · split <;> simp
  · simp only [true_and]
    split_ifs <;> split <;> rfl
  · next isOther => exact (if_neg fun reported => isOther reported.1).symm

/-- The chunks of an event carry no usage, and only reported usage changes what
the adapter has kept. -/
theorem usage_normaliseEvent (state : StreamState) (event : SSEEvent) :
    (∀ chunk ∈ (normaliseEvent header parse state event).2,
        chunk.usage = none) ∧
      (reportedUsage parse event = none →
        (normaliseEvent header parse state event).1.usage = state.usage) := by
  unfold normaliseEvent reportedUsage
  dsimp only
  by_cases isSkipped : event.data = "" ∨ event.data = "[DONE]"
  · simp [isSkipped]
  · rw [if_neg isSkipped, if_neg isSkipped]
    split_ifs with isRecord isEnd isEnd
    · refine ⟨usage_of_mem_normaliseFrame header state _ _, fun notReported => ?_⟩
      rw [usage_normaliseFrame, notReported]
      exact if_neg fun reported => reported.2.ne' totalTokens_readUsage_none
    · refine ⟨usage_of_mem_normaliseFrame header state _ _, fun _ => ?_⟩
      rw [usage_normaliseFrame]
      exact if_neg fun reported => isEnd reported.1
    · exact ⟨by simp, fun _ => rfl⟩
    · exact ⟨by simp, fun _ => rfl⟩

end Usage

end Cohere
end Providers
end AiGateway
