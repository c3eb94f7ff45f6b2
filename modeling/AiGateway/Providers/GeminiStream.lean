import AiGateway.Errors
import AiGateway.OpenAI.Chunks
import AiGateway.Providers.Config

/-!
# Streams from Gemini

Each frame is a partial response. The adapter keeps the last finish reason and
the last usage with a positive total, and closes the stream with one finish
chunk and, if it is wanted, one usage chunk.
-/

namespace AiGateway
namespace Providers
namespace Gemini

open Foundations (Decimal Json Control Transducer Yields)
open OpenAI

/-- `readUsage(usageMetadata)`. -/
def readUsage (usageMetadata : Option Json) : CompletionUsage :=
  match usageMetadata.filter Json.isRecord with
  | none => .zero
  | some metadata =>
      let prompt := (readNumber (metadata.get "promptTokenCount")).getD 0
      let completion :=
        (readNumber (metadata.get "candidatesTokenCount")).getD 0 +
          (readNumber (metadata.get "thoughtsTokenCount")).getD 0
      { promptTokens := prompt
        completionTokens := completion
        totalTokens :=
          (readNumber (metadata.get "totalTokenCount")).getD
            (prompt + completion) }

/-- `mapFinishReason(reason, sawToolUse)`. -/
def mapFinishReason (reason : Option String) (sawToolUse : Bool) :
    FinishReason :=
  if sawToolUse then .toolCalls
  else
    match reason with
    | some "MAX_TOKENS" => .length
    | some "SAFETY" => .contentFilter
    | some "RECITATION" => .contentFilter
    | _ => .stop

/-- The variables of `normaliseStream`. -/
structure StreamState where
  roleEmitted : Bool := false
  sawToolUse : Bool := false
  toolIndex : Nat := 0
  finishReason : Option String := none
  usage : CompletionUsage := .zero
  deriving DecidableEq

section Normalise

variable
  (header : StreamHeader)
  -- the identifier of the tool call with a given index
  (newToolCallId : Nat → String)

/-- The chunk that opens the message, if it was not sent yet. -/
def emitRole (state : StreamState) : List ChatCompletionChunk :=
  if state.roleEmitted then [] else [makeRoleChunk header]

/-- One part of a frame. -/
def normalisePart (state : StreamState) (part : Json) :
    StreamState × List ChatCompletionChunk :=
  if part.isRecord then
    let opened := { state with roleEmitted := true }
    match part.getString "text", part.getRecord "functionCall" with
    | some text, _ =>
        (opened, emitRole header state ++ [makeContentChunk header text])
    | none, some call =>
        ({ opened with
            sawToolUse := true
            toolIndex := state.toolIndex + 1 },
          emitRole header state ++
            [makeToolCallChunk header
              { index := state.toolIndex
                id := some (newToolCallId state.toolIndex)
                hasType := true
                name :=
                  some ((call.getString "name").getD
                    ("tool_" ++ toString state.toolIndex))
                arguments := some (call.getOr "args" (.object [])).stringify }])
    | none, none => (opened, emitRole header state)
  else
    (state, [])

/-- The parts of a frame, in order. -/
def normaliseParts (state : StreamState) :
    List Json → StreamState × List ChatCompletionChunk
  | [] => (state, [])
  | part :: parts =>
      let (state, chunks) := normalisePart header newToolCallId state part
      let (state, later) := normaliseParts state parts
      (state, chunks ++ later)

/-- One frame that is a record. -/
def normaliseFrame (state : StreamState) (frame : Json) :
    StreamState × List ChatCompletionChunk :=
  let usage := readUsage (frame.get "usageMetadata")
  let state := if 0 < usage.totalTokens then { state with usage := usage } else state
  match ((frame.get "candidates").bind fun list => list.asArray.head?).filter
      Json.isRecord with
  | none => (state, [])
  | some candidate =>
      let state :=
        match candidate.getString "finishReason" with
        | some reason => { state with finishReason := some reason }
        | none => state
      let parts :=
        ((candidate.getRecord "content").bind (Json.get "parts")).elim []
          Json.asArray
      normaliseParts header newToolCallId state parts

-- `JSON.parse`, which may reject
variable (parse : String → Option Json)

/-- The body of the loop over the events. -/
def normaliseEvent (state : StreamState) (event : SSEEvent) :
    StreamState × List ChatCompletionChunk :=
  if event.data = "" then
    (state, [])
  else
    let frame := safeJsonParse parse event.data
    if frame.isRecord then normaliseFrame header newToolCallId state frame
    else (state, [])

/-- `GeminiProvider.normaliseStream`. -/
def normaliser (wantUsage : Bool) :
    Transducer StreamState SSEEvent ChatCompletionChunk Thrown where
  step state event :=
    let (state, chunks) := normaliseEvent header newToolCallId parse state event
    (state, chunks, .proceed)
  finish state :=
    emitRole header state ++
      [makeFinishChunk header
        (mapFinishReason state.finishReason state.sawToolUse)] ++
      if wantUsage then [makeUsageChunk header state.usage] else []

/-- The usage that an event reports. -/
def reportedUsage (event : SSEEvent) : Option Json :=
  if event.data = "" then none
  else (safeJsonParse parse event.data).get "usageMetadata"

end Normalise

section Usage

variable
  (header : StreamHeader)
  (newToolCallId : Nat → String)
  (parse : String → Option Json)

theorem usage_of_mem_emitRole
    {state : StreamState}
    {chunk : ChatCompletionChunk}
    (isChunk : chunk ∈ emitRole header state) : chunk.usage = none := by
  unfold emitRole at isChunk
  split_ifs at isChunk
  · cases isChunk
  · rw [List.mem_singleton.1 isChunk]
    rfl

/-- A part leaves the usage alone, and its chunks carry none. -/
theorem usage_normalisePart (state : StreamState) (part : Json) :
    (normalisePart header newToolCallId state part).1.usage = state.usage ∧
      ∀ chunk ∈ (normalisePart header newToolCallId state part).2,
        chunk.usage = none := by
  unfold normalisePart
  split_ifs
  · split
    · refine ⟨rfl, List.forall_mem_append.2
        ⟨fun _ => usage_of_mem_emitRole header, ?_⟩⟩
      simp [makeContentChunk]
    · refine ⟨rfl, List.forall_mem_append.2
        ⟨fun _ => usage_of_mem_emitRole header, ?_⟩⟩
      simp [makeToolCallChunk]
    · exact ⟨rfl, fun _ => usage_of_mem_emitRole header⟩
  · exact ⟨rfl, by simp⟩

theorem usage_normaliseParts (state : StreamState) (parts : List Json) :
    (normaliseParts header newToolCallId state parts).1.usage = state.usage ∧
      ∀ chunk ∈ (normaliseParts header newToolCallId state parts).2,
        chunk.usage = none := by
  induction parts generalizing state with
  | nil => exact ⟨rfl, by simp [normaliseParts]⟩
  | cons part parts inductionHypothesis =>
      obtain ⟨sameUsage, noUsage⟩ :=
        usage_normalisePart header newToolCallId state part
      obtain ⟨sameLater, noLater⟩ := inductionHypothesis
        (normalisePart header newToolCallId state part).1
      exact ⟨sameLater.trans sameUsage,
        List.forall_mem_append.2 ⟨noUsage, noLater⟩⟩

theorem usage_normaliseFrame (state : StreamState) (frame : Json) :
    (normaliseFrame header newToolCallId state frame).1.usage =
        (if 0 < (readUsage (frame.get "usageMetadata")).totalTokens then
          readUsage (frame.get "usageMetadata")
        else state.usage) ∧
      ∀ chunk ∈ (normaliseFrame header newToolCallId state frame).2,
        chunk.usage = none := by
  unfold normaliseFrame
  dsimp only
  split
  · exact ⟨by split_ifs <;> rfl, by simp⟩
  · obtain ⟨sameUsage, noUsage⟩ :=
      usage_normaliseParts header newToolCallId _ _
    refine ⟨sameUsage.trans ?_, noUsage⟩
    split <;> split_ifs <;> rfl

/-- The chunks of an event carry no usage, and only reported usage changes what
the adapter has kept. -/
theorem usage_normaliseEvent (state : StreamState) (event : SSEEvent) :
    (∀ chunk ∈ (normaliseEvent header newToolCallId parse state event).2,
        chunk.usage = none) ∧
      (reportedUsage parse event = none →
        (normaliseEvent header newToolCallId parse state event).1.usage =
          state.usage) := by
  unfold normaliseEvent reportedUsage
  dsimp only
  split_ifs
  · exact ⟨by simp, fun _ => rfl⟩
  · obtain ⟨usageEq, noUsage⟩ := usage_normaliseFrame header newToolCallId state
      (safeJsonParse parse event.data)
    refine ⟨noUsage, fun notReported => ?_⟩
    rw [usageEq, notReported]
    exact if_neg (lt_irrefl 0)
  · exact ⟨by simp, fun _ => rfl⟩

end Usage

end Gemini
end Providers
end AiGateway
