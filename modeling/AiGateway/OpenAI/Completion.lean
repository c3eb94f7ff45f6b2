import AiGateway.OpenAI.CompleteStream

/-!
# Completions

A chat completion as one response, and a message that a client puts together
from the chunks of a stream: texts and the arguments of tool calls are appended,
and the deltas of a tool call are told apart by its index.
-/

namespace AiGateway
namespace OpenAI

/-- `ChatCompletionResponse`, with one choice. -/
structure ChatCompletion where
  id : String
  created : Nat
  model : String
  content : Option String
  /-- No tool calls means that the field is absent. -/
  toolCalls : List ToolCall
  finishReason : FinishReason
  usage : CompletionUsage
  deriving DecidableEq

section Accumulation

/-- A tool call that is put together from its deltas. -/
structure AccumulatedCall where
  id : Option String := none
  name : Option String := none
  arguments : String := ""
  deriving DecidableEq

/-- One more delta of a tool call. -/
def AccumulatedCall.extend
    (call : AccumulatedCall)
    (delta : ToolCallDelta) : AccumulatedCall where
  id := delta.id <|> call.id
  name := delta.name <|> call.name
  arguments := call.arguments ++ delta.arguments.getD ""

/-- Add a delta to the tool calls, which are listed by their indices. -/
def mergeToolCall :
    List (ℚ × AccumulatedCall) → ToolCallDelta → List (ℚ × AccumulatedCall)
  | [], delta => [(delta.index, AccumulatedCall.extend {} delta)]
  | (index, call) :: calls, delta =>
      if index < delta.index then
        (index, call) :: mergeToolCall calls delta
      else if index = delta.index then
        (index, call.extend delta) :: calls
      else
        (delta.index, AccumulatedCall.extend {} delta) :: (index, call) :: calls

/-- A message that is put together from chunks. -/
structure Accumulated where
  text : String := ""
  toolCalls : List (ℚ × AccumulatedCall) := []
  finishReason : Option FinishReason := none
  usage : Option CompletionUsage := none
  deriving DecidableEq

namespace Accumulated

/-- One more choice of a chunk. -/
def addChoice (message : Accumulated) (choice : ChunkChoice) : Accumulated :=
  { message with
    text := message.text ++ choice.delta.content.getD ""
    toolCalls :=
      (choice.delta.toolCalls.getD []).foldl mergeToolCall message.toolCalls
    finishReason := choice.finishReason <|> message.finishReason }

/-- One more chunk. -/
def add (message : Accumulated) (chunk : ChatCompletionChunk) : Accumulated :=
  let message := chunk.choices.foldl addChoice message
  { message with usage := chunk.usage <|> message.usage }

/-- Chunks, one after the other. -/
def addAll (message : Accumulated) (chunks : List ChatCompletionChunk) :
    Accumulated :=
  chunks.foldl add message

variable (message : Accumulated) (header : StreamHeader)

@[simp] theorem addAll_nil : message.addAll [] = message := rfl

@[simp] theorem addAll_cons
    (chunk : ChatCompletionChunk)
    (chunks : List ChatCompletionChunk) :
    message.addAll (chunk :: chunks) = (message.add chunk).addAll chunks := rfl

@[simp] theorem addAll_append (chunks later : List ChatCompletionChunk) :
    message.addAll (chunks ++ later) = (message.addAll chunks).addAll later :=
  List.foldl_append

@[simp] theorem add_makeRoleChunk :
    message.add (makeRoleChunk header) = message := by
  simp [add, makeRoleChunk, makeChunk, addChoice]

@[simp] theorem add_makeContentChunk (content : String) :
    message.add (makeContentChunk header content) =
      { message with text := message.text ++ content } := by
  simp [add, makeContentChunk, makeChunk, addChoice]

@[simp] theorem add_makeToolCallChunk (delta : ToolCallDelta) :
    message.add (makeToolCallChunk header delta) =
      { message with toolCalls := mergeToolCall message.toolCalls delta } := by
  simp [add, makeToolCallChunk, makeChunk, addChoice]

@[simp] theorem add_makeFinishChunk (finishReason : FinishReason) :
    message.add (makeFinishChunk header finishReason) =
      { message with finishReason := some finishReason } := by
  simp [add, makeFinishChunk, makeChunk, addChoice]

@[simp] theorem add_makeUsageChunk (usage : CompletionUsage) :
    message.add (makeUsageChunk header usage) =
      { message with usage := some usage } := by
  simp [add, makeUsageChunk]

/-- What the closing chunks add. -/
theorem addAll_closingChunks
    (wantUsage : Bool)
    (finishReason : FinishReason)
    (usage : CompletionUsage) :
    message.addAll (closingChunks header wantUsage finishReason usage) =
      { message with
        finishReason := some finishReason
        usage := if wantUsage then some usage else message.usage } := by
  cases wantUsage <;> simp [closingChunks]

end Accumulated

/-- What a client puts together from the chunks of a stream. -/
def accumulate (chunks : List ChatCompletionChunk) : Accumulated :=
  Accumulated.addAll {} chunks

end Accumulation

section Numbering

/-- The indices of some tool calls are the first numbers, in order. -/
def Numbered (count : Nat) (calls : List (ℚ × AccumulatedCall)) : Prop :=
  calls.map Prod.fst = (List.range count).map Nat.cast

variable
  {count : Nat}
  {calls : List (ℚ × AccumulatedCall)}
  {delta : ToolCallDelta}

theorem Numbered.nil : Numbered 0 [] := rfl

theorem Numbered.append_singleton
    (numbered : Numbered count calls)
    (call : AccumulatedCall) :
    Numbered (count + 1) (calls ++ [((count : ℚ), call)]) := by
  rw [Numbered, List.map_append, numbered, List.range_succ, List.map_append]
  rfl

theorem Numbered.lt
    (numbered : Numbered count calls)
    {entry : ℚ × AccumulatedCall}
    (isEntry : entry ∈ calls) : entry.1 < count := by
  have isIndex := List.mem_map_of_mem (f := Prod.fst) isEntry
  rw [numbered, List.mem_map] at isIndex
  obtain ⟨index, isLess, indexEq⟩ := isIndex
  rw [← indexEq]
  exact Nat.cast_lt.2 (List.mem_range.1 isLess)

/-- A delta passes the tool calls with smaller indices. -/
theorem mergeToolCall_append
    (rest : List (ℚ × AccumulatedCall))
    (areLess : ∀ entry ∈ calls, entry.1 < delta.index) :
    mergeToolCall (calls ++ rest) delta = calls ++ mergeToolCall rest delta := by
  induction calls with
  | nil => rfl
  | cons entry calls inductionHypothesis =>
      obtain ⟨isLess, areLater⟩ := List.forall_mem_cons.1 areLess
      rw [List.cons_append, mergeToolCall, if_pos isLess,
        inductionHypothesis areLater]
      rfl

/-- A delta with the next index starts a tool call. -/
theorem mergeToolCall_next
    (numbered : Numbered count calls)
    (isNext : delta.index = count) :
    mergeToolCall calls delta =
      calls ++ [((count : ℚ), AccumulatedCall.extend {} delta)] := by
  have areLess : ∀ entry ∈ calls, entry.1 < delta.index := fun entry isEntry => by
    rw [isNext]
    exact numbered.lt isEntry
  have merged := mergeToolCall_append [] areLess
  rw [List.append_nil] at merged
  rw [merged, mergeToolCall, isNext]

/-- A delta with the last index extends the last tool call. -/
theorem mergeToolCall_last
    (numbered : Numbered count calls)
    (call : AccumulatedCall)
    (isLast : delta.index = count) :
    mergeToolCall (calls ++ [((count : ℚ), call)]) delta =
      calls ++ [((count : ℚ), call.extend delta)] := by
  have areLess : ∀ entry ∈ calls, entry.1 < delta.index := fun entry isEntry => by
    rw [isLast]
    exact numbered.lt isEntry
  rw [mergeToolCall_append _ areLess, mergeToolCall, isLast,
    if_neg (lt_irrefl _), if_pos rfl]

end Numbering

end OpenAI
end AiGateway
