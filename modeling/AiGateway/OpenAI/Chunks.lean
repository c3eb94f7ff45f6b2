import AiGateway.Foundations.Generator
import AiGateway.OpenAI.Types

/-!
# Stream events and chunks

The events of a server-sent stream and the OpenAI chunks that the adapters make
of them. Counts of tokens and indices are rationals, as an upstream may send any
number for them.
-/

namespace AiGateway
namespace OpenAI

open Foundations (Decimal Json)

/-- A parsed event of a server-sent stream. -/
structure SSEEvent where
  event : Option String
  data : String
  deriving DecidableEq, Repr

/-- `CompletionUsage`. -/
structure CompletionUsage where
  promptTokens : ℚ
  completionTokens : ℚ
  totalTokens : ℚ
  deriving DecidableEq

/-- The usage that an adapter starts from. -/
def CompletionUsage.zero : CompletionUsage where
  promptTokens := 0
  completionTokens := 0
  totalTokens := 0

inductive FinishReason
  | stop
  | length
  | toolCalls
  | contentFilter
  deriving DecidableEq, Repr

/-- `ToolCallDelta`; its type, when there is one, is `function`. -/
structure ToolCallDelta where
  index : ℚ
  id : Option String := none
  hasType : Bool := false
  name : Option String := none
  arguments : Option String := none
  deriving DecidableEq

/-- `ChatCompletionChunkDelta`; its role, when there is one, is `assistant`. -/
structure ChunkDelta where
  hasRole : Bool := false
  content : Option String := none
  toolCalls : Option (List ToolCallDelta) := none
  deriving DecidableEq

/-- `ChatCompletionChunkChoice`. -/
structure ChunkChoice where
  index : ℚ
  delta : ChunkDelta
  finishReason : Option FinishReason
  deriving DecidableEq

/-- `ChatCompletionChunk`. -/
structure ChatCompletionChunk where
  id : String
  created : Nat
  model : String
  choices : List ChunkChoice
  usage : Option CompletionUsage := none
  deriving DecidableEq

/-- What the chunks of one stream have in common. -/
structure StreamHeader where
  id : String
  created : Nat
  model : String
  deriving DecidableEq

section Construction

variable (header : StreamHeader)

/-- A chunk with one choice. -/
def makeChunk
    (delta : ChunkDelta)
    (finishReason : Option FinishReason := none) : ChatCompletionChunk where
  id := header.id
  created := header.created
  model := header.model
  choices := [{ index := 0, delta := delta, finishReason := finishReason }]

/-- `makeRoleChunk`. -/
def makeRoleChunk : ChatCompletionChunk :=
  makeChunk header { hasRole := true }

/-- `makeContentChunk`. -/
def makeContentChunk (content : String) : ChatCompletionChunk :=
  makeChunk header { content := some content }

/-- `makeToolCallChunk`. -/
def makeToolCallChunk (toolCall : ToolCallDelta) : ChatCompletionChunk :=
  makeChunk header { toolCalls := some [toolCall] }

/-- `makeFinishChunk`. -/
def makeFinishChunk (finishReason : FinishReason) : ChatCompletionChunk :=
  makeChunk header {} (some finishReason)

/-- `makeUsageChunk`. -/
def makeUsageChunk (usage : CompletionUsage) : ChatCompletionChunk where
  id := header.id
  created := header.created
  model := header.model
  choices := []
  usage := some usage

/-- Only a usage chunk carries usage. -/
@[simp] theorem usage_makeChunk
    (delta : ChunkDelta)
    (finishReason : Option FinishReason) :
    (makeChunk header delta finishReason).usage = none := rfl

end Construction

/-- `readNumber(value)`. -/
def readNumber (value : Option Json) : Option ℚ :=
  (value.bind Json.asNumber).map Decimal.value

end OpenAI
end AiGateway
