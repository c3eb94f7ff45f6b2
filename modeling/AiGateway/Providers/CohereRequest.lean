import AiGateway.Providers.Config

/-!
# Requests to Cohere

Each message is translated by itself. A limit on the tokens is sent only if the
request has one.
-/

namespace AiGateway
namespace Providers
namespace Cohere

open Foundations (Decimal Json)
open OpenAI

inductive Part
  | text (text : String)
  | imageUrl (url : String)
  deriving DecidableEq

/-- What `contentToCohere` returns. -/
inductive Content
  | string (text : String)
  | parts (parts : List Part)
  deriving DecidableEq

/-- What `translateMessage` returns. -/
inductive Message
  | system (content : Content)
  | user (content : Content)
  /-- The content is one text block. -/
  | assistant (text : Option String) (toolCalls : Option (List ToolCall))
  | tool (toolCallId content : String)
  deriving DecidableEq

/-- The request body. -/
structure RequestBody where
  model : String
  messages : List Message
  stream : Bool
  temperature : Option Decimal
  p : Option Decimal
  maxTokens : Option Decimal
  stopSequences : Option (List String)
  /-- The functions of the tools. -/
  tools : Option (List ToolDefinition)
  toolChoice : Option String

/-- A part of the content. -/
def translatePart : ContentPart → Part
  | .text text => .text text
  | .imageUrl url _ => .imageUrl url

/-- `contentToCohere(content)`. -/
def contentToCohere : MessageContent → Content
  | .string text => .string text
  | .parts parts => .parts (parts.map translatePart)

/-- `translateToolChoice(choice)`. -/
def translateToolChoice : Option ToolChoice → Option String
  | none => none
  | some .auto => none
  | some .none => some "NONE"
  | some _ => some "REQUIRED"

/-- `translateMessage(message)`. -/
def translateMessage (message : ChatMessage) : Message :=
  match message with
  | .system content _ => .system (contentToCohere content.toContent)
  | .user content _ => .user (contentToCohere content)
  | .assistant _ _ toolCalls =>
      let text := flattenText message.content
      .assistant (if text = "" then none else some text)
        (toolCalls.filter fun calls => !calls.isEmpty)
  | .tool content toolCallId =>
      .tool toolCallId (flattenText (some content.toContent))

/-- `CohereProvider.translateRequest`. -/
def translateRequest
    (request : ChatCompletionRequest)
    (stream : Bool) : RequestBody :=
  let tools := request.tools.getD []
  { model := request.model
    messages := request.messages.map translateMessage
    stream := stream
    temperature := request.temperature
    p := request.topP
    maxTokens := requestedTokens request
    stopSequences := request.stop.map Stop.toList
    tools := if tools.isEmpty then none else some tools
    toolChoice :=
      if tools.isEmpty then none else translateToolChoice request.toolChoice }

end Cohere
end Providers
end AiGateway
