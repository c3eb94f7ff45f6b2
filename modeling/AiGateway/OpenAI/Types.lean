import AiGateway.Foundations.Json
import Mathlib.Data.Rat.Defs

/-!
# The OpenAI wire types

The chat requests that pass the schema of the gateway, with the JSON that a
message is made of. An optional field is an `Option`; a field that may also be
`null` is an `Option` of an `Option`. Numbers of a request are decimals.
-/

namespace AiGateway
namespace OpenAI

open Foundations (Decimal Json)

section Content

/-- The `detail` of an image part. -/
inductive ImageDetail
  | auto
  | low
  | high
  deriving DecidableEq, Repr

/-- A part of the content of a message. -/
inductive ContentPart
  | text (text : String)
  | imageUrl (url : String) (detail : Option ImageDetail)
  deriving DecidableEq, Repr

/-- `messageContentSchema`. -/
inductive MessageContent
  | string (text : String)
  | parts (parts : List ContentPart)
  deriving DecidableEq, Repr

/-- Content whose parts are all texts. -/
inductive TextContent
  | string (text : String)
  | parts (texts : List String)
  deriving DecidableEq, Repr

/-- Text content as message content. -/
def TextContent.toContent : TextContent → MessageContent
  | .string text => .string text
  | .parts texts => .parts (texts.map .text)

end Content

section Messages

/-- `functionCallSchema`; the arguments are the text of a JSON value. -/
structure FunctionCall where
  name : String
  arguments : String
  deriving DecidableEq, Repr

/-- `toolCallSchema`. -/
structure ToolCall where
  id : String
  function : FunctionCall
  deriving DecidableEq, Repr

/-- `chatMessageSchema`. -/
inductive ChatMessage
  | system (content : TextContent) (name : Option String)
  | user (content : MessageContent) (name : Option String)
  | assistant
      (content : Option (Option TextContent))
      (name : Option String)
      (toolCalls : Option (List ToolCall))
  | tool (content : TextContent) (toolCallId : String)
  deriving DecidableEq, Repr

/-- `message.content`, where `undefined` and `null` are not told apart. -/
def ChatMessage.content : ChatMessage → Option MessageContent
  | .system content _ => some content.toContent
  | .user content _ => some content
  | .assistant content _ _ => content.join.map TextContent.toContent
  | .tool content _ => some content.toContent

end Messages

section Requests

/-- `toolDefinitionSchema`; the parameters are an object. -/
structure ToolDefinition where
  name : String
  description : Option String
  parameters : Option (List (String × Json))

/-- `toolChoiceSchema`. -/
inductive ToolChoice
  | none
  | auto
  | required
  | function (name : String)
  deriving DecidableEq, Repr

/-- The `stop` field: one sequence or a list. -/
inductive Stop
  | string (sequence : String)
  | list (sequences : List String)
  deriving DecidableEq, Repr

/-- `typeof stop === 'string' ? [stop] : stop`. -/
def Stop.toList : Stop → List String
  | .string sequence => [sequence]
  | .list sequences => sequences

/-- A request that passed `chatCompletionRequestSchema`. -/
structure ChatCompletionRequest where
  model : String
  messages : List ChatMessage
  temperature : Option Decimal := none
  topP : Option Decimal := none
  n : Option Decimal := none
  stream : Option Bool := none
  /-- `stream_options`, with its optional `include_usage`. -/
  streamOptions : Option (Option Bool) := none
  stop : Option Stop := none
  maxTokens : Option Decimal := none
  maxCompletionTokens : Option Decimal := none
  presencePenalty : Option Decimal := none
  frequencyPenalty : Option Decimal := none
  /-- An object; its values are numbers. -/
  logitBias : Option (List (String × Json)) := none
  user : Option String := none
  seed : Option Decimal := none
  tools : Option (List ToolDefinition) := none
  toolChoice : Option ToolChoice := none
  /-- An object with a `type`, passed through as it is. -/
  responseFormat : Option (List (String × Json)) := none

/-- `request.stream_options?.include_usage === true`. -/
def ChatCompletionRequest.includeUsage (request : ChatCompletionRequest) :
    Bool :=
  request.streamOptions.join = some true

end Requests

section ToJson

/-- An entry of an object for an optional field. -/
def optionalEntry (key : String) (value : Option Json) :
    List (String × Json) :=
  (value.map fun value => (key, value)).toList

def ImageDetail.toJson : ImageDetail → Json
  | .auto => .string "auto"
  | .low => .string "low"
  | .high => .string "high"

def ContentPart.toJson : ContentPart → Json
  | .text words => .object [("type", .string "text"), ("text", .string words)]
  | .imageUrl url detail =>
      .object
        [("type", .string "image_url"),
          ("image_url", .object
            (("url", .string url) ::
              optionalEntry "detail" (detail.map ImageDetail.toJson)))]

def MessageContent.toJson : MessageContent → Json
  | .string text => .string text
  | .parts list => .array (list.map ContentPart.toJson)

def TextContent.toJson (content : TextContent) : Json :=
  content.toContent.toJson

def FunctionCall.toJson (call : FunctionCall) : Json :=
  .object [("name", .string call.name), ("arguments", .string call.arguments)]

def ToolCall.toJson (call : ToolCall) : Json :=
  .object
    [("id", .string call.id), ("type", .string "function"),
      ("function", call.function.toJson)]

/-- The properties of a parsed message. -/
def ChatMessage.entries : ChatMessage → List (String × Json)
  | .system content name =>
      ("role", .string "system") :: ("content", content.toJson) ::
        optionalEntry "name" (name.map .string)
  | .user content name =>
      ("role", .string "user") :: ("content", content.toJson) ::
        optionalEntry "name" (name.map .string)
  | .assistant content name toolCalls =>
      ("role", .string "assistant") ::
        (optionalEntry "content"
            (content.map fun content =>
              (content.map TextContent.toJson).getD .null) ++
          optionalEntry "name" (name.map .string) ++
          optionalEntry "tool_calls"
            (toolCalls.map fun calls => .array (calls.map ToolCall.toJson)))
  | .tool content toolCallId =>
      [("role", .string "tool"), ("content", content.toJson),
        ("tool_call_id", .string toolCallId)]

def ChatMessage.toJson (message : ChatMessage) : Json :=
  .object message.entries

def Stop.toJson : Stop → Json
  | .string sequence => .string sequence
  | .list sequences => .array (sequences.map .string)

end ToJson

end OpenAI
end AiGateway
