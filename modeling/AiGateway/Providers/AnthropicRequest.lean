import AiGateway.Providers.Config

/-!
# Requests to Anthropic

System messages become one text, the other messages become turns that alternate
between the user and the assistant, and a limit on the tokens is always sent.
-/

namespace AiGateway
namespace Providers
namespace Anthropic

open Foundations (Decimal Json)
open OpenAI

inductive ImageSource
  | base64 (mediaType data : String)
  | url (url : String)
  deriving DecidableEq

/-- `AnthropicContentBlock`. -/
inductive ContentBlock
  | text (text : String)
  | image (source : ImageSource)
  | toolUse (id name : String) (input : Json)
  | toolResult (toolUseId content : String)

inductive Role
  | user
  | assistant
  deriving DecidableEq

/-- A tool of the request body. -/
structure Tool where
  name : String
  description : Option String
  inputSchema : Json

/-- The `tool_choice` of the request body. -/
inductive BodyToolChoice
  | auto
  | any
  | tool (name : String)
  deriving DecidableEq

/-- `AnthropicRequestBody`. -/
structure RequestBody where
  model : String
  maxTokens : Decimal
  messages : List (Turn Role ContentBlock)
  system : Option String
  temperature : Option Decimal
  topP : Option Decimal
  stopSequences : Option (List String)
  stream : Option Bool
  tools : Option (List Tool)
  toolChoice : Option BodyToolChoice

/-- `partToBlock(part)`. -/
def partToBlock : ContentPart → ContentBlock
  | .text text => .text text
  | .imageUrl url _ =>
      match matchDataUrl url with
      | some (media, data) => .image (.base64 media data)
      | none => .image (.url url)

/-- `contentToBlocks(content)`. -/
def contentToBlocks : MessageContent → List ContentBlock
  | .string text => if text = "" then [] else [.text text]
  | .parts parts => parts.map partToBlock

/-- `textOnlyBlocks(content)`. -/
def textOnlyBlocks : TextContent → List ContentBlock
  | .string text => if text = "" then [] else [.text text]
  | .parts texts => texts.map .text

/-- `translateToolChoice(choice)`. -/
def translateToolChoice : Option ToolChoice → Option BodyToolChoice
  | none => none
  | some .none => none
  | some .auto => some .auto
  | some .required => some .any
  | some (.function name) => some (.tool name)

section Translation

-- `JSON.parse`, which may reject
variable (parse : String → Option Json)

/-- The `tool_use` block of a tool call. -/
def toolUseBlock (call : ToolCall) : ContentBlock :=
  .toolUse call.id call.function.name (safeJsonParse parse call.function.arguments)

/-- The turns after one more message. -/
def translateMessage
    (turns : List (Turn Role ContentBlock)) :
    ChatMessage → List (Turn Role ContentBlock)
  | .system _ _ => turns
  | .user content _ => push turns .user (contentToBlocks content)
  | .assistant content _ toolCalls =>
      push turns .assistant
        ((content.join.map textOnlyBlocks).getD [] ++
          (toolCalls.getD []).map (toolUseBlock parse))
  | .tool content toolCallId =>
      push turns .user
        [.toolResult toolCallId (flattenText (some content.toContent))]

/-- The text of a system message. -/
def systemText : ChatMessage → Option String
  | .system content _ => some (flattenText (some content.toContent))
  | _ => none

/-- `tools.map(...)`. -/
def translateTool (tool : ToolDefinition) : Tool where
  name := tool.name
  description := tool.description
  inputSchema :=
    .object (tool.parameters.getD [("type", .string "object")])

/-- `Math.min(1, temperature)`. -/
def capTemperature (temperature : Decimal) : Decimal :=
  if temperature.value ≤ (1 : Decimal).value then temperature else 1

/-- `AnthropicProvider.translateRequest`. -/
def translateRequest
    (config : ProviderInstanceConfig)
    (request : ChatCompletionRequest)
    (stream : Bool) : RequestBody :=
  let systemParts := request.messages.filterMap systemText
  let tools := request.tools.getD []
  let sendTools : Bool := !tools.isEmpty && request.toolChoice ≠ some .none
  { model := request.model
    maxTokens :=
      (requestedTokens request <|> config.maxOutputTokens request.model).getD
        defaultMaxTokens
    messages := request.messages.foldl (translateMessage parse) []
    system :=
      if systemParts.isEmpty then none
      else some ("\n\n".intercalate systemParts)
    temperature := request.temperature.map capTemperature
    topP := request.topP
    stopSequences := request.stop.map Stop.toList
    stream := if stream then some true else none
    tools := if sendTools then some (tools.map translateTool) else none
    toolChoice :=
      if sendTools then translateToolChoice request.toolChoice else none }

end Translation

end Anthropic
end Providers
end AiGateway
