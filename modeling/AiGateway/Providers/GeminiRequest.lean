import AiGateway.Providers.Config

/-!
# Requests to Gemini

System messages become the parts of a system instruction, the other messages
become turns of the user and the model. A tool message names the function it
answers, which is looked up among the calls of the assistant messages.
-/

namespace AiGateway
namespace Providers
namespace Gemini

open Foundations (Decimal Json)
open OpenAI

/-- `GeminiPart`. -/
inductive Part
  | text (text : String)
  | inlineData (mimeType data : String)
  | functionCall (name : String) (args : Json)
  /-- The response is an object with one text, its `content`. -/
  | functionResponse (name content : String)

inductive Role
  | user
  | model
  deriving DecidableEq

/-- The `generationConfig` of the request body. -/
structure GenerationConfig where
  temperature : Option Decimal
  topP : Option Decimal
  maxOutputTokens : Decimal
  stopSequences : Option (List String)
  deriving DecidableEq

/-- A `functionDeclaration` of the request body. -/
structure FunctionDeclaration where
  name : String
  description : Option String
  parameters : Option (List (String × Json))

inductive CallingMode
  | auto
  | any
  | none
  deriving DecidableEq

/-- The `functionCallingConfig` of the request body. -/
structure ToolConfig where
  mode : CallingMode
  allowedFunctionNames : Option (List String) := Option.none
  deriving DecidableEq

/-- `GeminiRequestBody`. -/
structure RequestBody where
  contents : List (Turn Role Part)
  systemInstruction : Option (List Part)
  generationConfig : GenerationConfig
  /-- The declarations of the one tool. -/
  tools : Option (List FunctionDeclaration)
  toolConfig : Option ToolConfig

/-- `partToGeminiPart(part)`. -/
def partToGeminiPart : ContentPart → Part
  | .text text => .text text
  | .imageUrl url _ =>
      match matchDataUrl url with
      | some (media, data) => .inlineData media data
      | none => .text ("[image] " ++ url)

/-- `contentToParts(content)`. -/
def contentToParts : MessageContent → List Part
  | .string text => if text = "" then [] else [.text text]
  | .parts parts => parts.map partToGeminiPart

/-- `textParts(content)`. -/
def textParts : TextContent → List Part
  | .string text => if text = "" then [] else [.text text]
  | .parts texts => texts.map .text

/-- `translateToolConfig(choice)`. -/
def translateToolConfig : Option ToolChoice → Option ToolConfig
  | none => none
  | some .none => some { mode := .none }
  | some .auto => some { mode := .auto }
  | some .required => some { mode := .any }
  | some (.function name) =>
      some { mode := .any, allowedFunctionNames := some [name] }

/-- The calls that a message adds to `toolNameById`. -/
def toolNames : ChatMessage → List (String × String)
  | .assistant _ _ toolCalls =>
      (toolCalls.getD []).map fun call => (call.id, call.function.name)
  | _ => []

/-- `toolNameById.get(id) ?? id`; a later call with the same identifier
overrides an earlier one. -/
def toolName (messages : List ChatMessage) (id : String) : String :=
  ((messages.flatMap toolNames).reverse.lookup id).getD id

section Translation

-- `JSON.parse`, which may reject
variable (parse : String → Option Json)

/-- `asRecord(safeJsonParse(text))`. -/
def parseArguments (text : String) : Json :=
  let value := safeJsonParse parse text
  if value.isRecord then value else .object []

/-- The `functionCall` part of a tool call. -/
def functionCallPart (call : ToolCall) : Part :=
  .functionCall call.function.name (parseArguments parse call.function.arguments)

/-- The turns after one more message. -/
def translateMessage
    (messages : List ChatMessage)
    (turns : List (Turn Role Part)) : ChatMessage → List (Turn Role Part)
  | .system _ _ => turns
  | .user content _ => push turns .user (contentToParts content)
  | .assistant content _ toolCalls =>
      push turns .model
        ((content.join.map textParts).getD [] ++
          (toolCalls.getD []).map (functionCallPart parse))
  | .tool content toolCallId =>
      push turns .user
        [.functionResponse (toolName messages toolCallId)
          (flattenText (some content.toContent))]

/-- The part of a system message. -/
def systemPart : ChatMessage → Option Part
  | .system content _ => some (.text (flattenText (some content.toContent)))
  | _ => none

/-- `buildGenerationConfig(request)`; it always has a key. -/
def buildGenerationConfig
    (config : ProviderInstanceConfig)
    (request : ChatCompletionRequest) : GenerationConfig where
  temperature := request.temperature
  topP := request.topP
  maxOutputTokens :=
    (requestedTokens request <|> config.maxOutputTokens request.model).getD
      defaultMaxTokens
  stopSequences := request.stop.map Stop.toList

def translateTool (tool : ToolDefinition) : FunctionDeclaration where
  name := tool.name
  description := tool.description
  parameters := tool.parameters

/-- `GeminiProvider.translateRequest`. -/
def translateRequest
    (config : ProviderInstanceConfig)
    (request : ChatCompletionRequest) : RequestBody :=
  let systemParts := request.messages.filterMap systemPart
  let tools := request.tools.getD []
  { contents := request.messages.foldl (translateMessage parse request.messages) []
    systemInstruction := if systemParts.isEmpty then none else some systemParts
    generationConfig := buildGenerationConfig config request
    tools := if tools.isEmpty then none else some (tools.map translateTool)
    toolConfig :=
      if tools.isEmpty then none else translateToolConfig request.toolChoice }

end Translation

end Gemini
end Providers
end AiGateway
