import AiGateway.OpenAI.Types

/-!
# What the adapters share

The configuration of a provider, and the helpers of which the Anthropic, Gemini
and Cohere adapters each have their own copy.
-/

namespace AiGateway
namespace Providers

open Foundations (Decimal Json)
open OpenAI

section Configuration

/-- The part of `ProviderModelInfo` that requests and costs are made from. -/
structure ProviderModelInfo where
  maxOutputTokens : Option Decimal
  /-- USD for 1000 input tokens. -/
  inputPricePer1k : Option ℚ
  /-- USD for 1000 output tokens. -/
  outputPricePer1k : Option ℚ

/-- The part of `ProviderInstanceConfig` that the adapters read. -/
structure ProviderInstanceConfig where
  id : String
  name : String
  /-- The models of the provider under their public names. -/
  models : List (String × ProviderModelInfo)

namespace ProviderInstanceConfig

/-- `getModel(modelId)`. -/
def getModel (config : ProviderInstanceConfig) (modelId : String) :
    Option ProviderModelInfo :=
  config.models.lookup modelId

/-- `getModel(modelId)?.maxOutputTokens`. -/
def maxOutputTokens (config : ProviderInstanceConfig) (modelId : String) :
    Option Decimal :=
  (config.getModel modelId).bind ProviderModelInfo.maxOutputTokens

end ProviderInstanceConfig

/-- `DEFAULT_MAX_TOKENS`. -/
def defaultMaxTokens : Decimal :=
  { negative := false, digits := 4096, exponent := 0, canonical := by decide }

/-- `request.max_completion_tokens ?? request.max_tokens`. -/
def requestedTokens (request : ChatCompletionRequest) : Option Decimal :=
  request.maxCompletionTokens <|> request.maxTokens

end Configuration

section Content

/-- `flattenText(content)`. -/
def flattenText : Option MessageContent → String
  | none => ""
  | some (.string text) => text
  | some (.parts parts) =>
      String.join (parts.filterMap fun
        | .text text => some text
        | .imageUrl _ _ => none)

/-- A dot of a regular expression matches any character but these. -/
def isLineTerminator (char : Char) : Bool :=
  char = '\n' || char = '\r' || char = '\u2028' || char = '\u2029'

/-- The media type and the data of a `data:` URL, if `DATA_URL_RE` matches. -/
def matchDataUrl (url : String) : Option (String × String) :=
  if "data:".toList.isPrefixOf url.toList then
    let rest := url.toList.drop "data:".length
    let media := rest.takeWhile (· ≠ ';')
    let after := rest.dropWhile (· ≠ ';')
    let data := after.drop ";base64,".length
    if media ≠ [] ∧ ";base64,".toList.isPrefixOf after ∧ data ≠ [] ∧
        data.all (!isLineTerminator ·) then
      some (String.ofList media, String.ofList data)
    else
      none
  else
    none

/-- `safeJsonParse(value)`, for a parser that may reject. -/
def safeJsonParse (parse : String → Option Json) (value : String) : Json :=
  (parse value).getD (.object [])

end Content

section Turns

/-- Consecutive messages of one role. -/
structure Turn (ρ β : Type) where
  role : ρ
  content : List β

/-- `push(role, blocks)`: extend the last turn if it has the same role. -/
def push
    [DecidableEq ρ]
    (turns : List (Turn ρ β))
    (role : ρ)
    (blocks : List β) : List (Turn ρ β) :=
  if blocks.isEmpty then
    turns
  else
    match turns.getLast? with
    | some last =>
        if last.role = role then
          turns.dropLast ++ [{ last with content := last.content ++ blocks }]
        else
          turns ++ [{ role := role, content := blocks }]
    | none => turns ++ [{ role := role, content := blocks }]

end Turns

example : matchDataUrl "data:image/png;base64,AAAA" =
    some ("image/png", "AAAA") := by decide

end Providers
end AiGateway
