import AiGateway.Cache.KeyFields
import AiGateway.Providers.AnthropicRequest
import AiGateway.Providers.GeminiRequest
import AiGateway.Providers.CohereRequest

/-!
# The cache key and the upstream requests

A cached answer is given to every request with the same key, so requests with
the same key should be the same request upstream. They are, but for the limit on
the tokens: the key prefers `max_tokens` where the adapters prefer
`max_completion_tokens`. The main theorem says that this is the only difference.
-/

namespace AiGateway
namespace Cache

open Foundations (Decimal Json)
open OpenAI
open Providers

/-- What a request that may be cached has in common with all others. -/
structure Eligible (request : ChatCompletionRequest) : Prop where
  temperature : request.temperature = some 0
  noTools : request.tools.getD [] = []

theorem eligible_of_isEligible
    {cacheEnabled : Bool}
    {request : ChatCompletionRequest}
    (isEligible : isEligible cacheEnabled request = true) :
    Eligible request := by
  unfold Cache.isEligible at isEligible
  split_ifs at isEligible with _ temperature _ tools
  rw [Bool.not_eq_true, Bool.not_eq_false', List.isEmpty_iff] at tools
  exact ⟨not_not.1 temperature, tools⟩

/-- The request that the router sends to a provider. -/
def upstreamRequest
    (canonicalModel : String)
    (request : ChatCompletionRequest) : ChatCompletionRequest :=
  { request with model := canonicalModel }

@[simp] theorem requestedTokens_upstreamRequest
    (canonicalModel : String)
    (request : ChatCompletionRequest) :
    requestedTokens (upstreamRequest canonicalModel request) =
      requestedTokens request := rfl

section Bodies

variable
  {localeCompare : String → String → Ordering}
  {parse : String → Option Json}
  {config : ProviderInstanceConfig}
  {model : String}
  {first second : ChatCompletionRequest}
  (firstEligible : Eligible first)
  (secondEligible : Eligible second)
  (agree : AgreeOnKey localeCompare first second)

include agree

/-- Either both requests have a limit on the tokens or neither has. -/
theorem isSome_requestedTokens_eq :
    (requestedTokens first).isSome = (requestedTokens second).isSome := by
  have sameLimit := congrArg Option.isSome agree.maxTokens
  simpa [requestedTokens, Bool.or_comm] using sameLimit

/-- Limits that agree after the fallback to a default agree before it. -/
theorem requestedTokens_eq_iff (fallback : Option Decimal) (default : Decimal) :
    (requestedTokens first <|> fallback).getD default =
        (requestedTokens second <|> fallback).getD default ↔
      requestedTokens first = requestedTokens second := by
  have both := isSome_requestedTokens_eq agree
  cases firstLimit : requestedTokens first <;>
    cases secondLimit : requestedTokens second <;>
    simp_all

include firstEligible secondEligible

theorem anthropic_translateRequest_eq_iff :
    Anthropic.translateRequest parse config (upstreamRequest model first) false =
        Anthropic.translateRequest parse config (upstreamRequest model second)
          false ↔
      requestedTokens first = requestedTokens second := by
  rw [← requestedTokens_eq_iff agree (config.maxOutputTokens model)
    defaultMaxTokens]
  simp only [Anthropic.translateRequest, requestedTokens_upstreamRequest]
  simp [upstreamRequest, firstEligible.noTools, secondEligible.noTools,
    firstEligible.temperature, secondEligible.temperature, agree.messages,
    agree.topP, agree.stop]

theorem gemini_translateRequest_eq_iff :
    Gemini.translateRequest parse config (upstreamRequest model first) =
        Gemini.translateRequest parse config (upstreamRequest model second) ↔
      requestedTokens first = requestedTokens second := by
  rw [← requestedTokens_eq_iff agree (config.maxOutputTokens model)
    defaultMaxTokens]
  simp only [Gemini.translateRequest, Gemini.buildGenerationConfig,
    requestedTokens_upstreamRequest]
  simp [upstreamRequest, firstEligible.noTools, secondEligible.noTools,
    firstEligible.temperature, secondEligible.temperature, agree.messages,
    agree.topP, agree.stop]

theorem cohere_translateRequest_eq_iff :
    Cohere.translateRequest (upstreamRequest model first) false =
        Cohere.translateRequest (upstreamRequest model second) false ↔
      requestedTokens first = requestedTokens second := by
  simp only [Cohere.translateRequest, requestedTokens_upstreamRequest]
  simp [upstreamRequest, firstEligible.noTools, secondEligible.noTools,
    firstEligible.temperature, secondEligible.temperature, agree.messages,
    agree.topP, agree.stop]

end Bodies

/-- Requests that may be cached and have the same key are the same request
upstream, for each of the three adapters, exactly when they agree on the limit
that the adapters read. -/
theorem sameBodies_iff_requestedTokens_eq
    (localeCompare : String → String → Ordering)
    (parse : String → Option Json)
    (config : ProviderInstanceConfig)
    (cacheEnabled : Bool)
    (model : String)
    (first second : ChatCompletionRequest)
    (firstEligible : isEligible cacheEnabled first = true)
    (secondEligible : isEligible cacheEnabled second = true)
    (sameKey :
      canonicalKey localeCompare first = canonicalKey localeCompare second) :
    (Anthropic.translateRequest parse config (upstreamRequest model first) false =
        Anthropic.translateRequest parse config (upstreamRequest model second)
          false ↔
      requestedTokens first = requestedTokens second) ∧
    (Gemini.translateRequest parse config (upstreamRequest model first) =
        Gemini.translateRequest parse config (upstreamRequest model second) ↔
      requestedTokens first = requestedTokens second) ∧
    (Cohere.translateRequest (upstreamRequest model first) false =
        Cohere.translateRequest (upstreamRequest model second) false ↔
      requestedTokens first = requestedTokens second) := by
  have agree := agreeOnKey_of_canonicalKey_eq sameKey
  have firstFacts := eligible_of_isEligible firstEligible
  have secondFacts := eligible_of_isEligible secondEligible
  exact ⟨anthropic_translateRequest_eq_iff firstFacts secondFacts agree,
    gemini_translateRequest_eq_iff firstFacts secondFacts agree,
    cohere_translateRequest_eq_iff firstFacts secondFacts agree⟩

/-- A request that may be cached, with its two limits. -/
def limitedRequest
    (maxTokens maxCompletionTokens : Option Decimal) :
    ChatCompletionRequest where
  model := "command-r"
  messages := [.user (.string "Hello") none]
  temperature := some 0
  seed := some 1
  maxTokens := maxTokens
  maxCompletionTokens := maxCompletionTokens

/-- The old name of a limit and the new one are the same request. -/
theorem sameBodies_of_renamed_limit :
    Cohere.translateRequest
        (upstreamRequest "command-r" (limitedRequest (some 1) none)) false =
      Cohere.translateRequest
        (upstreamRequest "command-r" (limitedRequest none (some 1))) false :=
  (sameBodies_iff_requestedTokens_eq compare (fun _ => none)
    { id := "cohere", name := "Cohere", models := [] } true "command-r"
    (limitedRequest (some 1) none) (limitedRequest none (some 1))
    (by decide) (by decide) rfl).2.2.2 rfl

/-- With both limits given, the key has one and the bodies have the other. -/
theorem different_bodies_of_both_limits :
    let both := limitedRequest (some 1) (some (.ofDigit 2 (by decide)))
    let one := limitedRequest (some 1) none
    isEligible true both = true ∧ isEligible true one = true ∧
      (∀ localeCompare,
        canonicalKey localeCompare both = canonicalKey localeCompare one) ∧
      ∀ parse config,
        Anthropic.translateRequest parse config
            (upstreamRequest "command-r" both) false ≠
          Anthropic.translateRequest parse config
            (upstreamRequest "command-r" one) false ∧
        Gemini.translateRequest parse config (upstreamRequest "command-r" both) ≠
          Gemini.translateRequest parse config
            (upstreamRequest "command-r" one) ∧
        Cohere.translateRequest (upstreamRequest "command-r" both) false ≠
          Cohere.translateRequest (upstreamRequest "command-r" one) false := by
  refine ⟨by decide, by decide, fun _ => rfl, fun parse config => ⟨?_, ?_, ?_⟩⟩
  · intro sameBody
    have sameLimit : Decimal.ofDigit 2 (by decide) = (1 : Decimal) :=
      congrArg Anthropic.RequestBody.maxTokens sameBody
    exact absurd sameLimit (by decide)
  · intro sameBody
    have sameLimit : Decimal.ofDigit 2 (by decide) = (1 : Decimal) :=
      congrArg (fun body => body.generationConfig.maxOutputTokens) sameBody
    exact absurd sameLimit (by decide)
  · intro sameBody
    have sameLimit := congrArg Cohere.RequestBody.maxTokens sameBody
    exact absurd sameLimit (by decide)

end Cache
end AiGateway
