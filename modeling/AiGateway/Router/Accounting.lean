import AiGateway.Errors
import AiGateway.OpenAI.Chunks
import AiGateway.OpenAI.Tokens
import AiGateway.Providers.Config

/-!
# Streaming through the router

`prepareStream` returns a generator over the chunks of the committed provider.
It keeps a running estimate of the tokens until a chunk carries usage, which it
trusts from then on, and bills and logs the counts at the end. The chunk that the
failover loop fetched is treated as the chunks after it are: no usage has arrived
before it.
-/

namespace AiGateway
namespace Router

open Foundations (Ending Yields)
open OpenAI
open Providers (ProviderModelInfo)

section Chunks

/-- `Math.round(length / 4)`. -/
def roundedQuarter (length : Nat) : Nat := (length + 2) / 4

/-- The content of the first choice of a chunk. -/
def contentDelta (chunk : ChatCompletionChunk) : Option String :=
  chunk.choices.head?.bind fun choice => choice.delta.content

/-- `countDeltaTokens(chunk)`. -/
def countDeltaTokens (chunk : ChatCompletionChunk) : Nat :=
  match contentDelta chunk with
  | none => 0
  | some content =>
      if 0 < utf16Length content then
        max 1 (roundedQuarter (utf16Length content))
      else
        0

/-- `isUsageOnlyChunk(chunk)`. -/
def isUsageOnlyChunk (chunk : ChatCompletionChunk) : Bool :=
  chunk.choices.isEmpty && chunk.usage.isSome

/-- The token counts that the generator keeps. -/
structure Tally where
  promptTokens : ℚ
  completionTokens : ℚ
  usageFromStream : Bool
  deriving DecidableEq

/-- `applyUsage(chunk, ...)`. -/
def applyUsage (chunk : ChatCompletionChunk) (tally : Tally) : Tally :=
  match chunk.usage with
  | some usage =>
      { promptTokens := usage.promptTokens
        completionTokens := usage.completionTokens
        usageFromStream := true }
  | none => tally

/-- The counts after one more chunk. -/
def consume (tally : Tally) (chunk : ChatCompletionChunk) : Tally :=
  applyUsage chunk
    (if tally.usageFromStream then tally
    else
      { tally with
        completionTokens := tally.completionTokens + countDeltaTokens chunk })

end Chunks

section Generator

/-- `estimateCost(model, promptTokens, completionTokens)`. -/
def estimateCost
    (model : Option ProviderModelInfo)
    (promptTokens completionTokens : ℚ) : ℚ :=
  let inputPrice := (model.bind ProviderModelInfo.inputPricePer1k).getD 0
  let outputPrice := (model.bind ProviderModelInfo.outputPricePer1k).getD 0
  promptTokens / 1000 * inputPrice + completionTokens / 1000 * outputPrice

/-- The entry of the request log. -/
structure RequestLogEntry where
  apiKeyId : String
  providerId : String
  modelId : String
  promptTokens : ℚ
  completionTokens : ℚ
  totalTokens : ℚ
  costUsd : ℚ
  statusCode : Nat
  cacheHit : Bool := false
  failoverCount : Nat
  errorMessage : Option String
  deriving DecidableEq

/-- What the generator has from the call of `prepareStream`. -/
structure StreamContext where
  apiKeyId : String
  providerId : String
  canonicalModel : String
  modelInfo : Option ProviderModelInfo
  failoverCount : Nat
  clientWantsUsage : Bool
  /-- `estimatePromptTokens(...)`. -/
  promptEstimate : Nat

namespace StreamContext

variable (context : StreamContext)

/-- The counts before the first chunk. -/
def start : Tally where
  promptTokens := context.promptEstimate
  completionTokens := 0
  usageFromStream := false

/-- The entry that the `finally` block logs; its cost is charged to the key. The
metrics that are recorded before that accept every count that is not negative. -/
def settle (tally : Tally) (errored : Bool) : RequestLogEntry where
  apiKeyId := context.apiKeyId
  providerId := context.providerId
  modelId := context.canonicalModel
  promptTokens := tally.promptTokens
  completionTokens := tally.completionTokens
  totalTokens := tally.promptTokens + tally.completionTokens
  costUsd :=
    estimateCost context.modelInfo tally.promptTokens tally.completionTokens
  statusCode := if errored then 502 else 200
  failoverCount := context.failoverCount
  errorMessage := if errored then some "stream interrupted" else none

/-- Is a chunk passed on to the client? -/
def delivers (chunk : ChatCompletionChunk) : Bool :=
  context.clientWantsUsage || !isUsageOnlyChunk chunk

/-- Read a stream to its end: what the client gets, how the generator ends and
what is logged. -/
def drain (stream : Yields ChatCompletionChunk Thrown) :
    Yields ChatCompletionChunk Thrown × RequestLogEntry :=
  ({ items := stream.items.filter context.delivers
     ending := stream.ending },
    context.settle (stream.items.foldl consume context.start)
      (match stream.ending with
        | .finished => false
        | .threw _ => true))

end StreamContext

end Generator

section Estimate

/-- The tokens that a content delta is estimated at. -/
def estimateDelta (content : String) : Nat :=
  if content = "" then 0 else max 1 (roundedQuarter (utf16Length content))

theorem countDeltaTokens_eq (chunk : ChatCompletionChunk) :
    countDeltaTokens chunk = (contentDelta chunk).elim 0 estimateDelta := by
  unfold countDeltaTokens
  cases contentDelta chunk with
  | none => rfl
  | some content =>
      by_cases isEmpty : content = ""
      · subst isEmpty
        rfl
      · have hasLength : 0 < utf16Length content :=
          Nat.pos_of_ne_zero fun isZero =>
            isEmpty ((utf16Length_eq_zero_iff content).1 isZero)
        simp [hasLength, estimateDelta, isEmpty]

/-- The documented estimate of the completion: the sum over the content deltas
of a stream. -/
def estimateCompletion (chunks : List ChatCompletionChunk) : Nat :=
  ((chunks.filterMap contentDelta).map estimateDelta).sum

theorem estimateCompletion_eq_sum (chunks : List ChatCompletionChunk) :
    estimateCompletion chunks = (chunks.map countDeltaTokens).sum := by
  unfold estimateCompletion
  induction chunks with
  | nil => rfl
  | cons chunk chunks inductionHypothesis =>
      rw [List.map_cons, List.sum_cons, ← inductionHypothesis,
        countDeltaTokens_eq]
      cases contentEq : contentDelta chunk with
      | none => simp [contentEq]
      | some content => simp [contentEq]

/-- Chunks without usage add their estimates. -/
theorem foldl_consume_of_no_usage
    {chunks : List ChatCompletionChunk}
    (noUsage : ∀ chunk ∈ chunks, chunk.usage = none)
    {tally : Tally}
    (estimating : tally.usageFromStream = false) :
    chunks.foldl consume tally =
      { tally with
        completionTokens :=
          tally.completionTokens + estimateCompletion chunks } := by
  rw [estimateCompletion_eq_sum]
  induction chunks generalizing tally with
  | nil => simp
  | cons chunk chunks inductionHypothesis =>
      have consumed : consume tally chunk =
          { tally with
            completionTokens :=
              tally.completionTokens + countDeltaTokens chunk } := by
        simp [consume, applyUsage, estimating, noUsage chunk]
      have stillEstimating :
          (consume tally chunk).usageFromStream = false := by
        rw [consumed]
        exact estimating
      rw [List.foldl_cons, inductionHypothesis
        (fun other isLater => noUsage other (List.mem_cons_of_mem _ isLater))
        stillEstimating, consumed]
      simp [add_assoc]

/-- The usage of the last chunk replaces every estimate. -/
theorem foldl_consume_usage
    (chunks : List ChatCompletionChunk)
    (header : StreamHeader)
    (usage : CompletionUsage)
    (tally : Tally) :
    (chunks ++ [makeUsageChunk header usage]).foldl consume tally =
      { promptTokens := usage.promptTokens
        completionTokens := usage.completionTokens
        usageFromStream := true } := by
  rw [List.foldl_append]
  rfl

end Estimate

end Router
end AiGateway
