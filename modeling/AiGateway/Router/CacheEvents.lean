import AiGateway.Router.EntryPoints

/-!
# The cache event of a chat completion

`chatCompletion` decides about the cache in three places: before the upstream
call it tests whether the request is eligible and whether the caller bypasses
the cache, and it looks for a cached response; after the call it tests the first
two again to choose the status and to store the response. It records a metric
and reports the same status in the metadata of its answer. This module compares
them with what the names of the statuses say.
-/

namespace AiGateway
namespace Router

open Auth (GatewayContext)
open Cache (isEligible)
open CostTracker (isOverBudget)
open Foundations (Traced)
open OpenAI
open Providers

section Model

variable {ρ α : Type}

/-- What `SemanticCache.set` works with. -/
structure CacheStore (ρ : Type) where
  /-- `JSON.stringify(response)`. -/
  stringify : ChatCompletionResponse ρ → String
  /-- `CACHE_MAX_VALUE_BYTES`. -/
  maxValueBytes : Nat
  /-- Whether `redis.set` throws. -/
  redisSet : Except Thrown Unit

/-- `SemanticCache.set(request, response)`: the payload that is written, if one
is. It never throws. -/
def CacheStore.set
    (store : CacheStore ρ)
    (response : ChatCompletionResponse ρ) : Option String :=
  let payload := store.stringify response
  if store.maxValueBytes < payload.utf8ByteSize then
    none
  else
    match store.redisSet with
    | .ok _ => some payload
    | .error _ => none

/-- The status that an effect records. -/
def RouterEffect.cacheEvent : RouterEffect α → Option CacheStatus
  | .recordCacheEvent status => some status
  | _ => none

/-- A response is given to the cache. -/
def RouterEffect.cacheWrite : RouterEffect α → Option Unit
  | .cacheSet => some ()
  | _ => none

/-- The cache events of a call, in their order. -/
def cacheEvents (effects : List (RouterEffect α)) : List CacheStatus :=
  effects.filterMap RouterEffect.cacheEvent

/-- Was the response of a call stored? -/
def isStored
    (store : CacheStore ρ)
    (effects : List (RouterEffect (ChatCompletionResponse ρ)))
    (response : ChatCompletionResponse ρ) : Bool :=
  effects.filterMap RouterEffect.cacheWrite ≠ [] && (store.set response).isSome

/-- The status of an answer by the meaning of the names: a cached response is
returned; an eligible request is not looked up at the wish of the caller; it was
sent upstream and its response stored; anything else. -/
def namedStatus (hit eligible bypassCache stored : Bool) : CacheStatus :=
  if hit then .hit
  else if eligible && bypassCache then .bypass
  else if eligible && stored then .miss
  else .skip

/-- A call records its named status once, and reports it. -/
def RecordsNamedStatus
    (store : CacheStore ρ)
    (cacheEnabled : Bool)
    (cached : Option (ChatCompletionResponse ρ))
    (request : ChatCompletionRequest)
    (bypassCache : Bool)
    (effects : List (RouterEffect (ChatCompletionResponse ρ)))
    (routed : Routed (ChatCompletionResponse ρ)) : Prop :=
  let eligible := isEligible cacheEnabled request
  let status := namedStatus (eligible && !bypassCache && cached.isSome) eligible
    bypassCache (isStored store effects routed.response)
  cacheEvents effects = [status] ∧ routed.routerMeta.cacheStatus = status

end Model

section Trace

variable {α β ρ : Type}

/-- What a selection of effects sees of a returning call after the cache: the
budget and the failover loop are not in it. -/
theorem filterMap_effects_of_next
    {γ : Type}
    (select : RouterEffect α → Option γ)
    (noBudget : ∀ isOver, select (.budgetChecked isOver) = none)
    (noFailover : ∀ effect, select (.failover effect) = none)
    {deps : RouterDeps α}
    {context : GatewayContext}
    {candidates : List ModelCandidate}
    {result : FailoverResult α}
    (called : (callCandidates deps candidates).result = .ok result)
    (checked : (enforceBudget deps context).result = .ok ())
    (next : FailoverResult α → Traced (RouterEffect α) Thrown β) :
    (enforceBudget deps context >>= fun _ =>
      callCandidates deps candidates >>= next).effects.filterMap select =
        (next result).effects.filterMap select := by
  have budget : (enforceBudget deps context).effects.filterMap select = [] := by
    unfold enforceBudget
    cases isOverBudget context.monthlyBudgetUsd deps.monthlySpendUsd <;>
      exact List.filterMap_cons_none (noBudget _)
  have loop : (callCandidates deps candidates).effects.filterMap select = [] := by
    unfold callCandidates
    rw [List.filterMap_map]
    exact List.filterMap_eq_nil_iff.2 fun effect _ => noFailover effect
  rw [Traced.effects_bind, checked, List.filterMap_append, budget,
    List.nil_append, Traced.effects_bind, called, List.filterMap_append, loop,
    List.nil_append]

/-- What `chatCompletion` does with the answer of a provider. -/
def settleAnswer
    (context : GatewayContext)
    (resolution : ModelResolution)
    (stores : Bool)
    (cacheStatus : CacheStatus)
    (result : FailoverResult (ChatCompletionResponse ρ)) :
    Traced (RouterEffect (ChatCompletionResponse ρ)) Thrown
      (Routed (ChatCompletionResponse ρ)) := do
  let usage := result.value.usage
  let entry := successEntry context resolution result usage.promptTokens
    usage.completionTokens usage.totalTokens
  .emit (.addSpend context.apiKeyId entry.costUsd)
  .emit (.enqueueRequest entry)
  if stores then
    .emit .cacheSet
  .emit (.recordCacheEvent cacheStatus)
  return {
    response := result.value
    routerMeta := providerMeta resolution result cacheStatus }

/-- What a call leaves behind that concerns the cache: its events, whether it
gave a response to the cache, and the status it reports. -/
structure LeavesBehind
    (events : List CacheStatus)
    (writes : Bool)
    (status : CacheStatus)
    (effects : List (RouterEffect (ChatCompletionResponse ρ)))
    (routed : Routed (ChatCompletionResponse ρ)) : Prop where
  events : cacheEvents effects = events
  writes : effects.filterMap RouterEffect.cacheWrite ≠ [] ↔ writes = true
  status : routed.routerMeta.cacheStatus = status

/-- A call that is answered by a provider records the status it is given. -/
theorem leavesBehind_of_upstream
    {deps : RouterDeps (ChatCompletionResponse ρ)}
    {context : GatewayContext}
    {resolution : ModelResolution}
    {stores : Bool}
    {cacheStatus : CacheStatus}
    {routed : Routed (ChatCompletionResponse ρ)}
    (returns : (enforceBudget deps context >>= fun _ =>
      callCandidates deps resolution.candidates >>=
        settleAnswer context resolution stores cacheStatus).result =
          .ok routed) :
    LeavesBehind [cacheStatus] stores cacheStatus
      (enforceBudget deps context >>= fun _ =>
        callCandidates deps resolution.candidates >>=
          settleAnswer context resolution stores cacheStatus).effects
      routed := by
  obtain ⟨checked, within, called⟩ := Traced.result_bind_eq_ok_iff.1 returns
  obtain ⟨result, answered, settled⟩ := Traced.result_bind_eq_ok_iff.1 called
  refine ⟨?_, ?_, ?_⟩
  · rw [cacheEvents, filterMap_effects_of_next RouterEffect.cacheEvent
      (fun _ => rfl) (fun _ => rfl) answered within]
    cases stores <;> rfl
  · rw [filterMap_effects_of_next RouterEffect.cacheWrite (fun _ => rfl)
      (fun _ => rfl) answered within]
    cases stores with
    | false => exact iff_of_false (fun wrote => wrote rfl) Bool.false_ne_true
    | true => exact iff_of_true (List.cons_ne_nil _ _) rfl
  · cases stores <;> cases settled <;> rfl

/-- One more effect before a call. -/
theorem LeavesBehind.cons
    {events : List CacheStatus}
    {writes : Bool}
    {status : CacheStatus}
    {effects : List (RouterEffect (ChatCompletionResponse ρ))}
    {routed : Routed (ChatCompletionResponse ρ)}
    (leaves : LeavesBehind events writes status effects routed)
    (effect : RouterEffect (ChatCompletionResponse ρ))
    (noWrite : effect.cacheWrite = none) :
    LeavesBehind (effect.cacheEvent.toList ++ events) writes status
      (effect :: effects) routed where
  events := by
    rw [cacheEvents, List.filterMap_cons]
    cases effect.cacheEvent with
    | none => exact leaves.events
    | some recorded => exact congrArg (recorded :: ·) leaves.events
  writes := by
    rw [List.filterMap_cons_none noWrite]
    exact leaves.writes
  status := leaves.status

section Paths

variable {deps : RouterDeps (ChatCompletionResponse ρ)}
  {cached : Option (ChatCompletionResponse ρ)}
  {request : ChatCompletionRequest}
  {context : GatewayContext}
  {bypassCache : Bool}
  {resolution : ModelResolution}
  {routed : Routed (ChatCompletionResponse ρ)}
  (returns : (chatResolved deps cached request context bypassCache
    resolution).result = .ok routed)

include returns

/-- A request that is not eligible skips the cache. -/
theorem leavesBehind_of_ineligible
    (ineligible : isEligible deps.cacheEnabled request = false) :
    LeavesBehind [.skip] false .skip
      (chatResolved deps cached request context bypassCache
        resolution).effects routed := by
  unfold chatResolved at returns ⊢
  rw [ineligible] at returns ⊢
  exact leavesBehind_of_upstream returns

/-- A bypass is recorded before the call, and then as a skip. -/
theorem leavesBehind_of_bypass
    (eligible : isEligible deps.cacheEnabled request = true)
    (bypass : bypassCache = true) :
    LeavesBehind [.bypass, .skip] false .skip
      (chatResolved deps cached request context bypassCache
        resolution).effects routed := by
  unfold chatResolved at returns ⊢
  rw [eligible, bypass] at returns ⊢
  exact (leavesBehind_of_upstream returns).cons (.recordCacheEvent .bypass) rfl

/-- A cached response is a hit. -/
theorem leavesBehind_of_hit
    (eligible : isEligible deps.cacheEnabled request = true)
    (noBypass : bypassCache = false)
    {response : ChatCompletionResponse ρ}
    (found : cached = some response) :
    LeavesBehind [.hit] false .hit
      (chatResolved deps cached request context bypassCache
        resolution).effects routed := by
  unfold chatResolved at returns ⊢
  rw [eligible, noBypass, found] at returns ⊢
  cases returns
  exact ⟨rfl, iff_of_false (fun wrote => wrote rfl) Bool.false_ne_true, rfl⟩

/-- An eligible request that finds nothing is a miss, and its response is given
to the cache. -/
theorem leavesBehind_of_miss
    (eligible : isEligible deps.cacheEnabled request = true)
    (noBypass : bypassCache = false)
    (notFound : cached = none) :
    LeavesBehind [.miss] true .miss
      (chatResolved deps cached request context bypassCache
        resolution).effects routed := by
  unfold chatResolved at returns ⊢
  rw [eligible, noBypass, notFound] at returns ⊢
  exact (leavesBehind_of_upstream returns).cons .cacheGet rfl

end Paths

/-- A call that returns has passed the check. -/
theorem exists_chatResolved
    {deps : RouterDeps (ChatCompletionResponse ρ)}
    {cached : Option (ChatCompletionResponse ρ)}
    {request : ChatCompletionRequest}
    {context : GatewayContext}
    {bypassCache : Bool}
    {routed : Routed (ChatCompletionResponse ρ)}
    (returns : (chatCompletion deps cached request context bypassCache).result =
      .ok routed) :
    ∃ resolution, chatCompletion deps cached request context bypassCache =
      chatResolved deps cached request context bypassCache resolution := by
  unfold chatCompletion at returns ⊢
  cases registry : deps.registry with
  | error thrown =>
      rw [registry] at returns
      cases returns
  | ok snapshot =>
      rw [registry, Traced.ofExcept_ok_bind] at returns
      cases resolved : resolveAndAuthorize snapshot context request.model with
      | error thrown =>
          rw [resolved] at returns
          cases returns
      | ok resolution =>
          refine ⟨resolution, ?_⟩
          rw [Traced.ofExcept_ok_bind, resolved, Traced.ofExcept_ok_bind]

end Trace

/-- A call that returns records its named status exactly once and reports it,
unless the request is eligible and the caller bypasses the cache, or the answer
of the provider to an eligible request is not stored. -/
theorem recordsNamedStatus_iff
    {ρ : Type}
    (deps : RouterDeps (ChatCompletionResponse ρ))
    (store : CacheStore ρ)
    (cached : Option (ChatCompletionResponse ρ))
    (request : ChatCompletionRequest)
    (context : GatewayContext)
    (bypassCache : Bool)
    (routed : Routed (ChatCompletionResponse ρ))
    (returns : (chatCompletion deps cached request context bypassCache).result =
      .ok routed) :
    RecordsNamedStatus store deps.cacheEnabled cached request bypassCache
        (chatCompletion deps cached request context bypassCache).effects routed ↔
      (isEligible deps.cacheEnabled request = true →
        bypassCache = false ∧
          (cached = none → (store.set routed.response).isSome = true)) := by
  obtain ⟨resolution, resolved⟩ := exists_chatResolved returns
  rw [resolved] at returns ⊢
  unfold RecordsNamedStatus isStored
  cases eligible : isEligible deps.cacheEnabled request with
  | false =>
      have leaves := leavesBehind_of_ineligible returns eligible
      simp [leaves.events, leaves.status, namedStatus]
  | true =>
      cases bypass : bypassCache with
      | true =>
          rw [bypass] at returns
          have leaves := leavesBehind_of_bypass returns eligible rfl
          simp [leaves.events, namedStatus]
      | false =>
          rw [bypass] at returns
          cases found : cached with
          | some response =>
              rw [found] at returns
              have leaves := leavesBehind_of_hit returns eligible rfl rfl
              simp [leaves.events, leaves.status, namedStatus]
          | none =>
              rw [found] at returns
              have leaves := leavesBehind_of_miss returns eligible rfl rfl
              have wrote := leaves.writes.2 rfl
              cases stored : (store.set routed.response).isSome <;>
                simp [leaves.events, leaves.status, namedStatus, wrote]

section Runs

/-- A provider that serves one model without a price. -/
def loneRow : ProviderRow String where
  id := "p"
  name := "p"
  baseUrl := ""
  adapterType := .openai
  encryptedApiKey := ""
  weight := 1
  priority := 0
  isActive := true
  timeoutMs := 0
  models :=
    [{ modelId := "m"
       info :=
        { maxOutputTokens := none
          inputPricePer1k := none
          outputPricePer1k := none }
       isActive := true }]

def emptyAnswer : ChatCompletionResponse Unit where
  body := ()
  usage := .zero

/-- The router over that provider, with the cache on. -/
def cachingDeps : RouterDeps (ChatCompletionResponse Unit) where
  registry := .ok (buildSnapshot some [loneRow])
  cacheEnabled := true
  monthlySpendUsd := 0
  failover := answering (.ok emptyAnswer)

/-- A request that is eligible for the cache. -/
def seededRequest : ChatCompletionRequest where
  model := "m"
  messages := []
  temperature := some 0
  seed := some 1

/-- A key without limits. -/
def unlimitedContext : GatewayContext where
  apiKeyId := "key"
  ownerId := none
  name := none
  rpmLimit := 0
  tpmLimit := 0
  monthlyBudgetUsd := none
  allowedModels := none
  expiresAtMs := none

/-- A cache that takes every response. -/
def roomyStore : CacheStore Unit where
  stringify _ := "\x7b\x7d"
  maxValueBytes := 2
  redisSet := .ok ()

/-- A call that is answered, for either wish of the caller. -/
theorem exists_answer (bypassCache : Bool) :
    ∃ routed, (chatCompletion cachingDeps none seededRequest unlimitedContext
      bypassCache).result = .ok routed := by
  have isOk : (chatCompletion cachingDeps none seededRequest unlimitedContext
      bypassCache).result.isOk = true := by
    revert bypassCache
    decide +kernel
  cases answer : (chatCompletion cachingDeps none seededRequest
      unlimitedContext bypassCache).result with
  | error thrown =>
      rw [answer] at isOk
      cases isOk
  | ok routed => exact ⟨routed, rfl⟩

/-- A seeded request is recorded as a miss when its response fits. -/
theorem recordsNamedStatus_of_miss :
    ∃ routed, RecordsNamedStatus roomyStore true none seededRequest false
      (chatCompletion cachingDeps none seededRequest unlimitedContext
        false).effects routed := by
  obtain ⟨routed, returns⟩ := exists_answer false
  exact ⟨routed, (recordsNamedStatus_iff cachingDeps roomyStore none
    seededRequest unlimitedContext false routed returns).2
      fun _ => ⟨rfl, fun _ => rfl⟩⟩

/-- The same request with the wish to bypass the cache leaves two events. -/
theorem bypass_recorded_twice :
    ¬∀ (ρ : Type) (deps : RouterDeps (ChatCompletionResponse ρ))
      (store : CacheStore ρ) (cached : Option (ChatCompletionResponse ρ))
      (request : ChatCompletionRequest) (context : GatewayContext)
      (bypassCache : Bool) (routed : Routed (ChatCompletionResponse ρ)),
      (chatCompletion deps cached request context bypassCache).result =
        .ok routed →
      RecordsNamedStatus store deps.cacheEnabled cached request bypassCache
        (chatCompletion deps cached request context bypassCache).effects
          routed := by
  intro records
  obtain ⟨routed, returns⟩ := exists_answer true
  obtain ⟨once, -⟩ := records Unit cachingDeps roomyStore none seededRequest
    unlimitedContext true routed returns
  obtain ⟨resolution, resolved⟩ := exists_chatResolved returns
  rw [resolved] at returns once
  have leaves := leavesBehind_of_bypass returns (by decide) rfl
  rw [leaves.events] at once
  cases once

end Runs

end Router
end AiGateway
