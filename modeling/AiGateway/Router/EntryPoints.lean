import AiGateway.Auth.Middleware
import AiGateway.Cache.Key
import AiGateway.CostTracker.Spend
import AiGateway.Foundations.Traced
import AiGateway.Providers.Registry
import AiGateway.Router.Faults
import AiGateway.Router.StreamDelivery
import AiGateway.Router.StreamUsage

/-!
# The entry points of the router

`chatCompletion`, `prepareStream` and `embeddings`, and the list of models. Each
entry point resolves the model, checks the allow-list of the key, and goes on to
the cache, the budget and the providers. What they call answers from outside; the
cache and the cost tracker never throw. Latencies are not kept.
-/

namespace AiGateway
namespace Router

open Auth (GatewayContext)
open Cache (isEligible)
open CostTracker (isOverBudget)
open Foundations (Ending Traced Yields)
open OpenAI
open Providers

section Model

/-- `CACHE_STATUS`. -/
inductive CacheStatus
  | hit
  | miss
  | bypass
  | skip
  deriving DecidableEq, Repr

/-- What an entry point does, in order; `α` is what a provider is called for. -/
inductive RouterEffect (α : Type)
  | recordCacheEvent (status : CacheStatus)
  | cacheGet
  | cacheSet
  /-- `isOverBudget` answered. -/
  | budgetChecked (isOver : Bool)
  | failover (effect : Effect α)
  | addSpend (apiKeyId : String) (costUsd : ℚ)
  | enqueueRequest (entry : RequestLogEntry)
  /-- `enqueueRequest` for a cached response, which has no provider and no cost. -/
  | enqueueHit (apiKeyId modelId : String) (usage : CompletionUsage)

/-- What the router is given; its calls answer once for each request. -/
structure RouterDeps (α : Type) where
  /-- `registry.refreshIfStale`, with the snapshot that is there after it. -/
  registry : Except Thrown Snapshot
  /-- `CACHE_ENABLED`. -/
  cacheEnabled : Bool
  /-- `getMonthlySpendUsd`; nothing on an error. -/
  monthlySpendUsd : ℚ
  /-- The load balancer, the breakers and the providers. -/
  failover : Environment α

/-- `RouterMeta`. -/
structure RouterMeta where
  provider : Option String
  providerId : Option String
  model : String
  cacheStatus : CacheStatus
  failoverCount : Nat
  deriving DecidableEq

/-- `ChatCompletionResponse`; the router passes on its body. -/
structure ChatCompletionResponse (ρ : Type) where
  body : ρ
  usage : CompletionUsage

/-- `EmbeddingResponse`. -/
structure EmbeddingResponse (ρ : Type) where
  body : ρ
  promptTokens : ℚ
  totalTokens : ℚ

/-- What an entry point returns. -/
structure Routed (ρ : Type) where
  response : ρ
  routerMeta : RouterMeta

/-- The first result of an iterator, and what the iterator gives after it. -/
structure FirstResult (ι : Type) where
  first : Option ι
  iterator : Yields ι Thrown

/-- `iterator.next()`, for the first time. -/
def firstResult (stream : Yields ι Thrown) : Except Thrown (FirstResult ι) :=
  match stream.items, stream.ending with
  | first :: items, ending => .ok { first := some first, iterator := { items, ending } }
  | [], .finished =>
      .ok { first := none, iterator := { items := [], ending := .finished } }
  | [], .threw error => .error error

/-- `StreamPreparation`, with what the generator has from the call. -/
structure StreamPreparation (ι : Type) where
  prepared : FirstResult ι
  context : StreamContext

end Model

section Access

/-- `authorizeModel(context, requested, canonical)`. -/
def authorizeModel
    (context : GatewayContext)
    (requested canonical : String) : Except Thrown Unit :=
  match context.allowedModels with
  | none => .ok ()
  | some allowed =>
      if allowed.isEmpty then
        .ok ()
      else if !allowed.contains requested && !allowed.contains canonical then
        .error (.gateway (.permission
          ("API key is not permitted to use model '" ++ requested ++ "'.")
          "model"))
      else
        .ok ()

/-- The error for a model without candidates. -/
def modelNotFound (requested : String) : Thrown :=
  .gateway (.notFound
    ("The model '" ++ requested ++ "' does not exist or is not available.")
    "model")

/-- `resolveAndAuthorize(request, context)`. -/
def resolveAndAuthorize
    (snapshot : Snapshot)
    (context : GatewayContext)
    (requested : String) : Except Thrown ModelResolution := do
  let resolution := snapshot.resolveCandidates requested
  if resolution.candidates.isEmpty then
    throw (modelNotFound requested)
  authorizeModel context requested resolution.canonicalModel
  return resolution

/-- The filter of `GET /v1/models`. -/
def modelsRoute
    (localeCompare : String → String → Ordering)
    (snapshot : Snapshot)
    (allowedModels : Option (List String)) : List ModelObject :=
  let models := snapshot.listModels localeCompare
  match allowedModels with
  | none => models
  | some allowed =>
      if allowed.isEmpty then models
      else models.filter fun model => allowed.contains model.id

end Access

section Routes

variable {α ρ ι : Type}

/-- `enforceBudget(context)`. -/
def enforceBudget
    (deps : RouterDeps α)
    (context : GatewayContext) : Traced (RouterEffect α) Thrown Unit := do
  let isOver := isOverBudget context.monthlyBudgetUsd deps.monthlySpendUsd
  .emit (.budgetChecked isOver)
  if isOver then
    .ofExcept (.error (.gateway .insufficientQuota))

/-- The failover loop over the candidates of a model. -/
def callCandidates
    (deps : RouterDeps α)
    (candidates : List ModelCandidate) :
    Traced (RouterEffect α) Thrown (FailoverResult α) :=
  let (result, trace) := runFailover deps.failover
    (candidates.map fun candidate => routedProvider candidate.provider.config)
  { result := result, effects := trace.map .failover }

/-- `provider.getModel(canonicalModel)` for the provider with an id. -/
def modelInfo
    (resolution : ModelResolution)
    (providerId : String) : Option ProviderModelInfo :=
  (resolution.candidates.find? fun candidate =>
      candidate.provider.config.id = providerId).bind fun candidate =>
    candidate.provider.config.getModel resolution.canonicalModel

/-- The metadata of an answer that a provider gave. -/
def providerMeta
    (resolution : ModelResolution)
    (result : FailoverResult α)
    (cacheStatus : CacheStatus) : RouterMeta where
  provider := some result.provider.name
  providerId := some result.provider.id
  model := resolution.canonicalModel
  cacheStatus := cacheStatus
  failoverCount := result.failoverCount

/-- The entry of an answer that a provider gave. -/
def successEntry
    (context : GatewayContext)
    (resolution : ModelResolution)
    (result : FailoverResult α)
    (promptTokens completionTokens totalTokens : ℚ) : RequestLogEntry where
  apiKeyId := context.apiKeyId
  providerId := result.provider.id
  modelId := resolution.canonicalModel
  promptTokens := promptTokens
  completionTokens := completionTokens
  totalTokens := totalTokens
  costUsd := estimateCost (modelInfo resolution result.provider.id) promptTokens
    completionTokens
  statusCode := 200
  failoverCount := result.failoverCount
  errorMessage := none

/-- `chatCompletion`, for a model that passed the check; `cached` is what
`cache.get` finds. -/
def chatResolved
    (deps : RouterDeps (ChatCompletionResponse ρ))
    (cached : Option (ChatCompletionResponse ρ))
    (request : ChatCompletionRequest)
    (context : GatewayContext)
    (bypassCache : Bool)
    (resolution : ModelResolution) :
    Traced (RouterEffect (ChatCompletionResponse ρ)) Thrown
      (Routed (ChatCompletionResponse ρ)) := do
  let eligible := isEligible deps.cacheEnabled request
  if eligible && bypassCache then
    .emit (.recordCacheEvent .bypass)
  else if eligible then
    .emit .cacheGet
  match if eligible && !bypassCache then cached else none with
  | some response =>
      .emit (.recordCacheEvent .hit)
      .emit (.enqueueHit context.apiKeyId resolution.canonicalModel response.usage)
      return {
        response := response
        routerMeta :=
          { provider := none
            providerId := none
            model := resolution.canonicalModel
            cacheStatus := .hit
            failoverCount := 0 } }
  | none =>
      enforceBudget deps context
      let result ← callCandidates deps resolution.candidates
      let usage := result.value.usage
      let entry := successEntry context resolution result usage.promptTokens
        usage.completionTokens usage.totalTokens
      .emit (.addSpend context.apiKeyId entry.costUsd)
      .emit (.enqueueRequest entry)
      let cacheStatus := if eligible && !bypassCache then .miss else .skip
      if eligible && !bypassCache then
        .emit .cacheSet
      .emit (.recordCacheEvent cacheStatus)
      return {
        response := result.value
        routerMeta := providerMeta resolution result cacheStatus }

/-- `chatCompletion(request, context, options)`. -/
def chatCompletion
    (deps : RouterDeps (ChatCompletionResponse ρ))
    (cached : Option (ChatCompletionResponse ρ))
    (request : ChatCompletionRequest)
    (context : GatewayContext)
    (bypassCache : Bool) :
    Traced (RouterEffect (ChatCompletionResponse ρ)) Thrown
      (Routed (ChatCompletionResponse ρ)) := do
  let snapshot ← .ofExcept deps.registry
  let resolution ←
    .ofExcept (resolveAndAuthorize snapshot context request.model)
  chatResolved deps cached request context bypassCache resolution

/-- `prepareStream`, for a model that passed the check; the call gives the first
result of the provider's iterator. -/
def prepareResolved
    (deps : RouterDeps (FirstResult ι))
    (tokenizer : Tokenizer)
    (request : ChatCompletionRequest)
    (context : GatewayContext)
    (resolution : ModelResolution) :
    Traced (RouterEffect (FirstResult ι)) Thrown
      (Routed (StreamPreparation ι)) := do
  enforceBudget deps context
  let result ← callCandidates deps resolution.candidates
  .emit (.recordCacheEvent .skip)
  return {
    response :=
      { prepared := result.value
        context :=
          { apiKeyId := context.apiKeyId
            providerId := result.provider.id
            canonicalModel := resolution.canonicalModel
            modelInfo := modelInfo resolution result.provider.id
            failoverCount := result.failoverCount
            clientWantsUsage := request.includeUsage
            promptEstimate := countChatTokens tokenizer request.messages
              resolution.canonicalModel } }
    routerMeta := providerMeta resolution result .skip }

/-- `prepareStream(request, context, options)`. -/
def prepareStream
    (deps : RouterDeps (FirstResult ι))
    (tokenizer : Tokenizer)
    (request : ChatCompletionRequest)
    (context : GatewayContext) :
    Traced (RouterEffect (FirstResult ι)) Thrown
      (Routed (StreamPreparation ι)) := do
  let snapshot ← .ofExcept deps.registry
  let resolution ←
    .ofExcept (resolveAndAuthorize snapshot context request.model)
  prepareResolved deps tokenizer request context resolution

/-- `embeddings`, for a model that passed the check. -/
def embedResolved
    (deps : RouterDeps (EmbeddingResponse ρ))
    (context : GatewayContext)
    (resolution : ModelResolution) :
    Traced (RouterEffect (EmbeddingResponse ρ)) Thrown
      (Routed (EmbeddingResponse ρ)) := do
  enforceBudget deps context
  let result ← callCandidates deps resolution.candidates
  let entry := successEntry context resolution result result.value.promptTokens 0
    result.value.totalTokens
  .emit (.addSpend context.apiKeyId entry.costUsd)
  .emit (.enqueueRequest entry)
  return {
    response := result.value
    routerMeta := providerMeta resolution result .skip }

/-- `embeddings(request, context, options)`, for the model of the request; it makes
the check by itself. -/
def embeddings
    (deps : RouterDeps (EmbeddingResponse ρ))
    (requested : String)
    (context : GatewayContext) :
    Traced (RouterEffect (EmbeddingResponse ρ)) Thrown
      (Routed (EmbeddingResponse ρ)) := do
  let snapshot ← .ofExcept deps.registry
  let resolution := snapshot.resolveCandidates requested
  if resolution.candidates.isEmpty then
    .ofExcept (.error (modelNotFound requested))
  .ofExcept (authorizeModel context requested resolution.canonicalModel)
  embedResolved deps context resolution

end Routes

section Check

variable {snapshot : Snapshot} {context : GatewayContext} {model : String}

/-- A model has no candidates, or the allow-list of the key is not empty and names
neither the model nor what it resolves to. -/
def Refused
    (snapshot : Snapshot)
    (context : GatewayContext)
    (model : String) : Prop :=
  (snapshot.resolveCandidates model).candidates = [] ∨
    ∃ allowed, context.allowedModels = some allowed ∧ allowed ≠ [] ∧
      model ∉ allowed ∧
      (snapshot.resolveCandidates model).canonicalModel ∉ allowed

/-- The allow-list lets a model pass if it names one of its ids. -/
theorem authorizeModel_eq_ok_iff {canonical : String} :
    authorizeModel context model canonical = .ok () ↔
      ∀ allowed, context.allowedModels = some allowed → allowed ≠ [] →
        model ∈ allowed ∨ canonical ∈ allowed := by
  unfold authorizeModel
  cases context.allowedModels with
  | none => simp
  | some allowed =>
      cases allowed with
      | nil => simp
      | cons first rest =>
          simp only [List.isEmpty_cons, Bool.false_eq_true, if_false,
            Option.some.injEq, forall_eq']
          split_ifs with outside
          · rw [Bool.and_eq_true, Bool.not_eq_true', Bool.not_eq_true',
              List.contains_eq_mem, List.contains_eq_mem, decide_eq_false_iff_not,
              decide_eq_false_iff_not] at outside
            exact iff_of_false nofun fun passes =>
              (passes (List.cons_ne_nil _ _)).elim outside.1 outside.2
          · refine iff_of_true rfl fun _ => ?_
            by_contra neither
            rw [not_or] at neither
            refine outside ?_
            simp [neither.1, neither.2]

theorem refused_iff :
    Refused snapshot context model ↔
      (snapshot.resolveCandidates model).candidates = [] ∨
        authorizeModel context model
          (snapshot.resolveCandidates model).canonicalModel ≠ .ok () := by
  unfold Refused
  rw [ne_eq, authorizeModel_eq_ok_iff]
  push Not
  exact Iff.rfl

variable (snapshot context model) in
/-- The check asks for candidates first. -/
theorem resolveAndAuthorize_eq :
    resolveAndAuthorize snapshot context model =
      if (snapshot.resolveCandidates model).candidates.isEmpty then
        .error (modelNotFound model)
      else
        (authorizeModel context model
          (snapshot.resolveCandidates model).canonicalModel).map
            fun _ => snapshot.resolveCandidates model := by
  unfold resolveAndAuthorize
  dsimp only
  split_ifs
  · rfl
  · cases authorizeModel context model
      (snapshot.resolveCandidates model).canonicalModel <;> rfl

/-- It gives the resolution of a model that is not refused. -/
theorem resolveAndAuthorize_of_not_refused
    (passes : ¬Refused snapshot context model) :
    resolveAndAuthorize snapshot context model =
      .ok (snapshot.resolveCandidates model) := by
  rw [refused_iff, not_or, not_not] at passes
  obtain ⟨resolves, allowed⟩ := passes
  rw [resolveAndAuthorize_eq, if_neg (by rwa [List.isEmpty_iff]), allowed]
  rfl

theorem resolveAndAuthorize_of_refused (refused : Refused snapshot context model) :
    ∃ thrown, resolveAndAuthorize snapshot context model = .error thrown := by
  rw [resolveAndAuthorize_eq]
  split_ifs with isEmpty
  · exact ⟨_, rfl⟩
  · rw [List.isEmpty_iff] at isEmpty
    have notAllowed := (refused_iff.1 refused).resolve_left isEmpty
    cases authorized : authorizeModel context model
        (snapshot.resolveCandidates model).canonicalModel with
    | ok value => exact absurd authorized notAllowed
    | error thrown => exact ⟨thrown, rfl⟩

theorem resolveAndAuthorize_eq_ok_iff :
    (∃ resolution, resolveAndAuthorize snapshot context model = .ok resolution) ↔
      ¬Refused snapshot context model := by
  constructor
  · rintro ⟨resolution, passes⟩ refused
    obtain ⟨thrown, fails⟩ := resolveAndAuthorize_of_refused refused
    rw [passes] at fails
    cases fails
  · exact fun passes => ⟨_, resolveAndAuthorize_of_not_refused passes⟩

/-- `embeddings` makes the check of the other entry points. -/
theorem embeddings_eq
    (deps : RouterDeps (EmbeddingResponse ρ))
    (registry : deps.registry = .ok snapshot) :
    embeddings deps model context =
      (.ofExcept (resolveAndAuthorize snapshot context model) >>= fun resolution =>
        embedResolved deps context resolution) := by
  unfold embeddings
  rw [registry, Traced.ofExcept_ok_bind, resolveAndAuthorize_eq]
  dsimp only
  split_ifs
  · rfl
  · cases authorizeModel context model
      (snapshot.resolveCandidates model).canonicalModel <;> rfl

/-- The list of models names the served models that the allow-list names. -/
theorem mem_modelsRoute
    {localeCompare : String → String → Ordering}
    {allowedModels : Option (List String)} :
    model ∈ (modelsRoute localeCompare snapshot allowedModels).map ModelObject.id ↔
      snapshot.Serves model ∧
        ∀ allowed, allowedModels = some allowed → allowed ≠ [] →
          model ∈ allowed := by
  rw [← mem_listModels localeCompare]
  unfold modelsRoute
  cases allowedModels with
  | none => simp
  | some allowed =>
      cases allowed with
      | nil => simp
      | cons first rest =>
          simp only [List.isEmpty_cons, Bool.false_eq_true, if_false,
            List.mem_map, List.mem_filter, List.contains_iff_mem,
            Option.some.injEq, forall_eq']
          constructor
          · rintro ⟨listed, ⟨isListed, isAllowed⟩, rfl⟩
            exact ⟨⟨listed, isListed, rfl⟩, fun _ => isAllowed⟩
          · rintro ⟨⟨listed, isListed, rfl⟩, isAllowed⟩
            exact ⟨listed, ⟨isListed, isAllowed (List.cons_ne_nil _ _)⟩, rfl⟩

end Check

section Billing

/-- What an effect has to do with the spend counter of the key. -/
inductive Billing
  | checked (isOver : Bool)
  | charged (costUsd : ℚ)
  deriving DecidableEq

variable {α : Type}

def RouterEffect.billing : RouterEffect α → Option Billing
  | .budgetChecked isOver => some (.checked isOver)
  | .addSpend _ costUsd => some (.charged costUsd)
  | _ => none

/-- Nothing, a check, or a check that passes and then at most one charge. -/
inductive ChargedOnce : List Billing → Prop
  | unbilled : ChargedOnce []
  | checked (isOver : Bool) : ChargedOnce [.checked isOver]
  | charged (costUsd : ℚ) : ChargedOnce [.checked false, .charged costUsd]

theorem billing_callCandidates
    (deps : RouterDeps α)
    (candidates : List ModelCandidate) :
    (callCandidates deps candidates).effects.filterMap RouterEffect.billing = [] := by
  unfold callCandidates
  rw [List.filterMap_map]
  exact List.filterMap_eq_nil_iff.2 fun _ _ => rfl

/-- What an entry point does after the cache. -/
theorem chargedOnce_of_next
    {β : Type}
    (deps : RouterDeps α)
    (context : GatewayContext)
    (candidates : List ModelCandidate)
    (next : FailoverResult α → Traced (RouterEffect α) Thrown β)
    (atMostOne : ∀ result,
      (next result).effects.filterMap RouterEffect.billing = [] ∨
        ∃ costUsd, (next result).effects.filterMap RouterEffect.billing =
          [.charged costUsd]) :
    ChargedOnce ((enforceBudget deps context >>= fun _ =>
      callCandidates deps candidates >>= next).effects.filterMap
        RouterEffect.billing) := by
  unfold enforceBudget
  cases isOverBudget context.monthlyBudgetUsd deps.monthlySpendUsd with
  | true => exact .checked true
  | false =>
      change ChargedOnce (.checked false ::
        (callCandidates deps candidates >>= next).effects.filterMap
          RouterEffect.billing)
      rw [Traced.effects_bind, List.filterMap_append, billing_callCandidates,
        List.nil_append]
      cases (callCandidates deps candidates).result with
      | error thrown => exact .checked false
      | ok result =>
          rcases atMostOne result with unbilled | ⟨costUsd, charged⟩
          · simp only [unbilled]
            exact .checked false
          · simp only [charged]
            exact .charged costUsd

/-- An entry point that passed the check reads the spend counter before it calls a
provider and charges at most once after it; the charge of a stream is left to its
generator. -/
theorem chargedOnce_chatResolved
    (deps : RouterDeps (ChatCompletionResponse ρ))
    (cached : Option (ChatCompletionResponse ρ))
    (request : ChatCompletionRequest)
    (context : GatewayContext)
    (bypassCache : Bool)
    (resolution : ModelResolution) :
    ChargedOnce ((chatResolved deps cached request context bypassCache
      resolution).effects.filterMap RouterEffect.billing) := by
  have charges (storesAnswer : Bool) (cacheStatus : CacheStatus) :=
    chargedOnce_of_next (β := Routed (ChatCompletionResponse ρ)) deps context
      resolution.candidates (fun result => do
        let usage := result.value.usage
        let entry := successEntry context resolution result usage.promptTokens
          usage.completionTokens usage.totalTokens
        .emit (.addSpend context.apiKeyId entry.costUsd)
        .emit (.enqueueRequest entry)
        if storesAnswer then
          .emit .cacheSet
        .emit (.recordCacheEvent cacheStatus)
        return {
          response := result.value
          routerMeta := providerMeta resolution result cacheStatus })
      fun result => .inr (by cases storesAnswer <;> exact ⟨_, rfl⟩)
  unfold chatResolved
  cases isEligible deps.cacheEnabled request with
  | false => exact charges false .skip
  | true =>
      cases bypassCache with
      | true => exact charges false .skip
      | false =>
          cases cached with
          | some response => exact .unbilled
          | none => exact charges true .miss

theorem chargedOnce_prepareResolved
    (deps : RouterDeps (FirstResult ι))
    (tokenizer : Tokenizer)
    (request : ChatCompletionRequest)
    (context : GatewayContext)
    (resolution : ModelResolution) :
    ChargedOnce ((prepareResolved deps tokenizer request context
      resolution).effects.filterMap RouterEffect.billing) :=
  chargedOnce_of_next deps context resolution.candidates _ fun _ => .inl rfl

theorem chargedOnce_embedResolved
    (deps : RouterDeps (EmbeddingResponse ρ))
    (context : GatewayContext)
    (resolution : ModelResolution) :
    ChargedOnce ((embedResolved deps context resolution).effects.filterMap
      RouterEffect.billing) :=
  chargedOnce_of_next deps context resolution.candidates _ fun _ =>
    .inr ⟨_, rfl⟩

end Billing

/-- A model that has no candidates, or that the allow-list does not name, is refused
by every entry point before anything else is done: no provider is called, no cached
response is read and nothing is charged. The list of models names exactly the
served models that pass the check. -/
theorem refused_without_effects_and_listed_iff
    {ε : Type}
    (decrypt : ε → Option String)
    (rows : List (ProviderRow ε))
    (localeCompare : String → String → Ordering)
    (context : GatewayContext)
    (model : String) :
    let snapshot := buildSnapshot decrypt rows
    (Refused snapshot context model →
      (∀ (ρ : Type) (deps : RouterDeps (ChatCompletionResponse ρ))
        (cached : Option (ChatCompletionResponse ρ))
        (request : ChatCompletionRequest) (bypassCache : Bool),
        deps.registry = .ok snapshot → request.model = model →
          ∃ thrown, chatCompletion deps cached request context bypassCache =
            { result := .error thrown, effects := [] }) ∧
      (∀ (ι : Type) (deps : RouterDeps (FirstResult ι)) (tokenizer : Tokenizer)
        (request : ChatCompletionRequest),
        deps.registry = .ok snapshot → request.model = model →
          ∃ thrown, prepareStream deps tokenizer request context =
            { result := .error thrown, effects := [] }) ∧
      (∀ (ρ : Type) (deps : RouterDeps (EmbeddingResponse ρ)),
        deps.registry = .ok snapshot →
          ∃ thrown, embeddings deps model context =
            { result := .error thrown, effects := [] })) ∧
    ((∃ resolution,
      resolveAndAuthorize snapshot context model = .ok resolution) ↔
        ¬Refused snapshot context model) ∧
    (model ∈ (modelsRoute localeCompare snapshot context.allowedModels).map
        ModelObject.id ↔
      snapshot.Serves model ∧ ∃ resolution,
        resolveAndAuthorize snapshot context model = .ok resolution) := by
  intro snapshot
  refine ⟨fun refused => ?_, resolveAndAuthorize_eq_ok_iff, ?_⟩
  · obtain ⟨thrown, fails⟩ := resolveAndAuthorize_of_refused refused
    refine ⟨?_, ?_, ?_⟩
    · rintro ρ deps cached request bypassCache registry rfl
      refine ⟨thrown, ?_⟩
      unfold chatCompletion
      rw [registry, Traced.ofExcept_ok_bind, fails]
      rfl
    · rintro ι deps tokenizer request registry rfl
      refine ⟨thrown, ?_⟩
      unfold prepareStream
      rw [registry, Traced.ofExcept_ok_bind, fails]
      rfl
    · intro ρ deps registry
      refine ⟨thrown, ?_⟩
      rw [embeddings_eq deps registry, fails]
      rfl
  · rw [resolveAndAuthorize_eq_ok_iff, mem_modelsRoute]
    refine and_congr_right fun serves => ?_
    obtain ⟨sameModel, resolves⟩ :=
      serves.resolveCandidates (nodup_candidatesByModel rows)
    rw [refused_iff, or_iff_right resolves, sameModel, not_not,
      authorizeModel_eq_ok_iff]
    simp only [or_self]

end Router
end AiGateway
