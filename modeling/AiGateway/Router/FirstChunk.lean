import AiGateway.Router.EntryPoints
import AiGateway.Router.FailoverOutcome

/-!
# The first chunk of a stream

`prepareStream` takes the first result of a provider's iterator inside the failover
loop, so that an error before the first chunk moves on to the next candidate. A
stream that ends before its first chunk is no error to the loop. The main theorem
says for which streams the router commits only with a chunk in hand.
-/

namespace AiGateway
namespace Router

open Auth (GatewayContext)
open Foundations (Ending Traced Transducer Yields)
open OpenAI
open Providers

section Model

variable {α ι : Type}

/-- A stream ends before it yields anything. -/
def EndsEmpty (stream : Yields ι Thrown) : Prop :=
  stream.items = [] ∧ stream.ending = .finished

/-- What the failover loop did. -/
def failoverTrace (effects : List (RouterEffect α)) : List (Effect α) :=
  effects.filterMap fun
    | .failover effect => some effect
    | _ => none

/-- The router commits to a stream when it has its first chunk, and fails over from
a stream that ends without one. -/
structure CommitsWithChunk
    (streams : BaseProvider → Yields ι Thrown)
    (candidates : List ModelCandidate)
    (run : Traced (RouterEffect (FirstResult ι)) Thrown
      (Routed (StreamPreparation ι))) : Prop where
  inHand : ∀ routed, run.result = .ok routed →
    routed.response.prepared.first.isSome = true
  failsOver : ∀ candidate ∈ candidates,
    let provider := routedProvider candidate.provider.config
    EndsEmpty (streams provider) →
      provider.id ∈ (calls (failoverTrace run.effects)).map Prod.fst →
        breakerReports (failoverTrace run.effects) provider.id = [.failure]

/-- Closed breakers, and a load balancer that takes a provider as soon as it is a
candidate. -/
def preferring
    (preferred : BaseProvider)
    (streams : BaseProvider → Yields ι Thrown) : Environment (FirstResult ι) where
  select _ remaining nonempty :=
    if isMember : preferred ∈ remaining then ⟨preferred, isMember⟩
    else ⟨remaining.head nonempty, List.head_mem nonempty⟩
  acquire _ _ := .ok { state := .closed, allowed := true }
  call _ provider := firstResult (streams provider)
  bookkeeping _ := .ok ()

end Model

section Commitment

variable {ι : Type} {streams : BaseProvider → Yields ι Thrown}

/-- The generator gets the stream as it was committed to. -/
theorem commit_eq_firstResult (stream : Yields ChatCompletionChunk Thrown) :
    CommittedStream.commit stream =
      (firstResult stream).map fun prepared =>
        match prepared.first with
        | some first => .begins first prepared.iterator
        | none => .empty := by
  obtain ⟨_ | ⟨first, items⟩, _ | error⟩ := stream <;> rfl

/-- The first result has no chunk exactly if the stream ends without one. -/
theorem firstResult_of_endsEmpty
    {stream : Yields ι Thrown}
    (endsEmpty : EndsEmpty stream) :
    firstResult stream =
      .ok { first := none, iterator := { items := [], ending := .finished } } := by
  obtain ⟨items, ending⟩ := stream
  obtain ⟨rfl, rfl⟩ := endsEmpty
  rfl

theorem isSome_first_of_not_endsEmpty
    {stream : Yields ι Thrown}
    (notEmpty : ¬EndsEmpty stream)
    {prepared : FirstResult ι}
    (isFirst : firstResult stream = .ok prepared) :
    prepared.first.isSome = true := by
  obtain ⟨_ | ⟨first, items⟩, _ | error⟩ := stream
  · exact absurd ⟨rfl, rfl⟩ notEmpty
  · cases isFirst
  · cases isFirst
    rfl
  · cases isFirst
    rfl

/-- The loop returns the first result of a preferred candidate. -/
theorem runFailover_preferring
    {candidates : List BaseProvider}
    {preferred : BaseProvider}
    (isCandidate : preferred ∈ candidates)
    {prepared : FirstResult ι}
    (isFirst : firstResult (streams preferred) = .ok prepared) :
    (runFailover (preferring preferred streams) candidates).1 =
      .ok { provider := preferred, value := prepared, failoverCount := 0 } := by
  have nonempty : candidates ≠ [] := List.ne_nil_of_mem isCandidate
  have selects : (preferring preferred streams).select [] candidates nonempty =
      ⟨preferred, isCandidate⟩ := dif_pos isCandidate
  unfold runFailover failoverLoop
  rw [dif_pos nonempty, selects]
  simp [attempt, acquire, callProvider, preferring, isFirst]

/-- What `prepareStream` returns comes from the failover loop. -/
theorem exists_result_of_prepareStream
    {deps : RouterDeps (FirstResult ι)}
    {tokenizer : Tokenizer}
    {request : ChatCompletionRequest}
    {context : GatewayContext}
    {snapshot : Snapshot}
    (registry : deps.registry = .ok snapshot)
    {routed : Routed (StreamPreparation ι)}
    (returns : (prepareStream deps tokenizer request context).result =
      .ok routed) :
    ∃ result, routed.response.prepared = FailoverResult.value result ∧
      (runFailover deps.failover
        ((snapshot.resolveCandidates request.model).candidates.map
          fun candidate => routedProvider candidate.provider.config)).1 =
        .ok result := by
  unfold prepareStream at returns
  rw [registry, Traced.ofExcept_ok_bind] at returns
  by_cases refused : Refused snapshot context request.model
  · obtain ⟨thrown, fails⟩ := resolveAndAuthorize_of_refused refused
    rw [fails] at returns
    cases returns
  · rw [resolveAndAuthorize_of_not_refused refused, Traced.ofExcept_ok_bind] at returns
    unfold prepareResolved at returns
    obtain ⟨-, -, afterBudget⟩ := Traced.result_bind_eq_ok_iff.1 returns
    obtain ⟨result, called, answered⟩ := Traced.result_bind_eq_ok_iff.1 afterBudget
    cases answered
    exact ⟨result, rfl, called⟩

/-- What the failover loop returns is what `prepareStream` returns. -/
theorem exists_routed_of_runFailover
    (deps : RouterDeps (FirstResult ι))
    (tokenizer : Tokenizer)
    (request : ChatCompletionRequest)
    (context : GatewayContext)
    {snapshot : Snapshot}
    (registry : deps.registry = .ok snapshot)
    (passes : ¬Refused snapshot context request.model)
    (withinBudget :
      CostTracker.isOverBudget context.monthlyBudgetUsd deps.monthlySpendUsd = false)
    {result : FailoverResult (FirstResult ι)}
    (returned : (runFailover deps.failover
      ((snapshot.resolveCandidates request.model).candidates.map
        fun candidate => routedProvider candidate.provider.config)).1 =
      .ok result) :
    ∃ routed : Routed (StreamPreparation ι),
      (prepareStream deps tokenizer request context).result = .ok routed ∧
        routed.response.prepared = result.value := by
  have checked : (enforceBudget deps context).result = .ok () := by
    unfold enforceBudget
    rw [withinBudget]
    rfl
  unfold prepareStream
  rw [registry, Traced.ofExcept_ok_bind, resolveAndAuthorize_of_not_refused passes,
    Traced.ofExcept_ok_bind]
  unfold prepareResolved
  exact ⟨_, Traced.result_bind_eq_ok_iff.2 ⟨(), checked,
    Traced.result_bind_eq_ok_iff.2 ⟨result, returned, rfl⟩⟩, rfl⟩

end Commitment

section Runs

variable {ι : Type} {streams : BaseProvider → Yields ι Thrown}
  {snapshot : Snapshot}

/-- A key without limits. -/
def openContext : GatewayContext where
  apiKeyId := "key"
  ownerId := none
  name := none
  rpmLimit := 0
  tpmLimit := 0
  monthlyBudgetUsd := none
  allowedModels := none
  expiresAtMs := none

/-- A request that only names its model. -/
def bareRequest (model : String) : ChatCompletionRequest where
  model := model
  messages := []

/-- The router over some streams, with a provider that is preferred. -/
def preferringDeps
    (snapshot : Snapshot)
    (preferred : BaseProvider)
    (streams : BaseProvider → Yields ι Thrown) : RouterDeps (FirstResult ι) where
  registry := .ok snapshot
  cacheEnabled := false
  monthlySpendUsd := 0
  failover := preferring preferred streams

/-- The router commits to a stream that ends empty, if its provider comes first. -/
theorem not_commits_of_endsEmpty
    (tokenizer : Tokenizer)
    {model : String}
    {candidate : ModelCandidate}
    (isCandidate : candidate ∈ (snapshot.resolveCandidates model).candidates)
    (endsEmpty : EndsEmpty (streams (routedProvider candidate.provider.config))) :
    ¬CommitsWithChunk streams (snapshot.resolveCandidates model).candidates
      (prepareStream
        (preferringDeps snapshot (routedProvider candidate.provider.config) streams)
        tokenizer (bareRequest model) openContext) := by
  intro commits
  have passes : ¬Refused snapshot openContext model := by
    rintro (noCandidates | ⟨allowed, isAllowList, -⟩)
    · rw [noCandidates] at isCandidate
      cases isCandidate
    · cases isAllowList
  have returned := runFailover_preferring
    (List.mem_map_of_mem (f := fun candidate : ModelCandidate =>
      routedProvider candidate.provider.config) isCandidate)
    (firstResult_of_endsEmpty endsEmpty)
  obtain ⟨routed, returns, isPrepared⟩ := exists_routed_of_runFailover
    (preferringDeps snapshot _ streams) tokenizer (bareRequest model) openContext
    rfl passes rfl returned
  have inHand := commits.inHand routed returns
  rw [isPrepared] at inHand
  cases inHand

/-- The router commits with a chunk in hand if no candidate ends empty. -/
theorem commits_of_not_endsEmpty
    {deps : RouterDeps (FirstResult ι)}
    (registry : deps.registry = .ok snapshot)
    (calls : deps.failover.call = fun _ provider => firstResult (streams provider))
    {tokenizer : Tokenizer}
    {request : ChatCompletionRequest}
    {context : GatewayContext}
    (notEmpty : ∀ candidate ∈
      (snapshot.resolveCandidates request.model).candidates,
        ¬EndsEmpty (streams (routedProvider candidate.provider.config))) :
    CommitsWithChunk streams
      (snapshot.resolveCandidates request.model).candidates
      (prepareStream deps tokenizer request context) where
  inHand := by
    intro routed returns
    obtain ⟨result, isPrepared, returned⟩ :=
      exists_result_of_prepareStream registry returns
    have concludes := concludes_runFailover deps.failover
      ((snapshot.resolveCandidates request.model).candidates.map
        fun candidate => routedProvider candidate.provider.config)
    rw [returned] at concludes
    cases concludes with
    | returned failures provider value isCandidate allRetried callsMade =>
        have isCall : (provider.id, .ok value) ∈ Router.calls (runFailover
            deps.failover
              ((snapshot.resolveCandidates request.model).candidates.map
                fun candidate => routedProvider candidate.provider.config)).2 := by
          rw [callsMade]
          exact List.mem_append_right _ List.mem_cons_self
        obtain ⟨called, isMember, -, before, answered⟩ :=
          (answeredBy_runFailover deps.failover _).mem_calls isCall
        obtain ⟨candidate, isCandidate, rfl⟩ := List.mem_map.1 isMember
        rw [calls] at answered
        rw [isPrepared]
        exact isSome_first_of_not_endsEmpty (notEmpty candidate isCandidate)
          answered
  failsOver := by
    intro candidate isCandidate provider endsEmpty
    exact absurd endsEmpty (notEmpty candidate isCandidate)

end Runs

/-- Whatever the load balancer selects and the breakers answer, `prepareStream`
commits with a chunk in hand and fails over from streams that end without one,
exactly if no candidate's stream ends so. -/
theorem commitsWithChunk_iff
    {ι : Type}
    (tokenizer : Tokenizer)
    (snapshot : Snapshot)
    (model : String)
    (streams : BaseProvider → Yields ι Thrown) :
    (∀ (deps : RouterDeps (FirstResult ι)) (request : ChatCompletionRequest)
      (context : GatewayContext),
      deps.registry = .ok snapshot →
        deps.failover.call = (fun _ provider => firstResult (streams provider)) →
          request.model = model →
            CommitsWithChunk streams (snapshot.resolveCandidates model).candidates
              (prepareStream deps tokenizer request context)) ↔
      ∀ candidate ∈ (snapshot.resolveCandidates model).candidates,
        ¬EndsEmpty (streams (routedProvider candidate.provider.config)) := by
  constructor
  · intro commits candidate isCandidate endsEmpty
    exact not_commits_of_endsEmpty tokenizer isCandidate endsEmpty
      (commits _ (bareRequest model) openContext rfl rfl rfl)
  · rintro notEmpty deps request context registry calls rfl
    exact commits_of_not_endsEmpty registry calls notEmpty

section Adapters

variable {parse : String → Option Foundations.Json}

/-- The OpenAI adapter yields nothing for an event. -/
def Skips (parse : String → Option Foundations.Json) (event : SSEEvent) : Prop :=
  event.data ≠ "[DONE]" ∧ (event.data = "" ∨ parse event.data = none)

/-- Every event is skipped up to the first `[DONE]`, or up to the clean end of the
body. -/
def OnlySkipped
    (parse : String → Option Foundations.Json)
    (source : Yields SSEEvent Thrown) : Prop :=
  ∃ skipped rest, source.items = skipped ++ rest ∧
    (∀ event ∈ skipped, Skips parse event) ∧
    ((rest = [] ∧ source.ending = .finished) ∨
      ∃ done later, rest = done :: later ∧ done.data = "[DONE]")

theorem onlySkipped_nil {ending : Ending Thrown} :
    OnlySkipped parse { items := [], ending := ending } ↔ ending = .finished := by
  constructor
  · rintro ⟨skipped, rest, split, -, ⟨-, isFinished⟩ | ⟨done, later, rfl, -⟩⟩
    · exact isFinished
    · simp at split
  · exact fun isFinished => ⟨[], [], rfl, nofun, .inl ⟨rfl, isFinished⟩⟩

theorem onlySkipped_cons
    {event : SSEEvent}
    {items : List SSEEvent}
    {ending : Ending Thrown} :
    OnlySkipped parse { items := event :: items, ending := ending } ↔
      event.data = "[DONE]" ∨
        Skips parse event ∧ OnlySkipped parse { items := items, ending := ending } := by
  constructor
  · rintro ⟨_ | ⟨first, skipped⟩, rest, split, areSkipped, ends⟩
    · rcases ends with ⟨rfl, -⟩ | ⟨done, later, rfl, isDone⟩
      · cases split
      · cases split
        exact .inl isDone
    · cases split
      rw [List.forall_mem_cons] at areSkipped
      exact .inr ⟨areSkipped.1, skipped, rest, rfl, areSkipped.2, ends⟩
  · rintro (isDone | ⟨isSkipped, skipped, rest, split, areSkipped, ends⟩)
    · exact ⟨[], event :: items, rfl, nofun, .inr ⟨event, items, rfl, isDone⟩⟩
    · exact ⟨event :: skipped, rest, congrArg (event :: ·) split,
        List.forall_mem_cons.2 ⟨isSkipped, areSkipped⟩, ends⟩

/-- A stream of the OpenAI adapter ends empty if it only skips events. -/
theorem endsEmpty_openAI_iff (source : Yields SSEEvent Thrown) :
    EndsEmpty ((StreamAdapter.openAI parse).transducer.transduce () source) ↔
      OnlySkipped parse source := by
  obtain ⟨items, ending⟩ := source
  unfold Transducer.transduce
  dsimp only
  induction items with
  | nil =>
      rw [onlySkipped_nil]
      cases ending with
      | finished => exact iff_of_true ⟨rfl, rfl⟩ rfl
      | threw error => exact iff_of_false nofun nofun
  | cons event items inductionHypothesis =>
      rw [onlySkipped_cons]
      by_cases isDone : event.data = "[DONE]"
      · rw [StreamAdapter.run_openAI_of_done isDone]
        exact iff_of_true ⟨rfl, rfl⟩ (.inl isDone)
      · by_cases isSkipped : event.data = "" ∨ parse event.data = none
        · rw [StreamAdapter.run_openAI_of_skipped isDone isSkipped,
            inductionHypothesis, or_iff_right isDone]
          exact (and_iff_right ⟨isDone, isSkipped⟩).symm
        · have notBoth := not_or.1 isSkipped
          obtain ⟨value, isValue⟩ := Option.ne_none_iff_exists'.1 notBoth.2
          rw [StreamAdapter.run_openAI_of_value isDone notBoth.1 isValue]
          refine iff_of_false (fun endsEmpty => ?_) ?_
          · cases endsEmpty.1
          · rintro (done | ⟨skips, -⟩)
            · exact isDone done
            · exact isSkipped skips.2

/-- A parser of `{}`. -/
def emptyObject (_ : String) : Option Foundations.Json := some (.object [])

/-- The stream of the OpenAI adapter over a body of ASCII text. -/
def openAIStream (text : String) : Yields StreamItem Thrown :=
  chatStream plainProvider asciiDecoder emptyObject "OpenAI" (.openAI emptyObject)
    (.ok
      { status := 200
        body := some
          { items := [text.toList.map fun char => UInt8.ofNat char.toNat]
            ending := .finished } })

/-- A candidate with a name. -/
def namedCandidate (name : String) : ModelCandidate where
  provider :=
    { config := { id := name, name := name, models := [] }
      adapterType := .openai
      baseUrl := ""
      apiKey := ""
      timeoutMs := 0
      weight := 1
      priority := 1 }
  modelId := "m"
  model :=
    { maxOutputTokens := none, inputPricePer1k := none, outputPricePer1k := none }

/-- A model with two candidates. -/
def twoCandidates : Snapshot where
  candidatesByModel :=
    [("m", [namedCandidate "empty", namedCandidate "healthy"])]

/-- The first candidate sends only `[DONE]`, the second one a chunk. -/
def twoStreams (provider : BaseProvider) : Yields StreamItem Thrown :=
  if provider.id = "empty" then openAIStream "data: [DONE]\n\n"
  else openAIStream "data: {}\n\ndata: [DONE]\n\n"

/-- The router commits to the stream that has only `[DONE]`, although the second
candidate would send a chunk. -/
theorem done_only_stream_committed :
    let tokenizer : Tokenizer := { toLowerCase := id, encode := fun _ _ => 0 }
    (twoStreams (routedProvider (namedCandidate "healthy").provider.config)).items ≠
        [] ∧
      ¬CommitsWithChunk twoStreams (twoCandidates.resolveCandidates "m").candidates
        (prepareStream
          (preferringDeps twoCandidates
            (routedProvider (namedCandidate "empty").provider.config) twoStreams)
          tokenizer (bareRequest "m") openContext) := by
  intro tokenizer
  exact ⟨nofun,
    not_commits_of_endsEmpty tokenizer List.mem_cons_self ⟨rfl, rfl⟩⟩

end Adapters

end Router
end AiGateway
