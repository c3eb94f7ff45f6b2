import AiGateway.LoadBalancer.LatencyBased
import AiGateway.Router.StreamDelivery

/-!
# What the load balancer hears of a stream

The load balancer counts samples of successful calls towards the latency of a
provider, and the failover loop reports failed calls to it. The `finally` block of
the generator of `prepareStream` hands the latency of every stream to
`recordProviderMetrics`, also of one that ended in an error of the provider. The main
theorem tells when the load balancer hears of no success for a failed stream.
-/

namespace AiGateway
namespace Router

open Foundations (Ending Yields runFrom runFrom_cons runFrom_nil)
open LoadBalancer (Candidate ScriptCall)
open LoadBalancer.LatencyBased
  (Averages Settings average average_recordSuccess_lt defaultSettings recordSuccess score
    score_le_of_quick_sample)
open OpenAI

section Model

/-- What `recordProviderMetrics` does, apart from the calls with other numbers. -/
inductive MetricsEffect
  /-- `metrics.providerRequests.inc`. -/
  | providerRequests (outcome : String)
  /-- `loadBalancer.recordSuccess`. -/
  | balancerSuccess (providerId : String) (latencyMs : Int)
  deriving DecidableEq, Repr

-- `metrics.tokens.inc` for a direction, which may reject a count
variable (inc : String → ℚ → Except Thrown Unit)

/-- `metrics.tokens.inc` for both directions. -/
def incTokens (promptTokens completionTokens : ℚ) : Except Thrown Unit := do
  inc "prompt" promptTokens
  inc "completion" completionTokens

/-- `recordProviderMetrics`; the sample does not depend on the outcome. -/
def recordProviderMetrics
    (providerId : String)
    (latencyMs : Int)
    (promptTokens completionTokens : ℚ)
    (outcome : String) : List MetricsEffect :=
  .providerRequests outcome ::
    match incTokens inc promptTokens completionTokens with
    | .ok () => [.balancerSuccess providerId latencyMs]
    | .error _ => []

/-- What the `finally` block has `recordProviderMetrics` do, with the counts that it
logs. -/
def finallyMetrics
    (latencyMs : Int)
    (errored : Bool) : StreamEvent → List MetricsEffect
  | .enqueueRequest entry =>
      recordProviderMetrics inc entry.providerId latencyMs entry.promptTokens
        entry.completionTokens (if errored then "error" else "success")
  | _ => []

/-- The generator, and what it had `recordProviderMetrics` do. -/
structure FeedbackRun where
  run : StreamRun
  metrics : List MetricsEffect := []

/-- One more call at an instant, for a call of the provider that began at `start`. -/
def StreamContext.advanceAt
    (context : StreamContext)
    (start : Int)
    (state : FeedbackRun)
    (call : ConsumerCall × Int) : FeedbackRun :=
  let events := (context.call state.run.generator call.1).1
  { run := context.advance state.run call.1
    metrics := state.metrics ++
      events.flatMap
        (finallyMetrics inc (call.2 - start) (upstreamFailed events)) }

/-- The generator that `prepareStream` returns, after some calls with their
instants. -/
def StreamContext.serveAt
    (context : StreamContext)
    (start : Int)
    (stream : CommittedStream)
    (calls : List (ConsumerCall × Int)) : FeedbackRun :=
  runFrom (context.advanceAt inc start) { run := { generator := .created stream } }
    calls

/-- What the load balancer makes of the samples while Redis answers. -/
def applySamples
    (settings : Settings)
    (clock : Nat)
    (metrics : List MetricsEffect)
    (averages : Averages) : Averages :=
  metrics.foldl
    (fun averages effect =>
      match effect with
      | .balancerSuccess providerId latencyMs =>
          recordSuccess settings clock .answered providerId latencyMs averages
      | .providerRequests _ => averages)
    averages

/-- A stream that ended in an error of its provider is no success for the load
balancer, and does not lower the average of the provider. -/
def FailureIsNoSuccess
    (settings : Settings)
    (providerId : String)
    (state : FeedbackRun) : Prop :=
  upstreamFailed state.run.trace = true →
    (∀ latencyMs, .balancerSuccess providerId latencyMs ∉ state.metrics) ∧
      ∀ clock averages,
        average clock averages providerId ≤
          average clock (applySamples settings clock state.metrics averages) providerId

end Model

section Calls

variable
  (context : StreamContext)
  (inc : String → ℚ → Except Thrown Unit)
  (start : Int)

/-- How often the consumer calls `next` before it returns. -/
def nextCount (calls : List (ConsumerCall × Int)) : Nat :=
  (calls.takeWhile fun call => call.1 = .next).length

/-- The chunks that a stream delivers. -/
def deliverable (stream : Yields ChatCompletionChunk Thrown) : Nat :=
  (stream.items.filter context.delivers).length

/-- Does a stream end in an error? -/
def endsInError (ending : Ending Thrown) : Bool :=
  match ending with
  | .finished => false
  | .threw _ => true

/-- The loop runs to the end, or to the next chunk that it delivers. -/
theorem forLoop_cases
    (ending : Ending Thrown)
    (tally : Tally)
    (items : List ChatCompletionChunk) :
    let (events, state) := context.forLoop ending tally items
    (deliverable context { items, ending } = 0 ∧ state = .completed ∧
        accounts events =
          context.finalise (items.foldl consume tally) (endsInError ending) ∧
        upstreamFailed events = endsInError ending) ∨
      ∃ later rest, state = .suspended later { items := rest, ending := ending } ∧
        deliverable context { items, ending } =
          deliverable context { items := rest, ending } + 1 ∧
        rest.foldl consume later = items.foldl consume tally ∧
        accounts events = [] ∧ upstreamFailed events = false := by
  induction items generalizing tally with
  | nil => cases ending <;> exact .inl ⟨rfl, rfl, rfl, rfl⟩
  | cons chunk items inductionHypothesis =>
      rw [StreamContext.forLoop, deliverable, List.filter_cons]
      by_cases delivers : context.delivers chunk = true
      · rw [if_pos delivers, if_pos delivers]
        exact .inr ⟨consume tally chunk, items, rfl, rfl, rfl, rfl, rfl⟩
      · rw [if_neg delivers, if_neg delivers]
        exact inductionHypothesis (consume tally chunk)

/-- Only the log entry of the `finally` block has metrics. -/
theorem flatMap_finallyMetrics
    (latencyMs : Int)
    (errored : Bool)
    (events : List StreamEvent) :
    events.flatMap (finallyMetrics inc latencyMs errored) =
      (accounts events).flatMap (finallyMetrics inc latencyMs errored) := by
  induction events with
  | nil => rfl
  | cons event events inductionHypothesis =>
      rw [List.flatMap_cons, inductionHypothesis]
      cases event <;> rfl

/-- A generator that is completed stays so. -/
theorem runFrom_advanceAt_of_completed
    {state : FeedbackRun}
    (completed : state.run.generator = .completed)
    (calls : List (ConsumerCall × Int)) :
    runFrom (context.advanceAt inc start) state calls = state := by
  induction calls with
  | nil => rfl
  | cons call calls inductionHypothesis =>
      have unchanged : context.advanceAt inc start state call = state := by
        obtain ⟨⟨generator, trace⟩, metrics⟩ := state
        cases completed
        change FeedbackRun.mk ⟨.completed, trace ++ []⟩ (metrics ++ []) = _
        rw [List.append_nil, List.append_nil]
      rw [runFrom_cons, unchanged, inductionHypothesis]

/-- What a failed stream has `recordProviderMetrics` do. -/
def failureMetrics
    (stream : Yields ChatCompletionChunk Thrown)
    (tally : Tally)
    (latencyMs : Int) : List MetricsEffect :=
  let counts := stream.items.foldl consume tally
  recordProviderMetrics inc context.providerId latencyMs counts.promptTokens
    counts.completionTokens "error"

/-- A call of `next` runs the loop to the end, or to the next chunk that it
delivers. -/
theorem advanceAt_next
    (trace : List StreamEvent)
    (metrics : List MetricsEffect)
    (tally : Tally)
    (rest : Yields ChatCompletionChunk Thrown)
    (now : Int) :
    let state := context.advanceAt inc start
      { run := { generator := .suspended tally rest, trace := trace }
        metrics := metrics } (.next, now)
    (deliverable context rest = 0 ∧ state.run.generator = .completed ∧
        upstreamFailed state.run.trace =
          (upstreamFailed trace || endsInError rest.ending) ∧
        (endsInError rest.ending = true →
          state.metrics =
            metrics ++ failureMetrics context inc rest tally (now - start))) ∨
      ∃ later left, state.run.generator = .suspended later left ∧
        left.ending = rest.ending ∧
        deliverable context rest = deliverable context left + 1 ∧
        left.items.foldl consume later = rest.items.foldl consume tally ∧
        upstreamFailed state.run.trace = upstreamFailed trace ∧
        state.metrics = metrics := by
  intro state
  have traceEq : upstreamFailed state.run.trace =
      (upstreamFailed trace ||
        upstreamFailed (context.forLoop rest.ending tally rest.items).1) :=
    upstreamFailed_append trace _
  have metricsEq : state.metrics = metrics ++
      (accounts (context.forLoop rest.ending tally rest.items).1).flatMap
        (finallyMetrics inc (now - start)
          (upstreamFailed (context.forLoop rest.ending tally rest.items).1)) :=
    congrArg (metrics ++ ·) (flatMap_finallyMetrics inc _ _ _)
  rcases forLoop_cases context rest.ending tally rest.items with
    ⟨allHidden, completed, accountsEq, failedEq⟩ |
    ⟨later, left, suspended, fewer, sameCounts, noAccount, notFailed⟩
  · refine .inl ⟨allHidden, completed, by rw [traceEq, failedEq], fun isError => ?_⟩
    rw [metricsEq, accountsEq, failedEq, isError]
    exact congrArg (metrics ++ ·) (List.append_nil _)
  · refine .inr ⟨later, _, suspended, rfl, fewer, sameCounts, ?_, ?_⟩
    · rw [traceEq, notFailed, Bool.or_false]
    · rw [metricsEq, noAccount]
      exact List.append_nil _

/-- A consumer that reads a stream up to its error has the metrics of a failed stream
recorded. -/
theorem metrics_of_read_error
    {rest : Yields ChatCompletionChunk Thrown}
    (isError : endsInError rest.ending = true)
    (trace : List StreamEvent)
    (metrics : List MetricsEffect)
    (tally : Tally)
    {calls : List (ConsumerCall × Int)}
    (readsError : deliverable context rest < nextCount calls) :
    let state := runFrom (context.advanceAt inc start)
      { run := { generator := .suspended tally rest, trace := trace }
        metrics := metrics } calls
    upstreamFailed state.run.trace = true ∧
      ∃ latencyMs, state.metrics =
        metrics ++ failureMetrics context inc rest tally latencyMs := by
  induction calls generalizing rest trace metrics tally with
  | nil => exact absurd readsError (Nat.not_lt_zero _)
  | cons call calls inductionHypothesis =>
      obtain ⟨_ | _, now⟩ := call
      · have cases := advanceAt_next context inc start trace metrics tally rest now
        rw [runFrom_cons]
        generalize context.advanceAt inc start _ (ConsumerCall.next, now) = state
          at cases ⊢
        rcases cases with ⟨-, completed, failed, metricsEq⟩ |
          ⟨later, left, suspended, sameEnding, fewer, sameCounts, failed, metricsEq⟩
        · rw [runFrom_advanceAt_of_completed context inc start completed]
          rw [isError, Bool.or_true] at failed
          exact ⟨failed, _, metricsEq isError⟩
        · obtain ⟨⟨generator, nextTrace⟩, nextMetrics⟩ := state
          dsimp only at suspended failed metricsEq
          subst suspended metricsEq
          rw [fewer] at readsError
          obtain ⟨laterFailed, latencyMs, laterMetrics⟩ := inductionHypothesis
            (sameEnding ▸ isError) nextTrace nextMetrics later
            (Nat.lt_of_succ_lt_succ readsError)
          refine ⟨laterFailed, latencyMs, laterMetrics.trans ?_⟩
          unfold failureMetrics
          rw [sameCounts]
      · exact absurd readsError (Nat.not_lt_zero _)

/-- Otherwise the generator meets no error of the provider. -/
theorem not_failed_of_not_read
    {rest : Yields ChatCompletionChunk Thrown}
    (trace : List StreamEvent)
    (metrics : List MetricsEffect)
    (tally : Tally)
    {calls : List (ConsumerCall × Int)}
    (noError : ¬(endsInError rest.ending = true ∧
      deliverable context rest < nextCount calls)) :
    upstreamFailed (runFrom (context.advanceAt inc start)
      { run := { generator := .suspended tally rest, trace := trace }
        metrics := metrics } calls).run.trace = upstreamFailed trace := by
  induction calls generalizing rest trace metrics tally with
  | nil => rfl
  | cons call calls inductionHypothesis =>
      rw [runFrom_cons]
      obtain ⟨_ | _, now⟩ := call
      · have cases := advanceAt_next context inc start trace metrics tally rest now
        generalize context.advanceAt inc start _ (ConsumerCall.next, now) = state
          at cases ⊢
        rcases cases with ⟨allHidden, completed, failed, -⟩ |
          ⟨later, left, suspended, sameEnding, fewer, -, failed, -⟩
        · rw [runFrom_advanceAt_of_completed context inc start completed, failed]
          rw [allHidden, not_and] at noError
          cases isError : endsInError rest.ending with
          | false => exact Bool.or_false _
          | true => exact absurd (Nat.succ_pos _) (noError isError)
        · obtain ⟨⟨generator, nextTrace⟩, nextMetrics⟩ := state
          dsimp only at suspended failed
          subst suspended
          rw [inductionHypothesis nextTrace nextMetrics later, failed]
          rintro ⟨isError, readsError⟩
          rw [sameEnding] at isError
          rw [fewer] at noError
          exact noError ⟨isError, Nat.succ_lt_succ readsError⟩
      · rw [runFrom_advanceAt_of_completed context inc start rfl]
        exact (upstreamFailed_append trace _).trans (Bool.or_false _)

/-- The first call of `next` finds the generator as at a `yield` before the first
chunk. -/
theorem serveAt_next
    (stream : CommittedStream)
    (now : Int)
    (calls : List (ConsumerCall × Int)) :
    context.serveAt inc start stream ((.next, now) :: calls) =
      runFrom (context.advanceAt inc start)
        { run := { generator := .suspended context.start stream.source } }
        ((.next, now) :: calls) := by
  have sameCall : context.call (.created stream) .next =
      context.call (.suspended context.start stream.source) .next :=
    firstNext_eq context stream
  rw [StreamContext.serveAt, runFrom_cons, runFrom_cons]
  refine congrArg (runFrom _ · calls) ?_
  simp only [StreamContext.advanceAt, StreamContext.advance, sameCall]

/-- A generator meets the error of its provider if the consumer reads up to it. -/
theorem upstreamFailed_serveAt_iff
    (stream : CommittedStream)
    (calls : List (ConsumerCall × Int)) :
    upstreamFailed (context.serveAt inc start stream calls).run.trace = true ↔
      endsInError stream.source.ending = true ∧
        deliverable context stream.source < nextCount calls := by
  cases calls with
  | nil => exact iff_of_false nofun (fun reads => Nat.not_lt_zero _ reads.2)
  | cons call calls =>
      obtain ⟨_ | _, now⟩ := call
      · rw [serveAt_next]
        by_cases reads : endsInError stream.source.ending = true ∧
            deliverable context stream.source < nextCount ((.next, now) :: calls)
        · exact iff_of_true
            (metrics_of_read_error context inc start reads.1 _ _ _ reads.2).1 reads
        · refine iff_of_false ?_ reads
          rw [not_failed_of_not_read context inc start _ _ _ reads]
          exact Bool.false_ne_true
      · refine iff_of_false ?_ fun reads => Nat.not_lt_zero _ reads.2
        rw [StreamContext.serveAt, runFrom_cons,
          runFrom_advanceAt_of_completed context inc start rfl]
        exact Bool.false_ne_true

/-- A failed stream has its metrics recorded once. -/
theorem metrics_of_upstreamFailed
    {stream : CommittedStream}
    {calls : List (ConsumerCall × Int)}
    (failed :
      upstreamFailed (context.serveAt inc start stream calls).run.trace = true) :
    ∃ latencyMs, (context.serveAt inc start stream calls).metrics =
      failureMetrics context inc stream.source context.start latencyMs := by
  obtain ⟨isError, reads⟩ :=
    (upstreamFailed_serveAt_iff context inc start stream calls).1 failed
  cases calls with
  | nil => exact absurd reads (Nat.not_lt_zero _)
  | cons call calls =>
      obtain ⟨_ | _, now⟩ := call
      · rw [serveAt_next]
        exact (metrics_of_read_error context inc start isError _ _ _ reads).2
      · exact absurd reads (Nat.not_lt_zero _)

/-- The metrics reject the counts that are logged for a stream. -/
def RejectsCounts (stream : CommittedStream) : Prop :=
  let counts := stream.source.items.foldl consume context.start
  incTokens inc counts.promptTokens counts.completionTokens ≠ .ok ()

/-- A failed stream is a success for the load balancer, unless the metrics reject its
counts. -/
theorem failureMetrics_eq
    (stream : CommittedStream)
    (latencyMs : Int)
    (accepted : ¬RejectsCounts context inc stream) :
    failureMetrics context inc stream.source context.start latencyMs =
      [.providerRequests "error", .balancerSuccess context.providerId latencyMs] := by
  have recorded := not_not.1 accepted
  unfold failureMetrics recordProviderMetrics
  dsimp only
  rw [recorded]

theorem failureMetrics_eq_of_rejectsCounts
    (stream : CommittedStream)
    (latencyMs : Int)
    (rejected : RejectsCounts context inc stream) :
    failureMetrics context inc stream.source context.start latencyMs =
      [.providerRequests "error"] := by
  unfold RejectsCounts at rejected
  unfold failureMetrics recordProviderMetrics
  dsimp only
  cases recorded : incTokens inc
      (stream.source.items.foldl consume context.start).promptTokens
      (stream.source.items.foldl consume context.start).completionTokens with
  | ok _ => exact absurd recorded rejected
  | error thrown => rfl

end Calls

section Feedback

variable
  {context : StreamContext}
  {inc : String → ℚ → Except Thrown Unit}
  {start : Int}
  {stream : CommittedStream}
  {calls : List (ConsumerCall × Int)}

/-- A failed stream with counts that the metrics accept lowers the average of its
provider, and not its score, if it failed in half of that average. -/
theorem average_lt_of_quick_failure
    (settings : Settings)
    (failed :
      upstreamFailed (context.serveAt inc start stream calls).run.trace = true)
    (accepted : ¬RejectsCounts context inc stream) :
    ∃ latencyMs : Int,
      .balancerSuccess context.providerId latencyMs ∈
        (context.serveAt inc start stream calls).metrics ∧
      ∀ clock averages (candidate : Candidate),
        candidate.id = context.providerId → 1 ≤ average clock averages candidate.id →
        2 * ((max 0 latencyMs : Int) : ℚ) ≤ average clock averages candidate.id →
          let later := applySamples settings clock
            (context.serveAt inc start stream calls).metrics averages
          average clock later candidate.id < average clock averages candidate.id ∧
            score clock averages candidate ≤ score clock later candidate := by
  obtain ⟨latencyMs, metricsEq⟩ := metrics_of_upstreamFailed context inc start failed
  rw [failureMetrics_eq context inc stream latencyMs accepted] at metricsEq
  rw [metricsEq]
  refine ⟨latencyMs, List.mem_cons_of_mem _ List.mem_cons_self, ?_⟩
  intro clock averages candidate isProvider large isQuick later
  have laterEq : later =
      recordSuccess settings clock .answered candidate.id latencyMs averages := by
    rw [isProvider]
    rfl
  have answered : ScriptCall.answered ≠ .notRun := nofun
  rw [laterEq]
  exact ⟨average_recordSuccess_lt settings candidate.id averages answered large isQuick,
    score_le_of_quick_sample settings averages answered candidate large isQuick⟩

end Feedback

/-- A failed stream is no success for the load balancer if and only if the stream of
the provider does not end in an error, or the consumer returns before it reads up to
the error, or the metrics reject the counts and so end the `finally` block. -/
theorem failureIsNoSuccess_iff
    (settings : Settings)
    (context : StreamContext)
    (inc : String → ℚ → Except Thrown Unit)
    (start : Int)
    (stream : CommittedStream)
    (calls : List (ConsumerCall × Int)) :
    FailureIsNoSuccess settings context.providerId
        (context.serveAt inc start stream calls) ↔
      endsInError stream.source.ending = false ∨
        nextCount calls ≤ deliverable context stream.source ∨
        RejectsCounts context inc stream := by
  have failedIff := upstreamFailed_serveAt_iff context inc start stream calls
  constructor
  · intro isNoSuccess
    by_contra failing
    rw [not_or, not_or, Bool.not_eq_false, not_le] at failing
    obtain ⟨isError, reads, accepted⟩ := failing
    have failed := failedIff.2 ⟨isError, reads⟩
    obtain ⟨latencyMs, metricsEq⟩ :=
      metrics_of_upstreamFailed context inc start failed
    refine (isNoSuccess failed).1 latencyMs ?_
    rw [metricsEq, failureMetrics_eq context inc stream latencyMs accepted]
    exact List.mem_cons_of_mem _ List.mem_cons_self
  · intro holds failed
    obtain ⟨isError, reads⟩ := failedIff.1 failed
    have rejected : RejectsCounts context inc stream := by
      rcases holds with finished | stopsEarlier | rejected
      · rw [isError] at finished
        cases finished
      · exact absurd reads (Nat.not_lt_of_le stopsEarlier)
      · exact rejected
    obtain ⟨latencyMs, metricsEq⟩ :=
      metrics_of_upstreamFailed context inc start failed
    rw [metricsEq, failureMetrics_eq_of_rejectsCounts context inc stream latencyMs
      rejected]
    refine ⟨fun _ isEffect => ?_, fun _ _ => le_rfl⟩
    cases List.mem_singleton.1 isEffect

section Sample

/-- A provider breaks off 10 ms after the call began, with a chunk delivered: the load
balancer hears of a success of 10 ms. -/
theorem quick_failure_is_success :
    let context : StreamContext :=
      { apiKeyId := "key"
        providerId := "p"
        canonicalModel := "m"
        modelInfo := none
        failoverCount := 0
        clientWantsUsage := false
        promptEstimate := 1 }
    let stream : CommittedStream :=
      .begins twoChoices
        { items := [], ending := .threw (.raw "TypeError" "terminated") }
    ¬FailureIsNoSuccess defaultSettings "p"
      (context.serveAt (fun _ _ => .ok ()) 0 stream [(.next, 5), (.next, 10)]) := by
  intro context stream isNoSuccess
  exact (isNoSuccess rfl).1 10 (by decide)

end Sample

end Router
end AiGateway
