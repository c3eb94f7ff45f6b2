import AiGateway.Foundations.Runs
import AiGateway.Router.Accounting
import Mathlib.Data.List.Induction

/-!
# The generator of `prepareStream`, call by call

A consumer of the generator calls `next`, or `return` to stop early. This module
follows the generator from one `yield` to the next, with everything it does
written down in order, and relates what it delivers and bills to the chunks that
it has taken from the provider.
-/

namespace AiGateway
namespace Router

open Foundations (Ending Yields runFrom runFrom_cons runFrom_induction)
open OpenAI

section Model

/-- A stream whose first chunk is in hand, or that ended without one. -/
inductive CommittedStream
  | empty
  | begins
      (first : ChatCompletionChunk)
      (rest : Yields ChatCompletionChunk Thrown)

/-- The first call of `next` on the provider's iterator; its error is left to
the failover loop. -/
def CommittedStream.commit (stream : Yields ChatCompletionChunk Thrown) :
    Except Thrown CommittedStream :=
  match stream.items, stream.ending with
  | first :: items, ending => .ok (.begins first { items, ending })
  | [], .finished => .ok .empty
  | [], .threw error => .error error

/-- All that the provider's iterator gives. -/
def CommittedStream.source :
    CommittedStream → Yields ChatCompletionChunk Thrown
  | .empty => { items := [], ending := .finished }
  | .begins first rest => rest.prepend [first]

/-- A stream is committed to unless it fails before its first chunk. -/
theorem CommittedStream.commit_eq_ok_iff
    {source : Yields ChatCompletionChunk Thrown}
    {stream : CommittedStream} :
    commit source = .ok stream ↔ stream.source = source := by
  obtain ⟨_ | ⟨item, items⟩, ending⟩ := source
  · cases ending <;> cases stream <;>
      simp [commit, CommittedStream.source, Yields.prepend]
  · cases stream with
    | empty => simp [commit, CommittedStream.source]
    | begins first rest =>
        obtain ⟨restItems, restEnding⟩ := rest
        simp [commit, CommittedStream.source, Yields.prepend, @eq_comm _ first,
          @eq_comm _ restItems, @eq_comm _ restEnding, and_assoc]

/-- What the generator does and sees. -/
inductive StreamEvent
  /-- A chunk of the provider is taken into the counts. -/
  | took (chunk : ChatCompletionChunk)
  | upstreamDone
  | upstreamThrew (error : Thrown)
  | yielded (chunk : ChatCompletionChunk)
  /-- The consumer returns at a `yield`. -/
  | stopped
  | addSpend (apiKeyId : String) (costUsd : ℚ)
  | enqueueRequest (entry : RequestLogEntry)

/-- Where the generator stands between two calls. -/
inductive GeneratorState
  | created (stream : CommittedStream)
  /-- It waits at a `yield`, with the rest of the provider's stream. -/
  | suspended (tally : Tally) (rest : Yields ChatCompletionChunk Thrown)
  | completed

/-- What a consumer does with the generator. -/
inductive ConsumerCall
  | next
  | return
  deriving DecidableEq, Repr

namespace StreamContext

variable (context : StreamContext)

/-- The `finally` block. -/
def finalise (tally : Tally) (errored : Bool) : List StreamEvent :=
  let entry := context.settle tally errored
  [.addSpend context.apiKeyId entry.costUsd, .enqueueRequest entry]

/-- The `for` loop from a call of the provider's iterator to the next `yield`,
or to the end. -/
def forLoop (ending : Ending Thrown) (tally : Tally) :
    List ChatCompletionChunk → List StreamEvent × GeneratorState
  | [] =>
      match ending with
      | .finished =>
          (.upstreamDone :: context.finalise tally false, .completed)
      | .threw error =>
          (.upstreamThrew error :: context.finalise tally true, .completed)
  | chunk :: items =>
      let tally := consume tally chunk
      if context.delivers chunk then
        ([.took chunk, .yielded chunk], .suspended tally { items, ending })
      else
        let (events, state) := forLoop ending tally items
        (.took chunk :: events, state)

/-- The first call of `next`, which has the first chunk already. -/
def firstNext : CommittedStream → List StreamEvent × GeneratorState
  | .empty => context.forLoop .finished context.start []
  | .begins first rest =>
      let tally := applyUsage first
        { context.start with
          completionTokens :=
            context.start.completionTokens + countDeltaTokens first }
      if context.delivers first then
        ([.took first, .yielded first], .suspended tally rest)
      else
        let (events, state) := context.forLoop rest.ending tally rest.items
        (.took first :: events, state)

/-- One call: what the generator does, and where it stands then. -/
def call :
    GeneratorState → ConsumerCall → List StreamEvent × GeneratorState
  | .created stream, .next => context.firstNext stream
  -- a generator that was never started runs none of its body
  | .created _, .return => ([], .completed)
  | .suspended tally rest, .next =>
      context.forLoop rest.ending tally rest.items
  | .suspended tally _, .return =>
      (.stopped :: context.finalise tally false, .completed)
  | .completed, _ => ([], .completed)

end StreamContext

/-- The generator and its trace. -/
structure StreamRun where
  generator : GeneratorState
  trace : List StreamEvent := []

/-- One more call. -/
def StreamContext.advance
    (context : StreamContext)
    (run : StreamRun)
    (call : ConsumerCall) : StreamRun :=
  let (events, generator) := context.call run.generator call
  { generator := generator, trace := run.trace ++ events }

/-- The generator that `prepareStream` returns, after some calls. -/
def StreamContext.serve
    (context : StreamContext)
    (stream : CommittedStream)
    (calls : List ConsumerCall) : StreamRun :=
  runFrom context.advance { generator := .created stream } calls

end Model

section Traces

/-- The chunks that are taken. -/
def taken (trace : List StreamEvent) : List ChatCompletionChunk :=
  trace.filterMap fun
    | .took chunk => some chunk
    | _ => none

/-- The chunks that the consumer gets. -/
def delivered (trace : List StreamEvent) : List ChatCompletionChunk :=
  trace.filterMap fun
    | .yielded chunk => some chunk
    | _ => none

/-- The calls of `addSpend` and `enqueueRequest`. -/
def accounts (trace : List StreamEvent) : List StreamEvent :=
  trace.filter fun
    | .addSpend _ _ | .enqueueRequest _ => true
    | _ => false

/-- Did the provider's stream throw? -/
def upstreamFailed (trace : List StreamEvent) : Bool :=
  trace.any fun
    | .upstreamThrew _ => true
    | _ => false

theorem taken_append (first second : List StreamEvent) :
    taken (first ++ second) = taken first ++ taken second :=
  List.filterMap_append

theorem delivered_append (first second : List StreamEvent) :
    delivered (first ++ second) = delivered first ++ delivered second :=
  List.filterMap_append

theorem accounts_append (first second : List StreamEvent) :
    accounts (first ++ second) = accounts first ++ accounts second :=
  List.filter_append ..

theorem upstreamFailed_append (first second : List StreamEvent) :
    upstreamFailed (first ++ second) =
      (upstreamFailed first || upstreamFailed second) :=
  List.any_append

theorem upstreamFailed_iff {trace : List StreamEvent} :
    upstreamFailed trace = true ↔ ∃ error, .upstreamThrew error ∈ trace := by
  unfold upstreamFailed
  rw [List.any_eq_true]
  constructor
  · rintro ⟨event, isEvent, threw⟩
    cases event with
    | upstreamThrew error => exact ⟨error, isEvent⟩
    | _ => cases threw
  · rintro ⟨error, isEvent⟩
    exact ⟨_, isEvent, rfl⟩

end Traces

section Calls

variable (context : StreamContext)

/-- No usage has arrived before the first chunk, so it is treated as the chunks
after it are. -/
theorem firstNext_eq (stream : CommittedStream) :
    context.firstNext stream =
      context.forLoop stream.source.ending context.start
        stream.source.items := by
  cases stream with
  | empty => rfl
  | begins first rest => rfl

/-- What a call from a state with given counts and items does, in terms of the
chunks that it takes. -/
def Follows
    (ending : Ending Thrown)
    (tally : Tally)
    (items : List ChatCompletionChunk)
    (trace : List StreamEvent) : GeneratorState → Prop
  | .created _ => False
  | .suspended after rest =>
      items = taken trace ++ rest.items ∧ rest.ending = ending ∧
        after = (taken trace).foldl consume tally ∧
        delivered trace = (taken trace).filter context.delivers ∧
        accounts trace = [] ∧ upstreamFailed trace = false
  | .completed =>
      (∃ rest, items = taken trace ++ rest) ∧
        delivered trace = (taken trace).filter context.delivers ∧
        accounts trace =
          context.finalise ((taken trace).foldl consume tally)
            (upstreamFailed trace) ∧
        (∀ error, .upstreamThrew error ∈ trace →
          ending = .threw error ∧ items = taken trace) ∧
        (.stopped ∈ trace ∨ items = taken trace ∧
          ∀ error, ending = .threw error → .upstreamThrew error ∈ trace)

variable {context}

/-- What follows a `yield` follows the call before it. -/
theorem Follows.append
    {ending : Ending Thrown}
    {tally after : Tally}
    {items : List ChatCompletionChunk}
    {rest : Yields ChatCompletionChunk Thrown}
    {trace more : List StreamEvent}
    {state : GeneratorState}
    (first : Follows context ending tally items trace (.suspended after rest))
    (second : Follows context ending after rest.items more state) :
    Follows context ending tally items (trace ++ more) state := by
  obtain ⟨split, -, afterEq, deliveredEq, noAccount, noFailure⟩ := first
  cases state with
  | created => exact second
  | suspended later left =>
      obtain ⟨splitRest, sameEnding, laterEq, deliveredRest, noAccountRest,
        noFailureRest⟩ := second
      refine ⟨?_, sameEnding, ?_, ?_, ?_, ?_⟩
      · rw [taken_append, List.append_assoc, ← splitRest, ← split]
      · rw [taken_append, List.foldl_append, ← afterEq, laterEq]
      · rw [delivered_append, deliveredEq, deliveredRest, taken_append,
          List.filter_append]
      · rw [accounts_append, noAccount, noAccountRest, List.append_nil]
      · rw [upstreamFailed_append, noFailure, noFailureRest, Bool.or_false]
  | completed =>
      obtain ⟨⟨left, splitRest⟩, deliveredRest, accountsRest, threw, ends⟩ := second
      refine ⟨⟨left, ?_⟩, ?_, ?_, fun error isThrown => ?_, ?_⟩
      · rw [taken_append, List.append_assoc, ← splitRest, ← split]
      · rw [delivered_append, deliveredEq, deliveredRest, taken_append,
          List.filter_append]
      · rw [accounts_append, noAccount, List.nil_append, accountsRest,
          taken_append, List.foldl_append, ← afterEq, upstreamFailed_append,
          noFailure, Bool.false_or]
      · have isLater : .upstreamThrew error ∈ more := by
          refine (List.mem_append.1 isThrown).resolve_left fun isEarlier => ?_
          rw [upstreamFailed_iff.2 ⟨error, isEarlier⟩] at noFailure
          cases noFailure
        obtain ⟨isEnding, all⟩ := threw error isLater
        exact ⟨isEnding, by rw [taken_append, ← all, ← split]⟩
      · rcases ends with isStopped | ⟨all, failed⟩
        · exact .inl (List.mem_append_right trace isStopped)
        · refine .inr ⟨by rw [taken_append, ← all, ← split], fun error isEnding => ?_⟩
          exact List.mem_append_right trace (failed error isEnding)

variable (context) in
/-- The loop takes chunks up to the one that it yields, or all of them. -/
theorem follows_forLoop
    (ending : Ending Thrown)
    (tally : Tally)
    (items : List ChatCompletionChunk) :
    Follows context ending tally items (context.forLoop ending tally items).1
      (context.forLoop ending tally items).2 := by
  induction items generalizing tally with
  | nil =>
      cases ending with
      | finished =>
          refine ⟨⟨[], rfl⟩, rfl, rfl, fun error isThrown => ?_, .inr ⟨rfl, nofun⟩⟩
          simp [StreamContext.forLoop, StreamContext.finalise] at isThrown
      | threw error =>
          refine ⟨⟨[], rfl⟩, rfl, rfl, fun other isThrown => ?_, .inr ⟨rfl, ?_⟩⟩
          · have sameError : other = error := by
              simpa [StreamContext.forLoop, StreamContext.finalise] using isThrown
            exact ⟨congrArg Ending.threw sameError.symm, rfl⟩
          · rintro _ ⟨⟩
            exact List.mem_cons_self
  | cons chunk items inductionHypothesis =>
      rw [StreamContext.forLoop]
      by_cases delivers : context.delivers chunk = true
      · simp [delivers, Follows, taken, delivered, accounts, upstreamFailed]
      · have hidden : Follows context ending tally (chunk :: items)
            [.took chunk]
            (.suspended (consume tally chunk) { items, ending }) := by
          simp [delivers, Follows, taken, delivered, accounts, upstreamFailed]
        rw [if_neg delivers]
        exact hidden.append (inductionHypothesis (consume tally chunk))

/-- A consumer that returns gets the counts of what was taken logged. -/
theorem follows_return
    (ending : Ending Thrown)
    (tally : Tally)
    (items : List ChatCompletionChunk) :
    Follows context ending tally items
      (.stopped :: context.finalise tally false) .completed := by
  refine ⟨⟨items, rfl⟩, rfl, rfl, fun error isThrown => ?_, .inl List.mem_cons_self⟩
  simp [StreamContext.finalise] at isThrown

variable (context) in
/-- After its first call the generator is where its trace says. -/
theorem follows_serve
    (stream : CommittedStream)
    (calls : List ConsumerCall) :
    Follows context stream.source.ending context.start stream.source.items
      (context.serve stream (.next :: calls)).trace
      (context.serve stream (.next :: calls)).generator := by
  rw [StreamContext.serve, runFrom_cons]
  refine runFrom_induction
    (fun run : StreamRun =>
      Follows context stream.source.ending context.start stream.source.items
        run.trace run.generator) (fun run call _ follows => ?_) ?_
  · obtain ⟨_ | ⟨tally, rest⟩ | _, trace⟩ := run
    · exact follows.elim
    · obtain ⟨-, sameEnding, -⟩ := id follows
      cases call with
      | next =>
          refine follows.append ?_
          rw [← sameEnding]
          exact follows_forLoop context rest.ending tally rest.items
      | «return» =>
          exact follows.append (follows_return _ tally rest.items)
    · change Follows context _ _ _ (trace ++ []) .completed
      rwa [List.append_nil]
  · change Follows context _ _ _ ([] ++ (context.firstNext stream).1)
      (context.firstNext stream).2
    rw [List.nil_append, firstNext_eq]
    exact follows_forLoop context _ _ _

/-- A generator that is completed stays so. -/
theorem serve_of_completed
    {run : StreamRun}
    (completed : run.generator = .completed)
    (calls : List ConsumerCall) :
    runFrom context.advance run calls = run := by
  induction calls with
  | nil => rfl
  | cons call calls inductionHypothesis =>
      obtain ⟨generator, trace⟩ := run
      cases completed
      have unchanged : context.advance ⟨.completed, trace⟩ call =
          ⟨.completed, trace⟩ := by
        change StreamRun.mk .completed (trace ++ []) = _
        rw [List.append_nil]
      rw [runFrom_cons, unchanged, inductionHypothesis]

/-- A consumer that stops has completed the generator. -/
theorem completed_of_return
    (run : StreamRun)
    {calls : List ConsumerCall}
    (stops : .return ∈ calls) :
    (runFrom context.advance run calls).generator = .completed := by
  induction calls generalizing run with
  | nil => cases stops
  | cons call calls inductionHypothesis =>
      rw [runFrom_cons]
      rcases List.mem_cons.1 stops with rfl | stopsLater
      · have completed : (context.advance run .return).generator =
            .completed := by
          obtain ⟨_ | _ | _, trace⟩ := run <;> rfl
        rw [serve_of_completed completed]
        exact completed
      · exact inductionHypothesis _ stopsLater

/-- The chunks that the provider's iterator still gives. -/
def remaining : GeneratorState → Nat
  | .created stream => stream.source.items.length
  | .suspended _ rest => rest.items.length
  | .completed => 0

/-- The loop takes a chunk or comes to the end. -/
theorem forLoop_progress
    (ending : Ending Thrown)
    (tally : Tally)
    (items : List ChatCompletionChunk) :
    (context.forLoop ending tally items).2 = .completed ∨
      remaining (context.forLoop ending tally items).2 < items.length := by
  induction items generalizing tally with
  | nil => cases ending <;> exact .inl rfl
  | cons chunk items inductionHypothesis =>
      rw [StreamContext.forLoop]
      by_cases delivers : context.delivers chunk = true
      · simp [delivers, remaining]
      · rw [if_neg delivers]
        exact (inductionHypothesis (consume tally chunk)).imp_right
          (Nat.lt_succ_of_lt ·)

variable (context) in
/-- A call of `next` takes a chunk or completes the generator. -/
theorem next_progress (state : GeneratorState) :
    (context.call state .next).2 = .completed ∨
      remaining (context.call state .next).2 < remaining state := by
  cases state with
  | created stream =>
      change (context.firstNext stream).2 = .completed ∨
        remaining (context.firstNext stream).2 < _
      rw [firstNext_eq]
      exact forLoop_progress _ _ _
  | suspended tally rest => exact forLoop_progress _ _ _
  | completed => exact .inl rfl

/-- A consumer that goes on calling `next` completes the generator. -/
theorem completed_of_drained
    (run : StreamRun)
    {calls : List ConsumerCall}
    (drains : remaining run.generator < calls.count .next) :
    (runFrom context.advance run calls).generator = .completed := by
  induction calls generalizing run with
  | nil => exact absurd drains (Nat.not_lt_zero _)
  | cons call calls inductionHypothesis =>
      cases call with
      | «return» => exact completed_of_return run List.mem_cons_self
      | next =>
          rw [List.count_cons_self] at drains
          rw [runFrom_cons]
          rcases next_progress context run.generator with
            completed | shorter
          · rw [serve_of_completed completed]
            exact completed
          · refine inductionHypothesis _ (Nat.lt_of_lt_of_le shorter ?_)
            exact Nat.le_of_lt_succ drains

/-- The loop does not make the consumer return. -/
theorem stopped_notMem_forLoop
    (ending : Ending Thrown)
    (tally : Tally)
    (items : List ChatCompletionChunk) :
    .stopped ∉ (context.forLoop ending tally items).1 := by
  induction items generalizing tally with
  | nil =>
      cases ending <;> simp [StreamContext.forLoop, StreamContext.finalise]
  | cons chunk items inductionHypothesis =>
      rw [StreamContext.forLoop]
      by_cases delivers : context.delivers chunk = true
      · simp [delivers]
      · rw [if_neg delivers]
        simpa using inductionHypothesis (consume tally chunk)

/-- A consumer that only calls `next` stops nowhere. -/
theorem stopped_notMem_serve
    (stream : CommittedStream)
    {calls : List ConsumerCall}
    (noReturn : .return ∉ calls) :
    .stopped ∉ (context.serve stream calls).trace := by
  unfold StreamContext.serve
  refine runFrom_induction (fun run : StreamRun => .stopped ∉ run.trace)
    (fun run call isCall notStopped => ?_) ?_
  · have isNext : call = .next := by
      cases call with
      | next => rfl
      | «return» => exact absurd isCall noReturn
    subst isNext
    refine List.not_mem_append notStopped ?_
    obtain ⟨stream | ⟨tally, rest⟩ | _, trace⟩ := run
    · change .stopped ∉ (context.firstNext stream).1
      rw [firstNext_eq]
      exact stopped_notMem_forLoop _ _ _
    · exact stopped_notMem_forLoop _ _ _
    · exact List.not_mem_nil
  · exact List.not_mem_nil

/-- A generator that is read to its end has taken every chunk, and has met the error
of the provider if there is one. -/
theorem taken_of_drained
    (stream : CommittedStream)
    {calls : List ConsumerCall}
    (noReturn : .return ∉ calls)
    (completed :
      (context.serve stream (.next :: calls)).generator = .completed) :
    let run := context.serve stream (.next :: calls)
    taken run.trace = stream.source.items ∧
      ∀ error, stream.source.ending = .threw error ↔
        .upstreamThrew error ∈ run.trace := by
  have follows := follows_serve context stream calls
  rw [completed] at follows
  obtain ⟨-, -, -, threw, isStopped | ⟨all, failed⟩⟩ := follows
  · refine absurd isStopped (stopped_notMem_serve stream ?_)
    simpa using noReturn
  · exact ⟨all.symm, fun error =>
      ⟨failed error, fun isThrown => (threw error isThrown).1⟩⟩

/-- A consumer that drains the generator gets and bills what `drain` says. -/
theorem serve_drains
    (stream : CommittedStream)
    {count : Nat}
    (drains : stream.source.items.length ≤ count) :
    let run := context.serve stream (.next :: .replicate count .next)
    let (yields, entry) := context.drain stream.source
    delivered run.trace = yields.items ∧
      (upstreamFailed run.trace = true ↔
        ∃ error, yields.ending = .threw error) ∧
      accounts run.trace =
        [.addSpend context.apiKeyId entry.costUsd, .enqueueRequest entry] := by
  intro run
  have completed : run.generator = .completed :=
    completed_of_drained _
      (by simpa [remaining, Nat.lt_succ_iff] using drains)
  obtain ⟨all, threwIff⟩ := taken_of_drained stream (by simp) completed
  have failed : (∃ error, stream.source.ending = .threw error) ↔
      upstreamFailed run.trace = true :=
    (exists_congr threwIff).trans upstreamFailed_iff.symm
  have follows : Follows context _ _ _ run.trace run.generator :=
    follows_serve context stream (.replicate count .next)
  rw [completed] at follows
  obtain ⟨-, deliveredEq, accountsEq, -⟩ := follows
  refine ⟨by rw [deliveredEq, all], failed.symm, ?_⟩
  have errored : upstreamFailed run.trace =
      match stream.source.ending with
      | .finished => false
      | .threw _ => true := by
    cases endingEq : stream.source.ending with
    | finished => simpa [endingEq] using failed
    | threw error => simpa [endingEq] using failed
  rw [accountsEq, all, errored]
  rfl

end Calls

section Accounting

/-- The last usage object of some chunks. -/
def lastUsage (chunks : List ChatCompletionChunk) : Option CompletionUsage :=
  (chunks.filterMap ChatCompletionChunk.usage).getLast?

theorem lastUsage_concat
    (chunks : List ChatCompletionChunk)
    (chunk : ChatCompletionChunk) :
    lastUsage (chunks ++ [chunk]) = chunk.usage.or (lastUsage chunks) := by
  unfold lastUsage
  rw [List.filterMap_append]
  cases usageEq : chunk.usage with
  | none => simp [usageEq]
  | some usage => simp [usageEq]

/-- The counts that are billed for some chunks: those of the last usage object,
or the estimates. -/
def StreamContext.billedTokens
    (context : StreamContext)
    (chunks : List ChatCompletionChunk) : ℚ × ℚ :=
  match lastUsage chunks with
  | some usage => (usage.promptTokens, usage.completionTokens)
  | none => (context.promptEstimate, estimateCompletion chunks)

/-- The counts that the generator keeps are the ones to be billed. -/
theorem foldl_consume_eq
    (context : StreamContext)
    (chunks : List ChatCompletionChunk) :
    chunks.foldl consume context.start =
      { promptTokens := (context.billedTokens chunks).1
        completionTokens := (context.billedTokens chunks).2
        usageFromStream := (lastUsage chunks).isSome } := by
  unfold StreamContext.billedTokens
  rw [estimateCompletion_eq_sum]
  induction chunks using List.reverseRecOn with
  | nil => simp [StreamContext.start, lastUsage]
  | append_singleton chunks chunk inductionHypothesis =>
      rw [List.foldl_append, inductionHypothesis, lastUsage_concat,
        List.map_append, List.sum_append]
      cases usageEq : chunk.usage with
      | some usage => simp [consume, applyUsage, usageEq]
      | none =>
          cases lastUsage chunks with
          | none => simp [consume, applyUsage, usageEq]
          | some usage => simp [consume, applyUsage, usageEq]

end Accounting

/-- Whatever a consumer does after its first call of `next`, it gets the chunks
that are taken from the provider but for the usage chunks it did not ask for; a
generator that is drained or stopped is completed, and has then charged and
logged the taken chunks once. The estimate counts the content of the first
choice of a chunk. The generator sees an error of the provider only where the stream of
the provider ends in it, and a generator that is drained sees it there. -/
theorem serve_delivers_and_accounts
    (context : StreamContext)
    (stream : CommittedStream)
    (calls : List ConsumerCall) :
    let run := context.serve stream (.next :: calls)
    taken run.trace <+: stream.source.items ∧
      delivered run.trace = (taken run.trace).filter (fun chunk =>
        context.clientWantsUsage || !isUsageOnlyChunk chunk) ∧
      (.return ∈ calls ∨ stream.source.items.length ≤ calls.count .next →
        run.generator = .completed) ∧
      (.return ∉ calls → run.generator = .completed →
        taken run.trace = stream.source.items ∧
          ∀ error, stream.source.ending = .threw error ↔
            .upstreamThrew error ∈ run.trace) ∧
      (∀ error, .upstreamThrew error ∈ run.trace →
        stream.source.ending = .threw error ∧
          taken run.trace = stream.source.items) ∧
      (run.generator ≠ .completed → accounts run.trace = []) ∧
      (run.generator = .completed →
        ∃ entry, accounts run.trace =
            [.addSpend context.apiKeyId entry.costUsd,
              .enqueueRequest entry] ∧
          (entry.promptTokens, entry.completionTokens) =
            context.billedTokens (taken run.trace) ∧
          entry.costUsd = estimateCost context.modelInfo entry.promptTokens
            entry.completionTokens ∧
          (entry.statusCode = 502 ↔
            ∃ error, .upstreamThrew error ∈ run.trace)) := by
  intro run
  have follows : Follows context _ _ _ run.trace run.generator :=
    follows_serve context stream calls
  have finishes : .return ∈ calls ∨
      stream.source.items.length ≤ calls.count .next →
        run.generator = .completed := by
    rintro (stops | drains)
    · exact completed_of_return _ (List.mem_cons_of_mem _ stops)
    · refine completed_of_drained _ ?_
      rw [List.count_cons_self]
      exact Nat.lt_succ_of_le drains
  cases generatorEq : run.generator with
  | created => exact (generatorEq ▸ follows).elim
  | suspended tally rest =>
      rw [generatorEq] at follows
      obtain ⟨split, -, -, deliveredEq, noAccount, noFailure⟩ := follows
      refine ⟨⟨rest.items, split.symm⟩, deliveredEq, generatorEq ▸ finishes,
        nofun, fun error isThrown => ?_, fun _ => noAccount, nofun⟩
      rw [upstreamFailed_iff.2 ⟨error, isThrown⟩] at noFailure
      cases noFailure
  | completed =>
      rw [generatorEq] at follows
      obtain ⟨⟨rest, split⟩, deliveredEq, accountsEq, threw, -⟩ := follows
      refine ⟨⟨rest, split.symm⟩, deliveredEq, fun _ => rfl,
        fun noReturn _ => taken_of_drained stream noReturn generatorEq,
        fun error isThrown => ?_, fun notCompleted => absurd rfl notCompleted,
        fun _ => ?_⟩
      · obtain ⟨isEnding, all⟩ := threw error isThrown
        exact ⟨isEnding, all.symm⟩
      refine ⟨_, accountsEq, ?_, rfl, ?_⟩
      · rw [foldl_consume_eq]
        rfl
      · rw [← upstreamFailed_iff]
        cases upstreamFailed run.trace <;> simp [StreamContext.settle]

section Choices

/-- All the content of a chunk, choice by choice. -/
def contentDeltas (chunk : ChatCompletionChunk) : List String :=
  chunk.choices.filterMap fun choice => choice.delta.content

/-- A chunk with content of two choices. -/
def twoChoices : ChatCompletionChunk where
  id := "chatcmpl-1"
  created := 0
  model := "m"
  choices :=
    [{ index := 0
       delta := { content := some "Hello" }
       finishReason := none },
      { index := 1
        delta := { content := some "World" }
        finishReason := none }]

/-- Content of a second choice is not in the estimate of a drained stream. -/
theorem second_choice_not_estimated :
    ¬ ∀ (context : StreamContext) (stream : CommittedStream)
      (calls : List ConsumerCall),
      let run := context.serve stream (.next :: calls)
      run.generator = .completed →
        (∀ chunk ∈ taken run.trace, chunk.usage = none) →
          ∃ entry, accounts run.trace =
              [.addSpend context.apiKeyId entry.costUsd,
                .enqueueRequest entry] ∧
            entry.completionTokens =
              (((taken run.trace).flatMap contentDeltas).map estimateDelta).sum := by
  intro bills
  let context : StreamContext :=
    { apiKeyId := "key"
      providerId := "p"
      canonicalModel := "m"
      modelInfo := none
      failoverCount := 0
      clientWantsUsage := false
      promptEstimate := 1 }
  obtain ⟨entry, accountsEq, completionEq⟩ := bills context
    (.begins twoChoices { items := [], ending := .finished }) [.next] rfl
    (by decide)
  have logged : [StreamEvent.addSpend "key" _, .enqueueRequest (context.settle
      (consume context.start twoChoices) false)] = _ := accountsEq
  obtain ⟨-, rfl⟩ : _ ∧ context.settle _ false = entry := by simpa using logged
  revert completionEq
  decide +kernel

end Choices

end Router
end AiGateway
