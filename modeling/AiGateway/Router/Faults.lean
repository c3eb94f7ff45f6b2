import AiGateway.Providers.Exchange
import AiGateway.Router.Visits

/-!
# Faults of an exchange

The exchange with an admitted provider may break off at any point: while it
connects, while it waits for the headers, and while the body is read. The main
theorem says at which of these points the failover loop goes on to the next
candidate and tells the breaker about the failure.
-/

namespace AiGateway
namespace Router

open Foundations (Json Yields)
open OpenAI
open Providers

/-- What the failover loop awaits of a provider: a whole answer, or the first
chunk of a stream, from which the router makes the value it keeps. -/
inductive ProviderCall (α : Type)
  | complete (interpret : Json → Except Thrown α)
  | stream
      (adapter : AdapterType)
      (commit : Option StreamItem → Yields StreamItem Thrown → α)

/-- Where an exchange breaks off while the caller still waits. -/
inductive Breakdown
  /-- Before the headers, by the timeout of the provider or by a fault. -/
  | beforeHeaders (timedOut : Bool)
  /-- While the body is read, after some pieces of it. -/
  | inBody (status : Nat) (received : List (List UInt8))
  deriving DecidableEq

namespace Breakdown

/-- What `fetch` answers, for the fault that the platform reports. -/
def fetched (fault : Fault) : Breakdown → Except Rejection Response
  | .beforeHeaders timedOut =>
      .error { fault := fault, timedOut := timedOut, callerAborted := false }
  | .inBody status received =>
      .ok
        { status := status
          body :=
            some { items := received, ending := .threw fault.thrown } }

/-- The points at which a fault becomes an error that is retried: before the
headers, or in the body of an error that is retried anyway. -/
def Classified : Breakdown → Prop
  | .beforeHeaders _ => True
  | .inBody status _ => RetryableStatus status

end Breakdown

section Calls

variable
  (config : ProviderInstanceConfig)
  (decoder : TextDecoder)
  (platform : StreamPlatform)

/-- The loop of an adapter; the router always asks for usage. -/
def routedAdapter (adapter : AdapterType) : StreamAdapter :=
  adapter.streamAdapter platform config true

/-- The answer of a call, for what `fetch` answers. -/
def ProviderCall.answer
    (fetched : Except Rejection Response) : ProviderCall α → Except Thrown α
  | .complete interpret =>
      Providers.complete config decoder platform.parse interpret fetched
  | .stream adapter commit =>
      let stream := chatStream config decoder platform.parse adapter.label
        (routedAdapter config platform adapter) fetched
      stream.next.map fun first => commit first stream

/-- A stream breaks off before its first chunk if the adapter made nothing of
what it received; a call for a whole answer breaks off before it anyway. -/
def Breakdown.BeforeAnswer (fault : Fault) :
    Breakdown → ProviderCall α → Prop
  | .inBody status received, .stream adapter _ =>
      200 ≤ status ∧ status ≤ 299 →
        let routed := routedAdapter config platform adapter
        routed.transducer.Silent routed.start
          (parseSSEStream decoder
            { items := received, ending := .threw fault.thrown }).items
  | _, _ => True

end Calls

section Errors

variable
  {config : ProviderInstanceConfig}
  {decoder : TextDecoder}
  {platform : StreamPlatform}
  {fault : Fault}

variable (config fault) in
/-- A rejection before the headers is retried. -/
theorem exists_error_of_beforeHeaders (timedOut : Bool) :
    ∃ error : GatewayError, error.retryable = true ∧
      upstreamFetch config ((Breakdown.beforeHeaders timedOut).fetched fault) =
        .error (.gateway error) := by
  cases timedOut with
  | false => exact ⟨_, rfl, rfl⟩
  | true => exact ⟨_, rfl, rfl⟩

/-- The answer of a call whose exchange ends before its body is read. -/
theorem answer_of_error
    {fetched : Except Rejection Response}
    {thrown : Thrown}
    (fails : (upstreamFetch config fetched).bind
      (ensureOk config decoder platform.parse) = .error thrown)
    (call : ProviderCall α) :
    call.answer config decoder platform fetched = .error thrown := by
  cases fetchEq : upstreamFetch config fetched with
  | error other =>
      rw [fetchEq] at fails
      cases fails
      cases call with
      | complete interpret =>
          simp only [ProviderCall.answer, complete, fetchEq]
          rfl
      | stream adapter commit =>
          simp only [ProviderCall.answer, chatStream, openStream, fetchEq]
          rfl
  | ok response =>
      rw [fetchEq] at fails
      change ensureOk config decoder platform.parse response = .error thrown
        at fails
      cases call with
      | complete interpret =>
          simp only [ProviderCall.answer, complete, fetchEq]
          simp only [bind, Except.bind, fails]
      | stream adapter commit =>
          simp only [ProviderCall.answer, chatStream, openStream, fetchEq]
          simp only [bind, Except.bind, fails]
          rfl

/-- A fault in the body of a good response is thrown as it is. -/
theorem answer_inBody_of_ok
    {status : Nat}
    {received : List (List UInt8)}
    (isOk : 200 ≤ status ∧ status ≤ 299)
    (call : ProviderCall α)
    (beforeAnswer : (Breakdown.inBody status received).BeforeAnswer config
      decoder platform fault call) :
    call.answer config decoder platform
        ((Breakdown.inBody status received).fetched fault) =
      .error fault.thrown := by
  have responseOk : Response.ok
      { status := status
        body := some { items := received, ending := .threw fault.thrown } } =
      true := by
    simp [Response.ok, isOk]
  cases call with
  | complete interpret =>
      simp only [ProviderCall.answer, complete, upstreamFetch,
        Breakdown.fetched, bind, Except.bind, ensureOk, responseOk, if_true]
      rfl
  | stream adapter commit =>
      have passesOn : chatStream config decoder platform.parse adapter.label
          (routedAdapter config platform adapter)
          ((Breakdown.inBody status received).fetched fault) =
          { items := [], ending := .threw fault.thrown } := by
        simp only [chatStream, openStream, upstreamFetch, Breakdown.fetched,
          bind, Except.bind, ensureOk, responseOk, if_true]
        have sameEnding := ending_parseSSEStream decoder
          { items := received, ending := .threw fault.thrown }
        have silent := beforeAnswer isOk
        revert sameEnding silent
        generalize parseSSEStream decoder
          { items := received, ending := .threw fault.thrown } = events
        intro sameEnding silent
        obtain ⟨items, ending⟩ := events
        cases sameEnding
        exact Foundations.Transducer.transduce_of_silent _ silent _
      simp only [ProviderCall.answer, passesOn]
      rfl

/-- A call that breaks off is retried exactly at the classified points. -/
theorem retried_iff_classified
    (breakdown : Breakdown)
    (call : ProviderCall α)
    (beforeAnswer : breakdown.BeforeAnswer config decoder platform fault call) :
    Retried (call.answer config decoder platform (breakdown.fetched fault)) ↔
      breakdown.Classified := by
  cases breakdown with
  | beforeHeaders timedOut =>
      obtain ⟨error, isRetryable, fetchEq⟩ :=
        exists_error_of_beforeHeaders config fault timedOut
      rw [answer_of_error (by rw [fetchEq]; rfl)]
      exact iff_of_true isRetryable trivial
  | inBody status received =>
      by_cases isOk : 200 ≤ status ∧ status ≤ 299
      · rw [answer_inBody_of_ok isOk call beforeAnswer]
        exact iff_of_false (by simp [Retried, Fault.thrown])
          (not_retryableStatus_of_ok isOk)
      · obtain ⟨bodyText, ensureEq⟩ := ensureOk_of_not_ok config decoder
          platform.parse
          { status := status
            body := some { items := received, ending := .threw fault.thrown } }
          (by simpa [Response.ok] using isOk)
        rw [answer_of_error (by exact ensureEq)]
        exact retryable_mapHttpError config platform.parse status bodyText

end Errors

section Failover

/-- The failover loop tells the breaker of an admitted provider about a failure
and goes on to the next candidate. -/
def FailsOver
    (environment : Environment α)
    (provider : BaseProvider)
    (attempts : Nat)
    (trace : List (Effect α)) : Prop :=
  ∃ effects,
    (callProvider environment provider attempts).runOn trace =
        (.ok (.next attempts), trace ++ effects) ∧
      breakerReports effects provider.id = [.failure]

/-- It does so exactly for the errors that are retried. -/
theorem failsOver_iff_retried
    (environment : Environment α)
    (provider : BaseProvider)
    (attempts : Nat)
    (trace : List (Effect α)) :
    FailsOver environment provider attempts trace ↔
      Retried (environment.call trace provider) := by
  simp only [FailsOver, callProvider, Program.runOn_andFinally,
    Program.runOn_tryCatch, Program.runOn_bind, Program.runOn_perform,
    runOn_swallow_bookkeep]
  cases environment.call trace provider with
  | ok value => simp [Retried]
  | error thrown =>
      cases isRetryable : (GatewayError.fromThrown thrown).retryable with
      | true =>
          refine iff_of_true ?_ isRetryable
          simp [isRetryable, breakerReports, List.filterMap_cons, Effect.report]
      | false => simp [isRetryable, Retried]

/-- A provider as the failover loop sees it. -/
def routedProvider (config : ProviderInstanceConfig) : BaseProvider where
  id := config.id
  name := config.name

/-- An exchange that breaks off while the caller waits gives an error that is
retried, so that the breaker is told and the next candidate is tried, exactly if
it breaks off before the headers or in the body of an error that is retried
anyway. -/
theorem failsOver_iff_classified
    (environment : Environment α)
    (attempts : Nat)
    (trace : List (Effect α))
    (config : ProviderInstanceConfig)
    (decoder : TextDecoder)
    (platform : StreamPlatform)
    (call : ProviderCall α)
    (fault : Fault)
    (breakdown : Breakdown)
    (beforeAnswer : breakdown.BeforeAnswer config decoder platform fault call)
    (answers : environment.call trace (routedProvider config) =
      call.answer config decoder platform (breakdown.fetched fault)) :
    (Retried (call.answer config decoder platform (breakdown.fetched fault)) ∧
        FailsOver environment (routedProvider config) attempts trace) ↔
      breakdown.Classified := by
  rw [failsOver_iff_retried, answers, and_self_iff]
  exact retried_iff_classified breakdown call beforeAnswer

end Failover

section Breakdowns

/-- A load balancer that takes the first candidate, closed breakers, and a call
with one answer. -/
def answering (answer : Except Thrown α) : Environment α where
  select _ remaining nonempty :=
    ⟨remaining.head nonempty, List.head_mem nonempty⟩
  acquire _ _ := .ok { state := .closed, allowed := true }
  call _ _ := answer
  bookkeeping _ := .ok ()

/-- A decoder of ASCII text. -/
def asciiDecoder : TextDecoder where
  State := Unit
  start := ()
  decode _ bytes :=
    ((), String.ofList (bytes.map fun byte => Char.ofNat byte.toNat))
  flush _ := ""

/-- A platform whose parser is not asked for any text. -/
def silentPlatform : StreamPlatform where
  header := { id := "chatcmpl-1", created := 0, model := "m" }
  newToolCallId _ := "call_1"
  parse _ := none

/-- A provider that is called for a whole answer. -/
def wholeCall : ProviderCall Unit := .complete fun _ => .ok ()

/-- A provider that is called for a stream. -/
def streamCall : ProviderCall Unit := .stream .openai fun _ _ => ()

def abortFault : Fault where
  name := "AbortError"
  message := "This operation was aborted"

def resetFault : Fault where
  name := "TypeError"
  message := "terminated"

/-- A provider without a price table. -/
def plainProvider : ProviderInstanceConfig where
  id := "p"
  name := "p"
  models := []

/-- The answer of a call that breaks off. -/
def brokenAnswer
    (call : ProviderCall α)
    (breakdown : Breakdown)
    (fault : Fault) : Except Thrown α :=
  call.answer plainProvider asciiDecoder silentPlatform (breakdown.fetched fault)

/-- A timeout before the headers fails over. -/
theorem timeout_before_headers_fails_over :
    let answer := brokenAnswer wholeCall (.beforeHeaders true) abortFault
    Retried answer ∧
      FailsOver (answering answer) (routedProvider plainProvider) 1 [] :=
  (failsOver_iff_classified (answering _) 1 [] plainProvider asciiDecoder
    silentPlatform wholeCall abortFault (.beforeHeaders true) trivial rfl).2
    trivial

/-- A timeout while a good body is read, and a reset before the first chunk of a
stream, end the loop with an internal error. -/
theorem body_faults_do_not_fail_over :
    let provider := routedProvider plainProvider
    let started := Breakdown.inBody 200 []
    let timedOut := brokenAnswer wholeCall started abortFault
    let reset := brokenAnswer streamCall started resetFault
    (started.BeforeAnswer plainProvider asciiDecoder silentPlatform abortFault
        wholeCall ∧
      ¬Retried timedOut ∧ ¬FailsOver (answering timedOut) provider 1 [] ∧
      (callProvider (answering timedOut) provider 1).runOn [] =
        (.error (.gateway .internal),
          [.called "p" timedOut, .providerErrors "p" "client_error",
            .breakerRelease "p", .balancerRelease "p"])) ∧
    (started.BeforeAnswer plainProvider asciiDecoder silentPlatform resetFault
        streamCall ∧
      ¬Retried reset ∧ ¬FailsOver (answering reset) provider 1 [] ∧
      (callProvider (answering reset) provider 1).runOn [] =
        (.error (.gateway .internal),
          [.called "p" reset, .providerErrors "p" "client_error",
            .breakerRelease "p", .balancerRelease "p"])) := by
  intro provider started timedOut reset
  have notRetried : ¬Retried timedOut := Bool.false_ne_true
  have notRetriedReset : ¬Retried reset := Bool.false_ne_true
  refine ⟨⟨trivial, notRetried, ?_, rfl⟩,
    ⟨fun _ => trivial, notRetriedReset, ?_, rfl⟩⟩
  · rwa [failsOver_iff_retried]
  · rwa [failsOver_iff_retried]

end Breakdowns

end Router
end AiGateway
