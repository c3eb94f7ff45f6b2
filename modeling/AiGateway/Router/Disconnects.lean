import AiGateway.Router.FailoverOutcome
import AiGateway.Router.Faults

/-!
# Clients that go away

A client may disconnect at any point of an exchange with a provider. The exchange
breaks off there, and every later `fetch` of the request is rejected at once, since
the signal of the client is aborted.

The main theorem is about every failover run: it ends without an answer, at most
one more provider is called, and the departure is held against no provider that had
not failed by itself.
-/

namespace AiGateway
namespace Router

open Foundations (Json Yields)
open OpenAI
open Providers

section Model

namespace Breakdown

/-- What `fetch` answers when the client goes away at a point of the exchange. -/
def abandoned (fault : Fault) : Breakdown → Except Rejection Response
  | .beforeHeaders timedOut =>
      .error { fault := fault, timedOut := timedOut, callerAborted := true }
  | .inBody status received => (inBody status received).fetched fault

/-- The provider had already failed: its time was over, or its answer was an error
that is retried. -/
def ProviderAtFault : Breakdown → Prop
  | .beforeHeaders timedOut => timedOut = true
  | .inBody status _ => RetryableStatus status

instance (point : Breakdown) : Decidable point.ProviderAtFault := by
  cases point <;> unfold ProviderAtFault <;> infer_instance

/-- What the breaker of the provider is told. -/
def verdict (point : Breakdown) : BreakerReport :=
  if point.ProviderAtFault then .failure else .release

end Breakdown

/-- The client goes away during the call with a number, at a point of its exchange;
calls are counted from zero. -/
structure GoesAway
    (environment : Environment α)
    (config : BaseProvider → ProviderInstanceConfig)
    (decoder : TextDecoder)
    (platform : StreamPlatform)
    (fault : Fault)
    (number : Nat)
    (point : Breakdown) : Prop where
  during : ∀ trace provider, (calls trace).length = number →
    ∃ call : ProviderCall α,
      point.BeforeAnswer (config provider) decoder platform fault call ∧
        environment.call trace provider =
          call.answer (config provider) decoder platform (point.abandoned fault)
  /-- The signal is aborted, so a later `fetch` does not even connect. -/
  after : ∀ trace provider, number < (calls trace).length →
    ∃ call : ProviderCall α,
      environment.call trace provider =
        call.answer (config provider) decoder platform
          ((Breakdown.beforeHeaders false).abandoned fault)

/-- The providers that get a penalty from the load balancer. -/
def penalties (trace : List (Effect α)) : List String :=
  trace.filterMap fun
    | .balancerFailure id => some id
    | _ => none

end Model

section Answers

variable
  {config : ProviderInstanceConfig}
  {decoder : TextDecoder}
  {platform : StreamPlatform}
  {fault : Fault}

/-- The error of a client that goes away is retried exactly if the provider had
already failed. -/
theorem retried_iff_atFault
    (point : Breakdown)
    (call : ProviderCall α)
    (beforeAnswer : point.BeforeAnswer config decoder platform fault call) :
    Retried (call.answer config decoder platform (point.abandoned fault)) ↔
      point.ProviderAtFault := by
  cases point with
  | beforeHeaders timedOut =>
      cases timedOut with
      | true =>
          have isTimeout : call.answer config decoder platform
              ((Breakdown.beforeHeaders true).abandoned fault) =
                .error (.gateway (.upstreamTimeout config.id)) :=
            answer_of_error rfl call
          rw [isTimeout]
          exact iff_of_true rfl rfl
      | false =>
          have isFault : call.answer config decoder platform
              ((Breakdown.beforeHeaders false).abandoned fault) =
                .error fault.thrown :=
            answer_of_error rfl call
          rw [isFault]
          exact iff_of_false Bool.false_ne_true Bool.false_ne_true
  | inBody status received => exact retried_iff_classified _ call beforeAnswer

/-- A client that goes away gets no answer. -/
theorem exists_thrown_of_abandoned
    (point : Breakdown)
    (call : ProviderCall α)
    (beforeAnswer : point.BeforeAnswer config decoder platform fault call) :
    ∃ thrown,
      call.answer config decoder platform (point.abandoned fault) = .error thrown := by
  cases point with
  | beforeHeaders timedOut =>
      cases timedOut <;> exact ⟨_, answer_of_error rfl call⟩
  | inBody status received =>
      by_cases isOk : 200 ≤ status ∧ status ≤ 299
      · exact ⟨_, answer_inBody_of_ok isOk call beforeAnswer⟩
      · obtain ⟨bodyText, ensureEq⟩ := ensureOk_of_not_ok config decoder
          platform.parse
          { status := status
            body := some { items := received, ending := .threw fault.thrown } }
          (by simpa [Response.ok] using isOk)
        exact ⟨_, answer_of_error (by exact ensureEq) call⟩

end Answers

section Numbers

variable (environment : Environment α)

/-- A turn makes at most one call, which the environment answers with the number of
calls so far in view. -/
theorem calls_attempt
    (provider : BaseProvider)
    (attempts : Nat)
    (trace : List (Effect α)) :
    ∃ made,
      calls ((attempt environment provider attempts).runOn
          (trace ++ [.selected provider.id])).2 = calls trace ++ made ∧
        ∀ call ∈ made, made = [call] ∧ call.1 = provider.id ∧
          ∃ before, calls before = calls trace ∧
            environment.call before provider = call.2 := by
  obtain ⟨visit, rfl, answered, visitEq⟩ :=
    exists_visit environment provider attempts trace
  refine ⟨calls visit.effects, by rw [visitEq, calls_append], fun call isCall => ?_⟩
  rw [visit.calls_effects] at isCall ⊢
  cases called : visit.call with
  | none =>
      rw [called] at isCall
      cases isCall
  | some answer =>
      rw [called] at isCall
      obtain rfl := List.mem_singleton.1 isCall
      refine ⟨rfl, rfl, _, ?_, (answered.called answer called).symm⟩
      simp [calls, Effect.call]

variable {number : Nat} {call : String × Except Thrown α}

/-- A call of a turn is answered with as many calls in view as were made before. -/
theorem answered_attempt
    (provider : BaseProvider)
    (attempts : Nat)
    {trace : List (Effect α)}
    (isNew : (calls trace).length ≤ number)
    (isCall : (calls ((attempt environment provider attempts).runOn
      (trace ++ [.selected provider.id])).2)[number]? = some call) :
    ∃ before provider, provider.id = call.1 ∧ (calls before).length = number ∧
      environment.call before provider = call.2 := by
  obtain ⟨made, callsEq, answered⟩ :=
    calls_attempt environment provider attempts trace
  rw [callsEq, List.getElem?_append_right isNew] at isCall
  obtain ⟨rfl, sameId, before, sameCalls, isAnswer⟩ :=
    answered call (List.mem_of_getElem? isCall)
  obtain ⟨isFirst, -⟩ := List.getElem?_eq_some_iff.1 isCall
  rw [List.length_singleton, Nat.lt_one_iff] at isFirst
  refine ⟨before, provider, sameId.symm, ?_, isAnswer⟩
  rw [sameCalls]
  exact Nat.le_antisymm isNew (Nat.sub_eq_zero_iff_le.1 isFirst)

/-- Each call of a run is answered with the calls before it in view. -/
theorem answered_failoverLoop
    (remaining : List BaseProvider)
    (attempts : Nat)
    (trace : List (Effect α))
    (isNew : (calls trace).length ≤ number)
    (isCall : (calls (failoverLoop environment remaining attempts trace).2)[number]? =
      some call) :
    ∃ before provider, provider.id = call.1 ∧ (calls before).length = number ∧
      environment.call before provider = call.2 := by
  fun_induction failoverLoop environment remaining attempts trace with
  | case1 remaining attempts trace nonempty provider thrown after attemptEq =>
      refine answered_attempt environment provider.1 attempts isNew ?_
      rwa [attemptEq]
  | case2 remaining attempts trace nonempty provider other value failoverCount
      after attemptEq =>
      refine answered_attempt environment provider.1 attempts isNew ?_
      rwa [attemptEq]
  | case3 remaining attempts trace nonempty provider next after attemptEq
      inductionHypothesis =>
      by_cases isLater : (calls after).length ≤ number
      · exact inductionHypothesis isLater isCall
      · obtain ⟨visits, traceEq, -⟩ := exists_visits environment
          (without remaining provider) next after
        rw [traceEq, calls_append,
          List.getElem?_append_left (Nat.lt_of_not_le isLater)] at isCall
        refine answered_attempt environment provider.1 attempts isNew ?_
        rwa [attemptEq]
  | case4 remaining attempts trace isEmpty =>
      rw [List.getElem?_eq_none isNew] at isCall
      cases isCall

end Numbers

section Conclusions

variable
  {candidates : List BaseProvider}
  {attempts : Nat}
  {trace : List (Effect α)}
  {result : Except Thrown (FailoverResult α)}

/-- Every call but the last one was retried. -/
theorem Concludes.retried
    (concludes : Concludes candidates attempts trace result)
    {number : Nat}
    {call : String × Except Thrown α}
    (isCall : (calls trace)[number]? = some call)
    (isFollowed : number + 1 < (calls trace).length) :
    Retried call.2 := by
  have ofFailures
      (failures : List (String × Except Thrown α))
      (last : String × Except Thrown α)
      (allRetried : ∀ call ∈ failures, Retried call.2)
      (callsMade : calls trace = failures ++ [last]) : Retried call.2 := by
    rw [callsMade, List.length_append, List.length_singleton] at isFollowed
    rw [callsMade, List.getElem?_append_left (Nat.lt_of_succ_lt_succ isFollowed)]
      at isCall
    exact allRetried call (List.mem_of_getElem? isCall)
  cases concludes with
  | returned failures provider value isCandidate allRetried callsMade =>
      exact ofFailures failures _ allRetried callsMade
  | rethrown failures id thrown isFinal allRetried callsMade =>
      exact ofFailures failures _ allRetried callsMade
  | exhausted allRetried allSelected =>
      exact allRetried call (List.mem_of_getElem? isCall)

/-- A run whose last call failed throws an error of the gateway. -/
theorem Concludes.exists_error
    (concludes : Concludes candidates attempts trace result)
    (lastFails : ∀ call ∈ (calls trace).getLast?,
      ∃ thrown, call.2 = .error thrown) :
    ∃ error, result = .error (.gateway error) := by
  cases concludes with
  | returned failures provider value isCandidate allRetried callsMade =>
      obtain ⟨thrown, fails⟩ :=
        lastFails (provider.id, .ok value) (by simp [callsMade])
      cases fails
  | rethrown => exact ⟨_, rfl⟩
  | exhausted => exact ⟨_, rfl⟩

end Conclusions

section Penalties

variable {visits : List (Visit α)}

/-- A visit gives its provider a penalty exactly if its call was retried. -/
theorem mem_penalties_effects (visit : Visit α) (id : String) :
    id ∈ penalties visit.effects ↔
      visit.provider.id = id ∧
        ∃ answer, visit.call = some answer ∧ Retried answer := by
  cases visit with
  | rejected =>
      exact iff_of_false List.not_mem_nil fun ⟨_, _, notCalled, _⟩ =>
        nomatch notCalled
  | succeeded provider answer isAdmitted value =>
      refine iff_of_false List.not_mem_nil ?_
      rintro ⟨-, _, ⟨⟩, isRetried⟩
      exact isRetried
  | retried provider answer isAdmitted thrown isRetryable =>
      change id ∈ [provider.id] ↔ _
      rw [List.mem_singleton]
      exact ⟨fun same => ⟨same.symm, _, rfl, isRetryable⟩,
        fun both => both.1.symm⟩
  | failed provider answer isAdmitted thrown isFinal =>
      refine iff_of_false List.not_mem_nil ?_
      rintro ⟨-, _, ⟨⟩, isRetried⟩
      exact Bool.false_ne_true (isFinal.symm.trans isRetried)

/-- A called provider gets a penalty exactly if its call was retried. -/
theorem mem_penalties_flatMap
    (distinct : (visits.map fun visit => visit.provider.id).Nodup)
    {call : String × Except Thrown α}
    (isCall : call ∈ calls (visits.flatMap Visit.effects)) :
    call.1 ∈ penalties (visits.flatMap Visit.effects) ↔ Retried call.2 := by
  obtain ⟨visit, isVisited, sameId, called⟩ := mem_calls_flatMap isCall
  rw [penalties, List.filterMap_flatMap, List.mem_flatMap]
  constructor
  · rintro ⟨other, isOther, isPenalty⟩
    obtain ⟨otherId, answer, otherCalled, isRetried⟩ :=
      (mem_penalties_effects other call.1).1 isPenalty
    have same : other = visit :=
      List.inj_on_of_nodup_map distinct isOther isVisited (otherId.trans sameId.symm)
    rw [same, called] at otherCalled
    cases otherCalled
    exact isRetried
  · intro isRetried
    exact ⟨visit, isVisited,
      (mem_penalties_effects visit call.1).2 ⟨sameId, call.2, called, isRetried⟩⟩

end Penalties

section Departure

/-- The report that is due for a call that failed. -/
theorem reportDue_of_error
    {answer : Except Thrown α}
    {thrown : Thrown}
    (fails : answer = .error thrown)
    (point : Breakdown)
    (isRetried : Retried answer ↔ point.ProviderAtFault) :
    reportDue answer = point.verdict := by
  subst fails
  exact if_congr isRetried rfl rfl

variable
  {environment : Environment α}
  {candidates : List BaseProvider}
  {config : BaseProvider → ProviderInstanceConfig}
  {decoder : TextDecoder}
  {platform : StreamPlatform}
  {fault : Fault}
  {number : Nat}
  {point : Breakdown}
  {call : String × Except Thrown α}

/-- The call during which the client goes away fails, and it is retried exactly if
the provider had already failed. -/
theorem GoesAway.broken
    (goesAway : GoesAway environment config decoder platform fault number point)
    (isCall : (calls (runFailover environment candidates).2)[number]? = some call) :
    (∃ thrown, call.2 = .error thrown) ∧
      (Retried call.2 ↔ point.ProviderAtFault) := by
  obtain ⟨before, provider, -, sameNumber, isAnswer⟩ :=
    answered_failoverLoop environment candidates 0 [] (Nat.zero_le _) isCall
  obtain ⟨made, beforeAnswer, answerEq⟩ := goesAway.during before provider sameNumber
  rw [← isAnswer, answerEq]
  exact ⟨exists_thrown_of_abandoned point made beforeAnswer,
    retried_iff_atFault point made beforeAnswer⟩

/-- A later call fails for good. -/
theorem GoesAway.refused
    (goesAway : GoesAway environment config decoder platform fault number point)
    {later : Nat}
    (isLater : number < later)
    (isCall : (calls (runFailover environment candidates).2)[later]? = some call) :
    (∃ thrown, call.2 = .error thrown) ∧ ¬Retried call.2 := by
  obtain ⟨before, provider, -, sameNumber, isAnswer⟩ :=
    answered_failoverLoop environment candidates 0 [] (Nat.zero_le _) isCall
  obtain ⟨made, answerEq⟩ := goesAway.after before provider (sameNumber ▸ isLater)
  rw [← isAnswer, answerEq]
  have beforeAnswer : (Breakdown.beforeHeaders false).BeforeAnswer (config provider)
      decoder platform fault made := trivial
  have isRetried := retried_iff_atFault (.beforeHeaders false) made beforeAnswer
  refine ⟨exists_thrown_of_abandoned (.beforeHeaders false) made beforeAnswer, ?_⟩
  exact fun again => Bool.false_ne_true (isRetried.1 again)

end Departure

/-- A client that goes away while a provider is called gets no answer, and the run
ends with that call, or with one more call if the provider had already failed. Its
breaker and the load balancer are told about a failure only in that case; the one
call after it is released without a verdict. -/
theorem runFailover_of_goesAway
    (environment : Environment α)
    (candidates : List BaseProvider)
    (config : BaseProvider → ProviderInstanceConfig)
    (decoder : TextDecoder)
    (platform : StreamPlatform)
    (fault : Fault)
    (number : Nat)
    (point : Breakdown)
    (goesAway : GoesAway environment config decoder platform fault number point)
    (isReached : number < (calls (runFailover environment candidates).2).length) :
    let run := runFailover environment candidates
    (∃ error, run.1 = .error (.gateway error)) ∧
      (calls run.2).length ≤ number + 2 ∧
      (¬point.ProviderAtFault → (calls run.2).length = number + 1) ∧
      (∀ call, (calls run.2)[number]? = some call →
        breakerReports run.2 call.1 = [point.verdict] ∧
          (call.1 ∈ penalties run.2 ↔ point.ProviderAtFault)) ∧
      ∀ call, (calls run.2)[number + 1]? = some call →
        breakerReports run.2 call.1 = [.release] ∧ call.1 ∉ penalties run.2 := by
  intro run
  obtain ⟨visits, traceEq, distinct, -, -, concludes⟩ :=
    exists_visits environment candidates 0 []
  change run.2 = _ at traceEq
  rw [List.nil_append] at traceEq
  change Concludes candidates 0 _ run.1 at concludes
  rw [← traceEq] at concludes
  have accounted : Accounted run.2 := traceEq ▸ accounted_flatMap distinct
  have penalized (call : String × Except Thrown α) (isCall : call ∈ calls run.2) :
      call.1 ∈ penalties run.2 ↔ Retried call.2 := by
    rw [traceEq] at isCall ⊢
    exact mem_penalties_flatMap distinct isCall
  have atMostOneMore : (calls run.2).length ≤ number + 2 := by
    by_contra isLonger
    rw [not_le] at isLonger
    have isCall := List.getElem?_eq_getElem (Nat.lt_of_succ_lt isLonger)
    exact (goesAway.refused (Nat.lt_succ_self number) isCall).2
      (concludes.retried isCall isLonger)
  have isBroken := List.getElem?_eq_getElem isReached
  refine ⟨concludes.exists_error ?_, atMostOneMore, ?_, ?_, ?_⟩
  · intro call isLast
    rw [Option.mem_def, List.getLast?_eq_getElem?] at isLast
    rcases Nat.eq_or_lt_of_le (Nat.le_sub_one_of_lt isReached) with isLastNumber | isLater
    · rw [← isLastNumber] at isLast
      exact (goesAway.broken isLast).1
    · exact (goesAway.refused isLater isLast).1
  · intro notAtFault
    by_contra isOther
    have isFollowed := Nat.lt_of_le_of_ne isReached (Ne.symm isOther)
    exact notAtFault ((goesAway.broken isBroken).2.1
      (concludes.retried isBroken isFollowed))
  · intro call isCall
    have isMember := List.mem_of_getElem? isCall
    obtain ⟨⟨thrown, fails⟩, isRetried⟩ := goesAway.broken isCall
    refine ⟨?_, (penalized call isMember).trans isRetried⟩
    rw [accounted.reported call isMember, reportDue_of_error fails point isRetried]
  · intro call isCall
    have isMember := List.mem_of_getElem? isCall
    obtain ⟨⟨thrown, fails⟩, notRetried⟩ :=
      goesAway.refused (Nat.lt_succ_self number) isCall
    refine ⟨?_, fun isPenalty => notRetried ((penalized call isMember).1 isPenalty)⟩
    rw [accounted.reported call isMember,
      reportDue_of_error fails (.beforeHeaders false)
        (iff_of_false notRetried Bool.false_ne_true)]
    rfl

section Timeouts

/-- The client goes away during the first call, whose time is over. -/
def leaving : Environment Unit where
  select _ remaining nonempty :=
    ⟨remaining.head nonempty, List.head_mem nonempty⟩
  acquire _ _ := .ok { state := .closed, allowed := true }
  call trace _ :=
    wholeCall.answer plainProvider asciiDecoder silentPlatform
      (Breakdown.abandoned abortFault (.beforeHeaders (calls trace).isEmpty))
  bookkeeping _ := .ok ()

def leftProviders : List BaseProvider :=
  [{ id := "a", name := "a" }, { id := "b", name := "b" }]

theorem goesAway_leaving :
    GoesAway leaving (fun _ => plainProvider) asciiDecoder silentPlatform abortFault 0
      (.beforeHeaders true) where
  during trace provider isFirst := by
    refine ⟨wholeCall, trivial, ?_⟩
    change wholeCall.answer _ _ _ (Breakdown.abandoned abortFault
      (.beforeHeaders (calls trace).isEmpty)) = _
    rw [List.isEmpty_iff.2 (List.length_eq_zero_iff.1 isFirst)]
  after trace provider isLater := by
    refine ⟨wholeCall, ?_⟩
    change wholeCall.answer _ _ _ (Breakdown.abandoned abortFault
      (.beforeHeaders (calls trace).isEmpty)) = _
    rw [List.isEmpty_eq_false_iff.2 (List.length_pos_iff.1 isLater)]

/-- A turn after which the loop goes on. -/
theorem failoverLoop_of_next
    (environment : Environment α)
    (remaining : List BaseProvider)
    (attempts : Nat)
    (trace : List (Effect α))
    (nonempty : remaining ≠ [])
    {next : Nat}
    {after : List (Effect α)}
    (goesOn : (attempt environment (environment.select trace remaining nonempty).1
      attempts).runOn
        (trace ++ [.selected (environment.select trace remaining nonempty).1.id]) =
          (.ok (.next next), after)) :
    failoverLoop environment remaining attempts trace =
      failoverLoop environment
        (without remaining (environment.select trace remaining nonempty).1) next
        after := by
  rw [failoverLoop, dif_pos nonempty]
  dsimp only
  rw [goesOn]

/-- The run calls both providers. -/
theorem calls_leaving :
    (calls (runFailover leaving leftProviders).2).map Prod.fst = ["a", "b"] := by
  rw [runFailover,
    failoverLoop_of_next leaving leftProviders 0 [] (List.cons_ne_nil _ _) rfl,
    failoverLoop]
  rfl

/-- The provider whose time was over gets a failure, and the one after it none. -/
theorem runFailover_of_goesAway_timeout :
    let run := runFailover leaving leftProviders
    (∃ error, run.1 = .error (.gateway error)) ∧
      breakerReports run.2 "a" = [.failure] ∧ "a" ∈ penalties run.2 ∧
      breakerReports run.2 "b" = [.release] ∧ "b" ∉ penalties run.2 := by
  intro run
  have sameIds : (calls run.2).map Prod.fst = ["a", "b"] := calls_leaving
  obtain ⟨⟨first, firstAnswer⟩, rest, callsEq, rfl, restIds⟩ :=
    List.map_eq_cons_iff.1 sameIds
  obtain ⟨⟨second, secondAnswer⟩, noMore, rfl, rfl, -⟩ :=
    List.map_eq_cons_iff.1 restIds
  have isReached : 0 < (calls run.2).length := callsEq ▸ Nat.succ_pos _
  obtain ⟨fails, -, -, broken, later⟩ :=
    runFailover_of_goesAway leaving leftProviders (fun _ => plainProvider) asciiDecoder
      silentPlatform abortFault 0 (.beforeHeaders true) goesAway_leaving
      isReached
  obtain ⟨reported, isPenalty⟩ := broken ("a", firstAnswer) (by
    change (calls run.2)[0]? = _
    rw [callsEq]
    rfl)
  obtain ⟨released, notPenalty⟩ := later ("b", secondAnswer) (by
    change (calls run.2)[0 + 1]? = _
    rw [callsEq]
    rfl)
  exact ⟨fails, reported, isPenalty.2 rfl, released, notPenalty⟩

end Timeouts

end Router
end AiGateway
