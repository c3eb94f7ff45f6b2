import AiGateway.Router.Visits
import Mathlib.Data.List.Count

/-!
# Outcome and bookkeeping of the failover loop

The main theorem of this file says of every run of `runFailover` which providers
are selected and called, that their breakers and the providers themselves gave the
answers the run goes by, what is returned or thrown, and what the breakers and the
load balancer are told. No assumption is made on the candidates: a provider whose
identifier occurs twice is selected at most once.
-/

namespace AiGateway
namespace Router

open CircuitBreaker (CircuitDecision)

/-- The result of the loop, given its effects and the attempts made before. -/
inductive Concludes
    (candidates : List BaseProvider)
    (attempts : Nat)
    (trace : List (Effect α)) :
    Except Thrown (FailoverResult α) → Prop
  /-- The last call is the first that succeeded, and its value is returned. -/
  | returned
      (failures : List (String × Except Thrown α))
      (provider : BaseProvider)
      (value : α)
      (isCandidate : provider ∈ candidates)
      (allRetried : ∀ call ∈ failures, Retried call.2)
      (callsMade : calls trace = failures ++ [(provider.id, .ok value)]) :
      Concludes candidates attempts trace
        (.ok
          { provider := provider
            value := value
            failoverCount := attempts + failures.length })
  /-- The last call is the first that failed for good, and its error is
  rethrown. -/
  | rethrown
      (failures : List (String × Except Thrown α))
      (id : String)
      (thrown : Thrown)
      (isFinal : (GatewayError.fromThrown thrown).retryable = false)
      (allRetried : ∀ call ∈ failures, Retried call.2)
      (callsMade : calls trace = failures ++ [(id, .error thrown)]) :
      Concludes candidates attempts trace
        (.error (.gateway (GatewayError.fromThrown thrown)))
  /-- Every candidate was selected and every call failed in a way that may be
  retried. -/
  | exhausted
      (allRetried : ∀ call ∈ calls trace, Retried call.2)
      (allSelected :
        ∀ provider ∈ candidates, provider.id ∈ selections trace) :
      Concludes candidates attempts trace
        (.error
          (.gateway (.allProvidersFailed (attempts + (calls trace).length))))

/-- What the breakers and the load balancer are told in a run. -/
structure Accounted (trace : List (Effect α)) : Prop where
  /-- Each selected provider gets exactly one release from the load balancer. -/
  released : ∀ id ∈ selections trace, (balancerReleases trace).count id = 1
  /-- A provider that was not selected gets none. -/
  onlyReleased : ∀ id ∈ balancerReleases trace, id ∈ selections trace
  /-- The admitted providers are called, in their order, and no other one. -/
  calledAdmitted : (calls trace).map Prod.fst = admissions trace
  /-- Each admitted provider gets exactly the one report that is due. -/
  reported :
    ∀ call ∈ calls trace, breakerReports trace call.1 = [reportDue call.2]
  /-- A rejected provider gets none. -/
  unreported : ∀ id ∈ rejections trace, breakerReports trace id = []

/-- The selections of a run: members of the candidates, each at most once. -/
structure SelectsOnce
    (candidates : List BaseProvider)
    (trace : List (Effect α)) : Prop where
  distinct : (selections trace).Nodup
  candidates : ∀ id ∈ selections trace, ∃ provider ∈ candidates, provider.id = id

/-- The providers that a trace has not selected. -/
def unselected
    (providers : List BaseProvider)
    (trace : List (Effect α)) : List BaseProvider :=
  providers.filter fun provider => provider.id ∉ selections trace

/-- How the turn of a selected provider begins after a trace: with the answer of its
breaker and, if that admits the provider, with the answer to its call. -/
def opening
    (environment : Environment α)
    (trace : List (Effect α))
    (provider : BaseProvider) : List (Effect α) :=
  let decision := environment.acquire (trace ++ [.selected provider.id]) provider
  .selected provider.id :: .acquired provider.id decision ::
    if admits decision then
      [.called provider.id (environment.call
        (trace ++ [.selected provider.id, .acquired provider.id decision])
        provider)]
    else []

/-- The environment gave all the answers of a run. -/
structure AnsweredBy
    (environment : Environment α)
    (candidates : List BaseProvider)
    (trace : List (Effect α)) : Prop where
  /-- Each selection is that of the load balancer among the candidates that were not
  selected before. The breaker of the selected provider is asked at once, and a
  provider that is admitted is called. -/
  opened : ∀ before id after, trace = before ++ .selected id :: after →
    ∃ (nonempty : unselected candidates before ≠ []) (rest : List (Effect α)),
      .selected id :: after =
        opening environment before
          (environment.select before (unselected candidates before) nonempty) ++ rest
  /-- No breaker is asked at another time. -/
  acquired : ∀ before id answer after,
    trace = before ++ .acquired id answer :: after →
      ∃ earlier, before = earlier ++ [.selected id]
  /-- No provider is called at another time. -/
  called : ∀ before id answer after,
    trace = before ++ .called id answer :: after →
      ∃ earlier decision, admits decision = true ∧
        before = earlier ++ [.selected id, .acquired id decision]

section Trace

variable (first rest : List (Effect α))

@[simp] theorem selections_append :
    selections (first ++ rest) = selections first ++ selections rest :=
  List.filterMap_append

@[simp] theorem calls_append :
    calls (first ++ rest) = calls first ++ calls rest :=
  List.filterMap_append

end Trace

namespace Visit

/-- Does the loop go on after a visit? -/
def GoesOn (visit : Visit α) : Prop :=
  ∀ answer ∈ visit.call, Retried answer

/-- A visit after which the loop goes on counts its call as an attempt. -/
theorem goesOn_of_turn_eq_next
    {visit : Visit α}
    {attempts next : Nat}
    (turnEq : visit.turn attempts = .ok (.next next)) :
    visit.GoesOn ∧ next = attempts + (calls visit.effects).length := by
  cases visit with
  | rejected => cases turnEq; simp [GoesOn, call, calls_effects]
  | retried _ _ _ _ isRetryable =>
      cases turnEq
      simp [GoesOn, call, calls_effects, Retried, isRetryable]
  | succeeded => cases turnEq
  | failed => cases turnEq

/-- The calls of a visit after which the loop goes on may be retried. -/
theorem GoesOn.calls
    {visit : Visit α}
    (goesOn : visit.GoesOn) :
    ∀ call ∈ Router.calls visit.effects, Retried call.2 := by
  intro call isCall
  rw [calls_effects] at isCall
  simp only [Option.mem_toList, Option.map_eq_some_iff] at isCall
  obtain ⟨answer, called, rfl⟩ := isCall
  exact goesOn answer called

end Visit

section Step

variable {visit : Visit α} {remaining : List BaseProvider} {attempts : Nat}

/-- A visit that throws concludes a run. -/
theorem Concludes.of_turn_eq_error
    {thrown : Thrown}
    (turnEq : visit.turn attempts = .error thrown) :
    Concludes remaining attempts visit.effects (.error thrown) := by
  cases visit with
  | failed provider answer isAdmitted thrown isFinal =>
      cases turnEq
      exact .rethrown [] provider.id thrown isFinal (by simp) rfl
  | rejected => cases turnEq
  | retried => cases turnEq
  | succeeded => cases turnEq

/-- A visit whose call succeeded concludes a run. -/
theorem Concludes.of_turn_eq_done
    {provider : BaseProvider}
    {value : α}
    {failoverCount : Nat}
    (isCandidate : visit.provider ∈ remaining)
    (turnEq : visit.turn attempts = .ok (.done provider value failoverCount)) :
    Concludes remaining attempts visit.effects
      (.ok
        { provider := provider
          value := value
          failoverCount := failoverCount }) := by
  cases visit with
  | succeeded provider answer isAdmitted value =>
      cases turnEq
      exact .returned [] provider value isCandidate (by simp) rfl
  | rejected => cases turnEq
  | retried => cases turnEq
  | failed => cases turnEq

/-- A conclusion of the rest of a run is one of the whole run, if the loop went
on after the first visit. -/
theorem Concludes.after
    {rest : List (Effect α)}
    {result : Except Thrown (FailoverResult α)}
    (goesOn : visit.GoesOn)
    (concludes :
      Concludes (without remaining visit.provider)
        (attempts + (calls visit.effects).length) rest result) :
    Concludes remaining attempts (visit.effects ++ rest) result := by
  have retriedFirst := goesOn.calls
  cases concludes with
  | returned failures provider value isCandidate allRetried callsMade =>
      rw [Nat.add_assoc, ← List.length_append]
      refine .returned _ provider value (List.mem_of_mem_filter isCandidate) ?_ ?_
      · exact List.forall_mem_append.2 ⟨retriedFirst, allRetried⟩
      · rw [calls_append, callsMade, List.append_assoc]
  | rethrown failures id thrown isFinal allRetried callsMade =>
      refine .rethrown (calls visit.effects ++ failures) id thrown isFinal ?_ ?_
      · exact List.forall_mem_append.2 ⟨retriedFirst, allRetried⟩
      · rw [calls_append, callsMade, List.append_assoc]
  | exhausted allRetried allSelected =>
      rw [Nat.add_assoc, ← List.length_append, ← calls_append]
      refine .exhausted ?_ fun provider isCandidate => ?_
      · rw [calls_append]
        exact List.forall_mem_append.2 ⟨retriedFirst, allRetried⟩
      · rw [selections_append, Visit.selections_effects, List.singleton_append,
          List.mem_cons]
        by_cases sameId : provider.id = visit.provider.id
        · exact .inl sameId
        · refine .inr (allSelected provider ?_)
          simpa [without] using ⟨isCandidate, sameId⟩

end Step

section Answers

variable {environment : Environment α} {visits : List (Visit α)}

/-- The load balancer selects the providers of some visits one after the other, and
the environment answers them. -/
def Answered (environment : Environment α) :
    List BaseProvider → List (Effect α) → List (Visit α) → Prop
  | _, _, [] => True
  | remaining, trace, visit :: visits =>
      (∃ nonempty, visit.provider = environment.select trace remaining nonempty) ∧
        visit.AnsweredBy environment trace ∧
        Answered environment (without remaining visit.provider)
          (trace ++ visit.effects) visits

theorem unselected_nil (providers : List BaseProvider) :
    unselected providers ([] : List (Effect α)) = providers := by
  simp [unselected, selections]

/-- What a visit selects is no longer among the remaining providers. -/
theorem unselected_effects_append
    (providers : List BaseProvider)
    (visit : Visit α)
    (later : List (Effect α)) :
    unselected providers (visit.effects ++ later) =
      unselected (without providers visit.provider) later := by
  rw [unselected, unselected, without, List.filter_filter]
  refine List.filter_congr fun provider _ => ?_
  simp [selections_append, and_comm]

/-- Every visit is to the provider that the load balancer selects among those not
selected before. -/
theorem Answered.of_append_cons
    {visit : Visit α}
    {remaining : List BaseProvider}
    {trace : List (Effect α)}
    {earlier later : List (Visit α)}
    (answered : Answered environment remaining trace (earlier ++ visit :: later)) :
    (∃ nonempty, visit.provider =
      environment.select (trace ++ earlier.flatMap Visit.effects)
        (unselected remaining (earlier.flatMap Visit.effects)) nonempty) ∧
      visit.AnsweredBy environment (trace ++ earlier.flatMap Visit.effects) := by
  induction earlier generalizing remaining trace with
  | nil =>
      rw [List.flatMap_nil, List.append_nil, unselected_nil]
      exact ⟨answered.1, answered.2.1⟩
  | cons first earlier inductionHypothesis =>
      rw [List.flatMap_cons, unselected_effects_append, ← List.append_assoc]
      exact inductionHypothesis answered.2.2

/-- An effect of some visits is one of a visit. -/
theorem exists_visit_of_flatMap_eq
    {before after : List (Effect α)}
    {effect : Effect α}
    (effectsEq : visits.flatMap Visit.effects = before ++ effect :: after) :
    ∃ earlier visit later left right,
      visits = earlier ++ visit :: later ∧
        visit.effects = left ++ effect :: right ∧
        before = earlier.flatMap Visit.effects ++ left ∧
        after = right ++ later.flatMap Visit.effects := by
  induction visits generalizing before with
  | nil => simp at effectsEq
  | cons first rest inductionHypothesis =>
      have inRest {before : List (Effect α)}
          (restEq : rest.flatMap Visit.effects = before ++ effect :: after) :
          ∃ earlier visit later left right,
            first :: rest = earlier ++ visit :: later ∧
              visit.effects = left ++ effect :: right ∧
              first.effects ++ before = earlier.flatMap Visit.effects ++ left ∧
              after = right ++ later.flatMap Visit.effects := by
        obtain ⟨earlier, visit, later, left, right, rfl, isEffect, rfl, rfl⟩ :=
          inductionHypothesis restEq
        exact ⟨first :: earlier, visit, later, left, right, rfl, isEffect,
          by rw [List.flatMap_cons, List.append_assoc], rfl⟩
      rw [List.flatMap_cons] at effectsEq
      rcases List.append_eq_append_iff.1 effectsEq with
        ⟨more, rfl, restEq⟩ | ⟨others, firstEq, afterEq⟩
      · exact inRest restEq
      · cases others with
        | nil =>
            rw [List.append_nil] at firstEq
            have restEq : rest.flatMap Visit.effects = [] ++ effect :: after :=
              afterEq.symm
            have found := inRest restEq
            rwa [List.append_nil, firstEq] at found
        | cons other others =>
            obtain ⟨rfl, rfl⟩ := List.cons.inj afterEq
            exact ⟨[], first, rest, before, others, rfl, firstEq, rfl, rfl⟩

namespace Visit

/-- An admitted provider is called, and no other one. -/
theorem isSome_call (visit : Visit α) :
    visit.call.isSome = admits visit.decision := by
  cases visit with
  | rejected _ _ isRejected => exact isRejected.symm
  | succeeded _ _ isAdmitted _ => exact isAdmitted.symm
  | retried _ _ isAdmitted _ _ => exact isAdmitted.symm
  | failed _ _ isAdmitted _ _ => exact isAdmitted.symm

/-- A visit begins with the answers of the breaker and of the provider. -/
theorem exists_effects_eq (visit : Visit α) :
    ∃ rest, visit.effects =
      .selected visit.provider.id :: .acquired visit.provider.id visit.decision ::
        (visit.call.map (Effect.called visit.provider.id)).toList ++ rest := by
  cases visit with
  | rejected => exact ⟨_, rfl⟩
  | succeeded => exact ⟨_, rfl⟩
  | retried => exact ⟨_, rfl⟩
  | failed => exact ⟨_, rfl⟩

/-- A visit that the environment answers begins with these answers. -/
theorem AnsweredBy.exists_opening
    {visit : Visit α}
    {trace : List (Effect α)}
    (answered : visit.AnsweredBy environment trace) :
    ∃ rest, visit.effects = opening environment trace visit.provider ++ rest := by
  obtain ⟨rest, effectsEq⟩ := visit.exists_effects_eq
  refine ⟨rest, effectsEq.trans ?_⟩
  rw [opening, ← answered.acquired, ← visit.isSome_call]
  cases called : visit.call with
  | none => rfl
  | some answer =>
      rw [← answered.called answer called]
      rfl

variable {visit : Visit α} {left right : List (Effect α)} {id : String}

/-- The selection of a visit is its first effect. -/
theorem eq_nil_of_selected
    (effectsEq : visit.effects = left ++ .selected id :: right) : left = [] := by
  cases visit <;> simp_all [effects, List.cons_eq_append_iff]

/-- The breaker is asked after the selection. -/
theorem eq_of_acquired
    {answer : Except Thrown CircuitDecision}
    (effectsEq : visit.effects = left ++ .acquired id answer :: right) :
    left = [.selected id] := by
  cases visit <;> simp_all [effects, List.cons_eq_append_iff]

/-- An admitted provider is called after its breaker answered. -/
theorem eq_of_called
    {answer : Except Thrown α}
    (effectsEq : visit.effects = left ++ .called id answer :: right) :
    left = [.selected id, .acquired id visit.decision] ∧
      admits visit.decision = true := by
  cases visit <;> simp_all [effects, decision, List.cons_eq_append_iff]

end Visit

/-- The environment gave all the answers of the visits that it answered. -/
theorem Answered.answeredBy
    {candidates : List BaseProvider}
    (answered : Answered environment candidates [] visits) :
    AnsweredBy environment candidates (visits.flatMap Visit.effects) where
  opened := by
    intro before id after effectsEq
    obtain ⟨earlier, visit, later, left, right, rfl, isEffect, rfl, rfl⟩ :=
      exists_visit_of_flatMap_eq effectsEq
    obtain rfl := visit.eq_nil_of_selected isEffect
    obtain ⟨⟨nonempty, isProvider⟩, isAnswered⟩ := answered.of_append_cons
    obtain ⟨rest, openingEq⟩ := isAnswered.exists_opening
    rw [List.nil_append] at isProvider isEffect openingEq
    rw [List.append_nil]
    refine ⟨nonempty, rest ++ later.flatMap Visit.effects, ?_⟩
    rw [← isProvider, ← List.append_assoc, ← openingEq, isEffect]
    rfl
  acquired := by
    intro before id answer after effectsEq
    obtain ⟨earlier, visit, later, left, right, rfl, isEffect, rfl, rfl⟩ :=
      exists_visit_of_flatMap_eq effectsEq
    rw [visit.eq_of_acquired isEffect]
    exact ⟨_, rfl⟩
  called := by
    intro before id answer after effectsEq
    obtain ⟨earlier, visit, later, left, right, rfl, isEffect, rfl, rfl⟩ :=
      exists_visit_of_flatMap_eq effectsEq
    obtain ⟨leftEq, isAdmitted⟩ := visit.eq_of_called isEffect
    exact ⟨_, visit.decision, isAdmitted, congrArg (_ ++ ·) leftEq⟩

/-- Each selection of a run is the load balancer's. -/
theorem AnsweredBy.selected
    {candidates : List BaseProvider}
    {trace before after : List (Effect α)}
    {id : String}
    (answered : AnsweredBy environment candidates trace)
    (traceEq : trace = before ++ .selected id :: after) :
    ∃ nonempty : unselected candidates before ≠ [],
      (environment.select before (unselected candidates before) nonempty).1.id =
        id := by
  obtain ⟨nonempty, rest, openingEq⟩ := answered.opened before id after traceEq
  have sameSelection := (List.cons.inj openingEq).1
  exact ⟨nonempty, (Effect.selected.inj sameSelection).symm⟩

/-- Every call of a run is of a candidate, and the environment answered it. -/
theorem AnsweredBy.mem_calls
    {candidates : List BaseProvider}
    {trace : List (Effect α)}
    (answered : AnsweredBy environment candidates trace)
    {call : String × Except Thrown α}
    (isCall : call ∈ calls trace) :
    ∃ provider ∈ candidates, provider.id = call.1 ∧
      ∃ before, environment.call before provider = call.2 := by
  obtain ⟨id, answer⟩ := call
  have isEffect : .called id answer ∈ trace := by
    obtain ⟨effect, isEffect, isCall⟩ := List.mem_filterMap.1 isCall
    cases effect <;> cases isCall
    exact isEffect
  obtain ⟨before, after, traceEq⟩ := List.append_of_mem isEffect
  obtain ⟨earlier, decision, isAdmitted, rfl⟩ := answered.called _ _ _ _ traceEq
  obtain ⟨nonempty, rest, openingEq⟩ := answered.opened earlier id
    (.acquired id decision :: .called id answer :: after) (by simp [traceEq])
  generalize environment.select earlier (unselected candidates earlier) nonempty =
    provider at openingEq
  rw [opening, List.cons_append, List.cons_append] at openingEq
  obtain ⟨sameId, acquiredEq⟩ := List.cons.inj openingEq
  obtain ⟨sameDecision, calledEq⟩ := List.cons.inj acquiredEq
  rw [← (Effect.acquired.inj sameDecision).2, if_pos isAdmitted] at calledEq
  have answerEq := (Effect.called.inj (List.cons.inj calledEq).1).2
  exact ⟨provider, List.mem_of_mem_filter provider.2,
    (Effect.selected.inj sameId).symm, _, answerEq.symm⟩

end Answers

section Run

variable (environment : Environment α)

/-- A run of the loop is a list of visits to distinct providers, which the
environment answers. -/
theorem exists_visits
    (remaining : List BaseProvider)
    (attempts : Nat)
    (trace : List (Effect α)) :
    ∃ visits : List (Visit α),
      (failoverLoop environment remaining attempts trace).2 =
          trace ++ visits.flatMap Visit.effects ∧
      (visits.map fun visit => visit.provider.id).Nodup ∧
      (∀ visit ∈ visits, visit.provider ∈ remaining) ∧
      Answered environment remaining trace visits ∧
      Concludes remaining attempts (visits.flatMap Visit.effects)
        (failoverLoop environment remaining attempts trace).1 := by
  fun_induction failoverLoop environment remaining attempts trace with
  | case1 remaining attempts trace nonempty provider thrown after attemptEq =>
      obtain ⟨visit, isProvider, answered, visitEq⟩ :=
        exists_visit environment provider.1 attempts trace
      obtain ⟨turnEq, rfl⟩ := Prod.mk.inj (attemptEq.symm.trans visitEq)
      refine ⟨[visit], by simp, by simp, ?_, ⟨⟨nonempty, isProvider⟩, answered, trivial⟩,
        ?_⟩
      · simpa [isProvider] using provider.2
      · simpa using Concludes.of_turn_eq_error turnEq.symm
  | case2 remaining attempts trace nonempty provider other value failoverCount
      after attemptEq =>
      obtain ⟨visit, isProvider, answered, visitEq⟩ :=
        exists_visit environment provider.1 attempts trace
      obtain ⟨turnEq, rfl⟩ := Prod.mk.inj (attemptEq.symm.trans visitEq)
      have isCandidate : visit.provider ∈ remaining := isProvider ▸ provider.2
      refine ⟨[visit], by simp, by simp, by simpa using isCandidate,
        ⟨⟨nonempty, isProvider⟩, answered, trivial⟩, ?_⟩
      simpa using Concludes.of_turn_eq_done isCandidate turnEq.symm
  | case3 remaining attempts trace nonempty provider next after attemptEq
      inductionHypothesis =>
      obtain ⟨visit, isProvider, answered, visitEq⟩ :=
        exists_visit environment provider.1 attempts trace
      obtain ⟨turnEq, rfl⟩ := Prod.mk.inj (attemptEq.symm.trans visitEq)
      obtain ⟨goesOn, rfl⟩ := Visit.goesOn_of_turn_eq_next turnEq.symm
      obtain ⟨visits, traceEq, distinct, areRemaining, allAnswered, concludes⟩ :=
        inductionHypothesis
      rw [← isProvider] at traceEq areRemaining allAnswered concludes ⊢
      refine ⟨visit :: visits, ?_, ?_, ?_,
        ⟨⟨nonempty, isProvider⟩, answered, allAnswered⟩, concludes.after goesOn⟩
      · rw [traceEq, List.flatMap_cons, List.append_assoc]
      · refine List.nodup_cons.2 ⟨?_, distinct⟩
        simp only [List.mem_map, not_exists, not_and]
        intro other isVisited sameId
        simpa [without, sameId] using areRemaining other isVisited
      · refine List.forall_mem_cons.2 ⟨isProvider ▸ provider.2, ?_⟩
        exact fun other isVisited =>
          List.mem_of_mem_filter (areRemaining other isVisited)
  | case4 remaining attempts trace isEmpty =>
      rw [not_not] at isEmpty
      subst isEmpty
      refine ⟨[], by simp, by simp, by simp, trivial, ?_⟩
      exact .exhausted (by simp [calls]) (by simp)

end Run

section Accounting

variable {visits : List (Visit α)}

theorem selections_flatMap :
    selections (visits.flatMap Visit.effects) =
      visits.map fun visit => visit.provider.id := by
  rw [selections, List.filterMap_flatMap, List.map_eq_flatMap]
  exact List.flatMap_congr fun visit _ => visit.selections_effects

theorem balancerReleases_flatMap :
    balancerReleases (visits.flatMap Visit.effects) =
      visits.map fun visit => visit.provider.id := by
  rw [balancerReleases, List.filterMap_flatMap, List.map_eq_flatMap]
  exact List.flatMap_congr fun visit _ => visit.balancerReleases_effects

/-- A call of a run is the call of one of its visits. -/
theorem mem_calls_flatMap
    {call : String × Except Thrown α}
    (isCall : call ∈ calls (visits.flatMap Visit.effects)) :
    ∃ visit ∈ visits, visit.provider.id = call.1 ∧ visit.call = some call.2 := by
  rw [calls, List.filterMap_flatMap, List.mem_flatMap] at isCall
  obtain ⟨visit, isVisited, isCall⟩ := isCall
  change call ∈ calls visit.effects at isCall
  rw [Visit.calls_effects, Option.mem_toList, Option.map_eq_some_iff] at isCall
  obtain ⟨answer, called, rfl⟩ := isCall
  exact ⟨visit, isVisited, rfl, called⟩

/-- A rejected provider belongs to a visit without a call. -/
theorem mem_rejections_flatMap
    {id : String}
    (isRejected : id ∈ rejections (visits.flatMap Visit.effects)) :
    ∃ visit ∈ visits, visit.provider.id = id ∧ visit.call = none := by
  rw [rejections, List.filterMap_flatMap, List.mem_flatMap] at isRejected
  obtain ⟨visit, isVisited, isRejected⟩ := isRejected
  change id ∈ rejections visit.effects at isRejected
  rw [Visit.rejections_effects] at isRejected
  split at isRejected
  next notCalled =>
    rw [List.mem_singleton] at isRejected
    exact ⟨visit, isVisited, isRejected.symm, Option.isNone_iff_eq_none.1 notCalled⟩
  next => cases isRejected

/-- The calls of a run are those of the admitted providers. -/
theorem map_fst_calls_flatMap :
    (calls (visits.flatMap Visit.effects)).map Prod.fst =
      admissions (visits.flatMap Visit.effects) := by
  rw [calls, admissions, List.filterMap_flatMap, List.filterMap_flatMap,
    List.map_flatMap]
  refine List.flatMap_congr fun visit _ => ?_
  change (calls visit.effects).map Prod.fst = admissions visit.effects
  rw [Visit.calls_effects, Visit.admissions_effects]
  cases visit.call <;> rfl

/-- The breaker of a visited provider is told what this one visit tells it. -/
theorem breakerReports_flatMap
    (distinct : (visits.map fun visit => visit.provider.id).Nodup)
    {visit : Visit α}
    (isVisited : visit ∈ visits) :
    breakerReports (visits.flatMap Visit.effects) visit.provider.id =
      (visit.call.map reportDue).toList := by
  rw [breakerReports, List.filterMap_flatMap]
  change visits.flatMap
    (fun other => breakerReports other.effects visit.provider.id) = _
  simp only [Visit.breakerReports_effects]
  induction visits with
  | nil => cases isVisited
  | cons first rest inductionHypothesis =>
      rw [List.map_cons, List.nodup_cons] at distinct
      rw [List.flatMap_cons]
      rcases List.mem_cons.1 isVisited with rfl | inRest
      · have noOther : ∀ other ∈ rest,
            (if other.provider.id = visit.provider.id
              then (other.call.map reportDue).toList else []) = [] :=
          fun other isOther => if_neg fun sameId =>
            distinct.1 (List.mem_map.2 ⟨other, isOther, sameId⟩)
        rw [if_pos rfl, List.flatMap_eq_nil_iff.2 noOther, List.append_nil]
      · have notFirst : first.provider.id ≠ visit.provider.id :=
          fun sameId => distinct.1 (List.mem_map.2 ⟨visit, inRest, sameId.symm⟩)
        rw [if_neg notFirst, List.nil_append]
        exact inductionHypothesis distinct.2 inRest

/-- Visits to distinct providers account for all their slots and reports. -/
theorem accounted_flatMap
    (distinct : (visits.map fun visit => visit.provider.id).Nodup) :
    Accounted (visits.flatMap Visit.effects) where
  released := by
    intro id isSelected
    rw [selections_flatMap] at isSelected
    rw [balancerReleases_flatMap]
    exact List.count_eq_one_of_mem distinct isSelected
  onlyReleased := by
    intro id isReleased
    rwa [selections_flatMap, ← balancerReleases_flatMap]
  calledAdmitted := map_fst_calls_flatMap
  reported := by
    intro call isCall
    obtain ⟨visit, isVisited, isProvider, called⟩ := mem_calls_flatMap isCall
    rw [← isProvider, breakerReports_flatMap distinct isVisited, called]
    rfl
  unreported := by
    intro id isRejected
    obtain ⟨visit, isVisited, isProvider, notCalled⟩ :=
      mem_rejections_flatMap isRejected
    rw [← isProvider, breakerReports_flatMap distinct isVisited, notCalled]
    rfl

end Accounting

/-- Every run of `runFailover` concludes as its calls require. -/
theorem concludes_runFailover
    (environment : Environment α)
    (candidates : List BaseProvider) :
    Concludes candidates 0 (runFailover environment candidates).2
      (runFailover environment candidates).1 := by
  obtain ⟨visits, traceEq, -, -, -, concludes⟩ :=
    exists_visits environment candidates 0 []
  rw [List.nil_append] at traceEq
  rw [runFailover, traceEq]
  exact concludes

/-- The environment gives all the answers that a run of `runFailover` goes by. -/
theorem answeredBy_runFailover
    (environment : Environment α)
    (candidates : List BaseProvider) :
    AnsweredBy environment candidates (runFailover environment candidates).2 := by
  obtain ⟨visits, traceEq, -, -, answered, -⟩ :=
    exists_visits environment candidates 0 []
  rw [List.nil_append] at traceEq
  rw [runFailover, traceEq]
  exact answered.answeredBy

/-- Every run of `runFailover` selects each candidate at most once, asks the breaker
of a selected provider and calls the provider if it is admitted, goes by what these
answer, concludes as its calls require, and leaves every slot and every breaker
accounted for. -/
theorem runFailover_concludes
    (environment : Environment α)
    (candidates : List BaseProvider) :
    SelectsOnce candidates (runFailover environment candidates).2 ∧
      AnsweredBy environment candidates (runFailover environment candidates).2 ∧
      Concludes candidates 0 (runFailover environment candidates).2
        (runFailover environment candidates).1 ∧
      Accounted (runFailover environment candidates).2 := by
  refine ⟨?_, answeredBy_runFailover environment candidates,
    concludes_runFailover environment candidates, ?_⟩
  · obtain ⟨visits, traceEq, distinct, areCandidates, -⟩ :=
      exists_visits environment candidates 0 []
    rw [List.nil_append] at traceEq
    rw [runFailover, traceEq]
    refine ⟨?_, fun id isSelected => ?_⟩
    · rwa [selections_flatMap]
    · rw [selections_flatMap, List.mem_map] at isSelected
      obtain ⟨visit, isVisited, isProvider⟩ := isSelected
      exact ⟨visit.provider, areCandidates visit isVisited, isProvider⟩
  · obtain ⟨visits, traceEq, distinct, -⟩ := exists_visits environment candidates 0 []
    rw [List.nil_append] at traceEq
    rw [runFailover, traceEq]
    exact accounted_flatMap distinct

/-- All breakers admit and all providers answer. -/
def willing : Environment Nat where
  select _ remaining nonempty :=
    ⟨remaining.head nonempty, List.head_mem nonempty⟩
  acquire _ _ := .ok { state := .closed, allowed := true }
  call _ _ := .ok 7
  bookkeeping _ := .ok ()

/-- Where every provider would answer, the first answer is returned. -/
theorem runFailover_concludes_of_willing :
    ∃ provider,
      (runFailover willing [{ id := "a", name := "a" }, { id := "b", name := "b" }]).1 =
        .ok { provider := provider, value := 7, failoverCount := 0 } := by
  obtain ⟨-, answered, concludes, -⟩ := runFailover_concludes willing
    [{ id := "a", name := "a" }, { id := "b", name := "b" }]
  generalize runFailover willing _ = run at answered concludes ⊢
  obtain ⟨result, trace⟩ := run
  dsimp only at answered concludes ⊢
  have answers (call : String × Except Thrown Nat) (isCall : call ∈ calls trace) :
      call.2 = .ok 7 := by
    obtain ⟨provider, -, -, before, isAnswer⟩ := answered.mem_calls isCall
    exact isAnswer.symm
  cases concludes with
  | returned failures provider value isCandidate allRetried callsMade =>
      have isValue := answers (provider.id, .ok value) (by simp [callsMade])
      obtain rfl : failures = [] := by
        refine List.eq_nil_iff_forall_not_mem.2 fun call isFailure => ?_
        have isRetried := allRetried call isFailure
        rw [answers call (by simp [callsMade, isFailure])] at isRetried
        exact isRetried
      cases isValue
      exact ⟨provider, rfl⟩
  | rethrown failures id thrown isFinal allRetried callsMade =>
      cases answers (id, .error thrown) (by simp [callsMade])
  | exhausted allRetried allSelected =>
      -- the first candidate was selected, so it was called
      obtain ⟨effect, isEffect, isSelection⟩ :=
        List.mem_filterMap.1 (allSelected _ List.mem_cons_self)
      cases effect <;> cases isSelection
      obtain ⟨before, after, rfl⟩ := List.append_of_mem isEffect
      obtain ⟨nonempty, rest, openingEq⟩ := answered.opened _ _ _ rfl
      rw [openingEq] at allRetried
      have isRetried := allRetried (_, .ok 7) (by
        rw [calls_append, calls_append]
        exact List.mem_append_right _ (List.mem_append_left _ List.mem_cons_self))
      exact isRetried.elim

/-- Every run of `runFailover` holds one slot at a time: each slot that a selection
takes is given back before the next selection and before the run ends, also when
the breaker rejects the provider. -/
theorem slotUses_runFailover
    (environment : Environment α)
    (candidates : List BaseProvider) :
    ∃ ids : List String,
      (runFailover environment candidates).2.filterMap Effect.slotUse =
        ids.flatMap fun id => [.taken id, .givenBack id] := by
  obtain ⟨visits, traceEq, -⟩ := exists_visits environment candidates 0 []
  rw [List.nil_append] at traceEq
  refine ⟨visits.map fun visit => visit.provider.id, ?_⟩
  rw [runFailover, traceEq, List.filterMap_flatMap, List.flatMap_map]
  exact List.flatMap_congr fun visit _ => visit.slotUses_effects

end Router
end AiGateway
