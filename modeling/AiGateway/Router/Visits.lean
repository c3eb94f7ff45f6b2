import AiGateway.Router.Failover

/-!
# What a failover run does

A visit is one turn of the failover loop: the selected provider, the answer of
its breaker, and the outcome of its call if it was admitted. A visit determines
its effects and whether the loop goes on; a run is a list of visits to distinct
providers, and everything that is said of a trace is read off its visits.
-/

namespace AiGateway
namespace Router

open CircuitBreaker (CircuitDecision)

/-- Does the answer of a breaker admit a provider? A call that throws does. -/
def admits : Except Thrown CircuitDecision → Bool
  | .ok decision => decision.allowed
  | .error _ => true

/-- A call failed with an error that may be retried with another provider. -/
def Retried : Except Thrown α → Prop
  | .ok _ => False
  | .error thrown => (GatewayError.fromThrown thrown).retryable = true

/-- What the breaker is told about an admitted call. -/
inductive BreakerReport
  | success
  | failure
  | release
  deriving DecidableEq, Repr

/-- The report that is due for the outcome of a call. -/
def reportDue : Except Thrown α → BreakerReport
  | .ok _ => .success
  | .error thrown =>
      if (GatewayError.fromThrown thrown).retryable then .failure else .release

namespace Effect

/-- The provider that an effect selects. -/
def selection : Effect α → Option String
  | .selected id => some id
  | _ => none

/-- The provider that an answer of a breaker admits, or rejects. -/
def acquisition (admitted : Bool) : Effect α → Option String
  | .acquired id answer => if admits answer = admitted then some id else none
  | _ => none

/-- The call of a provider and its answer. -/
def call : Effect α → Option (String × Except Thrown α)
  | .called id answer => some (id, answer)
  | _ => none

/-- The provider whose slot the load balancer gets back. -/
def balancerReleased : Effect α → Option String
  | .balancerRelease id => some id
  | _ => none

/-- The use of a slot of the load balancer: it is taken by a selection, and given
back by a release. -/
inductive SlotUse
  | taken (id : String)
  | givenBack (id : String)
  deriving DecidableEq, Repr

/-- The use that an effect makes of a slot. -/
def slotUse : Effect α → Option SlotUse
  | .selected id => some (.taken id)
  | .balancerRelease id => some (.givenBack id)
  | _ => none

/-- What an effect tells the breaker of a provider. -/
def report (id : String) : Effect α → Option BreakerReport
  | .breakerSuccess other => if other = id then some .success else none
  | .breakerFailure other => if other = id then some .failure else none
  | .breakerRelease other => if other = id then some .release else none
  | _ => none

end Effect

section Trace

variable (trace : List (Effect α))

/-- The selected providers of a trace, in order. -/
def selections : List String := trace.filterMap Effect.selection

/-- The providers that their breakers admitted. -/
def admissions : List String := trace.filterMap (Effect.acquisition true)

/-- The providers that their breakers rejected. -/
def rejections : List String := trace.filterMap (Effect.acquisition false)

/-- The calls of a trace and their answers, in order. -/
def calls : List (String × Except Thrown α) := trace.filterMap Effect.call

/-- The slots that the load balancer gets back. -/
def balancerReleases : List String := trace.filterMap Effect.balancerReleased

/-- What the breaker of a provider is told. -/
def breakerReports (id : String) : List BreakerReport :=
  trace.filterMap (Effect.report id)

end Trace

/-- One turn of the loop. -/
inductive Visit (α : Type)
  /-- The breaker rejected the provider. -/
  | rejected
      (provider : BaseProvider)
      (answer : Except Thrown CircuitDecision)
      (isRejected : admits answer = false)
  /-- The call succeeded. -/
  | succeeded
      (provider : BaseProvider)
      (answer : Except Thrown CircuitDecision)
      (isAdmitted : admits answer = true)
      (value : α)
  /-- The call failed with an error that may be retried. -/
  | retried
      (provider : BaseProvider)
      (answer : Except Thrown CircuitDecision)
      (isAdmitted : admits answer = true)
      (thrown : Thrown)
      (isRetryable : (GatewayError.fromThrown thrown).retryable = true)
  /-- The call failed with an error that may not. -/
  | failed
      (provider : BaseProvider)
      (answer : Except Thrown CircuitDecision)
      (isAdmitted : admits answer = true)
      (thrown : Thrown)
      (isFinal : (GatewayError.fromThrown thrown).retryable = false)

namespace Visit

/-- The provider of a visit. -/
def provider : Visit α → BaseProvider
  | .rejected provider _ _ => provider
  | .succeeded provider _ _ _ => provider
  | .retried provider _ _ _ _ => provider
  | .failed provider _ _ _ _ => provider

/-- The effects of a visit, in order. -/
def effects : Visit α → List (Effect α)
  | .rejected provider answer _ =>
      [.selected provider.id, .acquired provider.id answer,
        .providerErrors provider.name "circuit_open",
        .balancerRelease provider.id]
  | .succeeded provider answer _ value =>
      [.selected provider.id, .acquired provider.id answer,
        .called provider.id (.ok value), .breakerSuccess provider.id,
        .balancerRelease provider.id]
  | .retried provider answer _ thrown _ =>
      [.selected provider.id, .acquired provider.id answer,
        .called provider.id (.error thrown), .breakerFailure provider.id,
        .balancerFailure provider.id,
        .providerErrors provider.name "upstream_error", .failovers,
        .balancerRelease provider.id]
  | .failed provider answer _ thrown _ =>
      [.selected provider.id, .acquired provider.id answer,
        .called provider.id (.error thrown),
        .providerErrors provider.name "client_error",
        .breakerRelease provider.id, .balancerRelease provider.id]

/-- How a visit ends its turn, after a number of attempts. -/
def turn (attempts : Nat) : Visit α → Except Thrown (Turn α)
  | .rejected _ _ _ => .ok (.next attempts)
  | .succeeded provider _ _ value => .ok (.done provider value attempts)
  | .retried _ _ _ _ _ => .ok (.next (attempts + 1))
  | .failed _ _ _ thrown _ =>
      .error (.gateway (GatewayError.fromThrown thrown))

/-- The call of a visit, if its provider was admitted. -/
def call : Visit α → Option (Except Thrown α)
  | .rejected _ _ _ => none
  | .succeeded _ _ _ value => some (.ok value)
  | .retried _ _ _ thrown _ => some (.error thrown)
  | .failed _ _ _ thrown _ => some (.error thrown)

/-- The answer of the breaker of a visited provider. -/
def decision : Visit α → Except Thrown CircuitDecision
  | .rejected _ answer _ => answer
  | .succeeded _ answer _ _ => answer
  | .retried _ answer _ _ _ => answer
  | .failed _ answer _ _ _ => answer

/-- The environment gave the answers of a visit that began after a trace. -/
structure AnsweredBy
    (environment : Environment α)
    (trace : List (Effect α))
    (visit : Visit α) : Prop where
  acquired :
    visit.decision =
      environment.acquire (trace ++ [.selected visit.provider.id]) visit.provider
  called : ∀ answer, visit.call = some answer →
    answer = environment.call
      (trace ++ [.selected visit.provider.id,
        .acquired visit.provider.id visit.decision]) visit.provider

variable (visit : Visit α)

@[simp] theorem selections_effects :
    selections visit.effects = [visit.provider.id] := by
  cases visit <;> rfl

/-- A visit takes a slot and gives it back. -/
theorem slotUses_effects :
    visit.effects.filterMap Effect.slotUse =
      [.taken visit.provider.id, .givenBack visit.provider.id] := by
  cases visit <;> rfl

@[simp] theorem balancerReleases_effects :
    balancerReleases visit.effects = [visit.provider.id] := by
  cases visit <;> rfl

/-- An admitted provider is called, a rejected one is not. -/
theorem calls_effects :
    calls visit.effects =
      (visit.call.map fun answer => (visit.provider.id, answer)).toList := by
  cases visit <;> rfl

theorem admissions_effects :
    admissions visit.effects =
      (visit.call.map fun _ => visit.provider.id).toList := by
  cases visit <;>
    simp_all [admissions, List.filterMap_cons, effects, Effect.acquisition, call,
      provider]

theorem rejections_effects :
    rejections visit.effects =
      if visit.call.isNone then [visit.provider.id] else [] := by
  cases visit <;>
    simp_all [rejections, List.filterMap_cons, effects, Effect.acquisition, call,
      provider]

/-- The breaker of the visited provider is told the outcome of the call, and no
other breaker is told anything. -/
theorem breakerReports_effects (id : String) :
    breakerReports visit.effects id =
      if visit.provider.id = id then (visit.call.map reportDue).toList
      else [] := by
  by_cases isVisited : visit.provider.id = id <;>
    cases visit <;>
    simp_all [breakerReports, List.filterMap_cons, effects, Effect.report, call,
      provider, reportDue]

end Visit

section Turn

variable (environment : Environment α)

/-- A swallowed bookkeeping call only leaves its effect. -/
@[simp] theorem runOn_swallow_bookkeep
    (effect : Effect α)
    (trace : List (Effect α)) :
    (Program.swallow (bookkeep environment effect)).runOn trace =
      (.ok (), trace ++ [effect]) := by
  rw [Program.swallow, Program.runOn_tryCatch, bookkeep, Program.runOn_perform]
  cases environment.bookkeeping trace <;> rfl

/-- The answer of the breaker is a decision, which admits when the breaker could
not be reached. -/
theorem runOn_acquire
    (provider : BaseProvider)
    (trace : List (Effect α)) :
    ∃ decision : CircuitDecision,
      decision.allowed = admits (environment.acquire trace provider) ∧
        (acquire environment provider).runOn trace =
          (.ok decision,
            trace ++ [.acquired provider.id
              (environment.acquire trace provider)]) := by
  rw [acquire, Program.runOn_tryCatch, Program.runOn_perform]
  cases environment.acquire trace provider with
  | ok decision => exact ⟨decision, rfl, rfl⟩
  | error thrown => exact ⟨_, rfl, rfl⟩

/-- One turn of the loop is a visit of the selected provider, which the environment
answers. -/
theorem exists_visit
    (provider : BaseProvider)
    (attempts : Nat)
    (trace : List (Effect α)) :
    ∃ visit : Visit α, visit.provider = provider ∧
      visit.AnsweredBy environment trace ∧
      (attempt environment provider attempts).runOn
          (trace ++ [.selected provider.id]) =
        (visit.turn attempts, trace ++ visit.effects) := by
  obtain ⟨decision, admitted, acquired⟩ :=
    runOn_acquire environment provider (trace ++ [.selected provider.id])
  rw [attempt, Program.runOn_bind, acquired]
  dsimp only
  generalize answerEq : environment.acquire (trace ++ [.selected provider.id])
    provider = answer at admitted
  cases isAllowed : decision.allowed with
  | false =>
      have notAdmitted : admits answer = false := admitted.symm.trans isAllowed
      refine ⟨.rejected provider answer notAdmitted, rfl, ⟨answerEq.symm, ?_⟩, ?_⟩
      · rintro _ ⟨⟩
      · simp [Visit.turn, Visit.effects]
  | true =>
      have isAdmitted : admits answer = true := admitted.symm.trans isAllowed
      simp only [Bool.not_true, Bool.false_eq_true, if_false, callProvider,
        Program.runOn_andFinally, Program.runOn_tryCatch, Program.runOn_bind,
        Program.runOn_perform, runOn_swallow_bookkeep]
      rw [List.append_assoc, List.singleton_append]
      cases answered : environment.call (trace ++ [.selected provider.id,
        .acquired provider.id answer]) provider with
      | ok value =>
          refine ⟨.succeeded provider answer isAdmitted value, rfl,
            ⟨answerEq.symm, ?_⟩, ?_⟩
          · rintro _ ⟨⟩
            exact answered.symm
          · simp [Visit.turn, Visit.effects]
      | error thrown =>
          cases isRetryable : (GatewayError.fromThrown thrown).retryable with
          | true =>
              refine ⟨.retried provider answer isAdmitted thrown isRetryable,
                rfl, ⟨answerEq.symm, ?_⟩, ?_⟩
              · rintro _ ⟨⟩
                exact answered.symm
              · simp [Visit.turn, Visit.effects, isRetryable]
          | false =>
              refine ⟨.failed provider answer isAdmitted thrown isRetryable,
                rfl, ⟨answerEq.symm, ?_⟩, ?_⟩
              · rintro _ ⟨⟩
                exact answered.symm
              · simp [Visit.turn, Visit.effects, isRetryable]

end Turn

end Router
end AiGateway
