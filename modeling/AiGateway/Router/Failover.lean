import AiGateway.Errors
import AiGateway.CircuitBreaker.Scripts
import Mathlib.Data.List.Nodup

/-!
# The failover loop

`runFailover` selects a candidate, asks its breaker, calls it, and returns,
throws, or goes on to the next one. It is translated as a program that may throw
and that leaves a trace of its effects. The environment decides what the load
balancer selects and what every call answers, from the trace so far, so it
stands for every load balancer, every state of the breakers and every sequence
of outcomes.

A run is then described as a list of visits, one for each selected provider,
from which the result and all counts of effects follow.
-/

namespace AiGateway
namespace Router

open CircuitBreaker (CircuitDecision)

/-- What the failover loop reads of a `BaseProvider`. -/
structure BaseProvider where
  id : String
  name : String
  deriving DecidableEq, Repr

/-- An effect of the failover loop, in the order of the trace. -/
inductive Effect (α : Type)
  /-- `loadBalancer.select` returned a provider. -/
  | selected (id : String)
  /-- `circuitBreaker.acquire` answered. -/
  | acquired (id : String) (answer : Except Thrown CircuitDecision)
  /-- The provider was called. -/
  | called (id : String) (answer : Except Thrown α)
  /-- `circuitBreaker.recordSuccess`. -/
  | breakerSuccess (id : String)
  /-- `circuitBreaker.recordFailure`. -/
  | breakerFailure (id : String)
  /-- `circuitBreaker.release`. -/
  | breakerRelease (id : String)
  /-- `loadBalancer.recordFailure`. -/
  | balancerFailure (id : String)
  /-- `loadBalancer.release`. -/
  | balancerRelease (id : String)
  /-- `metrics.providerErrors.inc`. -/
  | providerErrors (provider kind : String)
  /-- `metrics.failovers.inc`. -/
  | failovers

/-- Everything outside the loop. -/
structure Environment (α : Type) where
  /-- The load balancer returns a member of the list it is given. -/
  select : List (Effect α) → (remaining : List BaseProvider) →
    remaining ≠ [] → { provider // provider ∈ remaining }
  acquire : List (Effect α) → BaseProvider → Except Thrown CircuitDecision
  call : List (Effect α) → BaseProvider → Except Thrown α
  /-- Whether a bookkeeping call throws. -/
  bookkeeping : List (Effect α) → Except Thrown Unit

/-- A program that may throw and appends its effects to the trace. -/
abbrev Program (α β : Type) := ExceptT Thrown (StateM (List (Effect α))) β

/-- What a program returns or throws, and the trace after it. -/
def Program.runOn (program : Program α β) (trace : List (Effect α)) :
    Except Thrown β × List (Effect α) :=
  program.run.run trace

namespace Program

/-- A call whose answer the environment decides. -/
def perform
    (answer : List (Effect α) → Except Thrown β)
    (effect : Except Thrown β → Effect α) : Program α β :=
  ExceptT.mk fun trace => (answer trace, trace ++ [effect (answer trace)])

/-- A metric; it does not throw. -/
def count (effect : Effect α) : Program α Unit :=
  ExceptT.mk fun trace => (.ok (), trace ++ [effect])

/-- `.catch(swallowBreakerError)`, and the `catch` of the load balancer's
facade. -/
def swallow (program : Program α Unit) : Program α Unit :=
  tryCatch program fun _ => pure ()

/-- `try { ... } finally { ... }`. -/
def andFinally (program : Program α β) (finalizer : Program α Unit) :
    Program α β :=
  ExceptT.mk fun trace =>
    let (result, trace) := program.runOn trace
    match finalizer.runOn trace with
    | (.ok _, trace) => (result, trace)
    | (.error thrown, trace) => (.error thrown, trace)

section Rules

variable (trace : List (Effect α))

@[simp] theorem runOn_pure (value : β) :
    (pure value : Program α β).runOn trace = (.ok value, trace) := rfl

@[simp] theorem runOn_throw (thrown : Thrown) :
    (throw thrown : Program α β).runOn trace = (.error thrown, trace) := rfl

@[simp] theorem runOn_bind
    (program : Program α β)
    (next : β → Program α γ) :
    (program >>= next).runOn trace =
      match program.runOn trace with
      | (.ok value, trace) => (next value).runOn trace
      | (.error thrown, trace) => (.error thrown, trace) := by
  change ExceptT.bindCont next (program trace).1 (program trace).2 =
    match program trace with
    | (.ok value, trace) => (next value).runOn trace
    | (.error thrown, trace) => (.error thrown, trace)
  rcases program trace with ⟨_ | _, _⟩ <;> rfl

@[simp] theorem runOn_map
    (f : β → γ)
    (program : Program α β) :
    (f <$> program).runOn trace =
      match program.runOn trace with
      | (.ok value, trace) => (.ok (f value), trace)
      | (.error thrown, trace) => (.error thrown, trace) := by
  rw [map_eq_pure_bind, runOn_bind]
  rfl

@[simp] theorem runOn_tryCatch
    (program : Program α β)
    (handler : Thrown → Program α β) :
    (tryCatch program handler).runOn trace =
      match program.runOn trace with
      | (.ok value, trace) => (.ok value, trace)
      | (.error thrown, trace) => (handler thrown).runOn trace := by
  simp only [runOn, tryCatch, tryCatchThe, MonadExceptOf.tryCatch,
    ExceptT.tryCatch, ExceptT.run, ExceptT.mk, StateT.run, bind, StateT.bind]
  rcases program trace with ⟨_ | _, _⟩ <;> rfl

@[simp] theorem runOn_perform
    (answer : List (Effect α) → Except Thrown β)
    (effect : Except Thrown β → Effect α) :
    (perform answer effect).runOn trace =
      (answer trace, trace ++ [effect (answer trace)]) := rfl

@[simp] theorem runOn_count (effect : Effect α) :
    (count effect).runOn trace = (.ok (), trace ++ [effect]) := rfl

@[simp] theorem runOn_andFinally
    (program : Program α β)
    (finalizer : Program α Unit) :
    (program.andFinally finalizer).runOn trace =
      match finalizer.runOn (program.runOn trace).2 with
      | (.ok _, trace') => ((program.runOn trace).1, trace')
      | (.error thrown, trace') => (.error thrown, trace') := rfl

end Rules

end Program

/-- How one turn of the loop ends: it goes on, or the function returns. -/
inductive Turn (α : Type)
  | next (attempts : Nat)
  | done (provider : BaseProvider) (value : α) (failoverCount : Nat)

section Loop

variable (environment : Environment α)

/-- A bookkeeping call. -/
def bookkeep (effect : Effect α) : Program α Unit :=
  Program.perform environment.bookkeeping fun _ => effect

/-- `circuitBreaker.acquire`; a breaker that cannot be reached fails open. -/
def acquire (provider : BaseProvider) : Program α CircuitDecision :=
  tryCatch
    (Program.perform (environment.acquire · provider)
      (Effect.acquired provider.id))
    fun _ => pure { state := .closed, allowed := true }

/-- The call of an admitted provider with its `catch` and `finally`. -/
def callProvider (provider : BaseProvider) (attempts : Nat) :
    Program α (Turn α) :=
  Program.andFinally
    (tryCatch
      (do
        let value ← Program.perform (environment.call · provider)
          (Effect.called provider.id)
        Program.swallow (bookkeep environment (.breakerSuccess provider.id))
        return .done provider value (attempts - 1))
      fun thrown => do
        let error := GatewayError.fromThrown thrown
        if !error.retryable then
          Program.count (.providerErrors provider.name "client_error")
          Program.swallow (bookkeep environment (.breakerRelease provider.id))
          throw (.gateway error)
        Program.swallow (bookkeep environment (.breakerFailure provider.id))
        Program.swallow (bookkeep environment (.balancerFailure provider.id))
        Program.count (.providerErrors provider.name "upstream_error")
        Program.count .failovers
        return .next attempts)
    (Program.swallow (bookkeep environment (.balancerRelease provider.id)))

/-- The body of the loop, after the selection. -/
def attempt (provider : BaseProvider) (attempts : Nat) :
    Program α (Turn α) := do
  let decision ← acquire environment provider
  if !decision.allowed then
    Program.count (.providerErrors provider.name "circuit_open")
    Program.swallow (bookkeep environment (.balancerRelease provider.id))
    return .next attempts
  callProvider environment provider (attempts + 1)

/-- The value `runFailover` returns. -/
structure FailoverResult (α : Type) where
  provider : BaseProvider
  value : α
  failoverCount : Nat

/-- The providers that remain after one was selected. -/
def without (remaining : List BaseProvider) (provider : BaseProvider) :
    List BaseProvider :=
  remaining.filter fun other => other.id ≠ provider.id

theorem length_without_lt
    {remaining : List BaseProvider}
    {provider : BaseProvider}
    (isMember : provider ∈ remaining) :
    (without remaining provider).length < remaining.length :=
  List.length_filter_lt_length_iff_exists.2 ⟨provider, isMember, by simp⟩

/-- The `while` loop. -/
def failoverLoop
    (remaining : List BaseProvider)
    (attempts : Nat)
    (trace : List (Effect α)) :
    Except Thrown (FailoverResult α) × List (Effect α) :=
  if nonempty : remaining ≠ [] then
    let provider := environment.select trace remaining nonempty
    match (attempt environment provider attempts).runOn
        (trace ++ [.selected provider.1.id]) with
    | (.error thrown, trace) => (.error thrown, trace)
    | (.ok (.done provider value failoverCount), trace) =>
        (.ok
          { provider := provider
            value := value
            failoverCount := failoverCount }, trace)
    | (.ok (.next attempts), trace) =>
        failoverLoop (without remaining provider) attempts trace
  else
    (.error (.gateway (.allProvidersFailed attempts)), trace)
  termination_by remaining.length
  decreasing_by exact length_without_lt provider.2

/-- `GatewayRouter.runFailover`. -/
def runFailover (candidates : List BaseProvider) :
    Except Thrown (FailoverResult α) × List (Effect α) :=
  failoverLoop environment candidates 0 []

end Loop

end Router
end AiGateway
