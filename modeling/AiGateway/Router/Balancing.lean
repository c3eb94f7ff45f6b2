import AiGateway.LoadBalancer.Facade
import AiGateway.Router.FailoverOutcome
import Mathlib

/-!
# The failover loop over the load balancer

The failover loop is about any load balancer that returns a member of the list it is
given. The load balancer of the gateway is one, for each of its strategies, so the
loop may be run over it.

Other requests select between the selections of a run, so what a strategy has kept at
a selection, and what its call to Redis meets, is arbitrary.
-/

namespace AiGateway
namespace Router

open LoadBalancer (Balancer Candidate Chance EmptyCandidatesError KeyFunctions
  StrategyName)

section Model

/-- A load balancer in a run: its strategy, and what the strategy has kept and what
its call meets at a selection, given the trace so far. -/
structure Balancing (α : Type) where
  functions : KeyFunctions
  strategy : StrategyName
  weight : BaseProvider → Int
  kept : List (Effect α) → Balancer
  chance : List (Effect α) → Chance

namespace Balancing

variable (balancing : Balancing α)

/-- What a strategy reads of a provider. -/
def candidateOf (provider : BaseProvider) : Candidate :=
  { id := provider.id, weight := balancing.weight provider }

/-- `this.deps.loadBalancer.select(remaining)`. -/
def answer (trace : List (Effect α)) (remaining : List BaseProvider) :
    Except EmptyCandidatesError (Option Candidate) :=
  ((balancing.kept trace).select balancing.functions balancing.strategy
    (balancing.chance trace) (remaining.map balancing.candidateOf)).1

/-- The load balancer answers with a provider that it was given. -/
theorem exists_answer
    (trace : List (Effect α))
    {remaining : List BaseProvider}
    (nonempty : remaining ≠ []) :
    ∃ provider ∈ remaining,
      balancing.answer trace remaining =
        .ok (some (balancing.candidateOf provider)) := by
  have areCandidates : remaining.map balancing.candidateOf ≠ [] :=
    fun isEmpty => nonempty (List.map_eq_nil_iff.1 isEmpty)
  obtain ⟨chosen, isCandidate, isChosen⟩ :=
    LoadBalancer.exists_selected balancing.functions balancing.strategy
      (balancing.chance trace) (balancing.kept trace) areCandidates
  obtain ⟨provider, isRemaining, rfl⟩ := List.mem_map.1 isCandidate
  exact ⟨provider, isRemaining, isChosen⟩

/-- Is a provider the one that the load balancer answers with? -/
def isAnswer
    (trace : List (Effect α))
    (remaining : List BaseProvider)
    (provider : BaseProvider) : Bool :=
  decide (balancing.answer trace remaining =
    .ok (some (balancing.candidateOf provider)))

theorem isSome_find
    (trace : List (Effect α))
    {remaining : List BaseProvider}
    (nonempty : remaining ≠ []) :
    (remaining.find? (balancing.isAnswer trace remaining)).isSome := by
  obtain ⟨provider, isRemaining, isChosen⟩ := balancing.exists_answer trace nonempty
  exact List.find?_isSome.2 ⟨provider, isRemaining, decide_eq_true isChosen⟩

/-- The provider that the load balancer answers with. -/
def select
    (trace : List (Effect α))
    (remaining : List BaseProvider)
    (nonempty : remaining ≠ []) : { provider // provider ∈ remaining } :=
  ⟨(remaining.find? (balancing.isAnswer trace remaining)).get
      (balancing.isSome_find trace nonempty),
    List.get_find?_mem _⟩

theorem answer_eq_select
    (trace : List (Effect α))
    {remaining : List BaseProvider}
    (nonempty : remaining ≠ []) :
    balancing.answer trace remaining =
      .ok (some (balancing.candidateOf
        (balancing.select trace remaining nonempty))) := by
  have isAnswer := List.find?_some (Option.some_get
    (balancing.isSome_find trace nonempty)).symm
  exact of_decide_eq_true isAnswer

/-- The surroundings of a run whose load balancer is that of the gateway. -/
def environment (surroundings : Environment α) : Environment α :=
  { surroundings with select := balancing.select }

end Balancing

end Model

section Run

variable (balancing : Balancing α) (surroundings : Environment α)

/-- Every run of the failover loop over the load balancer of the gateway goes by the
answers of its surroundings and concludes as its calls require, and each of its
selections is the answer of the load balancer for the candidates that were not
selected before. This is so for every strategy, whatever other requests do between the
selections and whether Redis answers or not. -/
theorem runFailover_balanced (candidates : List BaseProvider) :
    AnsweredBy (balancing.environment surroundings) candidates
        (runFailover (balancing.environment surroundings) candidates).2 ∧
      Concludes candidates 0
        (runFailover (balancing.environment surroundings) candidates).2
        (runFailover (balancing.environment surroundings) candidates).1 ∧
      ∀ before id after,
        (runFailover (balancing.environment surroundings) candidates).2 =
            before ++ .selected id :: after →
          ∃ provider ∈ unselected candidates before, provider.id = id ∧
            balancing.answer before (unselected candidates before) =
              .ok (some (balancing.candidateOf provider)) := by
  have answered :=
    answeredBy_runFailover (balancing.environment surroundings) candidates
  refine ⟨answered, concludes_runFailover _ candidates,
    fun before id after selectedEq => ?_⟩
  obtain ⟨nonempty, isSelected⟩ := answered.selected selectedEq
  exact ⟨_, (balancing.select before _ nonempty).2, isSelected,
    balancing.answer_eq_select before nonempty⟩

end Run

end Router
end AiGateway
