import AiGateway.LoadBalancer.LatencyBased
import AiGateway.LoadBalancer.LeastConnections
import AiGateway.LoadBalancer.RoundRobin
import AiGateway.LoadBalancer.WeightedRoundRobin
import Mathlib

/-!
# The load balancer

The facade hands a selection to the configured strategy. Whatever the strategy has
kept so far, whatever other replicas have left in Redis and whether Redis answers at
all, a selection from candidates gives one of them.
-/

namespace AiGateway
namespace LoadBalancer

section Model

/-- `LOAD_BALANCER_STRATEGIES`. -/
inductive StrategyName
  | roundRobin
  | weightedRoundRobin
  | leastConnections
  | latencyBased
  | random
  deriving DecidableEq, Repr

/-- What the strategies keep: the counters in the process, the rest in Redis. -/
structure Balancer where
  clock : Nat
  counters : RoundRobin.Counters
  hashes : Hashes
  gauges : LeastConnections.Gauges
  averages : LatencyBased.Averages

/-- What a call of `select` meets: the draw of its random number, and what becomes
of its call to Redis. -/
structure Chance where
  draw : Nat
  call : ScriptCall
  deriving DecidableEq

/-- `RandomStrategy.select(candidates)`. -/
def randomSelect (draw : Nat) (candidates : List Candidate) :
    Except EmptyCandidatesError (Option Candidate) :=
  match candidates with
  | [] => .error {}
  | list => .ok (cryptoPick draw list)

namespace Balancer

variable (functions : KeyFunctions) (name : StrategyName) (chance : Chance)

/-- `strategy.select(candidates)` for the strategy that `buildStrategy` makes. -/
def strategySelect (candidates : List Candidate) (balancer : Balancer) :
    Except EmptyCandidatesError (Option Candidate) × Balancer :=
  match name with
  | .roundRobin =>
      let (answer, counters) := RoundRobin.select functions candidates balancer.counters
      (answer, { balancer with counters := counters })
  | .weightedRoundRobin =>
      let (answer, hashes) := LoadBalancer.select functions balancer.clock chance.draw
        chance.call candidates balancer.hashes
      (answer, { balancer with hashes := hashes })
  | .leastConnections =>
      let (answer, gauges) := LeastConnections.select balancer.clock chance.draw
        chance.call candidates balancer.gauges
      (answer, { balancer with gauges := gauges })
  | .latencyBased =>
      (LatencyBased.select balancer.clock chance.draw (chance.call == .answered)
        candidates balancer.averages, balancer)
  | .random => (randomSelect chance.draw candidates, balancer)

/-- `LoadBalancer.select(candidates)`. An `EmptyCandidatesError` of the strategy is
thrown on; the fallback to a random pick is for other errors, which no strategy
throws. -/
def select (candidates : List Candidate) (balancer : Balancer) :
    Except EmptyCandidatesError (Option Candidate) × Balancer :=
  match candidates with
  | [] => (.error {}, balancer)
  | list => balancer.strategySelect functions name chance list

end Balancer

end Model

section Selection

variable {candidates : List Candidate}

/-- A random number picks one of the candidates. -/
theorem exists_cryptoPick (draw : Nat) (nonempty : candidates ≠ []) :
    ∃ chosen ∈ candidates, cryptoPick draw candidates = some chosen := by
  have isIndex : secureRandomInt draw candidates.length < candidates.length :=
    Nat.mod_lt draw (List.length_pos_of_ne_nil nonempty)
  exact ⟨candidates[secureRandomInt draw candidates.length],
    List.getElem_mem isIndex, List.getElem?_eq_getElem isIndex⟩

/-- So does a weighted random number, whatever the weights. -/
theorem exists_mem_weightedRandom (draw : Nat) (nonempty : candidates ≠ []) :
    ∃ chosen ∈ candidates, weightedRandom draw candidates = some chosen := by
  by_cases positive : 0 < (candidates.map Candidate.share).sum
  · obtain ⟨chosen, isCandidate, drawn, -⟩ := exists_weightedRandom draw positive
    exact ⟨chosen, isCandidate, drawn⟩
  · obtain ⟨chosen, isCandidate, picked⟩ := exists_cryptoPick draw nonempty
    refine ⟨chosen, isCandidate, ?_⟩
    rw [weightedRandom, if_pos (Int.not_lt.1 positive)]
    exact picked

/-- What a script names is a candidate, or another way is taken. -/
theorem exists_find_or
    (answer : Option String)
    {fallback : Option Candidate}
    (falls : ∃ chosen ∈ candidates, fallback = some chosen) :
    ∃ chosen ∈ candidates,
      (answer.bind fun chosenId =>
        candidates.find? fun candidate => candidate.id = chosenId).or fallback =
          some chosen := by
  cases found : answer.bind fun chosenId =>
      candidates.find? fun candidate => candidate.id = chosenId with
  | none => exact falls
  | some chosen =>
      obtain ⟨chosenId, -, isFound⟩ := Option.bind_eq_some_iff.1 found
      exact ⟨chosen, List.mem_of_find?_eq_some isFound, rfl⟩

/-- An answer that is one of the candidates, if the pick it is made of is. -/
theorem exists_ok
    {pick : Option Candidate}
    (picks : ∃ chosen ∈ candidates, pick = some chosen) :
    ∃ chosen ∈ candidates,
      (Except.ok pick : Except EmptyCandidatesError (Option Candidate)) =
        .ok (some chosen) := by
  obtain ⟨chosen, isCandidate, isChosen⟩ := picks
  exact ⟨chosen, isCandidate, congrArg Except.ok isChosen⟩

theorem exists_roundRobin
    (functions : KeyFunctions)
    (counters : RoundRobin.Counters)
    (nonempty : candidates ≠ []) :
    ∃ chosen ∈ candidates,
      (RoundRobin.select functions candidates counters).1 = .ok (some chosen) := by
  have isIndex :
      RoundRobin.index functions candidates counters < candidates.length :=
    RoundRobin.index_lt nonempty
  obtain ⟨first, rest, rfl⟩ := List.exists_cons_of_ne_nil nonempty
  exact exists_ok ⟨_, List.getElem_mem isIndex, List.getElem?_eq_getElem isIndex⟩

theorem exists_weightedRoundRobin
    (functions : KeyFunctions)
    (clock draw : Nat)
    (call : ScriptCall)
    (hashes : Hashes)
    (nonempty : candidates ≠ []) :
    ∃ chosen ∈ candidates,
      (LoadBalancer.select functions clock draw call candidates hashes).1 =
        .ok (some chosen) := by
  have drawn := exists_mem_weightedRandom draw nonempty
  obtain ⟨first, rest, rfl⟩ := List.exists_cons_of_ne_nil nonempty
  cases call with
  | answered =>
      exact exists_ok (exists_find_or
        (runScript functions clock (first :: rest) hashes).1 drawn)
  | answerLost => exact exists_ok drawn
  | notRun => exact exists_ok drawn

theorem exists_leastConnections
    (clock draw : Nat)
    (call : ScriptCall)
    (gauges : LeastConnections.Gauges)
    (nonempty : candidates ≠ []) :
    ∃ chosen ∈ candidates,
      (LeastConnections.select clock draw call candidates gauges).1 =
        .ok (some chosen) := by
  have picked := exists_cryptoPick draw nonempty
  obtain ⟨first, rest, rfl⟩ := List.exists_cons_of_ne_nil nonempty
  cases call with
  | answered => exact exists_ok (exists_find_or _ picked)
  | answerLost => exact exists_ok picked
  | notRun => exact exists_ok picked

theorem exists_latencyBased
    (clock draw : Nat)
    (answers : Bool)
    (averages : LatencyBased.Averages)
    (nonempty : candidates ≠ []) :
    ∃ chosen ∈ candidates,
      LatencyBased.select clock draw answers candidates averages =
        .ok (some chosen) := by
  cases answers with
  | true =>
      rw [LatencyBased.select_answered clock averages draw nonempty]
      cases best : candidates.argmax (LatencyBased.score clock averages) with
      | none => exact absurd (List.argmax_eq_none.1 best) nonempty
      | some chosen => exact ⟨chosen, List.argmax_mem best, rfl⟩
  | false =>
      have picked := exists_cryptoPick draw nonempty
      obtain ⟨first, rest, rfl⟩ := List.exists_cons_of_ne_nil nonempty
      exact exists_ok picked

/-- Every strategy selects one of the candidates, whatever it has kept and whatever
becomes of its call to Redis. -/
theorem exists_selected
    (functions : KeyFunctions)
    (name : StrategyName)
    (chance : Chance)
    (balancer : Balancer)
    (nonempty : candidates ≠ []) :
    ∃ chosen ∈ candidates,
      (balancer.select functions name chance candidates).1 = .ok (some chosen) := by
  have isStrategy : balancer.select functions name chance candidates =
      balancer.strategySelect functions name chance candidates := by
    obtain ⟨first, rest, rfl⟩ := List.exists_cons_of_ne_nil nonempty
    rfl
  rw [isStrategy]
  cases name with
  | roundRobin => exact exists_roundRobin functions balancer.counters nonempty
  | weightedRoundRobin =>
      exact exists_weightedRoundRobin functions balancer.clock chance.draw chance.call
        balancer.hashes nonempty
  | leastConnections =>
      exact exists_leastConnections balancer.clock chance.draw chance.call
        balancer.gauges nonempty
  | latencyBased =>
      exact exists_latencyBased balancer.clock chance.draw _ balancer.averages nonempty
  | random =>
      have picked := exists_cryptoPick chance.draw nonempty
      obtain ⟨first, rest, rfl⟩ := List.exists_cons_of_ne_nil nonempty
      exact exists_ok picked

/-- A selection gives one of the candidates, and fails only if there are none. This
is so for every strategy, whatever it has kept, whatever number is drawn and whatever
becomes of the call to Redis. -/
theorem selects_candidate
    (functions : KeyFunctions)
    (name : StrategyName)
    (chance : Chance)
    (balancer : Balancer)
    (candidates : List Candidate) :
    (candidates = [] ∧
        (balancer.select functions name chance candidates).1 = .error {}) ∨
      ∃ chosen ∈ candidates,
        (balancer.select functions name chance candidates).1 = .ok (some chosen) := by
  by_cases isEmpty : candidates = []
  · subst isEmpty
    exact .inl ⟨rfl, rfl⟩
  · exact .inr (exists_selected functions name chance balancer isEmpty)

end Selection

end LoadBalancer
end AiGateway
