import Mathlib.Data.List.Basic

/-!
# Runs of a machine

A machine is a total step function on a type of states. A run folds it over a
list of events. A condition on runs is stated on each step, as a relation
between the state before the step and the event; an invariant then follows
from one step lemma by the rules of this module.
-/

namespace AiGateway
namespace Foundations

/-- The state reached from `start` after a list of events. -/
def runFrom (step : σ → ε → σ) (start : σ) (events : List ε) : σ :=
  events.foldl step start

@[simp] theorem runFrom_nil (step : σ → ε → σ) (start : σ) :
    runFrom step start [] = start := rfl

@[simp] theorem runFrom_cons
    (step : σ → ε → σ)
    (start : σ)
    (event : ε)
    (events : List ε) :
    runFrom step start (event :: events) =
      runFrom step (step start event) events := rfl

/-- A run over a concatenation is the run of its parts in sequence. -/
theorem runFrom_append
    (step : σ → ε → σ)
    (start : σ)
    (first second : List ε) :
    runFrom step start (first ++ second) =
      runFrom step (runFrom step start first) second :=
  List.foldl_append

/-- The last event of a run is one step from the state before it. -/
theorem runFrom_concat
    (step : σ → ε → σ)
    (start : σ)
    (events : List ε)
    (event : ε) :
    runFrom step start (events ++ [event]) =
      step (runFrom step start events) event := by
  rw [runFrom_append, runFrom_cons, runFrom_nil]

/-- Every step of the run of the events from `start` meets a condition on the
state before the step and the event. -/
def EveryStep
    (step : σ → ε → σ)
    (condition : σ → ε → Prop) : σ → List ε → Prop
  | _, [] => True
  | state, event :: events =>
      condition state event ∧
        EveryStep step condition (step state event) events

@[simp] theorem everyStep_nil
    (step : σ → ε → σ)
    (condition : σ → ε → Prop)
    (start : σ) :
    EveryStep step condition start [] := trivial

@[simp] theorem everyStep_cons
    (step : σ → ε → σ)
    (condition : σ → ε → Prop)
    (start : σ)
    (event : ε)
    (events : List ε) :
    EveryStep step condition start (event :: events) ↔
      condition start event ∧
        EveryStep step condition (step start event) events := Iff.rfl

/-- A condition that can be decided on each step can be decided on a run. -/
instance EveryStep.decidable
    (step : σ → ε → σ)
    (condition : σ → ε → Prop)
    [∀ state event, Decidable (condition state event)] :
    (start : σ) → (events : List ε) →
      Decidable (EveryStep step condition start events)
  | _, [] => inferInstanceAs (Decidable True)
  | start, event :: events =>
      have := EveryStep.decidable step condition (step start event) events
      inferInstanceAs (Decidable (_ ∧ _))

/-- A condition on every step splits over a concatenation. -/
theorem everyStep_append
    (step : σ → ε → σ)
    (condition : σ → ε → Prop)
    (start : σ)
    (first second : List ε) :
    EveryStep step condition start (first ++ second) ↔
      EveryStep step condition start first ∧
        EveryStep step condition (runFrom step start first) second := by
  induction first generalizing start with
  | nil => simp
  | cons event events inductionHypothesis =>
      rw [List.cons_append, everyStep_cons, everyStep_cons,
        inductionHypothesis, runFrom_cons, and_assoc]

/-- A condition holds at every step exactly when it holds at every way of
splitting the run at an event. -/
theorem everyStep_iff_split
    (step : σ → ε → σ)
    (condition : σ → ε → Prop)
    (start : σ)
    (events : List ε) :
    EveryStep step condition start events ↔
      ∀ before event after, events = before ++ event :: after →
        condition (runFrom step start before) event := by
  constructor
  · rintro every before event after rfl
    rw [everyStep_append, everyStep_cons] at every
    exact every.2.1
  · intro split
    induction events generalizing start with
    | nil => trivial
    | cons event events inductionHypothesis =>
        refine ⟨split [] event events rfl, inductionHypothesis _ ?_⟩
        intro before next after equal
        exact split (event :: before) next after (by rw [equal]; rfl)

/-- What a machine answers to a list of events. -/
def answersFrom
    (step : σ → ε → σ)
    (answer : σ → ε → α) : σ → List ε → List α
  | _, [] => []
  | state, event :: events =>
      answer state event :: answersFrom step answer (step state event) events

@[simp] theorem length_answersFrom
    (step : σ → ε → σ)
    (answer : σ → ε → α)
    (start : σ)
    (events : List ε) :
    (answersFrom step answer start events).length = events.length := by
  induction events generalizing start with
  | nil => rfl
  | cons event events inductionHypothesis =>
      rw [answersFrom, List.length_cons, inductionHypothesis, List.length_cons]

/-- The answers to a concatenation are those to its parts in sequence. -/
theorem answersFrom_append
    (step : σ → ε → σ)
    (answer : σ → ε → α)
    (start : σ)
    (first second : List ε) :
    answersFrom step answer start (first ++ second) =
      answersFrom step answer start first ++
        answersFrom step answer (runFrom step start first) second := by
  induction first generalizing start with
  | nil => rfl
  | cons event events inductionHypothesis =>
      rw [List.cons_append, answersFrom, inductionHypothesis, runFrom_cons]
      rfl

/-- The answers to an event that is repeated. -/
theorem answersFrom_replicate
    (step : σ → ε → σ)
    (answer : σ → ε → α)
    (start : σ)
    (count : Nat)
    (event : ε) :
    answersFrom step answer start (.replicate count event) =
      (List.range count).map fun turn =>
        answer (runFrom step start (.replicate turn event)) event := by
  induction count with
  | zero => rfl
  | succ count inductionHypothesis =>
      rw [List.replicate_succ', answersFrom_append, inductionHypothesis,
        List.range_succ, List.map_append]
      rfl

/-- States that a simulation relates give the same answers. -/
theorem answersFrom_eq_of_simulation
    {step : σ → ε → σ}
    {other : τ → ε → τ}
    {answer : σ → ε → α}
    {otherAnswer : τ → ε → α}
    (related : σ → τ → Prop)
    (simulates : ∀ state otherState event, related state otherState →
      answer state event = otherAnswer otherState event ∧
        related (step state event) (other otherState event))
    {start : σ}
    {otherStart : τ}
    (initially : related start otherStart)
    (events : List ε) :
    answersFrom step answer start events =
      answersFrom other otherAnswer otherStart events := by
  induction events generalizing start otherStart with
  | nil => rfl
  | cons event events inductionHypothesis =>
      obtain ⟨sameAnswer, stillRelated⟩ :=
        simulates start otherStart event initially
      rw [answersFrom, answersFrom, sameAnswer,
        inductionHypothesis stillRelated]

/-- An invariant that the events of a run keep holds after the run. -/
theorem runFrom_induction
    {step : σ → ε → σ}
    (invariant : σ → Prop)
    {events : List ε}
    (preserved : ∀ state, ∀ event ∈ events,
      invariant state → invariant (step state event))
    {start : σ}
    (initially : invariant start) :
    invariant (runFrom step start events) := by
  induction events generalizing start with
  | nil => exact initially
  | cons event events inductionHypothesis =>
      exact inductionHypothesis
        (fun state next isNext =>
          preserved state next (List.mem_cons_of_mem event isNext))
        (preserved start event List.mem_cons_self initially)

/-- A property of lists of events holds of one of them and of no shorter prefix
of it. -/
def First (property : List ε → Prop) (events : List ε) : Prop :=
  property events ∧
    ∀ before, before <+: events → before ≠ events → ¬ property before

namespace EveryStep

variable {σ : Type u} {ε : Type v}
  {step : σ → ε → σ} {condition goal : σ → ε → Prop}

/-- The run rule for invariants: an invariant that holds at the start and is
kept by every step meeting the condition holds at the end of the run. -/
theorem invariant
    (invariant : σ → Prop)
    (preserved : ∀ state event,
      invariant state → condition state event → invariant (step state event))
    {start : σ}
    {events : List ε}
    (initially : invariant start)
    (every : EveryStep step condition start events) :
    invariant (runFrom step start events) := by
  induction events generalizing start with
  | nil => exact initially
  | cons event events inductionHypothesis =>
      obtain ⟨here, later⟩ := every
      exact inductionHypothesis (preserved start event initially here) later

/-- An invariant may be used to establish a second condition on every step. -/
theorem of_invariant
    (invariant : σ → Prop)
    (preserved : ∀ state event,
      invariant state → condition state event → invariant (step state event))
    (sufficient : ∀ state event,
      invariant state → condition state event → goal state event)
    {start : σ}
    {events : List ε}
    (initially : invariant start)
    (every : EveryStep step condition start events) :
    EveryStep step goal start events := by
  induction events generalizing start with
  | nil => trivial
  | cons event events inductionHypothesis =>
      obtain ⟨here, later⟩ := every
      exact ⟨sufficient start event initially here,
        inductionHypothesis (preserved start event initially here) later⟩

/-- Two conditions that agree wherever an invariant holds hold of the same
runs. -/
theorem iff_of_invariant
    (invariant : σ → Prop)
    (preserved : ∀ state event, invariant state → invariant (step state event))
    (agree : ∀ state event,
      invariant state → (condition state event ↔ goal state event))
    {start : σ}
    (initially : invariant start)
    (events : List ε) :
    EveryStep step condition start events ↔
      EveryStep step goal start events :=
  ⟨of_invariant invariant (fun state event holds _ => preserved state event holds)
      (fun state event holds => (agree state event holds).1) initially,
    of_invariant invariant (fun state event holds _ => preserved state event holds)
      (fun state event holds => (agree state event holds).2) initially⟩

/-- What the condition says of an event alone holds of all events of a run. -/
theorem of_mem
    {property : ε → Prop}
    (tells : ∀ state event, condition state event → property event)
    {start : σ}
    {events : List ε}
    (every : EveryStep step condition start events) :
    ∀ event ∈ events, property event := by
  intro event isEvent
  obtain ⟨before, after, rfl⟩ := List.append_of_mem isEvent
  exact tells _ event
    ((everyStep_iff_split step condition start _).1 every before event after rfl)

/-- The steps of a prefix of a run meet the condition of the run. -/
theorem of_prefix
    {start : σ}
    {before events : List ε}
    (isBefore : before <+: events)
    (every : EveryStep step condition start events) :
    EveryStep step condition start before := by
  obtain ⟨after, rfl⟩ := isBefore
  exact ((everyStep_append step condition start before after).1 every).1

end EveryStep

end Foundations
end AiGateway
