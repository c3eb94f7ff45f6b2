import AiGateway.CircuitBreaker.Scripts
import Mathlib.Data.List.Count
import Mathlib.Data.List.Nodup

/-!
# Requests through one breaker

Any number of requests go through the breaker of one provider. Each acquires
and, if it was admitted, later makes one report: a success, a failure, or a
release. A report does not say when its request was admitted, and the scripts
do not know. The system of this module remembers it beside the keys: a request
in flight carries the half-open episode that admitted it as a probe, if one did.
-/

namespace AiGateway
namespace CircuitBreaker

open Foundations

/-- An admitted request that has not reported. -/
structure Flight where
  /-- The request. -/
  id : Nat
  /-- The half-open episode that admitted it as a probe; none for a request
  admitted while the breaker was closed. -/
  probeOf : Option Nat
  /-- The store's clock at its admission. -/
  admittedAt : Nat
  deriving DecidableEq, Repr

/-- The breaker, the requests in flight, and what the current or last half-open
episode has seen. -/
structure Requests where
  keys : BreakerKeys := {}
  /-- The store's clock at the last event. -/
  clock : Nat := 0
  /-- The number of half-open episodes so far. -/
  episode : Nat := 0
  inFlight : List Flight := []
  /-- Successes its own probes reported to the episode. -/
  probeSuccesses : Nat := 0
  /-- Successes other requests reported to it. -/
  otherSuccesses : Nat := 0
  deriving DecidableEq, Repr

/-- One script of one request. -/
inductive Event
  | acquire (id clock nowMs : Nat)
  | recordSuccess (id clock : Nat)
  | recordFailure (id clock nowMs : Nat)
  | release (id clock : Nat)
  deriving DecidableEq, Repr

namespace Event

/-- The store's clock when the script runs. -/
def clock : Event → Nat
  | .acquire _ clock _ => clock
  | .recordSuccess _ clock => clock
  | .recordFailure _ clock _ => clock
  | .release _ clock => clock

end Event

namespace Requests

/-- Is a request in flight a probe of the current episode? -/
def IsProbe (system : Requests) (flight : Flight) : Prop :=
  flight.probeOf = some system.episode

instance (system : Requests) (flight : Flight) :
    Decidable (system.IsProbe flight) :=
  inferInstanceAs (Decidable (_ = _))

/-- Is a report made by a probe of the current episode? -/
def ProbeReports (system : Requests) (id : Nat) : Prop :=
  ∃ flight ∈ system.inFlight, flight.id = id ∧ system.IsProbe flight

instance (system : Requests) (id : Nat) : Decidable (system.ProbeReports id) :=
  inferInstanceAs (Decidable (∃ flight ∈ _, _ ∧ _))

/-- The requests admitted as probes of the current episode that have not
reported. -/
def outstanding (system : Requests) : Nat :=
  system.inFlight.countP fun flight => decide (system.IsProbe flight)

/-- The requests in flight without one of them. -/
def without (system : Requests) (id : Nat) : List Flight :=
  system.inFlight.filter fun flight => flight.id ≠ id

/-- What one script does, and what is remembered of it. -/
def step (options : CircuitBreakerOptions) (system : Requests) :
    Event → Requests
  | .acquire id clock nowMs =>
      let outcome := acquireScript options clock nowMs system.keys
      let starts := system.keys.phase = .opened ∧ outcome.2.phase = .halfOpen
      let episode := if starts then system.episode + 1 else system.episode
      { keys := outcome.2
        clock := clock
        episode := episode
        inFlight :=
          if outcome.1.allowed then
            { id := id
              probeOf :=
                if outcome.1.state = .halfOpen then some episode else none
              admittedAt := clock } :: system.inFlight
          else
            system.inFlight
        probeSuccesses := if starts then 0 else system.probeSuccesses
        otherSuccesses := if starts then 0 else system.otherSuccesses }
  | .recordSuccess id clock =>
      let counts := system.keys.phase = .halfOpen
      { system with
        keys := (successScript options clock system.keys).2
        clock := clock
        inFlight := system.without id
        probeSuccesses :=
          if counts ∧ system.ProbeReports id then system.probeSuccesses + 1
          else system.probeSuccesses
        otherSuccesses :=
          if counts ∧ ¬system.ProbeReports id then system.otherSuccesses + 1
          else system.otherSuccesses }
  | .recordFailure id clock nowMs =>
      { system with
        keys := (failureScript options clock nowMs system.keys).2
        clock := clock
        inFlight := system.without id }
  | .release id clock =>
      { system with
        keys := (releaseScript clock system.keys).2
        clock := clock
        inFlight := system.without id }

/-- The events that can come next: the store's clock does not go back, a request
acquires once, and only an admitted request reports, once. -/
def Admissible (system : Requests) (event : Event) : Prop :=
  system.clock ≤ event.clock ∧
    match event with
    | .acquire id _ _ => ∀ flight ∈ system.inFlight, flight.id ≠ id
    | .recordSuccess id _ => ∃ flight ∈ system.inFlight, flight.id = id
    | .recordFailure id _ _ => ∃ flight ∈ system.inFlight, flight.id = id
    | .release id _ => ∃ flight ∈ system.inFlight, flight.id = id

instance (system : Requests) (event : Event) :
    Decidable (system.Admissible event) := by
  cases event <;> unfold Admissible <;> infer_instance

/-- Six requests are admitted while the breaker is closed, the last five fail and
open it, and half a minute later a seventh is admitted as a probe. The first is
still in flight. -/
def episodeWithStraggler : List Event :=
  [.acquire 1 0 0, .acquire 2 1 1, .acquire 3 2 2, .acquire 4 3 3,
    .acquire 5 4 4, .acquire 6 5 5, .recordFailure 2 10 10,
    .recordFailure 3 10 10, .recordFailure 4 10 10, .recordFailure 5 10 10,
    .recordFailure 6 10 10, .acquire 7 30010 30010]

/-- What an acquire does to the system: it admits a request while closed, admits
the first probe of a new episode, admits one more probe, or refuses. -/
theorem step_acquire_cases
    (options : CircuitBreakerOptions)
    (system : Requests)
    (id clock nowMs : Nat) :
    (system.keys.phase = .closed ∧
      system.step options (.acquire id clock nowMs) =
        { system with
          clock := clock
          inFlight := { id := id, probeOf := none, admittedAt := clock } ::
            system.inFlight }) ∨
    (system.keys.phase = .opened ∧
      system.step options (.acquire id clock nowMs) =
        { keys :=
            { system.keys with
              state := some .halfOpen
              halfProbes := Key.setPx clock options.timeoutMs 1
              halfSuccesses := some 0 }
          clock := clock
          episode := system.episode + 1
          inFlight :=
            { id := id
              probeOf := some (system.episode + 1)
              admittedAt := clock } :: system.inFlight
          probeSuccesses := 0
          otherSuccesses := 0 }) ∨
    (system.keys.phase = .halfOpen ∧
      system.keys.probes clock < options.halfOpenMaxProbes ∧
      system.step options (.acquire id clock nowMs) =
        { system with
          keys :=
            { system.keys with
              halfProbes := some
                { value := system.keys.probes clock + 1
                  deadline := some (clock + options.timeoutMs) } }
          clock := clock
          inFlight :=
            { id := id
              probeOf := some system.episode
              admittedAt := clock } :: system.inFlight }) ∨
    (system.keys.phase ≠ .closed ∧
      system.step options (.acquire id clock nowMs) =
        { system with clock := clock }) := by
  rcases acquireScript_cases options clock nowMs system.keys with
    ⟨phase, result⟩ | ⟨phase, _, result⟩ | ⟨phase, _, result⟩ |
      ⟨phase, free, result⟩ | ⟨phase, _, result⟩
  · exact Or.inl ⟨phase, by simp [step, result, phase]⟩
  · exact Or.inr (Or.inr (Or.inr ⟨phase ▸ by decide,
      by simp [step, result, phase]⟩))
  · exact Or.inr (Or.inl ⟨phase, by simp [step, result, phase]⟩)
  · exact Or.inr (Or.inr (Or.inl ⟨phase, free,
      by simp [step, result, phase, Key.pexpire_incrBy, BreakerKeys.probes]⟩))
  · exact Or.inr (Or.inr (Or.inr ⟨phase ▸ by decide,
      by simp [step, result, phase]⟩))

/-- A request that is not in flight any more does not report. -/
theorem mem_without
    {system : Requests}
    {id : Nat}
    {flight : Flight} :
    flight ∈ system.without id ↔ flight ∈ system.inFlight ∧ flight.id ≠ id := by
  simp [without]

/-- Taking out one element of a list without repeated keys. -/
theorem countP_eq_of_mem
    (test : Flight → Bool)
    {flights : List Flight}
    (distinct : (flights.map Flight.id).Nodup)
    {flight : Flight}
    (isMember : flight ∈ flights) :
    flights.countP test =
      (flights.filter fun other => other.id ≠ flight.id).countP test +
        if test flight then 1 else 0 := by
  induction flights with
  | nil => cases isMember
  | cons head flights inductionHypothesis =>
      obtain ⟨headFresh, tailDistinct⟩ := List.nodup_cons.1 distinct
      rcases List.mem_cons.1 isMember with rfl | inTail
      · have tailKept : flights.filter (fun other => other.id ≠ flight.id) =
            flights := by
          refine List.filter_eq_self.2 fun other isOther => ?_
          have differs : other.id ≠ flight.id := fun same =>
            headFresh (same ▸ List.mem_map_of_mem isOther)
          simpa using differs
        rw [List.countP_cons, List.filter_cons_of_neg (by simp), tailKept]
      · have differs : head.id ≠ flight.id := fun same =>
          headFresh (same ▸ List.mem_map_of_mem inTail)
        rw [List.countP_cons, List.filter_cons_of_pos (by simpa using differs),
          List.countP_cons, inductionHypothesis tailDistinct inTail]
        omega

end Requests

end CircuitBreaker
end AiGateway
