import AiGateway.CircuitBreaker.Requests

/-!
# The evidence on which an episode ends

A half-open episode should end on what its own probes report. The scripts count
every report that arrives, so an episode may be closed by the successes, or
opened again by the failure, of requests admitted before it.
-/

namespace AiGateway
namespace CircuitBreaker

open Foundations

namespace Requests

/-- If a step ends a half-open episode, it does so on the evidence of the
probes of the episode: it closes the breaker after enough of them succeeded, or
it opens the breaker because one of them failed. -/
def Evidenced
    (options : CircuitBreakerOptions)
    (system : Requests)
    (event : Event) : Prop :=
  system.keys.phase = .halfOpen →
    ((system.step options event).keys.phase = .closed →
      options.successThreshold ≤ (system.step options event).probeSuccesses) ∧
    ((system.step options event).keys.phase = .opened →
      match event with
      | .recordFailure id _ _ => system.ProbeReports id
      | _ => False)

instance (options : CircuitBreakerOptions) (system : Requests) (event : Event) :
    Decidable (system.Evidenced options event) :=
  match event with
  | .acquire _ _ _ => inferInstanceAs (Decidable (_ → (_ → _) ∧ (_ → False)))
  | .recordSuccess _ _ =>
      inferInstanceAs (Decidable (_ → (_ → _) ∧ (_ → False)))
  | .recordFailure id _ _ =>
      inferInstanceAs (Decidable (_ → (_ → _) ∧ (_ → system.ProbeReports id)))
  | .release _ _ => inferInstanceAs (Decidable (_ → (_ → _) ∧ (_ → False)))

/-- While the breaker is half-open, failures are reported by probes of the
episode, and the success that reaches the threshold is reported by one and finds
no other successes counted. -/
def OwnReports
    (options : CircuitBreakerOptions)
    (system : Requests)
    (event : Event) : Prop :=
  system.keys.phase = .halfOpen →
    match event with
    | .recordFailure id _ _ => system.ProbeReports id
    | .recordSuccess id _ =>
        (options.successThreshold : Int) ≤ system.keys.halfSuccesses.getD 0 + 1 →
          system.otherSuccesses = 0 ∧ system.ProbeReports id
    | _ => True

/-- While the breaker is half-open its success counter is the number of all
successes reported to the episode, and below the threshold. -/
def SuccessesCounted
    (options : CircuitBreakerOptions)
    (system : Requests) : Prop :=
  system.keys.phase = .halfOpen →
    system.keys.halfSuccesses =
        some ((system.probeSuccesses + system.otherSuccesses : Nat) : Int) ∧
      system.probeSuccesses + system.otherSuccesses < options.successThreshold

variable {options : CircuitBreakerOptions} {system : Requests}

/-- Every event keeps the count. -/
theorem SuccessesCounted.step
    (counted : system.SuccessesCounted options)
    (event : Event) :
    (system.step options event).SuccessesCounted options := by
  intro halfOpen
  cases event with
  | acquire id clock nowMs =>
      rcases step_acquire_cases options system id clock nowMs with
        ⟨phase, stepped⟩ | ⟨_, stepped⟩ | ⟨phase, _, stepped⟩ | ⟨_, stepped⟩ <;>
        rw [stepped] at halfOpen ⊢
      · exact absurd (phase.symm.trans halfOpen) (by decide)
      · exact ⟨rfl, options.successThreshold_pos⟩
      · exact counted phase
      · exact counted halfOpen
  | recordSuccess id clock =>
      change (successScript options clock system.keys).2.phase = _ at halfOpen
      rcases successScript_cases options clock system.keys with
        ⟨phase, result⟩ | ⟨phase, result⟩ | ⟨_, _, result⟩ |
          ⟨phase, fewer, result⟩
      · rw [result] at halfOpen
        exact absurd (phase.symm.trans halfOpen) (by decide)
      · rw [result] at halfOpen
        exact absurd (phase.symm.trans halfOpen) (by decide)
      · rw [result] at halfOpen
        exact absurd halfOpen (by decide)
      · obtain ⟨stored, _⟩ := counted phase
        rw [stored, Option.getD_some] at fewer
        have counter : (system.step options
            (.recordSuccess id clock)).keys.halfSuccesses =
              some ((system.probeSuccesses + system.otherSuccesses + 1 : Nat) :
                Int) := by
          change (successScript options clock system.keys).2.halfSuccesses = _
          rw [result, halfSuccesses_returnSlot, stored]
          rfl
        rw [counter]
        by_cases probe : system.ProbeReports id <;>
          simp [Requests.step, phase, probe] <;> omega
  | recordFailure id clock nowMs =>
      exact absurd halfOpen (phase_failureScript_ne options clock nowMs system.keys)
  | release id clock =>
      change (releaseScript clock system.keys).2.phase = _ at halfOpen
      rcases releaseScript_cases clock system.keys with
        ⟨notHalfOpen, result⟩ | ⟨phase, result⟩
      · rw [result] at halfOpen
        exact absurd halfOpen notHalfOpen
      · obtain ⟨stored, below⟩ := counted phase
        refine ⟨?_, below⟩
        change (releaseScript clock system.keys).2.halfSuccesses = _
        rw [result, halfSuccesses_returnSlot, stored]
        rfl

/-- No call of `acquire` ends an episode. -/
theorem phase_step_acquire_of_halfOpen
    (halfOpen : system.keys.phase = .halfOpen)
    (id clock nowMs : Nat) :
    (system.step options (.acquire id clock nowMs)).keys.phase = .halfOpen := by
  rcases step_acquire_cases options system id clock nowMs with
    ⟨phase, _⟩ | ⟨phase, _⟩ | ⟨_, _, stepped⟩ | ⟨_, stepped⟩
  · exact absurd (halfOpen.symm.trans phase) (by decide)
  · exact absurd (halfOpen.symm.trans phase) (by decide)
  · rw [stepped]
    exact halfOpen
  · rw [stepped]
    exact halfOpen

/-- No slot that is returned ends an episode. -/
theorem phase_step_release_of_halfOpen
    (halfOpen : system.keys.phase = .halfOpen)
    (id clock : Nat) :
    (system.step options (.release id clock)).keys.phase = .halfOpen := by
  change (releaseScript clock system.keys).2.phase = _
  rw [releaseScript, halfOpen]
  exact (phase_returnSlot clock system.keys).trans halfOpen

/-- Every failure ends an episode. -/
theorem phase_step_recordFailure_of_halfOpen
    (halfOpen : system.keys.phase = .halfOpen)
    (id clock nowMs : Nat) :
    (system.step options (.recordFailure id clock nowMs)).keys.phase =
      .opened := by
  change (failureScript options clock nowMs system.keys).2.phase = _
  rw [failureScript, halfOpen]
  rfl

/-- A step ends an episode on its own evidence exactly when its report is the
episode's own. -/
theorem evidenced_iff_ownReports
    (counted : system.SuccessesCounted options)
    (event : Event) :
    system.Evidenced options event ↔ system.OwnReports options event := by
  unfold Evidenced OwnReports
  apply forall_congr'
  intro halfOpen
  obtain ⟨stored, below⟩ := counted halfOpen
  cases event with
  | acquire id clock nowMs =>
      simp [phase_step_acquire_of_halfOpen halfOpen]
  | recordSuccess id clock =>
      have after : (system.step options (.recordSuccess id clock)).keys =
          (successScript options clock system.keys).2 := rfl
      rw [after]
      rcases successScript_of_halfOpen options clock halfOpen with
        ⟨enough, result⟩ | ⟨fewer, result⟩
      · -- all successes together reach the threshold with this one
        have closes : (successScript options clock system.keys).2.phase =
            .closed := by
          rw [result]
          rfl
        rw [stored, Option.getD_some] at enough
        by_cases probe : system.ProbeReports id <;>
          simp [closes, Requests.step, halfOpen, probe, stored] <;> omega
      · have stays : (successScript options clock system.keys).2.phase =
            .halfOpen := by
          rw [result, phase_returnSlot]
          exact halfOpen
        simp only [stays, reduceCtorEq, IsEmpty.forall_iff, and_self, true_iff]
        intro enough
        omega
  | recordFailure id clock nowMs =>
      simp [phase_step_recordFailure_of_halfOpen halfOpen]
  | release id clock =>
      simp [phase_step_release_of_halfOpen halfOpen]

/-- Over every run, the half-open episodes end on the evidence of their own
probes if and only if the reports that end them are their own: no failure of
another request arrives while the breaker is half-open, and no success closes an
episode to which another request reported a success. -/
theorem evidenced_iff_ownReports_of_run
    (options : CircuitBreakerOptions)
    (events : List Event) :
    EveryStep (Requests.step options) (Evidenced options) {} events ↔
      EveryStep (Requests.step options) (OwnReports options) {} events :=
  EveryStep.iff_of_invariant (SuccessesCounted options)
    (fun _ event counted => counted.step event)
    (fun _ event counted => evidenced_iff_ownReports counted event)
    (by rintro ⟨⟩) events

/-- The request admitted while the breaker was closed fails during the episode.
The breaker opens again, with a new time, on no evidence of the probe. -/
theorem straggler_failure_ends_episode :
    let events := episodeWithStraggler ++ [.recordFailure 1 30011 30011]
    EveryStep (Requests.step .default) Admissible {} events ∧
      (runFrom (Requests.step .default) {} episodeWithStraggler).keys.phase =
        .halfOpen ∧
      (runFrom (Requests.step .default) {} events).keys.phase = .opened ∧
      (runFrom (Requests.step .default) {} events).keys.openedAt =
        some 30011 ∧
      ¬EveryStep (Requests.step .default) (Evidenced .default) {} events := by
  decide

end Requests

end CircuitBreaker
end AiGateway
