import AiGateway.CircuitBreaker.Scripts

/-!
# The open timer

From the call that opens the breaker, the time it recorded stays and every
acquire is refused, until one comes at least the timeout later. Late reports of
any kind change nothing. When failures cross the threshold together, one of
them opens the breaker.
-/

namespace AiGateway
namespace CircuitBreaker

open Foundations

/-- A call other than a reset and than an acquire made at `deadline` or
later. -/
def BreakerCall.Early (deadline : Nat) : BreakerCall → Prop
  | .acquire _ nowMs => nowMs < deadline
  | .reset => False
  | _ => True

/-- The breaker is open since `openedAt`. -/
structure OpenSince (openedAt : Nat) (keys : BreakerKeys) : Prop where
  phase : keys.phase = .opened
  openedAt : keys.openedAt = some openedAt

/-- Only a failure report opens a breaker, and it records its time. -/
theorem exists_failure_of_opened
    {options : CircuitBreakerOptions}
    {keys : BreakerKeys}
    {call : BreakerCall}
    (before : keys.phase ≠ .opened)
    (after : (apply options keys call).phase = .opened) :
    ∃ clock nowMs, call = .recordFailure clock nowMs ∧
      OpenSince nowMs (apply options keys call) := by
  cases call with
  | acquire clock nowMs =>
      exfalso
      rcases acquireScript_cases options clock nowMs keys with
        ⟨phase, result⟩ | ⟨phase, _, _⟩ | ⟨phase, _, _⟩ | ⟨phase, _, result⟩ |
          ⟨phase, _, result⟩
      · simp [apply, result, phase] at after
      · exact before phase
      · exact before phase
      · simp only [apply, result] at after
        exact absurd (phase.symm.trans after) (by decide)
      · simp [apply, result, phase] at after
  | recordSuccess clock =>
      exfalso
      rcases successScript_cases options clock keys with
        ⟨phase, _⟩ | ⟨phase, result⟩ | ⟨_, _, result⟩ | ⟨phase, _, result⟩
      · exact before phase
      · simp only [apply, result] at after
        exact absurd (phase.symm.trans after) (by decide)
      · simp only [apply, result] at after
        exact absurd after (by decide)
      · simp only [apply, result, phase_returnSlot] at after
        exact absurd (phase.symm.trans after) (by decide)
  | recordFailure clock nowMs =>
      refine ⟨clock, nowMs, rfl, after, ?_⟩
      rcases failureScript_cases options clock nowMs keys with
        ⟨phase, _⟩ | ⟨_, result⟩ | ⟨_, _, result⟩ | ⟨phase, _, result⟩
      · exact absurd phase before
      · simp [apply, result]
      · simp [apply, result]
      · simp only [apply, result] at after
        exact absurd (phase.symm.trans after) (by decide)
  | release clock =>
      exfalso
      rcases releaseScript_cases clock keys with ⟨_, result⟩ | ⟨phase, result⟩
      · simp only [apply, result] at after
        exact before after
      · simp only [apply, result, phase_returnSlot] at after
        exact absurd (phase.symm.trans after) (by decide)
  | reset => exact absurd after (by simp [apply, resetKeys])

namespace OpenSince

variable {options : CircuitBreakerOptions} {openedAt : Nat} {keys : BreakerKeys}

/-- An acquire before the timeout is refused and changes nothing. -/
theorem acquire_early
    (isOpen : OpenSince openedAt keys)
    {clock nowMs : Nat}
    (early : nowMs < openedAt + options.timeoutMs) :
    acquireScript options clock nowMs keys =
      ({ state := .opened, allowed := false }, keys) := by
  obtain ⟨phase, since⟩ := isOpen
  rcases acquireScript_of_opened options clock nowMs phase with
    ⟨_, result⟩ | ⟨elapsed, _⟩
  · exact result
  · rw [since, Option.getD_some] at elapsed
    omega

/-- An acquire from the timeout on is admitted, and the breaker is half-open
after it. -/
theorem acquire_late
    (isOpen : OpenSince openedAt keys)
    {clock nowMs : Nat}
    (late : openedAt + options.timeoutMs ≤ nowMs) :
    (acquireScript options clock nowMs keys).1 =
        { state := .halfOpen, allowed := true } ∧
      (acquireScript options clock nowMs keys).2.phase = .halfOpen := by
  obtain ⟨phase, since⟩ := isOpen
  rcases acquireScript_of_opened options clock nowMs phase with
    ⟨early, _⟩ | ⟨_, result⟩
  · rw [since, Option.getD_some] at early
    omega
  · rw [result]
    exact ⟨rfl, rfl⟩

/-- No report and no early acquire changes an open breaker. -/
theorem apply_eq
    (isOpen : OpenSince openedAt keys)
    {call : BreakerCall}
    (early : call.Early (openedAt + options.timeoutMs)) :
    apply options keys call = keys := by
  have phase := isOpen.phase
  cases call with
  | acquire clock nowMs => rw [apply, isOpen.acquire_early early]
  | recordSuccess clock => simp [apply, successScript, phase]
  | recordFailure clock nowMs => simp [apply, failureScript, phase]
  | release clock => simp [apply, releaseScript, phase]
  | reset => exact absurd early id

/-- So the breaker stays open, since the same time. -/
theorem runFrom_eq
    (isOpen : OpenSince openedAt keys)
    {calls : List BreakerCall}
    (early : ∀ call ∈ calls, call.Early (openedAt + options.timeoutMs)) :
    runFrom (apply options) keys calls = keys := by
  induction calls with
  | nil => rfl
  | cons call calls inductionHypothesis =>
      rw [runFrom_cons, isOpen.apply_eq (early call (by simp))]
      exact inductionHypothesis fun later isLater =>
        early later (List.mem_cons_of_mem call isLater)

end OpenSince

/-- The calls of a run that took the breaker from closed to open. -/
def openings (options : CircuitBreakerOptions) :
    BreakerKeys → List BreakerCall → List BreakerCall
  | _, [] => []
  | keys, call :: calls =>
      if keys.phase = .closed ∧ (apply options keys call).phase = .opened then
        call :: openings options (apply options keys call) calls
      else
        openings options (apply options keys call) calls

/-- A step that does not make the breaker half-open, and is no reset. -/
def KeepsShut
    (options : CircuitBreakerOptions)
    (keys : BreakerKeys)
    (call : BreakerCall) : Prop :=
  (apply options keys call).phase ≠ .halfOpen ∧ call ≠ .reset

/-- An open breaker that no step makes half-open is not changed. -/
theorem OpenSince.apply_of_keepsShut
    {options : CircuitBreakerOptions}
    {openedAt : Nat}
    {keys : BreakerKeys}
    (isOpen : OpenSince openedAt keys)
    {call : BreakerCall}
    (shut : KeepsShut options keys call) :
    apply options keys call = keys := by
  apply isOpen.apply_eq
  cases call with
  | acquire clock nowMs =>
      by_contra late
      exact shut.1 (isOpen.acquire_late (Nat.not_lt.1 late)).2
  | reset => exact absurd rfl shut.2
  | recordSuccess clock => trivial
  | recordFailure clock nowMs => trivial
  | release clock => trivial

/-- Nothing opens a breaker that is open already. -/
theorem OpenSince.openings_eq_nil
    {options : CircuitBreakerOptions}
    {openedAt : Nat}
    {keys : BreakerKeys}
    (isOpen : OpenSince openedAt keys)
    {calls : List BreakerCall}
    (shut : EveryStep (apply options) (KeepsShut options) keys calls) :
    openings options keys calls = [] ∧
      runFrom (apply options) keys calls = keys := by
  induction calls with
  | nil => exact ⟨rfl, rfl⟩
  | cons call calls inductionHypothesis =>
      obtain ⟨here, later⟩ := shut
      have same := isOpen.apply_of_keepsShut here
      rw [same] at later
      have notClosed : ¬(keys.phase = .closed ∧
          (apply options keys call).phase = .opened) := fun closed =>
        absurd (closed.1.symm.trans isOpen.phase) (by decide)
      rw [openings, if_neg notClosed, runFrom_cons, same]
      exact inductionHypothesis later

/-- In a run that starts closed, ends open and is never half-open, one call
opened the breaker, and its time is the recorded one. -/
theorem exists_opening
    {options : CircuitBreakerOptions}
    {keys : BreakerKeys}
    {calls : List BreakerCall}
    (closed : keys.phase = .closed)
    (shut : EveryStep (apply options) (KeepsShut options) keys calls)
    (isOpen : (runFrom (apply options) keys calls).phase = .opened) :
    ∃ clock nowMs, openings options keys calls = [.recordFailure clock nowMs] ∧
      (runFrom (apply options) keys calls).openedAt = some nowMs := by
  induction calls generalizing keys with
  | nil => exact absurd (closed.symm.trans isOpen) (by decide)
  | cons call calls inductionHypothesis =>
      obtain ⟨here, later⟩ := shut
      cases phase : (apply options keys call).phase with
      | halfOpen => exact absurd phase here.1
      | closed =>
          have notOpened : ¬(keys.phase = .closed ∧
              (apply options keys call).phase = .opened) := fun opened =>
            absurd (phase.symm.trans opened.2) (by decide)
          rw [openings, if_neg notOpened]
          exact inductionHypothesis phase later isOpen
      | opened =>
          obtain ⟨clock, nowMs, rfl, since⟩ := exists_failure_of_opened
            (closed.symm ▸ by decide) phase
          obtain ⟨noMore, same⟩ := since.openings_eq_nil later
          refine ⟨clock, nowMs, ?_, ?_⟩
          · rw [openings, if_pos ⟨closed, phase⟩, noMore]
          · rw [runFrom_cons, same]
            exact since.openedAt

/-- Failures that reach the threshold together, each within the window of the
one before it. -/
structure CrossThreshold
    (options : CircuitBreakerOptions)
    (keys : BreakerKeys)
    (first : Nat × Nat)
    (rest : List (Nat × Nat)) : Prop where
  /-- The failures already counted and these reach the threshold. -/
  reaches : (options.failureThreshold : Int) ≤
    (keys.failures.read first.1).getD 0 + (rest.length + 1)
  /-- The counter does not lapse between them. -/
  within : (first :: rest).IsChain fun earlier later =>
    later.1 < earlier.1 + options.windowMs

/-- The reports of failures at given clocks and times. -/
def failureReports (failures : List (Nat × Nat)) : List BreakerCall :=
  failures.map fun failure => .recordFailure failure.1 failure.2

/-- No failure report makes a breaker half-open. -/
theorem keepsShut_failureReports
    (options : CircuitBreakerOptions)
    {keys : BreakerKeys}
    (failures : List (Nat × Nat)) :
    EveryStep (apply options) (KeepsShut options) keys
      (failureReports failures) := by
  induction failures generalizing keys with
  | nil => trivial
  | cons failure failures inductionHypothesis =>
      exact ⟨⟨phase_failureScript_ne _ _ _ _, by simp⟩, inductionHypothesis⟩

/-- Failures that cross the threshold together open the breaker. -/
theorem CrossThreshold.opens
    {options : CircuitBreakerOptions}
    {keys : BreakerKeys}
    {first : Nat × Nat}
    {rest : List (Nat × Nat)}
    (closed : keys.phase = .closed)
    (cross : CrossThreshold options keys first rest) :
    (runFrom (apply options) keys (failureReports (first :: rest))).phase =
      .opened := by
  -- the report that opens the breaker ends the induction; one that is counted
  -- leaves one failure more and one report less
  have later : ∀ keys : BreakerKeys, keys.phase = .opened →
      ∀ failures, (runFrom (apply options) keys
        (failureReports failures)).phase = .opened := by
    intro keys isOpen failures
    induction failures with
    | nil => exact isOpen
    | cons failure failures inductionHypothesis =>
        have same : apply options keys (.recordFailure failure.1 failure.2) =
            keys := by
          simp [apply, failureScript, isOpen]
        rw [failureReports, List.map_cons, runFrom_cons, same]
        exact inductionHypothesis
  induction rest generalizing keys first with
  | nil =>
      rcases failureScript_of_closed options first.1 first.2 closed with
        ⟨_, result⟩ | ⟨fewer, _⟩
      · simp [failureReports, apply, result]
      · have reaches := cross.reaches
        rw [List.length_nil] at reaches
        omega
  | cons second rest inductionHypothesis =>
      obtain ⟨reaches, within⟩ := cross
      rw [List.isChain_cons_cons] at within
      rw [failureReports, List.map_cons, runFrom_cons]
      rcases failureScript_of_closed options first.1 first.2 closed with
        ⟨_, result⟩ | ⟨_, result⟩
      · exact later _ (by simp [apply, result]) (second :: rest)
      · refine inductionHypothesis ?_ ⟨?_, within.2⟩
        · rw [apply, result]
          exact closed
        · rw [apply, result, Key.read_pexpire, if_pos within.1,
            Key.read_incrBy, Option.getD_some]
          rw [List.length_cons] at reaches
          omega

/-- From the call that opens the breaker at `nowMs`, and while no acquire is
made `timeoutMs` or more after that, the breaker is open since `nowMs` and
refuses every acquire; the first later one makes it half-open. In a run that
starts closed and is never half-open, one report opens the breaker and fixes its
time, and failures that cross the threshold together do open it. -/
theorem open_timer (options : CircuitBreakerOptions) :
    (∀ keys call, keys.phase ≠ .opened →
      (apply options keys call).phase = .opened →
        ∃ clock openedAt, call = .recordFailure clock openedAt ∧
          ∀ later : List BreakerCall,
            (∀ next ∈ later, next.Early (openedAt + options.timeoutMs)) →
            OpenSince openedAt
                (runFrom (apply options) (apply options keys call) later) ∧
              ∀ clock nowMs,
                (nowMs < openedAt + options.timeoutMs →
                  (acquireScript options clock nowMs (runFrom (apply options)
                    (apply options keys call) later)).1 =
                      { state := .opened, allowed := false }) ∧
                (openedAt + options.timeoutMs ≤ nowMs →
                  (acquireScript options clock nowMs (runFrom (apply options)
                    (apply options keys call) later)).2.phase = .halfOpen)) ∧
    (∀ keys calls, keys.phase = .closed →
      EveryStep (apply options) (KeepsShut options) keys calls →
      (runFrom (apply options) keys calls).phase = .opened →
        ∃ clock openedAt,
          openings options keys calls = [.recordFailure clock openedAt] ∧
            (runFrom (apply options) keys calls).openedAt = some openedAt) ∧
    (∀ keys first rest, keys.phase = .closed →
      CrossThreshold options keys first rest →
        (openings options keys (failureReports (first :: rest))).length = 1) := by
  refine ⟨?_, fun _ _ => exists_opening, ?_⟩
  · intro keys call before after
    obtain ⟨clock, openedAt, isFailure, isOpen⟩ :=
      exists_failure_of_opened before after
    refine ⟨clock, openedAt, isFailure, fun later early => ?_⟩
    rw [isOpen.runFrom_eq early]
    exact ⟨isOpen, fun clock nowMs =>
      ⟨fun isEarly => by rw [isOpen.acquire_early isEarly],
        fun isLate => (isOpen.acquire_late isLate).2⟩⟩
  · intro keys first rest closed cross
    obtain ⟨clock, openedAt, single, _⟩ := exists_opening closed
      (keepsShut_failureReports options (first :: rest)) (cross.opens closed)
    rw [single]
    rfl

/-- Five failures reported by five replicas within a second open a fresh breaker
once, and a late report does not move its time. -/
theorem open_timer_five_failures :
    let failures := [(1000, 1000), (1000, 1003), (1200, 1150), (1500, 1490),
      (1900, 1905)]
    let keys := runFrom (apply .default) {} (failureReports (failures.take 4))
    (openings .default {} (failureReports failures)).length = 1 ∧
      OpenSince 1905 (runFrom (apply .default)
        (apply .default keys (.recordFailure 1900 1905))
          [.recordFailure 2500 2500, .acquire 31904 31904]) := by
  intro failures keys
  have timer := open_timer .default
  obtain ⟨clock, openedAt, isFailure, stays⟩ :=
    timer.1 keys (.recordFailure 1900 1905) (by decide) (by decide)
  cases isFailure
  exact ⟨timer.2.2 {} (1000, 1000) failures.tail rfl ⟨by decide, by decide⟩,
    (stays [.recordFailure 2500 2500, .acquire 31904 31904]
      (by simp [BreakerCall.Early, CircuitBreakerOptions.default])).1⟩

end CircuitBreaker
end AiGateway
