import AiGateway.Foundations.Expiry
import AiGateway.Foundations.Runs

/-!
# The circuit breaker scripts

The breaker of one provider lives in five keys of the store, and every change
of them is one Lua script. Each script is translated as a function of the keys;
after it stands one lemma that says all it can do. Only the failure counter and
the probe counter are ever given a time to live; the other three keys are kept
until they are deleted.

Scripts read `nowMs`, the time of the calling replica, while times to live run
on the store's `clock`. The two are separate here.
-/

namespace AiGateway
namespace CircuitBreaker

open Foundations

/-- `CIRCUIT_STATE`: `CLOSED`, `OPEN`, `HALF_OPEN`. -/
inductive CircuitState
  | closed
  | opened
  | halfOpen
  deriving DecidableEq, Repr

/-- Result of an admission check. -/
structure CircuitDecision where
  state : CircuitState
  allowed : Bool
  deriving DecidableEq, Repr

/-- The thresholds and times of a breaker; the configuration admits no zero. -/
structure CircuitBreakerOptions where
  failureThreshold : Nat
  successThreshold : Nat
  timeoutMs : Nat
  windowMs : Nat
  halfOpenMaxProbes : Nat
  failureThreshold_pos : 1 ≤ failureThreshold
  successThreshold_pos : 1 ≤ successThreshold
  timeoutMs_pos : 1 ≤ timeoutMs
  windowMs_pos : 1 ≤ windowMs
  halfOpenMaxProbes_pos : 1 ≤ halfOpenMaxProbes

/-- The settings of a deployment that sets none of them. -/
def CircuitBreakerOptions.default : CircuitBreakerOptions where
  failureThreshold := 5
  successThreshold := 2
  timeoutMs := 30000
  windowMs := 60000
  halfOpenMaxProbes := 1
  failureThreshold_pos := by decide
  successThreshold_pos := by decide
  timeoutMs_pos := by decide
  windowMs_pos := by decide
  halfOpenMaxProbes_pos := by decide

/-- The keys of one provider's breaker. -/
structure BreakerKeys where
  /-- `cb:{id}:state`. -/
  state : Option CircuitState := none
  /-- `cb:{id}:failures`. -/
  failures : Key Int := none
  /-- `cb:{id}:opened_at`. -/
  openedAt : Option Nat := none
  /-- `cb:{id}:half_probes`. -/
  halfProbes : Key Int := none
  /-- `cb:{id}:half_successes`. -/
  halfSuccesses : Option Int := none
  deriving DecidableEq, Repr

/-- `redis.call('GET', KEYS[1]) or 'CLOSED'`. -/
def BreakerKeys.phase (keys : BreakerKeys) : CircuitState :=
  keys.state.getD .closed

/-- `tonumber(redis.call('GET', half_probes) or '0')`. -/
def BreakerKeys.probes (clock : Nat) (keys : BreakerKeys) : Int :=
  (keys.halfProbes.read clock).getD 0

/-- Half of `SUCCESS_LUA` and all of `RELEASE_LUA`: a positive probe counter is
decremented, whoever reports. -/
def BreakerKeys.returnSlot (clock : Nat) (keys : BreakerKeys) : BreakerKeys :=
  if 0 < keys.probes clock then
    { keys with halfProbes := keys.halfProbes.incrBy clock (-1) }
  else
    keys

/-- `ACQUIRE_LUA`. -/
def acquireScript
    (options : CircuitBreakerOptions)
    (clock nowMs : Nat)
    (keys : BreakerKeys) : CircuitDecision × BreakerKeys :=
  match keys.phase with
  | .closed => ({ state := .closed, allowed := true }, keys)
  | .opened =>
      if (options.timeoutMs : Int) ≤ (nowMs : Int) - (keys.openedAt.getD 0 : Nat)
      then
        ({ state := .halfOpen, allowed := true },
          { keys with
            state := some .halfOpen
            halfProbes := Key.setPx clock options.timeoutMs 1
            halfSuccesses := some 0 })
      else
        ({ state := .opened, allowed := false }, keys)
  | .halfOpen =>
      if keys.probes clock < options.halfOpenMaxProbes then
        ({ state := .halfOpen, allowed := true },
          { keys with
            halfProbes := (keys.halfProbes.incrBy clock 1).pexpire clock
              options.timeoutMs })
      else
        ({ state := .halfOpen, allowed := false }, keys)

/-- `SUCCESS_LUA`. -/
def successScript
    (options : CircuitBreakerOptions)
    (clock : Nat)
    (keys : BreakerKeys) : CircuitState × BreakerKeys :=
  match keys.phase with
  | .halfOpen =>
      let successes := keys.halfSuccesses.getD 0 + 1
      if (options.successThreshold : Int) ≤ successes then
        (.closed,
          { state := some .closed
            failures := none
            openedAt := none
            halfProbes := none
            halfSuccesses := none })
      else
        (.halfOpen,
          BreakerKeys.returnSlot clock
            { keys with halfSuccesses := some successes })
  | .closed => (.closed, { keys with failures := none })
  | .opened => (.opened, keys)

/-- `RELEASE_LUA`. -/
def releaseScript (clock : Nat) (keys : BreakerKeys) :
    CircuitState × BreakerKeys :=
  match keys.phase with
  | .halfOpen => (.halfOpen, keys.returnSlot clock)
  | .closed => (.closed, keys)
  | .opened => (.opened, keys)

/-- `FAILURE_LUA`. -/
def failureScript
    (options : CircuitBreakerOptions)
    (clock nowMs : Nat)
    (keys : BreakerKeys) : CircuitState × BreakerKeys :=
  match keys.phase with
  | .opened => (.opened, keys)
  | .halfOpen =>
      (.opened,
        { state := some .opened
          failures := none
          openedAt := some nowMs
          halfProbes := none
          halfSuccesses := none })
  | .closed =>
      let failures := (keys.failures.incrBy clock 1).pexpire clock
        options.windowMs
      if (options.failureThreshold : Int) ≤
          (keys.failures.read clock).getD 0 + 1 then
        (.opened,
          { keys with
            state := some .opened
            failures := failures
            openedAt := some nowMs })
      else
        (.closed, { keys with failures := failures })

/-- `CircuitBreaker.reset`: the five keys are deleted. -/
def resetKeys : BreakerKeys := {}

@[simp] theorem phase_mk
    (state : Option CircuitState)
    (failures : Key Int)
    (openedAt : Option Nat)
    (halfProbes : Key Int)
    (halfSuccesses : Option Int) :
    (BreakerKeys.mk state failures openedAt halfProbes halfSuccesses).phase =
      state.getD .closed := rfl

@[simp] theorem phase_returnSlot (clock : Nat) (keys : BreakerKeys) :
    (keys.returnSlot clock).phase = keys.phase := by
  unfold BreakerKeys.returnSlot
  split <;> rfl

@[simp] theorem openedAt_returnSlot (clock : Nat) (keys : BreakerKeys) :
    (keys.returnSlot clock).openedAt = keys.openedAt := by
  unfold BreakerKeys.returnSlot
  split <;> rfl

@[simp] theorem halfSuccesses_returnSlot (clock : Nat) (keys : BreakerKeys) :
    (keys.returnSlot clock).halfSuccesses = keys.halfSuccesses := by
  unfold BreakerKeys.returnSlot
  split <;> rfl

theorem halfProbes_returnSlot (clock : Nat) (keys : BreakerKeys) :
    (keys.returnSlot clock).halfProbes =
      if 0 < keys.probes clock then keys.halfProbes.incrBy clock (-1)
      else keys.halfProbes := by
  unfold BreakerKeys.returnSlot
  split <;> rfl

variable (options : CircuitBreakerOptions) (clock nowMs : Nat)
  (keys : BreakerKeys)

variable {keys} in
/-- While open, an acquire is refused before the timeout, and starts an episode
from then on. -/
theorem acquireScript_of_opened (opened : keys.phase = .opened) :
    (nowMs < keys.openedAt.getD 0 + options.timeoutMs ∧
      acquireScript options clock nowMs keys =
        ({ state := .opened, allowed := false }, keys)) ∨
    (keys.openedAt.getD 0 + options.timeoutMs ≤ nowMs ∧
      acquireScript options clock nowMs keys =
        ({ state := .halfOpen, allowed := true },
          { keys with
            state := some .halfOpen
            halfProbes := Key.setPx clock options.timeoutMs 1
            halfSuccesses := some 0 })) := by
  unfold acquireScript
  rw [opened]
  by_cases elapsed : (options.timeoutMs : Int) ≤
    (nowMs : Int) - (keys.openedAt.getD 0 : Nat)
  · exact Or.inr ⟨by omega, if_pos elapsed⟩
  · exact Or.inl ⟨by omega, if_neg elapsed⟩

/-- What an acquire can do: admit while closed, refuse or start an episode
while open, take a probe slot or refuse while half-open. -/
theorem acquireScript_cases :
    (keys.phase = .closed ∧
      acquireScript options clock nowMs keys =
        ({ state := .closed, allowed := true }, keys)) ∨
    (keys.phase = .opened ∧
      nowMs < keys.openedAt.getD 0 + options.timeoutMs ∧
      acquireScript options clock nowMs keys =
        ({ state := .opened, allowed := false }, keys)) ∨
    (keys.phase = .opened ∧
      keys.openedAt.getD 0 + options.timeoutMs ≤ nowMs ∧
      acquireScript options clock nowMs keys =
        ({ state := .halfOpen, allowed := true },
          { keys with
            state := some .halfOpen
            halfProbes := Key.setPx clock options.timeoutMs 1
            halfSuccesses := some 0 })) ∨
    (keys.phase = .halfOpen ∧
      keys.probes clock < options.halfOpenMaxProbes ∧
      acquireScript options clock nowMs keys =
        ({ state := .halfOpen, allowed := true },
          { keys with
            halfProbes := (keys.halfProbes.incrBy clock 1).pexpire clock
              options.timeoutMs })) ∨
    (keys.phase = .halfOpen ∧
      options.halfOpenMaxProbes ≤ keys.probes clock ∧
      acquireScript options clock nowMs keys =
        ({ state := .halfOpen, allowed := false }, keys)) := by
  cases phase : keys.phase with
  | closed => exact Or.inl ⟨rfl, by rw [acquireScript, phase]⟩
  | opened =>
      rcases acquireScript_of_opened options clock nowMs phase with
        ⟨early, result⟩ | ⟨elapsed, result⟩
      · exact Or.inr (Or.inl ⟨rfl, early, result⟩)
      · exact Or.inr (Or.inr (Or.inl ⟨rfl, elapsed, result⟩))
  | halfOpen =>
      unfold acquireScript
      rw [phase]
      by_cases free : keys.probes clock < options.halfOpenMaxProbes
      · exact Or.inr (Or.inr (Or.inr (Or.inl ⟨rfl, free, if_pos free⟩)))
      · exact Or.inr (Or.inr (Or.inr (Or.inr
          ⟨rfl, Int.not_lt.1 free, if_neg free⟩)))

variable {keys} in
/-- While half-open, a success report closes the breaker or is counted. -/
theorem successScript_of_halfOpen (halfOpen : keys.phase = .halfOpen) :
    ((options.successThreshold : Int) ≤ keys.halfSuccesses.getD 0 + 1 ∧
      successScript options clock keys =
        (.closed, { state := some .closed })) ∨
    (keys.halfSuccesses.getD 0 + 1 < options.successThreshold ∧
      successScript options clock keys =
        (.halfOpen, BreakerKeys.returnSlot clock
          { keys with
            halfSuccesses := some (keys.halfSuccesses.getD 0 + 1) })) := by
  unfold successScript
  rw [halfOpen]
  by_cases enough : (options.successThreshold : Int) ≤
    keys.halfSuccesses.getD 0 + 1
  · exact Or.inl ⟨enough, if_pos enough⟩
  · exact Or.inr ⟨Int.not_le.1 enough, if_neg enough⟩

/-- What a success report can do: nothing while open, clear the failures while
closed, close the breaker or be counted while half-open. -/
theorem successScript_cases :
    (keys.phase = .opened ∧
      successScript options clock keys = (.opened, keys)) ∨
    (keys.phase = .closed ∧
      successScript options clock keys =
        (.closed, { keys with failures := none })) ∨
    (keys.phase = .halfOpen ∧
      (options.successThreshold : Int) ≤ keys.halfSuccesses.getD 0 + 1 ∧
      successScript options clock keys =
        (.closed, { state := some .closed })) ∨
    (keys.phase = .halfOpen ∧
      keys.halfSuccesses.getD 0 + 1 < options.successThreshold ∧
      successScript options clock keys =
        (.halfOpen, BreakerKeys.returnSlot clock
          { keys with
            halfSuccesses := some (keys.halfSuccesses.getD 0 + 1) })) := by
  cases phase : keys.phase with
  | opened => exact Or.inl ⟨rfl, by rw [successScript, phase]⟩
  | closed => exact Or.inr (Or.inl ⟨rfl, by rw [successScript, phase]⟩)
  | halfOpen =>
      rcases successScript_of_halfOpen options clock phase with
        ⟨enough, result⟩ | ⟨fewer, result⟩
      · exact Or.inr (Or.inr (Or.inl ⟨rfl, enough, result⟩))
      · exact Or.inr (Or.inr (Or.inr ⟨rfl, fewer, result⟩))

/-- What a release can do: return a slot while half-open, and nothing
otherwise. -/
theorem releaseScript_cases :
    (keys.phase ≠ .halfOpen ∧
      releaseScript clock keys = (keys.phase, keys)) ∨
    (keys.phase = .halfOpen ∧
      releaseScript clock keys = (.halfOpen, keys.returnSlot clock)) := by
  unfold releaseScript
  cases phase : keys.phase with
  | opened => exact Or.inl ⟨by decide, rfl⟩
  | closed => exact Or.inl ⟨by decide, rfl⟩
  | halfOpen => exact Or.inr ⟨rfl, rfl⟩

variable {keys} in
/-- While closed, a failure report opens the breaker or is counted. -/
theorem failureScript_of_closed (closed : keys.phase = .closed) :
    ((options.failureThreshold : Int) ≤
        (keys.failures.read clock).getD 0 + 1 ∧
      failureScript options clock nowMs keys =
        (.opened,
          { keys with
            state := some .opened
            failures := (keys.failures.incrBy clock 1).pexpire clock
              options.windowMs
            openedAt := some nowMs })) ∨
    ((keys.failures.read clock).getD 0 + 1 < options.failureThreshold ∧
      failureScript options clock nowMs keys =
        (.closed,
          { keys with
            failures := (keys.failures.incrBy clock 1).pexpire clock
              options.windowMs })) := by
  unfold failureScript
  rw [closed]
  by_cases enough : (options.failureThreshold : Int) ≤
    (keys.failures.read clock).getD 0 + 1
  · exact Or.inl ⟨enough, if_pos enough⟩
  · exact Or.inr ⟨Int.not_le.1 enough, if_neg enough⟩

/-- What a failure report can do: nothing while open, open a half-open breaker,
count or open a closed one. -/
theorem failureScript_cases :
    (keys.phase = .opened ∧
      failureScript options clock nowMs keys = (.opened, keys)) ∨
    (keys.phase = .halfOpen ∧
      failureScript options clock nowMs keys =
        (.opened, { state := some .opened, openedAt := some nowMs })) ∨
    (keys.phase = .closed ∧
      (options.failureThreshold : Int) ≤
        (keys.failures.read clock).getD 0 + 1 ∧
      failureScript options clock nowMs keys =
        (.opened,
          { keys with
            state := some .opened
            failures := (keys.failures.incrBy clock 1).pexpire clock
              options.windowMs
            openedAt := some nowMs })) ∨
    (keys.phase = .closed ∧
      (keys.failures.read clock).getD 0 + 1 < options.failureThreshold ∧
      failureScript options clock nowMs keys =
        (.closed,
          { keys with
            failures := (keys.failures.incrBy clock 1).pexpire clock
              options.windowMs })) := by
  cases phase : keys.phase with
  | opened => exact Or.inl ⟨rfl, by rw [failureScript, phase]⟩
  | halfOpen => exact Or.inr (Or.inl ⟨rfl, by rw [failureScript, phase]⟩)
  | closed =>
      rcases failureScript_of_closed options clock nowMs phase with
        ⟨enough, result⟩ | ⟨fewer, result⟩
      · exact Or.inr (Or.inr (Or.inl ⟨rfl, enough, result⟩))
      · exact Or.inr (Or.inr (Or.inr ⟨rfl, fewer, result⟩))

/-- A failure report never leaves the breaker half-open. -/
theorem phase_failureScript_ne :
    (failureScript options clock nowMs keys).2.phase ≠ .halfOpen := by
  rcases failureScript_cases options clock nowMs keys with
    ⟨phase, result⟩ | ⟨_, result⟩ | ⟨_, _, result⟩ | ⟨phase, _, result⟩
  · simp [result, phase]
  · simp [result]
  · simp [result]
  · rw [result]
    exact fun halfOpen => absurd (phase.symm.trans halfOpen) (by decide)

/-- One call of a client on the breaker, with the store's clock when its script
runs and the time the client passes. -/
inductive BreakerCall
  | acquire (clock nowMs : Nat)
  | recordSuccess (clock : Nat)
  | recordFailure (clock nowMs : Nat)
  | release (clock : Nat)
  | reset
  deriving DecidableEq, Repr

/-- The keys after a call. -/
def apply (options : CircuitBreakerOptions) (keys : BreakerKeys) :
    BreakerCall → BreakerKeys
  | .acquire clock nowMs => (acquireScript options clock nowMs keys).2
  | .recordSuccess clock => (successScript options clock keys).2
  | .recordFailure clock nowMs => (failureScript options clock nowMs keys).2
  | .release clock => (releaseScript clock keys).2
  | .reset => resetKeys

end CircuitBreaker
end AiGateway
