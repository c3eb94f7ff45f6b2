import AiGateway.CircuitBreaker.Scripts

/-!
# The five keys together

The scripts name the keys in different orders and delete different sets of them.
Between calls the keys are nevertheless always consistent with the state they
spell, the state changes along four arrows only, and a breaker that was closed
or reset cannot be told from one that was never used.
-/

namespace AiGateway
namespace CircuitBreaker

open Foundations

/-- What the keys hold between calls, for each state. -/
structure Consistent
    (options : CircuitBreakerOptions)
    (keys : BreakerKeys) : Prop where
  /-- A closed breaker counts fewer failures than the threshold and has none of
  the keys of the other states. -/
  closed : keys.phase = .closed →
    (∀ entry ∈ keys.failures, entry.value < options.failureThreshold) ∧
      keys.openedAt = none ∧ keys.halfProbes = none ∧ keys.halfSuccesses = none
  /-- An open breaker knows since when, and has none of the half-open keys. -/
  opened : keys.phase = .opened →
    keys.openedAt ≠ none ∧ keys.halfProbes = none ∧ keys.halfSuccesses = none
  /-- A half-open breaker knows since when, counts fewer successes than the
  threshold, and at most the configured probes. -/
  halfOpen : keys.phase = .halfOpen →
    keys.openedAt ≠ none ∧
      (∃ successes, keys.halfSuccesses = some successes ∧
        0 ≤ successes ∧ successes < options.successThreshold) ∧
      ∀ entry ∈ keys.halfProbes,
        0 ≤ entry.value ∧ entry.value ≤ options.halfOpenMaxProbes

/-- The arrows between the states. -/
inductive Transition : CircuitState → CircuitState → Prop
  | opens : Transition .closed .opened
  | probes : Transition .opened .halfOpen
  | closes : Transition .halfOpen .closed
  | reopens : Transition .halfOpen .opened

/-- What a client gets back from a call. -/
inductive Reply
  | decision (decision : CircuitDecision)
  | state (state : CircuitState)
  | done
  deriving DecidableEq, Repr

/-- The reply to a call; a release and a reset return nothing. -/
def reply (options : CircuitBreakerOptions) (keys : BreakerKeys) :
    BreakerCall → Reply
  | .acquire clock nowMs =>
      .decision (acquireScript options clock nowMs keys).1
  | .recordSuccess clock => .state (successScript options clock keys).1
  | .recordFailure clock nowMs =>
      .state (failureScript options clock nowMs keys).1
  | .release _ => .done
  | .reset => .done

/-- The replies to calls made one after the other. -/
def replies (options : CircuitBreakerOptions) :
    BreakerKeys → List BreakerCall → List Reply :=
  answersFrom (apply options) (reply options)

section Counters

/-- A live counter is the stored one. -/
theorem mem_of_read_eq
    {clock : Nat}
    {key : Key Int}
    {value : Int}
    (readEq : key.read clock = some value) :
    ∃ entry ∈ key, entry.value = value := by
  obtain ⟨entry, alive, valueEq⟩ := Option.map_eq_some_iff.1 readEq
  exact ⟨entry, (Key.eq_some_of_visible alive).1, valueEq⟩

/-- The probe counter after a slot came back: as it was, or one lower with the
same deadline. -/
theorem mem_halfProbes_returnSlot
    {clock : Nat}
    {keys : BreakerKeys}
    {entry : Entry Int}
    (isEntry : entry ∈ (keys.returnSlot clock).halfProbes) :
    entry ∈ keys.halfProbes ∨
      ∃ old ∈ keys.halfProbes, 0 < old.value ∧
        entry = { old with value := old.value - 1 } := by
  rw [halfProbes_returnSlot] at isEntry
  split_ifs at isEntry with taken
  · right
    unfold Key.incrBy at isEntry
    cases alive : keys.halfProbes.visible clock with
    | none => simp [BreakerKeys.probes, Key.read, alive] at taken
    | some old =>
        simp only [BreakerKeys.probes, Key.read, alive, Option.map_some,
          Option.getD_some] at taken
        rw [alive] at isEntry
        exact ⟨old, (Key.eq_some_of_visible alive).1, taken,
          (Option.some_inj.1 isEntry).symm⟩
  · exact .inl isEntry

end Counters

namespace Consistent

variable {options : CircuitBreakerOptions} {keys : BreakerKeys}

/-- A breaker that was never used. -/
theorem fresh : Consistent options {} where
  closed _ := ⟨by rintro entry ⟨⟩, rfl, rfl, rfl⟩
  opened isOpened := by cases isOpened
  halfOpen isHalfOpen := by cases isHalfOpen

/-- A breaker that a success closed. -/
theorem ofClosed : Consistent options { state := some .closed } where
  closed _ := ⟨by rintro entry ⟨⟩, rfl, rfl, rfl⟩
  opened isOpened := by cases isOpened
  halfOpen isHalfOpen := by cases isHalfOpen

/-- A half-open breaker with keys as they are to be. -/
theorem of_phase_halfOpen
    (isHalfOpen : keys.phase = .halfOpen)
    (isOpened : keys.openedAt ≠ none)
    (successes : ∃ successes, keys.halfSuccesses = some successes ∧
      0 ≤ successes ∧ successes < options.successThreshold)
    (probes : ∀ entry ∈ keys.halfProbes,
      0 ≤ entry.value ∧ entry.value ≤ options.halfOpenMaxProbes) :
    Consistent options keys where
  closed closed := by cases isHalfOpen.symm.trans closed
  opened opened := by cases isHalfOpen.symm.trans opened
  halfOpen _ := ⟨isOpened, successes, probes⟩

/-- A closed breaker with keys as they are to be. -/
theorem of_phase_closed
    (isClosed : keys.phase = .closed)
    (failures : ∀ entry ∈ keys.failures, entry.value < options.failureThreshold)
    (others : keys.openedAt = none ∧ keys.halfProbes = none ∧
      keys.halfSuccesses = none) :
    Consistent options keys where
  closed _ := ⟨failures, others⟩
  opened opened := by cases isClosed.symm.trans opened
  halfOpen halfOpen := by cases isClosed.symm.trans halfOpen

theorem acquire
    (consistent : Consistent options keys)
    (clock nowMs : Nat) :
    Consistent options (acquireScript options clock nowMs keys).2 := by
  rcases acquireScript_cases options clock nowMs keys with
    ⟨_, result⟩ | ⟨_, _, result⟩ | ⟨phase, _, result⟩ |
      ⟨phase, free, result⟩ | ⟨_, _, result⟩ <;> rw [result]
  · exact consistent
  · exact consistent
  · -- the first probe of an episode
    refine ⟨by simp, by simp, fun _ => ⟨(consistent.opened phase).1,
      ⟨0, rfl, Int.le_refl 0, by exact_mod_cast options.successThreshold_pos⟩, ?_⟩⟩
    intro entry isEntry
    cases Option.some_inj.1 isEntry
    have positive := options.halfOpenMaxProbes_pos
    constructor <;> dsimp only <;> omega
  · -- one more probe
    obtain ⟨isOpened, successes, probes⟩ := consistent.halfOpen phase
    have isHalfOpen : ({ keys with
        halfProbes := (keys.halfProbes.incrBy clock 1).pexpire clock
          options.timeoutMs } : BreakerKeys).phase = .halfOpen := phase
    refine of_phase_halfOpen isHalfOpen isOpened successes ?_
    intro entry isEntry
    rw [Key.pexpire_incrBy] at isEntry
    cases Option.some_inj.1 isEntry
    change keys.probes clock < _ at free
    change 0 ≤ keys.probes clock + 1 ∧ keys.probes clock + 1 ≤ _
    have nonnegative : 0 ≤ keys.probes clock := by
      unfold BreakerKeys.probes
      cases readEq : keys.halfProbes.read clock with
      | none => exact Int.le_refl 0
      | some value =>
          obtain ⟨stored, isStored, rfl⟩ := mem_of_read_eq readEq
          exact (probes stored isStored).1
    omega
  · exact consistent

/-- A slot that comes back. -/
theorem returnSlot
    (consistent : Consistent options keys)
    (phase : keys.phase = .halfOpen)
    (clock : Nat) :
    Consistent options (keys.returnSlot clock) := by
  obtain ⟨isOpened, successes, probes⟩ := consistent.halfOpen phase
  have isHalfOpen : (keys.returnSlot clock).phase = .halfOpen := by
    rw [phase_returnSlot, phase]
  refine of_phase_halfOpen isHalfOpen ?_ ?_ ?_
  · rwa [openedAt_returnSlot]
  · rwa [halfSuccesses_returnSlot]
  · intro entry isEntry
    rcases mem_halfProbes_returnSlot isEntry with
      same | ⟨old, isOld, positive, rfl⟩
    · exact probes entry same
    · have bounds := probes old isOld
      constructor <;> dsimp only <;> omega

theorem recordSuccess
    (consistent : Consistent options keys)
    (clock : Nat) :
    Consistent options (successScript options clock keys).2 := by
  rcases successScript_cases options clock keys with
    ⟨_, result⟩ | ⟨phase, result⟩ | ⟨_, _, result⟩ |
      ⟨phase, fewer, result⟩ <;> rw [result]
  · exact consistent
  · have isClosed : ({ keys with failures := none } : BreakerKeys).phase =
        .closed := phase
    exact of_phase_closed isClosed (by rintro entry ⟨⟩)
      (consistent.closed phase).2
  · exact ofClosed
  · obtain ⟨isOpened, ⟨successes, stored, nonnegative, _⟩, probes⟩ :=
      consistent.halfOpen phase
    rw [stored, Option.getD_some] at fewer ⊢
    have isHalfOpen : ({ keys with
        halfSuccesses := some (successes + 1) } : BreakerKeys).phase =
          .halfOpen := phase
    have counted : Consistent options
        { keys with halfSuccesses := some (successes + 1) } :=
      of_phase_halfOpen isHalfOpen isOpened
        ⟨successes + 1, rfl, by omega, fewer⟩ probes
    exact counted.returnSlot isHalfOpen clock

theorem recordFailure
    (consistent : Consistent options keys)
    (clock nowMs : Nat) :
    Consistent options (failureScript options clock nowMs keys).2 := by
  rcases failureScript_cases options clock nowMs keys with
    ⟨_, result⟩ | ⟨_, result⟩ | ⟨phase, _, result⟩ |
      ⟨phase, fewer, result⟩ <;> rw [result]
  · exact consistent
  · exact ⟨by simp, fun _ => ⟨by simp, rfl, rfl⟩, by simp⟩
  · exact ⟨by simp, fun _ => ⟨by simp, (consistent.closed phase).2.2⟩, by simp⟩
  · have isClosed : ({ keys with
        failures := (keys.failures.incrBy clock 1).pexpire clock
          options.windowMs } : BreakerKeys).phase = .closed := phase
    refine of_phase_closed isClosed ?_ (consistent.closed phase).2
    intro entry isEntry
    rw [Key.pexpire_incrBy] at isEntry
    cases Option.some_inj.1 isEntry
    exact fewer

theorem release
    (consistent : Consistent options keys)
    (clock : Nat) :
    Consistent options (releaseScript clock keys).2 := by
  rcases releaseScript_cases clock keys with ⟨_, result⟩ | ⟨phase, result⟩ <;>
    rw [result]
  · exact consistent
  · exact consistent.returnSlot phase clock

/-- One call keeps the keys consistent. -/
theorem apply
    (consistent : Consistent options keys)
    (call : BreakerCall) :
    Consistent options (apply options keys call) := by
  cases call with
  | acquire clock nowMs => exact consistent.acquire clock nowMs
  | recordSuccess clock => exact consistent.recordSuccess clock
  | recordFailure clock nowMs => exact consistent.recordFailure clock nowMs
  | release clock => exact consistent.release clock
  | reset => exact fresh

end Consistent

section Behaviour

variable (options : CircuitBreakerOptions)

/-- A call leaves the state, follows one of the arrows, or is a reset. -/
theorem transition (keys : BreakerKeys) (call : BreakerCall) :
    (apply options keys call).phase = keys.phase ∨
      Transition keys.phase (apply options keys call).phase ∨
        call = .reset := by
  cases call with
  | acquire clock nowMs =>
      rcases acquireScript_cases options clock nowMs keys with
        ⟨_, result⟩ | ⟨_, _, result⟩ | ⟨phase, _, result⟩ |
          ⟨phase, _, result⟩ | ⟨_, _, result⟩ <;> rw [apply, result]
      · exact .inl rfl
      · exact .inl rfl
      · rw [phase]
        exact .inr (.inl .probes)
      · exact .inl rfl
      · exact .inl rfl
  | recordSuccess clock =>
      rcases successScript_cases options clock keys with
        ⟨_, result⟩ | ⟨_, result⟩ | ⟨phase, _, result⟩ | ⟨_, _, result⟩ <;>
        rw [apply, result]
      · exact .inl rfl
      · exact .inl rfl
      · rw [phase]
        exact .inr (.inl .closes)
      · exact .inl (phase_returnSlot _ _)
  | recordFailure clock nowMs =>
      rcases failureScript_cases options clock nowMs keys with
        ⟨_, result⟩ | ⟨phase, result⟩ | ⟨phase, _, result⟩ | ⟨_, _, result⟩ <;>
        rw [apply, result]
      · exact .inl rfl
      · rw [phase]
        exact .inr (.inl .reopens)
      · rw [phase]
        exact .inr (.inl .opens)
      · exact .inl rfl
  | release clock =>
      rcases releaseScript_cases clock keys with ⟨_, result⟩ | ⟨_, result⟩ <;>
        rw [apply, result]
      · exact .inl rfl
      · exact .inl (phase_returnSlot _ _)
  | reset => exact .inr (.inr rfl)

/-- Keys that are the same but for the spelling of the closed state, which a
close writes and a breaker that was never used does not have. -/
def SameBreaker (keys other : BreakerKeys) : Prop :=
  other = keys ∨
    keys.phase = .closed ∧ other = { keys with state := some .closed }

/-- Such keys cannot be told apart. -/
theorem SameBreaker.simulates
    (keys other : BreakerKeys)
    (call : BreakerCall)
    (same : SameBreaker keys other) :
    reply options keys call = reply options other call ∧
      SameBreaker (apply options keys call) (apply options other call) := by
  rcases same with rfl | ⟨closed, rfl⟩
  · exact ⟨rfl, .inl rfl⟩
  · have spelled : ({ keys with state := some .closed } : BreakerKeys).phase =
        .closed := rfl
    cases call with
    | acquire clock nowMs =>
        simp only [reply, apply, acquireScript, closed, spelled]
        exact ⟨trivial, .inr ⟨closed, rfl⟩⟩
    | recordSuccess clock =>
        simp only [reply, apply, successScript, closed, spelled]
        exact ⟨trivial, .inr ⟨closed, rfl⟩⟩
    | recordFailure clock nowMs =>
        simp only [reply, apply, failureScript, closed, spelled]
        split_ifs
        · exact ⟨rfl, .inl rfl⟩
        · exact ⟨rfl, .inr ⟨closed, rfl⟩⟩
    | release clock =>
        simp only [reply, apply, releaseScript, closed, spelled]
        exact ⟨trivial, .inr ⟨closed, rfl⟩⟩
    | reset => exact ⟨rfl, .inl rfl⟩

/-- A breaker that was just closed or reset is one that was never used. -/
theorem sameBreaker_of_closes
    {keys : BreakerKeys}
    {call : BreakerCall}
    (closes : call = .reset ∨
      keys.phase ≠ .closed ∧ (apply options keys call).phase = .closed) :
    SameBreaker {} (apply options keys call) := by
  rcases closes with rfl | ⟨notClosed, isClosed⟩
  · exact .inl rfl
  · cases call with
    | acquire clock nowMs =>
        rcases acquireScript_cases options clock nowMs keys with
          ⟨phase, _⟩ | ⟨phase, _, result⟩ | ⟨_, _, result⟩ |
            ⟨phase, _, result⟩ | ⟨phase, _, result⟩
        · exact absurd phase notClosed
        · rw [apply, result] at isClosed
          exact absurd isClosed notClosed
        · rw [apply, result] at isClosed
          cases isClosed
        · rw [apply, result] at isClosed
          exact absurd isClosed notClosed
        · rw [apply, result] at isClosed
          exact absurd isClosed notClosed
    | recordSuccess clock =>
        rcases successScript_cases options clock keys with
          ⟨_, result⟩ | ⟨phase, _⟩ | ⟨_, _, result⟩ | ⟨_, _, result⟩
        · rw [apply, result] at isClosed
          exact absurd isClosed notClosed
        · exact absurd phase notClosed
        · rw [apply, result]
          exact .inr ⟨rfl, rfl⟩
        · rw [apply, result, phase_returnSlot] at isClosed
          exact absurd isClosed notClosed
    | recordFailure clock nowMs =>
        rcases failureScript_cases options clock nowMs keys with
          ⟨_, result⟩ | ⟨_, result⟩ | ⟨phase, _⟩ | ⟨phase, _⟩
        · rw [apply, result] at isClosed
          exact absurd isClosed notClosed
        · rw [apply, result] at isClosed
          cases isClosed
        · exact absurd phase notClosed
        · exact absurd phase notClosed
    | release clock =>
        rcases releaseScript_cases clock keys with
          ⟨_, result⟩ | ⟨_, result⟩
        · rw [apply, result] at isClosed
          exact absurd isClosed notClosed
        · rw [apply, result, phase_returnSlot] at isClosed
          exact absurd isClosed notClosed
    | reset => exact .inl rfl

end Behaviour

/-- After any calls the five keys are consistent, whatever times the calls had
and whichever keys lapsed; the next call leaves the state, follows one of the
four arrows, or is a reset; and if it closes or resets the breaker, all later
calls are answered as by a breaker that was never used. -/
theorem consistent_of_run
    (options : CircuitBreakerOptions)
    (calls : List BreakerCall) :
    let keys := runFrom (apply options) {} calls
    Consistent options keys ∧
      ∀ call,
        ((apply options keys call).phase = keys.phase ∨
          Transition keys.phase (apply options keys call).phase ∨
            call = .reset) ∧
        ((call = .reset ∨
            keys.phase ≠ .closed ∧
              (apply options keys call).phase = .closed) →
          ∀ later, replies options (apply options keys call) later =
            replies options {} later) := by
  intro keys
  refine ⟨runFrom_induction (Consistent options)
    (fun _ call _ consistent => consistent.apply call) .fresh,
    fun call => ⟨transition options keys call, fun closes later => ?_⟩⟩
  exact (answersFrom_eq_of_simulation SameBreaker
    (SameBreaker.simulates options) (sameBreaker_of_closes options closes)
    later).symm

end CircuitBreaker
end AiGateway
