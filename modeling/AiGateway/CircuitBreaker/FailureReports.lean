import AiGateway.CircuitBreaker.Scripts
import AiGateway.Database.ScriptCalls

/-!
# Failure reports through the script runner

`recordFailure` runs `FAILURE_LUA` by digest. Reports of any number of processes
overlap, the server loses its scripts, and commands are given up or sent again. Within
one window no report that returned is missing, and only one whose command was sent
again is counted more than once, so the breaker opens exactly with the execution that
reaches the threshold.
-/

namespace AiGateway
namespace CircuitBreaker

open Foundations
open Database (RedisScript parseReplyString System LogEntry Explains)

section Model

/-- The keys of a breaker and the clock of the server that keeps them. -/
structure TimedKeys where
  clock : Nat
  keys : BreakerKeys
  deriving DecidableEq, Repr

/-- Time passes on the server. -/
def TimedKeys.elapse (ms : Nat) (timed : TimedKeys) : TimedKeys :=
  { timed with clock := timed.clock + ms }

/-- The values of `CIRCUIT_STATE`. -/
def CircuitState.text : CircuitState → String
  | .closed => "CLOSED"
  | .opened => "OPEN"
  | .halfOpen => "HALF_OPEN"

/-- `new RedisScript(redis, FAILURE_LUA, parseReplyString)`; the input of a call is
`nowMs`. -/
def failureCalls (options : CircuitBreakerOptions) (digest : String) :
    RedisScript Nat TimedKeys Database.Reply String where
  digest := digest
  body nowMs timed :=
    let (state, keys) := failureScript options timed.clock nowMs timed.keys
    (.ok (.string state.text), { timed with keys := keys })
  parse := parseReplyString

theorem failureCalls_distinguishable
    (options : CircuitBreakerOptions)
    (digest : String) :
    (failureCalls options digest).Distinguishable :=
  .of_body _ rfl (by rintro _ _ _ ⟨⟩)

end Model

section Counting

variable {options : CircuitBreakerOptions} {digest : String}

/-- After `count` reports: open from the threshold on, and before it closed with a
counter of all of them that outlives the `limit`. -/
inductive Counted (options : CircuitBreakerOptions) (limit : Nat) :
    Nat → TimedKeys → Prop
  | unused {timed} (phase : timed.keys.phase = .closed)
      (failures : timed.keys.failures = none) : Counted options limit 0 timed
  | counting {count timed deadline} (phase : timed.keys.phase = .closed)
      (failures : timed.keys.failures = some ⟨(count : Int), some deadline⟩)
      (outlives : limit ≤ deadline)
      (fewer : count < options.failureThreshold) : Counted options limit count timed
  | opened {count timed} (phase : timed.keys.phase = .opened)
      (enough : options.failureThreshold ≤ count) : Counted options limit count timed

namespace Counted

variable {limit count : Nat} {timed : TimedKeys}

/-- Time passes. -/
theorem elapse (counted : Counted options limit count timed) (ms : Nat) :
    Counted options limit count (timed.elapse ms) := by
  cases counted with
  | unused phase failures => exact .unused phase failures
  | counting phase failures outlives fewer =>
      exact .counting phase failures outlives fewer
  | opened phase enough => exact .opened phase enough

/-- What the counter reads before the limit. -/
theorem read_failures
    (counted : Counted options limit count timed)
    (closed : timed.keys.phase = .closed)
    (before : timed.clock < limit) :
    (timed.keys.failures.read timed.clock).getD 0 = count := by
  cases counted with
  | unused phase failures =>
      rw [failures]
      rfl
  | counting phase failures outlives fewer =>
      rw [failures]
      have alive := Nat.lt_of_lt_of_le before outlives
      simp [Key.read, Entry.live, alive]
  | opened phase enough =>
      rw [closed] at phase
      cases phase

/-- One more report. -/
theorem report
    (counted : Counted options limit count timed)
    (before : timed.clock < limit)
    (withinWindow : limit ≤ timed.clock + options.windowMs)
    (nowMs : Nat) :
    Counted options limit (count + 1)
      ((failureCalls options digest).body nowMs timed).2 := by
  change Counted options limit (count + 1) { timed with
    keys := (failureScript options timed.clock nowMs timed.keys).2 }
  cases phase : timed.keys.phase with
  | opened =>
      rw [failureScript, phase]
      cases counted with
      | unused closed => rw [phase] at closed; cases closed
      | counting closed => rw [phase] at closed; cases closed
      | opened _ enough => exact .opened phase (Nat.le_succ_of_le enough)
  | halfOpen =>
      cases counted with
      | unused closed => rw [phase] at closed; cases closed
      | counting closed => rw [phase] at closed; cases closed
      | opened open' => rw [phase] at open'; cases open'
  | closed =>
      have reads := counted.read_failures phase before
      rcases failureScript_of_closed options timed.clock nowMs phase with
        ⟨enough, result⟩ | ⟨fewer, result⟩
      · rw [result]
        rw [reads] at enough
        exact .opened rfl (by exact_mod_cast enough)
      · rw [result]
        rw [reads] at fewer
        refine .counting phase ?_ withinWindow (by exact_mod_cast fewer)
        change (timed.keys.failures.incrBy timed.clock 1).pexpire _ _ = _
        rw [Key.pexpire_incrBy, reads]
        rfl

end Counted

/-- The clock of the server does not run back. -/
theorem clock_le_of_explains
    {first last : TimedKeys}
    {log : List (LogEntry Nat Database.Reply Nat)}
    (explains : Explains (failureCalls options digest) TimedKeys.elapse first log last) :
    first.clock ≤ last.clock := by
  induction log generalizing first with
  | nil =>
      obtain rfl : first = last := explains
      exact Nat.le_refl _
  | cons entry log inductionHypothesis =>
      cases entry with
      | other ms => exact (Nat.le_add_right _ ms).trans (inductionHypothesis explains)
      | executed execution =>
          have later := inductionHypothesis explains.2
          exact later

/-- A log that takes less than a window leads from a closed breaker to one that
has counted every execution. -/
theorem counted_of_explains
    {first last : TimedKeys}
    {count limit : Nat}
    {log : List (LogEntry Nat Database.Reply Nat)}
    (explains : Explains (failureCalls options digest) TimedKeys.elapse first log last)
    (counted : Counted options limit count first)
    (withinWindow : limit ≤ first.clock + options.windowMs)
    (short : last.clock < limit) :
    Counted options limit (count + (log.filterMap LogEntry.call).length) last := by
  induction log generalizing first count with
  | nil =>
      obtain rfl : first = last := explains
      exact counted
  | cons entry log inductionHypothesis =>
      have soFar : first.clock ≤ last.clock := clock_le_of_explains explains
      cases entry with
      | other ms =>
          refine inductionHypothesis explains (counted.elapse ms) ?_
          change limit ≤ first.clock + ms + options.windowMs
          omega
      | executed execution =>
          have counts : Counted options limit (count + 1)
              ((failureCalls options digest).body execution.input first).2 :=
            counted.report (Nat.lt_of_le_of_lt soFar short) withinWindow
              execution.input
          have rest := inductionHypothesis explains.2 counts withinWindow
          rw [Nat.add_right_comm] at rest
          exact rest

end Counting

section Reports

variable {options : CircuitBreakerOptions} {digest : String}

/-- A breaker that was never used, on a server at some time. -/
def unusedAt (clock : Nat) : TimedKeys := { clock := clock, keys := {} }

/-- The calls of these ids have returned. -/
def Returned
    (system : System Nat TimedKeys Database.Reply String Nat)
    (ids : List Nat) :
    Prop :=
  ∀ id ∈ ids, ∃ call value,
    system.calls id = some call ∧ call.phase = .returned value

/-- Failure reports overlap, scripts are lost, commands are given up or sent again, and
all of it takes less than a window: the breaker is open once as many reports have
returned as the threshold says, and closed as long as fewer were made, counting a report
once more for each time that its command was sent again. -/
theorem phase_of_reports
    (options : CircuitBreakerOptions)
    (digest : String)
    (clock : Nat)
    {events : List (Database.Event Nat Nat)}
    (quiet : ∀ event ∈ events, event.Quiet) :
    let final := runFrom
      (System.step (failureCalls options digest) TimedKeys.elapse)
      (System.initial (unusedAt clock)) events
    final.data.clock < clock + options.windowMs →
      (∀ ids : List Nat, ids.Nodup → Returned final ids →
        options.failureThreshold ≤ ids.length →
        final.data.keys.phase = .opened) ∧
      ((∀ ids : List Nat, ids.Nodup →
        (∀ id ∈ ids, (final.calls id).isSome = true) →
        ids.length + events.countP Database.Event.isResend <
          options.failureThreshold) →
        final.data.keys.phase = .closed) := by
  intro final short
  have sound : final.Sound (failureCalls options digest) TimedKeys.elapse
      (unusedAt clock) :=
    Database.sound_runFrom (failureCalls_distinguishable options digest)
      (unusedAt clock) quiet
  have counted : Counted options (clock + options.windowMs)
      (0 + (final.log.filterMap LogEntry.call).length) final.data :=
    counted_of_explains sound.explains (.unused rfl rfl) (Nat.le_refl _) short
  rw [Nat.zero_add] at counted
  constructor
  · intro ids nodup returned enough
    have logged : ids ⊆ final.log.filterMap LogEntry.call := by
      intro id isId
      obtain ⟨call, value, isCall, isReturned⟩ := returned id isId
      exact sound.mem_calls isCall isReturned
    have reached := enough.trans (nodup.length_le_of_subset logged)
    have positive := options.failureThreshold_pos
    generalize (final.log.filterMap LogEntry.call).length = count at counted reached
    cases counted with
    | opened phase => exact phase
    | unused phase failures => omega
    | counting phase failures outlives fewer => omega
  · intro allFewer
    obtain ⟨ids, nodup, made, logged⟩ := Database.exists_calls_of_log TimedKeys.elapse
      (failureCalls_distinguishable options digest) (unusedAt clock) quiet
    have fewer := logged.trans_lt (allFewer ids nodup made)
    change (final.log.filterMap LogEntry.call).length < _ at fewer
    generalize (final.log.filterMap LogEntry.call).length = count at counted fewer
    cases counted with
    | opened phase enough => omega
    | unused phase => exact phase
    | counting phase => exact phase

/-- A breaker that opens with its second failure. -/
def impatient : CircuitBreakerOptions where
  failureThreshold := 2
  successThreshold := 2
  timeoutMs := 30000
  windowMs := 60000
  halfOpenMaxProbes := 1
  failureThreshold_pos := Nat.two_pos
  successThreshold_pos := Nat.two_pos
  timeoutMs_pos := CircuitBreakerOptions.default.timeoutMs_pos
  windowMs_pos := CircuitBreakerOptions.default.windowMs_pos
  halfOpenMaxProbes_pos := Nat.one_pos

/-- Two reports, of which the script of the first is flushed before it is called by
digest. -/
def flushedReports : List (Database.Event Nat Nat) :=
  [.run 0 0 7, .serve 0, .deliver 0, .flush, .serve 0, .other 5, .deliver 0,
    .serve 0, .deliver 0, .run 1 1 9, .serve 1, .deliver 1, .serve 1, .deliver 1]

theorem phase_of_reports_flushed :
    (runFrom (System.step (failureCalls impatient "f00d") TimedKeys.elapse)
      (System.initial (unusedAt 100)) flushedReports).data.keys.phase = .opened := by
  have quiet : ∀ event ∈ flushedReports, event.Quiet := by
    simp [flushedReports, Database.Event.Quiet]
  refine (phase_of_reports impatient "f00d" 100 quiet
    (by decide)).1 [0, 1] (by decide) ?_ (Nat.le_refl 2)
  intro id isId
  rcases List.mem_cons.1 isId with rfl | isOther
  · exact ⟨{ process := 0, input := 7, phase := .returned "CLOSED" }, "CLOSED", rfl, rfl⟩
  · obtain rfl := List.mem_singleton.1 isOther
    exact ⟨{ process := 1, input := 9, phase := .returned "OPEN" }, "OPEN", rfl, rfl⟩

end Reports

end CircuitBreaker
end AiGateway
