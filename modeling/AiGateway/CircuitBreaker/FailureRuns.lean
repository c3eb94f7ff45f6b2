import AiGateway.CircuitBreaker.Scripts
import Mathlib.Data.List.Chain
import Mathlib.Data.List.Infix

/-!
# The run of failures that opens a breaker

A closed breaker keeps no history, only a counter of failures that lapses and
that a success deletes. It opens for the first time exactly when the history of
the calls ends with as many failures as the threshold, without a success between
them and each less than the window after the previous one.
-/

namespace AiGateway
namespace CircuitBreaker

open Foundations

section Model

/-- The time of a failure report. -/
def BreakerCall.failureTime : BreakerCall → Option Nat
  | .recordFailure clock _ => some clock
  | _ => none

/-- The call reports a success. -/
def BreakerCall.IsSuccess (call : BreakerCall) : Prop :=
  ∃ clock, call = .recordSuccess clock

variable (options : CircuitBreakerOptions)

/-- The calls end with failures at these times, with no success between them and
each less than the window after the previous one. -/
def EndWithFailures (calls : List BreakerCall) (times : List Nat) : Prop :=
  ∃ before run, calls = before ++ run ∧
    (∀ call ∈ run, ¬ call.IsSuccess) ∧
    run.filterMap BreakerCall.failureTime = times ∧
    times.IsChain fun previous next => next < previous + options.windowMs

/-- The last call is a failure, with which the calls end with as many failures as
the threshold. -/
def CompletesFailures (calls : List BreakerCall) : Prop :=
  (∃ before clock nowMs, calls = before ++ [.recordFailure clock nowMs]) ∧
    ∃ times, EndWithFailures options calls times ∧
      times.length = options.failureThreshold

/-- The keys after calls on a breaker that was never used. -/
def keysAfter (calls : List BreakerCall) : BreakerKeys :=
  runFrom (apply options) {} calls

/-- The calls end with failures that one more failure would continue. -/
def Continuable
    (calls : List BreakerCall)
    (clock : Nat)
    (times : List Nat) : Prop :=
  EndWithFailures options calls times ∧
    ∀ last ∈ times.getLast?, clock < last + options.windowMs

/-- The largest number of failures that one more failure would continue. -/
structure Longest
    (calls : List BreakerCall)
    (clock : Nat)
    (count : Int) : Prop where
  attained : ∃ times, Continuable options calls clock times ∧
    (times.length : Int) = count
  bound : ∀ times, Continuable options calls clock times →
    (times.length : Int) ≤ count

/-- A breaker that was closed all along counts the failures that one more would
continue. -/
structure Counting (calls : List BreakerCall) (keys : BreakerKeys) : Prop where
  phase : keys.phase = .closed
  counted : ∀ clock,
    Longest options calls clock ((keys.failures.read clock).getD 0)
  fewer : ∀ clock,
    (keys.failures.read clock).getD 0 < options.failureThreshold

end Model

section Histories

variable {options : CircuitBreakerOptions} {calls : List BreakerCall}
  {times : List Nat}

/-- Any calls end with no failures. -/
theorem endWithFailures_nil (calls : List BreakerCall) :
    EndWithFailures options calls [] :=
  ⟨calls, [], (List.append_nil calls).symm, by simp, rfl, .nil⟩

/-- The failures at the end after one more call. -/
theorem endWithFailures_concat {call : BreakerCall} :
    EndWithFailures options (calls ++ [call]) times ↔
      times = [] ∨ ¬ call.IsSuccess ∧
        ∃ earlier, EndWithFailures options calls earlier ∧
          times = earlier ++ call.failureTime.toList ∧
          times.IsChain fun previous next => next < previous + options.windowMs := by
  constructor
  · rintro ⟨before, run, split, noSuccess, rfl, chain⟩
    cases run using List.reverseRecOn with
    | nil => exact .inl rfl
    | append_singleton run last =>
        rw [← List.append_assoc] at split
        obtain ⟨rfl, rfl⟩ := List.append_singleton_inj.1 split
        have isEnd : (run ++ [call]).filterMap BreakerCall.failureTime =
            run.filterMap BreakerCall.failureTime ++ call.failureTime.toList := by
          rw [List.filterMap_append]
          cases call <;> rfl
        rw [isEnd] at chain ⊢
        exact .inr ⟨noSuccess call (by simp), _,
          ⟨before, run, rfl, fun other isOther =>
            noSuccess other (List.mem_append_left _ isOther), rfl,
            chain.left_of_append⟩, rfl, chain⟩
  · rintro (rfl | ⟨noSuccess, _, ⟨before, run, rfl, none, rfl, -⟩, rfl, chain⟩)
    · exact endWithFailures_nil _
    · refine ⟨before, run ++ [call], by rw [List.append_assoc], ?_, ?_, chain⟩
      · intro other isOther
        rcases List.mem_append.1 isOther with isOld | isNew
        · exact none other isOld
        · rwa [List.mem_singleton.1 isNew]
      · rw [List.filterMap_append]
        cases call <;> rfl

/-- Calls that report nothing do not count. -/
theorem endWithFailures_neutral
    {call : BreakerCall}
    (noSuccess : ¬ call.IsSuccess)
    (noFailure : call.failureTime = none) :
    EndWithFailures options (calls ++ [call]) times ↔
      EndWithFailures options calls times := by
  rw [endWithFailures_concat, noFailure, Option.toList_none]
  constructor
  · rintro (rfl | ⟨-, earlier, ends, rfl, -⟩)
    · exact endWithFailures_nil _
    · rwa [List.append_nil]
  · intro ends
    refine .inr ⟨noSuccess, times, ends, (List.append_nil times).symm, ?_⟩
    obtain ⟨-, -, -, -, -, chain⟩ := ends
    exact chain

/-- After a success there are none. -/
theorem endWithFailures_success {clock : Nat} :
    EndWithFailures options (calls ++ [.recordSuccess clock]) times ↔
      times = [] := by
  rw [endWithFailures_concat]
  exact or_iff_left fun ended => ended.1 ⟨clock, rfl⟩

/-- A failure continues those that it is in time for. -/
theorem endWithFailures_failure {clock nowMs : Nat} :
    EndWithFailures options (calls ++ [.recordFailure clock nowMs]) times ↔
      times = [] ∨ ∃ earlier, Continuable options calls clock earlier ∧
        times = earlier ++ [clock] := by
  rw [endWithFailures_concat]
  refine or_congr_right ⟨?_, ?_⟩
  · rintro ⟨-, earlier, ends, rfl, chain⟩
    refine ⟨earlier, ⟨ends, fun last isLast => ?_⟩, rfl⟩
    exact (List.isChain_append.1 chain).2.2 last isLast clock rfl
  · rintro ⟨earlier, ⟨ends, inTime⟩, rfl⟩
    refine ⟨?_, earlier, ends, rfl, ?_⟩
    · rintro ⟨_, ⟨⟩⟩
    · obtain ⟨-, -, -, -, -, chain⟩ := ends
      refine chain.append (.singleton clock) fun last isLast next isNext => ?_
      obtain rfl := Option.some_inj.1 isNext
      exact inTime last isLast

theorem continuable_nil (calls : List BreakerCall) (clock : Nat) :
    Continuable options calls clock [] :=
  ⟨endWithFailures_nil calls, by simp⟩

/-- With no failures at the end, none is continued. -/
theorem longest_zero
    {clock : Nat}
    (only : ∀ times, Continuable options calls clock times → times = []) :
    Longest options calls clock 0 where
  attained := ⟨[], continuable_nil calls clock, rfl⟩
  bound times continuable := by
    rw [only times continuable]
    exact Int.le_refl 0

theorem Longest.nonneg
    {clock : Nat}
    {count : Int}
    (longest : Longest options calls clock count) :
    0 ≤ count := by
  obtain ⟨times, -, rfl⟩ := longest.attained
  exact Int.natCast_nonneg _

/-- What one more failure leaves to be continued at a later failure. -/
theorem Longest.recordFailure
    {clock nowMs : Nat}
    {count : Int}
    (longest : Longest options calls clock count)
    (later : Nat) :
    Longest options (calls ++ [.recordFailure clock nowMs]) later
      (if later < clock + options.windowMs then count + 1 else 0) := by
  split_ifs with inTime
  · refine ⟨?_, ?_⟩
    · obtain ⟨times, continuable, rfl⟩ := longest.attained
      refine ⟨times ++ [clock],
        ⟨endWithFailures_failure.2 (.inr ⟨times, continuable, rfl⟩), ?_⟩, ?_⟩
      · rw [List.getLast?_concat]
        rintro last ⟨⟩
        exact inTime
      · rw [List.length_append, List.length_singleton]
        rfl
    · rintro times ⟨ends, -⟩
      rcases endWithFailures_failure.1 ends with rfl | ⟨earlier, continuable, rfl⟩
      · have nonneg := longest.nonneg
        rw [List.length_nil]
        omega
      · have bound := longest.bound earlier continuable
        rw [List.length_append, List.length_singleton]
        omega
  · refine longest_zero fun times => ?_
    rintro ⟨ends, stillInTime⟩
    rcases endWithFailures_failure.1 ends with rfl | ⟨earlier, -, rfl⟩
    · rfl
    · exact absurd (stillInTime clock List.getLast?_concat) inTime

/-- A failure completes as many as the threshold when it continues one less. -/
theorem Longest.completes_iff
    {clock nowMs : Nat}
    {count : Int}
    (longest : Longest options calls clock count)
    (fewer : count < options.failureThreshold) :
    CompletesFailures options (calls ++ [.recordFailure clock nowMs]) ↔
      (options.failureThreshold : Int) ≤ count + 1 := by
  constructor
  · rintro ⟨-, times, ends, length⟩
    have positive := options.failureThreshold_pos
    rcases endWithFailures_failure.1 ends with rfl | ⟨earlier, continuable, rfl⟩
    · rw [List.length_nil] at length
      omega
    · have bound := longest.bound earlier continuable
      rw [List.length_append, List.length_singleton] at length
      omega
  · intro reached
    obtain ⟨times, continuable, isCount⟩ := longest.attained
    refine ⟨⟨calls, clock, nowMs, rfl⟩, times ++ [clock],
      endWithFailures_failure.2 (.inr ⟨times, continuable, rfl⟩), ?_⟩
    rw [List.length_append, List.length_singleton]
    omega

/-- Only a failure completes anything. -/
theorem not_completes {call : BreakerCall} (noFailure : call.failureTime = none) :
    ¬ CompletesFailures options (calls ++ [call]) := by
  rintro ⟨⟨before, clock, nowMs, split⟩, -⟩
  obtain ⟨-, rfl⟩ := List.append_singleton_inj.1 split
  cases noFailure

end Histories

section Counters

variable {options : CircuitBreakerOptions} {calls : List BreakerCall}
  {keys : BreakerKeys}

theorem counting_fresh : Counting options [] {} where
  phase := rfl
  counted clock := longest_zero fun times => by
    rintro ⟨⟨before, run, split, -, rfl, -⟩, -⟩
    rw [(List.append_eq_nil_iff.1 split.symm).2]
    rfl
  fewer _ := Int.natCast_pos.2 options.failureThreshold_pos

/-- A call that reports nothing leaves a closed breaker as it is. -/
theorem Counting.neutral
    (counting : Counting options calls keys)
    {call : BreakerCall}
    (noSuccess : ¬ call.IsSuccess)
    (noFailure : call.failureTime = none) :
    Counting options (calls ++ [call]) keys where
  phase := counting.phase
  counted clock := by
    obtain ⟨⟨times, ⟨ends, inTime⟩, length⟩, bound⟩ := counting.counted clock
    refine ⟨⟨times, ⟨?_, inTime⟩, length⟩, fun others continuable => ?_⟩
    · exact (endWithFailures_neutral noSuccess noFailure).2 ends
    · exact bound others
        ⟨(endWithFailures_neutral noSuccess noFailure).1 continuable.1,
          continuable.2⟩
  fewer := counting.fewer

/-- A call on a breaker that was closed all along opens it if it completes as many
failures as the threshold; otherwise the breaker stays closed and goes on
counting. -/
theorem Counting.step
    (counting : Counting options calls keys)
    {call : BreakerCall}
    (noReset : call ≠ .reset) :
    CompletesFailures options (calls ++ [call]) ∧
        (apply options keys call).phase = .opened ∨
      ¬ CompletesFailures options (calls ++ [call]) ∧
        Counting options (calls ++ [call]) (apply options keys call) := by
  cases call with
  | acquire clock nowMs =>
      refine .inr ⟨not_completes rfl, ?_⟩
      have unchanged : apply options keys (.acquire clock nowMs) = keys := by
        rw [apply, acquireScript, counting.phase]
      rw [unchanged]
      exact counting.neutral (by rintro ⟨_, ⟨⟩⟩) rfl
  | release clock =>
      refine .inr ⟨not_completes rfl, ?_⟩
      have unchanged : apply options keys (.release clock) = keys := by
        rw [apply, releaseScript, counting.phase]
      rw [unchanged]
      exact counting.neutral (by rintro ⟨_, ⟨⟩⟩) rfl
  | recordSuccess clock =>
      refine .inr ⟨not_completes rfl, ?_⟩
      have cleared : apply options keys (.recordSuccess clock) =
          { keys with failures := none } := by
        rw [apply, successScript, counting.phase]
      rw [cleared]
      refine ⟨counting.phase, fun later => ?_, fun _ => ?_⟩
      · exact longest_zero fun times continuable =>
          endWithFailures_success.1 continuable.1
      · exact Int.natCast_pos.2 options.failureThreshold_pos
  | recordFailure clock nowMs =>
      have longest := counting.counted clock
      rw [longest.completes_iff (counting.fewer clock)]
      rcases failureScript_of_closed options clock nowMs counting.phase with
        ⟨reached, result⟩ | ⟨fewer, result⟩
      · refine .inl ⟨reached, ?_⟩
        rw [apply, result]
        rfl
      · refine .inr ⟨Int.not_le.2 fewer, ?_⟩
        have stored : ∀ later,
            ((apply options keys (.recordFailure clock nowMs)).failures.read
              later).getD 0 =
            if later < clock + options.windowMs then
              (keys.failures.read clock).getD 0 + 1 else 0 := by
          intro later
          rw [apply, result, Key.read_pexpire, Key.read_incrBy]
          split_ifs <;> rfl
        refine ⟨?_, fun later => ?_, fun later => ?_⟩
        · rw [apply, result]
          exact counting.phase
        · rw [stored]
          exact longest.recordFailure later
        · have positive := options.failureThreshold_pos
          rw [stored]
          split_ifs <;> omega
  | reset => exact absurd rfl noReset

end Counters

section Runs

variable (options : CircuitBreakerOptions)

/-- Some calls at the beginning of a history were the first to complete as many
failures as the threshold, and opened the breaker; or none did, and the breaker
was closed all along. -/
theorem opened_or_counting
    {calls : List BreakerCall}
    (noReset : .reset ∉ calls) :
    (∃ before, before <+: calls ∧ First (CompletesFailures options) before ∧
        (keysAfter options before).phase = .opened) ∨
      (∀ before, before <+: calls → ¬ CompletesFailures options before) ∧
        Counting options calls (keysAfter options calls) := by
  induction calls using List.reverseRecOn with
  | nil =>
      refine .inr ⟨fun before isBefore => ?_, counting_fresh⟩
      rintro ⟨⟨earlier, clock, nowMs, rfl⟩, -⟩
      simp at isBefore
  | append_singleton calls call inductionHypothesis =>
      rw [List.mem_append, not_or, List.mem_singleton] at noReset
      rcases inductionHypothesis noReset.1 with
        ⟨before, isBefore, first⟩ | ⟨never, counting⟩
      · exact .inl ⟨before, isBefore.trans (List.prefix_append calls _), first⟩
      · have after : keysAfter options (calls ++ [call]) =
            apply options (keysAfter options calls) call := runFrom_concat _ _ _ _
        rcases counting.step (Ne.symm noReset.2) with
          ⟨completes, opened⟩ | ⟨notYet, stillCounting⟩
        · refine .inl ⟨calls ++ [call], List.prefix_refl _,
            ⟨completes, fun before isBefore shorter => ?_⟩, by rw [after, opened]⟩
          exact never before
            ((List.prefix_concat_iff.1 isBefore).resolve_left shorter)
        · refine .inr ⟨fun before isBefore => ?_, by rwa [after]⟩
          rcases List.prefix_concat_iff.1 isBefore with rfl | isEarlier
          · exact notYet
          · exact never before isEarlier

/-- In every history of acquires, releases and reports on a breaker that was never
used, the breaker is first found open exactly after the failure with which the
calls first end with as many failures as the threshold, without a success between
them and each less than the window after the previous one. As long as no call has
done so the breaker is closed. -/
theorem first_opened_iff
    {calls : List BreakerCall}
    (noReset : .reset ∉ calls) :
    (First (fun calls => (keysAfter options calls).phase = .opened) calls ↔
        First (CompletesFailures options) calls) ∧
      ((∀ before, before <+: calls → ¬ CompletesFailures options before) →
        (keysAfter options calls).phase = .closed) := by
  have closed : ∀ before, before <+: calls →
      (∀ earlier, earlier <+: before → ¬ CompletesFailures options earlier) →
        (keysAfter options before).phase = .closed := by
    intro before isBefore never
    have noResetBefore : .reset ∉ before := fun isCall =>
      noReset (isBefore.subset isCall)
    rcases opened_or_counting options noResetBefore with
      ⟨earlier, isEarlier, first, -⟩ | ⟨-, counting⟩
    · exact absurd first.1 (never earlier isEarlier)
    · exact counting.phase
  refine ⟨?_, closed calls (List.prefix_refl calls)⟩
  rcases opened_or_counting options noReset with
    ⟨before, isBefore, first, opened⟩ | ⟨never, counting⟩
  · constructor
    · intro firstOpened
      by_cases same : before = calls
      · rwa [← same]
      · exact absurd opened (firstOpened.2 before isBefore same)
    · intro firstCompletes
      by_cases same : before = calls
      · refine ⟨by rwa [← same], fun shorter isShorter strictly isOpened => ?_⟩
        have isClosed := closed shorter isShorter fun earlier isEarlier =>
          firstCompletes.2 earlier (isEarlier.trans isShorter) fun whole =>
            strictly (isShorter.eq_of_length_le
              (whole ▸ isEarlier.length_le))
        cases isClosed.symm.trans isOpened
      · exact absurd first.1 (firstCompletes.2 before isBefore same)
  · refine ⟨fun firstOpened => ?_, fun firstCompletes => ?_⟩
    · cases counting.phase.symm.trans firstOpened.1
    · exact absurd firstCompletes.1 (never calls (List.prefix_refl calls))

/-- With the default settings the fifth of five failures, none of them a minute
after the previous one, opens the breaker; a request is admitted in between. -/
theorem first_opened_iff_five_failures :
    CompletesFailures .default
      [.recordFailure 0 0, .recordFailure 59999 59999, .acquire 60000 60000,
        .recordFailure 70000 70000, .recordFailure 70001 70001,
        .recordFailure 130000 130000] := by
  refine ((first_opened_iff .default (by decide)).1.1 ⟨by decide, ?_⟩).1
  intro before isBefore
  rw [← List.mem_inits] at isBefore
  revert before
  decide

end Runs

end CircuitBreaker
end AiGateway
