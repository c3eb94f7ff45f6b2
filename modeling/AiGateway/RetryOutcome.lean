import AiGateway.Retry
import Mathlib.Data.List.Range

/-!
# What a retry comes to

A retry that is never aborted calls its function until the first attempt that
succeeds, fails for good or is the last. The whole number of milliseconds it waits
in between stays below the exponential cap, except where the power of two is
infinite. From the 1025th attempt on a base delay of zero makes the delay no
number, and a tiny one leaves only the upper bound. The main theorem says when that
does not matter, for jitters that are doubles.
-/

namespace AiGateway
namespace Retry

open Foundations

section Delays

variable {base bound : Double} {attempt : Nat}

/-- A delay is a whole number of milliseconds, up to a limit. -/
def WholeUpTo (limit : ℚ) (delay : Number) : Prop :=
  ∃ milliseconds : Nat, delay = .finite milliseconds ∧ milliseconds ≤ limit

/-- The cap before the power of two overflows. -/
theorem exponentialCap_of_small
    (base bound : Double)
    (small : attempt - 1 < 1024) :
    ∃ cap : Double, exponentialCap base bound attempt = .finite cap.value ∧
      cap.value = min bound.value (base.value * 2 ^ (attempt - 1)) := by
  have precise : HasDoublePrecision (base.value * 2 ^ (attempt - 1)) :=
    hasDoublePrecision_mul_two_pow base.precise _
  rw [exponentialCap, Number.powerOfTwo_of_lt small, Number.times]
  rcases lt_or_ge (base.value * 2 ^ (attempt - 1)) (2 ^ 1024) with finite | large
  · let scaled : Double := ⟨_, precise, finite⟩
    rw [Number.ofExact_of_lt precise finite]
    rcases min_choice bound.value scaled.value with isBound | isScaled
    · exact ⟨bound, congrArg Number.finite isBound, isBound.symm⟩
    · exact ⟨scaled, congrArg Number.finite isScaled, isScaled.symm⟩
  · rw [Number.ofExact_of_le precise large]
    exact ⟨bound, rfl, (min_eq_left (bound.finite.le.trans large)).symm⟩

/-- The cap after the power of two has overflowed. -/
theorem exponentialCap_of_large
    (base bound : Double)
    (large : 1024 ≤ attempt - 1) :
    exponentialCap base bound attempt =
      if base.value = 0 then .nan else .finite bound.value := by
  rw [exponentialCap, Number.powerOfTwo_of_le large, Number.times]
  split_ifs
  · rfl
  · rfl

/-- No double below one is larger than the largest. -/
theorem le_largestFraction (fraction : JitterFraction) :
    fraction.1.value ≤ largestFraction.1.value := by
  by_contra above
  have isLargest : largestFraction.1.value = 1 - 2 ^ (-53 : Int) := by
    norm_num [largestFraction, JitterFraction.ofPrecise]
  have half : (2 : ℚ) ^ (-1 : Int) ≤ largestFraction.1.value := by
    rw [isLargest]
    norm_num
  have unitHalf : doublePrecision.unit (2 ^ (-1 : Int)) = 2 ^ (-53 : Int) := by
    have log : Int.log 2 ((2 : ℚ) ^ (-1 : Int)) = -1 := Int.log_zpow (by norm_num) (-1)
    rw [Format.unit, Format.lastDigit, doublePrecision, log]
    norm_num
  have unitLe := doublePrecision.unit_mono (by positivity) half
  have next := largestFraction.1.precise.add_unit_le fraction.1.precise
    (lt_of_lt_of_le (by positivity) half) (not_le.1 above)
  rw [unitHalf] at unitLe
  have belowOne := fraction.2
  linarith

/-- The longest delay under a cap: the one for the largest jitter. -/
def longestDelay (cap : Double) : Int :=
  ⌊nearest (largestFraction.1.value * cap.value)⌋

theorem longestDelay_le (cap : Double) : longestDelay cap ≤ ⌊cap.value⌋ :=
  Int.floor_le_floor (Number.times_fraction cap largestFraction.1.precise.nonneg
    largestFraction.2.le).2.2

theorem jitteredDelay_of_cap
    {cap : Double}
    (isCap : exponentialCap base bound attempt = .finite cap.value)
    (fraction : JitterFraction) :
    jitteredDelay base bound fraction attempt =
      .finite ⌊nearest (fraction.1.value * cap.value)⌋ := by
  rw [jitteredDelay, isCap, (Number.times_fraction cap fraction.1.precise.nonneg
    fraction.2.le).1, Number.floor]

/-- A jittered delay is a whole number up to the longest one. -/
theorem wholeUpTo_of_cap
    {cap : Double}
    (isCap : exponentialCap base bound attempt = .finite cap.value)
    (fraction : JitterFraction) :
    WholeUpTo (longestDelay cap) (jitteredDelay base bound fraction attempt) := by
  have product : 0 ≤ fraction.1.value * cap.value :=
    mul_nonneg fraction.1.precise.nonneg cap.precise.nonneg
  have whole : 0 ≤ ⌊nearest (fraction.1.value * cap.value)⌋ :=
    Int.floor_nonneg.2 (nearest_nonneg product)
  have atMost : ⌊nearest (fraction.1.value * cap.value)⌋ ≤ longestDelay cap := by
    apply Int.floor_le_floor
    apply nearest_mono product
    exact mul_le_mul_of_nonneg_right (le_largestFraction fraction) cap.precise.nonneg
  refine ⟨⌊nearest (fraction.1.value * cap.value)⌋.toNat, ?_, ?_⟩
  · rw [jitteredDelay_of_cap isCap]
    congr 1
    exact_mod_cast (Int.toNat_of_nonneg whole).symm
  · exact_mod_cast (Int.toNat_of_nonneg whole).le.trans atMost

/-- The exponential cap is met while the power of two is finite. -/
theorem wholeUpTo_of_small
    (small : attempt - 1 < 1024)
    (fraction : JitterFraction) :
    WholeUpTo (min bound.value (base.value * 2 ^ (attempt - 1)))
      (jitteredDelay base bound fraction attempt) := by
  obtain ⟨cap, isCap, capValue⟩ := exponentialCap_of_small base bound small
  obtain ⟨milliseconds, isDelay, atMost⟩ := wholeUpTo_of_cap isCap fraction
  have belowCap : (longestDelay cap : ℚ) ≤ cap.value :=
    le_trans (by exact_mod_cast longestDelay_le cap) (Int.floor_le cap.value)
  exact ⟨milliseconds, isDelay, (atMost.trans belowCap).trans_eq capValue⟩

/-- It is met after that if the base delay reaches the longest delay under the upper
bound. -/
theorem wholeUpTo_of_reaches
    (large : 1024 ≤ attempt - 1)
    (positive : 0 < base.value)
    (reaches : longestDelay bound ≤ base.value * 2 ^ (attempt - 1))
    (fraction : JitterFraction) :
    WholeUpTo (min bound.value (base.value * 2 ^ (attempt - 1)))
      (jitteredDelay base bound fraction attempt) := by
  have cap := exponentialCap_of_large base bound large
  rw [if_neg positive.ne'] at cap
  obtain ⟨milliseconds, isDelay, atMost⟩ := wholeUpTo_of_cap cap fraction
  have belowBound : (longestDelay bound : ℚ) ≤ bound.value :=
    le_trans (by exact_mod_cast longestDelay_le bound) (Int.floor_le bound.value)
  exact ⟨milliseconds, isDelay,
    le_min (atMost.trans belowBound) (atMost.trans reaches)⟩

/-- After the overflow, a base delay of zero makes the delay no number. -/
theorem jitteredDelay_of_zero
    (large : 1024 ≤ attempt - 1)
    (isZero : base.value = 0)
    (fraction : JitterFraction) :
    jitteredDelay base bound fraction attempt = .nan := by
  rw [jitteredDelay, exponentialCap_of_large base bound large, if_pos isZero]
  rfl

/-- After the overflow, only the upper bound limits the longest delay. -/
theorem reaches_of_wholeUpTo
    (large : 1024 ≤ attempt - 1)
    (positive : 0 < base.value)
    (allWhole : ∀ fraction, WholeUpTo
      (min bound.value (base.value * 2 ^ (attempt - 1)))
      (jitteredDelay base bound fraction attempt)) :
    longestDelay bound ≤ base.value * 2 ^ (attempt - 1) := by
  have cap := exponentialCap_of_large base bound large
  rw [if_neg positive.ne'] at cap
  obtain ⟨milliseconds, isDelay, atMost⟩ := allWhole largestFraction
  rw [jitteredDelay_of_cap cap, Number.finite.injEq] at isDelay
  rw [longestDelay, isDelay]
  exact atMost.trans (min_le_right _ _)

/-- The delay after an attempt is a whole number up to the exponential cap for
every jitter, unless the power of two overflows with a base delay of zero or too
small to reach the longest delay under the upper bound. -/
theorem wholeUpTo_jitteredDelay_iff :
    (∀ fraction, WholeUpTo
        (min bound.value (base.value * 2 ^ (attempt - 1)))
        (jitteredDelay base bound fraction attempt)) ↔
      attempt - 1 < 1024 ∨
        0 < base.value ∧ longestDelay bound ≤ base.value * 2 ^ (attempt - 1) := by
  constructor
  · intro allWhole
    rcases Nat.lt_or_ge (attempt - 1) 1024 with small | large
    · exact .inl small
    · rcases base.precise.nonneg.eq_or_lt with isZero | positive
      · obtain ⟨milliseconds, isDelay, -⟩ := allWhole largestFraction
        rw [jitteredDelay_of_zero large isZero.symm] at isDelay
        cases isDelay
      · exact .inr ⟨positive, reaches_of_wholeUpTo large positive allWhole⟩
  · rintro capHolds fraction
    rcases Nat.lt_or_ge (attempt - 1) 1024 with small | large
    · exact wholeUpTo_of_small small fraction
    · rcases capHolds with small | ⟨positive, reaches⟩
      · exact wholeUpTo_of_small small fraction
      · exact wholeUpTo_of_reaches large positive reaches fraction

end Delays

section Attempts

variable {α : Type} (settings : Settings) (fn : Nat → Except Failure α)

/-- An attempt fails with an error that may be retried. -/
def FailsRetryably (attempt : Nat) : Prop :=
  ∃ error, fn attempt = .error error ∧ settings.isRetryable error = true

/-- What happens in an attempt after which there is another one. -/
def retriedEffects (attempt : Nat) : List Effect :=
  match fn attempt with
  | .ok _ => [.call attempt]
  | .error error =>
      [.call attempt, .onRetry attempt (settings.delayMs attempt) error,
        .wait (settings.delayMs attempt)]

/-- The signal is never aborted, and no error of the function is an
`AbortError`. -/
structure Undisturbed : Prop where
  neverAborted : ∀ moment, settings.reasonAt moment = none
  noAbortError : ∀ attempt error,
    fn attempt = .error error → isAbortError error = false

/-- What comes of the last attempt: its value, its error as it is if that may not
be retried, and otherwise a `RetryError` with the number of attempts. -/
def finalResult (last : Nat) : Except Rejection α :=
  match fn last with
  | .ok value => .ok value
  | .error error =>
      if settings.isRetryable error then .error (.retryError ⟨last, some error⟩)
      else .error (.failure error)

/-- The attempts from `first` on end with the attempt `last`. -/
structure EndsAt (first last : Nat) (run : Program α) : Prop where
  first_le : first ≤ last
  le_maxAttempts : last ≤ settings.maxAttempts
  failed : ∀ attempt, first ≤ attempt → attempt < last →
    FailsRetryably settings fn attempt
  /-- Only when no attempt is left, the last one may be one to retry. -/
  exhausted : FailsRetryably settings fn last → last = settings.maxAttempts
  effects : run.effects =
    (List.range' first (last - first)).flatMap (retriedEffects settings fn) ++
      [.call last]
  result : run.result = finalResult settings fn last

variable {settings fn}

/-- An attempt that is retried is followed by the later attempts. -/
theorem attemptLoop_of_retried
    (undisturbed : Undisturbed settings fn)
    {attempt : Nat}
    (failed : FailsRetryably settings fn attempt)
    (isNotLast : attempt < settings.maxAttempts)
    (later : List Nat)
    (lastError : Option Failure) :
    ∃ error, (attemptLoop settings fn (attempt :: later) lastError).effects =
        retriedEffects settings fn attempt ++
          (attemptLoop settings fn later (some error)).effects ∧
      (attemptLoop settings fn (attempt :: later) lastError).result =
        (attemptLoop settings fn later (some error)).result := by
  obtain ⟨error, isError, retryable⟩ := failed
  refine ⟨error, ?_⟩
  have noAbort := undisturbed.noAbortError attempt error isError
  rw [attemptLoop]
  simp only [undisturbed.neverAborted, isError, noAbort, retryable, isNotLast,
    retriedEffects, delay]
  constructor
  · rfl
  · rfl

/-- An attempt that is not retried is the last. -/
theorem attemptLoop_of_not_retried
    (undisturbed : Undisturbed settings fn)
    (attempt : Nat)
    (notRetried : FailsRetryably settings fn attempt →
      settings.maxAttempts ≤ attempt)
    (later : List Nat)
    (lastError : Option Failure) :
    attemptLoop settings fn (attempt :: later) lastError =
      ⟨finalResult settings fn attempt, [.call attempt]⟩ := by
  rw [attemptLoop, finalResult]
  cases outcome : fn attempt with
  | ok value =>
      simp only [undisturbed.neverAborted]
      rfl
  | error error =>
      have noAbort := undisturbed.noAbortError attempt error outcome
      cases retryable : settings.isRetryable error with
      | false =>
          simp only [undisturbed.neverAborted, noAbort, retryable]
          rfl
      | true =>
          have isLast : ¬ attempt < settings.maxAttempts :=
            Nat.not_lt.2 (notRetried ⟨error, outcome, retryable⟩)
          simp only [undisturbed.neverAborted, noAbort, retryable, isLast]
          rfl

/-- The attempts end with the first if that is not retried. -/
theorem endsAt_first
    (undisturbed : Undisturbed settings fn)
    {first : Nat}
    (inBounds : first ≤ settings.maxAttempts)
    (notRetried : FailsRetryably settings fn first →
      first = settings.maxAttempts)
    (later : List Nat)
    (lastError : Option Failure) :
    EndsAt settings fn first first
      (attemptLoop settings fn (first :: later) lastError) := by
  have run := attemptLoop_of_not_retried undisturbed first
    (fun fails => (notRetried fails).ge) later lastError
  rw [run]
  refine ⟨le_rfl, inBounds, fun attempt after before => ?_, notRetried, ?_, rfl⟩
  · omega
  · rw [Nat.sub_self, List.range'_zero, List.flatMap_nil, List.nil_append]

/-- An attempt that is retried comes before the others. -/
theorem EndsAt.retried
    {first last : Nat}
    {run laterRun : Program α}
    (ends : EndsAt settings fn (first + 1) last laterRun)
    (failed : FailsRetryably settings fn first)
    (effects : run.effects =
      retriedEffects settings fn first ++ laterRun.effects)
    (result : run.result = laterRun.result) :
    EndsAt settings fn first last run := by
  have later := ends.first_le
  refine ⟨by omega, ends.le_maxAttempts, fun attempt after before => ?_,
    ends.exhausted, ?_, ?_⟩
  · rcases after.eq_or_lt with rfl | after
    · exact failed
    · exact ends.failed attempt after before
  · have attempts : last - first = (last - (first + 1)) + 1 := by omega
    rw [effects, ends.effects, attempts, List.range'_succ, List.flatMap_cons,
      List.append_assoc]
  · rw [result, ends.result]

/-- The loop over the attempts from `first` on ends with one of them. -/
theorem exists_endsAt
    (undisturbed : Undisturbed settings fn)
    (first count : Nat)
    (bound : first + count = settings.maxAttempts)
    (lastError : Option Failure) :
    ∃ last, EndsAt settings fn first last
      (attemptLoop settings fn (List.range' first (count + 1)) lastError) := by
  induction count generalizing first lastError with
  | zero =>
      exact ⟨first, endsAt_first undisturbed (by omega) (fun _ => bound) _ _⟩
  | succ count inductionHypothesis =>
      rw [List.range'_succ]
      by_cases failed : FailsRetryably settings fn first
      · obtain ⟨error, effects, result⟩ := attemptLoop_of_retried undisturbed failed
          (by omega) (List.range' (first + 1) (count + 1)) lastError
        obtain ⟨last, ends⟩ :=
          inductionHypothesis (first + 1) (by omega) (some error)
        exact ⟨last, ends.retried failed effects result⟩
      · exact ⟨first, endsAt_first undisturbed (by omega)
          (fun fails => absurd fails failed) _ _⟩

/-- An attempt that is reached only after others that may be retried is not the
last one, if there are more. -/
theorem EndsAt.lt_last
    {first last attempt : Nat}
    {run : Program α}
    (ends : EndsAt settings fn first last run)
    (failed : ∀ earlier, first ≤ earlier → earlier ≤ attempt →
      FailsRetryably settings fn earlier)
    (more : attempt < settings.maxAttempts) :
    attempt < last := by
  by_contra before
  have isLast := ends.exhausted (failed last ends.first_le (by omega))
  omega

end Attempts

section Outcome

variable {α : Type}

/-- A retry ends as it should, and every wait is a whole number of milliseconds up
to the bound on all delays and to the base delay doubled for each attempt
before. -/
def RetriesAsDescribed
    (settings : Settings)
    (fn : Nat → Except Failure α)
    (run : Program α) : Prop :=
  ∃ last, EndsAt settings fn 1 last run ∧
    ∀ attempt, 1 ≤ attempt → attempt < last →
      WholeUpTo
        (min settings.maxDelayMs.value
          (settings.baseDelayMs.value * 2 ^ (attempt - 1)))
        (settings.delayMs attempt)

/-- No attempt whose power of two is infinite is followed by another, or the base
delay reaches the longest delay under the upper bound there. -/
def CapsHold (settings : Settings) (fn : Nat → Except Failure α) : Prop :=
  settings.maxAttempts ≤ 1025 ∨
    (∃ attempt, 1 ≤ attempt ∧ attempt ≤ 1025 ∧
      ¬ FailsRetryably settings fn attempt) ∨
    0 < settings.baseDelayMs.value ∧
      longestDelay settings.maxDelayMs ≤ settings.baseDelayMs.value * 2 ^ 1024

variable {settings : Settings} {fn : Nat → Except Failure α}

/-- The settings with another jitter source. -/
def Settings.withJitter
    (settings : Settings)
    (jitter : Nat → JitterFraction) : Settings :=
  { settings with jitterFraction := jitter }

theorem Undisturbed.exists_endsAt_one
    (undisturbed : Undisturbed settings fn)
    (positive : 1 ≤ settings.maxAttempts) :
    ∃ last, EndsAt settings fn 1 last (retryWith settings fn) := by
  obtain ⟨last, ends⟩ :=
    exists_endsAt undisturbed 1 (settings.maxAttempts - 1) (by omega) none
  rw [Nat.sub_add_cancel positive] at ends
  exact ⟨last, ends⟩

/-- Where the caps hold, every retry is as described. -/
theorem CapsHold.asDescribed
    (hold : CapsHold settings fn)
    (undisturbed : Undisturbed settings fn)
    (positive : 1 ≤ settings.maxAttempts) :
    RetriesAsDescribed settings fn (retryWith settings fn) := by
  obtain ⟨last, ends⟩ := undisturbed.exists_endsAt_one positive
  refine ⟨last, ends, fun attempt isAttempt before => ?_⟩
  apply wholeUpTo_jitteredDelay_iff.2
  rcases Nat.lt_or_ge (attempt - 1) 1024 with small | large
  · exact .inl small
  · rcases hold with few | ⟨other, isOther, early, notRetried⟩ | ⟨base, bound⟩
    · have inBounds := ends.le_maxAttempts
      omega
    · exact absurd (ends.failed other isOther (by omega)) notRetried
    · refine .inr ⟨base, bound.trans ?_⟩
      apply mul_le_mul_of_nonneg_left _ base.le
      exact pow_le_pow_right₀ (by norm_num) large

/-- If every jitter makes a retry as described, the caps hold. -/
theorem capsHold_of_asDescribed
    (described : ∀ jitter, RetriesAsDescribed (settings.withJitter jitter) fn
      (retryWith (settings.withJitter jitter) fn)) :
    CapsHold settings fn := by
  by_contra notHold
  obtain ⟨many, allFail, tooSmall⟩ :
      1025 < settings.maxAttempts ∧
        (∀ attempt, 1 ≤ attempt → attempt ≤ 1025 →
          FailsRetryably settings fn attempt) ∧
        ¬ (0 < settings.baseDelayMs.value ∧
          longestDelay settings.maxDelayMs ≤
            settings.baseDelayMs.value * 2 ^ 1024) := by
    simpa only [CapsHold, not_or, not_le, not_exists, not_and, not_not]
      using notHold
  have allWhole : ∀ fraction, WholeUpTo
      (min settings.maxDelayMs.value
        (settings.baseDelayMs.value * 2 ^ (1025 - 1)))
      (jitteredDelay settings.baseDelayMs settings.maxDelayMs fraction 1025) := by
    intro fraction
    obtain ⟨last, ends, waits⟩ := described fun _ => fraction
    exact waits 1025 (by norm_num) (ends.lt_last allFail many)
  rcases wholeUpTo_jitteredDelay_iff.1 allWhole with small | reaches
  · omega
  · exact tooSmall reaches

/-- Options with a jitter source. -/
def RetryOptions.withJitter
    (options : RetryOptions)
    (jitter : Nat → JitterFraction) : RetryOptions :=
  { options with jitterFraction := some jitter }

/-- Whatever the jitter source, `retry` ends as it should and waits within the
caps. -/
def AlwaysAsDescribed
    (fn : Nat → Except Failure α)
    (defaults : Defaults)
    (options : RetryOptions) : Prop :=
  ∀ jitter, RetriesAsDescribed ((options.withJitter jitter).resolve defaults) fn
    (retry fn defaults (options.withJitter jitter))

/-- A retry that is not aborted calls the function with the numbers from one on, up
to the first attempt that succeeds, may not be retried or is the last; it returns
the value of that attempt, throws its error as it is, or throws a `RetryError` with
the number of attempts. For every jitter source each wait in between is a whole
number of milliseconds within the caps, exactly when there are at most 1025
attempts, or one of the first 1025 is not retried, or the base delay is positive and
reaches the longest delay under the upper bound when it is doubled 1024 times. -/
theorem retry_asDescribed_iff
    (fn : Nat → Except Failure α)
    (defaults : Defaults)
    (options : RetryOptions)
    (undisturbed : Undisturbed (options.resolve defaults) fn)
    (positive : 1 ≤ (options.resolve defaults).maxAttempts) :
    (∀ jitter, ∃ last,
        EndsAt ((options.withJitter jitter).resolve defaults) fn 1 last
          (retry fn defaults (options.withJitter jitter))) ∧
      (AlwaysAsDescribed fn defaults options ↔
        CapsHold (options.resolve defaults) fn) := by
  have stillUndisturbed : ∀ jitter,
      Undisturbed ((options.withJitter jitter).resolve defaults) fn :=
    fun _ => ⟨undisturbed.neverAborted, undisturbed.noAbortError⟩
  refine ⟨fun jitter => ?_, ?_, ?_⟩
  · exact (stillUndisturbed jitter).exists_endsAt_one positive
  · intro described
    exact capsHold_of_asDescribed described
  · intro hold jitter
    have stillHold :
        CapsHold ((options.withJitter jitter).resolve defaults) fn := hold
    exact stillHold.asDescribed (stillUndisturbed jitter) positive

end Outcome

section Policies

/-- An upstream error that may be retried. -/
def unavailable : Failure :=
  .gateway (.provider "upstream" 503 "provider")

/-- Two failures and a success. -/
def recovers (attempt : Nat) : Except Failure String :=
  if attempt < 3 then .error unavailable else .ok "recovered"

/-- The default retry policy. -/
def defaultPolicy : Defaults where
  draws := id

theorem undisturbed_recovers :
    Undisturbed (RetryOptions.resolve {} defaultPolicy) recovers := by
  refine ⟨fun _ => rfl, fun attempt error isError => ?_⟩
  rw [recovers] at isError
  split_ifs at isError
  cases isError
  rfl

/-- Under the default policy, a function that fails twice is retried as described. -/
theorem recovers_asDescribed : AlwaysAsDescribed recovers defaultPolicy {} :=
  (retry_asDescribed_iff recovers defaultPolicy {} undisturbed_recovers
    (by decide)).2.2 (.inl (by decide))

/-- Options for attempts without a pause. -/
def withoutPause : RetryOptions where
  maxAttempts := some 1026
  baseDelayMs := some (.ofNat 0 (by norm_num))

/-- A function that always fails with an error that may be retried. -/
def alwaysFails (_ : Nat) : Except Failure String := .error unavailable

/-- With a base delay of zero, the delay after the 1025th of 1026 attempts is no
number. -/
theorem withoutPause_not_asDescribed :
    (∀ jitter, ((withoutPause.withJitter jitter).resolve defaultPolicy).delayMs
        1025 = .nan) ∧
      ¬ AlwaysAsDescribed alwaysFails defaultPolicy withoutPause := by
  have zero : (withoutPause.resolve defaultPolicy).baseDelayMs.value = 0 :=
    Nat.cast_zero
  constructor
  · intro jitter
    exact jitteredDelay_of_zero (le_refl (1025 - 1)) zero (jitter 1025)
  · intro described
    have hold : CapsHold (withoutPause.resolve defaultPolicy) alwaysFails :=
      capsHold_of_asDescribed described
    rcases hold with few | ⟨attempt, -, -, notRetried⟩ | ⟨positive, -⟩
    · exact absurd few (by decide)
    · exact notRetried ⟨unavailable, rfl, rfl⟩
    · rw [zero] at positive
      exact lt_irrefl 0 positive

end Policies

end Retry
end AiGateway
