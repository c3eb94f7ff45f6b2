import AiGateway.RateLimiter.Tracking
import AiGateway.Foundations.CoveredSet
import Mathlib.Algebra.Order.Floor.Semiring

/-!
# The burst window is inert

An admitted request is added to the RPM set and to the burst set. When the
burst window is not longer than a minute the burst set loses its members no
later than the RPM set, and its limit is not below the RPM limit. So whoever
would exceed the burst limit has exceeded the RPM limit, which is tested first.
No order of the calls or of their times is used.
-/

namespace AiGateway
namespace RateLimiter

open Foundations

/-- Every request in the burst window is in the RPM window. -/
def BurstCovered (windows : Windows) : Prop :=
  CoveredBy windows.burst windows.rpm

/-- The limit of the burst window is not below the RPM limit, unless the latter
is negative. -/
theorem rpmLimit_le_burstLimit
    (config : Config)
    (call : CheckCall)
    (nonneg : 0 ≤ call.limits.rpmLimit) :
    call.limits.rpmLimit ≤ (call.arguments config).burstLimit := by
  have scaled : (call.limits.rpmLimit : Rat) * 1 ≤
      call.limits.rpmLimit * config.rateLimitBurstMultiplier :=
    mul_le_mul_of_nonneg_left config.one_le_multiplier
      (Int.cast_nonneg nonneg)
  rw [mul_one] at scaled
  have product : (call.limits.rpmLimit : Rat) ≤ call.burstProduct config := by
    rw [CheckCall.burstProduct]
    split_ifs with small
    · -- the limit is a double, which rounding does not pass
      have precise := hasDoublePrecision_natCast small
      rw [Nat.cast_natAbs, abs_of_nonneg nonneg] at precise
      exact Format.le_round precise (precise.nonneg.trans scaled) scaled
    · exact scaled
  exact_mod_cast product.trans (Int.le_ceil _)

section ShortWindow

variable {config : Config}
  (bursts : config.rateLimitBurstEnabled = true)
  (short : config.rateLimitBurstWindowMs ≤ oneMinuteMs)

include bursts short

/-- Eviction removes a request from the burst set if it removes it from the RPM
set. -/
theorem BurstCovered.measured
    {windows : Windows}
    (covered : BurstCovered windows)
    (call : CheckCall) :
    BurstCovered (measured config windows call).windows := by
  rw [BurstCovered, rpm_measured, burst_measured, if_pos bursts]
  exact CoveredBy.zremrangebyscore covered call.clock 0 (by omega)

/-- An admitted request is added to both sets. -/
theorem BurstCovered.record
    {windows : Windows}
    (covered : BurstCovered windows)
    (call : CheckCall) :
    BurstCovered (record call.clock (call.arguments config)
      (RateLimiter.measured config windows call)) := by
  have enabled : (call.arguments config).burstEnabled = 1 :=
    if_pos bursts
  rw [BurstCovered, RateLimiter.record]
  dsimp only
  rw [if_pos enabled]
  exact CoveredBy.zadd_pexpire (covered.measured bursts short call) _ _ _
    (Nat.add_le_add_right short 1000)

/-- One call keeps the burst set covered, whatever it answers. -/
theorem BurstCovered.check
    {windows : Windows}
    (covered : BurstCovered windows)
    (call : CheckCall) :
    BurstCovered (check config windows call).2 := by
  by_cases enabled : config.rateLimitEnabled = true
  · cases decided : verdict config windows call with
    | none =>
        rw [check_windows_of_admitted enabled decided]
        exact covered.record bursts short call
    | some reason =>
        rw [check_windows_of_rejected enabled decided]
        exact covered.measured bursts short call
  · rw [RateLimiter.check, if_neg enabled]
    exact covered

/-- While the burst set is covered, no call is rejected for it. -/
theorem BurstCovered.verdict_ne_burst
    {windows : Windows}
    (covered : BurstCovered windows)
    (call : CheckCall) :
    verdict config windows call ≠ some .burst := by
  have counts : (RateLimiter.measured config windows call).burstCount ≤
      (RateLimiter.measured config windows call).rpmCount := by
    have bounded := (covered.measured bursts short call).zcard_le call.clock
    have enabled : (call.arguments config).burstEnabled = 1 := if_pos bursts
    change (if (call.arguments config).burstEnabled = 1 then
      Key.zcard call.clock
        (RateLimiter.measured config windows call).windows.burst else 0) ≤ _
    rw [if_pos enabled]
    exact bounded
  have limits := rpmLimit_le_burstLimit config call
  intro rejected
  unfold verdict decision at rejected
  split at rejected
  · cases rejected
  · rename_i belowRpm
    change ¬call.limits.rpmLimit ≤ _ at belowRpm
    split at rejected
    · rename_i overBurst
      have reached := overBurst.2
      omega
    · split at rejected <;> cases rejected

end ShortWindow

/-- The keys after a list of calls on one API key. -/
def keysAfter (config : Config) (calls : List CheckCall) : Windows :=
  runFrom (fun windows call => (check config windows call).2) {} calls

/-- The burst set stays covered through any run. -/
theorem burstCovered_keysAfter
    {config : Config}
    (bursts : config.rateLimitBurstEnabled = true)
    (short : config.rateLimitBurstWindowMs ≤ oneMinuteMs)
    (calls : List CheckCall) :
    BurstCovered (keysAfter config calls) := by
  unfold keysAfter
  induction calls using List.reverseRecOn with
  | nil => exact CoveredBy.of_none none
  | append_singleton calls call inductionHypothesis =>
      rw [runFrom_concat]
      exact inductionHypothesis.check bursts short call

/-- No call of any run is rejected for the burst window, when that window is
not longer than a minute. -/
theorem burst_never_rejects
    (config : Config)
    (bursts : config.rateLimitBurstEnabled = true)
    (short : config.rateLimitBurstWindowMs ≤ oneMinuteMs)
    (calls : List CheckCall)
    (call : CheckCall) :
    (check config (keysAfter config calls) call).1.reason ≠ some .burst := by
  by_cases enabled : config.rateLimitEnabled = true
  · rw [(check_reason enabled _ call).1]
    exact (burstCovered_keysAfter bursts short calls).verdict_ne_burst
      bursts short call
  · rw [check, if_neg enabled]
    rintro ⟨⟩

/-- Two calls out of the order of their times, with different limits, do not
meet the burst limit of the third. -/
theorem burst_never_rejects_default :
    (check Config.default
      (keysAfter Config.default
        [⟨5000, 5000, "a", ⟨3, 100, 1⟩⟩, ⟨5001, 4000, "b", ⟨2, 100, 1⟩⟩])
      ⟨5002, 5002, "c", ⟨1, 100, 1⟩⟩).1.reason ≠ some .burst :=
  burst_never_rejects Config.default rfl (by decide) _ _

end RateLimiter
end AiGateway
