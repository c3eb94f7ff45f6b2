import AiGateway.RateLimiter.BurstInert

/-!
# The wait after a rejection for tokens

A call rejected for the TPM limit is told to wait until the oldest request has
left the token window. Whether its estimate fits then depends on the weights of
all the requests that leave by that time, and on the stored sum, from which the
rejected call has not subtracted what it evicted. This module says, for every
state of the keys, when the wait is long enough.
-/

namespace AiGateway
namespace RateLimiter

open Foundations

/-- The TPM members still in the window at a later call. -/
def tokensLeft (windows : Windows) (retry : CheckCall) :
    List (String × Int) :=
  (windows.tpm.members retry.clock).filter fun stored =>
    !scoreInRange 0 ((retry.nowMs : Int) - oneMinuteMs) stored

/-- The weights of the members that leave the TPM window after one call and by
a later one. -/
def tokensFreed (windows : Windows) (call retry : CheckCall) : Nat :=
  ((((windows.tpm.members retry.clock).filter fun stored =>
    scoreInRange 0 ((retry.nowMs : Int) - oneMinuteMs) stored &&
      !scoreInRange 0 ((call.nowMs : Int) - oneMinuteMs) stored).map
        Prod.fst).filterMap memberTokens).sum

/-- The condition on the keys before the rejected call: at the later one no member is
left in the token window, or the stored sum less the weights of the members that
leave in between has room for the estimate. -/
def WaitSuffices (windows : Windows) (call retry : CheckCall) : Prop :=
  tokensLeft windows retry = [] ∨
    (windows.tpmSum.read retry.clock).getD 0 - tokensFreed windows call retry +
      call.reqTokens ≤ call.limits.tpmLimit

section Again

variable {config : Config} {windows : Windows} {call retry : CheckCall}
  (laterClock : call.clock ≤ retry.clock)
  (later : call.nowMs ≤ retry.nowMs)

include laterClock

/-- The weights that the second call subtracts are those of the members that
left since the first. -/
theorem expiredTokens_again :
    expiredTokens retry.clock (retry.arguments config)
        ((measured config windows call).windows.elapse retry.clock) =
      tokensFreed windows call retry := by
  change ((Key.zrangebyscore retry.clock 0
    ((retry.nowMs : Int) - oneMinuteMs)
      ((measured config windows call).windows.tpm.visible
        retry.clock)).filterMap memberTokens).sum = _
  rw [Key.zrangebyscore_visible, tpm_measured, Key.zrangebyscore,
    Key.members_zremrangebyscore laterClock, List.filter_filter]
  rfl

/-- The first call leaves the stored sum as it was. -/
theorem read_tpmSum_again :
    (measured config windows call).windows.tpmSum.read retry.clock =
      windows.tpmSum.read retry.clock := by
  change Key.read retry.clock (windows.tpmSum.visible call.clock) = _
  rw [Key.read, Key.visible_visible_later _ laterClock]
  rfl

/-- Since the first call no member has come into the burst set. -/
theorem burstCount_measured_again_le :
    (measured config (measured config windows call).windows retry).burstCount ≤
      (measured config windows call).burstCount := by
  change (if (retry.arguments config).burstEnabled = 1 then
      Key.zcard retry.clock (measured config
        (measured config windows call).windows retry).windows.burst else 0) ≤
    if (call.arguments config).burstEnabled = 1 then
      Key.zcard call.clock (measured config windows call).windows.burst else 0
  cases bursts : config.rateLimitBurstEnabled with
  | false => simp [CheckCall.arguments, bursts]
  | true =>
      have enabled (other : CheckCall) : (other.arguments config).burstEnabled = 1 :=
        if_pos bursts
      rw [if_pos (enabled retry), if_pos (enabled call), burst_measured, if_pos bursts,
        Key.zcard, Key.members_zremrangebyscore le_rfl]
      refine (List.length_filter_le _ _).trans ?_
      rcases Key.members_later _ laterClock with gone | same
      · rw [gone]
        exact Nat.zero_le _
      · rw [same, Key.zcard]

/-- A repeated call is not rejected for the burst window, as the first one was not. -/
theorem not_burst_again
    (same : retry.limits = call.limits)
    (rejected : verdict config windows call = some .tpm) :
    ¬((retry.arguments config).burstEnabled = 1 ∧
      (retry.arguments config).burstLimit ≤
        (measured config (measured config windows call).windows
          retry).burstCount) := by
  have sameLimit : (retry.arguments config).burstLimit =
      (call.arguments config).burstLimit := by
    rw [CheckCall.arguments, CheckCall.arguments]
    dsimp only
    rw [CheckCall.burstProduct, CheckCall.burstProduct, same]
  have counts : (measured config (measured config windows call).windows
      retry).burstCount ≤ _ := burstCount_measured_again_le laterClock
  rintro ⟨enabled, full⟩
  unfold verdict decision at rejected
  split at rejected
  · cases rejected
  · rw [if_pos ⟨enabled, by omega⟩] at rejected
    cases rejected

include later

/-- The RPM set of the second call does not depend on the eviction of the
first. -/
theorem rpmCount_measured_again :
    (measured config (measured config windows call).windows retry).rpmCount =
      (windows.rpm.zremrangebyscore retry.clock 0
        ((retry.nowMs : Int) - oneMinuteMs)).zcard retry.clock := by
  change (measured config (measured config windows call).windows
    retry).windows.rpm.zcard retry.clock = _
  rw [rpm_measured, rpm_measured,
    Key.zremrangebyscore_zremrangebyscore laterClock 0 (by omega)]

/-- Nor do the members of its TPM set. -/
theorem members_tpm_measured_again :
    (measured config (measured config windows call).windows
      retry).windows.tpm.members retry.clock = tokensLeft windows retry := by
  rw [tpm_measured, tpm_measured,
    Key.zremrangebyscore_zremrangebyscore laterClock 0 (by omega),
    Key.members_zremrangebyscore le_rfl]
  rfl

/-- The sum the second call starts from. -/
theorem tpmSum_measured_again :
    (measured config (measured config windows call).windows retry).tpmSum =
      if tokensLeft windows retry = [] then 0
      else max 0 ((windows.tpmSum.read retry.clock).getD 0 -
        tokensFreed windows call retry) := by
  rw [tpmSum_measured, Key.zcard,
    members_tpm_measured_again laterClock later,
    expiredTokens_again laterClock, read_tpmSum_again laterClock]
  simp only [List.length_eq_zero_iff]

/-- The verdict on the second call, when it has room under the RPM limit and
its estimate fits under the TPM limit. -/
theorem verdict_again_ne_tpm_iff
    (rejected : verdict config windows call = some .tpm)
    (same : retry.limits = call.limits)
    (fits : (call.reqTokens : Int) ≤ call.limits.tpmLimit)
    (room : ((windows.rpm.zremrangebyscore retry.clock 0
      ((retry.nowMs : Int) - oneMinuteMs)).zcard retry.clock : Int) <
        call.limits.rpmLimit) :
    verdict config (measured config windows call).windows retry ≠ some .tpm ↔
      WaitSuffices windows call retry := by
  have sameTokens : retry.reqTokens = call.reqTokens :=
    congrArg (fun limits : RateLimitConfig => ⌊limits.estimatedTokens⌋.toNat) same
  have notRpm : ¬(retry.arguments config).rpmLimit ≤
      (measured config (measured config windows call).windows
        retry).rpmCount := by
    rw [rpmCount_measured_again laterClock later]
    change ¬retry.limits.rpmLimit ≤ _
    rw [same]
    omega
  have notBurst := not_burst_again laterClock same rejected
  have sum : (measured config (measured config windows call).windows
      retry).tpmSum = _ := tpmSum_measured_again laterClock later
  have fitsIff : ¬(retry.arguments config).tpmLimit <
        (measured config (measured config windows call).windows retry).tpmSum +
          (retry.arguments config).reqTokens ↔
      WaitSuffices windows call retry := by
    change ¬retry.limits.tpmLimit < _ + (retry.reqTokens : Int) ↔ _
    rw [sum, same, sameTokens, WaitSuffices]
    by_cases empty : tokensLeft windows retry = []
    · rw [if_pos empty]
      simp only [empty, true_or, iff_true]
      omega
    · rw [if_neg empty]
      simp only [empty, false_or]
      omega
  rw [← fitsIff]
  unfold verdict decision
  rw [if_neg notRpm, if_neg notBurst]
  split_ifs with isOver
  · exact iff_of_false (not_not.2 rfl) (not_not.2 isOver)
  · exact iff_of_true nofun isOver

end Again

/-- A rejection is told to wait for at least a second. -/
theorem one_le_retryAfterSec
    {config : Config}
    (enabled : config.rateLimitEnabled = true)
    {windows : Windows}
    {call : CheckCall}
    {reason : RateLimitReason}
    (rejected : verdict config windows call = some reason) :
    1 ≤ (check config windows call).1.retryAfterSec := by
  rw [verdict, measured] at rejected
  rw [check, if_pos enabled, rateLimitScript]
  simp only [rejected]
  exact le_max_left _ _

/-- A call rejected for the TPM limit and repeated after the reported number of
seconds is not rejected for it again exactly when the wait suffices. -/
theorem repeated_ne_tpm_iff
    (config : Config)
    (enabled : config.rateLimitEnabled = true)
    (windows : Windows)
    (call retry : CheckCall)
    (rejected : (check config windows call).1.reason = some .tpm)
    (fits : (call.reqTokens : Int) ≤ call.limits.tpmLimit)
    (same : retry.limits = call.limits)
    (laterClock : call.clock ≤ retry.clock)
    (wait : (retry.nowMs : Int) =
      call.nowMs + 1000 * (check config windows call).1.retryAfterSec)
    (room : ((windows.rpm.zremrangebyscore retry.clock 0
      ((retry.nowMs : Int) - oneMinuteMs)).zcard retry.clock : Int) <
        call.limits.rpmLimit) :
    (check config (check config windows call).2 retry).1.reason ≠ some .tpm ↔
      WaitSuffices windows call retry := by
  rw [(check_reason enabled _ call).1] at rejected
  have atLeast := one_le_retryAfterSec enabled rejected
  rw [(check_reason enabled _ retry).1,
    check_windows_of_rejected enabled rejected]
  exact verdict_again_ne_tpm_iff laterClock (by omega) rejected same fits room

/-- A call that asks for a number of tokens at the time of the store, with ten
requests and a hundred tokens a minute. -/
def hundredAMinute (nowMs : Nat) (uuid : String) (tokens : Rat) : CheckCall where
  clock := nowMs
  nowMs := nowMs
  uuid := uuid
  limits := { rpmLimit := 10, tpmLimit := 100, estimatedTokens := tokens }

/-- When a single large request filled the window, its leaving is enough. -/
theorem repeated_ne_tpm_iff_of_single :
    (check Config.default
      (check Config.default
        (keysAfter Config.default [hundredAMinute 1000 "a" 90])
        (hundredAMinute 2000 "b" 50)).2
      (hundredAMinute 61000 "c" 50)).1.reason ≠ some .tpm :=
  (repeated_ne_tpm_iff Config.default rfl _ (hundredAMinute 2000 "b" 50)
    (hundredAMinute 61000 "c" 50) (by decide +kernel) (by decide +kernel) rfl
    (by decide) (by decide +kernel) (by decide +kernel)).2
      (Or.inl (by decide +kernel))

/-- When a small request is the oldest, its leaving is not: the repeated call
comes after the reported thirty seconds and is rejected again. -/
theorem wait_for_tokens_too_short :
    ¬∀ (config : Config) (calls : List CheckCall) (call retry : CheckCall),
      config.rateLimitEnabled = true →
      (calls ++ [call, retry]).Pairwise CheckCall.Precedes →
      (check config (keysAfter config calls) call).1.reason = some .tpm →
      (call.reqTokens : Int) ≤ call.limits.tpmLimit →
      retry.limits = call.limits →
      (retry.nowMs : Int) = call.nowMs + 1000 *
        (check config (keysAfter config calls) call).1.retryAfterSec →
      (check config (keysAfter config (calls ++ [call])) retry).1.reason ≠
        some .rpm →
      (check config (keysAfter config (calls ++ [call])) retry).1.reason ≠
        some .tpm := by
  intro enough
  exact enough Config.default
    [hundredAMinute 1000 "a" 10, hundredAMinute 31000 "b" 90]
    (hundredAMinute 32000 "c" 50) (hundredAMinute 61000 "d" 50) rfl (by decide)
    (by decide +kernel) (by decide +kernel) rfl (by decide +kernel)
    (by decide +kernel) (by decide +kernel)

end RateLimiter
end AiGateway
