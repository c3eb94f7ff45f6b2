import AiGateway.RateLimiter.Tracking

/-!
# No window exceeds the limits

The stored token sum is never below the total of the window, so a call that
the script admits fits under both of its limits, and with constant limits every
window of a minute does.
-/

namespace AiGateway
namespace RateLimiter

open Foundations SlidingLog

/-- An admitted call fits under its limits, itself included. -/
theorem Ready.within_limits
    {config : Config}
    {drift : Nat}
    {observed : Observed}
    {call : CheckCall}
    (ready : Ready drift observed call)
    (admitted : verdict config observed.windows call = none) :
    ((inWindow call.nowMs (observed.admitted ++ [call.admission])).length :
        Int) ≤ call.limits.rpmLimit ∧
      (tokens (inWindow call.nowMs (observed.admitted ++ [call.admission])) :
        Int) ≤ call.limits.tpmLimit := by
  obtain ⟨⟨clock, nowMs, tracks, order, together⟩, _⟩ := ready
  have enough := tokens_le_driftedTokens drift
    (inWindow call.nowMs observed.admitted)
  rw [tracks.verdict_eq order together config] at admitted
  split at admitted
  · cases admitted
  rename_i rpmRoom
  split at admitted
  · cases admitted
  split at admitted
  · cases admitted
  rename_i tpmRoom
  constructor
  · rw [inWindow_append_admission, List.length_append, List.length_singleton]
    omega
  · rw [tokens_append_admission]
    omega

/-- The log is in the order of its times. -/
theorem sorted_history
    (config : Config)
    {calls : List CheckCall}
    (ordered : calls.Pairwise CheckCall.Precedes) :
    (history config calls).admitted.Pairwise
      fun earlier later => earlier.nowMs ≤ later.nowMs := by
  induction calls using List.reverseRecOn with
  | nil => exact List.Pairwise.nil
  | append_singleton calls call inductionHypothesis =>
      obtain ⟨orderedBefore, _, follows⟩ := List.pairwise_append.1 ordered
      have sortedBefore := inductionHypothesis orderedBefore
      rw [history_concat, observe]
      dsimp only
      split
      · rw [List.pairwise_append]
        refine ⟨sortedBefore, List.pairwise_singleton _ _, ?_⟩
        intro earlier isEarlier last isLast
        obtain ⟨earlierCall, isCall, rfl⟩ := exists_call_of_admitted isEarlier
        rw [List.mem_singleton.1 isLast]
        exact (follows earlierCall isCall call (List.mem_singleton_self _)).1
      · exact sortedBefore

/-- Every entry of the log was appended by an admitted call, to the log before
that call. -/
theorem exists_admitting_call
    {config : Config}
    {calls : List CheckCall}
    {earlier later : List Admission}
    {admission : Admission}
    (logged : (history config calls).admitted =
      earlier ++ admission :: later) :
    ∃ before call after, calls = before ++ call :: after ∧
      admission = call.admission ∧
      earlier = (history config before).admitted ∧
      (check config (history config before).windows call).1.allowed = true := by
  induction calls using List.reverseRecOn generalizing later with
  | nil =>
      have impossible := congrArg List.length logged
      simp at impossible
  | append_singleton calls call inductionHypothesis =>
      rw [history_concat, observe] at logged
      dsimp only at logged
      split at logged
      · rename_i allowed
        rcases List.eq_nil_or_concat later with rfl | ⟨later', last, rfl⟩
        · obtain ⟨same, sameLast⟩ := List.append_inj' logged rfl
          exact ⟨calls, call, [], by simp, (List.cons.inj sameLast).1.symm,
            same.symm, allowed⟩
        · rw [List.concat_eq_append, ← List.cons_append,
            ← List.append_assoc] at logged
          obtain ⟨before, call', after, rfl, rest⟩ :=
            inductionHypothesis (List.append_inj' logged rfl).1
          exact ⟨before, call', after ++ [call], by simp, rest⟩
      · obtain ⟨before, call', after, rfl, rest⟩ := inductionHypothesis logged
        exact ⟨before, call', after ++ [call], by simp, rest⟩

/-- Whenever a check is admitted, the admitted requests of the last minute,
itself included, fit under its two limits. With constant limits no window of a
minute holds more (a limit below zero admits nothing). -/
theorem admitted_within_limits
    {config : Config}
    (enabled : config.rateLimitEnabled = true)
    {calls : List CheckCall}
    (ordered : calls.Pairwise CheckCall.Precedes) :
    (∀ before call after, calls = before ++ call :: after →
      (check config (history config before).windows call).1.allowed = true →
        ((inWindow call.nowMs
            (history config (before ++ [call])).admitted).length : Int) ≤
          call.limits.rpmLimit ∧
        (tokens (inWindow call.nowMs
            (history config (before ++ [call])).admitted) : Int) ≤
          call.limits.tpmLimit) ∧
      ∀ rpmLimit tpmLimit : Int,
        (∀ call ∈ calls, call.limits.rpmLimit = rpmLimit ∧
          call.limits.tpmLimit = tpmLimit) →
        ∀ last : Nat,
          ((inWindow last (history config calls).admitted).length : Int) ≤
            max 0 rpmLimit ∧
          (tokens (inWindow last (history config calls).admitted) : Int) ≤
            max 0 tpmLimit := by
  have each : ∀ before call after, calls = before ++ call :: after →
      (check config (history config before).windows call).1.allowed = true →
        ((inWindow call.nowMs ((history config before).admitted ++
            [call.admission])).length : Int) ≤ call.limits.rpmLimit ∧
        (tokens (inWindow call.nowMs ((history config before).admitted ++
            [call.admission])) : Int) ≤ call.limits.tpmLimit := by
    rintro before call after rfl allowed
    obtain ⟨orderedBefore, _, follows⟩ := List.pairwise_append.1 ordered
    obtain ⟨drift, ready⟩ := exists_ready enabled orderedBefore
      fun earlier isEarlier => follows earlier isEarlier call (by simp)
    rw [(check_reason enabled _ _).2, Option.isNone_iff_eq_none] at allowed
    exact ready.within_limits allowed
  constructor
  · intro before call after split allowed
    rw [history_concat, observe, if_pos allowed]
    exact each before call after split allowed
  · intro rpmLimit tpmLimit constant last
    have sorted := sorted_history config ordered
    have eachConstant : ∀ earlier admission later,
        (history config calls).admitted = earlier ++ admission :: later →
          ((inWindow admission.nowMs (earlier ++ [admission])).length : Int) ≤
            rpmLimit ∧
          (tokens (inWindow admission.nowMs (earlier ++ [admission])) : Int) ≤
            tpmLimit := by
      intro earlier admission later logged
      obtain ⟨before, call, after, split, rfl, rfl, allowed⟩ :=
        exists_admitting_call logged
      obtain ⟨rfl, rfl⟩ := constant call (by simp [split])
      exact each before call after split allowed
    constructor
    · rw [← total_one]
      apply total_within_le Admission.nowMs sorted
      intro earlier admission later logged
      rw [total_one]
      exact (eachConstant earlier admission later logged).1
    · apply total_within_le Admission.nowMs sorted
      intro earlier admission later logged
      exact (eachConstant earlier admission later logged).2

/-- Three checks against a limit of two requests and a hundred tokens: the
second is rejected for its tokens, the third is admitted. -/
theorem admitted_within_limits_three_calls :
    let limits : RateLimitConfig :=
      { rpmLimit := 2, tpmLimit := 100, estimatedTokens := 60 }
    let calls : List CheckCall :=
      [⟨0, 0, "a", limits⟩, ⟨30000, 30000, "b", limits⟩,
        ⟨60000, 60000, "c", limits⟩]
    ((inWindow 60000 (history .default calls).admitted).length : Int) ≤ 2 ∧
      (tokens (inWindow 60000 (history .default calls).admitted) : Int) ≤ 100 ∧
      ((inWindow 30000 (history .default calls).admitted).length : Int) ≤
        max 0 2 := by
  intro limits calls
  have bounds := @admitted_within_limits .default rfl calls (by decide)
  exact ⟨(bounds.1 (calls.take 2) ⟨60000, 60000, "c", limits⟩ [] rfl
      (by decide +kernel)).1,
    (bounds.1 (calls.take 2) ⟨60000, 60000, "c", limits⟩ [] rfl
      (by decide +kernel)).2,
    (bounds.2 2 100 (by decide) 30000).1⟩

end RateLimiter
end AiGateway
