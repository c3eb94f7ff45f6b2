import AiGateway.RateLimiter.Tracking
import Mathlib.Data.Fintype.EquivFin

/-!
# The plain limiter

The plain limiter sums the estimates of the window anew on every check. The
script keeps a running sum instead, and writes it only when it admits. A
rejected check that evicts members while others remain therefore leaves their
weights in the sum: later checks are measured against a total that is too
large, until the window is empty. This module states when that does not happen,
and that exactly then the script decides like the plain limiter.
-/

namespace AiGateway
namespace RateLimiter

open Foundations SlidingLog

/-- The decision of the plain limiter on the log of the admitted requests,
without a burst window. -/
def plainVerdict (admitted : List Admission) (call : CheckCall) :
    Option RateLimitReason :=
  if call.limits.rpmLimit ≤ (inWindow call.nowMs admitted).length then
    some .rpm
  else if call.limits.tpmLimit <
      (tokens (inWindow call.nowMs admitted) : Int) + call.reqTokens then
    some .tpm
  else
    none

/-- At every point of a run the script and the plain limiter take the same
decision on whatever check comes next. -/
def AgreesAlong (config : Config) (calls : List CheckCall) : Prop :=
  ∀ earlier, earlier <+: calls →
    ∀ next : CheckCall, (∀ call ∈ earlier, call.Precedes next) →
      (check config (history config earlier).windows next).1.reason =
        plainVerdict (history config earlier).admitted next

/-- The condition on a check under which the stored sum stays in step: if it
exceeds a limit, no member with a positive estimate leaves the TPM set at it
while others remain in the window. -/
def KeepsSum (config : Config) (observed : Observed) (call : CheckCall) :
    Prop :=
  plainVerdict observed.admitted call ≠ none →
    expiredTokens call.clock (call.arguments config)
        (observed.windows.elapse call.clock) = 0 ∨
      inWindow call.nowMs observed.admitted = []

instance (config : Config) (observed : Observed) (call : CheckCall) :
    Decidable (KeepsSum config observed call) :=
  inferInstanceAs (Decidable (_ → _ ∨ _))

/-- The answers to a list of checks. -/
def replies (config : Config) : Windows → List CheckCall → List RateLimitResult
  | _, [] => []
  | windows, call :: calls =>
      (check config windows call).1 ::
        replies config (check config windows call).2 calls

section BurstOff

variable {config : Config}

/-- With the burst window off a call is rejected for the two limits only, the
second being measured against the drifted sum. -/
theorem Tracks.verdict_of_burst_off
    {drift clock nowMs : Nat}
    {observed : Observed}
    (tracks : Tracks drift clock nowMs observed)
    (call : CheckCall)
    (order : nowMs ≤ call.nowMs)
    (together : call.clock + nowMs = clock + call.nowMs)
    (burstOff : config.rateLimitBurstEnabled = false) :
    verdict config observed.windows call =
      if call.limits.rpmLimit ≤ (inWindow call.nowMs observed.admitted).length
      then some .rpm
      else if call.limits.tpmLimit <
        (driftedTokens drift (inWindow call.nowMs observed.admitted) : Int) +
          call.reqTokens
      then some .tpm
      else none := by
  have notBurst : ¬((call.arguments config).burstEnabled = 1 ∧
      (call.arguments config).burstLimit ≤
        (measured config observed.windows call).burstCount) := by
    rintro ⟨enabled, _⟩
    simp [CheckCall.arguments, burstOff] at enabled
  rw [tracks.verdict_eq order together config, if_neg notBurst]

/-- Without a drift the script decides like the plain limiter. -/
theorem Ready.verdict_eq_plain
    {observed : Observed}
    {call : CheckCall}
    (ready : Ready 0 observed call)
    (burstOff : config.rateLimitBurstEnabled = false) :
    verdict config observed.windows call =
      plainVerdict observed.admitted call := by
  obtain ⟨⟨clock, nowMs, tracks, order, together⟩, _⟩ := ready
  rw [tracks.verdict_of_burst_off call order together burstOff, driftedTokens_zero]
  rfl

/-- The drift of an empty window may be taken to be zero. -/
theorem Tracks.of_empty
    {drift clock nowMs : Nat}
    {observed : Observed}
    (tracks : Tracks drift clock nowMs observed)
    (empty : inWindow nowMs observed.admitted = []) :
    Tracks 0 clock nowMs observed :=
  { tracks with sum := fun nonempty => absurd empty nonempty }

/-- A check that keeps the sum keeps the drift at zero. -/
theorem Ready.observe_of_keepsSum
    (enabled : config.rateLimitEnabled = true)
    (burstOff : config.rateLimitBurstEnabled = false)
    {observed : Observed}
    {call : CheckCall}
    (ready : Ready 0 observed call)
    (keeps : KeepsSum config observed call) :
    Tracks 0 call.clock call.nowMs (RateLimiter.observe config observed call) := by
  have agree := ready.verdict_eq_plain burstOff
  obtain ⟨⟨clock, nowMs, tracks, order, together⟩, fresh⟩ := ready
  cases decided : verdict config observed.windows call with
  | none =>
      have kept := tracks.observe_admitted order together fresh enabled decided
      rwa [ite_self] at kept
  | some reason =>
      have kept := tracks.observe_rejected order together enabled decided
      rw [Nat.zero_add] at kept
      have plainRejects : plainVerdict observed.admitted call ≠ none := by
        rw [← agree, decided]
        exact Option.some_ne_none reason
      rcases keeps plainRejects with noneLeft | empty
      · rwa [noneLeft] at kept
      · apply kept.of_empty
        rw [observe_of_rejected enabled decided]
        exact empty

/-- The next call of a run that keeps the sum finds no drift. -/
theorem ready_of_everyStep
    (enabled : config.rateLimitEnabled = true)
    (burstOff : config.rateLimitBurstEnabled = false)
    {calls : List CheckCall}
    (ordered : calls.Pairwise CheckCall.Precedes)
    (keeps : EveryStep (observe config) (KeepsSum config) {} calls)
    {next : CheckCall}
    (follows : ∀ call ∈ calls, call.Precedes next) :
    Ready 0 (history config calls) next := by
  obtain ⟨drift, rfl, ready⟩ := ready_of_run (fun drift => drift = 0)
    rfl ordered (fun before call after drift split zero ready => by
      subst zero
      refine ⟨0, rfl, ready.observe_of_keepsSum enabled burstOff ?_⟩
      exact (everyStep_iff_split ..).1 keeps before call after split) follows
  exact ready

/-- There is a UUID that none of the calls of a run has drawn. -/
theorem exists_fresh_uuid (calls : List CheckCall) :
    ∃ uuid : String, ∀ call ∈ calls, call.uuid ≠ uuid := by
  obtain ⟨uuid, unused⟩ :=
    Infinite.exists_notMem_finset (calls.map CheckCall.uuid).toFinset
  refine ⟨uuid, fun call isCall same => unused ?_⟩
  rw [List.mem_toFinset]
  exact List.mem_map.2 ⟨call, isCall, same⟩

/-- After a check that does not keep the sum, a check comes for which the
script and the plain limiter differ. -/
theorem exists_disagreement
    (enabled : config.rateLimitEnabled = true)
    (burstOff : config.rateLimitBurstEnabled = false)
    {calls : List CheckCall}
    {call : CheckCall}
    (ordered : (calls ++ [call]).Pairwise CheckCall.Precedes)
    {reason : RateLimitReason}
    (rejected : verdict config (history config calls).windows call =
      some reason)
    (left : expiredTokens call.clock (call.arguments config)
      ((history config calls).windows.elapse call.clock) ≠ 0)
    (nonempty : inWindow call.nowMs (history config calls).admitted ≠ []) :
    ∃ next : CheckCall,
      (∀ earlier ∈ calls ++ [call], earlier.Precedes next) ∧
        verdict config (history config (calls ++ [call])).windows next ≠
          plainVerdict (history config (calls ++ [call])).admitted next := by
  obtain ⟨orderedBefore, _, follows⟩ := List.pairwise_append.1 ordered
  have callFollows : ∀ earlier ∈ calls, earlier.Precedes call :=
    fun earlier isEarlier => follows earlier isEarlier call (by simp)
  obtain ⟨drift, ⟨clock, nowMs, before, order, together⟩, _⟩ :=
    exists_ready enabled orderedBefore callFollows
  have tracks := before.observe_rejected order together enabled rejected
  obtain ⟨uuid, unused⟩ := exists_fresh_uuid (calls ++ [call])
  -- a check at the same time that exactly fits, and asks for no tokens
  let window := inWindow call.nowMs (history config calls).admitted
  let next : CheckCall :=
    { clock := call.clock
      nowMs := call.nowMs
      uuid := uuid
      limits :=
        { rpmLimit := window.length + 1
          tpmLimit := tokens window
          estimatedTokens := 0 } }
  have noTokens : next.reqTokens = 0 := rfl
  have logged : (history config (calls ++ [call])).admitted =
      (history config calls).admitted := by
    rw [history_concat, observe_of_rejected enabled rejected]
  refine ⟨next, ?_, ?_⟩
  · intro earlier isEarlier
    have differs := unused earlier isEarlier
    rcases List.mem_append.1 isEarlier with old | last
    · have timed := callFollows earlier old
      exact ⟨timed.1, timed.2.1, differs⟩
    · rw [List.mem_singleton.1 last] at differs ⊢
      exact ⟨le_rfl, rfl, differs⟩
  · have admits : plainVerdict (history config (calls ++ [call])).admitted next =
        none := by
      rw [logged, plainVerdict, if_neg, if_neg]
      · rw [noTokens]
        exact not_lt.2 (le_of_eq (Int.add_zero _))
      · exact not_le.2 (Int.lt_succ _)
    have rejects : verdict config (history config (calls ++ [call])).windows
        next = some .tpm := by
      rw [history_concat, tracks.verdict_of_burst_off next le_rfl rfl
        burstOff, ← history_concat, logged, if_neg, if_pos]
      · rw [noTokens, driftedTokens, if_neg nonempty]
        change (tokens window : Int) <
          ((tokens window + (drift + _) : Nat) : Int) + 0
        omega
      · exact not_le.2 (Int.lt_succ _)
    rw [admits, rejects]
    exact Option.some_ne_none _

/-- If every check keeps the sum, the script decides like the plain limiter. -/
theorem agreesAlong_of_everyStep
    (enabled : config.rateLimitEnabled = true)
    (burstOff : config.rateLimitBurstEnabled = false)
    {calls : List CheckCall}
    (ordered : calls.Pairwise CheckCall.Precedes)
    (keeps : EveryStep (observe config) (KeepsSum config) {} calls) :
    AgreesAlong config calls := by
  intro earlier isPrefix next follows
  have ready := ready_of_everyStep enabled burstOff
    (ordered.sublist isPrefix.sublist) (keeps.of_prefix isPrefix) follows
  rw [(check_reason enabled _ _).1]
  exact ready.verdict_eq_plain burstOff

/-- If the script decides like the plain limiter whatever comes next, then
every check keeps the sum. -/
theorem everyStep_of_agreesAlong
    (enabled : config.rateLimitEnabled = true)
    (burstOff : config.rateLimitBurstEnabled = false)
    {calls : List CheckCall}
    (ordered : calls.Pairwise CheckCall.Precedes)
    (agrees : AgreesAlong config calls) :
    EveryStep (observe config) (KeepsSum config) {} calls := by
  rw [everyStep_iff_split]
  rintro before call after rfl
  change KeepsSum config (history config before) call
  have orderedUpTo : (before ++ [call]).Pairwise CheckCall.Precedes :=
    ordered.sublist (by simp)
  have callFollows : ∀ earlier ∈ before, earlier.Precedes call :=
    fun earlier isEarlier => (List.pairwise_append.1 orderedUpTo).2.2 earlier
      isEarlier call (List.mem_singleton_self _)
  intro plainRejects
  have decided := agrees before (List.prefix_append _ _) call callFollows
  rw [(check_reason enabled _ _).1] at decided
  by_contra breaks
  rw [not_or] at breaks
  obtain ⟨reason, rejected⟩ := Option.ne_none_iff_exists'.1
    (decided ▸ plainRejects)
  obtain ⟨next, nextFollows, differs⟩ := exists_disagreement enabled burstOff
    orderedUpTo rejected breaks.1 breaks.2
  apply differs
  rw [← (check_reason enabled _ _).1]
  exact agrees (before ++ [call]) ⟨after, by simp⟩ next nextFollows

end BurstOff

section Deletion

/-- The sum of the weights written in a listing. -/
def weigh (stored : List (String × Int)) : Nat :=
  ((stored.map Prod.fst).filterMap memberTokens).sum

@[simp] theorem weigh_nil : weigh [] = 0 := rfl

theorem weigh_cons (entry : String × Int) (stored : List (String × Int)) :
    weigh (entry :: stored) = (memberTokens entry.1).getD 0 + weigh stored := by
  unfold weigh
  rw [List.map_cons, List.filterMap_cons]
  cases memberTokens entry.1 <;> simp

/-- The weight of a range is that of a smaller range and of the rest. -/
theorem weigh_filter_eq
    {narrow wide : String × Int → Bool}
    (wider : ∀ entry, narrow entry = true → wide entry = true)
    (stored : List (String × Int)) :
    weigh (stored.filter wide) =
      weigh (stored.filter narrow) +
        weigh ((stored.filter fun entry => !narrow entry).filter wide) := by
  induction stored with
  | nil => rfl
  | cons entry stored inductionHypothesis =>
      by_cases inNarrow : narrow entry
      · have inWide := wider entry inNarrow
        rw [List.filter_cons_of_pos inWide, List.filter_cons_of_pos inNarrow,
          List.filter_cons_of_neg (by simp [inNarrow]), weigh_cons, weigh_cons,
          inductionHypothesis, Nat.add_assoc]
      · rw [List.filter_cons_of_neg inNarrow,
          List.filter_cons_of_pos (p := fun entry => !narrow entry)
            (by simp [inNarrow])]
        by_cases inWide : wide entry
        · rw [List.filter_cons_of_pos inWide, List.filter_cons_of_pos inWide,
            weigh_cons, weigh_cons, inductionHypothesis, Nat.add_left_comm]
        · rw [List.filter_cons_of_neg inWide, List.filter_cons_of_neg inWide,
            inductionHypothesis]

variable (config : Config) {windows : Windows} {call next : CheckCall}

/-- The weights that leave the TPM set at a call, from what is stored. -/
theorem expiredTokens_elapse (windows : Windows) (call : CheckCall) :
    expiredTokens call.clock (call.arguments config)
        (windows.elapse call.clock) =
      weigh ((windows.tpm.members call.clock).filter
        (scoreInRange 0 ((call.nowMs : Int) - oneMinuteMs))) := by
  change ((Key.zrangebyscore call.clock 0 ((call.nowMs : Int) - oneMinuteMs)
    (windows.tpm.visible call.clock)).filterMap memberTokens).sum = _
  rw [Key.zrangebyscore_visible]
  rfl

/-- If nothing of weight left at a call, the next call sees the same weights
leave as without it. -/
theorem expiredTokens_of_rejected
    (order : call.nowMs ≤ next.nowMs)
    (clockOrder : call.clock ≤ next.clock)
    (noneLeft : expiredTokens call.clock (call.arguments config)
      (windows.elapse call.clock) = 0) :
    expiredTokens next.clock (next.arguments config)
        ((measured config windows call).windows.elapse next.clock) =
      expiredTokens next.clock (next.arguments config)
        (windows.elapse next.clock) := by
  rw [expiredTokens_elapse] at noneLeft
  rw [expiredTokens_elapse, expiredTokens_elapse, tpm_measured,
    Key.members_zremrangebyscore clockOrder]
  have stillNone : weigh ((windows.tpm.members next.clock).filter
      (scoreInRange 0 ((call.nowMs : Int) - oneMinuteMs))) = 0 := by
    rcases Key.members_later windows.tpm clockOrder with gone | same
    · rw [gone]
      rfl
    · rw [same]
      exact noneLeft
  have wider : ∀ entry : String × Int,
      scoreInRange 0 ((call.nowMs : Int) - oneMinuteMs) entry = true →
        scoreInRange 0 ((next.nowMs : Int) - oneMinuteMs) entry = true := by
    intro entry
    simp only [scoreInRange, decide_eq_true_eq]
    omega
  rw [weigh_filter_eq wider (windows.tpm.members next.clock), stillNone,
    Nat.zero_add]

/-- If no member remained after a call, none remains at the next. -/
theorem zcard_of_rejected
    (clockOrder : call.clock ≤ next.clock)
    (empty :
      (measured config windows call).windows.tpm.zcard call.clock = 0) :
    (measured config (measured config windows call).windows
      next).windows.tpm.zcard next.clock = 0 := by
  rw [Key.zcard, List.length_eq_zero_iff] at empty ⊢
  rw [tpm_measured config _ next, Key.members_zremrangebyscore le_rfl]
  rcases Key.members_later (measured config windows call).windows.tpm
    clockOrder with gone | same
  · rw [gone]
    rfl
  · rw [same, empty]
    rfl

/-- After a rejected call that kept the sum the next call measures what it
would have measured without it. -/
theorem measured_of_rejected
    (order : call.nowMs ≤ next.nowMs)
    (clockOrder : call.clock ≤ next.clock)
    (keeps : expiredTokens call.clock (call.arguments config)
        (windows.elapse call.clock) = 0 ∨
      (measured config windows call).windows.tpm.zcard call.clock = 0) :
    measured config (measured config windows call).windows next =
      measured config windows next := by
  have higher : (call.nowMs : Int) - oneMinuteMs ≤ next.nowMs - oneMinuteMs := by
    omega
  have rpm : (measured config (measured config windows call).windows
      next).windows.rpm = (measured config windows next).windows.rpm := by
    rw [rpm_measured, rpm_measured, rpm_measured,
      Key.zremrangebyscore_zremrangebyscore clockOrder 0 higher]
  have tpm : (measured config (measured config windows call).windows
      next).windows.tpm = (measured config windows next).windows.tpm := by
    rw [tpm_measured, tpm_measured, tpm_measured,
      Key.zremrangebyscore_zremrangebyscore clockOrder 0 higher]
  have burst : (measured config (measured config windows call).windows
      next).windows.burst = (measured config windows next).windows.burst := by
    rw [burst_measured, burst_measured, burst_measured]
    split
    · exact Key.zremrangebyscore_zremrangebyscore clockOrder 0 (by omega) _
    · exact Key.visible_visible_later _ clockOrder
  have tpmSumKey : (measured config (measured config windows call).windows
      next).windows.tpmSum = (measured config windows next).windows.tpmSum :=
    Key.visible_visible_later _ clockOrder
  have tpmSum : (measured config (measured config windows call).windows
      next).tpmSum = (measured config windows next).tpmSum := by
    have read : (measured config windows call).windows.tpmSum.read next.clock =
        windows.tpmSum.read next.clock :=
      congrArg (Option.map Entry.value)
        (Key.visible_visible_later _ clockOrder)
    rw [tpmSum_measured, tpmSum_measured, tpm, read]
    split
    · rfl
    · rename_i remains
      rcases keeps with noneLeft | empty
      · rw [expiredTokens_of_rejected config order clockOrder noneLeft]
      · rw [← tpm] at remains
        exact absurd (zcard_of_rejected config clockOrder empty) remains
  have sameWindows := Windows.ext rpm tpm burst tpmSumKey
  apply Measured.ext sameWindows
  · exact congrArg (fun windows => windows.rpm.zcard next.clock) sameWindows
  · exact tpmSum
  · exact congrArg (fun windows => if (next.arguments config).burstEnabled = 1
      then windows.burst.zcard next.clock else 0) sameWindows

/-- Checks that measure the same are answered the same and leave the same
keys. -/
theorem check_congr
    {left right : Windows}
    (enabled : config.rateLimitEnabled = true)
    (same : measured config left call = measured config right call) :
    check config left call = check config right call := by
  rw [measured, measured] at same
  rw [check, check, if_pos enabled, if_pos enabled, rateLimitScript,
    rateLimitScript, same]

/-- Taking a rejected check that kept the sum out of a run changes no later
answer. -/
theorem replies_without_rejected
    {config : Config}
    (enabled : config.rateLimitEnabled = true)
    {before after : List CheckCall}
    {call : CheckCall}
    (ordered : (before ++ call :: after).Pairwise CheckCall.Precedes)
    {reason : RateLimitReason}
    (rejected : verdict config (history config before).windows call =
      some reason)
    (keeps : expiredTokens call.clock (call.arguments config)
        ((history config before).windows.elapse call.clock) = 0 ∨
      inWindow call.nowMs (history config before).admitted = []) :
    replies config (history config (before ++ [call])).windows after =
      replies config (history config before).windows after := by
  obtain ⟨orderedBefore, orderedAfter, callFollows⟩ :=
    List.pairwise_append.1 ordered
  obtain ⟨drift, ⟨clock, nowMs, tracks, order, together⟩, _⟩ :=
    exists_ready enabled orderedBefore
      fun earlier isEarlier => callFollows earlier isEarlier call (by simp)
  cases after with
  | nil => rfl
  | cons next after =>
      obtain ⟨nextOrder, nextTogether, _⟩ :=
        (List.pairwise_cons.1 orderedAfter).1 next (by simp)
      have same := measured_of_rejected config nextOrder
        (show call.clock ≤ next.clock by omega)
        (keeps.imp_right fun empty => by
          rw [tracks.zcard_measure order together config, empty]
          rfl)
      rw [history_concat, observe_of_rejected enabled rejected, replies, replies,
        check_congr config enabled same]

end Deletion

/-- In a run with the burst window off, the script decides like the plain
limiter, whatever comes next at any point of the run, if and only if every check
of the run keeps the sum; and in such a run a rejected check can be taken out
without changing an answer. -/
theorem agreesAlong_iff_keepsSum
    {config : Config}
    (enabled : config.rateLimitEnabled = true)
    (burstOff : config.rateLimitBurstEnabled = false)
    {calls : List CheckCall}
    (ordered : calls.Pairwise CheckCall.Precedes) :
    (AgreesAlong config calls ↔
      EveryStep (observe config) (KeepsSum config) {} calls) ∧
    (EveryStep (observe config) (KeepsSum config) {} calls →
      ∀ before call after, calls = before ++ call :: after →
        (check config (history config before).windows call).1.allowed = false →
          replies config (history config (before ++ [call])).windows after =
            replies config (history config before).windows after) := by
  refine ⟨⟨everyStep_of_agreesAlong enabled burstOff ordered,
    agreesAlong_of_everyStep enabled burstOff ordered⟩, ?_⟩
  rintro keeps before call after rfl rejected
  have callFollows : ∀ earlier ∈ before, earlier.Precedes call :=
    fun earlier isEarlier => (List.pairwise_append.1 ordered).2.2 earlier
      isEarlier call (by simp)
  rw [(check_reason enabled _ _).2, Option.isNone_eq_false_iff,
    Option.isSome_iff_exists] at rejected
  obtain ⟨reason, rejected⟩ := rejected
  have agreed := agreesAlong_of_everyStep enabled burstOff ordered keeps before
    (List.prefix_append _ _) call callFollows
  rw [(check_reason enabled _ _).1, rejected] at agreed
  refine replies_without_rejected enabled ordered rejected ?_
  apply (everyStep_iff_split ..).1 keeps before call after rfl
  change plainVerdict (history config before).admitted call ≠ none
  rw [← agreed]
  exact Option.some_ne_none reason

/-- The default settings with bursts turned off. -/
def Config.withoutBursts : Config :=
  { Config.default with rateLimitBurstEnabled := false }

/-- A check against a thousand requests and a hundred tokens per minute. -/
def hundredTokens (nowMs : Nat) (uuid : String) (estimate : Rat) : CheckCall where
  clock := nowMs
  nowMs := nowMs
  uuid := uuid
  limits := { rpmLimit := 1000, tpmLimit := 100, estimatedTokens := estimate }

/-- In a run whose only rejected check comes before anything expires the
decisions agree. -/
theorem agreesAlong_of_early_rejection :
    AgreesAlong .withoutBursts
      [hundredTokens 0 "a" 60, hundredTokens 30000 "b" 30,
        hundredTokens 30001 "c" 80] :=
  (agreesAlong_iff_keepsSum rfl rfl (by decide)).1.2 (by decide +kernel)

/-- Sixty tokens expire at a check that is rejected while thirty remain. The
next check asks for sixty: the window holds thirty, and the plain limiter
admits it, but the script still counts ninety. Without the rejected check it is
admitted. -/
theorem rejected_check_keeps_expired_tokens :
    let earlier := [hundredTokens 0 "a" 60, hundredTokens 30000 "b" 30]
    let rejected := hundredTokens 60001 "c" 80
    let next := hundredTokens 60002 "d" 60
    (earlier ++ [rejected, next]).Pairwise CheckCall.Precedes ∧
      (check .withoutBursts (history .withoutBursts earlier).windows
        rejected).1.allowed = false ∧
      tokens (inWindow next.nowMs
        (history .withoutBursts (earlier ++ [rejected])).admitted) = 30 ∧
      (check .withoutBursts
        (history .withoutBursts (earlier ++ [rejected])).windows
          next).1.reason = some .tpm ∧
      replies .withoutBursts
        (history .withoutBursts (earlier ++ [rejected])).windows [next] ≠
          replies .withoutBursts (history .withoutBursts earlier).windows
            [next] ∧
      ¬AgreesAlong .withoutBursts (earlier ++ [rejected]) := by
  intro earlier rejected next
  refine ⟨by decide, by decide +kernel, by decide +kernel, by decide +kernel,
    by decide +kernel, fun agrees => ?_⟩
  have decided := agrees (earlier ++ [rejected]) (List.prefix_refl _) next
    (by decide)
  revert decided
  decide +kernel

end RateLimiter
end AiGateway
