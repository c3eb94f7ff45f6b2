import AiGateway.RateLimiter.Script
import AiGateway.Foundations.SlidingLog
import AiGateway.Foundations.Runs

/-!
# What the keys know of the admitted requests

The history of a key is the log of its admitted requests, which the gateway
itself does not keep. In a run whose calls are made in the order of their times
the sorted sets mirror the windows of that log, and the stored token sum is the
total of the TPM window plus a drift. The drift is never negative: a rejected
call removes expired members and leaves the sum as it was. This module proves
these facts for one call and gathers them in the invariant `Tracks`.
-/

namespace AiGateway
namespace RateLimiter

open Foundations SlidingLog

/-- The measures the script of a call takes on the keys it finds. -/
def measured (config : Config) (windows : Windows) (call : CheckCall) :
    Measured :=
  measure call.clock (call.arguments config) (windows.elapse call.clock)

/-- The RPM set after eviction. -/
theorem rpm_measured
    (config : Config)
    (windows : Windows)
    (call : CheckCall) :
    (measured config windows call).windows.rpm =
      windows.rpm.zremrangebyscore call.clock 0
        ((call.nowMs : Int) - oneMinuteMs) :=
  Key.zremrangebyscore_visible ..

/-- The TPM set after eviction, whether or not a member expired. -/
theorem tpm_measured
    (config : Config)
    (windows : Windows)
    (call : CheckCall) :
    (measured config windows call).windows.tpm =
      windows.tpm.zremrangebyscore call.clock 0
        ((call.nowMs : Int) - oneMinuteMs) := by
  change evictTpm call.clock (call.arguments config)
    (windows.elapse call.clock) = _
  unfold evictTpm
  split
  · rename_i noneExpired
    have outside : windows.tpm.zrangebyscore call.clock 0
        ((call.nowMs : Int) - oneMinuteMs) = [] :=
      (Key.zrangebyscore_visible ..).symm.trans noneExpired
    exact (Key.zremrangebyscore_of_none outside).symm
  · exact Key.zremrangebyscore_visible ..

/-- The burst set after eviction; it is left alone when bursts are off. -/
theorem burst_measured
    (config : Config)
    (windows : Windows)
    (call : CheckCall) :
    (measured config windows call).windows.burst =
      if config.rateLimitBurstEnabled then
        windows.burst.zremrangebyscore call.clock 0
          ((call.nowMs : Int) - config.rateLimitBurstWindowMs)
      else
        windows.burst.visible call.clock := by
  rw [← Key.zremrangebyscore_visible]
  cases bursts : config.rateLimitBurstEnabled <;>
    simp [measured, measure, CheckCall.arguments, bursts, Windows.elapse]

/-- The reason for which a call is rejected while the limiter is enabled. -/
def verdict (config : Config) (windows : Windows) (call : CheckCall) :
    Option RateLimitReason :=
  decision (call.arguments config) (measured config windows call)

/-- While the limiter is enabled a call is answered by its verdict. -/
theorem check_reason
    {config : Config}
    (enabled : config.rateLimitEnabled = true)
    (windows : Windows)
    (call : CheckCall) :
    (check config windows call).1.reason = verdict config windows call ∧
      (check config windows call).1.allowed =
        (verdict config windows call).isNone := by
  rw [check, if_pos enabled, rateLimitScript]
  cases decided : verdict config windows call <;>
    rw [verdict, measured] at decided <;> simp [decided, reply]

/-- The keys after an admitted call. -/
theorem check_windows_of_admitted
    {config : Config}
    (enabled : config.rateLimitEnabled = true)
    {windows : Windows}
    {call : CheckCall}
    (admitted : verdict config windows call = none) :
    (check config windows call).2 =
      record call.clock (call.arguments config)
        (measured config windows call) := by
  rw [verdict, measured] at admitted
  rw [check, if_pos enabled, rateLimitScript]
  simp only [admitted, measured]

/-- The keys after a rejected call. -/
theorem check_windows_of_rejected
    {config : Config}
    (enabled : config.rateLimitEnabled = true)
    {windows : Windows}
    {call : CheckCall}
    {reason : RateLimitReason}
    (rejected : verdict config windows call = some reason) :
    (check config windows call).2 = (measured config windows call).windows := by
  rw [verdict, measured] at rejected
  rw [check, if_pos enabled, rateLimitScript]
  simp only [rejected, measured]

/-- An admitted request. -/
structure Admission where
  nowMs : Nat
  uuid : String
  reqTokens : Nat
  deriving DecidableEq, Repr

namespace Admission

/-- Its member in the RPM set. -/
def member (admission : Admission) : String :=
  memberOf admission.nowMs admission.uuid

/-- Its member in the TPM set. -/
def tpmMember (admission : Admission) : String :=
  RateLimiter.tpmMember admission.member admission.reqTokens

end Admission

/-- The entry the log gets if a call is admitted. -/
def CheckCall.admission (call : CheckCall) : Admission where
  nowMs := call.nowMs
  uuid := call.uuid
  reqTokens := call.reqTokens

/-- The keys together with the log of the admitted requests. -/
structure Observed where
  windows : Windows := {}
  admitted : List Admission := []

/-- One call, and the log after it. -/
def observe (config : Config) (observed : Observed) (call : CheckCall) :
    Observed where
  windows := (check config observed.windows call).2
  admitted :=
    if (check config observed.windows call).1.allowed then
      observed.admitted ++ [call.admission]
    else
      observed.admitted

/-- An admitted call is logged. -/
theorem observe_of_admitted
    {config : Config}
    (enabled : config.rateLimitEnabled = true)
    {observed : Observed}
    {call : CheckCall}
    (admitted : verdict config observed.windows call = none) :
    observe config observed call =
      { windows := record call.clock (call.arguments config)
          (measured config observed.windows call)
        admitted := observed.admitted ++ [call.admission] } := by
  rw [observe, (check_reason enabled observed.windows call).2,
    check_windows_of_admitted enabled admitted, admitted]
  rfl

/-- A rejected call is not. -/
theorem observe_of_rejected
    {config : Config}
    (enabled : config.rateLimitEnabled = true)
    {observed : Observed}
    {call : CheckCall}
    {reason : RateLimitReason}
    (rejected : verdict config observed.windows call = some reason) :
    observe config observed call =
      { windows := (measured config observed.windows call).windows
        admitted := observed.admitted } := by
  rw [observe, (check_reason enabled observed.windows call).2,
    check_windows_of_rejected enabled rejected, rejected]
  rfl

/-- A later call on the same key: the caller's times do not decrease, the
store's clock advances with them, and UUIDs do not repeat. -/
def CheckCall.Precedes (earlier later : CheckCall) : Prop :=
  earlier.nowMs ≤ later.nowMs ∧
    later.clock + earlier.nowMs = earlier.clock + later.nowMs ∧
    earlier.uuid ≠ later.uuid

instance (earlier later : CheckCall) : Decidable (earlier.Precedes later) :=
  inferInstanceAs (Decidable (_ ∧ _))

/-- The admitted requests with a timestamp in `(nowMs - 60000, nowMs]`. -/
abbrev inWindow (nowMs : Nat) (admitted : List Admission) : List Admission :=
  within Admission.nowMs oneMinuteMs nowMs admitted

/-- The sum of the estimates of a list of admitted requests. -/
abbrev tokens (admitted : List Admission) : Nat :=
  total Admission.reqTokens admitted

/-- What the script takes for the total of a window when the stored sum has
drifted. -/
def driftedTokens (drift : Nat) (window : List Admission) : Nat :=
  if window = [] then 0 else tokens window + drift

/-- Without a drift it is the total. -/
@[simp] theorem driftedTokens_zero (window : List Admission) :
    driftedTokens 0 window = tokens window := by
  unfold driftedTokens
  split
  · rename_i empty
    rw [empty]
    rfl
  · rfl

/-- It is never too small. -/
theorem tokens_le_driftedTokens (drift : Nat) (window : List Admission) :
    tokens window ≤ driftedTokens drift window := by
  rw [← driftedTokens_zero]
  unfold driftedTokens
  split
  · exact le_rfl
  · exact Nat.add_le_add_left (Nat.zero_le drift) _

/-- A request is in the window that ends with it. -/
theorem inWindow_append_admission
    (call : CheckCall)
    (admitted : List Admission) :
    inWindow call.nowMs (admitted ++ [call.admission]) =
      inWindow call.nowMs admitted ++ [call.admission] := by
  have inside : inWindow call.nowMs [call.admission] = [call.admission] :=
    List.filter_eq_self.2 fun admission isMember => by
      rw [List.mem_singleton.1 isMember]
      exact decide_eq_true
        ⟨le_rfl, Nat.lt_add_of_pos_right (Nat.succ_pos _)⟩
  rw [inWindow, within_append]
  exact congrArg (_ ++ ·) inside

/-- Its estimate is added to the total of that window. -/
theorem tokens_append_admission
    (call : CheckCall)
    (admitted : List Admission) :
    tokens (inWindow call.nowMs (admitted ++ [call.admission])) =
      tokens (inWindow call.nowMs admitted) + call.reqTokens := by
  rw [inWindow_append_admission, tokens, total_append]
  rfl

/-- The weights of the expired members. -/
def expiredTokens (clock : Nat) (args : Arguments) (windows : Windows) : Nat :=
  ((expired clock args windows).filterMap memberTokens).sum

/-- The loop subtracts the sum of the weights. -/
theorem subtractExpired_eq (tpmSum : Int) (members : List String) :
    subtractExpired tpmSum members =
      tpmSum - ((members.filterMap memberTokens).sum : Nat) := by
  unfold subtractExpired
  induction members generalizing tpmSum with
  | nil => simp
  | cons m members inductionHypothesis =>
      rw [List.foldl_cons, inductionHypothesis]
      cases weight : memberTokens m with
      | none => simp [weight]
      | some t =>
          simp only [List.filterMap_cons, weight, List.sum_cons]
          omega

/-- The weights in the members of a list of admitted requests. -/
theorem filterMap_memberTokens (admitted : List Admission) :
    (admitted.map Admission.tpmMember).filterMap memberTokens =
      admitted.map Admission.reqTokens := by
  induction admitted with
  | nil => rfl
  | cons admission admitted inductionHypothesis =>
      rw [List.map_cons, List.filterMap_cons, Admission.tpmMember,
        memberTokens_tpmMember, inductionHypothesis, List.map_cons]

/-- The sum the script starts from is the stored sum less the expired weights,
or zero when no member remains. -/
theorem localTpmSum_eq (clock : Nat) (args : Arguments) (windows : Windows) :
    localTpmSum clock args windows =
      if (evictTpm clock args windows).zcard clock = 0 then 0
      else max 0 ((windows.tpmSum.read clock).getD 0 -
        (expiredTokens clock args windows : Nat)) := by
  unfold localTpmSum
  dsimp only
  rw [subtractExpired_eq]
  by_cases empty : (evictTpm clock args windows).zcard clock = 0
  · rw [if_pos (Or.inr empty), if_pos empty]
  · rw [if_neg empty]
    unfold expiredTokens
    split <;> omega

theorem tpmSum_measured
    (config : Config)
    (windows : Windows)
    (call : CheckCall) :
    (measured config windows call).tpmSum =
      if (measured config windows call).windows.tpm.zcard call.clock = 0 then 0
      else max 0 ((windows.tpmSum.read call.clock).getD 0 -
        (expiredTokens call.clock (call.arguments config)
          (windows.elapse call.clock) : Nat)) := by
  have read : (windows.elapse call.clock).tpmSum.read call.clock =
      windows.tpmSum.read call.clock :=
    congrArg (Option.map Entry.value) (Key.visible_visible ..)
  rw [← read]
  exact localTpmSum_eq ..

/-- The keys describe the log of the admitted requests up to a drift of the
stored sum, as seen when the last call was made at `nowMs`. -/
structure Tracks
    (drift clock nowMs : Nat)
    (observed : Observed) : Prop where
  /-- The log is in the past. -/
  past : ∀ admission ∈ observed.admitted, admission.nowMs ≤ nowMs
  /-- The RPM set lists the window. -/
  rpm : Mirrors Admission.nowMs Admission.member oneMinuteMs
    (oneMinuteMs + 1000) clock nowMs observed.admitted observed.windows.rpm
  /-- The TPM set lists the window. -/
  tpm : Mirrors Admission.nowMs Admission.tpmMember oneMinuteMs
    (oneMinuteMs + 1000) clock nowMs observed.admitted observed.windows.tpm
  /-- The stored sum lives as long as the window. -/
  sumOutlasts : Outlasts Admission.nowMs (oneMinuteMs + 1000) clock nowMs
    (inWindow nowMs observed.admitted) observed.windows.tpmSum
  /-- While the window is not empty the stored sum is its total plus the
  drift. -/
  sum : inWindow nowMs observed.admitted ≠ [] →
    observed.windows.tpmSum.read clock =
      some ((tokens (inWindow nowMs observed.admitted) + drift : Nat) : Int)

/-- Nothing was admitted and no key is stored. -/
theorem tracks_initial (clock nowMs : Nat) : Tracks 0 clock nowMs {} where
  past := by rintro admission ⟨⟩
  rpm := Mirrors.of_nil
  tpm := Mirrors.of_nil
  sumOutlasts := by rintro stored ⟨⟩
  sum := fun nonempty => absurd rfl nonempty

namespace Tracks

section Measure

variable {drift clock nowMs : Nat} {observed : Observed} {call : CheckCall}

/-- The RPM set after eviction lists the window at the call. -/
theorem rpm_measure
    (tracks : Tracks drift clock nowMs observed)
    (order : nowMs ≤ call.nowMs)
    (together : call.clock + nowMs = clock + call.nowMs)
    (config : Config) :
    Mirrors Admission.nowMs Admission.member oneMinuteMs (oneMinuteMs + 1000)
      call.clock call.nowMs observed.admitted
      (measured config observed.windows call).windows.rpm := by
  rw [rpm_measured]
  exact tracks.rpm.advance (Nat.le_add_right ..) order together tracks.past
    (Key.members_zremrangebyscore le_rfl _ _ _)
    (fun _ => Key.deadline_zremrangebyscore)

/-- So does the TPM set. -/
theorem tpm_measure
    (tracks : Tracks drift clock nowMs observed)
    (order : nowMs ≤ call.nowMs)
    (together : call.clock + nowMs = clock + call.nowMs)
    (config : Config) :
    Mirrors Admission.nowMs Admission.tpmMember oneMinuteMs
      (oneMinuteMs + 1000) call.clock call.nowMs observed.admitted
      (measured config observed.windows call).windows.tpm := by
  rw [tpm_measured]
  exact tracks.tpm.advance (Nat.le_add_right ..) order together tracks.past
    (Key.members_zremrangebyscore le_rfl _ _ _)
    (fun _ => Key.deadline_zremrangebyscore)

/-- `rpmCount` is the number of admitted requests in the window. -/
theorem rpmCount_measure
    (tracks : Tracks drift clock nowMs observed)
    (order : nowMs ≤ call.nowMs)
    (together : call.clock + nowMs = clock + call.nowMs)
    (config : Config) :
    (measured config observed.windows call).rpmCount =
      (inWindow call.nowMs observed.admitted).length := by
  have shown := (tracks.rpm_measure order together config).shows
  change (Key.members call.clock
    (measured config observed.windows call).windows.rpm).length = _
  rw [shown, List.length_map]

/-- The TPM set has one member for each request in the window. -/
theorem zcard_measure
    (tracks : Tracks drift clock nowMs observed)
    (order : nowMs ≤ call.nowMs)
    (together : call.clock + nowMs = clock + call.nowMs)
    (config : Config) :
    (measured config observed.windows call).windows.tpm.zcard call.clock =
      (inWindow call.nowMs observed.admitted).length := by
  rw [Key.zcard, (tracks.tpm_measure order together config).shows,
    List.length_map]

/-- While the window is not empty the stored sum exceeds its total by the old
drift and the weights of the members that just expired. -/
theorem sum_measure
    (tracks : Tracks drift clock nowMs observed)
    (order : nowMs ≤ call.nowMs)
    (together : call.clock + nowMs = clock + call.nowMs)
    (config : Config)
    (nonempty : inWindow call.nowMs observed.admitted ≠ []) :
    observed.windows.tpmSum.read call.clock =
      some ((expiredTokens call.clock (call.arguments config)
        (observed.windows.elapse call.clock) +
          (tokens (inWindow call.nowMs observed.admitted) + drift) : Nat) :
            Int) := by
  have narrower : inWindow call.nowMs observed.admitted ⊆
      inWindow nowMs observed.admitted :=
    within_later_subset Admission.nowMs order tracks.past
  obtain ⟨admission, isMember⟩ := List.exists_mem_of_ne_nil _ nonempty
  have recent := ((mem_within ..).1 isMember).2.2
  have laterVisible := (tracks.sumOutlasts.advance together
    narrower).visible_eq isMember (recent.trans_le (by omega))
  have stored := tracks.sum (List.ne_nil_of_mem (narrower isMember))
  have sameVisible : observed.windows.tpmSum.visible call.clock =
      observed.windows.tpmSum.visible clock := by
    rcases Key.visible_later observed.windows.tpmSum
      (show clock ≤ call.clock by omega) with gone | same
    · rw [laterVisible] at gone
      rw [gone] at stored
      cases stored
    · exact same
  have left : expiredTokens call.clock (call.arguments config)
      (observed.windows.elapse call.clock) =
        tokens ((inWindow nowMs observed.admitted).filter fun admission =>
          !decide (call.nowMs < admission.nowMs + oneMinuteMs)) := by
    have members := tracks.tpm.zrangebyscore_later (Nat.le_add_right ..) order
      together tracks.past nonempty
    change ((Key.zrangebyscore call.clock 0 ((call.nowMs : Int) - oneMinuteMs)
      (observed.windows.tpm.visible call.clock)).filterMap memberTokens).sum = _
    rw [Key.zrangebyscore_visible, members, filterMap_memberTokens]
    rfl
  have split : tokens (inWindow nowMs observed.admitted) = _ + _ :=
    total_within_eq Admission.nowMs order tracks.past Admission.reqTokens
  rw [Key.read, sameVisible, left]
  refine stored.trans ?_
  rw [split, Nat.add_assoc]

/-- The sum the script starts from is the total of the window plus the drift,
and zero for an empty window. -/
theorem tpmSum_measure
    (tracks : Tracks drift clock nowMs observed)
    (order : nowMs ≤ call.nowMs)
    (together : call.clock + nowMs = clock + call.nowMs)
    (config : Config) :
    (measured config observed.windows call).tpmSum =
      (driftedTokens drift (inWindow call.nowMs observed.admitted) : Int) := by
  rw [tpmSum_measured, tracks.zcard_measure order together config,
    driftedTokens]
  simp only [List.length_eq_zero_iff]
  split
  · rfl
  · rename_i remains
    rw [tracks.sum_measure order together config remains, Option.getD_some]
    omega

/-- The keys after eviction still describe the log. The stored sum was not
written, so the expired weights are added to its drift. -/
theorem of_measure
    (tracks : Tracks drift clock nowMs observed)
    (order : nowMs ≤ call.nowMs)
    (together : call.clock + nowMs = clock + call.nowMs)
    (config : Config) :
    Tracks (drift + expiredTokens call.clock (call.arguments config)
      (observed.windows.elapse call.clock)) call.clock call.nowMs
      { windows := (measured config observed.windows call).windows
        admitted := observed.admitted } where
  past admission isMember := (tracks.past admission isMember).trans order
  rpm := tracks.rpm_measure order together config
  tpm := tracks.tpm_measure order together config
  sumOutlasts :=
    (tracks.sumOutlasts.advance together
      (within_later_subset Admission.nowMs order tracks.past)).of_deadline
        fun stored isStored =>
          ⟨stored, (Key.eq_some_of_visible isStored).1, rfl⟩
  sum nonempty := by
    have stored := tracks.sum_measure order together config nonempty
    rw [Nat.add_left_comm, Nat.add_comm _ drift] at stored
    exact (congrArg (Option.map Entry.value) (Key.visible_visible ..)).trans
      stored

/-- The verdict in terms of the log, the drift and the burst window. -/
theorem verdict_eq
    (tracks : Tracks drift clock nowMs observed)
    (order : nowMs ≤ call.nowMs)
    (together : call.clock + nowMs = clock + call.nowMs)
    (config : Config) :
    verdict config observed.windows call =
      if call.limits.rpmLimit ≤ (inWindow call.nowMs observed.admitted).length
      then some .rpm
      else if (call.arguments config).burstEnabled = 1 ∧
        (call.arguments config).burstLimit ≤
          (measured config observed.windows call).burstCount
      then some .burst
      else if call.limits.tpmLimit <
        (driftedTokens drift (inWindow call.nowMs observed.admitted) : Int) +
          call.reqTokens
      then some .tpm
      else none := by
  have count : (measured config observed.windows call).rpmCount = _ :=
    tracks.rpmCount_measure order together config
  have sum : (measured config observed.windows call).tpmSum = _ :=
    tracks.tpmSum_measure order together config
  rw [verdict, decision, count, sum]
  rfl

end Measure

section Record

variable {drift clock nowMs : Nat} {observed : Observed} {call : CheckCall}

/-- After a rejected call. -/
theorem observe_rejected
    (tracks : Tracks drift clock nowMs observed)
    (order : nowMs ≤ call.nowMs)
    (together : call.clock + nowMs = clock + call.nowMs)
    {config : Config}
    (enabled : config.rateLimitEnabled = true)
    {reason : RateLimitReason}
    (rejected : verdict config observed.windows call = some reason) :
    Tracks (drift + expiredTokens call.clock (call.arguments config)
      (observed.windows.elapse call.clock)) call.clock call.nowMs
      (observe config observed call) := by
  rw [observe_of_rejected enabled rejected]
  exact tracks.of_measure order together config

/-- After an admitted call the drift is what it was, or gone with the last
member of the window. -/
theorem observe_admitted
    (tracks : Tracks drift clock nowMs observed)
    (order : nowMs ≤ call.nowMs)
    (together : call.clock + nowMs = clock + call.nowMs)
    (fresh : ∀ admission ∈ observed.admitted, admission.uuid ≠ call.uuid)
    {config : Config}
    (enabled : config.rateLimitEnabled = true)
    (admitted : verdict config observed.windows call = none) :
    Tracks (if inWindow call.nowMs observed.admitted = [] then 0 else drift)
      call.clock call.nowMs (observe config observed call) := by
  rw [observe_of_admitted enabled admitted]
  have logged : ∀ admission ∈ observed.admitted ++ [call.admission],
      admission.nowMs ≤ call.nowMs := by
    intro admission isMember
    rcases List.mem_append.1 isMember with old | new
    · exact (tracks.past admission old).trans order
    · rw [List.mem_singleton.1 new]
      exact le_rfl
  refine ⟨logged, ?_, ?_, ?_, ?_⟩
  · apply (tracks.rpm_measure order together config).record (Nat.succ_pos _)
      (Nat.le_add_right ..) rfl
    intro isMember
    obtain ⟨admission, inside, same⟩ := List.mem_map.1 isMember
    exact fresh admission ((mem_within ..).1 inside).1
      (memberOf_injective same)
  · apply (tracks.tpm_measure order together config).record (Nat.succ_pos _)
      (Nat.le_add_right ..) rfl
    intro isMember
    obtain ⟨admission, inside, same⟩ := List.mem_map.1 isMember
    exact fresh admission ((mem_within ..).1 inside).1
      (memberOf_injective (tpmMember_injective same))
  · apply outlasts_of_fresh
    · intro admission isMember
      exact logged admission ((mem_within ..).1 isMember).1
    · intro stored isStored
      cases isStored
      rfl
  · intro _
    have sum : (measured config observed.windows call).tpmSum = _ :=
      tracks.tpmSum_measure order together config
    change (Key.setPx call.clock _ _).read call.clock = some
      ((tokens (inWindow call.nowMs (observed.admitted ++ [call.admission])) +
        _ : Nat) : Int)
    rw [Key.read_setPx, if_pos (Nat.lt_add_of_pos_right (Nat.succ_pos _)), sum,
      tokens_append_admission]
    change some (_ + (call.reqTokens : Int)) = _
    unfold driftedTokens
    by_cases empty : inWindow call.nowMs observed.admitted = []
    · simp [empty]
    · rw [if_neg empty, if_neg empty]
      congr 1
      omega

end Record

end Tracks

/-- The keys and the log after a list of calls on a fresh key. -/
def history (config : Config) (calls : List CheckCall) : Observed :=
  runFrom (observe config) {} calls

@[simp] theorem history_nil (config : Config) : history config [] = {} := rfl

@[simp] theorem history_concat
    (config : Config)
    (calls : List CheckCall)
    (call : CheckCall) :
    history config (calls ++ [call]) = observe config (history config calls) call :=
  runFrom_concat ..

/-- The log holds entries of calls only. -/
theorem exists_call_of_admitted
    {config : Config}
    {calls : List CheckCall}
    {admission : Admission}
    (isMember : admission ∈ (history config calls).admitted) :
    ∃ call ∈ calls, admission = call.admission := by
  induction calls using List.reverseRecOn with
  | nil => cases isMember
  | append_singleton calls call inductionHypothesis =>
      rw [history_concat, observe] at isMember
      dsimp only at isMember
      split at isMember
      · rcases List.mem_append.1 isMember with old | new
        · obtain ⟨earlier, isEarlier, same⟩ := inductionHypothesis old
          exact ⟨earlier, List.mem_append_left _ isEarlier, same⟩
        · exact ⟨call, by simp, List.mem_singleton.1 new⟩
      · obtain ⟨earlier, isEarlier, same⟩ := inductionHypothesis isMember
        exact ⟨earlier, List.mem_append_left _ isEarlier, same⟩

/-- The keys describe the log, and a call finds the clocks advanced together
and draws a new UUID. -/
structure Ready
    (drift : Nat)
    (observed : Observed)
    (call : CheckCall) : Prop where
  /-- The keys describe the log at an earlier time. -/
  tracks : ∃ clock nowMs, Tracks drift clock nowMs observed ∧
    nowMs ≤ call.nowMs ∧ call.clock + nowMs = clock + call.nowMs
  /-- The drawn UUID is not in the log. -/
  fresh : ∀ admission ∈ observed.admitted, admission.uuid ≠ call.uuid

/-- The run rule of the limiter. A bound on the drift that every call of a run
keeps holds when the next call is made. -/
theorem ready_of_run
    {config : Config}
    (bound : Nat → Prop)
    (initially : bound 0)
    {calls : List CheckCall}
    (ordered : calls.Pairwise CheckCall.Precedes)
    (keeps : ∀ before call after drift, calls = before ++ call :: after →
      bound drift → Ready drift (history config before) call →
        ∃ drift', bound drift' ∧ Tracks drift' call.clock call.nowMs
          (observe config (history config before) call))
    {next : CheckCall}
    (follows : ∀ call ∈ calls, call.Precedes next) :
    ∃ drift, bound drift ∧ Ready drift (history config calls) next := by
  have fresh : ∀ admission ∈ (history config calls).admitted,
      admission.uuid ≠ next.uuid := by
    intro admission isMember
    obtain ⟨call, isCall, rfl⟩ := exists_call_of_admitted isMember
    exact (follows call isCall).2.2
  induction calls using List.reverseRecOn generalizing next with
  | nil =>
      exact ⟨0, initially, ⟨next.clock, next.nowMs, tracks_initial _ _,
        le_rfl, rfl⟩, fresh⟩
  | append_singleton calls call inductionHypothesis =>
      have orderedBefore := List.pairwise_append.1 ordered
      have callFollows : ∀ earlier ∈ calls, earlier.Precedes call :=
        fun earlier isEarlier =>
          orderedBefore.2.2 earlier isEarlier call (List.mem_singleton_self _)
      obtain ⟨drift, bounded, ready⟩ := inductionHypothesis orderedBefore.1
        (fun before call' after drift equal =>
          keeps before call' (after ++ [call]) drift (by simp [equal]))
        callFollows (fun admission isMember => by
          obtain ⟨earlier, isEarlier, rfl⟩ := exists_call_of_admitted isMember
          exact (callFollows earlier isEarlier).2.2)
      obtain ⟨drift', bounded', tracks⟩ :=
        keeps calls call [] drift rfl bounded ready
      obtain ⟨order, together, _⟩ := follows call (by simp)
      refine ⟨drift', bounded', ⟨call.clock, call.nowMs, ?_, order, together⟩,
        fresh⟩
      rw [history_concat]
      exact tracks

/-- One call keeps the description of the log, with some drift. -/
theorem Ready.observe
    {config : Config}
    (enabled : config.rateLimitEnabled = true)
    {drift : Nat}
    {observed : Observed}
    {call : CheckCall}
    (ready : Ready drift observed call) :
    ∃ drift', Tracks drift' call.clock call.nowMs
      (observe config observed call) := by
  obtain ⟨⟨clock, nowMs, tracks, order, together⟩, fresh⟩ := ready
  cases decided : verdict config observed.windows call with
  | none =>
      exact ⟨_, tracks.observe_admitted order together fresh enabled decided⟩
  | some reason =>
      exact ⟨_, tracks.observe_rejected order together enabled decided⟩

/-- Whatever the calls were, the keys describe the log when the next one is
made. -/
theorem exists_ready
    {config : Config}
    (enabled : config.rateLimitEnabled = true)
    {calls : List CheckCall}
    (ordered : calls.Pairwise CheckCall.Precedes)
    {next : CheckCall}
    (follows : ∀ call ∈ calls, call.Precedes next) :
    ∃ drift, Ready drift (history config calls) next := by
  obtain ⟨drift, _, ready⟩ := ready_of_run (fun _ => True) trivial
    ordered (fun before call after drift _ _ ready => by
      obtain ⟨drift', tracks⟩ := ready.observe enabled
      exact ⟨drift', trivial, tracks⟩) follows
  exact ⟨drift, ready⟩

end RateLimiter
end AiGateway
