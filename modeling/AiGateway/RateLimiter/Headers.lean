import AiGateway.RateLimiter.Tracking
import AiGateway.Foundations.CoveredSet
import Mathlib.Data.List.MinMax
import Mathlib.Order.Bounds.Basic

/-!
# The reported headers

Every answer carries the requests that remain, the second at which the window
frees up and, when rejected, the seconds to wait. They are computed from the
RPM set as the call leaves it. In a run in the order of the callers' times this
set lists the admitted requests of the last minute, provided that the store's
clock does not gain more on the callers than the second by which the keys
outlive their windows.
-/

namespace AiGateway
namespace RateLimiter

open Foundations SlidingLog

/-- A later call on the same key: the caller's times do not decrease, the
store's clock gains at most a second on them, and UUIDs do not repeat. -/
def CheckCall.Leads (earlier later : CheckCall) : Prop :=
  earlier.nowMs ≤ later.nowMs ∧
    later.clock + earlier.nowMs ≤ earlier.clock + later.nowMs + 1000 ∧
    earlier.uuid ≠ later.uuid

instance (earlier later : CheckCall) : Decidable (earlier.Leads later) :=
  inferInstanceAs (Decidable (_ ∧ _))

/-- The RPM set lists the window at `nowMs`, and its deadline is that of the
last admitted call. -/
structure ListsWindow
    (calls : List CheckCall)
    (clock nowMs : Nat)
    (admitted : List Admission)
    (key : Key (SortedSet String)) : Prop where
  /-- The set has not lapsed. -/
  settled : key.visible clock = key
  /-- Its members are the requests of the window under their times. -/
  shows : key.members clock = (inWindow nowMs admitted).map fun admission =>
    (admission.member, (admission.nowMs : Int))
  /-- It was last given a deadline by the last admitted call. -/
  outlives : ∀ stored, key = some stored → ∃ last ∈ calls,
    stored.deadline = some (last.clock + (oneMinuteMs + 1000)) ∧
    ∀ admission ∈ admitted, admission.nowMs ≤ last.nowMs

/-- What leaves the window by a later time is outside the range of scores that
stay. -/
theorem map_inWindow_later
    {nowMs later : Nat}
    (order : nowMs ≤ later)
    {admitted : List Admission}
    (past : ∀ admission ∈ admitted, admission.nowMs ≤ nowMs) :
    (inWindow later admitted).map
        (fun admission => (admission.member, (admission.nowMs : Int))) =
      ((inWindow nowMs admitted).map fun admission =>
        (admission.member, (admission.nowMs : Int))).filter
          fun stored => !scoreInRange 0 ((later : Int) - oneMinuteMs) stored := by
  rw [inWindow, within_later Admission.nowMs oneMinuteMs order past,
    List.filter_map]
  apply congrArg
  apply List.filter_congr
  intro admission _
  rw [Bool.eq_iff_iff]
  simp only [Function.comp, scoreInRange, Bool.not_eq_true',
    decide_eq_false_iff_not, decide_eq_true_eq]
  omega

/-- A call is not logged ahead of its time. -/
theorem past_append
    {call : CheckCall}
    {admitted : List Admission}
    (past : ∀ admission ∈ admitted, admission.nowMs ≤ call.nowMs) :
    ∀ admission ∈ admitted ++ [call.admission],
      admission.nowMs ≤ call.nowMs := by
  intro admission isMember
  rcases List.mem_append.1 isMember with old | new
  · exact past admission old
  · rw [List.mem_singleton.1 new]
    exact le_rfl

namespace ListsWindow

variable {calls : List CheckCall} {clock nowMs : Nat}
  {admitted : List Admission} {key : Key (SortedSet String)}

/-- Eviction at a later call leaves the window of that call. -/
theorem evict
    (lists : ListsWindow calls clock nowMs admitted key)
    (past : ∀ admission ∈ admitted, admission.nowMs ≤ nowMs)
    {next : CheckCall}
    (order : nowMs ≤ next.nowMs)
    (leads : ∀ call ∈ calls, call.Leads next) :
    ListsWindow calls next.clock next.nowMs admitted
      (key.zremrangebyscore next.clock 0
        ((next.nowMs : Int) - oneMinuteMs)) where
  settled := Key.visible_zremrangebyscore ..
  shows := by
    rw [Key.members_zremrangebyscore le_rfl, map_inWindow_later order past,
      ← lists.shows]
    cases key with
    | none => rfl
    | some stored =>
        have live : stored.live clock = true := by
          by_contra dead
          have settled := lists.settled
          rw [Key.visible_some, if_neg dead] at settled
          cases settled
        by_cases stays : stored.live next.clock = true
        · rw [Key.members_some, Key.members_some, if_pos stays, if_pos live]
        · -- the set lapsed, so the last admitted call is a minute old
          obtain ⟨last, isCall, deadline, latest⟩ := lists.outlives stored rfl
          have gone : last.clock + (oneMinuteMs + 1000) ≤ next.clock := by
            rw [Entry.live, deadline] at stays
            simpa using stays
          have gain := (leads last isCall).2.1
          rw [lists.shows, ← map_inWindow_later order past, Key.members_some,
            if_neg stays]
          have left : inWindow next.nowMs admitted = [] := by
            apply List.filter_eq_nil_iff.2
            intro admission isMember
            have earlier := latest admission isMember
            simp only [decide_eq_true_eq]
            omega
          rw [left]
          rfl
  outlives stored isStored := by
    obtain ⟨old, isOld, sameDeadline⟩ := Key.deadline_zremrangebyscore isStored
    rw [← sameDeadline]
    exact lists.outlives old isOld

/-- An admitted call is added to the window that ends with it. -/
theorem record
    {call : CheckCall}
    (lists : ListsWindow calls call.clock call.nowMs admitted key)
    (past : ∀ admission ∈ admitted, admission.nowMs ≤ call.nowMs)
    (fresh : ∀ admission ∈ admitted, admission.uuid ≠ call.uuid) :
    ListsWindow (calls ++ [call]) call.clock call.nowMs (admitted ++ [call.admission])
      ((key.zadd call.clock call.nowMs call.member).pexpire call.clock
        (oneMinuteMs + 1000)) where
  settled := Key.visible_pexpire _ (Nat.lt_add_of_pos_right (Nat.succ_pos _))
  shows := by
    have notMember : call.member ∉ (key.members call.clock).map Prod.fst := by
      rw [lists.shows, List.map_map]
      intro isMember
      obtain ⟨admission, inside, same⟩ := List.mem_map.1 isMember
      exact fresh admission ((mem_within ..).1 inside).1
        (memberOf_injective same)
    rw [Key.members_pexpire call.clock (Nat.succ_pos _),
      Key.members_zadd_of_fresh notMember, lists.shows,
      inWindow_append_admission, List.map_append, List.map_singleton]
    rfl
  outlives stored isStored := by
    obtain ⟨old, _, rfl⟩ := Option.map_eq_some_iff.1 isStored
    exact ⟨call, by simp, rfl, past_append past⟩

/-- A rejected call adds nothing. -/
theorem append
    (lists : ListsWindow calls clock nowMs admitted key)
    (call : CheckCall) :
    ListsWindow (calls ++ [call]) clock nowMs admitted key :=
  { lists with
    outlives := fun stored isStored => by
      obtain ⟨last, isCall, rest⟩ := lists.outlives stored isStored
      exact ⟨last, List.mem_append_left _ isCall, rest⟩ }

/-- The number of members is the number of requests in the window. -/
theorem zcard_eq (lists : ListsWindow calls clock nowMs admitted key) :
    key.zcard clock = (inWindow nowMs admitted).length := by
  rw [Key.zcard, lists.shows, List.length_map]

/-- The least score is the time of the oldest request in the window. -/
theorem zleast_eq
    (lists : ListsWindow calls clock nowMs admitted key)
    {oldest : Admission}
    (inside : oldest ∈ inWindow nowMs admitted)
    (first : ∀ admission ∈ inWindow nowMs admitted,
      oldest.nowMs ≤ admission.nowMs) :
    key.zleast clock = some (oldest.nowMs : Int) := by
  rw [Key.zleast, lists.shows, List.map_map, List.min?_eq_some_iff]
  constructor
  · exact List.mem_map.2 ⟨oldest, inside, rfl⟩
  · intro score isScore
    obtain ⟨admission, isMember, rfl⟩ := List.mem_map.1 isScore
    exact Int.ofNat_le.2 (first admission isMember)

end ListsWindow

/-- The log is not ahead of a time that every call has reached. -/
theorem past_of_reached
    (config : Config)
    {calls : List CheckCall}
    {later : Nat}
    (reached : ∀ call ∈ calls, call.nowMs ≤ later) :
    ∀ admission ∈ (history config calls).admitted,
      admission.nowMs ≤ later := by
  intro admission isMember
  obtain ⟨call, isCall, rfl⟩ := exists_call_of_admitted isMember
  exact reached call isCall

/-- The last call of a run is the latest. -/
theorem reached_last
    {calls : List CheckCall}
    {last : CheckCall}
    (leads : ∀ call ∈ calls, call.Leads last) :
    ∀ call ∈ calls ++ [last], call.nowMs ≤ last.nowMs := by
  intro call isCall
  rcases List.mem_append.1 isCall with old | new
  · exact (leads call old).1
  · rw [List.mem_singleton.1 new]

/-- The calls of a run lead to its last one. -/
theorem leads_of_concat
    {calls : List CheckCall}
    {call : CheckCall}
    (ordered : (calls ++ [call]).Pairwise CheckCall.Leads) :
    calls.Pairwise CheckCall.Leads ∧ ∀ earlier ∈ calls, earlier.Leads call := by
  obtain ⟨before, _, follows⟩ := List.pairwise_append.1 ordered
  exact ⟨before, fun earlier isCall =>
    follows earlier isCall call (List.mem_singleton_self call)⟩

section Run

variable {config : Config}
  (enabled : config.rateLimitEnabled = true)
  {calls : List CheckCall}
  (ordered : calls.Pairwise CheckCall.Leads)

include enabled

/-- If the set lists the window when a call has evicted, it does so when the
call is over. -/
theorem ListsWindow.observe
    {call : CheckCall}
    (leads : ∀ earlier ∈ calls, earlier.Leads call)
    (lists : ListsWindow calls call.clock call.nowMs
      (history config calls).admitted
      (measured config (history config calls).windows call).windows.rpm) :
    ListsWindow (calls ++ [call]) call.clock call.nowMs
      (history config (calls ++ [call])).admitted
      (history config (calls ++ [call])).windows.rpm := by
  rw [history_concat]
  cases decided : verdict config (history config calls).windows call with
  | none =>
      rw [observe_of_admitted enabled decided]
      apply lists.record (past_of_reached config fun earlier isCall =>
        (leads earlier isCall).1)
      intro admission isMember
      obtain ⟨earlier, isCall, rfl⟩ := exists_call_of_admitted isMember
      exact (leads earlier isCall).2.2
  | some reason =>
      rw [observe_of_rejected enabled decided]
      exact lists.append call

include ordered

/-- Through any run the evicted set lists the window of the next call. -/
theorem listsWindow_measured
    {next : CheckCall}
    (leads : ∀ call ∈ calls, call.Leads next) :
    ListsWindow calls next.clock next.nowMs (history config calls).admitted
      (measured config (history config calls).windows next).windows.rpm := by
  induction calls using List.reverseRecOn generalizing next with
  | nil =>
      exact ⟨rfl, rfl, by rintro stored ⟨⟩⟩
  | append_singleton calls call inductionHypothesis =>
      obtain ⟨orderedBefore, callLeads⟩ := leads_of_concat ordered
      have listed := (inductionHypothesis orderedBefore callLeads).observe
        enabled callLeads
      rw [rpm_measured]
      have order : call.nowMs ≤ next.nowMs := (leads call (by simp)).1
      exact listed.evict (past_of_reached config (reached_last callLeads)) order leads

/-- The script counts the requests in the window. -/
theorem rpmCount_eq
    {next : CheckCall}
    (leads : ∀ call ∈ calls, call.Leads next) :
    (measured config (history config calls).windows next).rpmCount =
      (inWindow next.nowMs (history config calls).admitted).length :=
  (listsWindow_measured enabled ordered leads).zcard_eq

/-- A call is rejected for the RPM limit exactly when the window is full. -/
theorem verdict_eq_rpm_iff
    {next : CheckCall}
    (leads : ∀ call ∈ calls, call.Leads next) :
    verdict config (history config calls).windows next = some .rpm ↔
      next.limits.rpmLimit ≤
        (inWindow next.nowMs (history config calls).admitted).length := by
  rw [← rpmCount_eq enabled ordered leads, verdict, decision]
  change (if next.limits.rpmLimit ≤ _ then _ else _) = _ ↔ _
  constructor
  · intro rejected
    by_contra room
    rw [if_neg room] at rejected
    split at rejected
    · cases rejected
    · split at rejected <;> cases rejected
  · intro full
    exact if_pos full

/-- With a constant limit no window holds more requests than it allows. -/
theorem length_inWindow_le
    {limit : Nat}
    (constant : ∀ call ∈ calls, call.limits.rpmLimit = limit)
    (later : Nat)
    (reached : ∀ call ∈ calls, call.nowMs ≤ later) :
    (inWindow later (history config calls).admitted).length ≤ limit := by
  induction calls using List.reverseRecOn generalizing later with
  | nil => exact Nat.zero_le limit
  | append_singleton calls call inductionHypothesis =>
      obtain ⟨orderedBefore, callLeads⟩ := leads_of_concat ordered
      have bounded := inductionHypothesis orderedBefore
        fun earlier isCall => constant earlier (List.mem_append_left _ isCall)
      rw [history_concat]
      cases decided : verdict config (history config calls).windows call with
      | some reason =>
          rw [observe_of_rejected enabled decided]
          exact bounded later fun earlier isCall =>
            reached earlier (List.mem_append_left _ isCall)
      | none =>
          rw [observe_of_admitted enabled decided]
          have room : ¬(call.limits.rpmLimit ≤
              (inWindow call.nowMs (history config calls).admitted).length) := by
            rw [← verdict_eq_rpm_iff enabled orderedBefore callLeads, decided]
            rintro ⟨⟩
          rw [constant call (by simp)] at room
          have logged := past_append (past_of_reached config fun earlier isCall =>
            (callLeads earlier isCall).1)
          -- the window at the later time is a part of the one just measured
          rw [inWindow, within_later Admission.nowMs oneMinuteMs
            (reached call (by simp)) logged]
          apply (List.length_filter_le ..).trans
          change (inWindow call.nowMs _).length ≤ limit
          rw [inWindow_append_admission, List.length_append,
            List.length_singleton]
          omega

end Run

/-- Rounding up to seconds gives the least number of them that is enough. -/
theorem le_ceilSeconds_iff (ms seconds : Int) :
    ceilSeconds ms ≤ seconds ↔ ms ≤ 1000 * seconds := by
  unfold ceilSeconds
  omega

/-- The oldest request of a window. -/
structure IsOldest (nowMs : Nat) (admitted : List Admission)
    (oldest : Admission) : Prop where
  inside : oldest ∈ inWindow nowMs admitted
  first : ∀ admission ∈ inWindow nowMs admitted,
    oldest.nowMs ≤ admission.nowMs

/-- A window that is not empty has an oldest request. -/
theorem exists_isOldest
    {nowMs : Nat}
    {admitted : List Admission}
    (nonempty : inWindow nowMs admitted ≠ []) :
    ∃ oldest, IsOldest nowMs admitted oldest := by
  cases least : (inWindow nowMs admitted).argmin Admission.nowMs with
  | none => exact absurd (List.argmin_eq_none.1 least) nonempty
  | some oldest =>
      exact ⟨oldest, List.argmin_mem least,
        fun admission inside => List.le_of_mem_argmin inside least⟩

/-- What an answer with exact headers says about the log after it. -/
structure HeadersExact
    (limit : Nat)
    (admitted : List Admission)
    (nowMs : Nat)
    (result : RateLimitResult) : Prop where
  /-- The requests of the window are taken from the limit. -/
  remaining : result.remaining =
    (limit : Int) - (inWindow nowMs admitted).length
  /-- The reset is the first whole second, from the time of the call on, at
  which the oldest of them is out of the window. -/
  reset : ∀ oldest, IsOldest nowMs admitted oldest →
    IsLeast {second : Int | (nowMs : Int) ≤ 1000 * second ∧
      (oldest.nowMs : Int) + oneMinuteMs ≤ 1000 * second} result.resetUnixSec

/-- The reset is computed from the RPM set as the call leaves it. -/
theorem check_resetUnixSec
    {config : Config}
    (enabled : config.rateLimitEnabled = true)
    (windows : Windows)
    (call : CheckCall) :
    (check config windows call).1.resetUnixSec =
      ceilSeconds ((freeAt call.clock oneMinuteMs
        (check config windows call).2.rpm).getD
          (call.nowMs + oneMinuteMs)) := by
  rw [check, if_pos enabled, rateLimitScript]
  dsimp only
  split <;> rfl

/-- The wait of a call rejected for the RPM limit is, too. -/
theorem check_retryAfterSec_rpm
    {config : Config}
    (enabled : config.rateLimitEnabled = true)
    {windows : Windows}
    {call : CheckCall}
    (rejected : verdict config windows call = some .rpm) :
    (check config windows call).1.retryAfterSec =
      max 1 (((freeAt call.clock oneMinuteMs
        (check config windows call).2.rpm).map fun instant =>
          ceilSeconds (instant - call.nowMs)).getD 0) := by
  rw [verdict, measured] at rejected
  rw [check, if_pos enabled, rateLimitScript]
  simp only [rejected]
  rfl

section Answer

variable {config : Config}
  (enabled : config.rateLimitEnabled = true)
  {calls : List CheckCall}
  {call : CheckCall}
  (ordered : (calls ++ [call]).Pairwise CheckCall.Leads)

include enabled ordered

/-- When a call is over the set lists the window that ends with it. -/
theorem listsWindow_history :
    ListsWindow (calls ++ [call]) call.clock call.nowMs
      (history config (calls ++ [call])).admitted
      (history config (calls ++ [call])).windows.rpm := by
  obtain ⟨orderedBefore, leads⟩ := leads_of_concat ordered
  exact (listsWindow_measured enabled orderedBefore leads).observe enabled leads

/-- The requests that remain, before negative numbers are cut off. -/
theorem check_remaining :
    (check config (history config calls).windows call).1.remaining =
      max 0 (call.limits.rpmLimit -
        (inWindow call.nowMs
          (history config (calls ++ [call])).admitted).length) := by
  obtain ⟨orderedBefore, leads⟩ := leads_of_concat ordered
  have count := rpmCount_eq enabled orderedBefore leads
  rw [history_concat]
  cases decided : verdict config (history config calls).windows call with
  | none =>
      rw [observe_of_admitted enabled decided, inWindow_append_admission,
        List.length_append, List.length_singleton, ← count]
      rw [verdict, measured] at decided
      rw [check, if_pos enabled, rateLimitScript]
      simp only [decided]
      rfl
  | some reason =>
      rw [observe_of_rejected enabled decided, ← count]
      rw [verdict, measured] at decided
      rw [check, if_pos enabled, rateLimitScript]
      simp only [decided]
      rfl

/-- The headers of every answer are exact. -/
theorem headersExact_check
    {limit : Nat}
    (constant : ∀ earlier ∈ calls ++ [call], earlier.limits.rpmLimit = limit) :
    HeadersExact limit (history config (calls ++ [call])).admitted call.nowMs
      (check config (history config calls).windows call).1 where
  remaining := by
    have bounded := length_inWindow_le enabled ordered constant call.nowMs
      (reached_last (leads_of_concat ordered).2)
    rw [check_remaining enabled ordered, constant call (by simp)]
    omega
  reset oldest isOldest := by
    have listed := listsWindow_history enabled ordered
    have inside := ((mem_within ..).1 isOldest.inside).2.2
    have least := listed.zleast_eq isOldest.inside isOldest.first
    rw [history_concat] at least
    have free : freeAt call.clock oneMinuteMs
        (check config (history config calls).windows call).2.rpm =
          some ((oldest.nowMs : Int) + oneMinuteMs) :=
      congrArg (Option.map _) least
    rw [check_resetUnixSec enabled, free, Option.getD_some]
    constructor
    · have enough := (le_ceilSeconds_iff _ _).1
        (le_refl (ceilSeconds ((oldest.nowMs : Int) + oneMinuteMs)))
      exact ⟨by omega, enough⟩
    · rintro second ⟨_, out⟩
      exact (le_ceilSeconds_iff _ _).2 out

/-- The seconds to wait after a rejection for the RPM limit are the least number
of them after which the oldest request is out of the window. -/
theorem retryAfterSec_le_iff
    (rejected : verdict config (history config calls).windows call = some .rpm)
    {oldest : Admission}
    (isOldest : IsOldest call.nowMs
      (history config (calls ++ [call])).admitted oldest)
    (seconds : Int) :
    (check config (history config calls).windows call).1.retryAfterSec ≤
        seconds ↔
      (oldest.nowMs : Int) + oneMinuteMs ≤ call.nowMs + 1000 * seconds := by
  have listed := listsWindow_history enabled ordered
  have inside := ((mem_within ..).1 isOldest.inside).2.2
  have least := listed.zleast_eq isOldest.inside isOldest.first
  rw [history_concat] at least
  have free : freeAt call.clock oneMinuteMs
      (check config (history config calls).windows call).2.rpm =
        some ((oldest.nowMs : Int) + oneMinuteMs) :=
    congrArg (Option.map _) least
  rw [check_retryAfterSec_rpm enabled rejected, free, Option.map_some,
    Option.getD_some, max_le_iff, le_ceilSeconds_iff]
  omega

end Answer

/-- A call rejected for the RPM limit is followed by another, with no call in
between: after the reported number of seconds the window has room, and a second
earlier it has not. -/
theorem wait_exact
    {config : Config}
    (enabled : config.rateLimitEnabled = true)
    {limit : Nat}
    (positive : 1 ≤ limit)
    {calls : List CheckCall}
    {call retry : CheckCall}
    (ordered : (calls ++ [call]).Pairwise CheckCall.Leads)
    (leads : ∀ earlier ∈ calls ++ [call], earlier.Leads retry)
    (constant : ∀ earlier ∈ calls ++ [call], earlier.limits.rpmLimit = limit)
    (same : retry.limits.rpmLimit = limit)
    (rejected : verdict config (history config calls).windows call = some .rpm)
    {seconds : Int}
    (wait : seconds =
      (check config (history config calls).windows call).1.retryAfterSec) :
    ((retry.nowMs : Int) = call.nowMs + 1000 * seconds →
      verdict config (history config (calls ++ [call])).windows retry ≠
        some .rpm) ∧
    ((retry.nowMs : Int) = call.nowMs + 1000 * (seconds - 1) →
      verdict config (history config (calls ++ [call])).windows retry =
        some .rpm) := by
  obtain ⟨orderedBefore, callLeads⟩ := leads_of_concat ordered
  have reached := reached_last callLeads
  have past := past_of_reached config reached
  have admitted : (history config (calls ++ [call])).admitted =
      (history config calls).admitted := by
    rw [history_concat, observe_of_rejected enabled rejected]
  have full := (verdict_eq_rpm_iff enabled orderedBefore callLeads).1 rejected
  rw [constant call (by simp), ← admitted] at full
  have bounded := length_inWindow_le enabled ordered constant call.nowMs reached
  obtain ⟨oldest, isOldest⟩ := exists_isOldest
    (show inWindow call.nowMs (history config (calls ++ [call])).admitted ≠ [] by
      intro empty
      rw [empty, List.length_nil] at full
      omega)
  have enough := retryAfterSec_le_iff enabled ordered rejected isOldest
  rw [← wait] at enough
  have later := within_later Admission.nowMs oneMinuteMs
    (leads call (by simp)).1 past
  have fullIff := verdict_eq_rpm_iff enabled ordered leads
  rw [same, inWindow, later] at fullIff
  constructor
  · -- the oldest request has left
    intro atWait rejectedAgain
    have stillFull := fullIff.1 rejectedAgain
    have out := (enough seconds).1 le_rfl
    have shorter : ((inWindow call.nowMs
        (history config (calls ++ [call])).admitted).filter fun admission =>
          decide (retry.nowMs < admission.nowMs + oneMinuteMs)).length <
        (inWindow call.nowMs
          (history config (calls ++ [call])).admitted).length := by
      rw [List.length_filter_lt_length_iff_exists]
      refine ⟨oldest, isOldest.inside, ?_⟩
      simp only [decide_eq_true_eq]
      omega
    exact absurd (Int.ofNat_le.1 stillFull)
      (Nat.not_le.2 (shorter.trans_le bounded))
  · -- no request has left
    intro before
    apply fullIff.2
    have stays : ¬(oldest.nowMs : Int) + oneMinuteMs ≤
        call.nowMs + 1000 * (seconds - 1) := by
      rw [← enough (seconds - 1)]
      omega
    rw [List.filter_eq_self.2]
    · exact full
    · intro admission inside
      have notOlder := isOldest.first admission inside
      simp only [decide_eq_true_eq]
      omega

/-- Every answer of a run with a constant limit carries exact headers, and the
wait reported for the RPM limit is the shortest one that is enough. -/
theorem headers_and_wait_exact
    (config : Config)
    (enabled : config.rateLimitEnabled = true)
    (limit : Nat)
    (positive : 1 ≤ limit)
    (calls : List CheckCall)
    (call : CheckCall)
    (ordered : (calls ++ [call]).Pairwise CheckCall.Leads)
    (constant : ∀ earlier ∈ calls ++ [call],
      earlier.limits.rpmLimit = limit) :
    HeadersExact limit (history config (calls ++ [call])).admitted call.nowMs
        (check config (history config calls).windows call).1 ∧
      ((check config (history config calls).windows call).1.reason =
          some .rpm →
        ∀ retry : CheckCall,
          (∀ earlier ∈ calls ++ [call], earlier.Leads retry) →
          retry.limits.rpmLimit = limit →
          ((retry.nowMs : Int) = call.nowMs + 1000 *
              (check config (history config calls).windows
                call).1.retryAfterSec →
            (check config (history config (calls ++ [call])).windows
              retry).1.reason ≠ some .rpm) ∧
          ((retry.nowMs : Int) = call.nowMs + 1000 *
              ((check config (history config calls).windows
                call).1.retryAfterSec - 1) →
            (check config (history config (calls ++ [call])).windows
              retry).1.reason = some .rpm)) := by
  refine ⟨headersExact_check enabled ordered constant, ?_⟩
  intro rejected retry leads same
  rw [(check_reason enabled _ call).1] at rejected
  rw [(check_reason enabled _ retry).1]
  exact wait_exact enabled positive ordered leads constant same rejected rfl

/-- A call at the time of the store, with a limit of one request a minute. -/
def onePerMinute (nowMs : Nat) (uuid : String) : CheckCall where
  clock := nowMs
  nowMs := nowMs
  uuid := uuid
  limits := { rpmLimit := 1, tpmLimit := 100, estimatedTokens := 1 }

/-- The second call, half a minute after the first, is told to wait for thirty
seconds. -/
theorem headers_and_wait_exact_of_one :
    HeadersExact 1
      (history Config.default
        ([onePerMinute 1000 "a"] ++ [onePerMinute 31700 "b"])).admitted 31700
      (check Config.default
        (history Config.default [onePerMinute 1000 "a"]).windows
        (onePerMinute 31700 "b")).1 ∧
      (check Config.default
        (history Config.default
          ([onePerMinute 1000 "a"] ++ [onePerMinute 31700 "b"])).windows
        (onePerMinute 61700 "c")).1.reason ≠ some .rpm := by
  have exact := headers_and_wait_exact Config.default rfl 1 le_rfl
    [onePerMinute 1000 "a"] (onePerMinute 31700 "b") (by decide) (by decide)
  exact ⟨exact.1, (exact.2 (by decide +kernel) (onePerMinute 61700 "c") (by decide)
    rfl).1 (by decide +kernel)⟩

end RateLimiter
end AiGateway
