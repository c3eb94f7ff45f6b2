import AiGateway.Foundations.SortedSet
import Mathlib.Algebra.Order.BigOperators.Group.List
import Mathlib.Algebra.Order.Ring.Nat
import Mathlib.Data.List.Induction

/-!
# Sliding windows over a log

A log lists timed entries in the order in which they were appended. Its window
of a given width at `now` holds the entries timed after `now - width` and not
after `now`. This module relates three representations of a window: the log
itself, a sorted set from which old scores are removed before each reading, and
a stored sum from which the weights of the removed members are subtracted.

The clock of the store runs at the speed of the times in the log. A key written
together with an entry outlasts that entry when its time to live is at least
the width of the window.
-/

namespace AiGateway
namespace Foundations
namespace SlidingLog

variable {α : Type u} (time : α → Nat)

/-- The entries timed in the half-open interval of length `width` ending at
`now`. -/
def within (width now : Nat) (log : List α) : List α :=
  log.filter fun entry => decide (time entry ≤ now ∧ now < time entry + width)

/-- The sum of the weights of the entries of a log. -/
def total (weight : α → Nat) (log : List α) : Nat := (log.map weight).sum

@[simp] theorem within_nil (width now : Nat) :
    within time width now [] = [] := rfl

@[simp] theorem total_nil (weight : α → Nat) : total weight [] = 0 := rfl

@[simp] theorem mem_within
    (width now : Nat)
    (log : List α)
    (entry : α) :
    entry ∈ within time width now log ↔
      entry ∈ log ∧ time entry ≤ now ∧ now < time entry + width := by
  simp [within]

@[simp] theorem within_append
    (width now : Nat)
    (first second : List α) :
    within time width now (first ++ second) =
      within time width now first ++ within time width now second :=
  List.filter_append first second

@[simp] theorem total_append
    (weight : α → Nat)
    (first second : List α) :
    total weight (first ++ second) =
      total weight first + total weight second := by
  simp [total]

/-- A log in which every entry weighs one. -/
theorem total_one (log : List α) : total (fun _ => 1) log = log.length := by
  simp [total]

/-- The total of a part of a log is at most that of the log. -/
theorem total_le_of_sublist
    {weight : α → Nat}
    {part log : List α}
    (isPart : part.Sublist log) :
    total weight part ≤ total weight log :=
  (isPart.map weight).sum_le_sum fun _ _ => Nat.zero_le _

/-- The entries of a window that are still in the window at a later time. -/
theorem within_later
    (width : Nat)
    {now later : Nat}
    (order : now ≤ later)
    {log : List α}
    (past : ∀ entry ∈ log, time entry ≤ now) :
    within time width later log =
      (within time width now log).filter fun entry =>
        decide (later < time entry + width) := by
  unfold within
  rw [List.filter_filter]
  apply List.filter_congr
  intro entry entryMember
  have timed := past entry entryMember
  by_cases inside : later < time entry + width
  · simp [inside, timed, timed.trans order]
    omega
  · simp [inside]

theorem within_later_subset
    {width now later : Nat}
    (order : now ≤ later)
    {log : List α}
    (past : ∀ entry ∈ log, time entry ≤ now) :
    within time width later log ⊆ within time width now log := by
  rw [within_later time width order past]
  exact List.filter_subset_self _

/-- The weight of a window splits into what leaves by a later time and what
stays. -/
theorem total_within_eq
    {width now later : Nat}
    (order : now ≤ later)
    {log : List α}
    (past : ∀ entry ∈ log, time entry ≤ now)
    (weight : α → Nat) :
    total weight (within time width now log) =
      total weight ((within time width now log).filter fun entry =>
        !decide (later < time entry + width)) +
      total weight (within time width later log) := by
  rw [within_later time width order past]
  induction within time width now log with
  | nil => rfl
  | cons entry entries inductionHypothesis =>
      by_cases inside : later < time entry + width <;>
        simp [total, inside] at inductionHypothesis ⊢ <;> omega

/-- If the window that ends with each appended entry has at most a given
weight, then so has every window of the log. An empty window has weight zero,
whatever the bound. -/
theorem total_within_le
    {width : Nat}
    {weight : α → Nat}
    {bound : Int}
    {log : List α}
    (sorted : log.Pairwise fun earlier later => time earlier ≤ time later)
    (each : ∀ before entry after, log = before ++ entry :: after →
      (total weight (within time width (time entry) (before ++ [entry])) :
        Int) ≤ bound)
    (last : Nat) :
    (total weight (within time width last log) : Int) ≤ max 0 bound := by
  induction log using List.reverseRecOn with
  | nil => exact le_max_left 0 bound
  | append_singleton log entry inductionHypothesis =>
      obtain ⟨sortedBefore, _, entryAfter⟩ := List.pairwise_append.1 sorted
      have entryLast : ∀ earlier ∈ log, time earlier ≤ time entry :=
        fun earlier earlierMember =>
          entryAfter earlier earlierMember entry (List.mem_singleton_self entry)
      have before := inductionHypothesis sortedBefore
        fun before' entry' after' equal =>
          each before' entry' (after' ++ [entry]) (by simp [equal])
      by_cases inside : time entry ≤ last ∧ last < time entry + width
      · -- the window at `last` is a part of the window that ends with `entry`
        have narrower : within time width last (log ++ [entry]) =
            (within time width (time entry) (log ++ [entry])).filter
              fun earlier => decide (last < time earlier + width) := by
          unfold within
          rw [List.filter_filter]
          apply List.filter_congr
          intro earlier earlierMember
          have timed : time earlier ≤ time entry := by
            rcases List.mem_append.1 earlierMember with old | new
            · exact entryLast earlier old
            · rw [List.mem_singleton.1 new]
          by_cases recent : last < time earlier + width
          · simp [recent, timed, timed.trans inside.1]
            omega
          · simp [recent]
        have smaller : total weight (within time width last (log ++ [entry])) ≤
            total weight (within time width (time entry) (log ++ [entry])) := by
          rw [narrower]
          exact total_le_of_sublist List.filter_sublist
        have fits := each log entry [] rfl
        omega
      · have outside : within time width last [entry] = [] := by
          simp [within, inside]
        rw [within_append, outside, List.append_nil]
        exact before

/-- A key is kept at least a given time to live beyond the time of every entry
of a log. The store's clock reads `clock` when the log's time is `now`. -/
def Outlasts
    (ttl clock now : Nat)
    (log : List α)
    (key : Key β) : Prop :=
  ∀ stored ∈ key, ∀ deadline ∈ stored.deadline, ∀ entry ∈ log,
    time entry + ttl + clock ≤ deadline + now

section Outlasts

variable {time} {ttl clock now laterClock later : Nat} {log : List α}
  {key : Key β}

/-- The bound does not depend on when it is looked at. -/
theorem Outlasts.advance
    (outlasts : Outlasts time ttl clock now log key)
    (together : laterClock + now = clock + later)
    {part : List α}
    (isPart : part ⊆ log) :
    Outlasts time ttl laterClock later part key := by
  intro stored isStored deadline isDeadline entry entryMember
  have bound :=
    outlasts stored isStored deadline isDeadline entry (isPart entryMember)
  omega

/-- A key that outlasts an entry of the window is still there. -/
theorem Outlasts.visible_eq
    (outlasts : Outlasts time ttl clock now log key)
    {entry : α}
    (entryMember : entry ∈ log)
    (recent : now < time entry + ttl) :
    key.visible clock = key := by
  cases key with
  | none => rfl
  | some stored =>
      rw [Key.visible_some, if_pos]
      unfold Entry.live
      cases deadline : stored.deadline with
      | none => rfl
      | some instant =>
          have bound := outlasts stored rfl instant deadline entry entryMember
          exact decide_eq_true (by omega)

/-- What a command sees of a key outlasts what the key outlasts. -/
theorem Outlasts.of_deadline
    (outlasts : Outlasts time ttl clock now log key)
    {other : Key γ}
    (sameDeadline : ∀ stored ∈ other, ∃ old ∈ key,
      old.deadline = stored.deadline) :
    Outlasts time ttl clock now log other := by
  intro stored isStored deadline isDeadline
  obtain ⟨old, isOld, same⟩ := sameDeadline stored isStored
  exact outlasts old isOld deadline (same ▸ isDeadline)

/-- A deadline set now outlasts every entry not after now. -/
theorem outlasts_of_fresh
    (past : ∀ entry ∈ log, time entry ≤ now)
    (fresh : ∀ stored ∈ key, stored.deadline = some (clock + ttl)) :
    Outlasts time ttl clock now log key := by
  intro stored isStored deadline isDeadline entry entryMember
  have timed := past entry entryMember
  rw [fresh stored isStored, Option.mem_some_iff] at isDeadline
  omega

end Outlasts

/-- A sorted set lists the window of a log: the encoded entries under their
times, in the order of the log; and it outlasts them. -/
structure Mirrors
    (encode : α → μ)
    (width ttl clock now : Nat)
    (log : List α)
    (key : Key (SortedSet μ)) : Prop where
  /-- The members are the encoded entries of the window. -/
  shows : key.members clock =
    (within time width now log).map fun entry =>
      (encode entry, (time entry : Int))
  /-- The set is there as long as the entries are in the window. -/
  outlasts : Outlasts time ttl clock now (within time width now log) key

namespace Mirrors

variable {time} {encode : α → μ} {width ttl clock now laterClock later : Nat}
  {log : List α} {key : Key (SortedSet μ)}

/-- No key mirrors the empty log. -/
theorem of_nil : Mirrors time encode width ttl clock now [] none where
  shows := rfl
  outlasts := by rintro stored ⟨⟩

/-- At a later time the set still has its members, unless all of them have left
the window. -/
theorem members_later
    (mirrors : Mirrors time encode width ttl clock now log key)
    (bounded : width ≤ ttl)
    (order : now ≤ later)
    (together : laterClock + now = clock + later)
    (past : ∀ entry ∈ log, time entry ≤ now) :
    key.members laterClock = key.members clock ∨
      key.members laterClock = [] ∧ within time width later log = [] := by
  rcases Key.visible_later key (show clock ≤ laterClock by omega) with
    gone | same
  · refine Or.inr ⟨by rw [Key.members, gone], ?_⟩
    by_contra remains
    obtain ⟨entry, entryMember⟩ := List.exists_mem_of_ne_nil _ remains
    have narrower := within_later time width order past
    have live := (mirrors.outlasts.advance together
      (narrower ▸ List.filter_subset_self _)).visible_eq entryMember
      (by have recent := ((mem_within ..).1 entryMember).2.2; omega)
    have stored : key ≠ none := by
      rintro rfl
      have shown := mirrors.shows
      rw [Key.members_none] at shown
      have inWindow : entry ∈ within time width now log := by
        rw [narrower] at entryMember
        exact List.mem_of_mem_filter entryMember
      rw [List.map_eq_nil_iff.1 shown.symm] at inWindow
      cases inWindow
    exact stored (live ▸ gone)
  · exact Or.inl (by rw [Key.members, Key.members, same])

/-- The range of scores that left the window selects the entries that left
it, as long as an entry remains. -/
theorem zrangebyscore_later
    (mirrors : Mirrors time encode width ttl clock now log key)
    (bounded : width ≤ ttl)
    (order : now ≤ later)
    (together : laterClock + now = clock + later)
    (past : ∀ entry ∈ log, time entry ≤ now)
    (remains : within time width later log ≠ []) :
    key.zrangebyscore laterClock 0 ((later : Int) - width) =
      ((within time width now log).filter fun entry =>
        !decide (later < time entry + width)).map encode := by
  rcases mirrors.members_later bounded order together past with
    same | ⟨_, left⟩
  · rw [Key.zrangebyscore, same, mirrors.shows, List.filter_map, List.map_map]
    congr 1
    apply List.filter_congr
    intro entry _
    simp only [Function.comp, scoreInRange]
    by_cases recent : later < time entry + width <;> simp [recent] <;> omega
  · exact absurd left remains

/-- A set from which the scores that left the window are removed mirrors the
window at the later time. -/
theorem advance
    (mirrors : Mirrors time encode width ttl clock now log key)
    (bounded : width ≤ ttl)
    (order : now ≤ later)
    (together : laterClock + now = clock + later)
    (past : ∀ entry ∈ log, time entry ≤ now)
    {evicted : Key (SortedSet μ)}
    (removed : evicted.members laterClock =
      (key.members laterClock).filter fun stored =>
        !scoreInRange 0 ((later : Int) - width) stored)
    (sameDeadline : ∀ stored ∈ evicted, ∃ old ∈ key,
      old.deadline = stored.deadline) :
    Mirrors time encode width ttl laterClock later log evicted where
  shows := by
    rw [removed]
    rcases mirrors.members_later bounded order together past with
      same | ⟨gone, left⟩
    · rw [same, mirrors.shows, List.filter_map, within_later time width order past]
      congr 1
      apply List.filter_congr
      intro entry _
      simp only [Function.comp, scoreInRange]
      by_cases recent : later < time entry + width <;> simp [recent] <;> omega
    · rw [gone, left]
      rfl
  outlasts :=
    (mirrors.outlasts.advance together
      (within_later_subset time order past)).of_deadline sameDeadline

/-- An entry added under the present time, with a new time to live. -/
theorem record [DecidableEq μ]
    (mirrors : Mirrors time encode width ttl clock now log key)
    (positive : 0 < width)
    (bounded : width ≤ ttl)
    {entry : α}
    (timed : time entry = now)
    (fresh : encode entry ∉ (within time width now log).map encode) :
    Mirrors time encode width ttl clock now (log ++ [entry])
      ((key.zadd clock now (encode entry)).pexpire clock ttl) where
  shows := by
    have notMember : encode entry ∉ (key.members clock).map Prod.fst := by
      rw [mirrors.shows, List.map_map]
      exact fresh
    have inside : within time width now [entry] = [entry] := by
      simp [within, timed, positive]
    rw [Key.members_pexpire clock (by omega),
      Key.members_zadd_of_fresh notMember, mirrors.shows, within_append,
      inside, List.map_append, List.map_singleton, timed]
  outlasts := by
    apply outlasts_of_fresh
    · intro earlier earlierMember
      exact ((mem_within ..).1 earlierMember).2.1
    · intro stored isStored
      obtain ⟨old, _, rfl⟩ := Option.map_eq_some_iff.1 isStored
      rfl

end Mirrors

end SlidingLog
end Foundations
end AiGateway
