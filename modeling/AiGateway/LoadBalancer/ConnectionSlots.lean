import AiGateway.Foundations.Runs
import AiGateway.LoadBalancer.LeastConnections
import Mathlib.Data.List.Count

/-!
# Slots and their holders

Any number of requests take slots and give them back, one slot at a time each,
while counters lapse and processes crash. A gauge never counts more connections
than there are requests that hold a slot, unless one of them crashed; and while no
counter that is in use lapses it counts exactly those.
-/

namespace AiGateway
namespace LoadBalancer
namespace LeastConnections

open Foundations

section Model

/-- The gauges in Redis and the requests that hold a slot. -/
structure Slots where
  clock : Nat := 0
  gauges : Gauges := fun _ => none
  /-- The requests that hold a slot, with the provider it is on. -/
  held : List (Nat × String) := []
  /-- The last time that a request crashed that held a slot on a provider. -/
  lastCrash : String → Option Nat := fun _ => none

/-- What happens next. -/
inductive Event
  | elapse (ms : Nat)
  /-- The counter of a provider expires, or is evicted. -/
  | lapse (id : String)
  /-- A request that holds no slot selects a provider. -/
  | select (request draw : Nat) (candidates : List Candidate)
  /-- A request gives its slot back. -/
  | release (request : Nat)
  /-- The process of a request crashes. -/
  | crash (request : Nat)
  deriving DecidableEq

namespace Slots

variable (slots : Slots)

/-- The number of requests that hold a slot on a provider. -/
def holders (id : String) : Nat :=
  slots.held.countP fun slot => slot.2 = id

/-- What the gauge of a provider reads. -/
def gauge (id : String) : Int :=
  connections slots.clock slots.gauges id

/-- The provider that a request selects, if it holds no slot. -/
def picks (request draw : Nat) (candidates : List Candidate) :
    Option Candidate :=
  if (slots.held.lookup request).isSome then none
  else
    (LeastConnections.select slots.clock draw .answered candidates
      slots.gauges).1.toOption.join

/-- One event. -/
def step : Event → Slots
  | .elapse ms => { slots with clock := slots.clock + ms }
  | .lapse id => { slots with gauges := Function.update slots.gauges id Key.del }
  | .select request draw candidates =>
      match slots.picks request draw candidates with
      | none => slots
      | some chosen =>
          { slots with
            gauges := (LeastConnections.select slots.clock draw .answered
              candidates slots.gauges).2
            held := (request, chosen.id) :: slots.held }
  | .release request =>
      match slots.held.lookup request with
      | none => slots
      | some id =>
          { slots with
            gauges := LeastConnections.release slots.clock .answered id slots.gauges
            held := slots.held.erase (request, id) }
  | .crash request =>
      match slots.held.lookup request with
      | none => slots
      | some id =>
          { slots with
            held := slots.held.erase (request, id)
            lastCrash := Function.update slots.lastCrash id (some slots.clock) }

end Slots

end Model

section Steps

variable (slots : Slots)

namespace Slots

/-- What a selection can do: nothing, when the request holds a slot or there are no
candidates; or take a slot on a candidate with the smallest gauge. -/
theorem step_select_cases
    (request draw : Nat)
    (candidates : List Candidate) :
    (slots.picks request draw candidates = none ∧
      slots.step (.select request draw candidates) = slots) ∨
    ∃ chosen ∈ candidates,
      slots.picks request draw candidates = some chosen ∧
      (∀ other ∈ candidates, slots.gauge chosen.id ≤ slots.gauge other.id) ∧
      slots.step (.select request draw candidates) =
        { slots with
          gauges := Function.update slots.gauges chosen.id
            (taken slots.clock slots.gauges chosen.id)
          held := (request, chosen.id) :: slots.held } := by
  rw [step]
  cases isPicked : slots.picks request draw candidates with
  | none => exact .inl ⟨rfl, rfl⟩
  | some chosen =>
      right
      rw [picks] at isPicked
      split_ifs at isPicked
      have nonempty : candidates ≠ [] := by
        rintro rfl
        cases isPicked
      obtain ⟨least, isCandidate, isLeast, selected⟩ :=
        select_answered slots.clock slots.gauges draw nonempty
      rw [selected] at isPicked ⊢
      obtain rfl : least = chosen := Option.some_inj.1 isPicked
      exact ⟨least, isCandidate, rfl, isLeast, rfl⟩

/-- A request that holds a slot gives it back, or loses it when it crashes. -/
theorem mem_held
    {request : Nat}
    {id : String}
    (holds : slots.held.lookup request = some id) :
    (request, id) ∈ slots.held := by
  obtain ⟨before, after, split, -⟩ := List.lookup_eq_some_iff.1 holds
  simp [split]

theorem step_release_cases (request : Nat) :
    slots.step (.release request) = slots ∨
      ∃ id, (request, id) ∈ slots.held ∧
        slots.step (.release request) =
          { slots with
            gauges := Function.update slots.gauges id
              (releaseLua slots.clock (slots.gauges id)).2
            held := slots.held.erase (request, id) } := by
  rw [step]
  cases holds : slots.held.lookup request with
  | none => exact .inl rfl
  | some id => exact .inr ⟨id, slots.mem_held holds, rfl⟩

theorem step_crash_cases (request : Nat) :
    slots.step (.crash request) = slots ∨
      ∃ id, (request, id) ∈ slots.held ∧
        slots.step (.crash request) =
          { slots with
            held := slots.held.erase (request, id)
            lastCrash :=
              Function.update slots.lastCrash id (some slots.clock) } := by
  rw [step]
  cases holds : slots.held.lookup request with
  | none => exact .inl rfl
  | some id => exact .inr ⟨id, slots.mem_held holds, rfl⟩

end Slots

variable {slots}

/-- The holders after a slot was taken. -/
theorem holders_cons
    (held : List (Nat × String))
    (request : Nat)
    (id other : String) :
    (((request, id) :: held).countP fun slot => slot.2 = other) =
      (held.countP fun slot => slot.2 = other) + if other = id then 1 else 0 := by
  rw [List.countP_cons]
  by_cases same : other = id
  · simp [same]
  · simp [same, Ne.symm same]

/-- The holders before a slot was given back. -/
theorem holders_erase
    {held : List (Nat × String)}
    {request : Nat}
    {id : String}
    (isHeld : (request, id) ∈ held)
    (other : String) :
    (held.countP fun slot => slot.2 = other) =
      ((held.erase (request, id)).countP fun slot => slot.2 = other) +
        if other = id then 1 else 0 := by
  rw [(List.perm_cons_erase isHeld).countP_eq, holders_cons]

/-- As time passes a gauge reads the same, or nothing. -/
theorem connections_later
    (gauges : Gauges)
    (id : String)
    {clock later : Nat}
    (order : clock ≤ later) :
    connections later gauges id = 0 ∨
      connections later gauges id = connections clock gauges id := by
  unfold connections Key.read
  rcases Key.visible_later (gauges id) order with gone | same
  · exact .inl (by rw [gone]; rfl)
  · exact .inr (by rw [same])

/-- What a gauge reads after its slot was taken. -/
theorem connections_taken
    (clock : Nat)
    (gauges : Gauges)
    (id other : String) :
    connections clock
        (Function.update gauges id (taken clock gauges id)) other =
      connections clock gauges other + if other = id then 1 else 0 := by
  rw [connections_update]
  split_ifs with isId
  · have alive : clock < clock + connectionTtlMs :=
      Nat.lt_add_of_pos_right (by decide)
    rw [taken, Key.read_setPx, if_pos alive, isId]
    rfl
  · rw [Int.add_zero]

/-- What a gauge reads after a slot was given back: one less, if it was
positive. -/
theorem connections_released
    (clock : Nat)
    (gauges : Gauges)
    (id other : String) :
    connections clock
        (Function.update gauges id (releaseLua clock (gauges id)).2) other =
      connections clock gauges other -
        if other = id ∧ 0 < connections clock gauges id then 1 else 0 := by
  rw [connections_update]
  by_cases isId : other = id
  · subst isId
    rcases releaseLua_cases clock (gauges other) with
      ⟨notPositive, result⟩ | ⟨entry, alive, positive, result⟩
    · have none : ¬ 0 < connections clock gauges other := Int.not_lt.2 notPositive
      rw [result, if_pos rfl, if_neg fun both => none both.2, Int.sub_zero]
      rfl
    · have value : connections clock gauges other = entry.value := by
        rw [connections, Key.read, alive]
        rfl
      have live := (Key.eq_some_of_visible alive).2
      have stillLive :
          ({ entry with value := entry.value - 1 } : Entry Int).live clock =
            true := live
      simp [result, value, positive, Key.read, stillLive]
  · simp [isId]

namespace Slots

/-- A selection that takes a slot adds a connection and a holder. -/
theorem counts_select
    (request draw : Nat)
    (candidates : List Candidate) :
    slots.step (.select request draw candidates) = slots ∨
      ∃ chosen ∈ slots.picks request draw candidates, ∀ id,
        (slots.step (.select request draw candidates)).gauge id =
            slots.gauge id + (if id = chosen.id then 1 else 0) ∧
          (slots.step (.select request draw candidates)).holders id =
            slots.holders id + if id = chosen.id then 1 else 0 := by
  rcases slots.step_select_cases request draw candidates with
    ⟨-, unchanged⟩ | ⟨chosen, -, isPicked, -, result⟩
  · exact .inl unchanged
  · refine .inr ⟨chosen, isPicked, fun id => ?_⟩
    rw [result]
    exact ⟨connections_taken slots.clock slots.gauges chosen.id id,
      holders_cons slots.held request chosen.id id⟩

/-- A slot that is given back takes a holder away, and a connection if the gauge
counts any. -/
theorem counts_release (request : Nat) :
    slots.step (.release request) = slots ∨
      ∃ released, ∀ id,
        (slots.step (.release request)).gauge id = slots.gauge id -
            (if id = released ∧ 0 < slots.gauge released then 1 else 0) ∧
          slots.holders id = (slots.step (.release request)).holders id +
            if id = released then 1 else 0 := by
  rcases slots.step_release_cases request with
    unchanged | ⟨released, isHeld, result⟩
  · exact .inl unchanged
  · refine .inr ⟨released, fun id => ?_⟩
    rw [result]
    exact ⟨connections_released slots.clock slots.gauges released id,
      holders_erase isHeld id⟩

/-- A crash takes a holder away. -/
theorem counts_crash (request : Nat) :
    slots.step (.crash request) = slots ∨
      ∃ lost, ∀ id,
        (slots.step (.crash request)).gauge id = slots.gauge id ∧
          slots.holders id = (slots.step (.crash request)).holders id +
            if id = lost then 1 else 0 := by
  rcases slots.step_crash_cases request with unchanged | ⟨lost, isHeld, result⟩
  · exact .inl unchanged
  · refine .inr ⟨lost, fun id => ?_⟩
    rw [result]
    exact ⟨rfl, holders_erase isHeld id⟩

/-- As time passes a gauge reads the same, or nothing. -/
theorem gauge_elapse (ms : Nat) (id : String) :
    (slots.step (.elapse ms)).gauge id = 0 ∨
      (slots.step (.elapse ms)).gauge id = slots.gauge id :=
  connections_later slots.gauges id (Nat.le_add_right slots.clock ms)

theorem gauge_lapse (lapsed id : String) :
    (slots.step (.lapse lapsed)).gauge id =
      if id = lapsed then 0 else slots.gauge id :=
  connections_update slots.clock slots.gauges lapsed id Key.del

end Slots

end Steps

section Counts

/-- Every gauge counts the holders. -/
def Exact (slots : Slots) : Prop :=
  ∀ id, slots.gauge id = slots.holders id

/-- No process crashes. -/
def Event.NoCrash (event : Event) : Prop :=
  ∀ request, event ≠ .crash request

/-- No process crashes, and no counter lapses of a provider on which a slot is
held. -/
def KeepsCounters (slots : Slots) : Event → Prop
  | .elapse ms => ∀ id, 0 < slots.holders id →
      (slots.gauges id).visible (slots.clock + ms) =
        (slots.gauges id).visible slots.clock
  | .lapse id => slots.holders id = 0
  | .crash _ => False
  | _ => True

/-- A selection picks a candidate on which no more slots are held than on any
other. -/
def PicksFewest (slots : Slots) : Event → Prop
  | .select request draw candidates =>
      ∀ chosen ∈ slots.picks request draw candidates,
        chosen ∈ candidates ∧
          ∀ other ∈ candidates, slots.holders chosen.id ≤ slots.holders other.id
  | _ => True

/-- A request without a slot that selects among some candidates takes a slot on one of
them and adds a connection there, and a request gives back the slot that it holds. -/
def TakesSlot (slots : Slots) : Event → Prop
  | .select request draw candidates =>
      slots.held.lookup request = none → candidates ≠ [] →
        ∃ chosen ∈ candidates,
          slots.picks request draw candidates = some chosen ∧
          (slots.step (.select request draw candidates)).held =
            (request, chosen.id) :: slots.held ∧
          ∀ id, (slots.step (.select request draw candidates)).gauge id =
            slots.gauge id + if id = chosen.id then 1 else 0
  | .release request =>
      ∀ id, slots.held.lookup request = some id →
        (slots.step (.release request)).held = slots.held.erase (request, id)
  | _ => True

variable {slots : Slots} {id : String}

/-- A selection for a request without a slot picks a candidate. -/
theorem isSome_picks
    {request : Nat}
    {candidates : List Candidate}
    (draw : Nat)
    (holdsNone : slots.held.lookup request = none)
    (nonempty : candidates ≠ []) :
    ∃ chosen, slots.picks request draw candidates = some chosen := by
  obtain ⟨chosen, -, -, selected⟩ :=
    select_answered slots.clock slots.gauges draw nonempty
  refine ⟨chosen, ?_⟩
  rw [Slots.picks, holdsNone, selected]
  rfl

/-- Every selection and every release does its work. -/
theorem takesSlot (slots : Slots) (event : Event) : TakesSlot slots event := by
  cases event with
  | select request draw candidates =>
      intro holdsNone nonempty
      obtain ⟨picked, isPicked⟩ := isSome_picks draw holdsNone nonempty
      rcases slots.step_select_cases request draw candidates with
        ⟨none, -⟩ | ⟨chosen, isCandidate, isChosen, -, result⟩
      · rw [isPicked] at none
        cases none
      · refine ⟨chosen, isCandidate, isChosen, by rw [result], fun id => ?_⟩
        rw [result]
        exact connections_taken slots.clock slots.gauges chosen.id id
  | release request =>
      intro id holds
      rw [Slots.step, holds]
  | elapse _ => trivial
  | lapse _ => trivial
  | crash _ => trivial

/-- No event takes a gauge below zero. -/
theorem gauge_step_nonneg (nonneg : 0 ≤ slots.gauge id) (event : Event) :
    0 ≤ (slots.step event).gauge id := by
  cases event with
  | elapse ms => rcases slots.gauge_elapse ms id with gone | same <;> omega
  | lapse lapsed =>
      rw [slots.gauge_lapse]
      split_ifs <;> omega
  | select request draw candidates =>
      rcases slots.counts_select request draw candidates with
        unchanged | ⟨chosen, -, counts⟩
      · rwa [unchanged]
      · rw [(counts id).1]
        split_ifs <;> omega
  | release request =>
      rcases slots.counts_release request with unchanged | ⟨released, counts⟩
      · rwa [unchanged]
      · rw [(counts id).1]
        split_ifs with taken
        · rw [taken.1]
          omega
        · omega
  | crash request =>
      rcases slots.counts_crash request with unchanged | ⟨lost, counts⟩
      · rwa [unchanged]
      · rwa [(counts id).1]

/-- Only a crash takes a gauge above the number of holders. -/
theorem gauge_step_le
    (atMost : slots.gauge id ≤ slots.holders id)
    {event : Event}
    (noCrash : event.NoCrash) :
    (slots.step event).gauge id ≤ (slots.step event).holders id := by
  cases event with
  | elapse ms =>
      have sameHolders : (slots.step (.elapse ms)).holders id = slots.holders id := rfl
      rcases slots.gauge_elapse ms id with gone | same <;> omega
  | lapse lapsed =>
      have sameHolders : (slots.step (.lapse lapsed)).holders id =
          slots.holders id := rfl
      rw [slots.gauge_lapse]
      split_ifs <;> omega
  | select request draw candidates =>
      rcases slots.counts_select request draw candidates with
        unchanged | ⟨chosen, -, counts⟩
      · rwa [unchanged]
      · obtain ⟨gauge, holders⟩ := counts id
        split_ifs at gauge holders <;> omega
  | release request =>
      rcases slots.counts_release request with unchanged | ⟨released, counts⟩
      · rwa [unchanged]
      · obtain ⟨gauge, holders⟩ := counts id
        by_cases isReleased : id = released
        · subst isReleased
          simp only [true_and, if_true] at gauge holders
          split_ifs at gauge <;> omega
        · rw [if_neg isReleased] at holders
          rw [if_neg fun both => isReleased both.1] at gauge
          omega
  | crash request => exact absurd rfl (noCrash request)

/-- While no counter in use lapses, every event keeps the counts exact. -/
theorem Exact.step
    (exact : Exact slots)
    {event : Event}
    (keeps : KeepsCounters slots event) :
    Exact (slots.step event) := by
  intro id
  have counted := exact id
  cases event with
  | elapse ms =>
      have sameHolders : (slots.step (.elapse ms)).holders id = slots.holders id := rfl
      by_cases inUse : 0 < slots.holders id
      · have same : (slots.step (.elapse ms)).gauge id = slots.gauge id := by
          change connections _ slots.gauges id = connections _ slots.gauges id
          rw [connections, connections, Key.read, Key.read]
          exact congrArg (fun key => (Option.map Entry.value key).getD 0)
            (keeps id inUse)
        omega
      · rcases slots.gauge_elapse ms id with gone | same <;> omega
  | lapse lapsed =>
      have sameHolders : (slots.step (.lapse lapsed)).holders id =
          slots.holders id := rfl
      have unused : slots.holders lapsed = 0 := keeps
      rw [slots.gauge_lapse]
      split_ifs with isLapsed
      · rw [sameHolders, isLapsed, unused]
        rfl
      · rw [sameHolders, counted]
  | select request draw candidates =>
      rcases slots.counts_select request draw candidates with
        unchanged | ⟨chosen, -, counts⟩
      · rw [unchanged, counted]
      · obtain ⟨gauge, holders⟩ := counts id
        split_ifs at gauge holders <;> omega
  | release request =>
      rcases slots.counts_release request with unchanged | ⟨released, counts⟩
      · rw [unchanged, counted]
      · obtain ⟨gauge, holders⟩ := counts id
        by_cases isReleased : id = released
        · subst isReleased
          simp only [true_and, if_true] at gauge holders
          split_ifs at gauge <;> omega
        · rw [if_neg isReleased] at holders
          rw [if_neg fun both => isReleased both.1] at gauge
          omega
  | crash request => exact keeps.elim

/-- While the counts are exact, a selection picks a candidate with the fewest
holders. -/
theorem Exact.picksFewest
    (exact : Exact slots)
    (event : Event) :
    PicksFewest slots event := by
  cases event with
  | select request draw candidates =>
      intro chosen isPicked
      rcases slots.step_select_cases request draw candidates with
        ⟨none, -⟩ | ⟨least, isCandidate, picked, isLeast, -⟩
      · rw [none] at isPicked
        cases isPicked
      · obtain rfl : least = chosen := Option.some_inj.1 (picked.symm.trans isPicked)
        refine ⟨isCandidate, fun other isOther => ?_⟩
        have leastGauge := isLeast other isOther
        have counted := exact least.id
        have countedOther := exact other.id
        omega
  | elapse _ => trivial
  | lapse _ => trivial
  | release _ => trivial
  | crash _ => trivial

/-- In every run, every selection of a request without a slot takes one on a
candidate, and every release gives one back. In every run in which no process crashes,
every gauge lies between zero and the number of requests that hold a slot on its
provider, whatever counters lapse. In every run in which also no counter in use lapses,
every gauge is that number, which is zero when no request holds a slot, and every
selection picks a candidate on which the fewest slots are held. -/
theorem gauges_count_holders (events : List Event) :
    EveryStep Slots.step TakesSlot {} events ∧
    ((∀ event ∈ events, event.NoCrash) →
      ∀ id, 0 ≤ (runFrom Slots.step {} events).gauge id ∧
        (runFrom Slots.step {} events).gauge id ≤
          (runFrom Slots.step {} events).holders id) ∧
    (EveryStep Slots.step KeepsCounters {} events →
      (∀ id, (runFrom Slots.step {} events).gauge id =
        (runFrom Slots.step {} events).holders id) ∧
      EveryStep Slots.step PicksFewest {} events) := by
  have exactStart : Exact {} := fun _ => rfl
  refine ⟨?_, fun noCrash id => ⟨?_, ?_⟩, fun keeps => ⟨?_, ?_⟩⟩
  · exact (everyStep_iff_split _ _ _ _).2 fun _ event _ _ => takesSlot _ event
  · exact runFrom_induction (fun slots : Slots => 0 ≤ slots.gauge id)
      (fun _ event _ nonneg => gauge_step_nonneg nonneg event) (Int.le_refl 0)
  · exact runFrom_induction
      (fun slots : Slots => slots.gauge id ≤ slots.holders id)
      (fun _ event isEvent atMost => gauge_step_le atMost (noCrash event isEvent))
      (Int.le_refl 0)
  · exact EveryStep.invariant Exact
      (fun _ _ exact keeps => exact.step keeps) exactStart keeps
  · exact EveryStep.of_invariant Exact
      (fun _ _ exact keeps => exact.step keeps)
      (fun _ event exact _ => exact.picksFewest event) exactStart keeps

/-- Two requests on two providers, of which one gives its slot back; and with a
counter that lapses before that. -/
theorem gauges_count_holders_of_two_requests :
    (runFrom Slots.step {}
      [.select 1 0 [⟨"a", 1⟩, ⟨"b", 1⟩], .select 2 0 [⟨"a", 1⟩, ⟨"b", 1⟩],
        .release 2]).gauge "a" =
      (runFrom Slots.step {}
        [.select 1 0 [⟨"a", 1⟩, ⟨"b", 1⟩], .select 2 0 [⟨"a", 1⟩, ⟨"b", 1⟩],
          .release 2]).holders "a" ∧
    (runFrom Slots.step {}
      [.select 1 0 [⟨"a", 1⟩], .elapse 600000, .lapse "a", .release 1]).gauge "a" ≤
      (runFrom Slots.step {}
        [.select 1 0 [⟨"a", 1⟩], .elapse 600000, .lapse "a",
          .release 1]).holders "a" :=
  ⟨((gauges_count_holders
      [.select 1 0 [⟨"a", 1⟩, ⟨"b", 1⟩], .select 2 0 [⟨"a", 1⟩, ⟨"b", 1⟩],
        .release 2]).2.2 ⟨trivial, trivial, trivial, trivial⟩).1 "a",
    ((gauges_count_holders
      [.select 1 0 [⟨"a", 1⟩], .elapse 600000, .lapse "a", .release 1]).2.1
        (by simp [Event.NoCrash]) "a").2⟩

end Counts

end LeastConnections
end LoadBalancer
end AiGateway
