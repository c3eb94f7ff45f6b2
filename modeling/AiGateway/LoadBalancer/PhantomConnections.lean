import AiGateway.LoadBalancer.ConnectionSlots

/-!
# Phantom connections

A process that crashes leaves a connection on the gauge of its provider that nobody
gives back. All connections of a provider share one counter and one time to live, so
the phantom goes away when the counter lapses, and every selection of the provider
puts that off.
-/

namespace AiGateway
namespace LoadBalancer
namespace LeastConnections

open Foundations

section Model

variable (slots : Slots)

/-- If nothing more happens, from ten minutes after the last crash on a provider on
its gauge is at most the number of requests that hold a slot on it. -/
def Heals : Prop :=
  ∀ ms id,
    (∀ crashed ∈ slots.lastCrash id,
      crashed + connectionTtlMs ≤ slots.clock + ms) →
      (slots.step (.elapse ms)).gauge id ≤ slots.holders id

/-- A selection does not go to a provider whose gauge counts more connections than
there are holders, unless a process crashed on it at that very instant. -/
def SparesPhantoms : Event → Prop
  | .select request draw candidates =>
      ∀ chosen ∈ slots.picks request draw candidates,
        slots.holders chosen.id < slots.gauge chosen.id →
          slots.lastCrash chosen.id = some slots.clock
  | _ => True

/-- The counter of a provider is gone by an instant. -/
def LapsesBy (id : String) (bound : Nat) : Prop :=
  ∀ entry ∈ (slots.gauges id).visible slots.clock,
    ∃ deadline, entry.deadline = some deadline ∧ deadline ≤ bound

/-- Counters last ten minutes at most, and crashes lie in the past. -/
structure Timed : Prop where
  lapses : ∀ id, LapsesBy slots id (slots.clock + connectionTtlMs)
  crashed : ∀ id, ∀ crashed ∈ slots.lastCrash id, crashed ≤ slots.clock

/-- The gauge of a provider counts the holders at most, or its counter lapses ten
minutes after the last crash. -/
def Healing (id : String) : Prop :=
  slots.gauge id ≤ slots.holders id ∨
    ∃ crashed, slots.lastCrash id = some crashed ∧
      LapsesBy slots id (crashed + connectionTtlMs)

end Model

section Steps

variable {slots : Slots} {id : String} {bound : Nat}

theorem clock_le_step (slots : Slots) (event : Event) :
    slots.clock ≤ (slots.step event).clock := by
  cases event with
  | elapse ms => exact Nat.le_add_right slots.clock ms
  | lapse lapsed => exact Nat.le_refl _
  | select request draw candidates =>
      rcases slots.step_select_cases request draw candidates with
        ⟨-, result⟩ | ⟨chosen, -, -, -, result⟩ <;> simp [result]
  | release request =>
      rcases slots.step_release_cases request with
        result | ⟨released, -, result⟩ <;> simp [result]
  | crash request =>
      rcases slots.step_crash_cases request with
        result | ⟨lost, -, result⟩ <;> simp [result]

theorem lastCrash_step (slots : Slots) {event : Event} (noCrash : event.NoCrash) :
    (slots.step event).lastCrash = slots.lastCrash := by
  cases event with
  | elapse ms => rfl
  | lapse lapsed => rfl
  | select request draw candidates =>
      rcases slots.step_select_cases request draw candidates with
        ⟨-, result⟩ | ⟨chosen, -, -, -, result⟩ <;> rw [result]
  | release request =>
      rcases slots.step_release_cases request with
        result | ⟨released, -, result⟩ <;> rw [result]
  | crash request => exact absurd rfl (noCrash request)

theorem LapsesBy.mono
    {later : Nat}
    (lapses : LapsesBy slots id bound)
    (order : bound ≤ later) :
    LapsesBy slots id later := by
  intro entry isEntry
  obtain ⟨deadline, isDeadline, early⟩ := lapses entry isEntry
  exact ⟨deadline, isDeadline, Nat.le_trans early order⟩

/-- Writing one counter keeps the bound if the end of what is written does. -/
theorem LapsesBy.write
    {next : Slots}
    {changed : String}
    {gauge : Key Int}
    (lapses : LapsesBy slots id bound)
    (sameClock : next.clock = slots.clock)
    (gauges : next.gauges = Function.update slots.gauges changed gauge)
    (written : changed = id → ∀ entry ∈ gauge.visible slots.clock,
      ∃ deadline, entry.deadline = some deadline ∧ deadline ≤ bound) :
    LapsesBy next id bound := by
  intro entry isEntry
  rw [sameClock, gauges, Function.update_apply] at isEntry
  split_ifs at isEntry with isId
  · exact written isId.symm entry isEntry
  · exact lapses entry isEntry

/-- Only a selection of the provider puts off the end of its counter. -/
theorem LapsesBy.step
    (lapses : LapsesBy slots id bound)
    {event : Event}
    (unrefreshed : ∀ request draw candidates,
      event = .select request draw candidates →
        ∀ chosen ∈ slots.picks request draw candidates, chosen.id = id →
          slots.clock + connectionTtlMs ≤ bound) :
    LapsesBy (slots.step event) id bound := by
  cases event with
  | elapse ms =>
      intro entry isEntry
      exact lapses entry
        (Key.visible_of_visible_later (Nat.le_add_right slots.clock ms) isEntry)
  | lapse lapsed =>
      refine LapsesBy.write lapses rfl rfl ?_
      rintro - entry ⟨⟩
  | select request draw candidates =>
      rcases slots.step_select_cases request draw candidates with
        ⟨-, result⟩ | ⟨chosen, -, isPicked, -, result⟩
      · rwa [result]
      · rw [result]
        refine lapses.write rfl rfl fun isId entry isEntry => ?_
        have isTaken := (Key.eq_some_of_visible isEntry).1
        rw [← Option.some_inj.1 isTaken]
        exact ⟨_, rfl, unrefreshed request draw candidates rfl chosen isPicked
          isId⟩
  | release request =>
      rcases slots.step_release_cases request with result | ⟨released, -, result⟩
      · rwa [result]
      · rw [result]
        refine lapses.write rfl rfl fun isId entry isEntry => ?_
        subst isId
        rcases releaseLua_cases slots.clock (slots.gauges released) with
          ⟨-, unchanged⟩ | ⟨old, isOld, -, decremented⟩
        · rw [unchanged] at isEntry
          exact lapses entry isEntry
        · rw [decremented] at isEntry
          have isNew := (Key.eq_some_of_visible isEntry).1
          rw [← Option.some_inj.1 isNew]
          exact lapses old isOld
  | crash request =>
      rcases slots.step_crash_cases request with result | ⟨lost, -, result⟩
      · rwa [result]
      · rw [result]
        exact lapses

/-- Time bounds hold in every run. -/
theorem Timed.step (timed : Timed slots) (event : Event) :
    Timed (slots.step event) where
  lapses id :=
    (LapsesBy.step (timed.lapses id) fun _ _ _ _ _ _ _ => Nat.le_refl _).mono
      (Nat.add_le_add_right (clock_le_step slots event) _)
  crashed id crashed isCrash := by
    by_cases noCrash : event.NoCrash
    · rw [lastCrash_step slots noCrash] at isCrash
      exact Nat.le_trans (timed.crashed id crashed isCrash)
        (clock_le_step slots event)
    · simp only [Event.NoCrash, not_forall, not_not] at noCrash
      obtain ⟨request, rfl⟩ := noCrash
      rcases slots.step_crash_cases request with result | ⟨lost, -, result⟩
      · rw [result] at isCrash ⊢
        exact timed.crashed id crashed isCrash
      · rw [result] at isCrash ⊢
        dsimp only at isCrash ⊢
        rw [Function.update_apply] at isCrash
        split_ifs at isCrash
        · exact Nat.le_of_eq (Option.some_inj.1 isCrash).symm
        · exact timed.crashed id crashed isCrash

/-- Sparing the phantoms keeps all gauges healing. -/
theorem Healing.step
    (timed : Timed slots)
    (healing : Healing slots id)
    {event : Event}
    (spares : SparesPhantoms slots event) :
    Healing (slots.step event) id := by
  by_cases noCrash : event.NoCrash
  · by_cases atMost : slots.gauge id ≤ slots.holders id
    · exact .inl (gauge_step_le atMost noCrash)
    · obtain ⟨crashed, isCrash, lapses⟩ := healing.resolve_left atMost
      refine .inr ⟨crashed, by rw [lastCrash_step slots noCrash, isCrash],
        lapses.step ?_⟩
      rintro request draw candidates rfl chosen isPicked rfl
      have atOnce := spares chosen isPicked (Int.not_le.1 atMost)
      rw [isCrash] at atOnce
      exact Nat.le_of_eq (by rw [Option.some_inj.1 atOnce])
  · simp only [Event.NoCrash, not_forall, not_not] at noCrash
    obtain ⟨request, rfl⟩ := noCrash
    rcases slots.step_crash_cases request with result | ⟨lost, isHeld, result⟩
    · rwa [result]
    · by_cases isLost : id = lost
      · subst isLost
        refine .inr ⟨slots.clock, ?_, ?_⟩
        · rw [result]
          exact Function.update_self ..
        · rw [result]
          exact timed.lapses id
      · rw [result]
        rcases healing with atMost | ⟨crashed, isCrash, lapses⟩
        · have sameHolders := holders_erase isHeld id
          rw [if_neg isLost] at sameHolders
          exact .inl (Int.le_trans atMost (Int.ofNat_le.2 (Nat.le_of_eq sameHolders)))
        · refine .inr ⟨crashed, ?_, lapses⟩
          exact (Function.update_of_ne isLost _ _).trans isCrash

/-- A gauge that is healing is right from ten minutes after the last crash on. -/
theorem heals_of_healing (healing : ∀ id, Healing slots id) : Heals slots := by
  intro ms id longAgo
  rcases healing id with atMost | ⟨crashed, isCrash, lapses⟩
  · exact gauge_step_le atMost (by rintro _ ⟨⟩)
  · have gone : (slots.gauges id).visible (slots.clock + ms) = none := by
      cases alive : (slots.gauges id).visible (slots.clock + ms) with
      | none => rfl
      | some entry =>
          have visible := Key.visible_of_visible_later
            (Nat.le_add_right slots.clock ms) alive
          obtain ⟨deadline, isDeadline, early⟩ := lapses entry visible
          have live := (Key.eq_some_of_visible alive).2
          have late := longAgo crashed isCrash
          simp only [Entry.live, isDeadline, Option.all_some,
            decide_eq_true_eq] at live
          omega
    have reads : (slots.step (.elapse ms)).gauge id = 0 := by
      change connections (slots.clock + ms) slots.gauges id = 0
      rw [connections, Key.read, gone]
      rfl
    rw [reads]
    exact Int.natCast_nonneg _

/-- A selection that does not spare a phantom keeps it for ten more minutes. -/
theorem not_heals_of_refreshed
    (timed : Timed slots)
    {event : Event}
    (refreshes : ¬ SparesPhantoms slots event) :
    ¬ Heals (slots.step event) := by
  intro heals
  cases event with
  | select request draw candidates =>
      refine refreshes fun chosen isPicked phantom => ?_
      by_contra notAtOnce
      rcases slots.step_select_cases request draw candidates with
        ⟨none, -⟩ | ⟨least, -, picked, -, result⟩
      · rw [none] at isPicked
        cases isPicked
      obtain rfl : least = chosen := Option.some_inj.1 (picked.symm.trans isPicked)
      rw [result] at heals
      -- just before the refreshed counter lapses
      have last := heals (connectionTtlMs - 1) least.id fun crashed isCrash => ?_
      · change connections (slots.clock + (connectionTtlMs - 1))
            (Function.update slots.gauges least.id _) least.id ≤
          (((request, least.id) :: slots.held).countP _ : Int) at last
        have inTime : slots.clock + (connectionTtlMs - 1) <
            slots.clock + connectionTtlMs :=
          Nat.add_lt_add_left (by decide) slots.clock
        rw [holders_cons, if_pos rfl, connections_update, if_pos rfl, taken,
          Key.read_setPx, if_pos inTime] at last
        change slots.gauge least.id + 1 ≤ ((slots.holders least.id + 1 : Nat) : Int)
          at last
        omega
      · have past := timed.crashed least.id crashed isCrash
        have different : crashed ≠ slots.clock := by
          rintro rfl
          exact notAtOnce isCrash
        change crashed + connectionTtlMs ≤ slots.clock + (connectionTtlMs - 1)
        rw [connectionTtlMs]
        omega
  | elapse _ => exact refreshes trivial
  | lapse _ => exact refreshes trivial
  | release _ => exact refreshes trivial
  | crash _ => exact refreshes trivial

end Steps

section Runs

theorem timed_run (events : List Event) : Timed (runFrom Slots.step {} events) :=
  runFrom_induction Timed (fun _ event _ timed => timed.step event)
    ⟨by rintro id entry ⟨⟩, by rintro id crashed ⟨⟩⟩

/-- In every run of selections, releases, crashes and lapsing counters: at any time,
from ten minutes after the last crash on a provider on its gauge is at most the
number of requests that hold a slot on it, exactly when no selection after a crash
goes to a provider while its gauge counts more connections than that. -/
theorem phantoms_heal_iff (events : List Event) :
    (∀ before, before <+: events → Heals (runFrom Slots.step {} before)) ↔
      EveryStep Slots.step SparesPhantoms {} events := by
  constructor
  · intro heals
    rw [everyStep_iff_split]
    rintro before event after rfl
    by_contra refreshes
    refine not_heals_of_refreshed (timed_run before) refreshes ?_
    rw [← runFrom_concat Slots.step]
    exact heals _ ⟨after, by simp⟩
  · intro spares before isBefore
    refine heals_of_healing fun id => ?_
    have both := EveryStep.invariant
      (fun slots : Slots => Timed slots ∧ Healing slots id)
      (fun slots event invariant spares =>
        ⟨invariant.1.step event, invariant.2.step invariant.1 spares⟩)
      ⟨timed_run [], .inl (Int.le_refl 0)⟩ (spares.of_prefix isBefore)
    exact both.2

/-- A process crashes at the start with a slot on the only provider. Another request
uses the provider five minutes later, and ten minutes after the crash the gauge
still counts a connection that nobody holds. -/
theorem phantom_kept :
    ¬ Heals (runFrom Slots.step {}
      [.select 1 0 [⟨"a", 1⟩], .crash 1, .elapse 300000, .select 2 0 [⟨"a", 1⟩],
        .release 2]) := by
  intro heals
  have last := heals 300000 "a" (by decide)
  revert last
  decide

end Runs

end LeastConnections
end LoadBalancer
end AiGateway
