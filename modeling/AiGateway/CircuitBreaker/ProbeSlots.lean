import AiGateway.CircuitBreaker.Requests

/-!
# Probe slots

The probe counter is meant to bound the probes in flight. It is anonymous: a
success or a release decrements it whoever reports, so a request that was
admitted earlier and reports while the breaker is half-open gives back a slot it
never took. As long as no such report arrives the counter is the number of
outstanding probes, and the bound holds.
-/

namespace AiGateway
namespace CircuitBreaker

open Foundations

namespace Requests

/-- No probe of the current episode outlives its lease. -/
def Leased
    (options : CircuitBreakerOptions)
    (system : Requests)
    (event : Event) : Prop :=
  ∀ flight ∈ system.inFlight, system.IsProbe flight →
    event.clock < flight.admittedAt + options.timeoutMs

instance (options : CircuitBreakerOptions) (system : Requests) (event : Event) :
    Decidable (system.Leased options event) :=
  inferInstanceAs (Decidable (∀ flight ∈ _, _ → _))

/-- A request that the current episode did not admit as a probe gives back a
probe slot: it reports a success that does not close the breaker, or a release,
while the breaker is half-open and a slot is taken. -/
def ReturnsForeignSlot
    (options : CircuitBreakerOptions)
    (system : Requests)
    (event : Event) : Prop :=
  system.keys.phase = .halfOpen ∧
    0 < system.keys.probes event.clock ∧
    match event with
    | .recordSuccess id _ =>
        ¬system.ProbeReports id ∧
          system.keys.halfSuccesses.getD 0 + 1 < options.successThreshold
    | .release id _ => ¬system.ProbeReports id
    | _ => False

instance (options : CircuitBreakerOptions) (system : Requests) (event : Event) :
    Decidable (system.ReturnsForeignSlot options event) :=
  match event with
  | .acquire _ _ _ => inferInstanceAs (Decidable (_ ∧ _ ∧ False))
  | .recordSuccess id _ =>
      inferInstanceAs (Decidable (_ ∧ _ ∧ ¬system.ProbeReports id ∧ _))
  | .recordFailure _ _ _ => inferInstanceAs (Decidable (_ ∧ _ ∧ False))
  | .release id _ =>
      inferInstanceAs (Decidable (_ ∧ _ ∧ ¬system.ProbeReports id))

/-- The invariant of a run without such reports: while the breaker is half-open
the counter is the number of outstanding probes, and outlasts their leases. -/
structure SlotsTracked
    (options : CircuitBreakerOptions)
    (system : Requests) : Prop where
  /-- A request is in flight once. -/
  distinct : (system.inFlight.map Flight.id).Nodup
  /-- Admissions are in the past. -/
  past : ∀ flight ∈ system.inFlight, flight.admittedAt ≤ system.clock
  /-- No probe belongs to a later episode. -/
  episodes : ∀ flight ∈ system.inFlight, ∀ episode ∈ flight.probeOf,
    episode ≤ system.episode
  /-- The bound. -/
  bound : system.outstanding ≤ options.halfOpenMaxProbes
  /-- The counter. -/
  counted : system.keys.phase = .halfOpen → ∃ deadline,
    system.keys.halfProbes =
        some { value := system.outstanding, deadline := some deadline } ∧
      ∀ flight ∈ system.inFlight, system.IsProbe flight →
        flight.admittedAt + options.timeoutMs ≤ deadline

namespace SlotsTracked

variable {options : CircuitBreakerOptions} {system : Requests}

/-- Nothing is in flight at the start. -/
theorem initial (options : CircuitBreakerOptions) : SlotsTracked options {} where
  distinct := List.nodup_nil
  past := by rintro flight ⟨⟩
  episodes := by rintro flight ⟨⟩
  bound := Nat.zero_le _
  counted := by rintro ⟨⟩

/-- While the leases hold, the counter a script reads is the number of
outstanding probes. -/
theorem probes_eq
    (tracked : SlotsTracked options system)
    {event : Event}
    (leased : system.Leased options event)
    (halfOpen : system.keys.phase = .halfOpen) :
    system.keys.probes event.clock = system.outstanding := by
  obtain ⟨deadline, stored, lasts⟩ := tracked.counted halfOpen
  rw [BreakerKeys.probes, Key.read, stored, Key.visible_some]
  by_cases live : event.clock < deadline
  · simp [Entry.live, live]
  · -- the counter lapsed, so no probe is outstanding
    have noneLeft : system.outstanding = 0 := by
      rw [outstanding, List.countP_eq_zero]
      intro flight isMember isProbe
      have isProbe := of_decide_eq_true isProbe
      have running := leased flight isMember isProbe
      have lasting := lasts flight isMember isProbe
      omega
    simp [Entry.live, live, noneLeft]

/-- The one flight with an id decides whether a report is a probe's. -/
theorem probeReports_iff
    (tracked : SlotsTracked options system)
    {flight : Flight}
    (isMember : flight ∈ system.inFlight) :
    system.ProbeReports flight.id ↔ system.IsProbe flight := by
  constructor
  · rintro ⟨other, isOther, same, isProbe⟩
    rwa [List.inj_on_of_nodup_map tracked.distinct isOther isMember same]
      at isProbe
  · exact fun isProbe => ⟨flight, isMember, rfl, isProbe⟩

/-- After a report one request less is in flight. -/
theorem of_report
    (tracked : SlotsTracked options system)
    {flight : Flight}
    (isMember : flight ∈ system.inFlight)
    {next : Requests}
    (clock : system.clock ≤ next.clock)
    (episode : next.episode = system.episode)
    (inFlight : next.inFlight = system.without flight.id)
    (counted : next.keys.phase = .halfOpen →
      system.keys.phase = .halfOpen ∧
        next.keys.halfProbes =
          system.keys.halfProbes.map fun entry =>
            { entry with value := entry.value -
                if system.IsProbe flight then 1 else 0 }) :
    SlotsTracked options next := by
  have sameTest : next.IsProbe = system.IsProbe := by
    funext other
    rw [IsProbe, IsProbe, episode]
  have fewer : system.outstanding =
      next.outstanding + if system.IsProbe flight then 1 else 0 := by
    rw [outstanding, outstanding, inFlight,
      countP_eq_of_mem _ tracked.distinct isMember]
    simp only [sameTest, without, decide_eq_true_eq]
  refine ⟨?_, ?_, ?_, ?_, ?_⟩
  · rw [inFlight]
    exact tracked.distinct.sublist (List.filter_sublist.map Flight.id)
  · intro other isOther
    rw [inFlight, mem_without] at isOther
    exact Nat.le_trans (tracked.past other isOther.1) clock
  · intro other isOther
    rw [inFlight, mem_without] at isOther
    rw [episode]
    exact tracked.episodes other isOther.1
  · have bound := tracked.bound
    omega
  · intro halfOpen
    obtain ⟨before, halfProbes⟩ := counted halfOpen
    obtain ⟨deadline, stored, lasts⟩ := tracked.counted before
    refine ⟨deadline, ?_, ?_⟩
    · rw [halfProbes, stored, fewer, Option.map_some]
      by_cases isProbe : system.IsProbe flight <;> simp [isProbe]
    · intro other isOther isProbe
      rw [inFlight, mem_without] at isOther
      rw [sameTest] at isProbe
      exact lasts other isOther.1 isProbe

/-- A slot is given back exactly when the reporting request is a probe. -/
theorem halfProbes_of_report
    (tracked : SlotsTracked options system)
    {event : Event}
    (leased : system.Leased options event)
    (halfOpen : system.keys.phase = .halfOpen)
    {flight : Flight}
    (isMember : flight ∈ system.inFlight)
    (own : ¬system.IsProbe flight → system.keys.probes event.clock ≤ 0) :
    (system.keys.returnSlot event.clock).halfProbes =
      system.keys.halfProbes.map fun entry =>
        { entry with value := entry.value -
            if system.IsProbe flight then 1 else 0 } := by
  have probes := tracked.probes_eq leased halfOpen
  obtain ⟨deadline, stored, lasts⟩ := tracked.counted halfOpen
  rw [halfProbes_returnSlot]
  by_cases isProbe : system.IsProbe flight
  · have positive : 0 < system.outstanding :=
      List.countP_pos_iff.2 ⟨flight, isMember, decide_eq_true isProbe⟩
    have running := leased flight isMember isProbe
    have lasting := lasts flight isMember isProbe
    have live : event.clock < deadline := by omega
    rw [if_pos (by omega), stored, Key.incrBy, Key.visible_some,
      if_pos (by simpa [Entry.live] using live)]
    simp [isProbe, Int.sub_eq_add_neg]
  · have untaken := own isProbe
    rw [if_neg (by omega), stored]
    simp [isProbe]

/-- One report keeps the invariant. -/
theorem step_report
    (tracked : SlotsTracked options system)
    {event : Event}
    (admissible : system.Admissible event)
    (leased : system.Leased options event)
    (own : ¬system.ReturnsForeignSlot options event)
    (isReport : ∀ id clock nowMs, event ≠ .acquire id clock nowMs) :
    SlotsTracked options (system.step options event) := by
  obtain ⟨order, admitted⟩ := admissible
  cases event with
  | acquire id clock nowMs => exact absurd rfl (isReport id clock nowMs)
  | recordSuccess id clock =>
      obtain ⟨flight, isMember, rfl⟩ := admitted
      refine tracked.of_report isMember order rfl rfl fun halfOpen => ?_
      change (successScript options clock system.keys).2.phase = _ at halfOpen
      change _ ∧ (successScript options clock system.keys).2.halfProbes = _
      rcases successScript_cases options clock system.keys with
        ⟨phase, result⟩ | ⟨phase, result⟩ | ⟨_, _, result⟩ |
          ⟨phase, fewer, result⟩
      · rw [result] at halfOpen
        exact absurd (phase.symm.trans halfOpen) (by decide)
      · rw [result] at halfOpen
        exact absurd (phase.symm.trans halfOpen) (by decide)
      · rw [result] at halfOpen
        exact absurd halfOpen (by decide)
      · have sameSlots : (successScript options clock
            system.keys).2.halfProbes =
              (system.keys.returnSlot clock).halfProbes := by
          rw [result, halfProbes_returnSlot, halfProbes_returnSlot]
          rfl
        rw [sameSlots]
        refine ⟨phase, tracked.halfProbes_of_report leased phase isMember
          fun other => ?_⟩
        by_contra taken
        exact own ⟨phase, Int.not_le.1 taken,
          fun probe => other ((tracked.probeReports_iff isMember).1 probe),
          fewer⟩
  | recordFailure id clock nowMs =>
      obtain ⟨flight, isMember, rfl⟩ := admitted
      exact tracked.of_report isMember order rfl rfl fun halfOpen =>
        absurd halfOpen (phase_failureScript_ne options clock nowMs system.keys)
  | release id clock =>
      obtain ⟨flight, isMember, rfl⟩ := admitted
      refine tracked.of_report isMember order rfl rfl fun halfOpen => ?_
      change (releaseScript clock system.keys).2.phase = _ at halfOpen
      change _ ∧ (releaseScript clock system.keys).2.halfProbes = _
      rcases releaseScript_cases clock system.keys with
        ⟨notHalfOpen, result⟩ | ⟨phase, result⟩
      · rw [result] at halfOpen
        exact absurd halfOpen notHalfOpen
      · rw [result]
        refine ⟨phase, tracked.halfProbes_of_report leased phase isMember
          fun other => ?_⟩
        by_contra taken
        exact own ⟨phase, Int.not_le.1 taken,
          fun probe => other ((tracked.probeReports_iff isMember).1 probe)⟩

/-- After an admission one request more is in flight. -/
theorem of_admission
    (tracked : SlotsTracked options system)
    {next : Requests}
    {flight : Flight}
    (inFlight : next.inFlight = flight :: system.inFlight)
    (fresh : ∀ other ∈ system.inFlight, other.id ≠ flight.id)
    (admittedAt : flight.admittedAt = next.clock)
    (order : system.clock ≤ next.clock)
    (episode : system.episode ≤ next.episode)
    (probeOf : ∀ episode ∈ flight.probeOf, episode ≤ next.episode)
    (bound : next.outstanding ≤ options.halfOpenMaxProbes)
    (counted : next.keys.phase = .halfOpen → ∃ deadline,
      next.keys.halfProbes =
          some { value := next.outstanding, deadline := some deadline } ∧
        ∀ flight ∈ next.inFlight, next.IsProbe flight →
          flight.admittedAt + options.timeoutMs ≤ deadline) :
    SlotsTracked options next := by
  refine ⟨?_, ?_, ?_, bound, counted⟩
  · rw [inFlight, List.map_cons, List.nodup_cons]
    refine ⟨fun isMember => ?_, tracked.distinct⟩
    obtain ⟨other, isOther, same⟩ := List.mem_map.1 isMember
    exact fresh other isOther same
  · intro other isOther
    rw [inFlight] at isOther
    rcases List.mem_cons.1 isOther with rfl | old
    · exact Nat.le_of_eq admittedAt
    · exact Nat.le_trans (tracked.past other old) order
  · intro other isOther
    rw [inFlight] at isOther
    rcases List.mem_cons.1 isOther with rfl | old
    · exact probeOf
    · exact fun old' isOld => Nat.le_trans (tracked.episodes other old old' isOld)
        episode

/-- After the admission of a probe, when the counter says how many there are
now and has a new lease. -/
theorem of_probe
    (tracked : SlotsTracked options system)
    {next : Requests}
    {flight : Flight}
    (others : Nat)
    (inFlight : next.inFlight = flight :: system.inFlight)
    (fresh : ∀ other ∈ system.inFlight, other.id ≠ flight.id)
    (admittedAt : flight.admittedAt = next.clock)
    (order : system.clock ≤ next.clock)
    (episode : system.episode ≤ next.episode)
    (isProbe : next.IsProbe flight)
    (counted : (system.inFlight.countP fun other =>
      decide (next.IsProbe other)) = others)
    (free : others < options.halfOpenMaxProbes)
    (halfProbes : next.keys.halfProbes =
      some
        { value := (others + 1 : Nat)
          deadline := some (next.clock + options.timeoutMs) }) :
    SlotsTracked options next := by
  have oneMore : next.outstanding = others + 1 := by
    rw [outstanding, inFlight, List.countP_cons, counted,
      if_pos (decide_eq_true isProbe)]
  refine tracked.of_admission inFlight fresh admittedAt order episode ?_
    (oneMore ▸ free) fun _ => ⟨next.clock + options.timeoutMs, ?_, ?_⟩
  · intro probeOf isProbeOf
    rw [isProbe, Option.mem_some_iff] at isProbeOf
    exact Nat.le_of_eq isProbeOf.symm
  · rw [halfProbes, oneMore]
  · intro other isOther _
    rw [inFlight] at isOther
    rcases List.mem_cons.1 isOther with rfl | old
    · exact Nat.le_of_eq (congrArg (· + options.timeoutMs) admittedAt)
    · exact Nat.add_le_add_right
        (Nat.le_trans (tracked.past other old) order) _

/-- One acquire keeps the invariant. -/
theorem step_acquire
    (tracked : SlotsTracked options system)
    {id clock nowMs : Nat}
    (admissible : system.Admissible (.acquire id clock nowMs))
    (leased : system.Leased options (.acquire id clock nowMs)) :
    SlotsTracked options (system.step options (.acquire id clock nowMs)) := by
  obtain ⟨order, fresh⟩ := admissible
  change system.clock ≤ clock at order
  rcases step_acquire_cases options system id clock nowMs with
    ⟨phase, stepped⟩ | ⟨phase, stepped⟩ | ⟨phase, free, stepped⟩ |
      ⟨_, stepped⟩ <;> rw [stepped]
  · -- admitted while closed: no probe
    refine tracked.of_admission rfl fresh rfl order (Nat.le_refl _)
      (by simp) ?_ fun halfOpen => absurd (phase.symm.trans halfOpen) (by decide)
    rw [outstanding, List.countP_cons_of_neg (by simp [IsProbe])]
    exact tracked.bound
  · -- the first probe of a new episode, to which no earlier request belongs
    refine tracked.of_probe 0 rfl fresh rfl order (Nat.le_succ _) rfl ?_
      options.halfOpenMaxProbes_pos rfl
    rw [List.countP_eq_zero]
    intro flight isMember isProbe
    have older := tracked.episodes flight isMember (system.episode + 1)
      (of_decide_eq_true isProbe)
    omega
  · -- one more probe, which takes a free slot
    have probes := tracked.probes_eq leased phase
    change system.keys.probes clock = _ at probes
    refine tracked.of_probe system.outstanding rfl fresh rfl order
      (Nat.le_refl _) rfl rfl (by omega) ?_
    rw [probes]
    rfl
  · -- refused
    exact { tracked with
      past := fun flight isMember =>
        Nat.le_trans (tracked.past flight isMember) order }

/-- One event keeps the invariant. -/
theorem step
    (tracked : SlotsTracked options system)
    {event : Event}
    (admissible : system.Admissible event)
    (leased : system.Leased options event)
    (own : ¬system.ReturnsForeignSlot options event) :
    SlotsTracked options (system.step options event) := by
  cases event with
  | acquire id clock nowMs => exact tracked.step_acquire admissible leased
  | recordSuccess id clock =>
      exact tracked.step_report admissible leased own (by simp)
  | recordFailure id clock nowMs =>
      exact tracked.step_report admissible leased own (by simp)
  | release id clock =>
      exact tracked.step_report admissible leased own (by simp)

end SlotsTracked

/-- Over every run in which no probe outlives its lease and no request gives
back a slot it did not take, the probes of the current episode that have not
reported are at most `halfOpenMaxProbes` at every moment. -/
theorem outstanding_le_halfOpenMaxProbes
    (options : CircuitBreakerOptions)
    {events : List Event}
    (every : EveryStep (step options)
      (fun system event => system.Admissible event ∧
        system.Leased options event ∧
          ¬system.ReturnsForeignSlot options event) {} events)
    {before : List Event}
    (isBefore : before <+: events) :
    (runFrom (step options) {} before).outstanding ≤
      options.halfOpenMaxProbes := by
  have tracked : SlotsTracked options (runFrom (step options) {} before) :=
    EveryStep.invariant (SlotsTracked options)
      (fun _ _ tracked allowed =>
        tracked.step allowed.1 allowed.2.1 allowed.2.2)
      (SlotsTracked.initial options) (every.of_prefix isBefore)
  exact tracked.bound

/-- A second request does not get the slot of the outstanding probe. -/
theorem outstanding_of_second_acquire :
    (runFrom (step .default) {}
      (episodeWithStraggler ++ [.acquire 8 30011 30011])).outstanding ≤ 1 :=
  outstanding_le_halfOpenMaxProbes .default (by decide) (List.prefix_refl _)

/-- The first request, admitted while the breaker was closed, reports its
success during the episode and gives back the slot of the probe. Another probe
is admitted beside the outstanding one. -/
theorem straggler_returns_slot_of_probe :
    let events := episodeWithStraggler ++
      [.recordSuccess 1 30011, .acquire 8 30012 30012]
    EveryStep (step .default)
        (fun system event => system.Admissible event ∧
          system.Leased .default event) {} events ∧
      (runFrom (step .default) {} events).keys.phase = .halfOpen ∧
      (runFrom (step .default) {} events).outstanding = 2 ∧
      CircuitBreakerOptions.default.halfOpenMaxProbes = 1 := by
  decide

end Requests

end CircuitBreaker
end AiGateway
