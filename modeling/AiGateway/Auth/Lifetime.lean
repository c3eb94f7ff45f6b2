import AiGateway.Auth.Revocation

/-!
# How long a deleted key works

The cached context of a key is given a new time to live when it is written and on
every hit. So if the deletion of the entry is lost, or a call that read the row
before writes it again, the key works as long as it is used often enough. This
module follows the calls on one key with the instants of their steps.
-/

namespace AiGateway
namespace Auth

open Foundations

section Model

/-- A call of `authenticateKey`. -/
structure TimedCall where
  phase : Phase := .readingCache
  startedAt : Nat
  deriving DecidableEq

/-- The row and the cached context of one key, and the calls on all replicas;
times are milliseconds of the store's clock. -/
structure TimedSystem where
  now : Nat := 0
  row : ApiKeyRow
  cache : Key GatewayContext := none
  calls : Nat → Option TimedCall := fun _ => none
  /-- When the row was deactivated. -/
  deactivatedAt : Option Nat := none
  /-- When the database last returned the active row. -/
  activeReadAt : Option Nat := none

/-- One step of one call, or of an admin request. -/
inductive TimedEvent
  | start (id clock : Nat)
  | advance (id clock nowMs : Nat) (reached : Bool)
  /-- The database update of a PATCH or DELETE. -/
  | update (patch : KeyPatch) (clock : Nat)
  /-- A call of `invalidateAuthCache`. -/
  | invalidate (clock : Nat) (reached : Bool)

/-- When an event happens. -/
def TimedEvent.clock : TimedEvent → Nat
  | .start _ clock => clock
  | .advance _ clock _ _ => clock
  | .update _ clock => clock
  | .invalidate clock _ => clock

/-- Does a step give the cached context a new time to live? -/
def Phase.extends
    (clock : Nat)
    (reached : Bool)
    (cache : Key GatewayContext) : Phase → Bool
  | .writing _ => reached
  | .refreshing _ => reached && (cache.visible clock).isSome
  | _ => false

namespace TimedSystem

/-- The calls after one of them changed. -/
def setCall (system : TimedSystem) (id : Nat) (call : TimedCall) :
    Nat → Option TimedCall :=
  fun other => if other = id then some call else system.calls other

/-- What one event does. -/
def step (authCacheTtlSeconds : Nat) (system : TimedSystem) :
    TimedEvent → TimedSystem
  | .start id clock =>
      { system with
        now := clock
        calls := system.setCall id { startedAt := clock } }
  | .advance id clock nowMs reached =>
      match system.calls id with
      | none => { system with now := clock }
      | some call =>
          let next := authenticateStep authCacheTtlSeconds clock nowMs reached
            system.row system.cache call.phase
          { system with
            now := clock
            cache := next.2
            calls := system.setCall id { call with phase := next.1 }
            activeReadAt :=
              if call.phase = .readingDatabase ∧ reached = true ∧
                  system.row.isActive = true then
                some clock
              else
                system.activeReadAt }
  | .update patch clock =>
      { system with
        now := clock
        row := patch.apply system.row
        deactivatedAt :=
          if system.row.isActive = true ∧
              (patch.apply system.row).isActive = false then
            some clock
          else
            system.deactivatedAt }
  | .invalidate clock reached =>
      { system with
        now := clock
        cache := invalidateAuthCache reached system.cache }

/-- The clock does not go back, a call starts once, and the key is not activated
again. -/
def Admissible (system : TimedSystem) (event : TimedEvent) : Prop :=
  system.now ≤ event.clock ∧
    match event with
    | .start id _ => (system.calls id).isNone = true
    | .update patch _ => patch.isActive ≠ some true
    | _ => True

/-- The cached context gets a new time to live later than the row was deactivated
and later than the database last returned it active. -/
def ExtendsLate (system : TimedSystem) : TimedEvent → Prop
  | .advance id clock _ reached =>
      (system.calls id).any (fun call =>
          call.phase.extends clock reached system.cache) = true ∧
        system.deactivatedAt.any (· < clock) = true ∧
          system.activeReadAt.all (· < clock) = true
  | _ => False

/-- A call starts more than the time to live after the row was deactivated and
after the database last returned it active. -/
def StartsLate
    (authCacheTtlSeconds : Nat)
    (system : TimedSystem)
    (call : TimedCall) : Prop :=
  system.deactivatedAt.any
      (· + authCacheTtlSeconds * 1000 < call.startedAt) = true ∧
    system.activeReadAt.all
      (· + authCacheTtlSeconds * 1000 < call.startedAt) = true

instance
    (authCacheTtlSeconds : Nat)
    (system : TimedSystem)
    (call : TimedCall) :
    Decidable (system.StartsLate authCacheTtlSeconds call) :=
  inferInstanceAs (Decidable (_ ∧ _))

instance (system : TimedSystem) (event : TimedEvent) :
    Decidable (system.Admissible event) :=
  match event with
  | .start _ _ => inferInstanceAs (Decidable (_ ∧ _))
  | .advance _ _ _ _ => inferInstanceAs (Decidable (_ ∧ True))
  | .update _ _ => inferInstanceAs (Decidable (_ ∧ _))
  | .invalidate _ _ => inferInstanceAs (Decidable (_ ∧ True))

instance (system : TimedSystem) (event : TimedEvent) :
    Decidable (system.ExtendsLate event) :=
  match event with
  | .start _ _ => inferInstanceAs (Decidable False)
  | .advance _ _ _ _ => inferInstanceAs (Decidable (_ ∧ _ ∧ _))
  | .update _ _ => inferInstanceAs (Decidable False)
  | .invalidate _ _ => inferInstanceAs (Decidable False)

end TimedSystem

end Model

section Steps

variable
  {authCacheTtlSeconds clock nowMs : Nat}
  {reached : Bool}
  {row : ApiKeyRow}
  {cache : Key GatewayContext}
  {phase : Phase}

/-- A step keeps the cached context, drops it, or gives it a new time to live. -/
theorem cache_authenticateStep :
    let after := (authenticateStep authCacheTtlSeconds clock nowMs reached row
      cache phase).2
    after = cache ∨ after = none ∨
      phase.extends clock reached cache = true ∧
        ∃ entry, after = some entry ∧
          entry.deadline = some (clock + authCacheTtlSeconds * 1000) := by
  cases phase with
  | readingCache =>
      refine .inl ?_
      cases reached with
      | false => rfl
      | true =>
          simp only [authenticateStep, if_true]
          cases cache.read clock with
          | none => rfl
          | some context =>
              dsimp only
              split_ifs <;> rfl
  | refreshing context =>
      cases reached with
      | false => exact .inl rfl
      | true =>
          cases visible : cache.visible clock with
          | none =>
              refine .inr (.inl ?_)
              simp [authenticateStep, Key.pexpire, visible]
          | some entry =>
              refine .inr (.inr ⟨by simp [Phase.extends, visible], ?_⟩)
              simp [authenticateStep, Key.pexpire, visible]
  | dropping =>
      cases reached with
      | false => exact .inl rfl
      | true => exact .inr (.inl rfl)
  | readingDatabase => cases reached <;> exact .inl rfl
  | writing context =>
      cases reached with
      | false => exact .inl rfl
      | true => exact .inr (.inr ⟨rfl, _, rfl, rfl⟩)
  | done outcome => exact .inl rfl

/-- A call that finds nothing in the cache and an inactive row is refused. -/
theorem refused_of_read_eq_none
    (inactive : row.isActive = false)
    (notCached : cache.read clock = none)
    (refused : phase.Refused) :
    (authenticateStep authCacheTtlSeconds clock nowMs reached row cache
      phase).1.Refused := by
  cases refused with
  | readingCache =>
      cases reached with
      | false => exact .readingDatabase
      | true =>
          simp only [authenticateStep, notCached, if_true]
          exact .readingDatabase
  | readingDatabase =>
      cases reached with
      | false => exact .failed
      | true =>
          simp only [authenticateStep, afterLookup, inactive]
          exact .unauthenticated
  | unauthenticated => exact .unauthenticated
  | failed => exact .failed

end Steps

namespace TimedSystem

section Invariant

variable {authCacheTtlSeconds : Nat} {system : TimedSystem}

/-- What holds of a run in which nothing is extended late. -/
structure Bounded (authCacheTtlSeconds : Nat) (system : TimedSystem) : Prop where
  inactive : ∀ instant, system.deactivatedAt = some instant →
    system.row.isActive = false ∧ instant ≤ system.now
  readBefore : ∀ read, system.activeReadAt = some read →
    read ≤ system.now ∧
      ∀ instant, system.deactivatedAt = some instant → read ≤ instant
  cached : ∀ entry, system.cache = some entry →
    ∃ deadline, entry.deadline = some deadline ∧
      deadline ≤ system.deactivatedAt.getD system.now +
        authCacheTtlSeconds * 1000
  started : ∀ id call, system.calls id = some call →
    call.startedAt ≤ system.now
  refused : ∀ id call, system.calls id = some call →
    ∀ instant, system.deactivatedAt = some instant →
      instant + authCacheTtlSeconds * 1000 < call.startedAt →
        call.phase.Refused

theorem bounded_initial (row : ApiKeyRow) :
    Bounded authCacheTtlSeconds { row := row } :=
  ⟨nofun, nofun, nofun, nofun, nofun⟩

/-- A call is the one that changed, or it was there before. -/
theorem eq_or_of_setCall
    {id other : Nat}
    {call found : TimedCall}
    (isCall : system.setCall id call other = some found) :
    call = found ∨ system.calls other = some found := by
  unfold setCall at isCall
  split_ifs at isCall
  · exact .inl (Option.some.inj isCall)
  · exact .inr isCall

/-- The bound on the deadline of the cached context only grows. -/
theorem Bounded.cached_later
    (bounded : Bounded authCacheTtlSeconds system)
    {clock : Nat}
    (order : system.now ≤ clock)
    {entry : Entry GatewayContext}
    (isEntry : system.cache = some entry) :
    ∃ deadline, entry.deadline = some deadline ∧
      deadline ≤ system.deactivatedAt.getD clock +
        authCacheTtlSeconds * 1000 := by
  obtain ⟨deadline, isDeadline, within⟩ := bounded.cached entry isEntry
  refine ⟨deadline, isDeadline, Nat.le_trans within ?_⟩
  cases system.deactivatedAt with
  | none => exact Nat.add_le_add_right order _
  | some instant => exact Nat.le_refl _

theorem Bounded.start
    (bounded : Bounded authCacheTtlSeconds system)
    (id : Nat)
    {clock : Nat}
    (order : system.now ≤ clock) :
    Bounded authCacheTtlSeconds
      (system.step authCacheTtlSeconds (.start id clock)) where
  inactive instant isInstant := by
    obtain ⟨inactive, isPast⟩ := bounded.inactive instant isInstant
    exact ⟨inactive, Nat.le_trans isPast order⟩
  readBefore read isRead := by
    obtain ⟨isPast, before⟩ := bounded.readBefore read isRead
    exact ⟨Nat.le_trans isPast order, before⟩
  cached _ isEntry := bounded.cached_later order isEntry
  started other call isCall := by
    rcases eq_or_of_setCall isCall with rfl | isOld
    · exact Nat.le_refl _
    · exact Nat.le_trans (bounded.started other call isOld) order
  refused other call isCall instant isInstant late := by
    rcases eq_or_of_setCall isCall with rfl | isOld
    · exact .readingCache
    · exact bounded.refused other call isOld instant isInstant late

/-- Nothing but the time changes. -/
theorem Bounded.tick
    (bounded : Bounded authCacheTtlSeconds system)
    {clock : Nat}
    (order : system.now ≤ clock) :
    Bounded authCacheTtlSeconds { system with now := clock } where
  inactive instant isInstant :=
    (bounded.inactive instant isInstant).imp_right (Nat.le_trans · order)
  readBefore read isRead :=
    (bounded.readBefore read isRead).imp_left (Nat.le_trans · order)
  cached _ isEntry := bounded.cached_later order isEntry
  started id call isCall := Nat.le_trans (bounded.started id call isCall) order
  refused := bounded.refused

/-- A key that is not activated again stays inactive. -/
theorem isActive_apply
    {row : ApiKeyRow}
    {patch : KeyPatch}
    (inactive : row.isActive = false)
    (stays : patch.isActive ≠ some true) :
    (patch.apply row).isActive = false := by
  change patch.isActive.getD row.isActive = false
  cases patchEq : patch.isActive with
  | none => exact inactive
  | some isActive =>
      cases isActive with
      | false => rfl
      | true => exact absurd patchEq stays

theorem Bounded.update
    (bounded : Bounded authCacheTtlSeconds system)
    {patch : KeyPatch}
    {clock : Nat}
    (order : system.now ≤ clock)
    (stays : patch.isActive ≠ some true) :
    Bounded authCacheTtlSeconds
      (system.step authCacheTtlSeconds (.update patch clock)) := by
  have later := bounded.tick order
  rw [step]
  by_cases deactivates : system.row.isActive = true ∧
      (patch.apply system.row).isActive = false
  · rw [if_pos deactivates]
    refine ⟨fun instant isInstant => ?_, fun read isRead => ?_,
      fun entry isEntry => ?_, later.started,
      fun id call isCall instant isInstant late => ?_⟩
    · cases isInstant
      exact ⟨deactivates.2, Nat.le_refl _⟩
    · have isPast := (later.readBefore read isRead).1
      refine ⟨isPast, fun instant isInstant => ?_⟩
      cases isInstant
      exact isPast
    · obtain ⟨deadline, isDeadline, within⟩ := later.cached entry isEntry
      refine ⟨deadline, isDeadline, Nat.le_trans within ?_⟩
      refine Nat.add_le_add_right ?_ _
      cases deactivatedEq : system.deactivatedAt with
      | none => exact Nat.le_refl _
      | some instant => exact (later.inactive instant deactivatedEq).2
    · cases isInstant
      have isPast := later.started id call isCall
      have tooEarly : call.startedAt ≤ clock := isPast
      omega
  · rw [if_neg deactivates]
    refine ⟨fun instant isInstant => ?_, later.readBefore, later.cached,
      later.started, later.refused⟩
    obtain ⟨inactive, isPast⟩ := later.inactive instant isInstant
    exact ⟨isActive_apply inactive stays, isPast⟩

theorem Bounded.invalidate
    (bounded : Bounded authCacheTtlSeconds system)
    {clock : Nat}
    (order : system.now ≤ clock)
    (reached : Bool) :
    Bounded authCacheTtlSeconds
      (system.step authCacheTtlSeconds (.invalidate clock reached)) := by
  have later := bounded.tick order
  refine ⟨later.inactive, later.readBefore, fun entry isEntry => ?_,
    later.started, later.refused⟩
  cases reached with
  | false => exact later.cached entry isEntry
  | true => cases isEntry

/-- A call that starts late finds nothing in the cache. -/
theorem Bounded.read_eq_none
    (bounded : Bounded authCacheTtlSeconds system)
    {clock instant : Nat}
    (isInstant : system.deactivatedAt = some instant)
    (late : instant + authCacheTtlSeconds * 1000 < clock) :
    system.cache.read clock = none := by
  cases cacheEq : system.cache with
  | none => rfl
  | some entry =>
      obtain ⟨deadline, isDeadline, within⟩ := bounded.cached entry cacheEq
      rw [isInstant, Option.getD_some] at within
      have lapsed : entry.live clock = false := by
        rw [Entry.live, isDeadline, Option.all_some, decide_eq_false_iff_not]
        omega
      simp [Key.read, lapsed]

theorem Bounded.advance
    (bounded : Bounded authCacheTtlSeconds system)
    {id clock nowMs : Nat}
    {reached : Bool}
    (order : system.now ≤ clock)
    (notLate : ¬ system.ExtendsLate (.advance id clock nowMs reached)) :
    Bounded authCacheTtlSeconds
      (system.step authCacheTtlSeconds (.advance id clock nowMs reached)) := by
  have later := bounded.tick order
  rw [step]
  cases callEq : system.calls id with
  | none => exact later
  | some call =>
      refine ⟨later.inactive, fun read isRead => ?_, fun entry isEntry => ?_,
        fun other found isFound => ?_,
        fun other found isFound instant isInstant late => ?_⟩
      · dsimp only at isRead
        split_ifs at isRead with reads
        · cases isRead
          refine ⟨Nat.le_refl _, fun instant isInstant => ?_⟩
          have inactive := (later.inactive instant isInstant).1
          rw [reads.2.2] at inactive
          cases inactive
        · exact later.readBefore read isRead
      · rcases cache_authenticateStep with same | gone |
          ⟨isExtended, extended, extendedEq, deadlineEq⟩
        · exact later.cached entry (same.symm.trans isEntry)
        · cases gone.symm.trans isEntry
        · cases extendedEq.symm.trans isEntry
          refine ⟨_, deadlineEq, Nat.add_le_add_right ?_ _⟩
          change clock ≤ system.deactivatedAt.getD clock
          cases deactivatedEq : system.deactivatedAt with
          | none => exact Nat.le_refl _
          | some instant =>
              refine Nat.le_of_not_lt fun isLater => notLate ⟨?_, ?_, ?_⟩
              · rw [callEq]
                exact isExtended
              · rw [deactivatedEq]
                exact decide_eq_true isLater
              · rw [Option.all_eq_true]
                intro read isRead
                have isBefore :=
                  (later.readBefore read isRead).2 instant deactivatedEq
                exact decide_eq_true (Nat.lt_of_le_of_lt isBefore isLater)
      · rcases eq_or_of_setCall isFound with rfl | isOld
        · exact later.started id call callEq
        · exact later.started other found isOld
      · rcases eq_or_of_setCall isFound with rfl | isOld
        · have isPast : call.startedAt ≤ clock := later.started id call callEq
          exact refused_of_read_eq_none (later.inactive instant isInstant).1
            (bounded.read_eq_none isInstant (Nat.lt_of_lt_of_le late isPast))
            (later.refused id call callEq instant isInstant late)
        · exact later.refused other found isOld instant isInstant late

/-- Every event but a late extension keeps the bound. -/
theorem Bounded.step
    (bounded : Bounded authCacheTtlSeconds system)
    {event : TimedEvent}
    (admissible : system.Admissible event)
    (notLate : ¬ system.ExtendsLate event) :
    Bounded authCacheTtlSeconds (system.step authCacheTtlSeconds event) := by
  cases event with
  | start id clock => exact bounded.start id admissible.1
  | advance id clock nowMs reached => exact bounded.advance admissible.1 notLate
  | update patch clock => exact bounded.update admissible.1 admissible.2
  | invalidate clock reached => exact bounded.invalidate admissible.1 reached

end Invariant

/-- In a run in which the cached context gets no new time to live after both the
deactivation of the row and the last read of the active row, no call that starts
more than the time to live after both is accepted. -/
theorem rejected_of_startsLate
    (authCacheTtlSeconds : Nat)
    (row : ApiKeyRow)
    {events : List TimedEvent}
    (every : EveryStep (step authCacheTtlSeconds)
      (fun system event => system.Admissible event ∧ ¬ system.ExtendsLate event)
      { row := row } events)
    {id : Nat}
    {call : TimedCall}
    (isCall : (runFrom (step authCacheTtlSeconds) { row := row }
      events).calls id = some call)
    (startsLate : (runFrom (step authCacheTtlSeconds) { row := row }
      events).StartsLate authCacheTtlSeconds call)
    {outcome : Outcome}
    (ended : call.phase = .done outcome) :
    outcome = .unauthenticated "Invalid API key." ∨ outcome = .failed := by
  have bounded := EveryStep.invariant (Bounded authCacheTtlSeconds)
    (fun _ _ bounded allowed => bounded.step allowed.1 allowed.2)
    (bounded_initial row) every
  obtain ⟨instant, isInstant, late⟩ :=
    (Option.any_eq_true _ _).1 startsLate.1
  have refused := bounded.refused id call isCall instant isInstant
    (of_decide_eq_true late)
  rw [ended] at refused
  cases refused with
  | unauthenticated => exact .inl rfl
  | failed => exact .inr rfl

/-- A key is used and cached, and deleted at 10 s; the deletion of the cached
context is lost. -/
def lostDeletion : List TimedEvent :=
  [.start 1 0, .advance 1 0 0 true, .advance 1 0 0 true, .advance 1 0 0 true,
    .update .softDelete 10000, .invalidate 10000 false]

/-- If nobody uses the key, it works no more when the time to live has passed. -/
theorem rejected_of_unused_key :
    (runFrom (step 30) { row := AuthSystem.activeRow }
      (lostDeletion ++ [.start 3 45000, .advance 3 45000 45000 true,
        .advance 3 45000 45000 true])).calls 3 =
      some
        { phase := .done (.unauthenticated "Invalid API key.")
          startedAt := 45000 } ∧
      ((.unauthenticated "Invalid API key." : Outcome) =
          .unauthenticated "Invalid API key." ∨
        (.unauthenticated "Invalid API key." : Outcome) = .failed) := by
  have ended : (runFrom (step 30) { row := AuthSystem.activeRow }
      (lostDeletion ++ [.start 3 45000, .advance 3 45000 45000 true,
        .advance 3 45000 45000 true])).calls 3 =
      some
        { phase := .done (.unauthenticated "Invalid API key.")
          startedAt := 45000 } := by
    decide
  exact ⟨ended, rejected_of_startsLate 30 AuthSystem.activeRow (by decide) ended
    (by decide) rfl⟩

/-- A hit at 20 s lets a call at 45 s pass, with a time to live of 30 s. -/
theorem accepted_after_hit :
    let events := lostDeletion ++
      [.start 2 20000, .advance 2 20000 20000 true, .advance 2 20000 20000 true,
        .start 3 45000, .advance 3 45000 45000 true,
        .advance 3 45000 45000 true]
    let system := runFrom (step 30) { row := AuthSystem.activeRow } events
    let call : TimedCall :=
      { phase := .done (.returned AuthSystem.activeRow.context)
        startedAt := 45000 }
    EveryStep (step 30) Admissible { row := AuthSystem.activeRow } events ∧
      system.calls 3 = some call ∧ system.StartsLate 30 call := by
  decide

end TimedSystem

end Auth
end AiGateway
