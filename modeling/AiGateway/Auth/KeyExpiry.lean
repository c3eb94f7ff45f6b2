import AiGateway.Auth.Revocation

/-!
# Expiry of cached keys

The cached context of a key lives as long as it is used, so the expiry of the key is
checked on every hit as well as on every row. Whatever the interleaving of calls, a
call returns a context only after a check that the key has not expired, and the
context is that of a row the database returned.
-/

namespace AiGateway
namespace Auth

open Foundations

section Model

/-- A call of `authenticateKey`, with the instants at which it compared the expiry
of the key with the time, the last one first. -/
structure CheckedCall where
  phase : Phase := .readingCache
  checks : List Nat := []
  deriving DecidableEq

/-- The row and the cached context of one key, the calls on all replicas, and the
rows that the database has returned to them. -/
structure CheckedSystem where
  row : ApiKeyRow
  cache : Key GatewayContext := none
  calls : Nat → Option CheckedCall := fun _ => none
  reads : List ApiKeyRow := []

/-- Does a step compare the expiry of the key with the time? -/
def Phase.checksTime
    (clock : Nat)
    (reached : Bool)
    (row : ApiKeyRow)
    (cache : Key GatewayContext) : Phase → Bool
  | .readingCache => reached && (cache.read clock).isSome
  | .readingDatabase => reached && row.isActive
  | _ => false

/-- The context that a call is about to return, or has returned. -/
def Phase.carried : Phase → Option GatewayContext
  | .refreshing context => some context
  | .writing context => some context
  | .done (.returned context) => some context
  | _ => none

namespace CheckedSystem

/-- The calls after one of them changed. -/
def setCall (system : CheckedSystem) (id : Nat) (call : CheckedCall) :
    Nat → Option CheckedCall :=
  fun other => if other = id then some call else system.calls other

/-- The rows that were returned after a step of a call. -/
def readsAfter (system : CheckedSystem) (phase : Phase) (reached : Bool) :
    List ApiKeyRow :=
  if phase = .readingDatabase ∧ reached = true ∧ system.row.isActive = true then
    system.row :: system.reads
  else
    system.reads

/-- What one event does. -/
def step (authCacheTtlSeconds : Nat) (system : CheckedSystem) :
    AuthEvent → CheckedSystem
  | .start id => { system with calls := system.setCall id {} }
  | .advance id clock nowMs reached =>
      match system.calls id with
      | none => system
      | some call =>
          let next := authenticateStep authCacheTtlSeconds clock nowMs reached
            system.row system.cache call.phase
          { system with
            cache := next.2
            calls := system.setCall id
              { phase := next.1
                checks :=
                  if call.phase.checksTime clock reached system.row system.cache
                  then nowMs :: call.checks
                  else call.checks }
            reads := system.readsAfter call.phase reached }
  | .update _ patch => { system with row := patch.apply system.row }
  | .invalidate _ reached =>
      { system with cache := invalidateAuthCache reached system.cache }

/-- An update leaves the expiry of the key as it is. -/
def KeepsExpiry (system : CheckedSystem) : AuthEvent → Prop
  | .update _ patch => (patch.apply system.row).expiresAt = system.row.expiresAt
  | _ => True

instance (system : CheckedSystem) (event : AuthEvent) :
    Decidable (system.KeepsExpiry event) :=
  match event with
  | .start _ => inferInstanceAs (Decidable True)
  | .advance _ _ _ _ => inferInstanceAs (Decidable True)
  | .update _ _ => inferInstanceAs (Decidable (_ = _))
  | .invalidate _ _ => inferInstanceAs (Decidable True)

/-- A context is that of a row the database returned. -/
def FromRead (system : CheckedSystem) (context : GatewayContext) : Prop :=
  ∃ read ∈ system.reads, context = read.context

/-- What holds of a key whose expiry does not change. -/
structure Sound (expiresAt : Option Nat) (system : CheckedSystem) : Prop where
  row : system.row.expiresAt = expiresAt
  reads : ∀ read ∈ system.reads, read.expiresAt = expiresAt
  /-- What is cached was read from the database. -/
  cached : ∀ entry ∈ system.cache, system.FromRead entry.value
  /-- So was the context of a call, whose last check found the key not expired. -/
  carried : ∀ id, ∀ call ∈ system.calls id, ∀ context ∈ call.phase.carried,
    system.FromRead context ∧
      ∃ last earlier, call.checks = last :: earlier ∧
        expired last expiresAt = false

end CheckedSystem

end Model

section Steps

variable
  {authCacheTtlSeconds clock nowMs : Nat}
  {reached : Bool}
  {row : ApiKeyRow}
  {cache : Key GatewayContext}
  {phase : Phase}

/-- What is cached after a step was cached before, or is what the call writes. -/
theorem cached_authenticateStep
    {entry : Entry GatewayContext}
    (isEntry : entry ∈ (authenticateStep authCacheTtlSeconds clock nowMs reached
      row cache phase).2) :
    (∃ old ∈ cache, entry.value = old.value) ∨ phase = .writing entry.value := by
  cases phase with
  | readingCache =>
      refine .inl ⟨entry, ?_, rfl⟩
      cases reached with
      | false => exact isEntry
      | true =>
          simp only [authenticateStep, if_true] at isEntry
          cases isRead : cache.read clock with
          | none => rwa [isRead] at isEntry
          | some context =>
              rw [isRead] at isEntry
              dsimp only at isEntry
              split_ifs at isEntry <;> exact isEntry
  | refreshing context =>
      cases reached with
      | false => exact .inl ⟨entry, isEntry, rfl⟩
      | true =>
          obtain ⟨old, isOld, rfl⟩ := Option.map_eq_some_iff.1 isEntry
          exact .inl ⟨old, (Key.eq_some_of_visible isOld).1, rfl⟩
  | dropping =>
      cases reached with
      | false => exact .inl ⟨entry, isEntry, rfl⟩
      | true => cases isEntry
  | readingDatabase => cases reached <;> exact .inl ⟨entry, isEntry, rfl⟩
  | writing context =>
      cases reached with
      | false => exact .inl ⟨entry, isEntry, rfl⟩
      | true =>
          cases isEntry
          exact .inr rfl
  | done outcome => exact .inl ⟨entry, isEntry, rfl⟩

/-- The context that a call carries after a step is the one it carried before, or
one that the step found and checked, in the cache or in the row. -/
theorem carried_authenticateStep
    {context : GatewayContext}
    (isCarried : context ∈ (authenticateStep authCacheTtlSeconds clock nowMs
      reached row cache phase).1.carried) :
    (context ∈ phase.carried ∧
        phase.checksTime clock reached row cache = false) ∨
      phase.checksTime clock reached row cache = true ∧
        expired nowMs context.expiresAtMs = false ∧
          ((∃ entry ∈ cache, entry.value = context) ∨
            (phase = .readingDatabase ∧ reached = true ∧ row.isActive = true) ∧
              context = row.context) := by
  cases phase with
  | readingCache =>
      cases reached with
      | false => cases isCarried
      | true =>
          simp only [authenticateStep, if_true] at isCarried
          cases isRead : cache.read clock with
          | none =>
              rw [isRead] at isCarried
              cases isCarried
          | some found =>
              rw [isRead] at isCarried
              dsimp only at isCarried
              split_ifs at isCarried with isExpired
              · cases isCarried
              · obtain rfl : found = context := Option.some_inj.1 isCarried
                obtain ⟨entry, visible, rfl⟩ := Option.map_eq_some_iff.1 isRead
                refine .inr ⟨by simp [Phase.checksTime, isRead],
                  Bool.not_eq_true _ ▸ isExpired,
                  .inl ⟨entry, (Key.eq_some_of_visible visible).1, rfl⟩⟩
  | refreshing found =>
      cases reached with
      | false => cases isCarried
      | true => exact .inl ⟨isCarried, rfl⟩
  | dropping => cases isCarried
  | readingDatabase =>
      cases reached with
      | false => cases isCarried
      | true =>
          simp only [authenticateStep, if_true, afterLookup] at isCarried
          split_ifs at isCarried with isActive isExpired
          · cases isCarried
          · obtain rfl : row.context = context := Option.some_inj.1 isCarried
            exact .inr ⟨isActive, Bool.not_eq_true _ ▸ isExpired,
              .inr ⟨⟨rfl, rfl, isActive⟩, rfl⟩⟩
          · cases isCarried
  | writing found => exact .inl ⟨isCarried, rfl⟩
  | done outcome => exact .inl ⟨isCarried, rfl⟩

end Steps

namespace CheckedSystem

section Invariant

variable {authCacheTtlSeconds : Nat} {system : CheckedSystem}
  {expiresAt : Option Nat}

/-- A call is the one that changed, or it was there before. -/
theorem eq_or_mem_of_setCall
    {id other : Nat}
    {call found : CheckedCall}
    (isCall : found ∈ system.setCall id call other) :
    call = found ∨ found ∈ system.calls other := by
  unfold setCall at isCall
  split_ifs at isCall
  · exact .inl (Option.some_inj.1 isCall)
  · exact .inr isCall

theorem mem_readsAfter
    {reached : Bool}
    {phase : Phase}
    {read : ApiKeyRow}
    (isRead : read ∈ system.reads) :
    read ∈ system.readsAfter phase reached := by
  rw [readsAfter]
  split_ifs
  · exact List.mem_cons_of_mem _ isRead
  · exact isRead

/-- A step of a call keeps the invariant. -/
theorem Sound.advance
    (sound : Sound expiresAt system)
    (id clock nowMs : Nat)
    (reached : Bool) :
    Sound expiresAt
      (system.step authCacheTtlSeconds (.advance id clock nowMs reached)) := by
  cases isCall : system.calls id with
  | none =>
      rw [step, isCall]
      exact sound
  | some call =>
      rw [step, isCall]
      dsimp only
      have readsKept : ∀ {context}, system.FromRead context →
          ∃ read ∈ system.readsAfter call.phase reached,
            context = read.context := by
        rintro context ⟨read, isRead, same⟩
        exact ⟨read, mem_readsAfter isRead, same⟩
      refine ⟨sound.row, fun read isRead => ?_, fun entry isEntry => ?_,
        fun other found isFound context isCarried => ?_⟩
      · change read ∈ system.readsAfter call.phase reached at isRead
        rw [readsAfter] at isRead
        split_ifs at isRead
        · rcases List.mem_cons.1 isRead with rfl | isOld
          · exact sound.row
          · exact sound.reads read isOld
        · exact sound.reads read isRead
      · rcases cached_authenticateStep isEntry with ⟨old, isOld, same⟩ | writes
        · rw [same]
          exact readsKept (sound.cached old isOld)
        · refine readsKept (sound.carried id call isCall entry.value ?_).1
          rw [writes]
          rfl
      · rcases eq_or_mem_of_setCall isFound with rfl | isOld
        · rcases carried_authenticateStep isCarried with
            ⟨isOld, unchecked⟩ | ⟨checked, inTime, found⟩
          · obtain ⟨fromRead, check⟩ := sound.carried id call isCall context isOld
            refine ⟨readsKept fromRead, ?_⟩
            rwa [if_neg (by rw [unchecked]; decide)]
          · obtain ⟨sameExpiry, fromRead⟩ :
                context.expiresAtMs = expiresAt ∧
                  ∃ read ∈ system.readsAfter call.phase reached,
                    context = read.context := by
              rcases found with ⟨entry, isEntry, rfl⟩ | ⟨reads, rfl⟩
              · obtain ⟨read, isRead, same⟩ := sound.cached entry isEntry
                refine ⟨?_, readsKept (sound.cached entry isEntry)⟩
                rw [same]
                exact sound.reads read isRead
              · refine ⟨sound.row, system.row, ?_, rfl⟩
                rw [readsAfter, if_pos reads]
                exact List.mem_cons_self
            rw [sameExpiry] at inTime
            exact ⟨fromRead, nowMs, call.checks, if_pos checked, inTime⟩
        · obtain ⟨fromRead, check⟩ := sound.carried other found isOld context isCarried
          exact ⟨readsKept fromRead, check⟩

/-- Every event that leaves the expiry as it is keeps the invariant. -/
theorem Sound.step
    (sound : Sound expiresAt system)
    {event : AuthEvent}
    (keeps : system.KeepsExpiry event) :
    Sound expiresAt (system.step authCacheTtlSeconds event) := by
  cases event with
  | start id =>
      refine ⟨sound.row, sound.reads, sound.cached, ?_⟩
      intro other call isCall context isCarried
      rcases eq_or_mem_of_setCall isCall with rfl | isOld
      · cases isCarried
      · exact sound.carried other call isOld context isCarried
  | advance id clock nowMs reached => exact sound.advance id clock nowMs reached
  | update request patch =>
      exact ⟨keeps.trans sound.row, sound.reads, sound.cached, sound.carried⟩
  | invalidate request reached =>
      refine ⟨sound.row, sound.reads, fun entry isEntry => ?_, sound.carried⟩
      cases reached with
      | false => exact sound.cached entry isEntry
      | true => cases isEntry

end Invariant

/-- In every interleaving of calls, updates that leave the expiry of the key as it is
and invalidations, from an empty cache on: a call that returns a context last
compared the expiry with a time before it, and so it did at all its checks unless
the time went back; and the context is that of a row that the database returned. -/
theorem returned_before_expiry
    (authCacheTtlSeconds : Nat)
    (row : ApiKeyRow)
    {events : List AuthEvent}
    (keeps : EveryStep (step authCacheTtlSeconds) KeepsExpiry { row := row } events)
    {id : Nat}
    {call : CheckedCall}
    (isCall : (runFrom (step authCacheTtlSeconds) { row := row } events).calls id =
      some call)
    {context : GatewayContext}
    (returned : call.phase = .done (.returned context)) :
    (∃ last earlier, call.checks = last :: earlier ∧
      ∀ instant ∈ row.expiresAt, last < instant ∧
        ((∀ check ∈ earlier, check ≤ last) →
          ∀ check ∈ call.checks, check < instant)) ∧
    ∃ read ∈ (runFrom (step authCacheTtlSeconds) { row := row } events).reads,
      read.expiresAt = row.expiresAt ∧ context = read.context := by
  have sound : Sound row.expiresAt
      (runFrom (step authCacheTtlSeconds) { row := row } events) :=
    EveryStep.invariant (Sound row.expiresAt)
      (fun _ _ sound keeps => sound.step keeps)
      ⟨rfl, nofun, nofun, nofun⟩ keeps
  obtain ⟨⟨read, isRead, same⟩, last, earlier, checks, inTime⟩ :=
    sound.carried id call isCall context (by rw [returned]; rfl)
  refine ⟨⟨last, earlier, checks, fun instant isInstant => ?_⟩,
    read, isRead, sound.reads read isRead, same⟩
  have before : last < instant := by
    rw [isInstant] at inTime
    simpa [expired] using inTime
  refine ⟨before, fun forward check isCheck => ?_⟩
  rw [checks, List.mem_cons] at isCheck
  rcases isCheck with rfl | isEarlier
  · exact before
  · exact Nat.lt_of_le_of_lt (forward check isEarlier) before

/-- A key that expires at five seconds. -/
def expiringRow : ApiKeyRow :=
  { AuthSystem.activeRow with expiresAt := some 5000 }

/-- A first call reads the row and caches its context, a second one hits it. -/
def servedFromCache : List AuthEvent :=
  [.start 1, .advance 1 0 0 true, .advance 1 1 1 true, .advance 1 2 2 true,
    .start 2, .advance 2 4000 4000 true, .advance 2 4001 4001 true]

/-- The second call compared the expiry with the time of its hit. -/
theorem returned_before_expiry_of_hit :
    (∃ last earlier, [4000] = last :: earlier ∧
      ∀ instant ∈ expiringRow.expiresAt, last < instant ∧
        ((∀ check ∈ earlier, check ≤ last) →
          ∀ check ∈ [4000], check < instant)) ∧
    ∃ read ∈ (runFrom (step 30) { row := expiringRow } servedFromCache).reads,
      read.expiresAt = expiringRow.expiresAt ∧
        expiringRow.context = read.context := by
  have keeps : EveryStep (step 30) KeepsExpiry { row := expiringRow }
      servedFromCache := by
    decide
  have isCall : (runFrom (step 30) { row := expiringRow } servedFromCache).calls 2 =
      some { phase := .done (.returned expiringRow.context), checks := [4000] } := by
    decide
  exact returned_before_expiry 30 expiringRow keeps isCall rfl

end CheckedSystem

end Auth
end AiGateway
