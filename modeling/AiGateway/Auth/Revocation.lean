import AiGateway.Auth.Middleware
import AiGateway.Foundations.Runs

/-!
# Revocation under concurrent authentication

A PATCH or DELETE updates the row and then deletes the cached context. A call
that read the row before the update may write its context after the deletion,
and later calls then hit it. Without such a write no call that starts after the
revocation is accepted.
-/

namespace AiGateway
namespace Auth

open Foundations

/-- A call of `authenticateKey`. -/
structure AuthCall where
  phase : Phase := .readingCache
  /-- Did it start after a revocation had completed? -/
  startedRevoked : Bool
  deriving DecidableEq

/-- An admin request that has updated the row and not yet deleted the cached
context. -/
structure PendingUpdate where
  request : Nat
  /-- Does it deactivate the key? -/
  revokes : Bool
  deriving DecidableEq

/-- The row and the cached context of one key, the calls on all replicas, and
the admin requests. -/
structure AuthSystem where
  row : ApiKeyRow
  cache : Key GatewayContext
  calls : Nat → Option AuthCall
  pending : List PendingUpdate
  /-- Has a revocation completed? -/
  revoked : Bool

/-- No call or request has been made yet. -/
def AuthSystem.initial (row : ApiKeyRow) (cache : Key GatewayContext) :
    AuthSystem where
  row := row
  cache := cache
  calls := fun _ => none
  pending := []
  revoked := false

/-- One step of one call or admin request. -/
inductive AuthEvent
  | start (id : Nat)
  | advance (id clock nowMs : Nat) (reached : Bool)
  /-- The database update of a PATCH or DELETE. -/
  | update (request : Nat) (patch : KeyPatch)
  /-- Its cache deletion, after which it completes. -/
  | invalidate (request : Nat) (reached : Bool)

namespace AuthSystem

/-- The calls after one of them changed. -/
def setCall (system : AuthSystem) (id : Nat) (call : AuthCall) :
    Nat → Option AuthCall :=
  fun other => if other = id then some call else system.calls other

/-- What one event does. -/
def step (authCacheTtlSeconds : Nat) (system : AuthSystem) :
    AuthEvent → AuthSystem
  | .start id =>
      { system with
        calls := system.setCall id { startedRevoked := system.revoked } }
  | .advance id clock nowMs reached =>
      match system.calls id with
      | none => system
      | some call =>
          let next := authenticateStep authCacheTtlSeconds clock nowMs reached
            system.row system.cache call.phase
          { system with
            cache := next.2
            calls := system.setCall id { call with phase := next.1 } }
  | .update request patch =>
      { system with
        row := patch.apply system.row
        pending :=
          { request := request, revokes := patch.isActive = some false } ::
            system.pending }
  | .invalidate request reached =>
      { system with
        cache := invalidateAuthCache reached system.cache
        pending := system.pending.filter fun update =>
          update.request ≠ request
        revoked := system.revoked || system.pending.any fun update =>
          decide (update.request = request) && update.revokes }

/-- The events that can come next, when no access to the store fails and the
key is not activated again: a call starts once and advances after that, and a
request deletes the cached context once it has updated the row. -/
def Admissible (system : AuthSystem) : AuthEvent → Prop
  | .start id => system.calls id = none
  | .advance id _ _ reached =>
      (system.calls id).any (fun call =>
        reached || decide (call.phase = .readingDatabase)) = true
  | .update request patch =>
      (∀ update ∈ system.pending, update.request ≠ request) ∧
        patch.isActive ≠ some true
  | .invalidate request reached =>
      (∃ update ∈ system.pending, update.request = request) ∧ reached = true

/-- A call that read the row while it was active writes its context into the
cache after a revocation has completed. -/
def WritesStale (system : AuthSystem) : AuthEvent → Prop
  | .advance id _ _ _ =>
      system.revoked = true ∧
        (system.calls id).any (fun call => call.phase.isWriting) = true
  | _ => False

instance (system : AuthSystem) (event : AuthEvent) :
    Decidable (system.Admissible event) := by
  cases event <;> unfold Admissible <;> infer_instance

instance (system : AuthSystem) (event : AuthEvent) :
    Decidable (system.WritesStale event) := by
  cases event <;> unfold WritesStale <;> infer_instance

end AuthSystem

/-- The phases of a call on a key whose row is inactive and whose context is not
cached. -/
inductive Phase.Refused : Phase → Prop
  | readingCache : Refused .readingCache
  | readingDatabase : Refused .readingDatabase
  | unauthenticated : Refused (.done (.unauthenticated "Invalid API key."))
  | failed : Refused (.done .failed)

namespace AuthSystem

/-- A call is the one that changed, or it was there before. -/
theorem setCall_eq_some
    {system : AuthSystem}
    {id other : Nat}
    {call found : AuthCall}
    (isCall : system.setCall id call other = some found) :
    (other = id ∧ call = found) ∨ system.calls other = some found := by
  unfold setCall at isCall
  split at isCall
  · rename_i same
    exact Or.inl ⟨same, Option.some.inj isCall⟩
  · exact Or.inr isCall

/-- The invariant of a run without stale writes. -/
structure Safe (system : AuthSystem) : Prop where
  /-- A pending revocation has deactivated the row. -/
  pendingInactive : ∀ update ∈ system.pending, update.revokes = true →
    system.row.isActive = false
  /-- So has a completed one. -/
  inactive : system.revoked = true → system.row.isActive = false
  /-- After it nothing is cached. -/
  uncached : system.revoked = true → system.cache = none
  /-- A call that started after it is on its way to be refused. -/
  refused : ∀ id call, system.calls id = some call →
    call.startedRevoked = true →
      system.revoked = true ∧ call.phase.Refused

variable {system : AuthSystem} {authCacheTtlSeconds : Nat}

/-- Nothing is revoked at the start. -/
theorem safe_initial (row : ApiKeyRow) (cache : Key GatewayContext) :
    (initial row cache).Safe where
  pendingInactive := by rintro update ⟨⟩
  inactive := by rintro ⟨⟩
  uncached := by rintro ⟨⟩
  refused := by rintro id call ⟨⟩

/-- A refused call stays refused, and caches nothing. -/
theorem refused_step
    {clock nowMs : Nat}
    {reached : Bool}
    {row : ApiKeyRow}
    (inactive : row.isActive = false)
    {phase : Phase}
    (refused : phase.Refused) :
    (authenticateStep authCacheTtlSeconds clock nowMs reached row none
      phase).1.Refused := by
  cases refused with
  | readingCache => cases reached <;> exact .readingDatabase
  | readingDatabase =>
      cases reached with
      | false => exact .failed
      | true =>
          simp only [authenticateStep, afterLookup, inactive]
          exact .unauthenticated
  | unauthenticated => exact .unauthenticated
  | failed => exact .failed

/-- No step but a write caches anything. -/
theorem cache_step
    {clock nowMs : Nat}
    {reached : Bool}
    {row : ApiKeyRow}
    {phase : Phase}
    (notWriting : ∀ context, phase ≠ .writing context) :
    (authenticateStep authCacheTtlSeconds clock nowMs reached row none
      phase).2 = none := by
  cases phase with
  | writing context => exact absurd rfl (notWriting context)
  | readingCache => cases reached <;> rfl
  | refreshing context => cases reached <;> rfl
  | dropping => cases reached <;> rfl
  | readingDatabase => cases reached <;> rfl
  | done outcome => rfl

namespace Safe

/-- A call that starts after a revocation is on its way to be refused. -/
theorem start (safe : system.Safe) (id : Nat) :
    (system.step authCacheTtlSeconds (.start id)).Safe := by
  refine ⟨safe.pendingInactive, safe.inactive, safe.uncached, ?_⟩
  intro other call isCall started
  rcases setCall_eq_some isCall with ⟨_, rfl⟩ | old
  · exact ⟨started, .readingCache⟩
  · exact safe.refused other call old started

theorem advance
    (safe : system.Safe)
    {id clock nowMs : Nat}
    {reached : Bool}
    {call : AuthCall}
    (isCall : system.calls id = some call)
    (fresh : ¬system.WritesStale (.advance id clock nowMs reached)) :
    (system.step authCacheTtlSeconds (.advance id clock nowMs reached)).Safe := by
  have stepped : system.step authCacheTtlSeconds
      (.advance id clock nowMs reached) =
        { system with
          cache := (authenticateStep authCacheTtlSeconds clock nowMs reached
            system.row system.cache call.phase).2
          calls := system.setCall id
            { call with
              phase := (authenticateStep authCacheTtlSeconds clock nowMs
                reached system.row system.cache call.phase).1 } } := by
    simp [AuthSystem.step, isCall]
  rw [stepped]
  refine ⟨safe.pendingInactive, safe.inactive, fun revoked => ?_, ?_⟩
  · change (authenticateStep authCacheTtlSeconds clock nowMs reached
      system.row system.cache call.phase).2 = none
    rw [safe.uncached revoked]
    exact cache_step fun context writing => fresh ⟨revoked,
      (Option.any_eq_true _ _).2 ⟨call, isCall, writing ▸ rfl⟩⟩
  · intro other later isLater started
    rcases setCall_eq_some isLater with ⟨_, rfl⟩ | old
    · obtain ⟨revoked, refused⟩ := safe.refused id call isCall started
      refine ⟨revoked, ?_⟩
      change (authenticateStep authCacheTtlSeconds clock nowMs reached
        system.row system.cache call.phase).1.Refused
      rw [safe.uncached revoked]
      exact refused_step (safe.inactive revoked) refused
    · exact safe.refused other later old started

/-- A patch that does not activate the key leaves an inactive row inactive. -/
theorem update
    (safe : system.Safe)
    {request : Nat}
    {patch : KeyPatch}
    (notActivated : patch.isActive ≠ some true) :
    (system.step authCacheTtlSeconds (.update request patch)).Safe := by
  have staysInactive : system.row.isActive = false →
      (patch.apply system.row).isActive = false := by
    intro inactive
    change patch.isActive.getD system.row.isActive = false
    cases isActive : patch.isActive with
    | none => exact inactive
    | some value =>
        cases value with
        | false => rfl
        | true => exact absurd isActive notActivated
  refine ⟨?_, fun revoked => staysInactive (safe.inactive revoked),
    safe.uncached, safe.refused⟩
  intro update isUpdate revokes
  rcases List.mem_cons.1 isUpdate with rfl | old
  · have deactivates := of_decide_eq_true revokes
    change patch.isActive.getD system.row.isActive = false
    rw [deactivates]
    rfl
  · exact staysInactive (safe.pendingInactive update old revokes)

/-- A request that reaches the store leaves nothing cached. -/
theorem invalidate (safe : system.Safe) (request : Nat) :
    (system.step authCacheTtlSeconds (.invalidate request true)).Safe := by
  refine ⟨?_, ?_, fun _ => rfl, ?_⟩
  · intro update isUpdate
    exact safe.pendingInactive update (List.mem_of_mem_filter isUpdate)
  · intro revoked
    rcases Bool.or_eq_true_iff.1 revoked with before | now
    · exact safe.inactive before
    · obtain ⟨update, isUpdate, matching⟩ := List.any_eq_true.1 now
      exact safe.pendingInactive update isUpdate
        (Bool.and_eq_true_iff.1 matching).2
  · intro id call isCall started
    obtain ⟨revoked, refused⟩ := safe.refused id call isCall started
    exact ⟨Bool.or_eq_true_iff.2 (Or.inl revoked), refused⟩

/-- Every event other than a stale write keeps the invariant. -/
theorem step
    (safe : system.Safe)
    {event : AuthEvent}
    (admissible : system.Admissible event)
    (fresh : ¬system.WritesStale event) :
    (system.step authCacheTtlSeconds event).Safe := by
  cases event with
  | start id => exact safe.start id
  | advance id clock nowMs reached =>
      obtain ⟨call, isCall, _⟩ := (Option.any_eq_true _ _).1 admissible
      exact safe.advance isCall fresh
  | update request patch => exact safe.update admissible.2
  | invalidate request reached =>
      obtain ⟨_, rfl⟩ := admissible
      exact safe.invalidate request

end Safe

/-- Over every run in which no stale write happens, a call that started after a
revocation had completed and has ended was refused: it found the key unknown, or
the database did not answer. -/
theorem refused_after_revocation
    (authCacheTtlSeconds : Nat)
    (row : ApiKeyRow)
    (cache : Key GatewayContext)
    {events : List AuthEvent}
    (every : EveryStep (step authCacheTtlSeconds)
      (fun system event => system.Admissible event ∧ ¬system.WritesStale event)
      (initial row cache) events)
    {id : Nat}
    {call : AuthCall}
    (isCall : (runFrom (step authCacheTtlSeconds) (initial row cache)
      events).calls id = some call)
    (started : call.startedRevoked = true)
    {outcome : Outcome}
    (ended : call.phase = .done outcome) :
    outcome = .unauthenticated "Invalid API key." ∨ outcome = .failed := by
  have safe := EveryStep.invariant Safe
    (fun _ _ safe allowed => safe.step allowed.1 allowed.2)
    (safe_initial row cache) every
  have refused := (safe.refused id call isCall started).2
  rw [ended] at refused
  cases refused with
  | unauthenticated => exact Or.inl rfl
  | failed => exact Or.inr rfl

/-- An active key without an expiry. -/
def activeRow : ApiKeyRow where
  id := "key"
  name := none
  ownerId := none
  isActive := true
  expiresAt := none
  monthlyBudgetUsd := none
  allowedModels := none
  rpmLimit := 60
  tpmLimit := 100000

/-- The first call misses the cache and reads the active row before the key is
deleted. -/
def racingCall : List AuthEvent :=
  [.start 1, .advance 1 0 0 true, .advance 1 1 1 true,
    .update 1 .softDelete, .invalidate 1 true]

/-- Before it writes its context, a call that starts after the deletion is
refused. -/
theorem refused_before_racing_write :
    (runFrom (step 30) (initial activeRow none)
      (racingCall ++ [.start 2, .advance 2 3 3 true,
        .advance 2 4 4 true])).calls 2 =
      some
        { phase := .done (.unauthenticated "Invalid API key.")
          startedRevoked := true } ∧
      ((.unauthenticated "Invalid API key." : Outcome) =
          .unauthenticated "Invalid API key." ∨
        (.unauthenticated "Invalid API key." : Outcome) = .failed) := by
  have ended : (runFrom (step 30) (initial activeRow none)
      (racingCall ++ [.start 2, .advance 2 3 3 true,
        .advance 2 4 4 true])).calls 2 =
      some
        { phase := .done (.unauthenticated "Invalid API key.")
          startedRevoked := true } := by
    decide
  exact ⟨ended, refused_after_revocation 30 activeRow none (by decide) ended rfl
    rfl⟩

/-- After it, such a call hits the cache and is accepted, with every access
reaching the store. -/
theorem accepted_after_racing_write :
    let events := racingCall ++ [.advance 1 5 5 true, .start 2,
      .advance 2 6 6 true, .advance 2 7 7 true]
    EveryStep (step 30) Admissible (initial activeRow none) events ∧
      (runFrom (step 30) (initial activeRow none) racingCall).revoked = true ∧
      (runFrom (step 30) (initial activeRow none) events).calls 2 =
        some
          { phase := .done (.returned activeRow.context)
            startedRevoked := true } := by
  decide

end AuthSystem

end Auth
end AiGateway
