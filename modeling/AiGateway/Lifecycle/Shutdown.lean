import AiGateway.Foundations.Runs
import Mathlib.Data.List.Nodup

/-!
# Graceful shutdown

A signal starts a sequence: the application is closed within a time limit, the
health monitor stops, the queue of the request log is flushed, and Redis, the
database and the tracing are closed before the process exits. Requests enqueue
entries, and inserts settle, at any moment of it. An error of a step, or the end of
the time limit, makes the process exit at once.

The main theorem says when every entry that was accepted before the database was
closed has its insert settled at the exit.
-/

namespace AiGateway
namespace Lifecycle

open Foundations

section Model

/-- What `shutdown` waits for. -/
inductive Stage
  /-- No signal has come. -/
  | serving
  /-- `withTimeout(app.close(), ...)`. -/
  | closingApp
  /-- `healthMonitor.stop()`, which does not throw. -/
  | stoppingMonitor
  /-- `flush()` waits for the writes that it saw. -/
  | flushing (awaited : List Nat)
  /-- `closeRedis()`, which does not throw. -/
  | closingRedis
  /-- `closeDatabase()`. -/
  | closingDatabase
  /-- `stopTracing()`. -/
  | stoppingTracing
  | exited (code : Nat)
  deriving DecidableEq, Repr

/-- Is the queue flushed? -/
def Stage.isFlushed : Stage → Bool
  | .closingRedis | .closingDatabase | .stoppingTracing | .exited _ => true
  | _ => false

/-- `MAX_PENDING_LOG_WRITES`. -/
def maxPendingLogWrites : Nat := 1000

/-- The process, as far as the request log goes; a write is known by the number of
writes before it. -/
structure Process where
  stage : Stage := .serving
  writes : Nat := 0
  /-- `pendingWrites`. -/
  pending : List Nat := []
  settled : List Nat := []
  /-- The writes accepted before the database was closed. -/
  accepted : List Nat := []
  deriving DecidableEq

/-- What happens next. -/
inductive Event
  /-- A request calls `enqueueRequest`. -/
  | enqueue
  /-- An insert succeeds or fails. -/
  | settle (write : Nat)
  | signal
  /-- What is waited for is done. -/
  | completed
  /-- What is waited for is rejected. -/
  | rejected
  /-- The time limit of `app.close()` is over. -/
  | timedOut
  deriving DecidableEq, Repr

namespace Process

variable (process : Process)

/-- `enqueueRequest(entry)`. -/
def enqueueRequest : Process :=
  if maxPendingLogWrites ≤ process.pending.length then
    process
  else
    { process with
      writes := process.writes + 1
      pending := process.pending ++ [process.writes]
      accepted :=
        if process.stage = .stoppingTracing then process.accepted
        else process.accepted ++ [process.writes] }

/-- The loop of `flush()`: it waits for the writes that are pending, until there
are none. -/
def flush : Process :=
  if process.pending = [] then { process with stage := .closingRedis }
  else { process with stage := .flushing process.pending }

/-- What is waited for is done. -/
def complete : Process :=
  match process.stage with
  | .closingApp => { process with stage := .stoppingMonitor }
  | .stoppingMonitor => process.flush
  | .flushing awaited =>
      if ∀ write ∈ awaited, write ∉ process.pending then process.flush else process
  | .closingRedis => { process with stage := .closingDatabase }
  | .closingDatabase => { process with stage := .stoppingTracing }
  | .stoppingTracing => { process with stage := .exited 0 }
  | .serving => process
  | .exited _ => process

/-- `catch`: the process exits. -/
def reject : Process :=
  match process.stage with
  | .closingApp | .closingDatabase | .stoppingTracing =>
      { process with stage := .exited 1 }
  | _ => process

/-- One event; nothing happens after the exit. -/
def step (event : Event) : Process :=
  match process.stage with
  | .exited _ => process
  | _ =>
      match event with
      | .enqueue => process.enqueueRequest
      | .settle write =>
          if write ∈ process.pending then
            { process with
              pending := process.pending.erase write
              settled := process.settled ++ [write] }
          else
            process
      | .signal =>
          if process.stage = .serving then { process with stage := .closingApp }
          else process
      | .completed => process.complete
      | .rejected => process.reject
      | .timedOut =>
          if process.stage = .closingApp then { process with stage := .exited 1 }
          else process

/-- At the exit every accepted write is settled. -/
def Drained : Prop :=
  ∀ code, process.stage = .exited code →
    ∀ write ∈ process.accepted, write ∈ process.settled

end Process

end Model

section Steps

variable (process : Process)

/-- What one event can do. -/
inductive Change : Event → Process → Prop
  | nothing (event : Event) : Change event process
  | accepted
      (running : ∀ code, process.stage ≠ .exited code)
      (isOpen : process.stage ≠ .stoppingTracing) :
      Change .enqueue
        { process with
          writes := process.writes + 1
          pending := process.pending ++ [process.writes]
          accepted := process.accepted ++ [process.writes] }
  /-- A write comes after the database was closed. -/
  | late (isClosed : process.stage = .stoppingTracing) :
      Change .enqueue
        { process with
          writes := process.writes + 1
          pending := process.pending ++ [process.writes] }
  | settled {write : Nat} (isPending : write ∈ process.pending) :
      Change (.settle write)
        { process with
          pending := process.pending.erase write
          settled := process.settled ++ [write] }
  | goesOn
      {event : Event}
      (stage : Stage)
      (before : process.stage.isFlushed = false)
      (after : stage.isFlushed = false) :
      Change event { process with stage := stage }
  | flushed {event : Event} (noneLeft : process.pending = []) :
      Change event { process with stage := .closingRedis }
  | closes
      {event : Event}
      (stage : Stage)
      (before : process.stage.isFlushed = true)
      (after : stage.isFlushed = true) :
      Change event { process with stage := stage }
  | breaksOff
      {event : Event}
      (isClosing : process.stage = .closingApp)
      (isError : event = .rejected ∨ event = .timedOut) :
      Change event { process with stage := .exited 1 }

theorem change_flush
    (event : Event)
    (notFlushed : process.stage.isFlushed = false) :
    Change process event process.flush := by
  unfold Process.flush
  split_ifs with noneLeft
  · exact .flushed noneLeft
  · exact .goesOn _ notFlushed rfl

theorem change_complete : Change process .completed process.complete := by
  unfold Process.complete
  cases stageEq : process.stage with
  | serving => exact .nothing _
  | closingApp => exact .goesOn _ (by rw [stageEq]; rfl) rfl
  | stoppingMonitor => exact change_flush process _ (by rw [stageEq]; rfl)
  | flushing awaited =>
      dsimp only
      split_ifs
      · exact change_flush process _ (by rw [stageEq]; rfl)
      · exact .nothing _
  | closingRedis => exact .closes _ (by rw [stageEq]; rfl) rfl
  | closingDatabase => exact .closes _ (by rw [stageEq]; rfl) rfl
  | stoppingTracing => exact .closes _ (by rw [stageEq]; rfl) rfl
  | exited code => exact .nothing _

theorem change_reject : Change process .rejected process.reject := by
  unfold Process.reject
  cases stageEq : process.stage with
  | closingApp => exact .breaksOff stageEq (.inl rfl)
  | closingDatabase => exact .closes _ (by rw [stageEq]; rfl) rfl
  | stoppingTracing => exact .closes _ (by rw [stageEq]; rfl) rfl
  | _ => exact .nothing _

theorem change_step (event : Event) :
    Change process event (process.step event) := by
  unfold Process.step
  split
  · exact .nothing _
  · rename_i running
    cases event with
    | enqueue =>
        dsimp only
        unfold Process.enqueueRequest
        split_ifs with isFull isClosed
        · exact .nothing _
        · exact .late isClosed
        · exact .accepted running isClosed
    | settle write =>
        dsimp only
        split_ifs with isPending
        · exact .settled isPending
        · exact .nothing _
    | signal =>
        dsimp only
        split_ifs with isServing
        · exact .goesOn _ (by rw [isServing]; rfl) rfl
        · exact .nothing _
    | completed => exact change_complete process
    | rejected => exact change_reject process
    | timedOut =>
        dsimp only
        split_ifs with isClosing
        · exact .breaksOff isClosing (.inr rfl)
        · exact .nothing _

end Steps

section Invariants

variable {process next : Process} {event : Event}

/-- The application is not cut off while writes are pending, and nothing is enqueued
between the flush and the end of the database. -/
def InTime (process : Process) : Event → Prop
  | .enqueue =>
      process.stage ≠ .closingRedis ∧ process.stage ≠ .closingDatabase
  | .rejected | .timedOut =>
      process.stage = .closingApp → process.pending = []
  | _ => True

instance (process : Process) : (event : Event) → Decidable (InTime process event)
  | .enqueue => inferInstanceAs (Decidable (_ ∧ _))
  | .rejected => inferInstanceAs (Decidable (_ → _))
  | .timedOut => inferInstanceAs (Decidable (_ → _))
  | .settle _ => inferInstanceAs (Decidable True)
  | .signal => inferInstanceAs (Decidable True)
  | .completed => inferInstanceAs (Decidable True)

/-- Every accepted write is pending or settled, and settled after the flush. -/
structure Kept (process : Process) : Prop where
  accounted : ∀ write ∈ process.accepted,
    write ∈ process.pending ∨ write ∈ process.settled
  flushed : process.stage.isFlushed = true →
    ∀ write ∈ process.accepted, write ∈ process.settled

theorem Kept.settled_of_none_pending
    (kept : Kept process)
    (noneLeft : process.pending = []) :
    ∀ write ∈ process.accepted, write ∈ process.settled := by
  intro write isAccepted
  rcases kept.accounted write isAccepted with isPending | isSettled
  · rw [noneLeft] at isPending
    cases isPending
  · exact isSettled

theorem Kept.change
    (kept : Kept process)
    (change : Change process event next)
    (inTime : InTime process event) : Kept next := by
  cases change with
  | nothing => exact kept
  | accepted running isOpen =>
      constructor
      · intro write isAccepted
        rcases List.mem_append.1 isAccepted with isOld | isNew
        · exact (kept.accounted write isOld).imp_left (List.mem_append_left _ ·)
        · exact .inl (List.mem_append_right _ isNew)
      · intro isFlushed
        obtain ⟨notRedis, notDatabase⟩ := inTime
        dsimp only at isFlushed
        cases stageEq : process.stage with
        | closingRedis => exact absurd stageEq notRedis
        | closingDatabase => exact absurd stageEq notDatabase
        | stoppingTracing => exact absurd stageEq isOpen
        | exited code => exact absurd stageEq (running code)
        | serving | closingApp | stoppingMonitor | flushing =>
            rw [stageEq] at isFlushed
            cases isFlushed
  | late isClosed =>
      refine ⟨fun write isAccepted => ?_, kept.flushed⟩
      exact (kept.accounted write isAccepted).imp_left (List.mem_append_left _ ·)
  | @settled settledWrite isPending =>
      constructor
      · intro write isAccepted
        rcases kept.accounted write isAccepted with isPending | isSettled
        · by_cases same : write = settledWrite
          · exact .inr (List.mem_append_right _ (List.mem_singleton.2 same))
          · exact .inl ((List.mem_erase_of_ne same).2 isPending)
        · exact .inr (List.mem_append_left _ isSettled)
      · intro isFlushed write isAccepted
        exact List.mem_append_left _ (kept.flushed isFlushed write isAccepted)
  | goesOn stage before after =>
      refine ⟨kept.accounted, fun isFlushed => ?_⟩
      rw [after] at isFlushed
      cases isFlushed
  | flushed noneLeft =>
      exact ⟨kept.accounted, fun _ => kept.settled_of_none_pending noneLeft⟩
  | closes stage before after =>
      exact ⟨kept.accounted, fun _ => kept.flushed before⟩
  | breaksOff isClosing isError =>
      have noneLeft : process.pending = [] := by
        rcases isError with rfl | rfl
        · exact inTime isClosing
        · exact inTime isClosing
      exact ⟨kept.accounted, fun _ => kept.settled_of_none_pending noneLeft⟩

/-- Every write is pending or settled, and before the flush every pending one was
accepted. -/
structure Counted (process : Process) : Prop where
  distinct : process.pending.Nodup
  pendingBelow : ∀ write ∈ process.pending, write < process.writes
  settledBelow : ∀ write ∈ process.settled, write < process.writes
  notSettled : ∀ write ∈ process.pending, write ∉ process.settled
  wasAccepted : process.stage.isFlushed = false →
    ∀ write ∈ process.pending, write ∈ process.accepted

theorem Counted.enqueue
    (counted : Counted process)
    {accepted : List Nat}
    (wasAccepted : process.stage.isFlushed = false →
      ∀ write ∈ process.pending ++ [process.writes], write ∈ accepted) :
    Counted
      { process with
        writes := process.writes + 1
        pending := process.pending ++ [process.writes]
        accepted := accepted } where
  distinct := by
    refine List.nodup_append.2
      ⟨counted.distinct, List.nodup_singleton _, ?_⟩
    rintro write isPending other isNew rfl
    have below := counted.pendingBelow write isPending
    rw [List.mem_singleton.1 isNew] at below
    exact Nat.lt_irrefl _ below
  pendingBelow := by
    intro write isPending
    rcases List.mem_append.1 isPending with isOld | isNew
    · exact Nat.lt_succ_of_lt (counted.pendingBelow write isOld)
    · rw [List.mem_singleton.1 isNew]
      exact Nat.lt_succ_self _
  settledBelow write isSettled :=
    Nat.lt_succ_of_lt (counted.settledBelow write isSettled)
  notSettled := by
    intro write isPending isSettled
    rcases List.mem_append.1 isPending with isOld | isNew
    · exact counted.notSettled write isOld isSettled
    · have below := counted.settledBelow write isSettled
      rw [List.mem_singleton.1 isNew] at below
      exact Nat.lt_irrefl _ below
  wasAccepted := wasAccepted

theorem Counted.change
    (counted : Counted process)
    (change : Change process event next) : Counted next := by
  cases change with
  | nothing => exact counted
  | accepted running isOpen =>
      refine counted.enqueue fun notFlushed write isPending => ?_
      rcases List.mem_append.1 isPending with isOld | isNew
      · exact List.mem_append_left _ (counted.wasAccepted notFlushed write isOld)
      · exact List.mem_append_right _ isNew
  | late isClosed =>
      refine counted.enqueue fun notFlushed => ?_
      rw [isClosed] at notFlushed
      cases notFlushed
  | @settled settledWrite isPending =>
      refine ⟨counted.distinct.erase _,
        fun write isLeft => counted.pendingBelow write (List.mem_of_mem_erase isLeft),
        ?_, ?_,
        fun notFlushed write isLeft =>
          counted.wasAccepted notFlushed write (List.mem_of_mem_erase isLeft)⟩
      · intro write isSettled
        rcases List.mem_append.1 isSettled with isOld | isNew
        · exact counted.settledBelow write isOld
        · rw [List.mem_singleton.1 isNew]
          exact counted.pendingBelow settledWrite isPending
      · intro write isLeft isSettled
        obtain ⟨isOther, wasPending⟩ := counted.distinct.mem_erase_iff.1 isLeft
        rcases List.mem_append.1 isSettled with isOld | isNew
        · exact counted.notSettled write wasPending isOld
        · exact isOther (List.mem_singleton.1 isNew)
  | goesOn stage before after =>
      exact ⟨counted.distinct, counted.pendingBelow, counted.settledBelow,
        counted.notSettled, fun _ => counted.wasAccepted before⟩
  | flushed noneLeft =>
      exact ⟨counted.distinct, counted.pendingBelow, counted.settledBelow,
        counted.notSettled, nofun⟩
  | closes stage before after =>
      refine ⟨counted.distinct, counted.pendingBelow, counted.settledBelow,
        counted.notSettled, fun notFlushed => ?_⟩
      rw [after] at notFlushed
      cases notFlushed
  | breaksOff isClosing isError =>
      exact ⟨counted.distinct, counted.pendingBelow, counted.settledBelow,
        counted.notSettled, nofun⟩

end Invariants

/-- In a run in which the application is not cut off while writes are pending and
nothing is enqueued between the flush and the end of the database, every write that
was accepted is settled at the exit. Whenever the application is cut off while a
write is pending, that write is lost. -/
theorem drained_of_inTime (events : List Event) :
    let process := runFrom Process.step {} events
    (EveryStep Process.step InTime {} events → process.Drained) ∧
      (process.stage = .closingApp → process.pending ≠ [] →
        ¬(process.step .timedOut).Drained ∧
          ¬(process.step .rejected).Drained) := by
  intro process
  constructor
  · intro every code isExit
    have kept : Kept process :=
      every.invariant Kept
        (fun process event keptBefore inTime =>
          keptBefore.change (change_step process event) inTime)
        ⟨nofun, nofun⟩
    refine kept.flushed ?_
    rw [isExit]
    rfl
  · intro isClosing notEmpty
    have counted : Counted process :=
      runFrom_induction Counted
        (fun process event _ countedBefore =>
          countedBefore.change (change_step process event))
        ⟨List.nodup_nil, nofun, nofun, nofun, nofun⟩
    obtain ⟨write, isPending⟩ := List.exists_mem_of_ne_nil _ notEmpty
    have wasAccepted := counted.wasAccepted (by rw [isClosing]; rfl) write isPending
    have lost : ¬({ process with stage := .exited 1 } : Process).Drained :=
      fun drained => counted.notSettled write isPending
        (drained 1 rfl write wasAccepted)
    constructor
    · simpa only [Process.step, isClosing, if_true] using lost
    · simpa only [Process.step, Process.reject, isClosing] using lost

/-- A shutdown with a write that is pending when the application is closed, and
another one that comes during the flush. -/
def orderlyShutdown : List Event :=
  [.enqueue, .signal, .completed, .completed, .enqueue, .settle 0, .completed,
    .settle 1, .completed, .completed, .completed, .completed]

/-- It settles both. -/
theorem drained_of_orderlyShutdown :
    (runFrom Process.step {} orderlyShutdown).Drained ∧
      (runFrom Process.step {} orderlyShutdown).settled = [0, 1] :=
  ⟨(drained_of_inTime orderlyShutdown).1 (by decide), by decide⟩

/-- A request that outlives the time limit, with an entry in the queue. -/
theorem write_lost_at_timeout :
    ¬∀ events : List Event, (runFrom Process.step {} events).Drained := by
  intro drained
  have isSettled := drained [.enqueue, .signal, .timedOut] 1 rfl 0 (by decide)
  revert isSettled
  decide

end Lifecycle
end AiGateway
