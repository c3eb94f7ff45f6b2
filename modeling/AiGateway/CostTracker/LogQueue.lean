import AiGateway.Foundations.Runs
import AiGateway.Foundations.Traced
import AiGateway.Lifecycle.Shutdown
import Mathlib.Data.List.Count
import Mathlib.Data.List.Induction

/-!
# The queue of the request log

`enqueueRequest` starts an insert in the background and keeps its promise in
`pendingWrites` until the promise has settled; a full set drops the entry. Any
number of calls of `flush` wait, each in a loop, for the promises that they saw.
Requests, settling inserts and flushes come in any order.

The main theorem is about every such run: the set is bounded, every entry is
recorded once or dropped and counted, no failure of an insert gets out, and a
flush that leaves its loop leaves no accepted write behind.
-/

namespace AiGateway
namespace CostTracker

open Foundations (Traced runFrom runFrom_concat)
open Lifecycle (maxPendingLogWrites)

section Model

/-- A line of the log. -/
inductive LogLine
  | warn (message : String)
  | error (err message : String)
  deriving DecidableEq

/-- `recordRequest(entry)` once its insert has succeeded or failed; an error,
given by its message, is caught. -/
def recordRequest : Except String Unit → Traced LogLine String Unit
  | .ok () => pure ⟨⟩
  | .error err =>
      Traced.emit (.error err "Failed to persist request log (ignored)")

/-- How far the promise of a write has come. -/
inductive WritePhase
  | inserting
  /-- The promise of `recordRequest` has settled; the callback of `finally` is
  still to run. -/
  | recorded (result : Except String Unit)
  | settled (result : Except String Unit)

/-- A call of `recordRequest`. -/
structure LogWrite (ε : Type u) where
  entry : ε
  phase : WritePhase := .inserting

/-- Has the write settled? -/
def LogWrite.isSettled (write : LogWrite ε) : Bool :=
  match write.phase with
  | .settled _ => true
  | _ => false

/-- A call of `flush`. -/
inductive Flush
  /-- `await Promise.allSettled([...this.pendingWrites])`, which does not
  reject. -/
  | waiting (snapshot : List Nat)
  /-- The loop is left and the call returns. -/
  | left
  deriving DecidableEq

/-- The queue, with the calls of `recordRequest` and `flush` so far. A write is
known by its position. -/
structure LogQueue (ε : Type u) where
  writes : List (LogWrite ε) := []
  pendingWrites : List Nat := []
  /-- `metrics.requestLogsDropped`. -/
  requestLogsDropped : Nat := 0
  flushes : List Flush := []
  lines : List LogLine := []

/-- What happens next. Writes and flushes are named by their positions. -/
inductive QueueEvent (ε : Type u)
  | enqueueRequest (entry : ε)
  /-- The insert of a write succeeds or fails. -/
  | insertSettles (write : Nat) (outcome : Except String Unit)
  /-- The callback of `finally` runs. -/
  | finallyRuns (write : Nat)
  | flush
  /-- A flush goes on after `Promise.allSettled`. -/
  | goesOn (flush : Nat)

namespace LogQueue

variable {ε : Type u} (queue : LogQueue ε)

/-- `enqueueRequest(entry)`. -/
def enqueueRequest (entry : ε) : LogQueue ε :=
  if queue.pendingWrites.length ≥ maxPendingLogWrites then
    { queue with
      requestLogsDropped := queue.requestLogsDropped + 1
      lines := queue.lines ++ [.warn "Request log queue full; dropping entry"] }
  else
    { queue with
      writes := queue.writes ++ [{ entry := entry }]
      pendingWrites := queue.pendingWrites ++ [queue.writes.length] }

/-- `while (this.pendingWrites.size > 0)`. -/
def flushLoop : Flush :=
  if queue.pendingWrites.length > 0 then .waiting queue.pendingWrites else .left

/-- Has the write at a position settled? -/
def hasSettled (write : Nat) : Bool :=
  queue.writes[write]?.any LogWrite.isSettled

/-- One event; an event that cannot happen changes nothing. -/
def step : QueueEvent ε → LogQueue ε
  | .enqueueRequest entry => queue.enqueueRequest entry
  | .insertSettles write outcome =>
      match queue.writes[write]? with
      | some { entry, phase := .inserting } =>
          { queue with
            writes := queue.writes.set write
              { entry, phase := .recorded (recordRequest outcome).result }
            lines := queue.lines ++ (recordRequest outcome).effects }
      | _ => queue
  | .finallyRuns write =>
      match queue.writes[write]? with
      | some { entry, phase := .recorded result } =>
          { queue with
            writes := queue.writes.set write { entry, phase := .settled result }
            pendingWrites := queue.pendingWrites.erase write }
      | _ => queue
  | .flush => { queue with flushes := queue.flushes ++ [queue.flushLoop] }
  | .goesOn flush =>
      match queue.flushes[flush]? with
      | some (.waiting snapshot) =>
          if ∀ write ∈ snapshot, queue.hasSettled write then
            { queue with flushes := queue.flushes.set flush queue.flushLoop }
          else queue
      | _ => queue

end LogQueue

/-- The entries that a list of events enqueues, in their order. -/
def enqueued (events : List (QueueEvent ε)) : List ε :=
  events.filterMap fun
    | .enqueueRequest entry => some entry
    | _ => none

end Model

section Steps

variable {ε : Type u} (queue : LogQueue ε)

/-- The promise of `recordRequest` is never rejected. -/
@[simp] theorem recordRequest_result (outcome : Except String Unit) :
    (recordRequest outcome).result = .ok ⟨⟩ := by
  cases outcome <;> rfl

/-- What one event can do. -/
inductive QueueChange : QueueEvent ε → LogQueue ε → Prop
  | nothing {event : QueueEvent ε} (enqueuesNone : enqueued [event] = []) :
      QueueChange event queue
  | dropped
      (entry : ε)
      (lines : List LogLine)
      (full : maxPendingLogWrites ≤ queue.pendingWrites.length) :
      QueueChange (.enqueueRequest entry)
        { queue with
          requestLogsDropped := queue.requestLogsDropped + 1, lines }
  | accepted
      (entry : ε)
      (hasRoom : queue.pendingWrites.length < maxPendingLogWrites) :
      QueueChange (.enqueueRequest entry)
        { queue with
          writes := queue.writes ++ [{ entry := entry }]
          pendingWrites := queue.pendingWrites ++ [queue.writes.length] }
  | recorded
      {write : Nat}
      {entry : ε}
      (outcome : Except String Unit)
      (lines : List LogLine)
      (isInserting :
        queue.writes[write]? = some { entry, phase := .inserting }) :
      QueueChange (.insertSettles write outcome)
        { queue with
          writes := queue.writes.set write { entry, phase := .recorded (.ok ⟨⟩) }
          lines }
  | settled
      {write : Nat}
      {entry : ε}
      {result : Except String Unit}
      (isRecorded :
        queue.writes[write]? = some { entry, phase := .recorded result }) :
      QueueChange (.finallyRuns write)
        { queue with
          writes := queue.writes.set write { entry, phase := .settled result }
          pendingWrites := queue.pendingWrites.erase write }
  /-- A flush starts, or goes on, and looks at the set. -/
  | flushed
      {event : QueueEvent ε}
      (flushes : List Flush)
      (enqueuesNone : enqueued [event] = [])
      (leaves : ∀ flush : Nat, flushes[flush]? = some .left →
        queue.flushes[flush]? ≠ some .left → queue.flushLoop = .left) :
      QueueChange event { queue with flushes }

/-- A flush that has just looked at the set leaves only if the loop does. -/
theorem leaves_of_append
    (flush : Nat)
    (hasLeft : (queue.flushes ++ [queue.flushLoop])[flush]? = some .left)
    (before : queue.flushes[flush]? ≠ some .left) :
    queue.flushLoop = .left := by
  rw [List.getElem?_append] at hasLeft
  split_ifs at hasLeft with isOld
  · exact absurd hasLeft before
  · obtain ⟨_, equal⟩ := List.getElem?_eq_some_iff.1 hasLeft
    rwa [List.getElem_singleton] at equal

theorem leaves_of_set
    (other flush : Nat)
    (hasLeft :
      (queue.flushes.set other queue.flushLoop)[flush]? = some .left)
    (before : queue.flushes[flush]? ≠ some .left) :
    queue.flushLoop = .left := by
  rw [List.getElem?_set] at hasLeft
  split_ifs at hasLeft with isOther isOld
  · exact Option.some_inj.1 hasLeft
  · exact absurd hasLeft before

theorem change_enqueueRequest (entry : ε) :
    QueueChange queue (.enqueueRequest entry) (queue.enqueueRequest entry) := by
  unfold LogQueue.enqueueRequest
  split_ifs with full
  · exact .dropped entry _ full
  · exact .accepted entry (Nat.lt_of_not_le full)

theorem change_insertSettles (write : Nat) (outcome : Except String Unit) :
    QueueChange queue (.insertSettles write outcome)
      (queue.step (.insertSettles write outcome)) := by
  cases found : queue.writes[write]? with
  | none =>
      simp only [LogQueue.step, found]
      exact .nothing rfl
  | some known =>
      obtain ⟨entry, phase⟩ := known
      cases phase with
      | inserting =>
          simp only [LogQueue.step, found, recordRequest_result]
          exact .recorded outcome _ found
      | recorded result =>
          simp only [LogQueue.step, found]
          exact .nothing rfl
      | settled result =>
          simp only [LogQueue.step, found]
          exact .nothing rfl

theorem change_finallyRuns (write : Nat) :
    QueueChange queue (.finallyRuns write) (queue.step (.finallyRuns write)) := by
  cases found : queue.writes[write]? with
  | none =>
      simp only [LogQueue.step, found]
      exact .nothing rfl
  | some known =>
      obtain ⟨entry, phase⟩ := known
      cases phase with
      | inserting =>
          simp only [LogQueue.step, found]
          exact .nothing rfl
      | recorded result =>
          simp only [LogQueue.step, found]
          exact .settled found
      | settled result =>
          simp only [LogQueue.step, found]
          exact .nothing rfl

theorem change_goesOn (flush : Nat) :
    QueueChange queue (.goesOn flush) (queue.step (.goesOn flush)) := by
  cases found : queue.flushes[flush]? with
  | none =>
      simp only [LogQueue.step, found]
      exact .nothing rfl
  | some stage =>
      cases stage with
      | left =>
          simp only [LogQueue.step, found]
          exact .nothing rfl
      | waiting snapshot =>
          simp only [LogQueue.step, found]
          split_ifs
          · exact .flushed _ rfl (leaves_of_set queue flush)
          · exact .nothing rfl

theorem change_queue (event : QueueEvent ε) :
    QueueChange queue event (queue.step event) := by
  cases event with
  | enqueueRequest entry => exact change_enqueueRequest queue entry
  | insertSettles write outcome => exact change_insertSettles queue write outcome
  | finallyRuns write => exact change_finallyRuns queue write
  | flush => exact .flushed _ rfl (leaves_of_append queue)
  | goesOn flush => exact change_goesOn queue flush

end Steps

section Invariants

variable {ε : Type u} {queue next : LogQueue ε} {event : QueueEvent ε}
  {entries : List ε}

/-- The set holds the writes that have not settled, and no promise of a write is
rejected. -/
structure Accurate (queue : LogQueue ε) : Prop where
  nodup : queue.pendingWrites.Nodup
  pending : ∀ position, position ∈ queue.pendingWrites ↔
    ∃ write, queue.writes[position]? = some write ∧ write.isSettled = false
  bounded : queue.pendingWrites.length ≤ maxPendingLogWrites
  resolved : ∀ write ∈ queue.writes, ∀ result,
    write.phase = .recorded result ∨ write.phase = .settled result →
      result = .ok ()

/-- Every entry is recorded once, in the order of the calls, or counted. -/
structure Conserved (entries : List ε) (queue : LogQueue ε) : Prop where
  recorded : (queue.writes.map LogWrite.entry).Sublist entries
  counted : entries.length = queue.writes.length + queue.requestLogsDropped

/-- Replacing a write changes the set only if it changes whether it has
settled. -/
theorem Accurate.pending_set
    (accurate : Accurate queue)
    {place : Nat}
    {known new : LogWrite ε}
    (found : queue.writes[place]? = some known)
    (same : new.isSettled = known.isSettled)
    (position : Nat) :
    position ∈ queue.pendingWrites ↔
      ∃ write, (queue.writes.set place new)[position]? = some write ∧
        write.isSettled = false := by
  rw [accurate.pending]
  by_cases isPlace : place = position
  · subst isPlace
    have inRange : place < queue.writes.length :=
      (List.getElem?_eq_some_iff.1 found).1
    rw [found, List.getElem?_set_self inRange]
    simp only [Option.some.injEq, exists_eq_left', same]
  · rw [List.getElem?_set_ne isPlace]

/-- A write that settles leaves the set. -/
theorem Accurate.pending_erase
    (accurate : Accurate queue)
    {place : Nat}
    {known new : LogWrite ε}
    (found : queue.writes[place]? = some known)
    (settles : new.isSettled = true)
    (position : Nat) :
    position ∈ queue.pendingWrites.erase place ↔
      ∃ write, (queue.writes.set place new)[position]? = some write ∧
        write.isSettled = false := by
  rw [accurate.nodup.mem_erase_iff, accurate.pending]
  by_cases isPlace : place = position
  · subst isPlace
    have inRange : place < queue.writes.length :=
      (List.getElem?_eq_some_iff.1 found).1
    rw [List.getElem?_set_self inRange]
    simp [settles]
  · rw [List.getElem?_set_ne isPlace]
    exact and_iff_right (Ne.symm isPlace)

/-- A write that starts joins the set. -/
theorem Accurate.pending_append
    (accurate : Accurate queue)
    (entry : ε)
    (position : Nat) :
    position ∈ queue.pendingWrites ++ [queue.writes.length] ↔
      ∃ write, (queue.writes ++ [{ entry := entry }])[position]? = some write ∧
        write.isSettled = false := by
  rw [List.mem_append, List.mem_singleton, accurate.pending]
  rcases Nat.lt_trichotomy position queue.writes.length with isOld | isNew | isOut
  · rw [List.getElem?_append_left isOld]
    exact or_iff_left (Nat.ne_of_lt isOld)
  · subst isNew
    simp [LogWrite.isSettled]
  · have outside :
        (queue.writes ++ [LogWrite.mk entry .inserting]).length ≤ position := by
      rw [List.length_append, List.length_singleton]
      exact isOut
    rw [List.getElem?_eq_none (Nat.le_of_lt isOut), List.getElem?_eq_none outside]
    simp [Nat.ne_of_gt isOut]

theorem Accurate.accept
    (accurate : Accurate queue)
    (entry : ε)
    (hasRoom : queue.pendingWrites.length < maxPendingLogWrites) :
    Accurate
      { queue with
        writes := queue.writes ++ [{ entry := entry }]
        pendingWrites := queue.pendingWrites ++ [queue.writes.length] } := by
  constructor
  · have isNew : queue.writes.length ∉ queue.pendingWrites := by
      intro isPending
      obtain ⟨write, found, -⟩ := (accurate.pending _).1 isPending
      exact absurd (List.getElem?_eq_some_iff.1 found).1 (Nat.lt_irrefl _)
    change (queue.pendingWrites ++ [queue.writes.length]).Nodup
    rw [← List.concat_eq_append]
    exact accurate.nodup.concat isNew
  · exact accurate.pending_append entry
  · rw [List.length_append, List.length_singleton]
    exact hasRoom
  · intro write isWrite result hasResult
    rcases List.mem_append.1 isWrite with isOld | isNew
    · exact accurate.resolved write isOld result hasResult
    · obtain rfl := List.mem_singleton.1 isNew
      rcases hasResult with h | h <;> cases h

theorem Accurate.change
    (accurate : Accurate queue)
    (change : QueueChange queue event next) : Accurate next := by
  cases change with
  | nothing => exact accurate
  | dropped => exact ⟨accurate.nodup, accurate.pending, accurate.bounded,
      accurate.resolved⟩
  | accepted entry hasRoom => exact accurate.accept entry hasRoom
  | recorded outcome lines isInserting =>
      refine ⟨accurate.nodup, accurate.pending_set isInserting rfl,
        accurate.bounded, ?_⟩
      intro write isWrite result hasResult
      rcases List.mem_or_eq_of_mem_set isWrite with isOld | rfl
      · exact accurate.resolved write isOld result hasResult
      · rcases hasResult with equal | equal
        · injection equal with equal
          exact equal.symm
        · cases equal
  | settled isRecorded =>
      refine ⟨accurate.nodup.erase _, accurate.pending_erase isRecorded rfl,
        Nat.le_trans List.length_erase_le accurate.bounded, ?_⟩
      intro write isWrite result hasResult
      rcases List.mem_or_eq_of_mem_set isWrite with isOld | rfl
      · exact accurate.resolved write isOld result hasResult
      · rcases hasResult with equal | equal
        · cases equal
        · injection equal with equal
          subst equal
          exact accurate.resolved _ (List.mem_of_getElem? isRecorded) _ (.inl rfl)
  | flushed => exact ⟨accurate.nodup, accurate.pending, accurate.bounded,
      accurate.resolved⟩

/-- The writes that have settled and those in the set are all of them. -/
theorem Accurate.settled_add_pending (accurate : Accurate queue) :
    queue.writes.countP LogWrite.isSettled + queue.pendingWrites.length =
      queue.writes.length := by
  have places : queue.pendingWrites.Perm
      (queue.writes.findIdxs fun write => !write.isSettled) := by
    apply (List.perm_ext_iff_of_nodup accurate.nodup List.nodup_findIdxs).2
    intro position
    rw [accurate.pending, List.mem_findIdxs_iff_exists_getElem_pos]
    simp only [List.getElem?_eq_some_iff, Bool.not_eq_true']
    constructor
    · rintro ⟨write, ⟨inRange, rfl⟩, notSettled⟩
      exact ⟨inRange, notSettled⟩
    · rintro ⟨inRange, notSettled⟩
      exact ⟨_, ⟨inRange, rfl⟩, notSettled⟩
  rw [places.length_eq, List.length_findIdxs,
    List.length_eq_countP_add_countP LogWrite.isSettled]
  simp

/-- When the loop of a flush is left, every write has settled. -/
theorem Accurate.settled_of_left
    (accurate : Accurate queue)
    (leaves : queue.flushLoop = .left) :
    ∀ write ∈ queue.writes, write.isSettled = true := by
  have noneLeft : queue.pendingWrites = [] := by
    unfold LogQueue.flushLoop at leaves
    split_ifs at leaves with someLeft
    exact List.length_eq_zero_iff.1 (Nat.eq_zero_of_not_pos someLeft)
  intro write isWrite
  obtain ⟨position, found⟩ := List.mem_iff_getElem?.1 isWrite
  by_contra notSettled
  have isPending : position ∈ queue.pendingWrites :=
    (accurate.pending position).2
      ⟨write, found, Bool.eq_false_iff.2 notSettled⟩
  rw [noneLeft] at isPending
  cases isPending

/-- A write that goes on keeps its entry. -/
theorem map_entry_set
    {place : Nat}
    {entry : ε}
    {phase : WritePhase}
    (found : queue.writes[place]? = some { entry, phase })
    (later : WritePhase) :
    (queue.writes.set place { entry, phase := later }).map LogWrite.entry =
      queue.writes.map LogWrite.entry := by
  have found' : (queue.writes.map LogWrite.entry)[place]? = some entry := by
    rw [List.getElem?_map, found]
    rfl
  obtain ⟨inRange, equal⟩ := List.getElem?_eq_some_iff.1 found'
  rw [List.map_set, ← equal, List.set_getElem_self]

namespace Conserved

/-- A dropped entry is counted. -/
theorem drop
    (conserved : Conserved entries queue)
    (entry : ε)
    (lines : List LogLine) :
    Conserved (entries ++ [entry])
      { queue with
        requestLogsDropped := queue.requestLogsDropped + 1, lines } := by
  have counted := conserved.counted
  constructor
  · exact conserved.recorded.trans (List.sublist_append_left _ _)
  · rw [List.length_append, List.length_singleton]
    dsimp only
    omega

/-- An accepted entry is recorded. -/
theorem accept
    (conserved : Conserved entries queue)
    (entry : ε)
    (pendingWrites : List Nat) :
    Conserved (entries ++ [entry])
      { queue with
        writes := queue.writes ++ [{ entry := entry }], pendingWrites } := by
  have counted := conserved.counted
  constructor
  · rw [List.map_append]
    exact conserved.recorded.append (List.Sublist.refl _)
  · rw [List.length_append, List.length_append, List.length_singleton,
      List.length_singleton]
    dsimp only
    omega

/-- A write that goes on is not another one. -/
theorem goesOn
    (conserved : Conserved entries queue)
    {place : Nat}
    {entry : ε}
    {phase : WritePhase}
    (found : queue.writes[place]? = some { entry, phase })
    (later : WritePhase)
    (pendingWrites : List Nat)
    (lines : List LogLine) :
    Conserved entries
      { queue with
        writes := queue.writes.set place { entry, phase := later }
        pendingWrites
        lines } := by
  constructor
  · rw [map_entry_set found later]
    exact conserved.recorded
  · rw [List.length_set]
    exact conserved.counted

/-- A step that enqueues nothing adds no entry. -/
theorem of_enqueues_none
    (conserved : Conserved entries next)
    (enqueuesNone : enqueued [event] = []) :
    Conserved (entries ++ enqueued [event]) next := by
  rw [enqueuesNone, List.append_nil]
  exact conserved

theorem change
    (conserved : Conserved entries queue)
    (change : QueueChange queue event next) :
    Conserved (entries ++ enqueued [event]) next := by
  cases change with
  | nothing enqueuesNone => exact conserved.of_enqueues_none enqueuesNone
  | dropped entry lines => exact conserved.drop entry lines
  | accepted entry => exact conserved.accept entry _
  | recorded outcome lines isInserting =>
      exact (conserved.goesOn isInserting _ _ lines).of_enqueues_none rfl
  | settled isRecorded =>
      exact (conserved.goesOn isRecorded _ _ _).of_enqueues_none rfl
  | flushed flushes enqueuesNone =>
      apply of_enqueues_none _ enqueuesNone
      exact ⟨conserved.recorded, conserved.counted⟩

end Conserved

end Invariants

section Run

variable {ε : Type u}

theorem accurate_start : Accurate ({} : LogQueue ε) where
  nodup := List.nodup_nil
  pending := by simp
  bounded := Nat.zero_le _
  resolved := by simp

theorem conserved_start : Conserved [] ({} : LogQueue ε) where
  recorded := List.Sublist.refl _
  counted := rfl

/-- The invariants hold in every run. -/
theorem queue_run (events : List (QueueEvent ε)) :
    Accurate (runFrom LogQueue.step {} events) ∧
      Conserved (enqueued events) (runFrom LogQueue.step {} events) := by
  induction events using List.reverseRecOn with
  | nil => exact ⟨accurate_start, conserved_start⟩
  | append_singleton events event inductionHypothesis =>
      obtain ⟨accurate, conserved⟩ := inductionHypothesis
      have change := change_queue (runFrom LogQueue.step {} events) event
      have split : enqueued (events ++ [event]) =
          enqueued events ++ enqueued [event] := List.filterMap_append
      rw [runFrom_concat, split]
      exact ⟨accurate.change change, conserved.change change⟩

/-- A flush leaves its loop only when the set is empty, and does nothing
else. -/
theorem QueueChange.leaves
    {queue next : LogQueue ε}
    {event : QueueEvent ε}
    (change : QueueChange queue event next)
    {flush : Nat}
    (hasLeft : next.flushes[flush]? = some .left)
    (before : queue.flushes[flush]? ≠ some .left) :
    queue.flushLoop = .left ∧ next.writes = queue.writes := by
  cases change with
  | flushed flushes enqueuesNone leaves =>
      exact ⟨leaves flush hasLeft before, rfl⟩
  | _ => exact absurd hasLeft before

/-- After every run of calls, inserts that succeed or fail, and flushes: the set
is bounded; the recorded entries are entries of the calls, each once, and all
others are counted as dropped; no promise of a write is rejected; and when the
next event makes a flush leave its loop, every accepted write has settled. -/
theorem logQueue_run (events : List (QueueEvent ε)) :
    let queue := runFrom LogQueue.step {} events
    queue.pendingWrites.length ≤ maxPendingLogWrites ∧
      (queue.writes.map LogWrite.entry).Sublist (enqueued events) ∧
      (enqueued events).length =
        queue.writes.length + queue.requestLogsDropped ∧
      queue.writes.length =
        queue.writes.countP LogWrite.isSettled + queue.pendingWrites.length ∧
      (∀ write ∈ queue.writes, ∀ err,
        write.phase ≠ .recorded (.error err) ∧
          write.phase ≠ .settled (.error err)) ∧
      ∀ event, ∀ flush : Nat,
        (queue.step event).flushes[flush]? = some .left →
          queue.flushes[flush]? ≠ some .left →
          ∀ write ∈ (queue.step event).writes, write.isSettled = true := by
  intro queue
  obtain ⟨accurate, conserved⟩ := queue_run events
  refine ⟨accurate.bounded, conserved.recorded, conserved.counted,
    accurate.settled_add_pending.symm, ?_, ?_⟩
  · intro write isWrite err
    constructor
    · intro isRejected
      cases accurate.resolved write isWrite _ (.inl isRejected)
    · intro isRejected
      cases accurate.resolved write isWrite _ (.inr isRejected)
  · intro event flush hasLeft before
    obtain ⟨leaves, sameWrites⟩ :=
      (change_queue queue event).leaves hasLeft before
    rw [sameWrites]
    exact accurate.settled_of_left leaves

/-- A flush waits on for an entry that comes while it waits. -/
def enqueuedWhileWaiting : List (QueueEvent String) :=
  [.enqueueRequest "first", .flush, .enqueueRequest "second",
    .insertSettles 0 (.error "db down"), .finallyRuns 0, .goesOn 0]

example :
    (runFrom LogQueue.step {} enqueuedWhileWaiting).flushes =
      [.waiting [1]] := by decide

example :
    (runFrom LogQueue.step {} (enqueuedWhileWaiting ++
      [.insertSettles 1 (.ok ()), .finallyRuns 1, .goesOn 0])).flushes =
      [.left] := by decide

end Run

end CostTracker
end AiGateway
