import AiGateway.Foundations.Runs
import Mathlib.Logic.Function.Basic

/-!
# The health monitor

A timer starts a run of probes unless one is at work. A run reads the active
providers, checks all of them at once, writes one row for each, and refreshes the
gauges. `Promise.all` rejects with the first check that is rejected, while the
others go on; the run then counts as over.

The main theorems say that runs do not overlap, and what is still in flight when
`stop()` resolves: nothing, unless a row of the same run was refused.
-/

namespace AiGateway
namespace Services

open Foundations

/-- `HEALTH_STATUS`. -/
inductive HealthStatus
  | healthy
  | degraded
  | unhealthy
  | unknown
  deriving DecidableEq, Repr

/-- What `upsertHealth` writes for a provider, but for the time of the check. -/
structure Health where
  status : HealthStatus
  latencyMs : Option Nat
  errorMessage : Option String
  deriving DecidableEq, Repr

/-- What a check reads of a provider. -/
structure ProviderProbeRow where
  id : String
  healthCheckUrl : Option String
  deriving DecidableEq, Repr

/-- `DEGRADED_LATENCY_MS`. -/
def degradedLatencyMs : Nat := 2000

/-- The row for a response. -/
def Health.ofResponse (status latencyMs : Nat) : Health :=
  -- `response.ok`
  if 200 ≤ status ∧ status ≤ 299 then
    { status := if degradedLatencyMs < latencyMs then .degraded else .healthy
      latencyMs := some latencyMs
      errorMessage := none }
  else
    { status := .unhealthy
      latencyMs := some latencyMs
      errorMessage := some ("HTTP " ++ toString status) }

/-- The row for an error. -/
def Health.ofError (message : String) : Health where
  status := .unhealthy
  latencyMs := none
  errorMessage := some message

/-- Where a call of `checkProvider` is. -/
inductive Check
  | fetching (providerId : String)
  /-- Its row is being written, in the `try` or outside it. -/
  | writing (providerId : String) (health : Health) (guarded : Bool)
  | fulfilled
  | refused
  deriving DecidableEq, Repr

/-- `checkProvider(row)` until its first `await`. -/
def checkProvider (row : ProviderProbeRow) : Check :=
  match row.healthCheckUrl with
  | none => .writing row.id ⟨.unknown, none, none⟩ false
  | some url =>
      if url = "" then .writing row.id ⟨.unknown, none, none⟩ false
      else .fetching row.id

/-- Is the call over? -/
def Check.isOver : Check → Bool
  | .fulfilled | .refused => true
  | .fetching _ | .writing .. => false

/-- Where a call of `runOnce` is. -/
inductive RunStage
  /-- It reads the active providers. -/
  | reading
  /-- `await Promise.all(...)`. -/
  | checking
  /-- `refreshCircuitGauge`, which does not throw. -/
  | refreshing
  /-- It has returned or thrown. -/
  | ended
  deriving DecidableEq, Repr

/-- A call of `runOnce`. -/
structure Run where
  stage : RunStage := .reading
  checks : List Check := []
  deriving DecidableEq, Repr

/-- What can happen to a run. -/
inductive RunEvent
  | rows (rows : List ProviderProbeRow)
  | readFailed
  | responded (check status latencyMs : Nat)
  | fetchFailed (check : Nat) (message : String)
  | written (check : Nat)
  | writeFailed (check : Nat) (message : String)
  | refreshed
  deriving DecidableEq, Repr

/-- `provider_health`, by the id of the provider. -/
abbrev HealthTable := String → Option Health

namespace Run

variable (run : Run)

/-- `Promise.all`: the run goes on when all checks are fulfilled, and throws when
one is refused. -/
def settleAll (checks : List Check) : Run :=
  if run.stage = .checking then
    if checks.any (· = .refused) then { stage := .ended, checks := checks }
    else if checks.all Check.isOver then { stage := .refreshing, checks := checks }
    else { run with checks := checks }
  else
    { run with checks := checks }

/-- A check moves. -/
def put (index : Nat) (check : Check) : Run :=
  run.settleAll (run.checks.set index check)

/-- What happens to a check, and the row it leaves. -/
def advance (index : Nat) : RunEvent → Run × Option (String × Health)
  | .responded _ status latencyMs =>
      match run.checks[index]? with
      | some (.fetching id) =>
          (run.put index (.writing id (.ofResponse status latencyMs) true), none)
      | _ => (run, none)
  | .fetchFailed _ message =>
      match run.checks[index]? with
      | some (.fetching id) =>
          (run.put index (.writing id (.ofError message) false), none)
      | _ => (run, none)
  | .written _ =>
      match run.checks[index]? with
      | some (.writing id health _) => (run.put index .fulfilled, some (id, health))
      | _ => (run, none)
  | .writeFailed _ message =>
      match run.checks[index]? with
      | some (.writing id _ true) =>
          (run.put index (.writing id (.ofError message) false), none)
      | some (.writing _ _ false) => (run.put index .refused, none)
      | _ => (run, none)
  | .rows _ | .readFailed | .refreshed => (run, none)

/-- One event of a run. -/
def step (event : RunEvent) : Run × Option (String × Health) :=
  match event with
  | .rows rows =>
      if run.stage = .reading then
        (({ run with stage := .checking } : Run).settleAll (rows.map checkProvider),
          none)
      else
        (run, none)
  | .readFailed =>
      if run.stage = .reading then ({ run with stage := .ended }, none) else (run, none)
  | .refreshed =>
      if run.stage = .refreshing then ({ run with stage := .ended }, none)
      else (run, none)
  | .responded check .. | .fetchFailed check _ | .written check
  | .writeFailed check _ => run.advance check event

end Run

/-- The monitor, its runs and its table. -/
structure Monitor where
  /-- `timer !== undefined`. -/
  armed : Bool := false
  stopped : Bool := false
  running : Bool := false
  /-- The runs, of which the last is `current`. -/
  runs : List Run := []
  /-- The run that each call of `stop()` awaits. -/
  stops : List (Option Nat) := []
  table : HealthTable := fun _ => none

/-- What happens next. -/
inductive Event
  | start
  | stop
  /-- The interval is over. -/
  | timer
  | probe (run : Nat) (event : RunEvent)
  deriving DecidableEq, Repr

namespace Monitor

variable (monitor : Monitor)

/-- `tick()`. -/
def tick : Monitor :=
  if monitor.running || monitor.stopped then
    monitor
  else
    { monitor with running := true, runs := monitor.runs ++ [{}] }

/-- `start()`, with `HEALTH_MONITOR_ENABLED`. -/
def start (enabled : Bool) : Monitor :=
  if monitor.armed || !enabled then monitor
  else ({ monitor with armed := true } : Monitor).tick

/-- `stop()`, until its `await`. -/
def stop : Monitor :=
  { monitor with
    stopped := true
    armed := false
    stops := monitor.stops ++ [if monitor.runs = [] then none else some (monitor.runs.length - 1)] }

/-- An event of a run; `finally` lowers the flag when it is over. -/
def probe (index : Nat) (run : Run) (event : RunEvent) : Monitor :=
  let (next, row) := run.step event
  { monitor with
    runs := monitor.runs.set index next
    running :=
      if run.stage ≠ .ended ∧ next.stage = .ended then false else monitor.running
    table :=
      match row with
      | some (id, health) => Function.update monitor.table id (some health)
      | none => monitor.table }

/-- One event. -/
def step (enabled : Bool) (monitor : Monitor) : Event → Monitor
  | .start => monitor.start enabled
  | .stop => monitor.stop
  | .timer => if monitor.armed then monitor.tick else monitor
  | .probe index event =>
      match monitor.runs[index]? with
      | some run => monitor.probe index run event
      | none => monitor

/-- The call of `stop()` that awaits this run has resolved. -/
def Resolved (awaited : Option Nat) : Prop :=
  awaited ∈ monitor.stops ∧
    ∀ index ∈ awaited, ∀ run, monitor.runs[index]? = some run → run.stage = .ended

end Monitor

section Runs

namespace Run

variable {run : Run}

/-- What a run has in flight: nothing before its checks start, nothing once they are
all over, and when it is over nothing unless one of them was refused. -/
def Sound (run : Run) : Prop :=
  match run.stage with
  | .reading => run.checks = []
  | .checking => True
  | .refreshing => ∀ check ∈ run.checks, check.isOver = true
  | .ended => .refused ∈ run.checks ∨ ∀ check ∈ run.checks, check.isOver = true

/-- A check moves on, or nothing happens; a row is left by a check that was being
written. -/
theorem advance_cases (run : Run) (index : Nat) (event : RunEvent) :
    run.advance index event = (run, none) ∨
      ∃ check moved row, run.checks[index]? = some check ∧ check.isOver = false ∧
        run.advance index event = (run.put index moved, row) := by
  cases found : run.checks[index]? with
  | none => exact .inl (by cases event <;> simp [advance, found])
  | some check =>
      cases check with
      | fulfilled => exact .inl (by cases event <;> simp [advance, found])
      | refused => exact .inl (by cases event <;> simp [advance, found])
      | fetching id =>
          cases event with
          | responded _ status latencyMs =>
              exact .inr ⟨_, _, _, rfl, rfl, by rw [advance, found]⟩
          | fetchFailed _ message =>
              exact .inr ⟨_, _, _, rfl, rfl, by rw [advance, found]⟩
          | _ => exact .inl (by simp [advance, found])
      | writing id health guarded =>
          cases event with
          | written _ => exact .inr ⟨_, _, _, rfl, rfl, by rw [advance, found]⟩
          | writeFailed _ message =>
              cases guarded with
              | true => exact .inr ⟨_, _, _, rfl, rfl, by rw [advance, found]⟩
              | false => exact .inr ⟨_, _, _, rfl, rfl, by rw [advance, found]⟩
          | _ => exact .inl (by simp [advance, found])

/-- What a run that is over has left in flight. -/
theorem Sound.leaves (sound : run.Sound) (ended : run.stage = .ended) :
    .refused ∈ run.checks ∨ ∀ check ∈ run.checks, check.isOver = true := by
  unfold Sound at sound
  rw [ended] at sound
  exact sound

/-- `Promise.all` leaves a run that is sound. -/
theorem Sound.settleAll
    {checks : List Check}
    (checking : run.stage = .checking) :
    (run.settleAll checks).Sound := by
  rw [Run.settleAll, if_pos checking]
  split_ifs with anyRefused allOver
  · obtain ⟨check, isCheck, refused⟩ := List.any_eq_true.1 anyRefused
    exact .inl (of_decide_eq_true refused ▸ isCheck)
  · exact List.all_eq_true.1 allOver
  · rw [Sound, checking]
    trivial

/-- A check that is in flight moves. -/
theorem Sound.put
    (sound : run.Sound)
    {index : Nat}
    {check : Check}
    (found : run.checks[index]? = some check)
    (inFlight : check.isOver = false)
    (moved : Check) :
    (run.put index moved).Sound := by
  by_cases checking : run.stage = .checking
  · exact .settleAll checking
  have notAll : ¬ ∀ check ∈ run.checks, check.isOver = true := by
    intro allOver
    rw [allOver check (List.mem_of_getElem? found)] at inFlight
    cases inFlight
  rw [Run.put, Run.settleAll, if_neg checking]
  unfold Sound at sound ⊢
  cases stage : run.stage with
  | checking => exact absurd stage checking
  | reading =>
      rw [stage] at sound
      rw [sound] at found
      cases found
  | refreshing =>
      rw [stage] at sound
      exact absurd sound notAll
  | ended =>
      rw [stage] at sound
      obtain ⟨position, isRefused⟩ :=
        List.mem_iff_getElem?.1 (sound.resolve_right notAll)
      have different : index ≠ position := by
        rintro rfl
        rw [found] at isRefused
        cases isRefused
        cases inFlight
      refine .inl (List.mem_of_getElem? (i := position) ?_)
      rw [List.getElem?_set_ne different, isRefused]

/-- Every event keeps a run sound. -/
theorem Sound.step (sound : run.Sound) (event : RunEvent) :
    (run.step event).1.Sound := by
  have advances : ∀ index, (run.advance index event).1.Sound := by
    intro index
    rcases run.advance_cases index event with
      nothing | ⟨check, moved, row, found, inFlight, result⟩
    · rw [nothing]
      exact sound
    · rw [result]
      exact sound.put found inFlight moved
  cases event with
  | rows rows =>
      rw [Run.step]
      split_ifs
      · exact .settleAll rfl
      · exact sound
  | readFailed =>
      rw [Run.step]
      split_ifs with reading
      · unfold Sound at sound
        rw [reading] at sound
        exact .inr (by rw [sound]; nofun)
      · exact sound
  | refreshed =>
      rw [Run.step]
      split_ifs with refreshing
      · unfold Sound at sound
        rw [refreshing] at sound
        exact .inr sound
      · exact sound
  | responded check status latencyMs => exact advances check
  | fetchFailed check message => exact advances check
  | written check => exact advances check
  | writeFailed check message => exact advances check

/-- A run that is over stays over. -/
theorem stage_step_of_over
    (ended : run.stage = .ended)
    (event : RunEvent) :
    (run.step event).1.stage = .ended := by
  have advances : ∀ index, (run.advance index event).1.stage = .ended := by
    intro index
    rcases run.advance_cases index event with
      nothing | ⟨check, moved, row, found, inFlight, result⟩
    · rw [nothing]
      exact ended
    · rw [result, Run.put, Run.settleAll, if_neg (by rw [ended]; nofun)]
      exact ended
  cases event with
  | rows rows => simp [Run.step, ended]
  | readFailed => simp [Run.step, ended]
  | refreshed => simp [Run.step, ended]
  | responded check status latencyMs => exact advances check
  | fetchFailed check message => exact advances check
  | written check => exact advances check
  | writeFailed check message => exact advances check

/-- Nothing happens any more in a run that is over and has nothing in flight. -/
theorem step_of_idle
    (ended : run.stage = .ended)
    (idle : ∀ check ∈ run.checks, check.isOver = true)
    (event : RunEvent) :
    run.step event = (run, none) := by
  have advances : ∀ index, run.advance index event = (run, none) := by
    intro index
    rcases run.advance_cases index event with
      nothing | ⟨check, moved, row, found, inFlight, result⟩
    · exact nothing
    · rw [idle check (List.mem_of_getElem? found)] at inFlight
      cases inFlight
  cases event with
  | rows rows => simp [Run.step, ended]
  | readFailed => simp [Run.step, ended]
  | refreshed => simp [Run.step, ended]
  | responded check status latencyMs => exact advances check
  | fetchFailed check message => exact advances check
  | written check => exact advances check
  | writeFailed check message => exact advances check

end Run

end Runs

section Monitors

namespace Monitor

variable {monitor : Monitor}

/-- Only the last run is at work, and the flag says whether it is. -/
structure Sound (monitor : Monitor) : Prop where
  runs : ∀ run ∈ monitor.runs, run.Sound
  last : ∀ (index : Nat) (run : Run), monitor.runs[index]? = some run →
    run.stage ≠ .ended → index + 1 = monitor.runs.length
  flag : monitor.running = true ↔ ∃ run ∈ monitor.runs, run.stage ≠ .ended

namespace Sound

theorem tick (sound : monitor.Sound) : monitor.tick.Sound := by
  rw [Monitor.tick]
  split_ifs with busy
  · exact sound
  rw [Bool.or_eq_true, not_or] at busy
  refine ⟨fun run isRun => ?_, fun index run isRun atWork => ?_, ?_⟩
  · rcases List.mem_append.1 isRun with isOld | isNew
    · exact sound.runs run isOld
    · rw [List.mem_singleton.1 isNew]
      exact rfl
  · change index + 1 = (monitor.runs ++ [_]).length
    change (monitor.runs ++ [_])[index]? = _ at isRun
    rw [List.length_append, List.length_singleton]
    rcases Nat.lt_or_ge index monitor.runs.length with isOld | isNew
    · rw [List.getElem?_append_left isOld] at isRun
      exact absurd (sound.flag.2 ⟨run, List.mem_of_getElem? isRun, atWork⟩) busy.1
    · rw [List.getElem?_append_right isNew] at isRun
      obtain ⟨inBound, -⟩ := List.getElem?_eq_some_iff.1 isRun
      rw [List.length_singleton] at inBound
      omega
  · exact iff_of_true rfl ⟨{}, List.mem_concat_self, nofun⟩

/-- An event of one of the runs. -/
theorem probe
    (sound : monitor.Sound)
    {index : Nat}
    {run : Run}
    (isRun : monitor.runs[index]? = some run)
    (event : RunEvent) :
    (monitor.probe index run event).Sound := by
  have cases : ∀ (other : Nat) (otherRun : Run),
      (monitor.runs.set index (run.step event).1)[other]? = some otherRun →
      other = index ∧ otherRun = (run.step event).1 ∨
        other ≠ index ∧ monitor.runs[other]? = some otherRun := by
    intro other otherRun isOther
    rw [List.getElem?_set] at isOther
    split_ifs at isOther with same inBound
    · exact .inl ⟨same.symm, (Option.some_inj.1 isOther).symm⟩
    · exact .inr ⟨Ne.symm same, isOther⟩
  obtain ⟨inBound, -⟩ := List.getElem?_eq_some_iff.1 isRun
  have isNext : (monitor.runs.set index (run.step event).1)[index]? =
      some (run.step event).1 := List.getElem?_set_self inBound
  refine ⟨fun other isOther => ?_, fun other otherRun isOther atWork => ?_, ?_⟩
  · obtain ⟨position, found⟩ := List.mem_iff_getElem?.1 isOther
    rcases cases position other found with ⟨-, rfl⟩ | ⟨-, isOld⟩
    · exact (sound.runs run (List.mem_of_getElem? isRun)).step event
    · exact sound.runs other (List.mem_of_getElem? isOld)
  · change other + 1 = (monitor.runs.set index _).length
    rw [List.length_set]
    rcases cases other otherRun isOther with ⟨rfl, rfl⟩ | ⟨-, isOld⟩
    · exact sound.last other run isRun
        fun ended => atWork (Run.stage_step_of_over ended event)
    · exact sound.last other otherRun isOld atWork
  · change (if run.stage ≠ .ended ∧ (run.step event).1.stage = .ended then false
      else monitor.running) = true ↔
      ∃ other ∈ monitor.runs.set index (run.step event).1, other.stage ≠ .ended
    by_cases ends : run.stage ≠ .ended ∧ (run.step event).1.stage = .ended
    · rw [if_pos ends]
      refine iff_of_false nofun ?_
      rintro ⟨other, isOther, atWork⟩
      obtain ⟨position, found⟩ := List.mem_iff_getElem?.1 isOther
      rcases cases position other found with ⟨-, rfl⟩ | ⟨different, isOld⟩
      · exact atWork ends.2
      · have one := sound.last index run isRun ends.1
        have two := sound.last position other isOld atWork
        omega
    · rw [if_neg ends, sound.flag]
      constructor
      · rintro ⟨other, isOther, atWork⟩
        obtain ⟨position, found⟩ := List.mem_iff_getElem?.1 isOther
        by_cases same : position = index
        · subst same
          obtain rfl : run = other := Option.some_inj.1 (isRun.symm.trans found)
          exact ⟨_, List.mem_of_getElem? isNext, fun ended => ends ⟨atWork, ended⟩⟩
        · refine ⟨other, List.mem_of_getElem? (i := position) ?_, atWork⟩
          rw [List.getElem?_set_ne (Ne.symm same), found]
      · rintro ⟨other, isOther, atWork⟩
        obtain ⟨position, found⟩ := List.mem_iff_getElem?.1 isOther
        rcases cases position other found with ⟨rfl, rfl⟩ | ⟨-, isOld⟩
        · exact ⟨run, List.mem_of_getElem? isRun,
            fun ended => atWork (Run.stage_step_of_over ended event)⟩
        · exact ⟨other, List.mem_of_getElem? isOld, atWork⟩

theorem step (sound : monitor.Sound) (enabled : Bool) (event : Event) :
    (Monitor.step enabled monitor event).Sound := by
  cases event with
  | start =>
      change (monitor.start enabled).Sound
      rw [Monitor.start]
      split_ifs
      · exact sound
      · have armed : Monitor.Sound { monitor with armed := true } :=
          ⟨sound.runs, sound.last, sound.flag⟩
        exact armed.tick
  | stop => exact ⟨sound.runs, sound.last, sound.flag⟩
  | timer =>
      simp only [Monitor.step]
      split_ifs
      · exact sound.tick
      · exact sound
  | probe index event =>
      simp only [Monitor.step]
      cases isRun : monitor.runs[index]? with
      | none => exact sound
      | some run => exact sound.probe isRun event

end Sound

/-- The monitor after any events is sound. -/
theorem sound_runFrom (enabled : Bool) (events : List Event) :
    (runFrom (Monitor.step enabled) {} events).Sound :=
  runFrom_induction Monitor.Sound
    (fun _ event _ sound => sound.step enabled event)
    { runs := nofun
      last := nofun
      flag := iff_of_false nofun (by rintro ⟨run, isRun, -⟩; cases isRun) }

/-- Runs do not overlap: the flag is up exactly while a run is at work, only the
last one may be, and what a run that is over has left in flight are checks beside
one that was refused. -/
theorem runs_do_not_overlap (enabled : Bool) (events : List Event) :
    let final := runFrom (Monitor.step enabled) {} events
    (final.running = true ↔ ∃ run ∈ final.runs, run.stage ≠ .ended) ∧
      (∀ (index : Nat) (run : Run), final.runs[index]? = some run →
        run.stage ≠ .ended → index + 1 = final.runs.length) ∧
      ∀ run ∈ final.runs, run.stage = .ended →
        .refused ∈ run.checks ∨ ∀ check ∈ run.checks, check.isOver = true := by
  intro final
  have sound : final.Sound := sound_runFrom enabled events
  exact ⟨sound.flag, sound.last, fun run isRun => (sound.runs run isRun).leaves⟩

/-- Every call of `stop()` awaits the last run there will be. -/
def Stopping (monitor : Monitor) : Prop :=
  ∀ awaited ∈ monitor.stops, monitor.stopped = true ∧
    (awaited = none ∧ monitor.runs = [] ∨
      ∃ index, awaited = some index ∧ index + 1 = monitor.runs.length)

/-- A stopped monitor starts no run. -/
theorem tick_of_stopped (stopped : monitor.stopped = true) :
    monitor.tick = monitor := by
  rw [tick, stopped, Bool.or_true, if_pos rfl]

/-- What an event can do to a stopped monitor: an event of a run, or nothing that
concerns the runs. -/
theorem step_of_stopped
    (stopped : monitor.stopped = true)
    (enabled : Bool)
    (event : Event) :
    (monitor.step enabled event).stopped = true ∧
      ((∃ index run probe, monitor.runs[index]? = some run ∧
          monitor.step enabled event = monitor.probe index run probe) ∨
        (monitor.step enabled event).runs = monitor.runs ∧
          (monitor.step enabled event).table = monitor.table) := by
  cases event with
  | stop => exact ⟨rfl, .inr ⟨rfl, rfl⟩⟩
  | start =>
      change (monitor.start enabled).stopped = true ∧ _
      simp only [Monitor.step, Monitor.start]
      split_ifs
      · exact ⟨stopped, .inr ⟨rfl, rfl⟩⟩
      · have idle : Monitor.tick { monitor with armed := true } =
            { monitor with armed := true } := tick_of_stopped stopped
        rw [idle]
        exact ⟨stopped, .inr ⟨rfl, rfl⟩⟩
  | timer =>
      simp only [Monitor.step]
      split_ifs
      · rw [tick_of_stopped stopped]
        exact ⟨stopped, .inr ⟨rfl, rfl⟩⟩
      · exact ⟨stopped, .inr ⟨rfl, rfl⟩⟩
  | probe index event =>
      simp only [Monitor.step]
      cases isRun : monitor.runs[index]? with
      | none => exact ⟨stopped, .inr ⟨rfl, rfl⟩⟩
      | some run => exact ⟨stopped, .inl ⟨index, run, event, isRun, rfl⟩⟩

/-- The number of runs does not change after `stop()`. -/
theorem length_runs_of_stopped
    (stopped : monitor.stopped = true)
    (enabled : Bool)
    (event : Event) :
    (monitor.step enabled event).runs.length = monitor.runs.length := by
  rcases (step_of_stopped stopped enabled event).2 with
    ⟨index, run, probe, -, result⟩ | ⟨same, -⟩
  · rw [result]
    exact List.length_set
  · rw [same]

/-- Every event keeps what the calls of `stop()` await. -/
theorem Stopping.step
    (stopping : monitor.Stopping)
    (enabled : Bool)
    (event : Event) :
    (monitor.step enabled event).Stopping := by
  intro awaited isAwaited
  have known : awaited ∈ monitor.stops ∨
      event = .stop ∧ awaited =
        if monitor.runs = [] then none else some (monitor.runs.length - 1) := by
    cases event with
    | stop =>
        rcases List.mem_append.1 isAwaited with isOld | isNew
        · exact .inl isOld
        · exact .inr ⟨rfl, List.mem_singleton.1 isNew⟩
    | start =>
        simp only [Monitor.step, Monitor.start, Monitor.tick] at isAwaited
        split_ifs at isAwaited <;> exact .inl isAwaited
    | timer =>
        simp only [Monitor.step, Monitor.tick] at isAwaited
        split_ifs at isAwaited <;> exact .inl isAwaited
    | probe index event =>
        simp only [Monitor.step] at isAwaited
        cases isRun : monitor.runs[index]? with
        | none =>
            rw [isRun] at isAwaited
            exact .inl isAwaited
        | some run =>
            rw [isRun] at isAwaited
            exact .inl isAwaited
  rcases known with isOld | ⟨rfl, rfl⟩
  · obtain ⟨stopped, isLast⟩ := stopping awaited isOld
    have sameLength := length_runs_of_stopped stopped enabled event
    refine ⟨(step_of_stopped stopped enabled event).1, ?_⟩
    rcases isLast with ⟨isNone, noRuns⟩ | ⟨index, isSome, isLast⟩
    · rw [noRuns, List.length_nil, List.length_eq_zero_iff] at sameLength
      exact .inl ⟨isNone, sameLength⟩
    · exact .inr ⟨index, isSome, isLast.trans sameLength.symm⟩
  · refine ⟨rfl, ?_⟩
    by_cases noRuns : monitor.runs = []
    · exact .inl ⟨if_pos noRuns, noRuns⟩
    · refine .inr ⟨_, if_neg noRuns, ?_⟩
      exact Nat.sub_add_cancel (List.length_pos_iff.2 noRuns)

/-- When a call of `stop()` has resolved every run is over, and what is still in
flight are checks of a run in which one was refused. No run starts after it, and
if no check was refused neither the runs nor the table change any more. -/
theorem stop_leaves_nothing
    (enabled : Bool)
    (events : List Event)
    {awaited : Option Nat}
    (resolved : (runFrom (Monitor.step enabled) {} events).Resolved awaited) :
    let final := runFrom (Monitor.step enabled) {} events
    (∀ run ∈ final.runs, run.stage = .ended ∧
      (.refused ∈ run.checks ∨ ∀ check ∈ run.checks, check.isOver = true)) ∧
      ∀ later, let after := runFrom (Monitor.step enabled) final later
        after.runs.length = final.runs.length ∧
          ((∀ run ∈ final.runs, .refused ∉ run.checks) →
            after.runs = final.runs ∧ after.table = final.table) := by
  intro final
  have sound : final.Sound := sound_runFrom enabled events
  have stopping : final.Stopping := runFrom_induction Monitor.Stopping
    (fun _ event _ stopping => stopping.step enabled event) nofun
  obtain ⟨isAwaited, ended⟩ := resolved
  obtain ⟨stopped, waits⟩ := stopping awaited isAwaited
  have allOver : ∀ run ∈ final.runs, run.stage = .ended := by
    intro run isRun
    by_contra atWork
    obtain ⟨position, found⟩ := List.mem_iff_getElem?.1 isRun
    have last : position + 1 = final.runs.length := sound.last position run found atWork
    rcases waits with ⟨-, noRuns⟩ | ⟨index, rfl, isEnd⟩
    · rw [noRuns] at isRun
      cases isRun
    · obtain rfl : position = index := by omega
      exact atWork (ended position rfl run found)
  refine ⟨fun run isRun =>
    ⟨allOver run isRun, (sound.runs run isRun).leaves (allOver run isRun)⟩, fun later => ⟨?_, ?_⟩⟩
  · exact (runFrom_induction
      (fun state : Monitor =>
        state.stopped = true ∧ state.runs.length = final.runs.length)
      (fun state event _ ⟨isStopped, same⟩ =>
        ⟨(step_of_stopped isStopped enabled event).1,
          (length_runs_of_stopped isStopped enabled event).trans same⟩)
      ⟨stopped, rfl⟩).2
  · intro noneRefused
    refine (runFrom_induction
      (fun state : Monitor => state.stopped = true ∧ state.runs = final.runs ∧
        state.table = final.table)
      (fun state event _ ⟨isStopped, sameRuns, sameTable⟩ => ?_)
      ⟨stopped, rfl, rfl⟩).2
    obtain ⟨stillStopped, change⟩ := step_of_stopped isStopped enabled event
    refine ⟨stillStopped, ?_⟩
    rcases change with ⟨index, run, probe, found, result⟩ | ⟨runsSame, tableSame⟩
    · have isRun : run ∈ final.runs := sameRuns ▸ List.mem_of_getElem? found
      have idle := ((sound.runs run isRun).leaves (allOver run isRun)).resolve_left
        (noneRefused run isRun)
      have nothing := run.step_of_idle (allOver run isRun) idle probe
      rw [result, Monitor.probe, nothing]
      refine ⟨?_, sameTable⟩
      change state.runs.set index run = final.runs
      rw [← sameRuns]
      obtain ⟨inBound, isValue⟩ := List.getElem?_eq_some_iff.1 found
      rw [← isValue, List.set_getElem_self]
    · exact ⟨runsSame.trans sameRuns, tableSame.trans sameTable⟩

/-- `stop()` is called while one of two providers is being fetched. -/
def stoppedProbe : List Event :=
  [.start, .probe 0 (.rows [⟨"openai", some "https://openai.test"⟩, ⟨"local", none⟩]),
    .probe 0 (.written 1), .timer, .stop, .timer, .probe 0 (.responded 0 200 2500),
    .probe 0 (.writeFailed 0 "deadlock"), .probe 0 (.written 0),
    .probe 0 .refreshed]

theorem stop_leaves_nothing_probe :
    (runFrom (Monitor.step true) (runFrom (Monitor.step true) {} stoppedProbe)
        [.start, .timer, .probe 0 (.written 0)]).table =
      (runFrom (Monitor.step true) {} stoppedProbe).table := by
  have resolved : (runFrom (Monitor.step true) {} stoppedProbe).Resolved (some 0) := by
    refine ⟨List.mem_singleton_self _, ?_⟩
    rintro index ⟨⟩ run ⟨⟩
    rfl
  refine ((stop_leaves_nothing true stoppedProbe resolved).2 _).2 ?_ |>.2
  decide

end Monitor

end Monitors

end Services
end AiGateway
