import AiGateway.Providers.RegistryLoads
import Mathlib.Data.List.Induction
import Mathlib.Data.List.ReduceOption

/-!
# The refreshes of the registry

`refreshIfStale` starts at most one load and lets every other caller wait for it.
The promise that the callers wait for is made of three: that of `load`, that of
`catch`, which turns a failure into a back-off once there is a snapshot to serve,
and that of `finally`, which drops it. Callers come, the clock advances and the
promises settle in any order.

The main theorem is about every such run, for every configured lifetime of the
snapshot.
-/

namespace AiGateway
namespace Providers

open Foundations (answersFrom answersFrom_append runFrom runFrom_concat)

section Model

/-- How far the promises of a refresh have come. -/
inductive RefreshStage
  | loading
  /-- `load()` has installed a snapshot and resolved. -/
  | loaded
  /-- `load()` is rejected; the callback of `catch` is still to run. -/
  | failed (err : String)
  /-- The promise of `catch` has settled; the callback of `finally` is still to
  run. -/
  | caught (outcome : Except String Unit)
  | settled (outcome : Except String Unit)

/-- Has the promise that the callers wait for settled? -/
def RefreshStage.isSettled : RefreshStage → Bool
  | .settled _ => true
  | _ => false

/-- May the load of the refresh still fail, or its failure still be handled? -/
def RefreshStage.mayFail : RefreshStage → Bool
  | .loading | .failed _ => true
  | _ => false

/-- A caller of `refreshIfStale`. -/
inductive RefreshCaller
  /-- `await this.inflight`. -/
  | waiting (refresh : Nat)
  | answered (outcome : Except String Unit)

/-- What a caller gets of a promise that settles. -/
def RefreshCaller.receive
    (refresh : Nat)
    (outcome : Except String Unit) : RefreshCaller → RefreshCaller
  | .waiting other => if other = refresh then .answered outcome else .waiting other
  | .answered earlier => .answered earlier

/-- The registry with the refreshes that it started and their callers. A refresh
is known by its position. -/
structure RefreshState where
  /-- `Date.now()`. -/
  nowMs : Int
  snapshot : Snapshot := {}
  loadedAtMs : Int := 0
  inflight : Option Nat := none
  refreshes : List RefreshStage := []
  callers : List RefreshCaller := []

/-- What happens next. -/
inductive RefreshEvent (ε : Type)
  | clockAdvances (ms : Nat)
  | refreshIfStale
  /-- The database answers the load of a refresh. -/
  | loadSucceeds (refresh : Nat) (rows : List (ProviderRow ε))
  /-- The database fails the load of a refresh. -/
  | loadFails (refresh : Nat) (err : String)
  /-- The promise of `catch` settles, its callback having run after a failure. -/
  | catchRuns (refresh : Nat)
  /-- The callback of `finally` runs, and the callers get the outcome in the same
  turn of the event loop. -/
  | finallyRuns (refresh : Nat)

variable {ε : Type} (decrypt : ε → Option String) (ttlSeconds : Nat)

namespace RefreshState

variable (state : RefreshState)

/-- `refreshIfStale()`. -/
def refreshIfStale : RefreshState :=
  if state.loadedAtMs ≠ 0 ∧
      state.nowMs - state.loadedAtMs < ttlSeconds * 1000 then
    { state with callers := state.callers ++ [.answered (.ok ())] }
  else
    match state.inflight with
    | none =>
        { state with
          inflight := some state.refreshes.length
          refreshes := state.refreshes ++ [.loading]
          callers := state.callers ++ [.waiting state.refreshes.length] }
    | some refresh =>
        { state with callers := state.callers ++ [.waiting refresh] }

/-- One event; an event that cannot happen changes nothing. -/
def step : RefreshEvent ε → RefreshState
  | .clockAdvances ms => { state with nowMs := state.nowMs + ms }
  | .refreshIfStale => state.refreshIfStale ttlSeconds
  | .loadSucceeds refresh rows =>
      match state.refreshes[refresh]? with
      | some .loading =>
          { state with
            snapshot := buildSnapshot decrypt rows
            loadedAtMs := state.nowMs
            refreshes := state.refreshes.set refresh .loaded }
      | _ => state
  | .loadFails refresh err =>
      match state.refreshes[refresh]? with
      | some .loading =>
          { state with refreshes := state.refreshes.set refresh (.failed err) }
      | _ => state
  | .catchRuns refresh =>
      match state.refreshes[refresh]? with
      | some .loaded =>
          { state with
            refreshes := state.refreshes.set refresh (.caught (.ok ())) }
      | some (.failed err) =>
          if state.loadedAtMs = 0 then
            { state with
              refreshes := state.refreshes.set refresh (.caught (.error err)) }
          else
            { state with
              loadedAtMs := state.nowMs - ttlSeconds * 1000 + refreshRetryMs
              refreshes := state.refreshes.set refresh (.caught (.ok ())) }
      | _ => state
  | .finallyRuns refresh =>
      match state.refreshes[refresh]? with
      | some (.caught outcome) =>
          { state with
            inflight := none
            refreshes := state.refreshes.set refresh (.settled outcome)
            callers := state.callers.map (.receive refresh outcome) }
      | _ => state

/-- What a load installs in a step. -/
def installs : RefreshEvent ε → Option (List (ProviderRow ε))
  | .loadSucceeds refresh rows =>
      match state.refreshes[refresh]? with
      | some .loading => some rows
      | _ => none
  | _ => none

/-- A refresh fails in this step: its load is rejected, or the rejection is
handled. -/
def Fails : RefreshEvent ε → Prop
  | .loadFails refresh _ => state.refreshes[refresh]? = some .loading
  | .catchRuns refresh => ∃ err, state.refreshes[refresh]? = some (.failed err)
  | _ => False

/-- The rows of the loads that succeed in a run, in the order of their
successes. -/
def successfulLoads (events : List (RefreshEvent ε)) :
    List (List (ProviderRow ε)) :=
  (answersFrom (step decrypt ttlSeconds) installs state events).reduceOption

end RefreshState

/-- The snapshot of the last of the loads, or the empty one of a new registry. -/
def lastSnapshot (loads : List (List (ProviderRow ε))) : Snapshot :=
  match loads.getLast? with
  | none => {}
  | some rows => buildSnapshot decrypt rows

@[simp] theorem lastSnapshot_concat
    (loads : List (List (ProviderRow ε)))
    (rows : List (ProviderRow ε)) :
    lastSnapshot decrypt (loads ++ [rows]) = buildSnapshot decrypt rows := by
  rw [lastSnapshot, List.getLast?_concat]

end Model

section Steps

variable {ε : Type} (decrypt : ε → Option String) (ttlSeconds : Nat)
  (state : RefreshState)

/-- What one event can do. -/
inductive RefreshChange : RefreshEvent ε → RefreshState → Prop
  | nothing
      {event : RefreshEvent ε}
      (installsNone : state.installs event = none)
      (noFailure : ¬ state.Fails event) :
      RefreshChange event state
  | advanced (ms : Nat) :
      RefreshChange (.clockAdvances ms) { state with nowMs := state.nowMs + ms }
  /-- A caller finds a fresh snapshot, or waits for a refresh under way. -/
  | joined
      (caller : RefreshCaller)
      (notRejected : ∀ err, caller ≠ .answered (.error err)) :
      RefreshChange .refreshIfStale
        { state with callers := state.callers ++ [caller] }
  | started
      (isStale : state.loadedAtMs = 0 ∨
        ttlSeconds * 1000 ≤ state.nowMs - state.loadedAtMs)
      (noneInflight : state.inflight = none) :
      RefreshChange .refreshIfStale
        { state with
          inflight := some state.refreshes.length
          refreshes := state.refreshes ++ [.loading]
          callers := state.callers ++ [.waiting state.refreshes.length] }
  | succeeded
      {refresh : Nat}
      (rows : List (ProviderRow ε))
      (isLoading : state.refreshes[refresh]? = some .loading) :
      RefreshChange (.loadSucceeds refresh rows)
        { state with
          snapshot := buildSnapshot decrypt rows
          loadedAtMs := state.nowMs
          refreshes := state.refreshes.set refresh .loaded }
  | failed
      {refresh : Nat}
      (err : String)
      (isLoading : state.refreshes[refresh]? = some .loading) :
      RefreshChange (.loadFails refresh err)
        { state with refreshes := state.refreshes.set refresh (.failed err) }
  | passed
      {refresh : Nat}
      (isLoaded : state.refreshes[refresh]? = some .loaded) :
      RefreshChange (.catchRuns refresh)
        { state with
          refreshes := state.refreshes.set refresh (.caught (.ok ())) }
  | rethrown
      {refresh : Nat}
      {err : String}
      (hasFailed : state.refreshes[refresh]? = some (.failed err))
      (noSnapshot : state.loadedAtMs = 0) :
      RefreshChange (.catchRuns refresh)
        { state with
          refreshes := state.refreshes.set refresh (.caught (.error err)) }
  | backsOff
      {refresh : Nat}
      {err : String}
      (hasFailed : state.refreshes[refresh]? = some (.failed err))
      (hasSnapshot : state.loadedAtMs ≠ 0) :
      RefreshChange (.catchRuns refresh)
        { state with
          loadedAtMs := state.nowMs - ttlSeconds * 1000 + refreshRetryMs
          refreshes := state.refreshes.set refresh (.caught (.ok ())) }
  | settled
      {refresh : Nat}
      {outcome : Except String Unit}
      (isCaught : state.refreshes[refresh]? = some (.caught outcome)) :
      RefreshChange (.finallyRuns refresh)
        { state with
          inflight := none
          refreshes := state.refreshes.set refresh (.settled outcome)
          callers := state.callers.map (.receive refresh outcome) }

theorem change_refreshIfStale :
    RefreshChange decrypt ttlSeconds state .refreshIfStale
      (state.refreshIfStale ttlSeconds) := by
  unfold RefreshState.refreshIfStale
  split_ifs with isFresh
  · exact .joined (.answered (.ok ())) (by rintro err ⟨⟩)
  · cases found : state.inflight with
    | some refresh =>
        have joins : RefreshChange decrypt ttlSeconds state .refreshIfStale
            { state with callers := state.callers ++ [.waiting refresh] } :=
          .joined (.waiting refresh) (by rintro err ⟨⟩)
        rw [found] at joins
        exact joins
    | none =>
        rw [not_and_or, not_not, not_lt] at isFresh
        exact .started isFresh found

theorem change_loadSucceeds (refresh : Nat) (rows : List (ProviderRow ε)) :
    RefreshChange decrypt ttlSeconds state (.loadSucceeds refresh rows)
      (state.step decrypt ttlSeconds (.loadSucceeds refresh rows)) := by
  cases found : state.refreshes[refresh]? with
  | none =>
      simp only [RefreshState.step, found]
      exact .nothing (by simp only [RefreshState.installs, found]) not_false
  | some stage =>
      cases stage with
      | loading =>
          simp only [RefreshState.step, found]
          exact .succeeded rows found
      | _ =>
          simp only [RefreshState.step, found]
          exact .nothing (by simp only [RefreshState.installs, found]) not_false

theorem change_loadFails (refresh : Nat) (err : String) :
    RefreshChange decrypt ttlSeconds state (.loadFails refresh err)
      (state.step decrypt ttlSeconds (.loadFails refresh err)) := by
  cases found : state.refreshes[refresh]? with
  | none =>
      simp only [RefreshState.step, found]
      exact .nothing rfl (by simp [RefreshState.Fails, found])
  | some stage =>
      cases stage with
      | loading =>
          simp only [RefreshState.step, found]
          exact .failed err found
      | _ =>
          simp only [RefreshState.step, found]
          exact .nothing rfl (by simp [RefreshState.Fails, found])

theorem change_catchRuns (refresh : Nat) :
    RefreshChange decrypt ttlSeconds state (.catchRuns refresh)
      (state.step decrypt ttlSeconds (.catchRuns refresh)) := by
  cases found : state.refreshes[refresh]? with
  | none =>
      simp only [RefreshState.step, found]
      exact .nothing rfl (by simp [RefreshState.Fails, found])
  | some stage =>
      cases stage with
      | loaded =>
          simp only [RefreshState.step, found]
          exact .passed found
      | failed err =>
          simp only [RefreshState.step, found]
          split_ifs with noSnapshot
          · exact .rethrown found noSnapshot
          · exact .backsOff found noSnapshot
      | _ =>
          simp only [RefreshState.step, found]
          exact .nothing rfl (by simp [RefreshState.Fails, found])

theorem change_finallyRuns (refresh : Nat) :
    RefreshChange decrypt ttlSeconds state (.finallyRuns refresh)
      (state.step decrypt ttlSeconds (.finallyRuns refresh)) := by
  cases found : state.refreshes[refresh]? with
  | none =>
      simp only [RefreshState.step, found]
      exact .nothing rfl not_false
  | some stage =>
      cases stage with
      | caught outcome =>
          simp only [RefreshState.step, found]
          exact .settled found
      | _ =>
          simp only [RefreshState.step, found]
          exact .nothing rfl not_false

theorem change_refresh (event : RefreshEvent ε) :
    RefreshChange decrypt ttlSeconds state event
      (state.step decrypt ttlSeconds event) := by
  cases event with
  | clockAdvances ms => exact .advanced ms
  | refreshIfStale => exact change_refreshIfStale decrypt ttlSeconds state
  | loadSucceeds refresh rows =>
      exact change_loadSucceeds decrypt ttlSeconds state refresh rows
  | loadFails refresh err =>
      exact change_loadFails decrypt ttlSeconds state refresh err
  | catchRuns refresh => exact change_catchRuns decrypt ttlSeconds state refresh
  | finallyRuns refresh =>
      exact change_finallyRuns decrypt ttlSeconds state refresh

end Steps

section Invariants

variable {ε : Type} {decrypt : ε → Option String} {ttlSeconds : Nat}
  {state next : RefreshState} {event : RefreshEvent ε}
  {loads : List (List (ProviderRow ε))}

/-- What holds of a registry after the successful loads of a run. -/
structure Coherent
    (decrypt : ε → Option String)
    (ttlSeconds : Nat)
    (loads : List (List (ProviderRow ε)))
    (state : RefreshState) : Prop where
  afterEpoch : 0 < state.nowMs
  /-- The only refresh that has not settled is the one in flight. -/
  inflight : ∀ (refresh : Nat) (stage : RefreshStage),
    state.refreshes[refresh]? = some stage →
      stage.isSettled = false → state.inflight = some refresh
  /-- The refresh was started on a stale snapshot. -/
  stale : ∀ (refresh : Nat) (stage : RefreshStage),
    state.refreshes[refresh]? = some stage → stage.mayFail = true →
      state.loadedAtMs = 0 ∨ ttlSeconds * 1000 + state.loadedAtMs ≤ state.nowMs
  rethrown : ∀ (refresh : Nat) (err : String),
    state.refreshes[refresh]? = some (.caught (.error err)) → loads = []
  unloaded : loads = [] → state.loadedAtMs = 0
  loaded : loads ≠ [] → 0 < state.loadedAtMs
  snapshot : state.snapshot = lastSnapshot decrypt loads

/-- An element of an extended list is old or the new one. -/
theorem getElem?_concat_cases
    {stages : List α}
    {position : Nat}
    {new found : α}
    (isFound : (stages ++ [new])[position]? = some found) :
    stages[position]? = some found ∨
      (position = stages.length ∧ found = new) := by
  rw [List.getElem?_append] at isFound
  split_ifs at isFound with isOld
  · exact .inl isFound
  · obtain ⟨inRange, equal⟩ := List.getElem?_eq_some_iff.1 isFound
    rw [List.length_singleton] at inRange
    rw [List.getElem_singleton] at equal
    exact .inr ⟨by omega, equal.symm⟩

namespace Coherent

/-- At most one refresh has not settled. -/
theorem position_unique
    (coherent : Coherent decrypt ttlSeconds loads state)
    {first second : Nat}
    {stage other : RefreshStage}
    (isFirst : state.refreshes[first]? = some stage)
    (firstOpen : stage.isSettled = false)
    (isSecond : state.refreshes[second]? = some other)
    (secondOpen : other.isSettled = false) : first = second := by
  have here := coherent.inflight first stage isFirst firstOpen
  have there := coherent.inflight second other isSecond secondOpen
  exact Option.some_inj.1 (here.symm.trans there)

theorem stage_unique
    (coherent : Coherent decrypt ttlSeconds loads state)
    {first second : Nat}
    {stage other : RefreshStage}
    (isFirst : state.refreshes[first]? = some stage)
    (firstOpen : stage.isSettled = false)
    (isSecond : state.refreshes[second]? = some other)
    (secondOpen : other.isSettled = false) : stage = other := by
  obtain rfl := coherent.position_unique isFirst firstOpen isSecond secondOpen
  exact Option.some_inj.1 (isFirst.symm.trans isSecond)

/-- While a refresh goes on, every other one has settled. -/
theorem set_cases
    (coherent : Coherent decrypt ttlSeconds loads state)
    {place position : Nat}
    {old new stage : RefreshStage}
    (isAt : state.refreshes[place]? = some old)
    (isOpen : old.isSettled = false)
    (isFound : (state.refreshes.set place new)[position]? = some stage) :
    (position = place ∧ stage = new) ∨ stage.isSettled = true := by
  by_cases isPlace : position = place
  · subst isPlace
    obtain ⟨_, equal⟩ := List.getElem?_eq_some_iff.1 isFound
    rw [List.getElem_set_self] at equal
    exact .inl ⟨rfl, equal.symm⟩
  · rw [List.getElem?_set_ne (Ne.symm isPlace)] at isFound
    right
    by_contra notSettled
    exact isPlace (coherent.position_unique isFound
      (Bool.eq_false_iff.2 notSettled) isAt isOpen)

/-- A refresh that is not to load any more leaves no load in progress. -/
theorem loading_not_mem_set
    (coherent : Coherent decrypt ttlSeconds loads state)
    {place : Nat}
    {old new : RefreshStage}
    (isAt : state.refreshes[place]? = some old)
    (isOpen : old.isSettled = false)
    (isOther : .loading ≠ new) : .loading ∉ state.refreshes.set place new := by
  intro isLoading
  obtain ⟨position, isFound⟩ := List.mem_iff_getElem?.1 isLoading
  rcases coherent.set_cases isAt isOpen isFound with ⟨-, equal⟩ | isSettled
  · exact isOther equal
  · cases isSettled

/-- A refresh that goes on; the rest has to fit its new stage only. -/
theorem goesOn
    (coherent : Coherent decrypt ttlSeconds loads state)
    {place : Nat}
    {old new : RefreshStage}
    (isAt : state.refreshes[place]? = some old)
    (isOpen : old.isSettled = false)
    {newLoads : List (List (ProviderRow ε))}
    (sameClock : next.nowMs = state.nowMs)
    (replaced : next.refreshes = state.refreshes.set place new)
    (inflight : new.isSettled = false → next.inflight = state.inflight)
    (stale : new.mayFail = true → next.loadedAtMs = 0 ∨
      ttlSeconds * 1000 + next.loadedAtMs ≤ next.nowMs)
    (rethrown : ∀ err, new = .caught (.error err) → newLoads = [])
    (unloaded : newLoads = [] → next.loadedAtMs = 0)
    (loaded : newLoads ≠ [] → 0 < next.loadedAtMs)
    (snapshot : next.snapshot = lastSnapshot decrypt newLoads) :
    Coherent decrypt ttlSeconds newLoads next := by
  refine ⟨sameClock ▸ coherent.afterEpoch, ?_, ?_, ?_, unloaded, loaded,
    snapshot⟩
  · intro position stage isFound notSettled
    rw [replaced] at isFound
    rcases coherent.set_cases isAt isOpen isFound with ⟨rfl, rfl⟩ | isSettled
    · rw [inflight notSettled]
      exact coherent.inflight position old isAt isOpen
    · rw [notSettled] at isSettled
      cases isSettled
  · intro position stage isFound mayFail
    rw [replaced] at isFound
    rcases coherent.set_cases isAt isOpen isFound with ⟨rfl, rfl⟩ | isSettled
    · exact stale mayFail
    · cases stage <;> simp_all [RefreshStage.isSettled, RefreshStage.mayFail]
  · intro position err isFound
    rw [replaced] at isFound
    rcases coherent.set_cases isAt isOpen isFound with ⟨rfl, equal⟩ | isSettled
    · exact rethrown err equal.symm
    · cases isSettled

/-- A snapshot that was installed is one that a load has installed. -/
theorem loads_ne_nil
    (coherent : Coherent decrypt ttlSeconds loads state)
    (hasSnapshot : state.loadedAtMs ≠ 0) : loads ≠ [] :=
  fun none => hasSnapshot (coherent.unloaded none)

/-- The moment that a back-off sets is after the epoch: the refresh was started on
a stale snapshot. -/
theorem backsOff_pos
    (coherent : Coherent decrypt ttlSeconds loads state)
    {refresh : Nat}
    {err : String}
    (hasFailed : state.refreshes[refresh]? = some (.failed err))
    (hasSnapshot : state.loadedAtMs ≠ 0) :
    0 < state.nowMs - ttlSeconds * 1000 + refreshRetryMs := by
  have isLater := coherent.stale refresh _ hasFailed rfl
  have afterEpoch := coherent.loaded (coherent.loads_ne_nil hasSnapshot)
  unfold refreshRetryMs
  omega

theorem start
    (coherent : Coherent decrypt ttlSeconds loads state)
    (isStale : state.loadedAtMs = 0 ∨
      ttlSeconds * 1000 ≤ state.nowMs - state.loadedAtMs)
    (noneInflight : state.inflight = none)
    (callers : List RefreshCaller) :
    Coherent decrypt ttlSeconds loads
      { state with
        inflight := some state.refreshes.length
        refreshes := state.refreshes ++ [.loading]
        callers } := by
  refine ⟨coherent.afterEpoch, ?_, ?_, ?_, coherent.unloaded, coherent.loaded,
    coherent.snapshot⟩
  · intro position stage isFound notSettled
    rcases getElem?_concat_cases isFound with isOld | ⟨rfl, -⟩
    · have inflight := coherent.inflight position stage isOld notSettled
      rw [noneInflight] at inflight
      cases inflight
    · rfl
  · intro position stage isFound mayFail
    rcases getElem?_concat_cases isFound with isOld | -
    · exact coherent.stale position stage isOld mayFail
    · dsimp only
      omega
  · intro position err isFound
    rcases getElem?_concat_cases isFound with isOld | ⟨-, equal⟩
    · exact coherent.rethrown position err isOld
    · cases equal

/-- A later clock makes a stale snapshot no fresher. -/
theorem advance
    (coherent : Coherent decrypt ttlSeconds loads state)
    (ms : Nat) :
    Coherent decrypt ttlSeconds loads { state with nowMs := state.nowMs + ms } := by
  have afterEpoch := coherent.afterEpoch
  refine ⟨?_, coherent.inflight, ?_, coherent.rethrown, coherent.unloaded,
    coherent.loaded, coherent.snapshot⟩
  · dsimp only
    omega
  · intro refresh stage isFound mayFail
    have isLater := coherent.stale refresh stage isFound mayFail
    dsimp only
    omega

/-- A load that resolves installs its rows. -/
theorem install
    (coherent : Coherent decrypt ttlSeconds loads state)
    {refresh : Nat}
    (rows : List (ProviderRow ε))
    (isLoading : state.refreshes[refresh]? = some .loading) :
    Coherent decrypt ttlSeconds (loads ++ [rows])
      { state with
        snapshot := buildSnapshot decrypt rows
        loadedAtMs := state.nowMs
        refreshes := state.refreshes.set refresh .loaded } := by
  have isLoaded : loads ++ [rows] ≠ [] := by
    apply List.append_ne_nil_of_right_ne_nil
    exact List.cons_ne_nil rows []
  exact coherent.goesOn isLoading rfl rfl rfl (fun _ => rfl)
    (by rintro ⟨⟩) (by rintro _ ⟨⟩) (fun none => absurd none isLoaded)
    (fun _ => coherent.afterEpoch) (lastSnapshot_concat decrypt loads rows).symm

/-- A failure is thrown on only if no load has succeeded. -/
theorem rethrow
    (coherent : Coherent decrypt ttlSeconds loads state)
    {refresh : Nat}
    {err : String}
    (hasFailed : state.refreshes[refresh]? = some (.failed err))
    (noSnapshot : state.loadedAtMs = 0) :
    Coherent decrypt ttlSeconds loads
      { state with
        refreshes := state.refreshes.set refresh (.caught (.error err)) } := by
  have unloaded : loads = [] := by
    by_contra isLoaded
    exact absurd noSnapshot (coherent.loaded isLoaded).ne'
  exact coherent.goesOn hasFailed rfl rfl rfl (fun _ => rfl)
    (by rintro ⟨⟩) (fun _ _ => unloaded) coherent.unloaded coherent.loaded
    coherent.snapshot

/-- A failure over a snapshot leaves it, and is after the epoch. -/
theorem backOff
    (coherent : Coherent decrypt ttlSeconds loads state)
    {refresh : Nat}
    {err : String}
    (hasFailed : state.refreshes[refresh]? = some (.failed err))
    (hasSnapshot : state.loadedAtMs ≠ 0) :
    Coherent decrypt ttlSeconds loads
      { state with
        loadedAtMs := state.nowMs - ttlSeconds * 1000 + refreshRetryMs
        refreshes := state.refreshes.set refresh (.caught (.ok ())) } := by
  have isLoaded := coherent.loads_ne_nil hasSnapshot
  have afterEpoch := coherent.backsOff_pos hasFailed hasSnapshot
  exact coherent.goesOn hasFailed rfl rfl rfl (fun _ => rfl)
    (by rintro ⟨⟩) (by rintro _ ⟨⟩) (fun none => absurd none isLoaded)
    (fun _ => afterEpoch) coherent.snapshot

/-- A step in which no load installs adds nothing to the successful loads. -/
theorem of_installs_none
    (coherent : Coherent decrypt ttlSeconds loads next)
    (installsNone : state.installs event = none) :
    Coherent decrypt ttlSeconds
      (loads ++ (state.installs event).toList) next := by
  rw [installsNone, Option.toList_none, List.append_nil]
  exact coherent

/-- Every step keeps it, with what a load installs in the step. -/
theorem change
    (coherent : Coherent decrypt ttlSeconds loads state)
    (change : RefreshChange decrypt ttlSeconds state event next) :
    Coherent decrypt ttlSeconds
      (loads ++ (state.installs event).toList) next := by
  cases change with
  | nothing installsNone => exact coherent.of_installs_none installsNone
  | advanced ms => exact (coherent.advance ms).of_installs_none rfl
  | joined =>
      apply of_installs_none _ rfl
      exact ⟨coherent.afterEpoch, coherent.inflight, coherent.stale,
        coherent.rethrown, coherent.unloaded, coherent.loaded, coherent.snapshot⟩
  | started isStale noneInflight =>
      exact (coherent.start isStale noneInflight _).of_installs_none rfl
  | @succeeded refresh rows isLoading =>
      have installs : state.installs (.loadSucceeds refresh rows) = some rows := by
        simp only [RefreshState.installs, isLoading]
      rw [installs, Option.toList_some]
      exact coherent.install rows isLoading
  | failed err isLoading =>
      apply of_installs_none _ rfl
      exact coherent.goesOn isLoading rfl rfl rfl (fun _ => rfl)
        (fun _ => coherent.stale _ _ isLoading rfl) (by rintro _ ⟨⟩)
        coherent.unloaded coherent.loaded coherent.snapshot
  | passed isLoaded =>
      apply of_installs_none _ rfl
      exact coherent.goesOn isLoaded rfl rfl rfl (fun _ => rfl)
        (by rintro ⟨⟩) (by rintro _ ⟨⟩)
        coherent.unloaded coherent.loaded coherent.snapshot
  | rethrown hasFailed noSnapshot =>
      exact (coherent.rethrow hasFailed noSnapshot).of_installs_none rfl
  | backsOff hasFailed hasSnapshot =>
      exact (coherent.backOff hasFailed hasSnapshot).of_installs_none rfl
  | settled isCaught =>
      apply of_installs_none _ rfl
      exact coherent.goesOn isCaught rfl rfl rfl (by rintro ⟨⟩)
        (by rintro ⟨⟩) (by rintro _ ⟨⟩)
        coherent.unloaded coherent.loaded coherent.snapshot

end Coherent

/-- A refresh of an existing snapshot has failed at a moment; no load has started
since, and the snapshot counts as stale no sooner than the back-off allows. -/
structure BackingOff
    (ttlSeconds : Nat)
    (failedAtMs : Int)
    (started : Nat)
    (state : RefreshState) : Prop where
  length_refreshes : state.refreshes.length = started
  isLater : failedAtMs ≤ state.nowMs
  existing : state.loadedAtMs ≠ 0
  noneLoading : .loading ∉ state.refreshes
  held : (∃ (refresh : Nat) (err : String),
      state.refreshes[refresh]? = some (.failed err)) ∨
    failedAtMs - ttlSeconds * 1000 + refreshRetryMs ≤ state.loadedAtMs

namespace BackingOff

variable {failedAtMs : Int} {started : Nat}

theorem change
    (backingOff : BackingOff ttlSeconds failedAtMs started state)
    (coherent : Coherent decrypt ttlSeconds loads state)
    (change : RefreshChange decrypt ttlSeconds state event next)
    (inTime : next.nowMs < failedAtMs + refreshRetryMs) :
    BackingOff ttlSeconds failedAtMs started next := by
  obtain ⟨length_refreshes, isLater, existing, noneLoading, held⟩ := backingOff
  cases change with
  | nothing => exact ⟨length_refreshes, isLater, existing, noneLoading, held⟩
  | advanced ms =>
      refine ⟨length_refreshes, ?_, existing, noneLoading, held⟩
      dsimp only
      omega
  | joined => exact ⟨length_refreshes, isLater, existing, noneLoading, held⟩
  | started isStale noneInflight =>
      exfalso
      rcases held with ⟨refresh, err, hasFailed⟩ | isHeld
      · have inflight := coherent.inflight refresh _ hasFailed rfl
        rw [noneInflight] at inflight
        cases inflight
      · dsimp only at inTime
        omega
  | succeeded rows isLoading =>
      exact absurd (List.mem_of_getElem? isLoading) noneLoading
  | failed err isLoading =>
      exact absurd (List.mem_of_getElem? isLoading) noneLoading
  | passed isLoaded =>
      refine ⟨by rw [List.length_set, length_refreshes], isLater, existing,
        coherent.loading_not_mem_set isLoaded rfl (by rintro ⟨⟩), ?_⟩
      rcases held with ⟨refresh, err, hasFailed⟩ | isHeld
      · cases coherent.stage_unique isLoaded rfl hasFailed rfl
      · exact .inr isHeld
  | rethrown hasFailed noSnapshot => exact absurd noSnapshot existing
  | backsOff hasFailed hasSnapshot =>
      refine ⟨by rw [List.length_set, length_refreshes], isLater,
        (coherent.backsOff_pos hasFailed hasSnapshot).ne',
        coherent.loading_not_mem_set hasFailed rfl (by rintro ⟨⟩), .inr ?_⟩
      dsimp only
      omega
  | settled isCaught =>
      refine ⟨by rw [List.length_set, length_refreshes], isLater, existing,
        coherent.loading_not_mem_set isCaught rfl (by rintro ⟨⟩), ?_⟩
      rcases held with ⟨refresh, err, hasFailed⟩ | isHeld
      · cases coherent.stage_unique isCaught rfl hasFailed rfl
      · exact .inr isHeld

/-- The step in which a refresh of an existing snapshot fails. -/
theorem of_fails
    (coherent : Coherent decrypt ttlSeconds loads state)
    (fails : state.Fails event)
    (isExisting : loads ≠ [])
    (change : RefreshChange decrypt ttlSeconds state event next) :
    BackingOff ttlSeconds state.nowMs state.refreshes.length next := by
  have existing : state.loadedAtMs ≠ 0 := (coherent.loaded isExisting).ne'
  cases change with
  | nothing installsNone noFailure => exact absurd fails noFailure
  | advanced | joined | started | succeeded | settled => exact fails.elim
  | failed err isLoading =>
      have isPlace := (List.getElem?_eq_some_iff.1 isLoading).1
      refine ⟨List.length_set, le_rfl, existing, ?_,
        .inl ⟨_, err, List.getElem?_set_self isPlace⟩⟩
      exact coherent.loading_not_mem_set isLoading rfl (by rintro ⟨⟩)
  | passed isLoaded =>
      obtain ⟨err, hasFailed⟩ := fails
      rw [isLoaded] at hasFailed
      cases hasFailed
  | rethrown hasFailed noSnapshot => exact absurd noSnapshot existing
  | backsOff hasFailed hasSnapshot =>
      exact ⟨List.length_set, le_rfl,
        (coherent.backsOff_pos hasFailed hasSnapshot).ne',
        coherent.loading_not_mem_set hasFailed rfl (by rintro ⟨⟩), .inr le_rfl⟩

end BackingOff

/-- A caller is rejected only by a load that fails before any has succeeded. -/
theorem RefreshChange.rejects
    (change : RefreshChange decrypt ttlSeconds state event next)
    (coherent : Coherent decrypt ttlSeconds loads state)
    {caller : Nat}
    {err : String}
    (isRejected : next.callers[caller]? = some (.answered (.error err)))
    (before : state.callers[caller]? ≠ some (.answered (.error err))) :
    loads ++ (state.installs event).toList = [] := by
  cases change with
  | joined newCaller notRejected =>
      rcases getElem?_concat_cases isRejected with isOld | ⟨-, equal⟩
      · exact absurd isOld before
      · exact absurd equal.symm (notRejected err)
  | started =>
      rcases getElem?_concat_cases isRejected with isOld | ⟨-, equal⟩
      · exact absurd isOld before
      · cases equal
  | settled isCaught =>
      rw [List.getElem?_map] at isRejected
      obtain ⟨earlier, isEarlier, received⟩ := Option.map_eq_some_iff.1 isRejected
      cases earlier with
      | answered outcome =>
          cases received
          exact absurd isEarlier before
      | waiting refresh =>
          simp only [RefreshCaller.receive] at received
          split_ifs at received
          cases received
          change loads ++ [] = []
          rw [List.append_nil]
          exact coherent.rethrown _ err isCaught
  | _ => exact absurd isRejected before

/-- The clock does not go back. -/
theorem RefreshChange.nowMs_le
    (change : RefreshChange decrypt ttlSeconds state event next) :
    state.nowMs ≤ next.nowMs := by
  cases change with
  | advanced ms =>
      dsimp only
      omega
  | _ => exact le_rfl

end Invariants

section Run

variable {ε : Type} (decrypt : ε → Option String) (ttlSeconds : Nat)

/-- One more event of a run. -/
theorem successfulLoads_concat
    (state : RefreshState)
    (events : List (RefreshEvent ε))
    (event : RefreshEvent ε) :
    state.successfulLoads decrypt ttlSeconds (events ++ [event]) =
      state.successfulLoads decrypt ttlSeconds events ++
        ((runFrom (RefreshState.step decrypt ttlSeconds) state events).installs
          event).toList := by
  unfold RefreshState.successfulLoads
  rw [answersFrom_append, List.reduceOption_append]
  exact congrArg _ (List.reduceOption_singleton _)

/-- The registry that was just made. -/
theorem coherent_start {startMs : Int} (afterEpoch : 0 < startMs) :
    Coherent decrypt ttlSeconds [] { nowMs := startMs } where
  afterEpoch := afterEpoch
  inflight := by simp
  stale := by simp
  rethrown := by simp
  unloaded _ := rfl
  loaded isLoaded := absurd rfl isLoaded
  snapshot := rfl

/-- The invariant holds in every run. -/
theorem coherent_run
    {startMs : Int}
    (afterEpoch : 0 < startMs)
    (events : List (RefreshEvent ε)) :
    Coherent decrypt ttlSeconds
      (({ nowMs := startMs } : RefreshState).successfulLoads decrypt ttlSeconds
        events)
      (runFrom (RefreshState.step decrypt ttlSeconds) { nowMs := startMs }
        events) := by
  induction events using List.reverseRecOn with
  | nil => exact coherent_start decrypt ttlSeconds afterEpoch
  | append_singleton events event inductionHypothesis =>
      rw [successfulLoads_concat, runFrom_concat]
      exact inductionHypothesis.change (change_refresh decrypt ttlSeconds _ event)

/-- From the failure of a refresh of an existing snapshot on, no load starts while
the back-off lasts. -/
theorem backingOff_run
    {startMs : Int}
    (afterEpoch : 0 < startMs)
    {before : List (RefreshEvent ε)}
    {event : RefreshEvent ε}
    (fails : (runFrom (RefreshState.step decrypt ttlSeconds)
      { nowMs := startMs } before).Fails event)
    (isExisting : ({ nowMs := startMs } : RefreshState).successfulLoads decrypt
      ttlSeconds before ≠ [])
    (during : List (RefreshEvent ε)) :
    let run := runFrom (RefreshState.step decrypt ttlSeconds) { nowMs := startMs }
    (run (before ++ event :: during)).nowMs <
        (run before).nowMs + refreshRetryMs →
      BackingOff ttlSeconds (run before).nowMs (run before).refreshes.length
        (run (before ++ event :: during)) := by
  intro run
  induction during using List.reverseRecOn with
  | nil =>
      intro _
      have coherent := coherent_run decrypt ttlSeconds afterEpoch before
      rw [show run (before ++ [event]) = _ from runFrom_concat _ _ before event]
      exact .of_fails coherent fails isExisting
        (change_refresh decrypt ttlSeconds _ event)
  | append_singleton during next inductionHypothesis =>
      intro inTime
      have coherent := coherent_run decrypt ttlSeconds afterEpoch
        (before ++ event :: during)
      have change := change_refresh decrypt ttlSeconds
        (run (before ++ event :: during)) next
      rw [show before ++ event :: (during ++ [next]) =
          (before ++ event :: during) ++ [next] by simp,
        show run ((before ++ event :: during) ++ [next]) = _ from
          runFrom_concat _ _ _ next] at inTime ⊢
      have earlier := lt_of_le_of_lt change.nowMs_le inTime
      exact (inductionHypothesis earlier).change coherent change inTime

/-- What callers may rely on after a run of a registry that was made at a
moment. -/
structure RefreshesSafely (startMs : Int) (events : List (RefreshEvent ε)) :
    Prop where
  /-- At most one load is in progress. -/
  oneLoad : ∀ first second : Nat,
    let state := runFrom (RefreshState.step decrypt ttlSeconds)
      { nowMs := startMs } events
    state.refreshes[first]? = some .loading →
      state.refreshes[second]? = some .loading → first = second
  /-- The snapshot is that of the last load that succeeded. -/
  snapshot :
    (runFrom (RefreshState.step decrypt ttlSeconds) { nowMs := startMs }
        events).snapshot =
      lastSnapshot decrypt (({ nowMs := startMs } : RefreshState).successfulLoads
        decrypt ttlSeconds events)
  /-- If the next event rejects a caller, no load has succeeded. -/
  rejects : ∀ (event : RefreshEvent ε) (caller : Nat) (err : String),
    let run := runFrom (RefreshState.step decrypt ttlSeconds) { nowMs := startMs }
    (run (events ++ [event])).callers[caller]? = some (.answered (.error err)) →
      (run events).callers[caller]? ≠ some (.answered (.error err)) →
      ({ nowMs := startMs } : RefreshState).successfulLoads decrypt ttlSeconds
        (events ++ [event]) = []
  /-- A refresh that fails over a snapshot is not followed by another load for
  `REFRESH_RETRY_MS`. -/
  backsOff : ∀ before event during, events = before ++ event :: during →
    let run := runFrom (RefreshState.step decrypt ttlSeconds) { nowMs := startMs }
    (run before).Fails event →
      ({ nowMs := startMs } : RefreshState).successfulLoads decrypt ttlSeconds
        before ≠ [] →
      (run events).nowMs < (run before).nowMs + refreshRetryMs →
      (run events).refreshes.length = (run before).refreshes.length

/-- Every run of callers, answers and failures of the database and advances of the
clock is safe, whatever the lifetime of a snapshot is. -/
theorem refreshesSafely
    {startMs : Int}
    (afterEpoch : 0 < startMs)
    (events : List (RefreshEvent ε)) :
    RefreshesSafely decrypt ttlSeconds startMs events := by
  have coherent := coherent_run decrypt ttlSeconds afterEpoch events
  constructor
  · intro first second state isFirst isSecond
    exact coherent.position_unique isFirst rfl isSecond rfl
  · exact coherent.snapshot
  · intro event caller err run isRejected before
    rw [show run (events ++ [event]) = _ from runFrom_concat _ _ events event]
      at isRejected
    rw [successfulLoads_concat]
    exact (change_refresh decrypt ttlSeconds _ event).rejects coherent isRejected
      before
  · rintro before event during rfl run fails isExisting inTime
    exact (backingOff_run decrypt ttlSeconds afterEpoch fails isExisting during
      inTime).length_refreshes

/-- The snapshot is loaded and outlives its second; the database fails the refresh,
and a caller comes before the back-off is over. -/
def databaseBlip : List (RefreshEvent String) :=
  [.refreshIfStale, .loadSucceeds 0 [], .catchRuns 0, .finallyRuns 0,
    .clockAdvances 1000, .refreshIfStale] ++
  .loadFails 1 "db down" ::
    [.catchRuns 1, .finallyRuns 1, .clockAdvances 4999, .refreshIfStale]

theorem refreshesSafely_databaseBlip :
    RefreshesSafely some 1 1 databaseBlip ∧
      (runFrom (RefreshState.step some 1) { nowMs := 1 }
        databaseBlip).refreshes.length = 2 := by
  have safe := refreshesSafely some 1 (by decide : (0 : Int) < 1) databaseBlip
  refine ⟨safe, ?_⟩
  rw [safe.backsOff _ _ _ rfl (by rfl) (by decide) (by decide)]
  rfl

end Run

end Providers
end AiGateway
