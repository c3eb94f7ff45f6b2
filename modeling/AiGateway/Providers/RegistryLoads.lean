import AiGateway.Foundations.Runs
import AiGateway.Providers.Registry

/-!
# Loads of the registry that overlap

A load queries the database at one instant and installs what it read at a later
one. Refreshes are de-duplicated, but the loads that admin requests start are
not, so loads overlap and may install in another order than they read. A load is
overtaken if one that read a later state of the database has installed before
it. The main theorem says that the snapshot keeps up with the admin requests
exactly in the runs in which no overtaken load installs.
-/

namespace AiGateway
namespace Providers

open Foundations (EveryStep runFrom runFrom_induction)

section Model

variable {ε : Type}

/-- Who called `load`. -/
inductive LoadOrigin
  | refresh
  | direct
  /-- A request that made the database what it is in a version. -/
  | mutation (version : Nat)

/-- How far a load has come, with the version that it read. -/
inductive LoadStage (ε : Type)
  | started
  | read (version : Nat) (rows : List (ProviderRow ε))
  | installed (version : Nat)
  | failed

/-- A call of `load`. -/
structure Load (ε : Type) where
  origin : LoadOrigin
  stage : LoadStage ε

/-- The registry of a replica, with the states of the database so far. -/
structure RegistryState (ε : Type) where
  databases : List (List (ProviderRow ε))
  snapshot : Snapshot := {}
  /-- The version that the snapshot was made of. -/
  installed : Option Nat := none
  loadedAtMs : Int := 0
  /-- Is a refresh under way? -/
  inflight : Bool := false
  loads : List (Load ε) := []
  /-- The versions of the requests whose load has resolved. -/
  resolved : List Nat := []

/-- What happens next. A load is named by its position in the list. -/
inductive RegistryEvent (ε : Type)
  /-- `refreshIfStale()`. -/
  | refreshIfStale (nowMs : Int)
  /-- `load()`, as at startup. -/
  | load
  /-- An admin request changes the database and calls `load`. -/
  | mutate (rows : List (ProviderRow ε))
  /-- Another replica changes the database. -/
  | mutateElsewhere (rows : List (ProviderRow ε))
  | reads (load : Nat)
  | installs (load : Nat) (nowMs : Int)
  | fails (load : Nat) (nowMs : Int)

/-- `REFRESH_RETRY_MS`. -/
def refreshRetryMs : Int := 5000

variable (decrypt : ε → Option String) (ttlSeconds : Nat)

namespace RegistryState

/-- A load that starts. -/
def start (state : RegistryState ε) (origin : LoadOrigin) : RegistryState ε :=
  { state with loads := state.loads ++ [{ origin := origin, stage := .started }] }

/-- The promise of a refresh is dropped when it settles. -/
def inflightAfter (state : RegistryState ε) : LoadOrigin → Bool
  | .refresh => false
  | _ => state.inflight

/-- The handler of an admin request replies when its load resolves. -/
def resolvedAfter (state : RegistryState ε) : LoadOrigin → List Nat
  | .mutation version => version :: state.resolved
  | _ => state.resolved

/-- When a refresh that fails lets the next one start. -/
def loadedAtAfterFailure (state : RegistryState ε) (nowMs : Int) :
    LoadOrigin → Int
  | .refresh =>
      if state.loadedAtMs = 0 then 0
      else nowMs - ttlSeconds * 1000 + refreshRetryMs
  | _ => state.loadedAtMs

/-- One event; an event that cannot happen changes nothing. -/
def step (state : RegistryState ε) : RegistryEvent ε → RegistryState ε
  | .refreshIfStale nowMs =>
      if state.loadedAtMs ≠ 0 ∧
          nowMs - state.loadedAtMs < ttlSeconds * 1000 then
        state
      else if state.inflight then
        state
      else
        { state.start .refresh with inflight := true }
  | .load => state.start .direct
  | .mutate rows =>
      { state with databases := state.databases ++ [rows] }.start
        (.mutation state.databases.length)
  | .mutateElsewhere rows =>
      { state with databases := state.databases ++ [rows] }
  | .reads load =>
      match state.loads[load]?, state.databases.getLast? with
      | some { origin, stage := .started }, some rows =>
          { state with
            loads := state.loads.set load
              { origin, stage := .read (state.databases.length - 1) rows } }
      | _, _ => state
  | .installs load nowMs =>
      match state.loads[load]? with
      | some { origin, stage := .read version rows } =>
          { state with
            snapshot := buildSnapshot decrypt rows
            installed := some version
            loadedAtMs := nowMs
            inflight := state.inflightAfter origin
            loads := state.loads.set load { origin, stage := .installed version }
            resolved := state.resolvedAfter origin }
      | _ => state
  | .fails load nowMs =>
      match state.loads[load]? with
      | some { origin, stage := .started } =>
          { state with
            loadedAtMs := state.loadedAtAfterFailure ttlSeconds nowMs origin
            inflight := state.inflightAfter origin
            loads := state.loads.set load { origin, stage := .failed } }
      | _ => state

/-- No load that has installed read a later state of the database than the load
that is about to install. -/
def NotOvertaken (state : RegistryState ε) : RegistryEvent ε → Prop
  | .installs load _ =>
      ∀ origin version rows,
        state.loads[load]? = some { origin, stage := .read version rows } →
          ∀ other ∈ state.loads, ∀ later, other.stage = .installed later →
            later ≤ version
  | _ => True

/-- The snapshot does not go back to an older state of the database. -/
def NeverBack (before after : RegistryState ε) : Prop :=
  ∀ version, before.installed = some version →
    ∃ later, after.installed = some later ∧ version ≤ later

/-- Requests are resolved from a state of the database that has every change
whose request was answered. -/
def Reflects (state : RegistryState ε) : Prop :=
  ∀ mutation ∈ state.resolved,
    ∃ version rows, mutation ≤ version ∧
      state.databases[version]? = some rows ∧
      ∀ requestedModel, state.snapshot.resolveCandidates requestedModel =
        (buildSnapshot decrypt rows).resolveCandidates requestedModel

/-- In particular a provider that was disabled is not routed to. -/
theorem Reflects.id_ne_of_disabled
    {state : RegistryState ε}
    (reflects : state.Reflects decrypt)
    {mutation : Nat}
    (isResolved : mutation ∈ state.resolved)
    {id : String}
    (disabled : ∀ version rows, mutation ≤ version →
      state.databases[version]? = some rows →
        ∀ row ∈ rows, row.id = id → row.isActive = false)
    {requestedModel : String}
    {candidate : ModelCandidate}
    (isCandidate : candidate ∈
      (state.snapshot.resolveCandidates requestedModel).candidates) :
    candidate.provider.config.id ≠ id := by
  obtain ⟨version, rows, isLater, isDatabase, same⟩ :=
    reflects mutation isResolved
  rw [same] at isCandidate
  exact id_ne_of_inactive (disabled version rows isLater isDatabase) isCandidate

end RegistryState

end Model

section Invariant

variable {ε : Type} {decrypt : ε → Option String} {ttlSeconds : Nat}

/-- What a load has seen. -/
structure SoundLoad (databases : List (List (ProviderRow ε))) (load : Load ε) :
    Prop where
  hasRead : ∀ version rows, load.stage = .read version rows →
    databases[version]? = some rows
  isAfter : ∀ mutation, load.origin = .mutation mutation →
    mutation < databases.length ∧
      (∀ version rows, load.stage = .read version rows → mutation ≤ version) ∧
      ∀ version, load.stage = .installed version → mutation ≤ version

/-- What holds of the registry in every run. -/
structure Sound (decrypt : ε → Option String) (state : RegistryState ε) :
    Prop where
  nonempty : state.databases ≠ []
  loads : ∀ load ∈ state.loads, SoundLoad state.databases load
  snapshot : ∀ version, state.installed = some version →
    (∃ rows, state.databases[version]? = some rows ∧
      state.snapshot = buildSnapshot decrypt rows) ∧
    ∃ load ∈ state.loads, load.stage = .installed version
  resolved : ∀ mutation ∈ state.resolved, ∃ load ∈ state.loads,
    ∃ version, load.stage = .installed version ∧ mutation ≤ version

/-- The snapshot is of the latest state that was installed. -/
def Latest (state : RegistryState ε) : Prop :=
  ∀ load ∈ state.loads, ∀ version, load.stage = .installed version →
    ∃ later, state.installed = some later ∧ version ≤ later

theorem mem_set_of_ne
    {loads : List α}
    {index : Nat}
    {old new load : α}
    (isAt : loads[index]? = some old)
    (isLoad : load ∈ loads)
    (isOther : load ≠ old) : load ∈ loads.set index new := by
  obtain ⟨other, isAtOther⟩ := List.mem_iff_getElem?.1 isLoad
  refine List.mem_iff_getElem?.2 ⟨other, ?_⟩
  have differ : index ≠ other := by
    rintro rfl
    exact isOther (Option.some.inj (isAtOther.symm.trans isAt))
  rw [List.getElem?_set_ne differ, isAtOther]

theorem getElem?_append_of_eq_some
    {databases : List α}
    {version : Nat}
    {rows : α}
    (isDatabase : databases[version]? = some rows)
    (more : List α) : (databases ++ more)[version]? = some rows := by
  obtain ⟨isVersion, -⟩ := List.getElem?_eq_some_iff.1 isDatabase
  rw [List.getElem?_append_left isVersion, isDatabase]

/-- A database that changes keeps its past. -/
theorem Sound.change
    {state : RegistryState ε}
    (sound : Sound decrypt state)
    (rows : List (ProviderRow ε)) :
    Sound decrypt { state with databases := state.databases ++ [rows] } where
  nonempty := by simp
  loads load isLoad := by
    obtain ⟨hasRead, isAfter⟩ := sound.loads load isLoad
    refine ⟨fun version read stage =>
      getElem?_append_of_eq_some (hasRead version read stage) [rows],
      fun mutation isMutation => ?_⟩
    obtain ⟨isVersion, stages⟩ := isAfter mutation isMutation
    refine ⟨?_, stages⟩
    rw [List.length_append]
    exact Nat.lt_add_right 1 isVersion
  snapshot version isInstalled := by
    obtain ⟨⟨read, isDatabase, snapshotEq⟩, load⟩ :=
      sound.snapshot version isInstalled
    exact ⟨⟨read, getElem?_append_of_eq_some isDatabase [rows], snapshotEq⟩,
      load⟩
  resolved := sound.resolved

/-- A load that starts has seen nothing. -/
theorem Sound.start
    {state : RegistryState ε}
    (sound : Sound decrypt state)
    {origin : LoadOrigin}
    (isVersion : ∀ mutation, origin = .mutation mutation →
      mutation < state.databases.length) :
    Sound decrypt (state.start origin) where
  nonempty := sound.nonempty
  loads load isLoad := by
    rcases List.mem_append.1 isLoad with isOld | isNew
    · exact sound.loads load isOld
    · rw [List.mem_singleton.1 isNew]
      exact ⟨nofun, fun mutation isMutation =>
        ⟨isVersion mutation isMutation, nofun, nofun⟩⟩
  snapshot version isInstalled := by
    obtain ⟨snapshot, load, isLoad, stage⟩ := sound.snapshot version isInstalled
    exact ⟨snapshot, load, List.mem_append_left _ isLoad, stage⟩
  resolved mutation isResolved := by
    obtain ⟨load, isLoad, stage⟩ := sound.resolved mutation isResolved
    exact ⟨load, List.mem_append_left _ isLoad, stage⟩

/-- A load that goes on, while the snapshot stays. -/
theorem Sound.goOn
    {state : RegistryState ε}
    (sound : Sound decrypt state)
    {index : Nat}
    {old new : Load ε}
    (isAt : state.loads[index]? = some old)
    (notInstalled : ∀ version, old.stage ≠ .installed version)
    (soundNew : SoundLoad state.databases new) :
    Sound decrypt { state with loads := state.loads.set index new } where
  nonempty := sound.nonempty
  loads load isLoad := by
    rcases List.mem_or_eq_of_mem_set isLoad with isOld | rfl
    · exact sound.loads load isOld
    · exact soundNew
  snapshot version isInstalled := by
    obtain ⟨snapshot, load, isLoad, stage⟩ := sound.snapshot version isInstalled
    refine ⟨snapshot, load, mem_set_of_ne isAt isLoad ?_, stage⟩
    rintro rfl
    exact notInstalled version stage
  resolved mutation isResolved := by
    obtain ⟨load, isLoad, version, stage, isLater⟩ :=
      sound.resolved mutation isResolved
    refine ⟨load, mem_set_of_ne isAt isLoad ?_, version, stage, isLater⟩
    rintro rfl
    exact notInstalled version stage

/-- A load that installs what it read. -/
theorem Sound.install
    {state : RegistryState ε}
    (sound : Sound decrypt state)
    {index : Nat}
    {origin : LoadOrigin}
    {version : Nat}
    {rows : List (ProviderRow ε)}
    (isAt : state.loads[index]? =
      some { origin, stage := .read version rows })
    (nowMs : Int) :
    Sound decrypt
      { state with
        snapshot := buildSnapshot decrypt rows
        installed := some version
        loadedAtMs := nowMs
        inflight := state.inflightAfter origin
        loads := state.loads.set index { origin, stage := .installed version }
        resolved := state.resolvedAfter origin } := by
  have isLoad := List.mem_of_getElem? isAt
  obtain ⟨hasRead, isAfter⟩ := sound.loads _ isLoad
  have isIndex : index < state.loads.length :=
    (List.getElem?_eq_some_iff.1 isAt).1
  have isNew : { origin, stage := .installed version } ∈ state.loads.set index
      { origin, stage := .installed version } :=
    List.mem_set isIndex _
  have goOn := sound.goOn isAt nofun
    (⟨nofun, fun mutation isMutation =>
      ⟨(isAfter mutation isMutation).1, nofun, fun _ stage => by
        cases stage
        exact (isAfter mutation isMutation).2.1 version rows rfl⟩⟩ :
      SoundLoad state.databases { origin, stage := .installed version })
  refine ⟨goOn.nonempty, goOn.loads, fun other isVersion => ?_,
    fun mutation isResolved => ?_⟩
  · cases isVersion
    exact ⟨⟨rows, hasRead version rows rfl, rfl⟩, _, isNew, rfl⟩
  · have settled : mutation ∈ state.resolved ∨ origin = .mutation mutation := by
      cases origin with
      | mutation own =>
          rcases List.mem_cons.1 isResolved with rfl | isOld
          · exact .inr rfl
          · exact .inl isOld
      | _ => exact .inl isResolved
    rcases settled with isOld | isOwn
    · exact goOn.resolved mutation isOld
    · exact ⟨_, isNew, version, rfl,
        (isAfter mutation isOwn).2.1 version rows rfl⟩

/-- Every event keeps it. -/
theorem Sound.step
    {state : RegistryState ε}
    (sound : Sound decrypt state)
    (event : RegistryEvent ε) :
    Sound decrypt (state.step decrypt ttlSeconds event) := by
  cases event with
  | refreshIfStale nowMs =>
      rw [RegistryState.step]
      split_ifs
      · exact sound
      · exact sound
      · have started : Sound decrypt (state.start .refresh) :=
          sound.start nofun
        exact ⟨started.nonempty, started.loads, started.snapshot,
          started.resolved⟩
  | load => exact sound.start nofun
  | mutate rows =>
      refine (sound.change rows).start fun mutation isMutation => ?_
      cases isMutation
      simp
  | mutateElsewhere rows => exact sound.change rows
  | reads load =>
      simp only [RegistryState.step]
      split
      · next origin rows isAt isCurrent =>
          obtain ⟨-, isAfter⟩ := sound.loads _ (List.mem_of_getElem? isAt)
          refine sound.goOn isAt nofun
            ⟨fun version read stage => ?_, fun mutation isMutation =>
              ⟨(isAfter mutation isMutation).1, fun version read stage => ?_,
                nofun⟩⟩
          · cases stage
            rw [← List.getLast?_eq_getElem?, isCurrent]
          · cases stage
            exact Nat.le_pred_of_lt (isAfter mutation isMutation).1
      · exact sound
  | installs load nowMs =>
      simp only [RegistryState.step]
      split
      · next origin version rows isAt => exact sound.install isAt nowMs
      · exact sound
  | fails load nowMs =>
      simp only [RegistryState.step]
      split
      · next origin isAt =>
          obtain ⟨-, isAfter⟩ := sound.loads _ (List.mem_of_getElem? isAt)
          have failed := sound.goOn isAt nofun
            (⟨nofun, fun mutation isMutation =>
              ⟨(isAfter mutation isMutation).1, nofun, nofun⟩⟩ :
              SoundLoad state.databases { origin, stage := .failed })
          exact ⟨failed.nonempty, failed.loads, failed.snapshot,
            failed.resolved⟩
      · exact sound

/-- The loads that have installed and the version of the snapshot are all that
matters for the order. -/
theorem Latest.of_installed
    {before after : RegistryState ε}
    (latest : Latest before)
    (sameInstalled : after.installed = before.installed)
    (noNew : ∀ load ∈ after.loads, ∀ version,
      load.stage = .installed version → load ∈ before.loads) :
    Latest after := by
  intro load isLoad version stage
  rw [sameInstalled]
  exact latest load (noNew load isLoad version stage) version stage

/-- A load that goes on without installing changes nothing in the order. -/
theorem Latest.goOn
    {state : RegistryState ε}
    (latest : Latest state)
    {index : Nat}
    {new : Load ε}
    (notInstalled : ∀ version, new.stage ≠ .installed version) :
    Latest { state with loads := state.loads.set index new } := by
  refine latest.of_installed rfl fun load isLoad version stage => ?_
  rcases List.mem_or_eq_of_mem_set isLoad with isOld | rfl
  · exact isOld
  · exact absurd stage (notInstalled version)

theorem Latest.start
    {state : RegistryState ε}
    (latest : Latest state)
    (origin : LoadOrigin) : Latest (state.start origin) := by
  refine latest.of_installed rfl fun load isLoad version stage => ?_
  rcases List.mem_append.1 isLoad with isOld | isNew
  · exact isOld
  · rw [List.mem_singleton.1 isNew] at stage
    cases stage

/-- Every event but the installation of an overtaken load keeps the order, and
the snapshot does not go back. -/
theorem Latest.step
    {state : RegistryState ε}
    (latest : Latest state)
    {event : RegistryEvent ε}
    (notOvertaken : state.NotOvertaken event) :
    Latest (state.step decrypt ttlSeconds event) := by
  cases event with
  | refreshIfStale nowMs =>
      rw [RegistryState.step]
      split_ifs
      · exact latest
      · exact latest
      · exact latest.start .refresh
  | load => exact latest.start .direct
  | mutate rows => exact latest.start (.mutation state.databases.length)
  | mutateElsewhere rows => exact latest
  | reads load =>
      simp only [RegistryState.step]
      split
      · exact latest.goOn nofun
      · exact latest
  | installs load nowMs =>
      simp only [RegistryState.step]
      split
      · next origin version rows isAt =>
          intro other isOther later stage
          refine ⟨version, rfl, ?_⟩
          rcases List.mem_or_eq_of_mem_set isOther with isOld | rfl
          · exact notOvertaken origin version rows isAt other isOld later stage
          · cases stage
            exact Nat.le_refl _
      · exact latest
  | fails load nowMs =>
      simp only [RegistryState.step]
      split
      · exact latest.goOn nofun
      · exact latest

/-- Where the snapshot is of the latest state that was installed, every answered
request is reflected. -/
theorem Sound.reflects
    {state : RegistryState ε}
    (sound : Sound decrypt state)
    (latest : Latest state) : state.Reflects decrypt := by
  intro mutation isResolved
  obtain ⟨load, isLoad, version, stage, isAfter⟩ :=
    sound.resolved mutation isResolved
  obtain ⟨installed, isInstalled, isLater⟩ := latest load isLoad version stage
  obtain ⟨⟨rows, isDatabase, snapshotEq⟩, -⟩ :=
    sound.snapshot installed isInstalled
  refine ⟨installed, rows, Nat.le_trans isAfter isLater, isDatabase,
    fun requestedModel => ?_⟩
  rw [snapshotEq]

theorem neverBack_of_installed_eq
    {before after : RegistryState ε}
    (sameInstalled : after.installed = before.installed) :
    before.NeverBack after :=
  fun version isInstalled =>
    ⟨version, sameInstalled.trans isInstalled, Nat.le_refl version⟩

/-- The snapshot goes back exactly if an overtaken load installs. -/
theorem neverBack_iff
    {state : RegistryState ε}
    (sound : Sound decrypt state)
    (latest : Latest state)
    (event : RegistryEvent ε) :
    state.NeverBack (state.step decrypt ttlSeconds event) ↔
      state.NotOvertaken event := by
  cases event with
  | refreshIfStale nowMs =>
      refine iff_of_true (neverBack_of_installed_eq ?_) trivial
      rw [RegistryState.step]
      split_ifs <;> rfl
  | load => exact iff_of_true (neverBack_of_installed_eq rfl) trivial
  | mutate rows => exact iff_of_true (neverBack_of_installed_eq rfl) trivial
  | mutateElsewhere rows =>
      exact iff_of_true (neverBack_of_installed_eq rfl) trivial
  | reads load =>
      refine iff_of_true (neverBack_of_installed_eq ?_) trivial
      simp only [RegistryState.step]
      split <;> rfl
  | installs load nowMs =>
      simp only [RegistryState.step]
      split
      · next origin version rows isAt =>
          constructor
          · intro neverBack otherOrigin read otherRows isAtToo other isOther
              later stage
            cases isAt.symm.trans isAtToo
            obtain ⟨installed, isInstalled, isLater⟩ :=
              latest other isOther later stage
            obtain ⟨reached, isReached, isAfter⟩ :=
              neverBack installed isInstalled
            obtain rfl : version = reached := Option.some.inj isReached
            exact Nat.le_trans isLater isAfter
          · intro notOvertaken installed isInstalled
            obtain ⟨-, other, isOther, stage⟩ :=
              sound.snapshot installed isInstalled
            exact ⟨version, rfl, notOvertaken origin version rows isAt other
              isOther installed stage⟩
      · next notRead =>
          refine iff_of_true (neverBack_of_installed_eq rfl) ?_
          intro origin version rows isAt
          exact absurd isAt (notRead origin version rows)
  | fails load nowMs =>
      refine iff_of_true (neverBack_of_installed_eq ?_) trivial
      simp only [RegistryState.step]
      split <;> rfl

end Invariant

/-- A run keeps the snapshot from going back, and answers every request from a
database with the changes that were acknowledged before, exactly if no overtaken
load installs in it. -/
theorem reflects_iff_notOvertaken
    (decrypt : ε → Option String)
    (ttlSeconds : Nat)
    (rows : List (ProviderRow ε))
    (events : List (RegistryEvent ε)) :
    EveryStep (RegistryState.step decrypt ttlSeconds)
        (fun state event =>
          state.NeverBack (state.step decrypt ttlSeconds event) ∧
            (state.step decrypt ttlSeconds event).Reflects decrypt)
        { databases := [rows] } events ↔
      EveryStep (RegistryState.step decrypt ttlSeconds)
        RegistryState.NotOvertaken { databases := [rows] } events := by
  have initially : Sound decrypt { databases := [rows] } ∧
      Latest (ε := ε) { databases := [rows] } :=
    ⟨⟨by simp, nofun, nofun, nofun⟩, nofun⟩
  have preserved (state : RegistryState ε) (event : RegistryEvent ε)
      (holds : Sound decrypt state ∧ Latest state)
      (notOvertaken : state.NotOvertaken event) :
      Sound decrypt (state.step decrypt ttlSeconds event) ∧
        Latest (state.step decrypt ttlSeconds event) :=
    ⟨holds.1.step event, holds.2.step notOvertaken⟩
  constructor
  · exact EveryStep.of_invariant
      (fun state => Sound decrypt state ∧ Latest state)
      (fun state event holds keeps => preserved state event holds
        ((neverBack_iff holds.1 holds.2 event).1 keeps.1))
      (fun state event holds keeps =>
        (neverBack_iff holds.1 holds.2 event).1 keeps.1) initially
  · exact EveryStep.of_invariant
      (fun state => Sound decrypt state ∧ Latest state) preserved
      (fun state event holds notOvertaken =>
        ⟨(neverBack_iff holds.1 holds.2 event).2 notOvertaken,
          (holds.1.step event).reflects (holds.2.step notOvertaken)⟩) initially

section Overtaking

/-- A provider of one model. -/
def loneRow (isActive : Bool) : ProviderRow Unit where
  id := "p"
  name := "p"
  baseUrl := "https://p"
  adapterType := .openai
  encryptedApiKey := ()
  weight := 1
  priority := 1
  isActive := isActive
  timeoutMs := 60000
  models :=
    [{ modelId := "m"
       info :=
        { maxOutputTokens := none
          inputPricePer1k := none
          outputPricePer1k := none }
       isActive := true }]

/-- A refresh reads the database, the provider is disabled, the load of that
request reads, installs and resolves, and then the refresh installs. -/
def overtakenRefresh : List (RegistryEvent Unit) :=
  [.load, .reads 0, .installs 0 1, .refreshIfStale 60001, .reads 1,
    .mutate [loneRow false], .reads 2, .installs 2 60002, .installs 1 60003]

/-- A provider that was disabled, and whose request was answered, is routed to
again. -/
theorem disabled_provider_routed :
    let state := runFrom (RegistryState.step (fun _ => some "key") 60)
      { databases := [[loneRow true]] } overtakenRefresh
    state.resolved = [1] ∧ state.databases.length = 2 ∧
      (∀ version rows, 1 ≤ version → state.databases[version]? = some rows →
        ∀ row ∈ rows, row.isActive = false) ∧
      state.installed = some 0 ∧
      (state.snapshot.resolveCandidates "m").candidates.map
        (fun candidate => candidate.provider.config.id) = ["p"] := by
  refine ⟨rfl, rfl, fun version rows isAfter isDatabase => ?_, rfl, ?_⟩
  · obtain rfl : version = 1 := by
      have isVersion := (List.getElem?_eq_some_iff.1 isDatabase).1
      exact Nat.le_antisymm (Nat.le_of_lt_succ isVersion) isAfter
    cases isDatabase
    decide
  · decide +kernel

end Overtaking

end Providers
end AiGateway
