import AiGateway.CircuitBreaker.Scripts
import AiGateway.CostTracker.Spend
import AiGateway.Database.RedisKeys
import AiGateway.Foundations.SharedStore
import AiGateway.LoadBalancer.LatencyBased
import AiGateway.LoadBalancer.LeastConnections
import AiGateway.LoadBalancer.WeightedRoundRobin
import AiGateway.RateLimiter.Script

/-!
# One Redis for all

`getRedis()` hands the same store to the rate limiters, the breakers, the two caches,
the spend counters and the strategies of the load balancer, and every replica of the
gateway uses it. Each of them keeps its state under keys of its own, and its commands
name no other keys.

The main theorem says that they do not notice each other: in any interleaving of
their commands, each is answered as if it had the store to itself, and no command
meets a value of another kind. The commands are those that name their keys. A SCAN, as
of the cache's `flush` and `getStats` and of the breakers' `getAllStates`, names none:
its cursors and batches depend on what everybody keeps, and it is left out.
-/

namespace AiGateway
namespace Database

open Foundations
open CircuitBreaker (BreakerCall BreakerKeys CircuitBreakerOptions CircuitDecision
  CircuitState)
open RateLimiter (CheckCall RateLimitResult Windows)

section Values

/-- The values of the store; a string is kept as what its readers parse it to. -/
inductive RedisValue
  | text (text : String)
  | state (state : CircuitState)
  | number (number : Int)
  | decimal (decimal : ℚ)
  | sortedSet (set : SortedSet String)
  | hash (hash : Hash String Int)

/-- A kind of values. -/
structure ValueKind (β : Type) where
  wrap : β → RedisValue
  unwrap : RedisValue → Option β
  unwrap_wrap : ∀ value, unwrap (wrap value) = some value

namespace ValueKind

/-- Texts. -/
def text : ValueKind String where
  wrap := .text
  unwrap
    | .text text => some text
    | _ => none
  unwrap_wrap _ := rfl

/-- States of a breaker. -/
def state : ValueKind CircuitState where
  wrap := .state
  unwrap
    | .state state => some state
    | _ => none
  unwrap_wrap _ := rfl

/-- Numbers. -/
def number : ValueKind Int where
  wrap := .number
  unwrap
    | .number number => some number
    | _ => none
  unwrap_wrap _ := rfl

/-- Instants. -/
def instant : ValueKind Nat where
  wrap instant := .number instant
  unwrap
    | .number number => if 0 ≤ number then some number.toNat else none
    | _ => none
  unwrap_wrap instant := by simp

/-- Numbers with a fraction. -/
def decimal : ValueKind ℚ where
  wrap := .decimal
  unwrap
    | .decimal decimal => some decimal
    | _ => none
  unwrap_wrap _ := rfl

/-- Sorted sets. -/
def sortedSet : ValueKind (SortedSet String) where
  wrap := .sortedSet
  unwrap
    | .sortedSet set => some set
    | _ => none
  unwrap_wrap _ := rfl

/-- Hashes. -/
def hash : ValueKind (Hash String Int) where
  wrap := .hash
  unwrap
    | .hash hash => some hash
    | _ => none
  unwrap_wrap _ := rfl

variable {β : Type} (kind : ValueKind β)

/-- A key with a value of the kind, in the store. -/
def cell (key : Key β) : Key RedisValue :=
  key.map fun entry =>
    { value := kind.wrap entry.value, deadline := entry.deadline }

/-- What a key of the store holds, if it is of the kind. -/
def fromCell : Key RedisValue → Option (Key β)
  | none => some none
  | some entry => (kind.unwrap entry.value).map fun value =>
      some { value := value, deadline := entry.deadline }

/-- A value that is kept without a deadline, in the store. -/
def plainCell (value : Option β) : Key RedisValue :=
  kind.cell (value.map fun value => { value := value })

/-- What a key without a deadline holds, if it is of the kind. -/
def fromPlainCell (cell : Key RedisValue) : Option (Option β) :=
  (kind.fromCell cell).bind fun key =>
    match key with
    | none => some none
    | some { value := value, deadline := none } => some (some value)
    | some { value := _, deadline := some _ } => none

@[simp] theorem cell_none : kind.cell none = none := rfl

@[simp] theorem plainCell_none : kind.plainCell none = none := rfl

@[simp] theorem fromCell_none : kind.fromCell none = some none := rfl

@[simp] theorem fromPlainCell_none : kind.fromPlainCell none = some none := rfl

@[simp] theorem fromCell_cell (key : Key β) : kind.fromCell (kind.cell key) = some key := by
  cases key with
  | none => rfl
  | some entry => simp [cell, fromCell, kind.unwrap_wrap]

@[simp] theorem fromPlainCell_plainCell (value : Option β) :
    kind.fromPlainCell (kind.plainCell value) = some value := by
  rw [fromPlainCell, plainCell, fromCell_cell]
  cases value <;> rfl

@[simp] theorem cell_inj {key other : Key β} :
    kind.cell key = kind.cell other ↔ key = other := by
  constructor
  · intro same
    have loaded := congrArg kind.fromCell same
    simpa using loaded
  · exact congrArg kind.cell

@[simp] theorem plainCell_inj {value other : Option β} :
    kind.plainCell value = kind.plainCell other ↔ value = other := by
  constructor
  · intro same
    have loaded := congrArg kind.fromPlainCell same
    simpa using loaded
  · exact congrArg kind.plainCell

end ValueKind

end Values

section SingleKeys

variable {β : Type}

/-- A component with one key: what it keeps there is of one kind. -/
def singleKey
    (kind : ValueKind β)
    (key : RedisKey)
    {γ ρ : Type}
    (apply : Key β → γ → Key β × ρ) : Component RedisKey (Entry RedisValue) where
  State := Key β
  Call := γ
  Reply := ρ
  start := none
  apply := apply
  keys _ := [key]
  save state other := if other = key then kind.cell state else none
  load _ store := kind.fromCell (store key)
  save_start other := by simp
  load_save keys state := by
    by_cases isNamed : key ∈ keys
    · exact ⟨state, by simp [only, isNamed], fun _ _ => rfl⟩
    · refine ⟨none, by simp [only, isNamed], fun other isOther => ?_⟩
      have differs : other ≠ key := fun same => isNamed (same ▸ isOther)
      simp [differs]
  apply_congr state other call same := by
    have sameState : state = other := by simpa using same
    exact sameState ▸ ⟨rfl, fun _ _ => rfl⟩
  save_apply state call other notNamed := by
    have differs : other ≠ key := by simpa using notNamed
    simp [differs]

/-- A command on a key with a text. -/
inductive TextCall
  | get (clock : Nat)
  | set (clock ttlSeconds : Nat) (text : String)
  | expire (clock ttlSeconds : Nat)
  | del

/-- What the command leaves of the key and answers. -/
def TextCall.apply (key : Key String) : TextCall → Key String × Option String
  | .get clock => (key, key.read clock)
  | .set clock ttlSeconds text => (Key.setPx clock (ttlSeconds * 1000) text, none)
  | .expire clock ttlSeconds => (key.pexpire clock (ttlSeconds * 1000), none)
  | .del => (Key.del, none)

/-- A command on a counter of the cache. -/
inductive StatCall
  | incr (clock : Nat)
  | get (clock : Nat)

/-- What the command leaves of the counter and answers. -/
def StatCall.apply (key : Key Int) : StatCall → Key Int × Option Int
  | .incr clock => (key.incrBy clock 1, (key.incrBy clock 1).read clock)
  | .get clock => (key, key.read clock)

/-- A command on a spend counter. -/
inductive SpendCall
  | incrByFloat (clock : Nat) (costUsd : ℚ)
  | expire (clock ttlSeconds : Nat)
  | get (clock : Nat)

/-- What the command leaves of the counter and answers. -/
def SpendCall.apply (key : Key ℚ) : SpendCall → Key ℚ × Option ℚ
  | .incrByFloat clock costUsd =>
      (CostTracker.incrByFloat clock costUsd key,
        (CostTracker.incrByFloat clock costUsd key).read clock)
  | .expire clock ttlSeconds => (key.pexpire clock (ttlSeconds * 1000), none)
  | .get clock => (key, key.read clock)

/-- A selection by weighted round robin: the clock and the arguments of the script. -/
structure RotationCall where
  clock : Nat
  arguments : List (String × Int)

/-- What the script leaves of the hash and answers. -/
def RotationCall.apply
    (key : Key (Hash String Int))
    (call : RotationCall) : Key (Hash String Int) × Option String :=
  ((LoadBalancer.smoothWrrLua call.clock
      LoadBalancer.wrrStateTtlMs call.arguments key).2,
    (LoadBalancer.smoothWrrLua call.clock
      LoadBalancer.wrrStateTtlMs call.arguments key).1)

/-- The key of a rotation has the name that the strategy gives it. -/
theorem name_rotation
    (functions : LoadBalancer.KeyFunctions)
    (candidates : List LoadBalancer.Candidate) :
    RedisKey.name functions.defaultPrefix
        ⟨.lbWrrCurrent, LoadBalancer.candidateSetKey functions candidates⟩ =
      LoadBalancer.wrrKey functions candidates := rfl

end SingleKeys

section Limiters

variable (config : RateLimiter.Config) (apiKeyId : String)

/-- What a limiter keeps at a key. -/
def limiterCell (windows : Windows) (key : RedisKey) : Key RedisValue :=
  if key.id = apiKeyId then
    match key.family with
    | .rateLimitRpm => ValueKind.sortedSet.cell windows.rpm
    | .rateLimitTpm => ValueKind.sortedSet.cell windows.tpm
    | .rateLimitBurst => ValueKind.sortedSet.cell windows.burst
    | .rateLimitTpmSum => ValueKind.number.cell windows.tpmSum
    | _ => none
  else
    none

/-- The keys of the script of a limiter. -/
def limiterKeys : List RedisKey :=
  [⟨.rateLimitRpm, apiKeyId⟩, ⟨.rateLimitTpm, apiKeyId⟩,
    ⟨.rateLimitBurst, apiKeyId⟩, ⟨.rateLimitTpmSum, apiKeyId⟩]

/-- The windows that the keys of a limiter hold. -/
def loadWindows (store : RedisKey → Key RedisValue) : Option Windows := do
  let rpm ← ValueKind.sortedSet.fromCell (store ⟨.rateLimitRpm, apiKeyId⟩)
  let tpm ← ValueKind.sortedSet.fromCell (store ⟨.rateLimitTpm, apiKeyId⟩)
  let burst ← ValueKind.sortedSet.fromCell (store ⟨.rateLimitBurst, apiKeyId⟩)
  let tpmSum ← ValueKind.number.fromCell (store ⟨.rateLimitTpmSum, apiKeyId⟩)
  pure { rpm := rpm, tpm := tpm, burst := burst, tpmSum := tpmSum }

/-- The rate limiter of an API key; it asks the store when it is enabled. -/
def limiter : Component RedisKey (Entry RedisValue) where
  State := Windows
  Call := CheckCall
  Reply := RateLimitResult
  start := {}
  apply windows call :=
    ((RateLimiter.check config windows call).2,
      (RateLimiter.check config windows call).1)
  keys _ := if config.rateLimitEnabled then limiterKeys apiKeyId else []
  save := limiterCell apiKeyId
  load _ := loadWindows apiKeyId
  save_start key := by
    unfold limiterCell
    split_ifs
    · cases key.family <;> rfl
    · rfl
  load_save keys windows := by
    refine ⟨{ rpm := if ⟨.rateLimitRpm, apiKeyId⟩ ∈ keys then windows.rpm else none
              tpm := if ⟨.rateLimitTpm, apiKeyId⟩ ∈ keys then windows.tpm else none
              burst := if ⟨.rateLimitBurst, apiKeyId⟩ ∈ keys then windows.burst
                else none
              tpmSum := if ⟨.rateLimitTpmSum, apiKeyId⟩ ∈ keys then windows.tpmSum
                else none }, ?_, ?_⟩
    · simp only [loadWindows, only, limiterCell]
      split_ifs <;> simp
    · rintro ⟨family, id⟩ isNamed
      by_cases isId : id = apiKeyId
      · subst isId
        cases family <;> simp [limiterCell, isNamed]
      · simp [limiterCell, isId]
  apply_congr windows other call same := by
    cases enabled : config.rateLimitEnabled with
    | false => simp [RateLimiter.check, enabled]
    | true =>
        have sameWindows : windows = other := by
          simp only [enabled, if_true, limiterKeys, List.forall_mem_cons,
            limiterCell, ValueKind.cell_inj] at same
          exact RateLimiter.Windows.ext same.1 same.2.1 same.2.2.1 same.2.2.2.1
        exact sameWindows ▸ ⟨rfl, fun _ _ => rfl⟩
  save_apply windows call key notNamed := by
    cases enabled : config.rateLimitEnabled with
    | false => simp [RateLimiter.check, enabled]
    | true =>
        obtain ⟨family, id⟩ := key
        simp only [enabled, if_true, limiterKeys, List.mem_cons, RedisKey.mk.injEq,
          List.not_mem_nil, or_false, not_or, not_and] at notNamed
        by_cases isId : id = apiKeyId
        · cases family <;> simp_all [limiterCell]
        · simp [limiterCell, isId]

end Limiters

section Breakers

variable (options : CircuitBreakerOptions) (providerId : String)

/-- What a breaker keeps at a key. -/
def breakerCell (keys : BreakerKeys) (key : RedisKey) : Key RedisValue :=
  if key.id = providerId then
    match key.family with
    | .cbState => ValueKind.state.plainCell keys.state
    | .cbFailures => ValueKind.number.cell keys.failures
    | .cbOpenedAt => ValueKind.instant.plainCell keys.openedAt
    | .cbHalfProbes => ValueKind.number.cell keys.halfProbes
    | .cbHalfSuccesses => ValueKind.number.plainCell keys.halfSuccesses
    | _ => none
  else
    none

/-- The keys of a breaker that the store holds. -/
def loadBreaker (store : RedisKey → Key RedisValue) : Option BreakerKeys := do
  let state ← ValueKind.state.fromPlainCell (store ⟨.cbState, providerId⟩)
  let failures ← ValueKind.number.fromCell (store ⟨.cbFailures, providerId⟩)
  let openedAt ← ValueKind.instant.fromPlainCell (store ⟨.cbOpenedAt, providerId⟩)
  let halfProbes ← ValueKind.number.fromCell (store ⟨.cbHalfProbes, providerId⟩)
  let halfSuccesses ←
    ValueKind.number.fromPlainCell (store ⟨.cbHalfSuccesses, providerId⟩)
  pure
    { state := state
      failures := failures
      openedAt := openedAt
      halfProbes := halfProbes
      halfSuccesses := halfSuccesses }

/-- A command of a breaker. -/
inductive BreakerCommand
  | change (call : BreakerCall)
  | getState (clock : Nat)

/-- What a breaker answers. -/
inductive BreakerReply
  | decision (decision : CircuitDecision)
  | state (state : CircuitState)
  | done
  | status (state : Option CircuitState) (failures : Option Int)
      (openedAt : Option Nat)

/-- The keys that the command of a breaker names. -/
def BreakerCommand.keys : BreakerCommand → List RedisKey
  | .change (.acquire _ _) =>
      [⟨.cbState, providerId⟩, ⟨.cbOpenedAt, providerId⟩, ⟨.cbHalfProbes, providerId⟩,
        ⟨.cbHalfSuccesses, providerId⟩]
  | .change (.recordSuccess _) =>
      [⟨.cbState, providerId⟩, ⟨.cbFailures, providerId⟩,
        ⟨.cbHalfSuccesses, providerId⟩, ⟨.cbHalfProbes, providerId⟩,
        ⟨.cbOpenedAt, providerId⟩]
  | .change (.recordFailure _ _) =>
      [⟨.cbState, providerId⟩, ⟨.cbFailures, providerId⟩, ⟨.cbOpenedAt, providerId⟩,
        ⟨.cbHalfProbes, providerId⟩, ⟨.cbHalfSuccesses, providerId⟩]
  | .change (.release _) => [⟨.cbState, providerId⟩, ⟨.cbHalfProbes, providerId⟩]
  | .change .reset =>
      [⟨.cbState, providerId⟩, ⟨.cbFailures, providerId⟩, ⟨.cbOpenedAt, providerId⟩,
        ⟨.cbHalfProbes, providerId⟩, ⟨.cbHalfSuccesses, providerId⟩]
  | .getState _ =>
      [⟨.cbState, providerId⟩, ⟨.cbFailures, providerId⟩, ⟨.cbOpenedAt, providerId⟩]

/-- What the command of a breaker leaves of its keys and answers. -/
def BreakerCommand.apply (keys : BreakerKeys) :
    BreakerCommand → BreakerKeys × BreakerReply
  | .change (.acquire clock nowMs) =>
      ((CircuitBreaker.acquireScript options clock nowMs keys).2,
        .decision (CircuitBreaker.acquireScript options clock nowMs keys).1)
  | .change (.recordSuccess clock) =>
      ((CircuitBreaker.successScript options clock keys).2,
        .state (CircuitBreaker.successScript options clock keys).1)
  | .change (.recordFailure clock nowMs) =>
      ((CircuitBreaker.failureScript options clock nowMs keys).2,
        .state (CircuitBreaker.failureScript options clock nowMs keys).1)
  | .change (.release clock) => ((CircuitBreaker.releaseScript clock keys).2, .done)
  | .change .reset => (CircuitBreaker.resetKeys, .done)
  | .getState clock =>
      (keys, .status keys.state (keys.failures.read clock) keys.openedAt)

/-- `ACQUIRE_LUA` does not know the failures. -/
theorem failures_acquireScript (clock nowMs : Nat) (keys : BreakerKeys) :
    (CircuitBreaker.acquireScript options clock nowMs keys).2.failures =
      keys.failures := by
  unfold CircuitBreaker.acquireScript
  cases keys.phase with
  | closed => rfl
  | opened => dsimp only; split_ifs <;> rfl
  | halfOpen => dsimp only; split_ifs <;> rfl

/-- `RELEASE_LUA` changes the probes only. -/
theorem releaseScript_kept (clock : Nat) (keys : BreakerKeys) :
    (CircuitBreaker.releaseScript clock keys).2.state = keys.state ∧
      (CircuitBreaker.releaseScript clock keys).2.failures = keys.failures ∧
      (CircuitBreaker.releaseScript clock keys).2.openedAt = keys.openedAt ∧
      (CircuitBreaker.releaseScript clock keys).2.halfSuccesses =
        keys.halfSuccesses := by
  unfold CircuitBreaker.releaseScript BreakerKeys.returnSlot
  cases keys.phase with
  | closed => exact ⟨rfl, rfl, rfl, rfl⟩
  | opened => exact ⟨rfl, rfl, rfl, rfl⟩
  | halfOpen => dsimp only; split_ifs <;> exact ⟨rfl, rfl, rfl, rfl⟩

/-- The breaker of a provider. -/
def breaker : Component RedisKey (Entry RedisValue) where
  State := BreakerKeys
  Call := BreakerCommand
  Reply := BreakerReply
  start := {}
  apply keys call := call.apply options keys
  keys call := call.keys providerId
  save := breakerCell providerId
  load _ := loadBreaker providerId
  save_start key := by
    unfold breakerCell
    split_ifs
    · cases key.family <;> rfl
    · rfl
  load_save named keys := by
    refine ⟨{ state := if ⟨.cbState, providerId⟩ ∈ named then keys.state else none
              failures := if ⟨.cbFailures, providerId⟩ ∈ named then keys.failures
                else none
              openedAt := if ⟨.cbOpenedAt, providerId⟩ ∈ named then keys.openedAt
                else none
              halfProbes := if ⟨.cbHalfProbes, providerId⟩ ∈ named then
                keys.halfProbes else none
              halfSuccesses := if ⟨.cbHalfSuccesses, providerId⟩ ∈ named then
                keys.halfSuccesses else none }, ?_, ?_⟩
    · simp only [loadBreaker, only, breakerCell]
      split_ifs <;> simp
    · rintro ⟨family, id⟩ isNamed
      by_cases isId : id = providerId
      · subst isId
        cases family <;> simp [breakerCell, isNamed]
      · simp [breakerCell, isId]
  apply_congr keys other call same := by
    obtain ⟨state, failures, openedAt, halfProbes, halfSuccesses⟩ := keys
    obtain ⟨state', failures', openedAt', halfProbes', halfSuccesses'⟩ := other
    cases call with
    | getState clock =>
        simp [BreakerCommand.keys, breakerCell] at same
        obtain ⟨rfl, rfl, rfl⟩ := same
        simp [BreakerCommand.keys, BreakerCommand.apply, breakerCell]
    | change call =>
        cases call with
        | acquire clock nowMs =>
            simp [BreakerCommand.keys, breakerCell] at same
            obtain ⟨rfl, rfl, rfl, rfl⟩ := same
            simp only [BreakerCommand.keys, BreakerCommand.apply, breakerCell,
              CircuitBreaker.acquireScript, BreakerKeys.phase, BreakerKeys.probes]
            cases state.getD .closed with
            | closed => simp
            | opened =>
                by_cases isOver : (options.timeoutMs : Int) ≤
                  (nowMs : Int) - (openedAt.getD 0 : Nat) <;> simp [isOver]
            | halfOpen =>
                by_cases isFree : (halfProbes.read clock).getD 0 <
                  options.halfOpenMaxProbes <;> simp [isFree]
        | release clock =>
            simp [BreakerCommand.keys, breakerCell] at same
            obtain ⟨rfl, rfl⟩ := same
            simp only [BreakerCommand.keys, BreakerCommand.apply, breakerCell,
              CircuitBreaker.releaseScript, BreakerKeys.phase,
              BreakerKeys.returnSlot, BreakerKeys.probes]
            cases state.getD .closed with
            | closed => simp
            | opened => simp
            | halfOpen =>
                by_cases isTaken : 0 < (halfProbes.read clock).getD 0 <;>
                  simp [isTaken]
        | _ =>
            simp [BreakerCommand.keys, breakerCell] at same
            obtain ⟨rfl, rfl, rfl, rfl, rfl⟩ := same
            exact ⟨rfl, fun _ _ => rfl⟩
  save_apply keys call key notNamed := by
    obtain ⟨family, id⟩ := key
    by_cases isId : id = providerId
    · subst isId
      cases call with
      | getState clock => rfl
      | change call =>
          cases call with
          | acquire clock nowMs =>
              cases family <;> simp [BreakerCommand.keys] at notNamed <;>
                simp [breakerCell, BreakerCommand.apply, failures_acquireScript]
          | release clock =>
              cases family <;> simp [BreakerCommand.keys] at notNamed <;>
                simp [breakerCell, BreakerCommand.apply, releaseScript_kept]
          | _ =>
              cases family <;> simp [BreakerCommand.keys] at notNamed <;> rfl
    · simp [breakerCell, isId]

end Breakers

section Families

variable {β : Type}

/-- A component with a key for each provider, whose commands name several of them. -/
def keyFamily
    (kind : ValueKind β)
    (family : KeyFamily)
    {γ ρ : Type}
    (ids : γ → List String)
    (apply : (String → Key β) → γ → (String → Key β) × ρ)
    (apply_congr : ∀ state other call,
      (∀ id ∈ ids call, state id = other id) →
        (apply state call).2 = (apply other call).2 ∧
          ∀ id ∈ ids call, (apply state call).1 id = (apply other call).1 id)
    (apply_of_not_mem : ∀ state call, ∀ id ∉ ids call,
      (apply state call).1 id = state id) :
    Component RedisKey (Entry RedisValue) where
  State := String → Key β
  Call := γ
  Reply := ρ
  start := fun _ => none
  apply := apply
  keys call := (ids call).map fun id => ⟨family, id⟩
  save state key := if key.family = family then kind.cell (state key.id) else none
  load keys store :=
    if keys.all fun key => (kind.fromCell (store key)).isSome then
      some fun id => (kind.fromCell (store ⟨family, id⟩)).getD none
    else
      none
  save_start key := by simp
  load_save keys state := by
    refine ⟨fun id => if ⟨family, id⟩ ∈ keys then state id else none, ?_, ?_⟩
    · rw [if_pos]
      · congr 1
        funext id
        by_cases isNamed : (⟨family, id⟩ : RedisKey) ∈ keys <;> simp [only, isNamed]
      · rw [List.all_eq_true]
        intro key isNamed
        rw [only_of_mem isNamed]
        by_cases isFamily : key.family = family <;> simp [isFamily]
    · rintro ⟨other, id⟩ isNamed
      by_cases isFamily : other = family
      · subst isFamily
        simp [isNamed]
      · simp [isFamily]
  apply_congr state other call same := by
    have sameIds : ∀ id ∈ ids call, state id = other id := by simpa using same
    simpa using apply_congr state other call sameIds
  save_apply state call key notNamed := by
    obtain ⟨other, id⟩ := key
    by_cases isFamily : other = family
    · subst isFamily
      have notId : id ∉ ids call := fun isId =>
        notNamed (List.mem_map_of_mem isId)
      simp [apply_of_not_mem state call id notId]
    · simp [isFamily]

/-- A command on the gauges. -/
inductive ConnectionCall
  | select (clock : Nat) (ids : List String)
  | release (clock : Nat) (providerId : String)

/-- The providers whose gauges the command names. -/
def ConnectionCall.ids : ConnectionCall → List String
  | .select _ ids => ids
  | .release _ providerId => [providerId]

/-- What the command leaves of the gauges and answers. -/
def ConnectionCall.apply (gauges : LoadBalancer.LeastConnections.Gauges) :
    ConnectionCall → LoadBalancer.LeastConnections.Gauges × (Option String ⊕ Int)
  | .select clock ids =>
      let result := LoadBalancer.LeastConnections.selectAndAcquireLua clock
        LoadBalancer.LeastConnections.connectionTtlMs ids gauges
      (result.2, .inl result.1)
  | .release clock providerId =>
      let result := LoadBalancer.LeastConnections.releaseLua clock (gauges providerId)
      (Function.update gauges providerId result.2, .inr result.1)

/-- The loop of the script reads the gauges that it names. -/
theorem foldl_leastVisit_congr
    (clock : Nat)
    {gauges other : LoadBalancer.LeastConnections.Gauges}
    {ids : List String}
    (same : ∀ id ∈ ids, gauges id = other id)
    (least : Option (String × Int)) :
    ids.foldl (LoadBalancer.LeastConnections.leastVisit clock gauges) least =
      ids.foldl (LoadBalancer.LeastConnections.leastVisit clock other) least := by
  refine List.foldl_ext _ _ _ fun least id isNamed => ?_
  unfold LoadBalancer.LeastConnections.leastVisit
    LoadBalancer.LeastConnections.connections
  rw [same id isNamed]

/-- The gauge that the script takes a slot on is one that it names. -/
theorem mem_of_foldl_leastVisit
    (clock : Nat)
    (gauges : LoadBalancer.LeastConnections.Gauges)
    {ids : List String}
    {minId : String}
    {minVal : Int}
    (found : ids.foldl (LoadBalancer.LeastConnections.leastVisit clock gauges) none =
      some (minId, minVal)) : minId ∈ ids := by
  rcases LoadBalancer.LeastConnections.exists_foldl_leastVisit clock gauges ids with
    ⟨rfl, empty⟩ | ⟨least, isFirst, isLeast⟩
  · cases found
  · rw [isLeast] at found
    cases found
    exact isFirst.mem

/-- A command on the gauges depends on those that it names. -/
theorem ConnectionCall.apply_congr
    (gauges other : LoadBalancer.LeastConnections.Gauges)
    (call : ConnectionCall)
    (same : ∀ id ∈ call.ids, gauges id = other id) :
    (call.apply gauges).2 = (call.apply other).2 ∧
      ∀ id ∈ call.ids, (call.apply gauges).1 id = (call.apply other).1 id := by
  cases call with
  | select clock ids =>
      have sameLoop : ids.foldl
          (LoadBalancer.LeastConnections.leastVisit clock gauges) none =
            ids.foldl (LoadBalancer.LeastConnections.leastVisit clock other) none :=
        foldl_leastVisit_congr clock same none
      simp only [apply, LoadBalancer.LeastConnections.selectAndAcquireLua, sameLoop]
      cases found : ids.foldl
          (LoadBalancer.LeastConnections.leastVisit clock other) none with
      | none => exact ⟨rfl, same⟩
      | some least =>
          obtain ⟨minId, minVal⟩ := least
          have isNamed := mem_of_foldl_leastVisit clock other found
          refine ⟨rfl, fun id isId => ?_⟩
          by_cases isLeast : id = minId
          · simp [isLeast, same minId isNamed]
          · simp [isLeast, same id isId]
  | release clock providerId =>
      have sameGauge := same providerId (List.mem_singleton_self providerId)
      refine ⟨by simp only [apply, sameGauge], fun id isId => ?_⟩
      obtain rfl := List.mem_singleton.1 isId
      simp [apply, sameGauge]

/-- A command on the gauges changes none that it does not name. -/
theorem ConnectionCall.apply_of_not_mem
    (gauges : LoadBalancer.LeastConnections.Gauges)
    (call : ConnectionCall)
    (id : String)
    (notNamed : id ∉ call.ids) : (call.apply gauges).1 id = gauges id := by
  cases call with
  | select clock ids =>
      simp only [apply, LoadBalancer.LeastConnections.selectAndAcquireLua]
      cases found : ids.foldl
          (LoadBalancer.LeastConnections.leastVisit clock gauges) none with
      | none => rfl
      | some least =>
          have differs : id ≠ least.1 := fun same =>
            notNamed (same ▸ mem_of_foldl_leastVisit clock gauges found)
          exact Function.update_of_ne differs _ _
  | release clock providerId =>
      have differs : id ≠ providerId := fun same =>
        notNamed (List.mem_singleton.2 same)
      exact Function.update_of_ne differs _ _

/-- A command on the averages. -/
inductive AverageCall
  /-- `MGET` of the averages of some providers. -/
  | read (clock : Nat) (ids : List String)
  | update (clock : Nat) (providerId : String) (sample : ℚ)

/-- The providers whose averages the command names. -/
def AverageCall.ids : AverageCall → List String
  | .read _ ids => ids
  | .update _ providerId _ => [providerId]

/-- What the command leaves of the averages and answers. -/
def AverageCall.apply
    (alpha : ℚ)
    (averages : LoadBalancer.LatencyBased.Averages) :
    AverageCall → LoadBalancer.LatencyBased.Averages × (List (Option ℚ) ⊕ ℚ)
  | .read clock ids => (averages, .inl (ids.map fun id => (averages id).read clock))
  | .update clock providerId sample =>
      let result := LoadBalancer.LatencyBased.emaUpdateLua clock alpha sample
        LoadBalancer.LatencyBased.emaTtlMs (averages providerId)
      (Function.update averages providerId result.2, .inr result.1)

/-- A command on the averages depends on those that it names. -/
theorem AverageCall.apply_congr
    (alpha : ℚ)
    (averages other : LoadBalancer.LatencyBased.Averages)
    (call : AverageCall)
    (same : ∀ id ∈ call.ids, averages id = other id) :
    (call.apply alpha averages).2 = (call.apply alpha other).2 ∧
      ∀ id ∈ call.ids,
        (call.apply alpha averages).1 id = (call.apply alpha other).1 id := by
  cases call with
  | read clock ids =>
      refine ⟨congrArg Sum.inl (List.map_congr_left fun id isNamed => ?_), same⟩
      rw [same id isNamed]
  | update clock providerId sample =>
      have sameAverage := same providerId (List.mem_singleton_self providerId)
      refine ⟨by simp only [apply, sameAverage], fun id isId => ?_⟩
      obtain rfl := List.mem_singleton.1 isId
      simp [apply, sameAverage]

/-- A command on the averages changes none that it does not name. -/
theorem AverageCall.apply_of_not_mem
    (alpha : ℚ)
    (averages : LoadBalancer.LatencyBased.Averages)
    (call : AverageCall)
    (id : String)
    (notNamed : id ∉ call.ids) : (call.apply alpha averages).1 id = averages id := by
  cases call with
  | read clock ids => rfl
  | update clock providerId sample =>
      have differs : id ≠ providerId := fun same =>
        notNamed (List.mem_singleton.2 same)
      exact Function.update_of_ne differs _ _

end Families

section System

/-- Who uses the store. -/
inductive RedisUser
  | limiter (apiKeyId : String)
  | breaker (providerId : String)
  /-- The cached context of an API key. -/
  | context (keyHash : String)
  /-- A response in the semantic cache. -/
  | response (fingerprint : String)
  | statistic (name : String)
  /-- The current weights of a set of candidates. -/
  | rotation (setKey : String)
  | connections
  | averages
  /-- The spend of an API key in a month. -/
  | spend (counter : String)
  deriving DecidableEq

/-- Whose key it is. -/
def RedisKey.user (key : RedisKey) : RedisUser :=
  match key.family with
  | .authKey => .context key.id
  | .cbState | .cbFailures | .cbOpenedAt | .cbHalfSuccesses | .cbHalfProbes =>
      .breaker key.id
  | .rateLimitRpm | .rateLimitTpm | .rateLimitTpmSum | .rateLimitBurst =>
      .limiter key.id
  | .cacheEntry => .response key.id
  | .statKey => .statistic key.id
  | .lbWrrCurrent => .rotation key.id
  | .lbConnections => .connections
  | .lbLatencyEma => .averages
  | .spendKey => .spend key.id

/-- A breaker names keys of its own. -/
theorem BreakerCommand.user_of_mem
    (providerId : String)
    (command : BreakerCommand)
    {key : RedisKey}
    (isNamed : key ∈ command.keys providerId) : key.user = .breaker providerId := by
  cases command with
  | getState clock =>
      simp only [keys, List.mem_cons, List.not_mem_nil, or_false] at isNamed
      rcases isNamed with rfl | rfl | rfl <;> rfl
  | change call =>
      cases call with
      | acquire clock nowMs =>
          simp only [keys, List.mem_cons, List.not_mem_nil, or_false] at isNamed
          rcases isNamed with rfl | rfl | rfl | rfl <;> rfl
      | release clock =>
          simp only [keys, List.mem_cons, List.not_mem_nil, or_false] at isNamed
          rcases isNamed with rfl | rfl <;> rfl
      | _ =>
          simp only [keys, List.mem_cons, List.not_mem_nil, or_false] at isNamed
          rcases isNamed with rfl | rfl | rfl | rfl | rfl <;> rfl

/-- The configuration of the users of the store. -/
structure RedisSettings where
  keyPrefix : String
  rateLimits : RateLimiter.Config
  breakers : CircuitBreakerOptions
  latencies : LoadBalancer.LatencyBased.Settings

variable (settings : RedisSettings)

/-- What a user of the store does. -/
def RedisSettings.component : RedisUser → Component RedisKey (Entry RedisValue)
  | .limiter apiKeyId => limiter settings.rateLimits apiKeyId
  | .breaker providerId => breaker settings.breakers providerId
  | .context keyHash => singleKey .text ⟨.authKey, keyHash⟩ TextCall.apply
  | .response fingerprint => singleKey .text ⟨.cacheEntry, fingerprint⟩ TextCall.apply
  | .statistic name => singleKey .number ⟨.statKey, name⟩ StatCall.apply
  | .rotation setKey => singleKey .hash ⟨.lbWrrCurrent, setKey⟩ RotationCall.apply
  | .connections => keyFamily .number .lbConnections ConnectionCall.ids
      (fun gauges call => call.apply gauges) ConnectionCall.apply_congr
      ConnectionCall.apply_of_not_mem
  | .averages => keyFamily .decimal .lbLatencyEma AverageCall.ids
      (fun averages call => call.apply settings.latencies.alpha averages)
      (AverageCall.apply_congr settings.latencies.alpha)
      (AverageCall.apply_of_not_mem settings.latencies.alpha)
  | .spend counter => singleKey .decimal ⟨.spendKey, counter⟩ SpendCall.apply

/-- The users of the store, each with the keys that its commands name; a SCAN, which
names none, is no command of theirs here. -/
def RedisSettings.system : SharedSystem RedisUser RedisKey (Entry RedisValue) where
  component := settings.component
  owner := RedisKey.user
  keys_owned user call key isNamed := by
    cases user with
    | limiter apiKeyId =>
        replace isNamed : key ∈ if settings.rateLimits.rateLimitEnabled then
          limiterKeys apiKeyId else [] := isNamed
        split_ifs at isNamed
        · simp only [limiterKeys, List.mem_cons, List.not_mem_nil, or_false] at isNamed
          rcases isNamed with rfl | rfl | rfl | rfl <;> rfl
        · cases isNamed
    | breaker providerId =>
        exact BreakerCommand.user_of_mem providerId call isNamed
    | connections =>
        obtain ⟨id, -, rfl⟩ := List.mem_map.1 isNamed
        rfl
    | averages =>
        obtain ⟨id, -, rfl⟩ := List.mem_map.1 isNamed
        rfl
    | _ => exact List.mem_singleton.1 isNamed ▸ rfl

/-- A call of one of the users. -/
abbrev RedisSettings.Call := settings.system.Call

/-- The store, by the names of its keys, after some calls. -/
def RedisSettings.storeAfter (calls : List settings.Call) : String → Key RedisValue :=
  settings.system.storeAfter (RedisKey.name settings.keyPrefix) calls

/-- The answer of the store to a call. -/
def RedisSettings.answer
    (store : String → Key RedisValue)
    (user : RedisUser)
    (call : (settings.component user).Call) :
    Option (settings.component user).Reply :=
  settings.system.answer (RedisKey.name settings.keyPrefix) store user call

/-- The state of a user that makes its calls alone. -/
def RedisSettings.stateAlone
    (user : RedisUser)
    (calls : List settings.Call) : (settings.component user).State :=
  (settings.component user).after (settings.system.own user calls)

end System

end Database
end AiGateway
