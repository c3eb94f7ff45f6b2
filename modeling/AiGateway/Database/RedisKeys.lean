import AiGateway.Auth.KeyIsolation
import AiGateway.Cache.Flush
import AiGateway.CircuitBreaker.AllStates
import AiGateway.LoadBalancer.Shared

/-!
# The names of the keys

The names of all keys are built from a prefix, a word for the family of the key and
an id; `redisKeys` has all of them but the counters of the cache and of the spend. Ids
are not escaped, and some of them come from clients. Two keys have the same name only
if they are the same key, whatever the ids are.
-/

namespace AiGateway
namespace Database

section Names

variable (keyPrefix id : String)

/-- `redisKeys.cbHalfSuccesses(providerId, prefix)`. -/
def cbHalfSuccesses : String := keyPrefix ++ "cb:" ++ id ++ ":half_successes"

/-- `redisKeys.cbHalfProbes(providerId, prefix)`. -/
def cbHalfProbes : String := keyPrefix ++ "cb:" ++ id ++ ":half_probes"

/-- `redisKeys.rateLimitRpm(apiKeyId, prefix)`. -/
def rateLimitRpm : String := keyPrefix ++ "rl:rpm:" ++ id

/-- `redisKeys.rateLimitTpm(apiKeyId, prefix)`. -/
def rateLimitTpm : String := keyPrefix ++ "rl:tpm:" ++ id

/-- `redisKeys.rateLimitTpmSum(apiKeyId, prefix)`. -/
def rateLimitTpmSum : String := keyPrefix ++ "rl:tpmsum:" ++ id

/-- `redisKeys.rateLimitBurst(apiKeyId, prefix)`. -/
def rateLimitBurst : String := keyPrefix ++ "rl:burst:" ++ id

/-- `redisKeys.lbWrrCurrent(setKey, prefix)`. -/
def lbWrrCurrent : String := keyPrefix ++ "lb:wrr:" ++ id

/-- `redisKeys.lbConnections(providerId, prefix)`. -/
def lbConnections : String := keyPrefix ++ "lb:conn:" ++ id

/-- `redisKeys.lbLatencyEma(providerId, prefix)`. -/
def lbLatencyEma : String := keyPrefix ++ "lb:lat:" ++ id

/-- `spendKey(apiKeyId, nowMs)`, for the key and the month that `spendCounter` joins. -/
def spendKey : String := keyPrefix ++ "spend:" ++ id

/-- `${apiKeyId}:${yearMonth}`. -/
def spendCounter (apiKeyId yearMonth : String) : String :=
  apiKeyId ++ ":" ++ yearMonth

/-- Each month of each API key has its own counter; a month is named by seven
symbols. -/
theorem spendCounter_injective
    {apiKeyId otherId yearMonth otherMonth : String}
    (sameLength : yearMonth.toList.length = otherMonth.toList.length)
    (same : spendCounter apiKeyId yearMonth = spendCounter otherId otherMonth) :
    apiKeyId = otherId ∧ yearMonth = otherMonth := by
  have sameList := congrArg String.toList same
  simp only [spendCounter, String.toList_append] at sameList
  obtain ⟨sameStart, sameMonth⟩ := List.append_inj' sameList sameLength
  exact ⟨String.toList_inj.1 (List.append_cancel_right sameStart),
    String.toList_inj.1 sameMonth⟩

end Names

/-- The families of keys that the gateway uses. -/
inductive KeyFamily
  | authKey
  | cbState
  | cbFailures
  | cbOpenedAt
  | cbHalfSuccesses
  | cbHalfProbes
  | rateLimitRpm
  | rateLimitTpm
  | rateLimitTpmSum
  | rateLimitBurst
  | cacheEntry
  | statKey
  | lbWrrCurrent
  | lbConnections
  | lbLatencyEma
  | spendKey
  deriving DecidableEq

/-- A key: its family and the id in it. -/
structure RedisKey where
  family : KeyFamily
  id : String
  deriving DecidableEq

/-- The name of a key. -/
def RedisKey.name (keyPrefix : String) (key : RedisKey) : String :=
  match key.family with
  | .authKey => Auth.authKey keyPrefix key.id
  | .cbState => CircuitBreaker.cbState keyPrefix key.id
  | .cbFailures => CircuitBreaker.cbFailures keyPrefix key.id
  | .cbOpenedAt => CircuitBreaker.cbOpenedAt keyPrefix key.id
  | .cbHalfSuccesses => cbHalfSuccesses keyPrefix key.id
  | .cbHalfProbes => cbHalfProbes keyPrefix key.id
  | .rateLimitRpm => rateLimitRpm keyPrefix key.id
  | .rateLimitTpm => rateLimitTpm keyPrefix key.id
  | .rateLimitTpmSum => rateLimitTpmSum keyPrefix key.id
  | .rateLimitBurst => rateLimitBurst keyPrefix key.id
  | .cacheEntry => Cache.cacheEntry keyPrefix key.id
  | .statKey => Cache.statKey keyPrefix key.id
  | .lbWrrCurrent => lbWrrCurrent keyPrefix key.id
  | .lbConnections => lbConnections keyPrefix key.id
  | .lbLatencyEma => lbLatencyEma keyPrefix key.id
  | .spendKey => spendKey keyPrefix key.id

namespace KeyFamily

/-- What stands before the id. -/
def word : KeyFamily → String
  | .authKey => "auth:"
  | .cbState | .cbFailures | .cbOpenedAt | .cbHalfSuccesses | .cbHalfProbes => "cb:"
  | .rateLimitRpm => "rl:rpm:"
  | .rateLimitTpm => "rl:tpm:"
  | .rateLimitTpmSum => "rl:tpmsum:"
  | .rateLimitBurst => "rl:burst:"
  | .cacheEntry => "cache:"
  | .statKey => "cstats:"
  | .lbWrrCurrent => "lb:wrr:"
  | .lbConnections => "lb:conn:"
  | .lbLatencyEma => "lb:lat:"
  | .spendKey => "spend:"

/-- What stands behind the id. -/
def ending : KeyFamily → String
  | .cbState => ":state"
  | .cbFailures => ":failures"
  | .cbOpenedAt => ":opened_at"
  | .cbHalfSuccesses => ":half_successes"
  | .cbHalfProbes => ":half_probes"
  | _ => ""

/-- The words of two families begin differently, or the families have the same word
and their endings end differently. -/
def Apart (family other : KeyFamily) : Prop :=
  (¬ family.word.toList <+: other.word.toList ∧
      ¬ other.word.toList <+: family.word.toList) ∨
    (¬ family.ending.toList <:+ other.ending.toList ∧
      ¬ other.ending.toList <:+ family.ending.toList)

instance (family other : KeyFamily) : Decidable (Apart family other) :=
  inferInstanceAs (Decidable (_ ∨ _))

theorem apart_of_ne {family other : KeyFamily} (differ : family ≠ other) :
    Apart family other := by
  revert differ
  cases family <;> cases other <;> decide

end KeyFamily

namespace RedisKey

variable {keyPrefix : String}

theorem toList_name (key : RedisKey) :
    (key.name keyPrefix).toList = keyPrefix.toList ++
      (key.family.word.toList ++ (key.id.toList ++ key.family.ending.toList)) := by
  obtain ⟨family, id⟩ := key
  cases family <;>
    simp [name, KeyFamily.word, KeyFamily.ending, Auth.authKey,
      CircuitBreaker.cbState, CircuitBreaker.cbFailures, CircuitBreaker.cbOpenedAt,
      cbHalfSuccesses, cbHalfProbes, rateLimitRpm, rateLimitTpm, rateLimitTpmSum,
      rateLimitBurst, Cache.cacheEntry, Cache.statKey, lbWrrCurrent, lbConnections,
      lbLatencyEma, spendKey, String.toList_append]

/-- Keys with the same name are the same, whatever their ids are. -/
theorem name_injective : Function.Injective (name keyPrefix) := by
  intro key other sameName
  have same := congrArg String.toList sameName
  rw [toList_name, toList_name, List.append_cancel_left_eq] at same
  have sameFamily : key.family = other.family := by
    by_contra differ
    rcases KeyFamily.apart_of_ne differ with ⟨notBefore, notBehind⟩ | ⟨notEnd, notEndOf⟩
    · have begins := List.prefix_append key.family.word.toList
        (key.id.toList ++ key.family.ending.toList)
      rw [same] at begins
      rcases List.prefix_or_prefix_of_prefix begins (List.prefix_append _ _) with
        before | behind
      · exact notBefore before
      · exact notBehind behind
    · have ends := List.suffix_append (key.family.word.toList ++ key.id.toList)
        key.family.ending.toList
      rw [List.append_assoc, same, ← List.append_assoc] at ends
      rcases List.suffix_or_suffix_of_suffix ends (List.suffix_append _ _) with
        isEnd | isEndOf
      · exact notEnd isEnd
      · exact notEndOf isEndOf
  rw [sameFamily, List.append_cancel_left_eq, List.append_cancel_right_eq] at same
  obtain ⟨family, id⟩ := key
  obtain rfl : family = other.family := sameFamily
  obtain rfl : id = other.id := String.toList_inj.1 same
  rfl

end RedisKey

end Database
end AiGateway
