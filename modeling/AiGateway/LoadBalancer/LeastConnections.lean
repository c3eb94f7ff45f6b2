import AiGateway.Foundations.Expiry
import AiGateway.Foundations.FirstMax
import AiGateway.LoadBalancer.Shared
import Mathlib.Data.List.Induction
import Mathlib.Logic.Function.Basic

/-!
# Least connections

A selection takes a slot on the first candidate with the smallest gauge: its gauge
is incremented and lapses ten minutes later, unless it is incremented again. A
release decrements a gauge that is positive. When Redis does not answer, some
candidate is picked.
-/

namespace AiGateway
namespace LoadBalancer
namespace LeastConnections

open Foundations

section Model

/-- `CONNECTION_TTL_MS`. -/
def connectionTtlMs : Nat := 600000

/-- The gauges in Redis, by the id of the provider that they are named after. -/
abbrev Gauges := String → Key Int

/-- `tonumber(redis.call('GET', key) or '0')` for the gauge of a provider. -/
def connections (clock : Nat) (gauges : Gauges) (id : String) : Int :=
  ((gauges id).read clock).getD 0

/-- The body of the loop of the script, with `minIdx` as the id at it. -/
def leastVisit
    (clock : Nat)
    (gauges : Gauges)
    (least : Option (String × Int))
    (id : String) : Option (String × Int) :=
  let value := connections clock gauges id
  match least with
  | none => some (id, value)
  | some (minId, minVal) =>
      if value < minVal then some (id, value) else some (minId, minVal)

/-- `SELECT_AND_ACQUIRE_LUA`: the id it returns and the gauges it leaves. -/
def selectAndAcquireLua
    (clock ttl : Nat)
    (ids : List String)
    (gauges : Gauges) : Option String × Gauges :=
  match ids.foldl (leastVisit clock gauges) none with
  | none => (none, gauges)
  | some (minId, _) =>
      (some minId,
        Function.update gauges minId
          (((gauges minId).incrBy clock 1).pexpire clock ttl))

/-- `RELEASE_LUA`: the number it returns and the gauge it leaves. -/
def releaseLua (clock : Nat) (gauge : Key Int) : Int × Key Int :=
  let value := (gauge.read clock).getD 0
  if 0 < value then (value - 1, gauge.incrBy clock (-1)) else (0, gauge)

/-- `select(candidates)`, with the draw of the fallback. -/
def select
    (clock draw : Nat)
    (call : ScriptCall)
    (candidates : List Candidate)
    (gauges : Gauges) : Except EmptyCandidatesError (Option Candidate) × Gauges :=
  match candidates with
  | [] => (.error {}, gauges)
  | list =>
      let result := selectAndAcquireLua clock connectionTtlMs
        (list.map Candidate.id) gauges
      let chosen := result.1.bind fun chosenId =>
        list.find? fun candidate => candidate.id = chosenId
      match call with
      | .answered => (.ok (chosen.or (cryptoPick draw list)), result.2)
      | .answerLost => (.ok (cryptoPick draw list), result.2)
      | .notRun => (.ok (cryptoPick draw list), gauges)

/-- `release(providerId)`; a failed call is only logged. -/
def release
    (clock : Nat)
    (call : ScriptCall)
    (providerId : String)
    (gauges : Gauges) : Gauges :=
  match call with
  | .notRun => gauges
  | _ =>
      Function.update gauges providerId
        (releaseLua clock (gauges providerId)).2

end Model

section Scripts

variable {clock : Nat} {gauges : Gauges}

/-- The loop of the script ends with the first of the smallest gauges. -/
theorem exists_foldl_leastVisit
    (clock : Nat)
    (gauges : Gauges)
    (ids : List String) :
    (ids = [] ∧ ids.foldl (leastVisit clock gauges) none = none) ∨
      ∃ minId, IsFirstMax (fun id => -connections clock gauges id) ids minId ∧
        ids.foldl (leastVisit clock gauges) none =
          some (minId, connections clock gauges minId) := by
  induction ids using List.reverseRecOn with
  | nil => exact .inl ⟨rfl, rfl⟩
  | append_singleton ids id inductionHypothesis =>
      rw [List.foldl_concat]
      right
      rcases inductionHypothesis with ⟨rfl, empty⟩ | ⟨minId, isFirst, found⟩
      · rw [empty]
        exact ⟨id, isFirstMax_singleton id, rfl⟩
      · rw [found, leastVisit]
        split_ifs with smaller
        · exact ⟨id, isFirst.append_larger (Int.neg_lt_neg smaller), rfl⟩
        · exact ⟨minId, isFirst.append (Int.neg_le_neg (Int.not_lt.1 smaller)), rfl⟩

/-- The gauge of a provider whose slot is taken. -/
def taken (clock : Nat) (gauges : Gauges) (id : String) : Key Int :=
  Key.setPx clock connectionTtlMs (connections clock gauges id + 1)

/-- While Redis answers, a selection takes a slot on a candidate with the smallest
gauge. -/
theorem select_answered
    (clock : Nat)
    (gauges : Gauges)
    (draw : Nat)
    {candidates : List Candidate}
    (nonempty : candidates ≠ []) :
    ∃ chosen ∈ candidates,
      (∀ other ∈ candidates,
        connections clock gauges chosen.id ≤ connections clock gauges other.id) ∧
      select clock draw .answered candidates gauges =
        (.ok (some chosen),
          Function.update gauges chosen.id (taken clock gauges chosen.id)) := by
  rcases exists_foldl_leastVisit clock gauges (candidates.map Candidate.id) with
    ⟨empty, -⟩ | ⟨minId, isFirst, found⟩
  · exact absurd (List.map_eq_nil_iff.1 empty) nonempty
  have isId : ∃ candidate ∈ candidates, candidate.id = minId :=
    List.mem_map.1 isFirst.mem
  obtain ⟨chosen, isChosen⟩ : ∃ chosen,
      candidates.find? (fun candidate => candidate.id = minId) = some chosen := by
    rw [← Option.isSome_iff_exists, List.find?_isSome]
    obtain ⟨candidate, isCandidate, same⟩ := isId
    exact ⟨candidate, isCandidate, decide_eq_true same⟩
  have sameId : chosen.id = minId := by
    have isFound := List.find?_some isChosen
    rwa [decide_eq_true_eq] at isFound
  refine ⟨chosen, List.mem_of_find?_eq_some isChosen, fun other isOther => ?_, ?_⟩
  · rw [sameId]
    exact Int.neg_le_neg_iff.1 (isFirst.le (List.mem_map_of_mem isOther))
  · have written : selectAndAcquireLua clock connectionTtlMs
        (candidates.map Candidate.id) gauges =
          (some minId, Function.update gauges minId (taken clock gauges minId)) := by
      simp only [selectAndAcquireLua, found, Key.pexpire_incrBy, taken,
        connections, Key.setPx]
    cases candidates with
    | nil => exact absurd rfl nonempty
    | cons first rest =>
        simp only [select, written, Option.bind_some, isChosen, Option.some_or,
          sameId]

/-- What a gauge reads after one was replaced. -/
theorem connections_update
    (later : Nat)
    (gauges : Gauges)
    (id other : String)
    (gauge : Key Int) :
    connections later (Function.update gauges id gauge) other =
      if other = id then (gauge.read later).getD 0
      else connections later gauges other := by
  rw [connections, Function.update_apply]
  split_ifs
  · rfl
  · rfl

/-- A gauge that is decremented loses one connection if it has any, and keeps its
deadline. -/
theorem releaseLua_cases (clock : Nat) (gauge : Key Int) :
    ((gauge.read clock).getD 0 ≤ 0 ∧ releaseLua clock gauge = (0, gauge)) ∨
      ∃ entry, gauge.visible clock = some entry ∧ 0 < entry.value ∧
        releaseLua clock gauge =
          (entry.value - 1, some { entry with value := entry.value - 1 }) := by
  rw [releaseLua]
  cases alive : gauge.visible clock with
  | none =>
      have value : (gauge.read clock).getD 0 = 0 := by
        rw [Key.read, alive]
        rfl
      rw [value]
      exact .inl ⟨Int.le_refl 0, rfl⟩
  | some entry =>
      have value : (gauge.read clock).getD 0 = entry.value := by
        rw [Key.read, alive]
        rfl
      rw [value]
      by_cases positive : 0 < entry.value
      · refine .inr ⟨entry, rfl, positive, ?_⟩
        simp only [positive, if_true, Key.incrBy, alive]
        rfl
      · exact .inl ⟨Int.not_lt.1 positive, if_neg positive⟩

end Scripts

end LeastConnections
end LoadBalancer
end AiGateway
