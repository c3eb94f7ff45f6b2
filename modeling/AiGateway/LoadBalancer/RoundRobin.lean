import AiGateway.Foundations.Rotation
import AiGateway.Foundations.Runs
import AiGateway.LoadBalancer.Shared
import Mathlib.Data.List.Range
import Mathlib.Logic.Function.Basic

/-!
# Round-robin

A strategy keeps, for every set of candidates, a counter in memory, and selects
the candidate at the counter modulo their number. The counter is reduced modulo
`Number.MAX_SAFE_INTEGER`, which is to keep the rotation phase. It does so only
for as many candidates as divide that number; the main theorem tells which runs
of selections rotate.
-/

namespace AiGateway
namespace LoadBalancer
namespace RoundRobin

open Foundations

section Model

/-- `Number.MAX_SAFE_INTEGER`. -/
def maxSafeInteger : Nat := 2 ^ 53 - 1

/-- The map `counters` of a strategy. -/
abbrev Counters := String → Option Nat

/-- The counters of a new strategy. -/
def newCounters : Counters := fun _ => none

variable (functions : KeyFunctions)

/-- `current`: the counter of a set of candidates. -/
def current (candidates : List Candidate) (counters : Counters) : Nat :=
  (counters (candidateSetKey functions candidates)).getD 0

/-- `index`: the position that is selected. -/
def index (candidates : List Candidate) (counters : Counters) : Nat :=
  current functions candidates counters % candidates.length

/-- `select(candidates)`: what it answers, and the counters it leaves. -/
def select (candidates : List Candidate) (counters : Counters) :
    Except EmptyCandidatesError (Option Candidate) × Counters :=
  match candidates with
  | [] => (.error {}, counters)
  | list =>
      (.ok list[index functions list counters]?,
        Function.update counters (candidateSetKey functions list)
          (some ((current functions list counters + 1) % maxSafeInteger)))

/-- The counters after a call of `select`. -/
def step (counters : Counters) (candidates : List Candidate) : Counters :=
  (select functions candidates counters).2

/-- The counters of a strategy after its calls of `select`, for any lists. -/
def countersAfter (calls : List (List Candidate)) : Counters :=
  runFrom (step functions) newCounters calls

/-- What `select` answers when it is called again and again for one list. -/
def selections
    (counters : Counters)
    (candidates : List Candidate)
    (calls : Nat) : List (Except EmptyCandidatesError (Option Candidate)) :=
  answersFrom (step functions)
    (fun counters candidates => (select functions candidates counters).1)
    counters (.replicate calls candidates)

/-- The positions that these calls select. -/
def positions
    (counters : Counters)
    (candidates : List Candidate)
    (calls : Nat) : List Nat :=
  answersFrom (step functions)
    (fun counters candidates => index functions candidates counters)
    counters (.replicate calls candidates)

end Model

section Selection

variable {functions : KeyFunctions} {candidates : List Candidate}
  {counters : Counters}

/-- What a call for a nonempty list does. -/
theorem select_of_ne_nil (nonempty : candidates ≠ []) :
    select functions candidates counters =
      (.ok candidates[index functions candidates counters]?,
        Function.update counters (candidateSetKey functions candidates)
          (some ((current functions candidates counters + 1) %
            maxSafeInteger))) := by
  cases candidates with
  | nil => exact absurd rfl nonempty
  | cons first rest => rfl

theorem step_of_ne_nil (nonempty : candidates ≠ []) :
    step functions counters candidates =
      Function.update counters (candidateSetKey functions candidates)
        (some ((current functions candidates counters + 1) %
          maxSafeInteger)) := by
  rw [step, select_of_ne_nil nonempty]

theorem current_step (nonempty : candidates ≠ []) :
    current functions candidates (step functions counters candidates) =
      (current functions candidates counters + 1) % maxSafeInteger := by
  rw [current, step_of_ne_nil nonempty, Function.update_self, Option.getD_some]

theorem index_lt (nonempty : candidates ≠ []) :
    index functions candidates counters < candidates.length :=
  Nat.mod_lt _ (List.length_pos_of_ne_nil nonempty)

/-- The counters are below the bound at which they start again. -/
def Bounded (counters : Counters) : Prop :=
  ∀ key, ∀ counter ∈ counters key, counter < maxSafeInteger

theorem Bounded.step
    (bounded : Bounded counters)
    (candidates : List Candidate) :
    Bounded (step functions counters candidates) := by
  cases candidates with
  | nil => exact bounded
  | cons first rest =>
      intro key counter isCounter
      rw [step_of_ne_nil (List.cons_ne_nil first rest),
        Function.update_apply] at isCounter
      split_ifs at isCounter
      · cases isCounter
        exact Nat.mod_lt _ (by decide)
      · exact bounded key counter isCounter

theorem bounded_newCounters : Bounded newCounters := by
  intro key counter isCounter
  cases isCounter

/-- The counters of every strategy are bounded. -/
theorem bounded_countersAfter (calls : List (List Candidate)) :
    Bounded (countersAfter functions calls) := by
  apply runFrom_induction Bounded
  · intro counters candidates _ bounded
    exact bounded.step candidates
  · exact bounded_newCounters

theorem Bounded.current_lt (bounded : Bounded counters) :
    current functions candidates counters < maxSafeInteger := by
  cases stored : counters (candidateSetKey functions candidates) with
  | none =>
      rw [current, stored]
      decide
  | some counter =>
      rw [current, stored]
      exact bounded _ counter stored

/-- The counter after some calls for one list. -/
theorem current_replicate
    (nonempty : candidates ≠ [])
    (bounded : Bounded counters)
    (calls : Nat) :
    current functions candidates
        (runFrom (step functions) counters (.replicate calls candidates)) =
      (current functions candidates counters + calls) % maxSafeInteger := by
  induction calls with
  | zero => exact (Nat.mod_eq_of_lt bounded.current_lt).symm
  | succ calls inductionHypothesis =>
      rw [List.replicate_succ', runFrom_concat, current_step nonempty,
        inductionHypothesis, Nat.mod_add_mod, Nat.add_assoc]

/-- The answers are the candidates at the positions. -/
theorem selections_eq_map (nonempty : candidates ≠ []) (calls : Nat) :
    selections functions counters candidates calls =
      (positions functions counters candidates calls).map
        fun position => .ok candidates[position]? := by
  rw [selections, positions, answersFrom_replicate, answersFrom_replicate,
    List.map_map]
  apply List.map_congr_left
  intro turn _
  rw [select_of_ne_nil nonempty]
  rfl

/-- The positions are the counters, modulo the number of candidates. -/
theorem positions_eq_map
    (nonempty : candidates ≠ [])
    (bounded : Bounded counters)
    (calls : Nat) :
    positions functions counters candidates calls =
      (List.range calls).map fun turn =>
        (current functions candidates counters + turn) % maxSafeInteger %
          candidates.length := by
  rw [positions, answersFrom_replicate]
  apply List.map_congr_left
  intro turn _
  rw [index, current_replicate nonempty bounded]

theorem lt_of_mem_positions
    (nonempty : candidates ≠ [])
    {calls position : Nat}
    (isPosition : position ∈ positions functions counters candidates calls) :
    position < candidates.length := by
  rw [positions, answersFrom_replicate, List.mem_map] at isPosition
  obtain ⟨turn, -, rfl⟩ := isPosition
  exact index_lt nonempty

end Selection

section Rotation

variable {functions : KeyFunctions} {candidates : List Candidate}
  {counters : Counters}

/-- One more call selects the cyclic successor, unless the counter starts again
and the number of candidates does not divide its bound. -/
theorem mod_mod_eq_cyclicSuccessor_iff
    {size counter : Nat}
    (below : counter < maxSafeInteger) :
    (counter + 1) % maxSafeInteger % size =
        cyclicSuccessor size (counter % size) ↔
      size ∣ maxSafeInteger ∨ counter + 1 < maxSafeInteger := by
  rw [cyclicSuccessor, Nat.mod_add_mod]
  rcases Nat.lt_or_ge (counter + 1) maxSafeInteger with goesOn | startsAgain
  · rw [Nat.mod_eq_of_lt goesOn]
    exact iff_of_true rfl (.inr goesOn)
  · have last : counter + 1 = maxSafeInteger := by omega
    rw [last, Nat.mod_self, Nat.zero_mod, Nat.dvd_iff_mod_eq_zero, eq_comm]
    simp

/-- The calls for a list rotate through it unless the counter starts again among
them and the number of candidates does not divide its bound. -/
theorem rotates_positions_iff
    (nonempty : candidates ≠ [])
    (bounded : Bounded counters)
    (calls : Nat) :
    Rotates candidates.length
        (positions functions counters candidates calls) ↔
      candidates.length ∣ maxSafeInteger ∨
        current functions candidates counters + calls ≤ maxSafeInteger := by
  have start : current functions candidates counters < maxSafeInteger :=
    bounded.current_lt
  rw [positions_eq_map nonempty bounded, Rotates, List.isChain_map]
  cases calls with
  | zero => exact iff_of_true .nil (.inr (by omega))
  | succ calls =>
      rw [List.isChain_range_succ]
      constructor
      · intro rotates
        by_contra wraps
        rw [not_or] at wraps
        -- The counter is at its last value just before this turn.
        let turn := maxSafeInteger - 1 - current functions candidates counters
        have next := rotates turn (by omega)
        have last : current functions candidates counters + turn <
            maxSafeInteger := by omega
        rw [Nat.mod_eq_of_lt last] at next
        have goesOn := (mod_mod_eq_cyclicSuccessor_iff last).1 next
        rcases goesOn with divides | goesOn
        · exact wraps.1 divides
        · omega
      · intro allowed turn isTurn
        have below : (current functions candidates counters + turn) %
            maxSafeInteger < maxSafeInteger := Nat.mod_lt _ (by decide)
        rw [Nat.succ_eq_add_one, ← Nat.add_assoc, ← Nat.mod_add_mod]
        apply (mod_mod_eq_cyclicSuccessor_iff below).2
        apply allowed.imp_right
        intro short
        rw [Nat.mod_eq_of_lt (by omega)]
        omega

/-- The calls for a list take turns when they rotate through it. -/
theorem takesTurns_positions
    (nonempty : candidates ≠ [])
    {calls : Nat}
    (rotates : Rotates candidates.length
      (positions functions counters candidates calls)) :
    TakesTurns candidates.length
      (positions functions counters candidates calls) :=
  rotates.takesTurns fun _ isPosition => lt_of_mem_positions nonempty isPosition

/-- Whatever lists a strategy was called for before, the next calls for a list
select its candidates in rotation, and evenly in every stretch of calls, exactly
when the number of candidates divides the bound of the counter or the counter
does not start again before the last of these calls. -/
theorem selects_in_rotation_iff
    (functions : KeyFunctions)
    (earlier : List (List Candidate))
    {candidates : List Candidate}
    (nonempty : candidates ≠ [])
    (calls : Nat) :
    let counters := countersAfter functions earlier
    let selected := positions functions counters candidates calls
    selections functions counters candidates calls =
        (selected.map fun position => .ok candidates[position]?) ∧
      (Rotates candidates.length selected ∧
          TakesTurns candidates.length selected ↔
        candidates.length ∣ maxSafeInteger ∨
          current functions candidates counters + calls ≤ maxSafeInteger) := by
  intro counters selected
  have bounded : Bounded counters := bounded_countersAfter earlier
  refine ⟨selections_eq_map nonempty calls, ?_⟩
  rw [← rotates_positions_iff nonempty bounded]
  constructor
  · rintro ⟨rotates, -⟩
    exact rotates
  · intro rotates
    exact ⟨rotates, takesTurns_positions nonempty rotates⟩

end Rotation

section Wrap

/-- Functions of the platform for examples. -/
def plainKeys : KeyFunctions where
  localeCompare := compare
  sha256Hex := id
  defaultPrefix := ""

/-- Two candidates. -/
def pair : List Candidate := [⟨"a", 1⟩, ⟨"b", 1⟩]

theorem pair_ne_nil : pair ≠ [] := List.cons_ne_nil _ _

/-- The first thousand calls for two candidates rotate. -/
theorem pair_selects_in_rotation :
    Rotates 2 (positions plainKeys (countersAfter plainKeys []) pair 1000) ∧
      TakesTurns 2
        (positions plainKeys (countersAfter plainKeys []) pair 1000) :=
  (selects_in_rotation_iff plainKeys [] pair_ne_nil 1000).2.2 (.inr (by decide))

/-- The calls before the counter of the two candidates starts again. -/
def callsToWrap : List (List Candidate) := .replicate (maxSafeInteger - 1) pair

theorem current_callsToWrap :
    current plainKeys pair (countersAfter plainKeys callsToWrap) =
      maxSafeInteger - 1 := by
  have new : current plainKeys pair newCounters = 0 := rfl
  rw [countersAfter, callsToWrap, current_replicate pair_ne_nil bounded_newCounters,
    new, Nat.zero_add]
  exact Nat.mod_eq_of_lt (by decide)

/-- Where the counter starts again, the first of two candidates is selected
twice in a row. -/
theorem pair_repeats_at_wrap :
    let selected :=
      positions plainKeys (countersAfter plainKeys callsToWrap) pair 2
    selected = [0, 0] ∧ ¬ (Rotates 2 selected ∧ TakesTurns 2 selected) := by
  intro selected
  have twice : selected = [0, 0] := by
    rw [show selected = _ from positions_eq_map pair_ne_nil
      (bounded_countersAfter callsToWrap) 2, current_callsToWrap]
    decide
  rw [twice]
  refine ⟨rfl, ?_⟩
  rintro ⟨rotates, -⟩
  exact absurd (List.isChain_cons_cons.1 rotates).1 (by decide)

end Wrap

end RoundRobin
end LoadBalancer
end AiGateway
