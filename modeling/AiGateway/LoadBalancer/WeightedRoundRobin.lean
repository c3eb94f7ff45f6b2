import AiGateway.Foundations.FirstMax
import AiGateway.Foundations.Hash
import AiGateway.Foundations.Runs
import AiGateway.LoadBalancer.Shared
import Mathlib.Algebra.BigOperators.Group.List.Basic
import Mathlib.Algebra.Order.Ring.Int
import Mathlib.Data.List.Induction
import Mathlib.Data.List.Nodup
import Mathlib.Logic.Function.Basic

/-!
# Smooth weighted round-robin

A selection adds to the current weight of every candidate its weight, picks the
first candidate with the largest current weight, and takes the total from the
one it picked. The current weights of a set of candidates are a hash in Redis
that lapses five minutes after the last selection. When Redis does not answer, a
candidate is drawn with a probability proportional to its weight.
-/

namespace AiGateway
namespace LoadBalancer

open Foundations

section Model

/-- How long a candidate set's state survives without selections. -/
def wrrStateTtlMs : Nat := 300000

/-- `Math.max(0, Math.trunc(candidate.weight))`; weights are integers. -/
def Candidate.share (candidate : Candidate) : Int := max 0 candidate.weight

/-- The arguments of the script for a candidate. -/
def Candidate.argument (candidate : Candidate) : String × Int :=
  (candidate.id, candidate.share)

/-- The variables of the loop of the script, and the hash. -/
structure Scan where
  total : Int := 0
  /-- `bestId` and `bestCw`. -/
  best : Option (String × Int) := none
  key : Key (Hash String Int)

/-- The stored current weight of a candidate. -/
def currentWeight (clock : Nat) (key : Key (Hash String Int)) (id : String) :
    Int :=
  (key.hget clock id).getD 0

/-- The body of the loop of the script. -/
def Scan.visit (clock : Nat) (scan : Scan) (argument : String × Int) : Scan :=
  let (id, weight) := argument
  let current := currentWeight clock scan.key id + weight
  { total := scan.total + weight
    key := scan.key.hset clock id current
    best :=
      match scan.best with
      | none => some (id, current)
      | some (bestId, bestCurrent) =>
          if bestCurrent < current then some (id, current)
          else some (bestId, bestCurrent) }

/-- `SMOOTH_WRR_LUA`, run at `clock`: the id it returns and the hash it leaves. -/
def smoothWrrLua
    (clock ttl : Nat)
    (arguments : List (String × Int))
    (key : Key (Hash String Int)) : Option String × Key (Hash String Int) :=
  let scan := arguments.foldl (Scan.visit clock) { key := key }
  match scan.best with
  | none => (none, scan.key)
  | some (bestId, _) =>
      (some bestId,
        (scan.key.hincrBy clock bestId (-scan.total)).pexpire clock ttl)

/-- The loop of `weightedRandom`: the first candidate that takes the target
below zero. -/
def weightedRandomLoop : Int → List Candidate → Option Candidate
  | _, [] => none
  | target, candidate :: candidates =>
      if target - candidate.share < 0 then some candidate
      else weightedRandomLoop (target - candidate.share) candidates

/-- `weightedRandom(candidates)`. -/
def weightedRandom (draw : Nat) (candidates : List Candidate) :
    Option Candidate :=
  let total := (candidates.map Candidate.share).sum
  if total ≤ 0 then candidates[secureRandomInt draw candidates.length]?
  else
    (weightedRandomLoop (secureRandomInt draw total.toNat) candidates).or
      candidates.getLast?

/-- The hashes in Redis. -/
abbrev Hashes := String → Key (Hash String Int)

variable (functions : KeyFunctions)

/-- The name of the hash of a list of candidates. -/
def wrrKey (candidates : List Candidate) : String :=
  lbWrrCurrent functions (candidateSetKey functions candidates)

/-- A run of the script for a list of candidates. -/
def runScript (clock : Nat) (candidates : List Candidate) (hashes : Hashes) :
    Option String × Key (Hash String Int) :=
  smoothWrrLua clock wrrStateTtlMs (candidates.map Candidate.argument)
    (hashes (wrrKey functions candidates))

/-- `select(candidates)`, with the draw of the fallback. -/
def select
    (clock draw : Nat)
    (call : ScriptCall)
    (candidates : List Candidate)
    (hashes : Hashes) : Except EmptyCandidatesError (Option Candidate) × Hashes :=
  match candidates with
  | [] => (.error {}, hashes)
  | list =>
      let result := runScript functions clock list hashes
      let written := Function.update hashes (wrrKey functions list) result.2
      let chosen := result.1.bind fun chosenId =>
        list.find? fun candidate => candidate.id = chosenId
      match call with
      | .answered => (.ok (chosen.or (weightedRandom draw list)), written)
      | .answerLost => (.ok (weightedRandom draw list), written)
      | .notRun => (.ok (weightedRandom draw list), hashes)

end Model

/-- The sum when one of the entries pays an amount. -/
theorem sum_map_pays
    {α : Type u}
    [DecidableEq α]
    (value : α → Int)
    (amount : Int)
    {entries : List α}
    {payer : α}
    (distinct : entries.Nodup)
    (isEntry : payer ∈ entries) :
    (entries.map fun entry =>
        if entry = payer then value entry - amount else value entry).sum =
      (entries.map value).sum - amount := by
  rw [List.sum_map_ite_eq, List.count_eq_one_of_mem distinct isEntry, one_nsmul]
  omega

section Script

variable (clock : Nat) (key : Key (Hash String Int))

@[simp] theorem currentWeight_none (id : String) :
    currentWeight clock none id = 0 := rfl

theorem currentWeight_hset (id other : String) (weight : Int) :
    currentWeight clock (key.hset clock id weight) other =
      if other = id then weight else currentWeight clock key other := by
  rw [currentWeight, Key.hget_hset]
  split_ifs
  · rfl
  · rfl

theorem currentWeight_hincrBy (id other : String) (amount : Int) :
    currentWeight clock (key.hincrBy clock id amount) other =
      if other = id then currentWeight clock key id + amount
      else currentWeight clock key other := by
  rw [currentWeight, Key.hget_hincrBy]
  split_ifs
  · rfl
  · rfl

theorem currentWeight_pexpire (ttl later : Nat) (id : String) :
    currentWeight later (key.pexpire clock ttl) id =
      if later < clock + ttl then currentWeight clock key id else 0 := by
  rw [currentWeight, Key.hget_pexpire]
  split_ifs
  · rfl
  · rfl

/-- The current weight of a candidate when the script compares it. -/
def raisedWeight (argument : String × Int) : Int :=
  currentWeight clock key argument.1 + argument.2

/-- What the loop of the script has done for the arguments it visited. -/
structure Scanned (arguments : List (String × Int)) (scan : Scan) : Prop where
  total : scan.total = (arguments.map Prod.snd).sum
  visited : ∀ argument ∈ arguments,
    currentWeight clock scan.key argument.1 = raisedWeight clock key argument
  others : ∀ id ∉ arguments.map Prod.fst,
    currentWeight clock scan.key id = currentWeight clock key id
  isEmpty : scan.best = none → arguments = []
  best : ∀ best ∈ scan.best, ∃ weight,
    IsFirstMax (raisedWeight clock key) arguments (best.1, weight) ∧
      best.2 = raisedWeight clock key (best.1, weight)

variable {clock key}

/-- One more argument. -/
theorem Scanned.visit
    {arguments : List (String × Int)}
    {scan : Scan}
    (scanned : Scanned clock key arguments scan)
    {argument : String × Int}
    (isNew : argument.1 ∉ arguments.map Prod.fst) :
    Scanned clock key (arguments ++ [argument]) (scan.visit clock argument) := by
  obtain ⟨id, weight⟩ := argument
  have current : currentWeight clock scan.key id + weight =
      raisedWeight clock key (id, weight) := by
    rw [scanned.others id isNew, raisedWeight]
  refine ⟨?_, fun other isOther => ?_, fun other isOther => ?_, ?_, ?_⟩
  · simp [Scan.visit, scanned.total]
  · rw [List.mem_append, List.mem_singleton] at isOther
    rw [Scan.visit, currentWeight_hset]
    rcases isOther with isOld | rfl
    · have isKey : other.1 ∈ arguments.map Prod.fst := List.mem_map_of_mem isOld
      have different : other.1 ≠ id := by
        intro same
        rw [same] at isKey
        exact isNew isKey
      rw [if_neg different, scanned.visited other isOld]
    · rw [if_pos rfl, current]
  · rw [List.map_append, List.mem_append, not_or] at isOther
    have different : other ≠ id := fun same => isOther.2 (by simp [same])
    rw [Scan.visit, currentWeight_hset, if_neg different,
      scanned.others other isOther.1]
  · cases best : scan.best with
    | none => simp [Scan.visit, best]
    | some old =>
        simp only [Scan.visit, best]
        split_ifs <;> simp
  · intro best isBest
    cases stored : scan.best with
    | none =>
        rw [scanned.isEmpty stored, List.nil_append]
        simp only [Scan.visit, stored, Option.mem_def, Option.some_inj] at isBest
        subst isBest
        exact ⟨weight, isFirstMax_singleton _, current⟩
    | some old =>
        obtain ⟨oldWeight, isFirst, oldCurrent⟩ := scanned.best old stored
        simp only [Scan.visit, stored, Option.mem_def] at isBest
        rw [oldCurrent, current] at isBest
        split_ifs at isBest with above
        · cases isBest
          exact ⟨weight, isFirst.append_larger above, rfl⟩
        · cases isBest
          exact ⟨oldWeight, isFirst.append (Int.not_lt.1 above), rfl⟩

/-- The loop over all arguments. -/
theorem scanned_foldl
    (arguments : List (String × Int))
    (distinct : (arguments.map Prod.fst).Nodup) :
    Scanned clock key arguments
      (arguments.foldl (Scan.visit clock) { key := key }) := by
  induction arguments using List.reverseRecOn with
  | nil => exact ⟨rfl, by simp, fun _ _ => rfl, fun _ => rfl, by simp⟩
  | append_singleton arguments argument inductionHypothesis =>
      rw [List.map_append, List.nodup_append] at distinct
      rw [List.foldl_concat]
      refine (inductionHypothesis distinct.1).visit fun isOld => ?_
      exact distinct.2.2 argument.1 isOld argument.1 (by simp) rfl

/-- What a run of the script does, given the candidate it picks. -/
structure Picks
    (clock ttl : Nat)
    (key : Key (Hash String Int))
    (arguments : List (String × Int))
    (best : String × Int) : Prop where
  /-- The first of those with the largest raised weight is picked. -/
  isFirst : IsFirstMax (raisedWeight clock key) arguments best
  answer : (smoothWrrLua clock ttl arguments key).1 = some best.1
  /-- The one that is picked pays the total; later all weights lapse. -/
  stored : ∀ later, ∀ argument ∈ arguments,
    currentWeight later (smoothWrrLua clock ttl arguments key).2 argument.1 =
      if later < clock + ttl then
        if argument = best then
          raisedWeight clock key argument - (arguments.map Prod.snd).sum
        else raisedWeight clock key argument
      else 0

/-- A run for a nonempty list of distinct candidates picks one. -/
theorem exists_picks
    (ttl : Nat)
    {arguments : List (String × Int)}
    (nonempty : arguments ≠ [])
    (distinct : (arguments.map Prod.fst).Nodup) :
    ∃ best, Picks clock ttl key arguments best := by
  have scanned : Scanned clock key arguments
      (arguments.foldl (Scan.visit clock) { key := key }) :=
    scanned_foldl arguments distinct
  cases stored : (arguments.foldl (Scan.visit clock) { key := key }).best with
  | none => exact absurd (scanned.isEmpty stored) nonempty
  | some found =>
      obtain ⟨bestId, bestCurrent⟩ := found
      obtain ⟨weight, isFirst, -⟩ := scanned.best _ stored
      refine ⟨(bestId, weight), isFirst, ?_, fun later argument isArgument => ?_⟩
      · rw [smoothWrrLua, stored]
      · have isBest : argument.1 = bestId ↔ argument = (bestId, weight) :=
          ⟨fun same => List.inj_on_of_nodup_map distinct isArgument isFirst.mem
            same, fun same => by rw [same]⟩
        simp only [smoothWrrLua, stored, currentWeight_pexpire,
          currentWeight_hincrBy, isBest]
        split_ifs with alive picked
        · rw [scanned.visited (bestId, weight) isFirst.mem, scanned.total, picked,
            Int.sub_eq_add_neg]
        · exact scanned.visited argument isArgument
        · rfl

/-- Candidates of weights five, one and one. -/
example :
    let arguments := [("A", 5), ("B", 1), ("C", 1)]
    answersFrom
        (fun key (_ : Unit) => (smoothWrrLua 0 wrrStateTtlMs arguments key).2)
        (fun key _ => (smoothWrrLua 0 wrrStateTtlMs arguments key).1)
        none (.replicate 7 ()) =
      ["A", "A", "B", "A", "C", "A", "A"].map some := by
  decide

/-- A run keeps the sum of the current weights, as long as they last. -/
theorem Picks.sum_currentWeight
    {ttl : Nat}
    {arguments : List (String × Int)}
    {best : String × Int}
    (picks : Picks clock ttl key arguments best)
    (distinct : arguments.Nodup)
    (later : Nat) :
    (arguments.map fun argument => currentWeight later
        (smoothWrrLua clock ttl arguments key).2 argument.1).sum =
      if later < clock + ttl then
        (arguments.map fun argument => currentWeight clock key argument.1).sum
      else 0 := by
  rw [List.map_congr_left (picks.stored later)]
  split_ifs with alive
  · have raised : (arguments.map (raisedWeight clock key)).sum =
        (arguments.map fun argument => currentWeight clock key argument.1).sum +
          (arguments.map Prod.snd).sum := List.sum_map_add
    rw [sum_map_pays _ _ distinct picks.isFirst.mem, raised]
    omega
  · simp

end Script

section Fallback

/-- The loop of the fallback ends at a candidate of positive weight when the
target is below the total. -/
theorem exists_weightedRandomLoop
    {target : Int}
    {candidates : List Candidate}
    (nonnegative : 0 ≤ target)
    (below : target < (candidates.map Candidate.share).sum) :
    ∃ candidate ∈ candidates,
      weightedRandomLoop target candidates = some candidate ∧
        0 < candidate.share := by
  induction candidates generalizing target with
  | nil =>
      simp only [List.map_nil, List.sum_nil] at below
      omega
  | cons candidate candidates inductionHypothesis =>
      rw [weightedRandomLoop]
      split_ifs with here
      · exact ⟨candidate, List.mem_cons_self, rfl, by omega⟩
      · rw [List.map_cons, List.sum_cons] at below
        obtain ⟨chosen, isCandidate, found, positive⟩ :=
          inductionHypothesis (by omega : 0 ≤ target - candidate.share)
            (by omega)
        exact ⟨chosen, List.mem_cons_of_mem _ isCandidate, found, positive⟩

theorem Candidate.share_nonneg (candidate : Candidate) : 0 ≤ candidate.share :=
  Int.le_max_left _ _

/-- The fallback draws a candidate of positive weight if there is one. -/
theorem exists_weightedRandom
    (draw : Nat)
    {candidates : List Candidate}
    (positive : 0 < (candidates.map Candidate.share).sum) :
    ∃ candidate ∈ candidates,
      weightedRandom draw candidates = some candidate ∧ 0 < candidate.share := by
  let total := (candidates.map Candidate.share).sum
  have below : (secureRandomInt draw total.toNat : Int) < total := by
    have bound : secureRandomInt draw total.toNat < total.toNat :=
      Nat.mod_lt draw (Int.pos_iff_toNat_pos.1 positive)
    omega
  obtain ⟨candidate, isCandidate, found, isPositive⟩ :=
    exists_weightedRandomLoop (Int.natCast_nonneg _) below
  refine ⟨candidate, isCandidate, ?_, isPositive⟩
  simp only [weightedRandom]
  rw [if_neg (by omega), found, Option.some_or]

end Fallback

section Select

variable {functions : KeyFunctions} {clock draw : Nat} {call : ScriptCall}
  {candidates : List Candidate} {hashes : Hashes}

/-- The hashes that a call of `select` leaves. -/
theorem select_hashes :
    (select functions clock draw call candidates hashes).2 =
      if candidates = [] ∨ call = .notRun then hashes
      else Function.update hashes (wrrKey functions candidates)
        (runScript functions clock candidates hashes).2 := by
  cases candidates with
  | nil => rfl
  | cons first rest => cases call <;> rfl

/-- The candidate that a call of `select` returns comes from the script, or is
drawn. -/
theorem select_candidate
    {candidate : Candidate}
    (returned : (select functions clock draw call candidates hashes).1.toOption =
      some (some candidate)) :
    (call = .answered ∧
        (runScript functions clock candidates hashes).1 = some candidate.id) ∨
      weightedRandom draw candidates = some candidate := by
  cases candidates with
  | nil => cases returned
  | cons first rest =>
      cases call with
      | answered =>
          replace returned := Option.some_inj.1 returned
          rcases Option.or_eq_some_iff.1 returned with found | ⟨-, drawn⟩
          · obtain ⟨chosenId, answer, isFound⟩ := Option.bind_eq_some_iff.1 found
            have isChosen := List.find?_some isFound
            rw [decide_eq_true_eq] at isChosen
            exact .inl ⟨rfl, by rw [answer, isChosen]⟩
          · exact .inr drawn
      | answerLost => exact .inr (Option.some_inj.1 returned)
      | notRun => exact .inr (Option.some_inj.1 returned)

end Select

end LoadBalancer
end AiGateway
