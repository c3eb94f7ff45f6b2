import Mathlib.Data.List.Basic

/-!
# Candidates of the load balancer

What all strategies share: the candidates they choose from, the error for an
empty list of them, and the fingerprint under which the state of a set of
candidates is kept.
-/

namespace AiGateway
namespace LoadBalancer

/-- What the strategies read of a `BaseProvider`. -/
structure Candidate where
  id : String
  weight : Int
  deriving DecidableEq, Repr

/-- `EmptyCandidatesError`. -/
structure EmptyCandidatesError where
  message : String := "Load balancer received an empty candidate list."
  deriving DecidableEq, Repr

/-- What becomes of the call of a strategy's script. -/
inductive ScriptCall
  | answered
  /-- The script ran, but the call failed. -/
  | answerLost
  | notRun
  deriving DecidableEq, Repr

/-- `secureRandomInt(maxExclusive)`: every number below the bound is that of
some draw. -/
def secureRandomInt (draw maxExclusive : Nat) : Nat := draw % maxExclusive

/-- `cryptoPick(candidates)`. -/
def cryptoPick (draw : Nat) (candidates : List Candidate) : Option Candidate :=
  candidates[secureRandomInt draw candidates.length]?

/-- The functions of the platform that a fingerprint is made with, and the
configured prefix of the keys. -/
structure KeyFunctions where
  localeCompare : String → String → Ordering
  sha256Hex : String → String
  defaultPrefix : String

variable (functions : KeyFunctions)

/-- `a.localeCompare(b)` puts the first id before the second or level with it. -/
def KeyFunctions.inOrder (left right : String) : Bool :=
  (functions.localeCompare left right).isLE

/-- `candidateSetKey(candidates)`. -/
def candidateSetKey (candidates : List Candidate) : String :=
  let ids := (candidates.map Candidate.id).mergeSort functions.inOrder
  ((functions.sha256Hex (String.intercalate "," ids)).take 16).toString

/-- `redisKeys.lbWrrCurrent(setKey)`. -/
def lbWrrCurrent (setKey : String) : String :=
  functions.defaultPrefix ++ "lb:wrr:" ++ setKey

/-- The sorted ids are in order. -/
theorem KeyFunctions.pairwise_inOrder
    [Std.TransCmp functions.localeCompare]
    (ids : List String) :
    (ids.mergeSort functions.inOrder).Pairwise
      fun left right => functions.inOrder left right := by
  refine List.pairwise_mergeSort (fun _ _ _ => Std.TransCmp.isLE_trans)
    (fun left right => ?_) ids
  have swapped : functions.localeCompare left right =
      (functions.localeCompare right left).swap := Std.OrientedCmp.eq_swap
  rw [KeyFunctions.inOrder, KeyFunctions.inOrder, swapped]
  cases functions.localeCompare right left <;> rfl

/-- The fingerprint does not depend on the order of the candidates, when the
comparison tells their ids apart. -/
theorem candidateSetKey_eq_of_perm
    [Std.TransCmp functions.localeCompare]
    {candidates others : List Candidate}
    (distinguished : ∀ left ∈ candidates, ∀ right ∈ candidates,
      functions.localeCompare left.id right.id = .eq → left.id = right.id)
    (sameSet : candidates.Perm others) :
    candidateSetKey functions candidates = candidateSetKey functions others := by
  have sameIds := (List.mergeSort_perm (candidates.map Candidate.id)
    functions.inOrder).trans ((sameSet.map Candidate.id).trans
      (List.mergeSort_perm _ functions.inOrder).symm)
  have sameOrder := sameIds.eq_of_pairwise
    (fun left right isLeft isRight before after => ?_)
    (functions.pairwise_inOrder _) (functions.pairwise_inOrder _)
  · rw [candidateSetKey, candidateSetKey, sameOrder]
  · rw [List.mem_mergeSort, List.mem_map] at isLeft isRight
    obtain ⟨candidate, isCandidate, rfl⟩ := isLeft
    obtain ⟨other, isOther, rfl⟩ := isRight
    exact distinguished candidate isCandidate other (sameSet.mem_iff.2 isOther)
      (Std.OrientedCmp.isLE_antisymm before after)

end LoadBalancer
end AiGateway
