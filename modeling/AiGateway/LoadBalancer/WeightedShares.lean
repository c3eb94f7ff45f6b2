import AiGateway.Foundations.Crossing
import AiGateway.LoadBalancer.WeightedRoundRobin
import Mathlib.Data.Rat.Floor
import Mathlib.Tactic.NormNum

/-!
# The shares of a weighted draw

When Redis does not answer, a provider is drawn: a random target below the sum of
the truncated weights is lowered by one weight after another until it is
negative. The providers here are of any type and their weights any numbers, as
`BaseProvider` has them; for candidates with integer weights the draw is
`weightedRandom`. A provider is reached by as many targets as its truncated
weight says, and no target passes them all. Sums are exact, as they are in doubles
up to the largest bound that `randomInt` takes.
-/

namespace AiGateway
namespace LoadBalancer

open Foundations

section Model

/-- `Math.trunc(weight)`. -/
def truncated (weight : ℚ) : Int := if 0 ≤ weight then ⌊weight⌋ else ⌈weight⌉

variable {α : Type u} (weight : α → ℚ)

/-- `Math.max(0, Math.trunc(c.weight))`. -/
def providerShare (provider : α) : Int := max 0 (truncated (weight provider))

/-- `total`. -/
def totalShare (providers : List α) : Int :=
  (providers.map (providerShare weight)).sum

/-- The loop of `weightedRandom`. -/
def drawLoop : Int → List α → Option α
  | _, [] => none
  | target, provider :: providers =>
      if target - providerShare weight provider < 0 then some provider
      else drawLoop (target - providerShare weight provider) providers

/-- `weightedRandom(candidates)`, for candidates of any type. -/
def drawProvider (draw : Nat) (providers : List α) : Option α :=
  if totalShare weight providers ≤ 0 then
    providers[secureRandomInt draw providers.length]?
  else
    (drawLoop weight
        (secureRandomInt draw (totalShare weight providers).toNat)
        providers).or
      providers.getLast?

/-- The position of the provider that the loop returns: the loop over the
providers with their positions. -/
def drawnPosition (target : Int) (providers : List α) : Option Nat :=
  (drawLoop (fun numbered : α × Nat => weight numbered.1) target
    providers.zipIdx).map Prod.snd

end Model

section Candidates

theorem providerShare_candidate (candidate : Candidate) :
    providerShare (fun candidate : Candidate => (candidate.weight : ℚ))
      candidate = candidate.share := by
  rw [providerShare, truncated, Candidate.share]
  split_ifs
  · rw [Int.floor_intCast]
  · rw [Int.ceil_intCast]

theorem drawLoop_candidates (target : Int) (candidates : List Candidate) :
    drawLoop (fun candidate : Candidate => (candidate.weight : ℚ)) target
      candidates = weightedRandomLoop target candidates := by
  induction candidates generalizing target with
  | nil => rfl
  | cons candidate candidates inductionHypothesis =>
      rw [drawLoop, weightedRandomLoop, providerShare_candidate,
        inductionHypothesis]

/-- For candidates with integer weights, the draw is `weightedRandom`. -/
theorem drawProvider_candidates (draw : Nat) (candidates : List Candidate) :
    drawProvider (fun candidate : Candidate => (candidate.weight : ℚ)) draw
      candidates = weightedRandom draw candidates := by
  have total : totalShare (fun candidate : Candidate => (candidate.weight : ℚ))
      candidates = (candidates.map Candidate.share).sum := by
    rw [totalShare]
    congr 2
    funext candidate
    exact providerShare_candidate candidate
  rw [drawProvider, weightedRandom, total, drawLoop_candidates]

end Candidates

section Shares

variable {α : Type u} (weight : α → ℚ) {providers : List α}

theorem providerShare_nonneg (provider : α) : 0 ≤ providerShare weight provider :=
  Int.le_max_left _ _

theorem shares_nonneg :
    ∀ share ∈ providers.map (providerShare weight), 0 ≤ share := by
  intro share isShare
  obtain ⟨provider, -, rfl⟩ := List.mem_map.1 isShare
  exact providerShare_nonneg weight provider

/-- The loop returns the provider at whose share the target is crossed. -/
theorem drawLoop_eq_crossing (target : Int) (providers : List α) :
    drawLoop weight target providers =
      (crossing target (providers.map (providerShare weight))).bind
        fun position => providers[position]? := by
  induction providers generalizing target with
  | nil => rfl
  | cons provider providers inductionHypothesis =>
      rw [drawLoop, List.map_cons, crossing]
      split_ifs with here
      · rfl
      · rw [inductionHypothesis, Option.bind_map]
        rfl

/-- The numbers of the providers are counted from `first` on. -/
theorem drawLoop_zipIdx (target : Int) (providers : List α) (first : Nat) :
    (drawLoop (fun numbered : α × Nat => weight numbered.1) target
        (providers.zipIdx first)).map Prod.snd =
      (crossing target (providers.map (providerShare weight))).map (first + ·) := by
  induction providers generalizing target first with
  | nil => rfl
  | cons provider providers inductionHypothesis =>
      have share : providerShare (fun numbered : α × Nat => weight numbered.1)
          (provider, first) = providerShare weight provider := rfl
      rw [List.zipIdx_cons, drawLoop, share, List.map_cons, crossing]
      split_ifs with here
      · rfl
      · rw [inductionHypothesis, Option.map_map]
        congr 1
        funext position
        rw [Function.comp_apply]
        omega

/-- The position that is drawn is that at whose share the target is crossed. -/
theorem drawnPosition_eq_crossing (target : Int) (providers : List α) :
    drawnPosition weight target providers =
      crossing target (providers.map (providerShare weight)) := by
  have unshifted : (fun position : Nat => 0 + position) = id := by
    funext position
    rw [Nat.zero_add, id]
  rw [drawnPosition, drawLoop_zipIdx, unshifted, Option.map_id, id]

/-- The loop returns the provider at the position that is drawn. -/
theorem drawLoop_eq_drawnPosition (target : Int) (providers : List α) :
    drawLoop weight target providers =
      (drawnPosition weight target providers).bind
        fun position => providers[position]? := by
  rw [drawnPosition_eq_crossing, drawLoop_eq_crossing]

/-- As many targets reach a provider as its share. -/
theorem count_drawnPosition
    {position : Nat}
    (isPosition : position < providers.length) :
    (Nat.count
        (fun target => drawnPosition weight target providers = some position)
        (totalShare weight providers).toNat : Int) =
      providerShare weight providers[position] := by
  simp only [drawnPosition_eq_crossing]
  apply count_crossing (shares_nonneg weight)
  rw [List.getElem?_map, List.getElem?_eq_getElem isPosition, Option.map_some]

/-- Every target below the total reaches a provider of positive share. -/
theorem exists_drawnPosition
    {target : Nat}
    (below : target < totalShare weight providers) :
    ∃ position, ∃ isPosition : position < providers.length,
      drawnPosition weight target providers = some position ∧
        drawLoop weight target providers = some providers[position] ∧
        0 < providerShare weight providers[position] := by
  obtain ⟨position, crossed⟩ :=
    exists_crossing below (Int.natCast_nonneg target)
  have reached : drawnPosition weight target providers = some position := by
    rw [drawnPosition_eq_crossing, crossed]
  obtain ⟨share, isShare, before, after⟩ :=
    (crossing_eq_some_iff (shares_nonneg weight) (Int.natCast_nonneg target)).1
      crossed
  obtain ⟨provider, found, rfl⟩ :=
    Option.map_eq_some_iff.1 (List.getElem?_map.symm.trans isShare)
  obtain ⟨isPosition, rfl⟩ := List.getElem?_eq_some_iff.1 found
  refine ⟨position, isPosition, reached, ?_, by omega⟩
  rw [drawLoop_eq_drawnPosition, reached, Option.bind_some, found]

/-- When the truncated weights have a positive sum, the loop takes exactly as many
of the targets below it to a provider as its truncated weight says; every target
is taken to a provider, of positive weight; and so the draw is that of the loop,
not the last provider. -/
theorem targets_reach_shares
    (positive : 0 < totalShare weight providers) :
    (∀ position, ∀ isPosition : position < providers.length,
        (Nat.count
            (fun target => drawnPosition weight target providers = some position)
            (totalShare weight providers).toNat : Int) =
          providerShare weight providers[position]) ∧
      (∀ target : Nat, target < totalShare weight providers →
        ∃ position, ∃ isPosition : position < providers.length,
          drawnPosition weight target providers = some position ∧
            drawLoop weight target providers = some providers[position] ∧
            0 < providerShare weight providers[position]) ∧
      ∀ draw, drawProvider weight draw providers =
        drawLoop weight
          (secureRandomInt draw (totalShare weight providers).toNat)
          providers := by
  refine ⟨fun position isPosition => count_drawnPosition weight isPosition,
    fun target below => exists_drawnPosition weight below, fun draw => ?_⟩
  have bound : secureRandomInt draw (totalShare weight providers).toNat <
      (totalShare weight providers).toNat :=
    Nat.mod_lt draw (Int.pos_iff_toNat_pos.1 positive)
  have below : (secureRandomInt draw (totalShare weight providers).toNat : Int) <
      totalShare weight providers := Int.lt_toNat.1 bound
  obtain ⟨position, isPosition, -, returned, -⟩ :=
    exists_drawnPosition weight below
  rw [drawProvider, if_neg (Int.not_le.2 positive), returned, Option.some_or]

/-- Providers of weights one, two and a half, minus one and three. -/
theorem targets_reach_shares_of_four :
    let weights : List ℚ := [1, 5 / 2, -1, 3]
    (∀ position, ∀ isPosition : position < weights.length,
        (Nat.count
            (fun target => drawnPosition id target weights = some position)
            (totalShare id weights).toNat : Int) =
          providerShare id weights[position]) ∧
      (∀ target : Nat, target < totalShare id weights →
        ∃ position, ∃ isPosition : position < weights.length,
          drawnPosition id target weights = some position ∧
            drawLoop id target weights = some weights[position] ∧
            0 < providerShare id weights[position]) ∧
      ∀ draw, drawProvider id draw weights =
        drawLoop id (secureRandomInt draw (totalShare id weights).toNat)
          weights :=
  targets_reach_shares id
    (by norm_num [totalShare, providerShare, truncated])

end Shares

end LoadBalancer
end AiGateway
