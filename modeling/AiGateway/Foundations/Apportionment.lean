import AiGateway.Foundations.Runs
import Mathlib.Algebra.BigOperators.Group.Finset.Piecewise
import Mathlib.Algebra.Order.BigOperators.Group.Finset
import Mathlib.Algebra.Order.Ring.Int
import Mathlib.Data.List.Count

/-!
# Apportionment by turns

Parties of fixed weights take turns. At every turn each party is credited with
its weight, and a party with the largest credit takes the turn and pays the
total of the weights. No credit falls as low as minus the total, so after as many
turns as the total all credits are zero again and each party has taken as many
turns as its weight.
-/

namespace AiGateway
namespace Foundations

/-- The parties and their weights. -/
structure Shares (α : Type u) where
  parties : Finset α
  weight : α → Int
  nonneg : ∀ party ∈ parties, 0 ≤ weight party
  positive : 0 < ∑ party ∈ parties, weight party

namespace Shares

variable {α : Type u} (shares : Shares α)

/-- The total of the weights. -/
def total : Int := ∑ party ∈ shares.parties, shares.weight party

/-- The credit of a party when the turn is decided. -/
def raised (credit : α → Int) (party : α) : Int :=
  credit party + shares.weight party

/-- The party that takes the turn has the largest credit. -/
def Leads (credit : α → Int) (taker : α) : Prop :=
  taker ∈ shares.parties ∧
    ∀ party ∈ shares.parties,
      shares.raised credit party ≤ shares.raised credit taker

/-- The credits sum to zero and all lie above minus the total. -/
structure Balanced (credit : α → Int) : Prop where
  sum : ∑ party ∈ shares.parties, credit party = 0
  above : ∀ party ∈ shares.parties, -shares.total < credit party

theorem balanced_zero : shares.Balanced fun _ => 0 where
  sum := Finset.sum_const_zero
  above _ _ := Int.neg_neg_of_pos shares.positive

variable {shares} {credit : α → Int} {taker : α}

/-- In balance, the party that takes the turn has a positive credit. -/
theorem Balanced.raised_pos
    (balanced : shares.Balanced credit)
    (leads : shares.Leads credit taker) :
    0 < shares.raised credit taker := by
  have sumRaised : ∑ party ∈ shares.parties, shares.raised credit party =
      shares.total := by
    rw [← zero_add shares.total, ← balanced.sum]
    exact Finset.sum_add_distrib
  by_contra notPositive
  have sumNonpos : ∑ party ∈ shares.parties, shares.raised credit party ≤ 0 :=
    Finset.sum_nonpos fun party isParty =>
      (leads.2 party isParty).trans (Int.not_lt.1 notPositive)
  rw [sumRaised] at sumNonpos
  exact absurd shares.positive (Int.not_lt.2 sumNonpos)

variable [DecidableEq α]

variable (shares) in
/-- The credits after a turn. -/
def turn (credit : α → Int) (taker : α) : α → Int := fun party =>
  shares.raised credit party - if party = taker then shares.total else 0

/-- A turn keeps the balance. -/
theorem Balanced.turn
    (balanced : shares.Balanced credit)
    (leads : shares.Leads credit taker) :
    shares.Balanced (shares.turn credit taker) where
  sum := by
    have paid : ∑ party ∈ shares.parties,
        (if party = taker then shares.total else 0) = shares.total := by
      rw [Finset.sum_ite_eq', if_pos leads.1]
    have sumRaised : ∑ party ∈ shares.parties, shares.raised credit party =
        0 + shares.total := by
      rw [← balanced.sum]
      exact Finset.sum_add_distrib
    refine (Finset.sum_sub_distrib _ _).trans ?_
    rw [paid, sumRaised]
    omega
  above party isParty := by
    have before := balanced.above party isParty
    have weight := shares.nonneg party isParty
    have positive := balanced.raised_pos leads
    rw [Shares.turn]
    split_ifs with isTaker
    · rw [isTaker]
      omega
    · rw [raised]
      omega

/-- The credits after a list of turns. -/
theorem runFrom_turn (takers : List α) (credit : α → Int) (party : α) :
    runFrom shares.turn credit takers party =
      credit party + takers.length * shares.weight party -
        shares.total * takers.count party := by
  induction takers generalizing credit with
  | nil => simp
  | cons taker takers inductionHypothesis =>
      rw [runFrom_cons, inductionHypothesis, List.length_cons, List.count_cons,
        turn, raised, Nat.cast_add, Nat.cast_add, Int.add_mul, Int.mul_add]
      by_cases isTaker : party = taker
      · subst isTaker
        simp
        omega
      · have other : (taker == party) = false := by simpa using Ne.symm isTaker
        simp [isTaker, other]
        omega

section Runs

variable {takers : List α}

/-- Every turn is taken by a party with the largest credit. -/
def Fair (shares : Shares α) (takers : List α) : Prop :=
  EveryStep shares.turn shares.Leads (fun _ => 0) takers

/-- The balance holds after every run. -/
theorem Fair.balanced (fair : shares.Fair takers) :
    shares.Balanced (runFrom shares.turn (fun _ => 0) takers) :=
  EveryStep.invariant shares.Balanced
    (fun _ _ balanced leads => balanced.turn leads) shares.balanced_zero fair

/-- After whole periods each party has taken its turns, and nothing is owed. -/
theorem Fair.count_eq
    (fair : shares.Fair takers)
    {periods : Nat}
    (whole : (takers.length : Int) = periods * shares.total)
    {party : α}
    (isParty : party ∈ shares.parties) :
    (takers.count party : Int) = periods * shares.weight party ∧
      runFrom shares.turn (fun _ => 0) takers party = 0 := by
  have balanced := fair.balanced
  -- Each credit is a multiple of the total above minus the total.
  have multiple : ∀ other,
      runFrom shares.turn (fun _ => 0) takers other =
        shares.total *
          (periods * shares.weight other - takers.count other) := by
    intro other
    rw [runFrom_turn, whole, Int.mul_sub, Int.zero_add, Int.mul_assoc,
      Int.mul_left_comm]
  have credit_nonneg : ∀ other ∈ shares.parties,
      0 ≤ runFrom shares.turn (fun _ => 0) takers other := by
    intro other isOther
    have above := balanced.above other isOther
    rw [multiple other] at above ⊢
    have factor : -1 < periods * shares.weight other - takers.count other := by
      refine Int.lt_of_mul_lt_mul_left ?_ (Int.le_of_lt shares.positive)
      rwa [Int.mul_neg, Int.mul_one]
    exact Int.mul_nonneg (Int.le_of_lt shares.positive) (by omega)
  have zero := (Finset.sum_eq_zero_iff_of_nonneg credit_nonneg).1 balanced.sum
    party isParty
  refine ⟨?_, zero⟩
  rw [multiple party] at zero
  rcases Int.mul_eq_zero.1 zero with noTotal | settled
  · exact absurd noTotal (Int.ne_of_gt shares.positive)
  · omega

/-- A party of weight zero takes no turn. -/
theorem Fair.not_mem
    (fair : shares.Fair takers)
    {party : α}
    (isParty : party ∈ shares.parties)
    (weightless : shares.weight party = 0) :
    party ∉ takers := by
  have above := fair.balanced.above party isParty
  rw [runFrom_turn, weightless, Int.mul_zero, Int.add_zero, Int.zero_sub] at above
  have fewer : shares.total * takers.count party < shares.total * 1 := by omega
  have count := Int.lt_of_mul_lt_mul_left fewer (Int.le_of_lt shares.positive)
  rw [← List.count_eq_zero]
  omega

end Runs

end Shares

end Foundations
end AiGateway
