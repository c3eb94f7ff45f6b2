import Mathlib.Algebra.Order.BigOperators.Group.List
import Mathlib.Algebra.Order.Ring.Int
import Mathlib.Data.Nat.Count
import Mathlib.Order.Interval.Finset.Nat

/-!
# Where a target is crossed

Amounts are taken from a target one after another until it falls below zero. For
each amount, as many targets are crossed at it as it is large; a target below the
sum of the amounts is crossed at one of them.
-/

namespace AiGateway
namespace Foundations

/-- The position of the amount that takes the target below zero. -/
def crossing : Int → List Int → Option Nat
  | _, [] => none
  | target, amount :: amounts =>
      if target - amount < 0 then some 0
      else (crossing (target - amount) amounts).map Nat.succ

section Crossing

variable {amounts : List Int} {target : Int}

/-- A target is crossed where the sum of the amounts exceeds it for the first
time. -/
theorem crossing_eq_some_iff
    (nonnegative : ∀ amount ∈ amounts, 0 ≤ amount)
    (targetNonnegative : 0 ≤ target)
    {position : Nat} :
    crossing target amounts = some position ↔
      ∃ amount ∈ amounts[position]?,
        (amounts.take position).sum ≤ target ∧
          target < (amounts.take position).sum + amount := by
  induction amounts generalizing target position with
  | nil => simp [crossing]
  | cons amount amounts inductionHypothesis =>
      obtain ⟨_, laterNonnegative⟩ := List.forall_mem_cons.1 nonnegative
      rw [crossing]
      split_ifs with here
      · cases position with
        | zero =>
            simp
            omega
        | succ position =>
            have before : 0 ≤ (amounts.take position).sum :=
              List.sum_nonneg fun earlier isEarlier =>
                laterNonnegative earlier (List.mem_of_mem_take isEarlier)
            simp only [List.take_succ_cons, List.sum_cons]
            constructor
            · intro impossible
              cases impossible
            · rintro ⟨_, -, reached, -⟩
              omega
      · cases position with
        | zero =>
            simp
            omega
        | succ position =>
            have lowered : 0 ≤ target - amount := by omega
            have later : crossing (target - amount) amounts = some position ↔ _ :=
              inductionHypothesis laterNonnegative lowered
            simp only [Option.map_eq_some_iff, Nat.succ_eq_add_one,
              Nat.add_right_cancel_iff, exists_eq_right, List.take_succ_cons,
              List.sum_cons, List.getElem?_cons_succ]
            rw [later]
            apply exists_congr
            intro next
            apply and_congr_right
            intro _
            omega

/-- A target below the sum is crossed. -/
theorem exists_crossing
    (below : target < amounts.sum)
    (targetNonnegative : 0 ≤ target) :
    ∃ position, crossing target amounts = some position := by
  induction amounts generalizing target with
  | nil =>
      rw [List.sum_nil] at below
      omega
  | cons amount amounts inductionHypothesis =>
      rw [List.sum_cons] at below
      rw [crossing]
      split_ifs with here
      · exact ⟨0, rfl⟩
      · have stillBelow : target - amount < amounts.sum := by omega
        obtain ⟨position, found⟩ := inductionHypothesis stillBelow (by omega)
        exact ⟨position + 1, by rw [found]; rfl⟩

/-- The numbers of an interval, counted below a bound of it. -/
theorem count_interval {first last bound : Nat} (isBound : last ≤ bound) :
    Nat.count (fun number => first ≤ number ∧ number < last) bound =
      last - first := by
  have interval : (Finset.range bound).filter
      (fun number => first ≤ number ∧ number < last) = Finset.Ico first last := by
    ext number
    rw [Finset.mem_filter, Finset.mem_range, Finset.mem_Ico]
    omega
  rw [Nat.count_eq_card_filter_range, interval, Nat.card_Ico]

/-- Of the targets below the sum, as many are crossed at an amount as it is
large. -/
theorem count_crossing
    (nonnegative : ∀ amount ∈ amounts, 0 ≤ amount)
    {position : Nat}
    {amount : Int}
    (isAmount : amounts[position]? = some amount) :
    (Nat.count (fun target => crossing target amounts = some position)
      amounts.sum.toNat : Int) = amount := by
  have before : 0 ≤ (amounts.take position).sum :=
    List.sum_nonneg fun earlier isEarlier =>
      nonnegative earlier (List.mem_of_mem_take isEarlier)
  have here : 0 ≤ amount := nonnegative amount (List.mem_of_getElem? isAmount)
  have after : 0 ≤ (amounts.drop (position + 1)).sum :=
    List.sum_nonneg fun later isLater =>
      nonnegative later (List.mem_of_mem_drop isLater)
  have split : amounts.sum = (amounts.take position).sum + amount +
      (amounts.drop (position + 1)).sum := by
    obtain ⟨isPosition, rfl⟩ := List.getElem?_eq_some_iff.1 isAmount
    rw [Int.add_assoc, ← List.sum_cons, ← List.drop_eq_getElem_cons isPosition,
      List.sum_take_add_sum_drop]
  have crossed : ∀ target : Nat, crossing target amounts = some position ↔
      (amounts.take position).sum.toNat ≤ target ∧
        target < ((amounts.take position).sum + amount).toNat := by
    intro target
    rw [crossing_eq_some_iff nonnegative (Int.natCast_nonneg target), isAmount]
    simp only [Option.mem_def, Option.some_inj, exists_eq_left']
    omega
  simp only [crossed]
  rw [count_interval (by omega)]
  omega

end Crossing

end Foundations
end AiGateway
