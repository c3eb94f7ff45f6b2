import Mathlib.Data.Int.CardIntervalMod
import Mathlib.Data.List.Chain

/-!
# Rotations

A list of positions below `size` rotates when each of them is the cyclic
successor of the one before it. In such a list, and in every stretch of it, two
positions occur equally often or one of them once more.
-/

namespace AiGateway
namespace Foundations

/-- The position after another one, the first after the last. -/
def cyclicSuccessor (size position : Nat) : Nat := (position + 1) % size

/-- As many positions as `count`, from `start` on. -/
def rotation (size start count : Nat) : List Nat :=
  (List.range count).map fun turn => (start + turn) % size

/-- Each position is the cyclic successor of the one before it. -/
def Rotates (size : Nat) (positions : List Nat) : Prop :=
  positions.IsChain fun position next => next = cyclicSuccessor size position

/-- In every stretch, two positions occur equally often or one of them once
more. -/
def TakesTurns (size : Nat) (positions : List Nat) : Prop :=
  ∀ stretch, stretch <:+: positions →
    ∀ left < size, ∀ right < size,
      stretch.count left ≤ stretch.count right + 1

section Rotation

variable {size start : Nat} {positions : List Nat}

theorem rotation_succ (size start count : Nat) :
    rotation size start (count + 1) =
      start % size :: rotation size (start + 1) count := by
  rw [rotation, rotation, List.range_succ_eq_map, List.map_cons, List.map_map,
    Nat.add_zero]
  congr 2
  funext turn
  rw [Function.comp_apply, Nat.succ_eq_add_one, Nat.add_assoc, Nat.add_comm 1]

/-- A list that rotates is the rotation from its first position. -/
theorem Rotates.eq_rotation
    (rotates : Rotates size positions)
    (isFirst : ∀ first ∈ positions.head?, first = start % size) :
    positions = rotation size start positions.length := by
  induction positions generalizing start with
  | nil => rfl
  | cons position positions inductionHypothesis =>
      obtain ⟨next, later⟩ := List.isChain_cons.1 rotates
      have here : position = start % size := isFirst position rfl
      have first : ∀ first ∈ positions.head?, first = (start + 1) % size := by
        intro first isNext
        rw [next first isNext, cyclicSuccessor, here, Nat.mod_add_mod]
      rw [List.length_cons, rotation_succ, ← inductionHypothesis later first, here]

/-- The turns that come to a position are those that are congruent to its
distance from the start. -/
theorem add_mod_eq_iff_modEq
    {position : Nat}
    (isPosition : position < size)
    (turn : Nat) :
    (start + turn) % size = position ↔
      turn ≡ position + (size - start % size) [MOD size] := by
  have reached : start + (position + (size - start % size)) ≡ position
      [MOD size] := by
    have startBelow : start % size < size :=
      Nat.mod_lt start (Nat.zero_lt_of_lt isPosition)
    have parts : start % size + size * (start / size) = start :=
      Nat.mod_add_div start size
    have around : start + (position + (size - start % size)) =
        position + size * (start / size + 1) := by
      rw [Nat.mul_add, Nat.mul_one]
      omega
    rw [around, Nat.ModEq, Nat.add_mul_mod_self_left]
  have atPosition : (start + turn) % size = position ↔
      start + turn ≡ position [MOD size] := by
    rw [Nat.ModEq, Nat.mod_eq_of_lt isPosition]
  rw [atPosition]
  constructor
  · intro here
    exact Nat.ModEq.add_left_cancel' start (here.trans reached.symm)
  · intro congruent
    exact (congruent.add_left start).trans reached

/-- A rotation comes to a position once in each full turn, and perhaps once more
in the turn that it breaks off. -/
theorem count_rotation
    (start count : Nat)
    {position : Nat}
    (isPosition : position < size) :
    (rotation size start count).count position = count / size ∨
      (rotation size start count).count position = count / size + 1 := by
  have congruent : (rotation size start count).count position =
      Nat.count (· ≡ position + (size - start % size) [MOD size]) count := by
    rw [rotation, List.count, List.countP_map, Nat.count]
    congr 1
    funext turn
    simp only [Function.comp_apply, beq_eq_decide, decide_eq_decide]
    exact add_mod_eq_iff_modEq isPosition turn
  rw [congruent, Nat.count_modEq_card _ (Nat.zero_lt_of_lt isPosition)]
  split_ifs
  · exact .inr rfl
  · exact .inl rfl

/-- A stretch of a list that rotates rotates. -/
theorem Rotates.of_infix
    {stretch : List Nat}
    (rotates : Rotates size positions)
    (isStretch : stretch <:+: positions) :
    Rotates size stretch :=
  List.IsChain.infix rotates isStretch

/-- Positions that rotate take turns. -/
theorem Rotates.takesTurns
    (rotates : Rotates size positions)
    (arePositions : ∀ position ∈ positions, position < size) :
    TakesTurns size positions := by
  intro stretch isStretch left isLeft right isRight
  have isRotation : stretch =
      rotation size (stretch.head?.getD 0) stretch.length := by
    apply (rotates.of_infix isStretch).eq_rotation
    intro first isFirst
    have isPosition : first ∈ positions :=
      isStretch.subset (List.mem_of_mem_head? isFirst)
    rw [Option.mem_def.1 isFirst, Option.getD_some,
      Nat.mod_eq_of_lt (arePositions first isPosition)]
  have leftCount :=
    count_rotation (stretch.head?.getD 0) stretch.length isLeft
  have rightCount :=
    count_rotation (stretch.head?.getD 0) stretch.length isRight
  rw [← isRotation] at leftCount rightCount
  omega

end Rotation

end Foundations
end AiGateway
