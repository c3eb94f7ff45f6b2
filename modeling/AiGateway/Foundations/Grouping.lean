import Mathlib.Algebra.BigOperators.Group.List.Basic
import Mathlib.Data.List.Dedup

/-!
# Sums over the groups of a table

The rows of a table fall into groups, some into none. Adding up the sums of the
groups that a condition selects gives the sum over their rows.
-/

namespace AiGateway
namespace Foundations

section Grouping

variable {α : Type u} {β : Type v} {μ : Type w} [DecidableEq β] [AddCommMonoid μ]

/-- The groups that some row is in, each once. -/
def groupsOf (group : α → Option β) (rows : List α) : List β :=
  (rows.filterMap group).dedup

/-- The rows of a group. -/
def inGroup (group : α → Option β) (rows : List α) (key : β) : List α :=
  rows.filter fun row => group row = some key

variable {group : α → Option β} {rows : List α}

theorem mem_groupsOf {key : β} :
    key ∈ groupsOf group rows ↔ ∃ row ∈ rows, group row = some key := by
  rw [groupsOf, List.mem_dedup, List.mem_filterMap]

theorem mem_inGroup {row : α} {key : β} :
    row ∈ inGroup group rows key ↔ row ∈ rows ∧ group row = some key := by
  rw [inGroup, List.mem_filter, decide_eq_true_iff]

theorem nodup_inGroup
    (nodup : rows.Nodup)
    (key : β) : (inGroup group rows key).Nodup :=
  nodup.filter _

/-- A row adds its value to its own group. -/
theorem sum_map_own
    {keys : List β}
    (nodup : keys.Nodup)
    (own : Option β)
    (value : μ) :
    (keys.map fun key => if own = some key then value else 0).sum =
      if own.any (keys.contains ·) then value else 0 := by
  induction keys with
  | nil => cases own <;> simp
  | cons key keys inductionHypothesis =>
      obtain ⟨notLater, nodupRest⟩ := List.nodup_cons.1 nodup
      rw [List.map_cons, List.sum_cons, inductionHypothesis nodupRest]
      cases own with
      | none => simp
      | some own =>
          by_cases isKey : own = key
          · subst isKey
            simp [notLater]
          · simp [isKey]

/-- The sums of some groups add up to the sum over the rows of these groups. -/
theorem sum_inGroup
    {keys : List β}
    (nodup : keys.Nodup)
    (group : α → Option β)
    (value : α → μ)
    (rows : List α) :
    (keys.map fun key => ((inGroup group rows key).map value).sum).sum =
      ((rows.filter fun row => (group row).any (keys.contains ·)).map value).sum := by
  induction rows with
  | nil => simp [inGroup]
  | cons row rows inductionHypothesis =>
      have split (key : β) : ((inGroup group (row :: rows) key).map value).sum =
          (if group row = some key then value row else 0) +
            ((inGroup group rows key).map value).sum := by
        by_cases isOwn : group row = some key
        · simp [inGroup, isOwn]
        · simp [inGroup, isOwn]
      simp only [split, List.sum_map_add, inductionHypothesis, sum_map_own nodup]
      by_cases selected : (group row).any (keys.contains ·) = true
      · simp only [List.filter_cons, if_pos selected, List.map_cons, List.sum_cons]
      · simp only [List.filter_cons, if_neg selected, zero_add]

/-- The sums of the groups that a condition selects. -/
theorem sum_groups
    (group : α → Option β)
    (select : β → Bool)
    (value : α → μ)
    (rows : List α) :
    (((groupsOf group rows).filter select).map fun key =>
        ((inGroup group rows key).map value).sum).sum =
      ((rows.filter fun row => (group row).any select).map value).sum := by
  have nodup : ((groupsOf group rows).filter select).Nodup :=
    (List.nodup_dedup _).filter select
  rw [sum_inGroup nodup]
  refine congrArg (fun rows : List α => (rows.map value).sum)
    (List.filter_congr fun row isRow => ?_)
  cases groupEq : group row with
  | none => rfl
  | some key =>
      have isGroup : key ∈ groupsOf group rows := mem_groupsOf.2 ⟨row, isRow, groupEq⟩
      simp [isGroup]

end Grouping

end Foundations
end AiGateway
