import Mathlib.Data.List.Basic

/-!
# The first maximum of a list

A loop that replaces the best entry only by a strictly larger one ends with the
first of the largest entries.
-/

namespace AiGateway
namespace Foundations

variable {α : Type u}

/-- An entry is the first of those with the largest value. -/
def IsFirstMax (value : α → Int) (entries : List α) (best : α) : Prop :=
  ∃ before after, entries = before ++ best :: after ∧
    (∀ entry ∈ before, value entry < value best) ∧
      ∀ entry ∈ after, value entry ≤ value best

variable {value : α → Int} {entries : List α} {best : α}

theorem IsFirstMax.mem (isFirst : IsFirstMax value entries best) :
    best ∈ entries := by
  obtain ⟨before, after, rfl, -, -⟩ := isFirst
  simp

theorem IsFirstMax.le
    (isFirst : IsFirstMax value entries best)
    {entry : α}
    (isEntry : entry ∈ entries) :
    value entry ≤ value best := by
  obtain ⟨before, after, rfl, below, notAbove⟩ := isFirst
  rw [List.mem_append, List.mem_cons] at isEntry
  rcases isEntry with isBefore | rfl | isAfter
  · exact Int.le_of_lt (below entry isBefore)
  · exact Int.le_refl _
  · exact notAbove entry isAfter

theorem isFirstMax_singleton (entry : α) : IsFirstMax value [entry] entry :=
  ⟨[], [], rfl, by simp, by simp⟩

/-- One more entry, which is not larger. -/
theorem IsFirstMax.append
    (isFirst : IsFirstMax value entries best)
    {entry : α}
    (notAbove : value entry ≤ value best) :
    IsFirstMax value (entries ++ [entry]) best := by
  obtain ⟨before, after, rfl, below, others⟩ := isFirst
  refine ⟨before, after ++ [entry], by simp, below, fun other isOther => ?_⟩
  rw [List.mem_append, List.mem_singleton] at isOther
  rcases isOther with isAfter | rfl
  · exact others other isAfter
  · exact notAbove

/-- One more entry, which is larger. -/
theorem IsFirstMax.append_larger
    (isFirst : IsFirstMax value entries best)
    {entry : α}
    (above : value best < value entry) :
    IsFirstMax value (entries ++ [entry]) entry :=
  ⟨entries, [], rfl,
    fun _ isOther => Int.lt_of_le_of_lt (isFirst.le isOther) above, by simp⟩

/-- The first maximum of the images of a list is that of an entry. -/
theorem exists_isFirstMax_of_map
    {β : Type v}
    {value : β → Int}
    {image : α → β}
    {best : β}
    (isFirst : IsFirstMax value (entries.map image) best) :
    ∃ entry, image entry = best ∧
      IsFirstMax (fun entry => value (image entry)) entries entry := by
  obtain ⟨before, after, split, below, notAbove⟩ := isFirst
  obtain ⟨first, rest, rfl, rfl, images⟩ := List.map_eq_append_iff.1 split
  obtain ⟨entry, second, rfl, rfl, rfl⟩ := List.map_eq_cons_iff.1 images
  exact ⟨entry, rfl, first, second, rfl,
    fun other isOther => below _ (List.mem_map_of_mem isOther),
    fun other isOther => notAbove _ (List.mem_map_of_mem isOther)⟩

section Ahead

variable [DecidableEq α]

/-- An entry comes before another when its value is larger, or it is the same and
the entry is listed earlier. -/
def Ahead (value : α → Int) (entries : List α) (first second : α) : Prop :=
  value second < value first ∨
    value second = value first ∧
      first ∈ entries.takeWhile fun entry => entry ≠ second

instance (value : α → Int) (entries : List α) (first second : α) :
    Decidable (Ahead value entries first second) :=
  inferInstanceAs (Decidable (_ ∨ _ ∧ _))

/-- The first maximum is ahead of all other entries. -/
theorem IsFirstMax.ahead
    (isFirst : IsFirstMax value entries best)
    {entry : α}
    (isEntry : entry ∈ entries)
    (isOther : best ≠ entry) :
    Ahead value entries best entry := by
  rcases Int.lt_or_eq_of_le (isFirst.le isEntry) with below | same
  · exact .inl below
  · obtain ⟨before, after, rfl, below, -⟩ := isFirst
    have different : ∀ other ∈ before, decide (other ≠ entry) = true := by
      intro other isBefore
      refine decide_eq_true ?_
      rintro rfl
      exact Int.ne_of_lt (below other isBefore) same
    refine .inr ⟨same, ?_⟩
    rw [List.takeWhile_append_of_pos different, List.takeWhile_cons]
    simp [isOther]

/-- Nothing is ahead of the first maximum. -/
theorem IsFirstMax.not_ahead
    (isFirst : IsFirstMax value entries best)
    {entry : α}
    (isEntry : entry ∈ entries) :
    ¬ Ahead value entries entry best := by
  rintro (above | ⟨same, isBefore⟩)
  · exact Int.not_le.2 above (isFirst.le isEntry)
  · obtain ⟨before, after, rfl, below, -⟩ := isFirst
    have different : ∀ other ∈ before, decide (other ≠ best) = true := by
      intro other isOther
      refine decide_eq_true ?_
      rintro rfl
      exact Int.lt_irrefl _ (below other isOther)
    rw [List.takeWhile_append_of_pos different,
      List.takeWhile_cons_of_neg (by simp), List.append_nil] at isBefore
    exact Int.ne_of_lt (below entry isBefore) same.symm

end Ahead

end Foundations
end AiGateway
