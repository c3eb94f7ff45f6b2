import Mathlib.Data.List.Basic
import Mathlib.Data.List.Nodup

/-!
# Maps in the order of insertion

A map lists its keys in the order in which they came. Setting a key that the map
has replaces the value in its place.
-/

namespace AiGateway
namespace Foundations
namespace OrderedMap

variable {κ : Type u} {β : Type v} [DecidableEq κ]

/-- `map.set(key, value)`. -/
def set (map : List (κ × β)) (key : κ) (value : β) : List (κ × β) :=
  if key ∈ map.map Prod.fst then
    map.map fun entry => if entry.1 = key then (key, value) else entry
  else
    map ++ [(key, value)]

/-- An entry of the map is the one that was set, or is older. -/
theorem mem_of_mem_set
    {map : List (κ × β)}
    {key : κ}
    {value : β}
    {entry : κ × β}
    (isEntry : entry ∈ set map key value) :
    entry = (key, value) ∨ entry ∈ map := by
  unfold set at isEntry
  split_ifs at isEntry with isOld
  · obtain ⟨old, isOldEntry, rfl⟩ := List.mem_map.1 isEntry
    by_cases isKey : old.1 = key
    · exact .inl (if_pos isKey)
    · rw [if_neg isKey]
      exact .inr isOldEntry
  · rw [List.mem_append, List.mem_singleton] at isEntry
    exact isEntry.symm

/-- Replacing a value leaves the keys. -/
theorem keys_replace (map : List (κ × β)) (key : κ) (value : β) :
    (map.map fun entry =>
        if entry.1 = key then (key, value) else entry).map Prod.fst =
      map.map Prod.fst := by
  rw [List.map_map]
  refine List.map_congr_left fun entry _ => ?_
  by_cases isKey : entry.1 = key
  · rw [Function.comp_apply, if_pos isKey, isKey]
  · rw [Function.comp_apply, if_neg isKey]

/-- The keys of the map with one more. -/
theorem mem_keys_set
    {map : List (κ × β)}
    {key other : κ}
    {value : β} :
    other ∈ (set map key value).map Prod.fst ↔
      other = key ∨ other ∈ map.map Prod.fst := by
  unfold set
  split_ifs with isOld
  · rw [keys_replace]
    refine ⟨.inr, ?_⟩
    rintro (rfl | isKey)
    · exact isOld
    · exact isKey
  · rw [List.map_append, List.mem_append, or_comm]
    simp

/-- The keys of a map stay distinct. -/
theorem nodup_keys_set
    {map : List (κ × β)}
    (distinct : (map.map Prod.fst).Nodup)
    (key : κ)
    (value : β) :
    ((set map key value).map Prod.fst).Nodup := by
  unfold set
  split_ifs with isOld
  · rwa [keys_replace]
  · rw [List.map_append, List.map_cons, List.map_nil]
    exact List.nodup_append.2
      ⟨distinct, List.nodup_singleton key, by
        rintro old isEntry other isNew rfl
        rw [List.mem_singleton.1 isNew] at isEntry
        exact isOld isEntry⟩

/-- Every entry of a map can be found. -/
theorem lookup_eq_some_of_mem
    {map : List (κ × β)}
    (distinct : (map.map Prod.fst).Nodup)
    {key : κ}
    {value : β}
    (isEntry : (key, value) ∈ map) : map.lookup key = some value := by
  obtain ⟨before, after, rfl⟩ := List.append_of_mem isEntry
  refine List.lookup_eq_some_iff.2 ⟨before, after, rfl, fun other isBefore => ?_⟩
  rw [List.map_append, List.map_cons] at distinct
  have isOther : other.1 ≠ key := fun same =>
    (List.nodup_append.1 distinct).2.2 other.1 (List.mem_map_of_mem isBefore) key
      List.mem_cons_self same
  exact bne_iff_ne.2 isOther.symm

/-- What the map gives for a key after one was set. -/
theorem lookup_set
    (map : List (κ × β))
    (key other : κ)
    (value : β) :
    (set map key value).lookup other =
      if other = key then some value else map.lookup other := by
  unfold set
  split_ifs with isOld isKey isKey
  · subst isKey
    induction map with
    | nil => simp at isOld
    | cons entry entries inductionHypothesis =>
        by_cases same : entry.1 = other
        · simp [same]
        · have isLater : other ∈ entries.map Prod.fst := by
            rw [List.map_cons, List.mem_cons] at isOld
            exact isOld.resolve_left fun equal => same equal.symm
          rw [List.map_cons, if_neg same, List.lookup_cons,
            beq_false_of_ne fun equal => same equal.symm]
          exact inductionHypothesis isLater
  · clear isOld
    induction map with
    | nil => rfl
    | cons entry entries inductionHypothesis =>
        by_cases same : entry.1 = key
        · have isOther : other ≠ entry.1 := fun equal =>
            isKey (equal.trans same)
          rw [List.map_cons, if_pos same, List.lookup_cons, List.lookup_cons,
            beq_false_of_ne isKey, beq_false_of_ne isOther]
          exact inductionHypothesis
        · rw [List.map_cons, if_neg same, List.lookup_cons, List.lookup_cons,
            inductionHypothesis]
  · subst isKey
    have unknown : map.lookup other = none := by
      rw [List.lookup_eq_none_iff]
      intro entry isEntry
      exact bne_iff_ne.2 fun equal =>
        isOld (List.mem_map.2 ⟨entry, isEntry, equal.symm⟩)
    rw [List.lookup_append, unknown]
    simp
  · rw [List.lookup_append, List.lookup_cons, beq_false_of_ne isKey]
    simp

end OrderedMap
end Foundations
end AiGateway
