import AiGateway.Foundations.Json
import Mathlib.Data.List.Nodup

/-!
# Properties of objects

An object enumerates its array-like keys in increasing order and then the others
in the order in which they came. Assigning to the key that names the prototype
does not give the object a property.
-/

namespace AiGateway
namespace Foundations
namespace Json

section Assignment

/-- The array index that a key spells, if it spells one. -/
def arrayIndex (key : String) : Option Nat :=
  key.toNat?.filter fun index => index.repr = key ∧ index < 4294967295

/-- Does a key come before an array index in an enumeration? -/
def precedes (index : Nat) (entry : String × Json) : Bool :=
  match arrayIndex entry.1 with
  | some other => other < index
  | none => false

/-- Give an object a new property. -/
def insertEntry
    (key : String)
    (value : Json)
    (entries : List (String × Json)) : List (String × Json) :=
  match arrayIndex key with
  | none => entries ++ [(key, value)]
  | some index =>
      entries.takeWhile (precedes index) ++
        (key, value) :: entries.dropWhile (precedes index)

/-- `object[key] = value`, on the entries of the object. -/
def assign
    (entries : List (String × Json))
    (key : String)
    (value : Json) : List (String × Json) :=
  if key = "__proto__" then
    entries
  else if key ∈ entries.map Prod.fst then
    entries.map fun entry =>
      if entry.1 = key then (key, value) else entry
  else
    insertEntry key value entries

end Assignment

section Lookup

variable {entries : List (String × Json)} {key other : String} {value : Json}

theorem lookup_cons_eq :
    ((key, value) :: entries).lookup other =
      if other = key then some value else entries.lookup other := by
  rw [List.lookup_cons]
  by_cases sameKey : other = key
  · rw [if_pos sameKey, sameKey, beq_self_eq_true]
  · rw [if_neg sameKey, beq_false_of_ne sameKey]

/-- A new property is found, and the others as before. -/
theorem lookup_insertEntry (isNew : key ∉ entries.map Prod.fst) :
    (insertEntry key value entries).lookup other =
      if other = key then some value else entries.lookup other := by
  have between (first second : List (String × Json))
      (whole : first ++ second = entries) :
      (first ++ (key, value) :: second).lookup other =
        if other = key then some value else entries.lookup other := by
    subst whole
    rw [List.lookup_append, List.lookup_append, lookup_cons_eq]
    by_cases sameKey : other = key
    · subst sameKey
      have notFound : first.lookup other = none := by
        refine List.lookup_eq_none_iff.2 fun entry isEntry => ?_
        simp only [bne_iff_ne, ne_eq]
        rintro rfl
        exact isNew (List.mem_map_of_mem (List.mem_append_left _ isEntry))
      rw [notFound, if_pos rfl, if_pos rfl]
      rfl
    · rw [if_neg sameKey, if_neg sameKey]
  unfold insertEntry
  cases arrayIndex key with
  | none => exact between entries [] (List.append_nil _)
  | some index => exact between _ _ List.takeWhile_append_dropWhile

/-- Replacing a property changes no other. -/
theorem lookup_map_replace :
    (entries.map fun entry =>
        if entry.1 = key then (key, value) else entry).lookup other =
      if other = key ∧ key ∈ entries.map Prod.fst then some value
      else entries.lookup other := by
  induction entries with
  | nil => simp
  | cons entry entries inductionHypothesis =>
      obtain ⟨first, old⟩ := entry
      simp only [List.map_cons, List.mem_cons, lookup_cons_eq]
      by_cases isFirst : key = first
      · rw [if_pos isFirst.symm, lookup_cons_eq, inductionHypothesis, isFirst]
        by_cases sameKey : other = first <;> simp [sameKey]
      · rw [if_neg (Ne.symm isFirst), lookup_cons_eq, inductionHypothesis]
        by_cases sameFirst : other = first
        · simp [sameFirst, Ne.symm isFirst]
        · rw [if_neg sameFirst, if_neg sameFirst]
          simp only [isFirst, false_or]

/-- An assigned property is found, and the others as before. -/
theorem lookup_assign (notPrototype : key ≠ "__proto__") :
    (assign entries key value).lookup other =
      if other = key then some value else entries.lookup other := by
  unfold assign
  rw [if_neg notPrototype]
  by_cases isOld : key ∈ entries.map Prod.fst
  · rw [if_pos isOld, lookup_map_replace]
    simp only [isOld, and_true]
  · rw [if_neg isOld, lookup_insertEntry isOld]

/-- After a series of assignments the last one to a key is found. -/
theorem lookup_foldl_assign
    (start : List (String × Json))
    (noPrototype : ∀ entry ∈ entries, entry.1 ≠ "__proto__") :
    (entries.foldl (fun object entry => assign object entry.1 entry.2)
        start).lookup key =
      (entries.reverse.lookup key).or (start.lookup key) := by
  induction entries generalizing start with
  | nil => rfl
  | cons entry entries inductionHypothesis =>
      rw [List.foldl_cons, inductionHypothesis _
        (fun _ isEntry => noPrototype _ (List.mem_cons_of_mem _ isEntry)),
        lookup_assign (noPrototype _ List.mem_cons_self), List.reverse_cons,
        List.lookup_append, Option.or_assoc, lookup_cons_eq]
      by_cases sameKey : key = entry.1 <;> simp [sameKey]

/-- With distinct keys a lookup finds every entry. -/
theorem lookup_eq_some_iff_mem
    (distinct : (entries.map Prod.fst).Nodup) :
    entries.lookup key = some value ↔ (key, value) ∈ entries := by
  induction entries with
  | nil => simp
  | cons entry entries inductionHypothesis =>
      rw [List.map_cons, List.nodup_cons] at distinct
      rw [lookup_cons_eq, List.mem_cons]
      by_cases sameKey : key = entry.1
      · have notLater : (key, value) ∉ entries := fun later =>
          distinct.1 (sameKey ▸ List.mem_map_of_mem later)
        subst sameKey
        simp [notLater, Prod.ext_iff, eq_comm]
      · simp [inductionHypothesis distinct.2, Prod.ext_iff, sameKey]

/-- With distinct keys the order of the entries does not matter. -/
theorem lookup_eq_of_perm
    {others : List (String × Json)}
    (distinct : (entries.map Prod.fst).Nodup)
    (sameEntries : entries.Perm others) :
    entries.lookup key = others.lookup key := by
  refine Option.ext fun value => ?_
  rw [lookup_eq_some_iff_mem distinct, sameEntries.mem_iff,
    lookup_eq_some_iff_mem ((sameEntries.map Prod.fst).nodup_iff.1 distinct)]

/-- Looking up a mapped value. -/
theorem lookup_map_value (f : Json → Json) :
    (entries.map fun entry => (entry.1, f entry.2)).lookup key =
      (entries.lookup key).map f := by
  induction entries with
  | nil => rfl
  | cons entry entries inductionHypothesis =>
      rw [List.map_cons, lookup_cons_eq, lookup_cons_eq, inductionHypothesis]
      split_ifs <;> rfl

@[simp] theorem get_object :
    (object entries).get key = entries.lookup key := rfl

theorem get_finite (value : Json) :
    value.finite.get key = (value.get key).map finite := by
  cases value with
  | object entries =>
      rw [finite, get_object, get_object, finiteEntries_eq_map, lookup_map_value]
  | _ => rfl

end Lookup

end Json
end Foundations
end AiGateway
