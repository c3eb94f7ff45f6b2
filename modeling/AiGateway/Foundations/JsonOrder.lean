import AiGateway.Foundations.Json
import AiGateway.Foundations.StableSort
import Mathlib.Data.List.Nodup

/-!
# The order of the keys of an object

Two JSON values are equal up to the order of keys if corresponding objects have the
same keys, with alike values. Sorting the entries of every object stably by a total
preorder on keys gives alike values the same form, if their tied keys are in the same
order, and gives no others the same form.
-/

namespace AiGateway
namespace Foundations
namespace Json

section Parts

variable (holds : Json → Prop)

mutual

/-- A property of a value and of all values inside. -/
def EveryPart : Json → Prop
  | array elements => holds (array elements) ∧ EveryElement elements
  | object entries => holds (object entries) ∧ EveryEntry entries
  | value => holds value

/-- The property of every part of the elements of an array. -/
def EveryElement : List Json → Prop
  | [] => True
  | element :: elements => EveryPart element ∧ EveryElement elements

/-- The property of every part of the values of an object. -/
def EveryEntry : List (String × Json) → Prop
  | [] => True
  | (_, value) :: entries => EveryPart value ∧ EveryEntry entries

end

/-- No object has a key twice. -/
def HasDistinctKeys : Json → Prop
  | object entries => (entries.map Prod.fst).Nodup
  | _ => True

variable {holds}

mutual

/-- A weaker property holds of every part, too. -/
theorem EveryPart.imp
    {weaker : Json → Prop}
    (imp : ∀ value, holds value → weaker value)
    (value : Json)
    (every : EveryPart holds value) : EveryPart weaker value := by
  cases value with
  | array elements =>
      exact ⟨imp _ every.1, EveryElement.imp imp elements every.2⟩
  | object entries => exact ⟨imp _ every.1, EveryEntry.imp imp entries every.2⟩
  | _ => exact imp _ every

theorem EveryElement.imp
    {weaker : Json → Prop}
    (imp : ∀ value, holds value → weaker value)
    (elements : List Json)
    (every : EveryElement holds elements) : EveryElement weaker elements := by
  cases elements with
  | nil => exact trivial
  | cons element elements =>
      exact ⟨EveryPart.imp imp element every.1,
        EveryElement.imp imp elements every.2⟩

theorem EveryEntry.imp
    {weaker : Json → Prop}
    (imp : ∀ value, holds value → weaker value)
    (entries : List (String × Json))
    (every : EveryEntry holds entries) : EveryEntry weaker entries := by
  cases entries with
  | nil => exact trivial
  | cons entry entries =>
      exact ⟨EveryPart.imp imp entry.2 every.1,
        EveryEntry.imp imp entries every.2⟩

end

theorem EveryEntry.everyPart
    {entries : List (String × Json)}
    (every : EveryEntry holds entries)
    {entry : String × Json}
    (isEntry : entry ∈ entries) : EveryPart holds entry.2 := by
  induction entries with
  | nil => cases isEntry
  | cons first entries inductionHypothesis =>
      rcases List.mem_cons.1 isEntry with rfl | isLater
      · exact every.1
      · exact inductionHypothesis every.2 isLater

end Parts

section Alike

variable (sameKeys : List String → List String → Prop)

mutual

/-- Values are alike if they are equal apart from the order of the keys of objects,
which is left to a relation between the lists of keys. -/
def Alike : Json → Json → Prop
  | null, null => True
  | bool first, bool second => first = second
  | number first, number second => first = second
  | infinity first, infinity second => first = second
  | string first, string second => first = second
  | array elements, array others => ElementsAlike elements others
  | object entries, object others =>
      sameKeys (entries.map Prod.fst) (others.map Prod.fst) ∧
        EntriesAlike entries others
  | _, _ => False

/-- The elements of arrays are alike, one by one. -/
def ElementsAlike : List Json → List Json → Prop
  | [], [] => True
  | element :: elements, other :: others =>
      Alike element other ∧ ElementsAlike elements others
  | _, _ => False

/-- The values of objects under the same key are alike. -/
def EntriesAlike : List (String × Json) → List (String × Json) → Prop
  | [], _ => True
  | (key, value) :: entries, others =>
      (∀ other, (key, other) ∈ others → Alike value other) ∧
        EntriesAlike entries others

end

/-- Values are equal up to the order of keys. -/
def EqualUpToOrder : Json → Json → Prop := Alike List.Perm

/-- Keys that are tied stand in the same order in two lists. -/
def SameTies
    (le : String → String → Bool)
    (keys others : List String) : Prop :=
  ∀ key, keys.filter (tied le key) = others.filter (tied le key)

end Alike

section Places

variable (through : String → Prop) (agree : Json → Json → Prop)

mutual

/-- A relation between two values and between the values at the same places inside
them, as far as these are reached through certain keys. -/
def EveryPlace : Json → Json → Prop
  | array elements, array others =>
      agree (array elements) (array others) ∧ EveryPair elements others
  | object entries, object others =>
      agree (object entries) (object others) ∧ EveryCommonKey entries others
  | first, second => agree first second

/-- The relation at the same places of the elements of two arrays. -/
def EveryPair : List Json → List Json → Prop
  | element :: elements, other :: others =>
      EveryPlace element other ∧ EveryPair elements others
  | _, _ => True

/-- The relation at the same places of the values that two objects have under the
same key. -/
def EveryCommonKey : List (String × Json) → List (String × Json) → Prop
  | [], _ => True
  | (key, value) :: entries, others =>
      (through key → ∀ other, (key, other) ∈ others → EveryPlace value other) ∧
        EveryCommonKey entries others

end

end Places

section Sorting

variable (le : String → String → Bool)

/-- The comparison of entries by their keys. -/
def entryLE (first second : String × Json) : Bool := le first.1 second.1

mutual

/-- The value with the entries of every object sorted by their keys. -/
def orderBy : Json → Json
  | array elements => array (orderElements elements)
  | object entries => object ((orderEntries entries).mergeSort (entryLE le))
  | value => value

/-- The elements of an array with sorted entries. -/
def orderElements : List Json → List Json
  | [] => []
  | element :: elements => orderBy element :: orderElements elements

/-- The entries of an object with sorted values. -/
def orderEntries : List (String × Json) → List (String × Json)
  | [] => []
  | (key, value) :: entries => (key, orderBy value) :: orderEntries entries

end

theorem orderEntries_eq_map (entries : List (String × Json)) :
    orderEntries le entries =
      entries.map fun entry => (entry.1, orderBy le entry.2) := by
  induction entries with
  | nil => rfl
  | cons entry entries inductionHypothesis =>
      rw [orderEntries, inductionHypothesis, List.map_cons]

variable {le}

theorem entryLE_preorder (preorder : TotalPreorder le) :
    TotalPreorder (entryLE le) where
  trans first second third := preorder.trans first.1 second.1 third.1
  total first second := preorder.total first.1 second.1

/-- Entries with the same keys in the same order are equal if the values under the
same key are. -/
theorem entries_eq_of_keys_eq
    {entries others : List (String × Json)}
    (sameKeys : entries.map Prod.fst = others.map Prod.fst)
    (sameValues : ∀ key value other,
      (key, value) ∈ entries → (key, other) ∈ others → value = other) :
    entries = others := by
  induction entries generalizing others with
  | nil => exact (List.map_eq_nil_iff.1 sameKeys.symm).symm
  | cons entry entries inductionHypothesis =>
      cases others with
      | nil => cases sameKeys
      | cons other others =>
          obtain ⟨key, value⟩ := entry
          obtain ⟨otherKey, otherValue⟩ := other
          rw [List.map_cons, List.map_cons, List.cons.injEq] at sameKeys
          obtain rfl : key = otherKey := sameKeys.1
          rw [sameValues key value otherValue List.mem_cons_self List.mem_cons_self,
            inductionHypothesis sameKeys.2 fun key value other isEntry isOther =>
              sameValues key value other (List.mem_cons_of_mem _ isEntry)
                (List.mem_cons_of_mem _ isOther)]

/-- Entries are sorted alike if tied keys are in the same order, and the values under
the same key are equal. -/
theorem mergeSort_entries_eq_iff
    (preorder : TotalPreorder le)
    {entries others : List (String × Json)}
    (distinct : (others.map Prod.fst).Nodup) :
    entries.mergeSort (entryLE le) = others.mergeSort (entryLE le) ↔
      SameTies le (entries.map Prod.fst) (others.map Prod.fst) ∧
        ∀ key value other,
          (key, value) ∈ entries → (key, other) ∈ others → value = other := by
  have keysFilter (key : String) (list : List (String × Json)) :
      (list.map Prod.fst).filter (tied le key) =
        (list.filter (tied (entryLE le) (key, null))).map Prod.fst :=
    List.filter_map
  rw [(entryLE_preorder preorder).mergeSort_eq_mergeSort_iff]
  constructor
  · intro sameTies
    refine ⟨fun key => ?_, fun key value other isEntry isOther => ?_⟩
    · rw [keysFilter, keysFilter, sameTies]
    · have isOtherToo := (entryLE_preorder preorder).mem_of_filter_eq sameTies isEntry
      exact congrArg Prod.snd
        (List.inj_on_of_nodup_map distinct isOtherToo isOther rfl)
  · rintro ⟨sameTies, sameValues⟩ ⟨base, -⟩
    refine entries_eq_of_keys_eq ?_ fun key value other isEntry isOther =>
      sameValues key value other (List.mem_filter.1 isEntry).1
        (List.mem_filter.1 isOther).1
    exact (keysFilter base entries).symm.trans
      ((sameTies base).trans (keysFilter base others))

mutual

/-- Sorting gives two values the same form if and only if they are alike and their
tied keys are in the same order. -/
theorem orderBy_eq_iff
    (preorder : TotalPreorder le)
    (first second : Json)
    (firstDistinct : EveryPart HasDistinctKeys first)
    (secondDistinct : EveryPart HasDistinctKeys second) :
    orderBy le first = orderBy le second ↔ Alike (SameTies le) first second := by
  cases first with
  | array elements =>
      cases second with
      | array others =>
          rw [orderBy, orderBy, array.injEq, Alike]
          exact orderElements_eq_iff preorder elements others firstDistinct.2
            secondDistinct.2
      | _ => exact iff_of_false nofun nofun
  | object entries =>
      cases second with
      | object others =>
          have sameKeys (list : List (String × Json)) :
              (orderEntries le list).map Prod.fst = list.map Prod.fst := by
            rw [orderEntries_eq_map, List.map_map]
            rfl
          have distinct : ((orderEntries le others).map Prod.fst).Nodup := by
            rw [sameKeys]
            exact secondDistinct.1
          rw [orderBy, orderBy, object.injEq, Alike,
            mergeSort_entries_eq_iff preorder distinct, sameKeys, sameKeys,
            orderEntries_eq_iff preorder entries others firstDistinct.2
              secondDistinct.2]
      | _ => exact iff_of_false nofun nofun
  | _ =>
      cases second with
      | array _ => exact iff_of_false nofun nofun
      | object _ => exact iff_of_false nofun nofun
      | _ => simp [orderBy, Alike]

/-- The elements of arrays, one by one. -/
theorem orderElements_eq_iff
    (preorder : TotalPreorder le)
    (elements others : List Json)
    (firstDistinct : EveryElement HasDistinctKeys elements)
    (secondDistinct : EveryElement HasDistinctKeys others) :
    orderElements le elements = orderElements le others ↔
      ElementsAlike (SameTies le) elements others := by
  cases elements with
  | nil =>
      cases others with
      | nil => exact iff_of_true rfl trivial
      | cons other others => exact iff_of_false nofun nofun
  | cons element elements =>
      cases others with
      | nil => exact iff_of_false nofun nofun
      | cons other others =>
          rw [orderElements, orderElements, List.cons.injEq, ElementsAlike,
            orderBy_eq_iff preorder element other firstDistinct.1
              secondDistinct.1,
            orderElements_eq_iff preorder elements others firstDistinct.2
              secondDistinct.2]

/-- The values of objects under the same key. -/
theorem orderEntries_eq_iff
    (preorder : TotalPreorder le)
    (entries others : List (String × Json))
    (firstDistinct : EveryEntry HasDistinctKeys entries)
    (secondDistinct : EveryEntry HasDistinctKeys others) :
    (∀ key value other,
      (key, value) ∈ orderEntries le entries →
        (key, other) ∈ orderEntries le others → value = other) ↔
      EntriesAlike (SameTies le) entries others := by
  cases entries with
  | nil => exact iff_of_true nofun trivial
  | cons entry entries =>
      obtain ⟨key, value⟩ := entry
      rw [EntriesAlike, ← orderEntries_eq_iff preorder entries others firstDistinct.2
        secondDistinct, orderEntries]
      have sameValue (other : Json) (isOther : (key, other) ∈ others) :=
        orderBy_eq_iff preorder value other firstDistinct.1
          (secondDistinct.everyPart isOther)
      have mem_others (key : String) (other : Json) :
          (key, other) ∈ orderEntries le others ↔
            ∃ value, (key, value) ∈ others ∧ orderBy le value = other := by
        rw [orderEntries_eq_map, List.mem_map]
        constructor
        · rintro ⟨⟨_, value⟩, isEntry, ⟨⟩⟩
          exact ⟨value, isEntry, rfl⟩
        · rintro ⟨value, isEntry, rfl⟩
          exact ⟨(key, value), isEntry, rfl⟩
      constructor
      · intro sameValues
        refine ⟨fun other isOther => (sameValue other isOther).1 ?_,
          fun key value other isEntry => ?_⟩
        · exact sameValues key _ _ List.mem_cons_self
            ((mem_others key _).2 ⟨other, isOther, rfl⟩)
        · exact sameValues key value other (List.mem_cons_of_mem _ isEntry)
      · rintro ⟨first, later⟩ key value other isEntry isOther
        rcases List.mem_cons.1 isEntry with isFirst | isLater
        · cases isFirst
          obtain ⟨found, isFound, rfl⟩ := (mem_others _ _).1 isOther
          exact (sameValue found isFound).2 (first found isFound)
        · exact later key value other isLater isOther

end

end Sorting

section Untied

variable {le : String → String → Bool}

/-- No two keys of an object are tied. -/
def HasUntiedKeys (le : String → String → Bool) : Json → Prop
  | object entries =>
      (entries.map Prod.fst).Pairwise fun first second =>
        tied le first second = false
  | _ => True

/-- Lists whose tied keys are in the same order have the same keys. -/
theorem SameTies.perm
    (preorder : TotalPreorder le)
    {keys others : List String}
    (sameTies : SameTies le keys others) : keys.Perm others := by
  have sameSorted := preorder.mergeSort_eq_mergeSort_iff.2 sameTies
  exact (List.mergeSort_perm keys le).symm.trans
    (sameSorted ▸ List.mergeSort_perm others le)

/-- Of keys that are not tied, each is tied only with itself. -/
theorem sameTies_iff_perm
    (preorder : TotalPreorder le)
    {keys others : List String}
    (untied : keys.Pairwise fun first second => tied le first second = false) :
    SameTies le keys others ↔ keys.Perm others := by
  constructor
  · exact SameTies.perm preorder
  · intro samePerm key
    have filterPerm := samePerm.filter (tied le key)
    cases split : keys.filter (tied le key) with
    | nil =>
        rw [split] at filterPerm
        exact filterPerm.nil_eq
    | cons first rest =>
        have restUntied := untied.sublist
          (List.filter_sublist : (keys.filter (tied le key)).Sublist keys)
        rw [split, List.pairwise_cons] at restUntied
        have restTied : ∀ second ∈ rest, tied le first second = true := by
          have allTied : ∀ other ∈ first :: rest, tied le key other = true := by
            intro other isOther
            rw [← split] at isOther
            exact (List.mem_filter.1 isOther).2
          intro second isSecond
          have firstTied := allTied first List.mem_cons_self
          have secondTied := allTied second (List.mem_cons_of_mem _ isSecond)
          rw [tied, preorder.le_of_tied_of_tied firstTied secondTied,
            preorder.le_of_tied_of_tied secondTied firstTied, Bool.and_self]
        cases rest with
        | nil =>
            rw [split] at filterPerm
            exact (List.singleton_perm.1 filterPerm).symm ▸ rfl
        | cons second rest =>
            have isTied := restTied second List.mem_cons_self
            rw [restUntied.1 second List.mem_cons_self] at isTied
            cases isTied

mutual

/-- Without tied keys, values whose tied keys are in the same order are those that
are equal up to order. -/
theorem alike_iff_equalUpToOrder
    (preorder : TotalPreorder le)
    (first second : Json)
    (untied : EveryPart (HasUntiedKeys le) first) :
    Alike (SameTies le) first second ↔ EqualUpToOrder first second := by
  cases first with
  | array elements =>
      cases second with
      | array others =>
          exact elementsAlike_iff preorder elements others untied.2
      | _ => exact Iff.rfl
  | object entries =>
      cases second with
      | object others =>
          exact and_congr (sameTies_iff_perm preorder untied.1)
            (entriesAlike_iff preorder entries others untied.2)
      | _ => exact Iff.rfl
  | _ =>
      cases second with
      | _ => exact Iff.rfl

theorem elementsAlike_iff
    (preorder : TotalPreorder le)
    (elements others : List Json)
    (untied : EveryElement (HasUntiedKeys le) elements) :
    ElementsAlike (SameTies le) elements others ↔
      ElementsAlike List.Perm elements others := by
  cases elements with
  | nil => cases others <;> exact Iff.rfl
  | cons element elements =>
      cases others with
      | nil => exact Iff.rfl
      | cons other others =>
          exact and_congr (alike_iff_equalUpToOrder preorder element other untied.1)
            (elementsAlike_iff preorder elements others untied.2)

theorem entriesAlike_iff
    (preorder : TotalPreorder le)
    (entries others : List (String × Json))
    (untied : EveryEntry (HasUntiedKeys le) entries) :
    EntriesAlike (SameTies le) entries others ↔
      EntriesAlike List.Perm entries others := by
  cases entries with
  | nil => exact Iff.rfl
  | cons entry entries =>
      refine and_congr (forall_congr' fun other => imp_congr_right fun _ => ?_)
        (entriesAlike_iff preorder entries others untied.2)
      exact alike_iff_equalUpToOrder preorder entry.2 other untied.1

end

end Untied

end Json
end Foundations
end AiGateway
