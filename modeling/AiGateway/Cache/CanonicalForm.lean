import AiGateway.Cache.Key
import AiGateway.Foundations.JsonEnumeration

/-!
# What `canonicalStringify` tells apart

`canonicalStringify` is meant to write two values alike if and only if they are equal
up to the order of keys. It sorts the entries of an object stably by `localeCompare`
and assigns them to a new object, so it loses what stands under the key that names
the prototype, and keeps the order of keys that `localeCompare` does not tell apart;
and `JSON.stringify` writes an infinity as `null`. The main theorem tells for which
values that matters.
-/

namespace AiGateway
namespace Cache

open Foundations (Json TotalPreorder tied)
open Foundations.Json
  (Alike ElementsAlike EntriesAlike EqualUpToOrder EveryCommonKey EveryElement
    EveryEntry EveryPair EveryPart EveryPlace HasDistinctKeys HasUntiedKeys SameTies
    SameTies.perm alike_iff_equalUpToOrder arrayIndex arrayIndex_eq_none build
    build_mergeSort entryLE indexesFirst indexesFirst_preorder kept orderBy
    orderElements orderEntries)

section Order

variable (localeCompare : String → String → Ordering)

/-- `left.localeCompare(right) <= 0`. -/
def localeLE (left right : String) : Bool := (localeCompare left right).isLE

/-- The order in which a sorted copy enumerates keys. -/
def keyLE : String → String → Bool := indexesFirst (localeLE localeCompare)

variable [Std.TransCmp localeCompare]

theorem localeLE_preorder : TotalPreorder (localeLE localeCompare) where
  trans _ _ _ := Std.TransCmp.isLE_trans
  total left right := by
    rw [localeLE, localeLE, @Std.OrientedCmp.eq_swap _ localeCompare]
    cases localeCompare right left <;> rfl

theorem keyLE_preorder : TotalPreorder (keyLE localeCompare) :=
  indexesFirst_preorder (localeLE_preorder localeCompare)

end Order

section Written

mutual

/-- What is written of a value: no entries that name the prototype, and `null` for
an infinity. -/
def written : Json → Json
  | .infinity _ => .null
  | .array elements => .array (writtenElements elements)
  | .object entries => .object (writtenEntries entries)
  | value => value

/-- What is written of the elements of an array. -/
def writtenElements : List Json → List Json
  | [] => []
  | element :: elements => written element :: writtenElements elements

/-- What is written of the entries of an object. -/
def writtenEntries : List (String × Json) → List (String × Json)
  | [] => []
  | (key, value) :: entries =>
      if key = "__proto__" then writtenEntries entries
      else (key, written value) :: writtenEntries entries

end

theorem keys_writtenEntries (entries : List (String × Json)) :
    (writtenEntries entries).map Prod.fst =
      (entries.map Prod.fst).filter fun key => key ≠ "__proto__" := by
  induction entries with
  | nil => rfl
  | cons entry entries inductionHypothesis =>
      obtain ⟨key, value⟩ := entry
      rw [writtenEntries, List.map_cons, List.filter_cons]
      by_cases isPrototype : key = "__proto__"
      · rw [if_pos isPrototype, inductionHypothesis, if_neg]
        simpa using isPrototype
      · rw [if_neg isPrototype, List.map_cons, inductionHypothesis, if_pos]
        simpa using isPrototype

mutual

/-- Distinct keys stay distinct. -/
theorem distinct_written
    (value : Json)
    (distinct : EveryPart HasDistinctKeys value) :
    EveryPart HasDistinctKeys (written value) := by
  cases value with
  | array elements => exact ⟨trivial, distinct_writtenElements elements distinct.2⟩
  | object entries =>
      refine ⟨?_, distinct_writtenEntries entries distinct.2⟩
      change ((writtenEntries entries).map Prod.fst).Nodup
      rw [keys_writtenEntries]
      exact List.Nodup.filter _ distinct.1
  | _ => exact trivial

theorem distinct_writtenElements
    (elements : List Json)
    (distinct : EveryElement HasDistinctKeys elements) :
    EveryElement HasDistinctKeys (writtenElements elements) := by
  cases elements with
  | nil => exact trivial
  | cons element elements =>
      exact ⟨distinct_written element distinct.1,
        distinct_writtenElements elements distinct.2⟩

theorem distinct_writtenEntries
    (entries : List (String × Json))
    (distinct : EveryEntry HasDistinctKeys entries) :
    EveryEntry HasDistinctKeys (writtenEntries entries) := by
  cases entries with
  | nil => exact trivial
  | cons entry entries =>
      obtain ⟨key, value⟩ := entry
      have later := distinct_writtenEntries entries distinct.2
      rw [writtenEntries]
      split
      · exact later
      · exact ⟨distinct_written value distinct.1, later⟩

end

end Written

section Canonical

variable (localeCompare : String → String → Ordering)

/-- The entries of a sorted copy are what is written of them, in the order of keys. -/
theorem canonical_object
    [Std.TransCmp localeCompare]
    {entries : List (String × Json)}
    (distinct : (entries.map Prod.fst).Nodup) :
    canonical localeCompare (.object entries) =
      .object (((kept entries).map fun entry =>
        (entry.1, canonical localeCompare entry.2)).mergeSort
          (entryLE (keyLE localeCompare))) := by
  have sameKeys : ((sortEntries localeCompare entries).map Prod.fst).Nodup := by
    rw [sortEntries_eq_map, List.map_map]
    exact distinct
  have isBuilt := build_mergeSort (localeLE_preorder localeCompare) sameKeys
  rw [canonical, sortValue, Json.finite, Json.finiteEntries_eq_map]
  refine congrArg Json.object ?_
  change (build ((sortEntries localeCompare entries).mergeSort
    (entryLE (localeLE localeCompare)))).map _ = _
  have finiteSorted (list : List (String × Json)) :
      (list.mergeSort (entryLE (keyLE localeCompare))).map
          (fun entry => (entry.1, entry.2.finite)) =
        (list.map fun entry => (entry.1, entry.2.finite)).mergeSort
          (entryLE (keyLE localeCompare)) :=
    List.map_mergeSort fun _ _ _ _ => rfl
  refine (congrArg _ isBuilt).trans ((finiteSorted _).trans ?_)
  refine congrArg (List.mergeSort · _) ?_
  rw [kept, sortEntries_eq_map, List.filter_map, List.map_map]
  rfl

mutual

/-- The canonical form of a value is what is written of it, in the order of keys. -/
theorem canonical_eq_orderBy
    [Std.TransCmp localeCompare]
    (value : Json)
    (distinct : EveryPart HasDistinctKeys value) :
    canonical localeCompare value =
      orderBy (keyLE localeCompare) (written value) := by
  cases value with
  | array elements =>
      rw [canonical_array, written, orderBy,
        canonical_elements_eq_orderElements elements distinct.2]
  | object entries =>
      rw [canonical_object localeCompare distinct.1, written, orderBy,
        canonical_entries_eq_orderEntries entries distinct.2]
  | _ => rfl

theorem canonical_elements_eq_orderElements
    [Std.TransCmp localeCompare]
    (elements : List Json)
    (distinct : EveryElement HasDistinctKeys elements) :
    elements.map (canonical localeCompare) =
      orderElements (keyLE localeCompare) (writtenElements elements) := by
  cases elements with
  | nil => rfl
  | cons element elements =>
      rw [List.map_cons, writtenElements, orderElements,
        canonical_eq_orderBy element distinct.1,
        canonical_elements_eq_orderElements elements distinct.2]

theorem canonical_entries_eq_orderEntries
    [Std.TransCmp localeCompare]
    (entries : List (String × Json))
    (distinct : EveryEntry HasDistinctKeys entries) :
    ((kept entries).map fun entry => (entry.1, canonical localeCompare entry.2)) =
      orderEntries (keyLE localeCompare) (writtenEntries entries) := by
  cases entries with
  | nil => rfl
  | cons entry entries =>
      obtain ⟨key, value⟩ := entry
      have later := canonical_entries_eq_orderEntries entries distinct.2
      rw [kept] at later
      rw [kept, List.filter_cons, writtenEntries]
      by_cases isPrototype : key = "__proto__"
      · rw [if_pos isPrototype, if_neg (by simpa using isPrototype), later]
      · rw [if_neg isPrototype, if_pos (by simpa using isPrototype), List.map_cons,
          later, orderEntries, canonical_eq_orderBy value distinct.1]

end

/-- Two values have the same canonical text if and only if what is written of them is
equal up to the order of keys, with tied keys in the same order. -/
theorem canonicalStringify_eq_iff
    [Std.TransCmp localeCompare]
    {first second : Json}
    (firstDistinct : EveryPart HasDistinctKeys first)
    (secondDistinct : EveryPart HasDistinctKeys second) :
    canonicalStringify localeCompare first = canonicalStringify localeCompare second ↔
      Alike (SameTies (keyLE localeCompare)) (written first) (written second) := by
  rw [canonicalStringify, canonicalStringify, Json.stringify_eq_iff]
  change canonical localeCompare first = canonical localeCompare second ↔ _
  rw [canonical_eq_orderBy localeCompare first firstDistinct,
    canonical_eq_orderBy localeCompare second secondDistinct]
  exact Foundations.Json.orderBy_eq_iff (keyLE_preorder localeCompare) _ _
    (distinct_written first firstDistinct) (distinct_written second secondDistinct)

end Canonical

section Plain

variable (localeCompare : String → String → Ordering)

/-- A value is no infinity, and if it is an object, no key names the prototype and
no two keys are tied. -/
def IsPlain (value : Json) : Prop :=
  match value with
  | .infinity _ => False
  | .object entries =>
      (∀ entry ∈ entries, entry.1 ≠ "__proto__") ∧
        HasUntiedKeys (keyLE localeCompare) (.object entries)
  | _ => True

variable {localeCompare}

theorem IsPlain.hasUntiedKeys
    (value : Json)
    (plain : IsPlain localeCompare value) :
    HasUntiedKeys (keyLE localeCompare) value := by
  cases value with
  | object entries => exact plain.2
  | _ => exact trivial

theorem IsPlain.hasDistinctKeys
    [Std.TransCmp localeCompare]
    (value : Json)
    (plain : IsPlain localeCompare value) : HasDistinctKeys value := by
  cases value with
  | object entries =>
      refine List.Pairwise.imp ?_ plain.2
      rintro first _ areUntied rfl
      rw [(keyLE_preorder localeCompare).tied_self first] at areUntied
      cases areUntied
  | _ => exact trivial

mutual

/-- A plain value is written as it is. -/
theorem written_of_isPlain
    (value : Json)
    (plain : EveryPart (IsPlain localeCompare) value) : written value = value := by
  cases value with
  | infinity negative => cases plain
  | array elements =>
      exact congrArg Json.array (writtenElements_of_isPlain elements plain.2)
  | object entries =>
      exact congrArg Json.object
        (writtenEntries_of_isPlain entries plain.1.1 plain.2)
  | _ => rfl

theorem writtenElements_of_isPlain
    (elements : List Json)
    (plain : EveryElement (IsPlain localeCompare) elements) :
    writtenElements elements = elements := by
  cases elements with
  | nil => rfl
  | cons element elements =>
      rw [writtenElements, written_of_isPlain element plain.1,
        writtenElements_of_isPlain elements plain.2]

theorem writtenEntries_of_isPlain
    (entries : List (String × Json))
    (noPrototype : ∀ entry ∈ entries, entry.1 ≠ "__proto__")
    (plain : EveryEntry (IsPlain localeCompare) entries) :
    writtenEntries entries = entries := by
  cases entries with
  | nil => rfl
  | cons entry entries =>
      rw [List.forall_mem_cons] at noPrototype
      obtain ⟨key, value⟩ := entry
      rw [writtenEntries, if_neg noPrototype.1, written_of_isPlain value plain.1,
        writtenEntries_of_isPlain entries noPrototype.2 plain.2]

end

/-- Plain values have the same canonical text if and only if they are equal up to the
order of keys. -/
theorem canonicalStringify_eq_iff_of_isPlain
    [Std.TransCmp localeCompare]
    {first second : Json}
    (firstPlain : EveryPart (IsPlain localeCompare) first)
    (secondPlain : EveryPart (IsPlain localeCompare) second) :
    canonicalStringify localeCompare first = canonicalStringify localeCompare second ↔
      EqualUpToOrder first second := by
  rw [canonicalStringify_eq_iff localeCompare
      (firstPlain.imp IsPlain.hasDistinctKeys) (secondPlain.imp IsPlain.hasDistinctKeys),
    written_of_isPlain first firstPlain, written_of_isPlain second secondPlain]
  exact alike_iff_equalUpToOrder (keyLE_preorder localeCompare) first second
    (firstPlain.imp IsPlain.hasUntiedKeys)

end Plain

section Differences

variable (localeCompare : String → String → Ordering)

/-- What stands under this key is written. -/
def IsWritten (key : String) : Prop := key ≠ "__proto__"

/-- If two values are objects, their tied keys come in the same order where they are
written. -/
def SameTiedKeys (first second : Json) : Prop :=
  match first, second with
  | .object entries, .object others =>
      SameTies (keyLE localeCompare) ((kept entries).map Prod.fst)
        ((kept others).map Prod.fst)
  | _, _ => True

/-- Two objects both have an entry that names the prototype, with values that are
equal up to the order of keys, or neither has one. -/
def SamePrototype (entries others : List (String × Json)) : Prop :=
  ("__proto__" ∈ entries.map Prod.fst ↔ "__proto__" ∈ others.map Prod.fst) ∧
    ∀ value other, ("__proto__", value) ∈ entries →
      ("__proto__", other) ∈ others → EqualUpToOrder value other

/-- Two values do not differ in what is lost of them: an infinity is not at the place
of `null` or of the other infinity, and objects agree on the entry that names the
prototype. -/
def SameUnwritten (first second : Json) : Prop :=
  match first, second with
  | .infinity negative, .infinity other => negative = other
  | .infinity _, .null => False
  | .null, .infinity _ => False
  | .object entries, .object others => SamePrototype entries others
  | _, _ => True

/-- At every place that is written, tied keys come in the same order. -/
def KeepsTies : Json → Json → Prop :=
  EveryPlace IsWritten (SameTiedKeys localeCompare)

/-- At no place that is written is a difference lost. -/
def LosesNothing : Json → Json → Prop := EveryPlace IsWritten SameUnwritten

/-- The entries that are written. -/
theorem mem_writtenEntries
    {entries : List (String × Json)}
    {key : String}
    {value : Json} :
    (key, value) ∈ writtenEntries entries ↔
      IsWritten key ∧ ∃ original, (key, original) ∈ entries ∧
        written original = value := by
  induction entries with
  | nil => simp [writtenEntries]
  | cons entry entries inductionHypothesis =>
      obtain ⟨other, original⟩ := entry
      rw [writtenEntries]
      split_ifs with isPrototype
      · rw [inductionHypothesis]
        refine and_congr_right fun isWritten => exists_congr fun found => ?_
        have notFirst : (key, found) ≠ (other, original) := by
          rintro ⟨⟩
          exact isWritten isPrototype
        rw [List.mem_cons, or_iff_right notFirst]
      · rw [List.mem_cons, inductionHypothesis]
        constructor
        · rintro (⟨⟨⟩⟩ | ⟨isWritten, found, isEntry, rfl⟩)
          · exact ⟨isPrototype, original, List.mem_cons_self, rfl⟩
          · exact ⟨isWritten, found, List.mem_cons_of_mem _ isEntry, rfl⟩
        · rintro ⟨isWritten, found, isEntry, rfl⟩
          rcases List.mem_cons.1 isEntry with ⟨⟨⟩⟩ | isLater
          · exact .inl rfl
          · exact .inr ⟨isWritten, found, isLater, rfl⟩

/-- What holds of the values that are written under a key. -/
theorem forall_mem_writtenEntries
    {entries : List (String × Json)}
    {key : String}
    {holds : Json → Prop} :
    (∀ value, (key, value) ∈ writtenEntries entries → holds value) ↔
      (IsWritten key → ∀ value, (key, value) ∈ entries → holds (written value)) := by
  constructor
  · intro every isWritten value isEntry
    exact every _ (mem_writtenEntries.2 ⟨isWritten, value, isEntry, rfl⟩)
  · intro every value isEntry
    obtain ⟨isWritten, original, isOriginal, rfl⟩ := mem_writtenEntries.1 isEntry
    exact every isWritten original isOriginal

/-- The keys that are written are those that are kept. -/
theorem keys_writtenEntries_eq_kept (entries : List (String × Json)) :
    (writtenEntries entries).map Prod.fst = (kept entries).map Prod.fst := by
  rw [keys_writtenEntries, kept, List.filter_map]
  rfl

section Ties

mutual

/-- What is written of two values is alike with tied keys in the same order if and
only if it is equal up to the order of keys and the ties are kept. -/
theorem alike_written_iff
    [Std.TransCmp localeCompare]
    (first second : Json) :
    Alike (SameTies (keyLE localeCompare)) (written first) (written second) ↔
      EqualUpToOrder (written first) (written second) ∧
        KeepsTies localeCompare first second := by
  cases first with
  | array elements =>
      cases second with
      | array others =>
          refine (elementsAlike_written_iff elements others).trans ?_
          exact and_congr_right fun _ => (and_iff_right trivial).symm
      | _ => exact (and_iff_left trivial).symm
  | object entries =>
      cases second with
      | object others =>
          have values := entriesAlike_written_iff entries others
          change SameTies _ _ _ ∧ EntriesAlike _ _ _ ↔
            (List.Perm _ _ ∧ EntriesAlike _ _ _) ∧ SameTies _ _ _ ∧ EveryCommonKey _ _ _ _
          rw [values, keys_writtenEntries_eq_kept, keys_writtenEntries_eq_kept]
          constructor
          · rintro ⟨ties, alike, kept⟩
            exact ⟨⟨ties.perm (keyLE_preorder localeCompare), alike⟩, ties, kept⟩
          · rintro ⟨⟨_, alike⟩, ties, kept⟩
            exact ⟨ties, alike, kept⟩
      | _ => exact (and_iff_left trivial).symm
  | _ =>
      cases second with
      | _ => exact (and_iff_left trivial).symm

theorem elementsAlike_written_iff
    [Std.TransCmp localeCompare]
    (elements others : List Json) :
    ElementsAlike (SameTies (keyLE localeCompare)) (writtenElements elements)
        (writtenElements others) ↔
      ElementsAlike List.Perm (writtenElements elements) (writtenElements others) ∧
        EveryPair IsWritten (SameTiedKeys localeCompare) elements others := by
  cases elements with
  | nil =>
      cases others with
      | _ => exact (and_iff_left trivial).symm
  | cons element elements =>
      cases others with
      | nil => exact (and_iff_left trivial).symm
      | cons other others =>
          rw [writtenElements, writtenElements, ElementsAlike, ElementsAlike, EveryPair,
            alike_written_iff element other, elementsAlike_written_iff elements others]
          exact and_and_and_comm

theorem entriesAlike_written_iff
    [Std.TransCmp localeCompare]
    (entries others : List (String × Json)) :
    EntriesAlike (SameTies (keyLE localeCompare)) (writtenEntries entries)
        (writtenEntries others) ↔
      EntriesAlike List.Perm (writtenEntries entries) (writtenEntries others) ∧
        EveryCommonKey IsWritten (SameTiedKeys localeCompare) entries others := by
  cases entries with
  | nil => exact (and_iff_left trivial).symm
  | cons entry entries =>
      obtain ⟨key, value⟩ := entry
      have later := entriesAlike_written_iff entries others
      have same (other : Json) := alike_written_iff value other
      rw [writtenEntries, EveryCommonKey]
      by_cases isPrototype : key = "__proto__"
      · rw [if_pos isPrototype, later, and_congr_right_iff]
        intro _
        exact (and_iff_right fun isWritten => absurd isPrototype isWritten).symm
      · rw [if_neg isPrototype, EntriesAlike, EntriesAlike, later,
          forall_mem_writtenEntries, forall_mem_writtenEntries, and_and_and_comm,
          and_congr_left_iff]
        intro _
        simp only [same, imp_and, forall_and]
        exact Iff.rfl

end

end Ties

section Losses

/-- Distinct keys are the same if those that are written are, and both or neither
have the one that names the prototype. -/
theorem perm_iff_written
    {entries others : List (String × Json)}
    (firstDistinct : (entries.map Prod.fst).Nodup)
    (secondDistinct : (others.map Prod.fst).Nodup) :
    (entries.map Prod.fst).Perm (others.map Prod.fst) ↔
      ((writtenEntries entries).map Prod.fst).Perm
          ((writtenEntries others).map Prod.fst) ∧
        ("__proto__" ∈ entries.map Prod.fst ↔ "__proto__" ∈ others.map Prod.fst) := by
  rw [keys_writtenEntries, keys_writtenEntries,
    List.perm_ext_iff_of_nodup firstDistinct secondDistinct,
    List.perm_ext_iff_of_nodup (firstDistinct.filter _) (secondDistinct.filter _)]
  constructor
  · intro same
    exact ⟨fun key => by rw [List.mem_filter, List.mem_filter, same], same _⟩
  · rintro ⟨sameWritten, samePrototype⟩ key
    by_cases isPrototype : key = "__proto__"
    · rw [isPrototype]
      exact samePrototype
    · have same := sameWritten key
      rwa [List.mem_filter, List.mem_filter, and_iff_left (decide_eq_true isPrototype),
        and_iff_left (decide_eq_true isPrototype)] at same

mutual

/-- Two values are equal up to the order of keys if and only if what is written of
them is, and nothing is lost in which they differ. -/
theorem equalUpToOrder_iff_written
    (first second : Json)
    (firstDistinct : EveryPart HasDistinctKeys first)
    (secondDistinct : EveryPart HasDistinctKeys second) :
    EqualUpToOrder first second ↔
      EqualUpToOrder (written first) (written second) ∧ LosesNothing first second := by
  cases first with
  | array elements =>
      cases second with
      | array others =>
          refine (elementsAlike_iff_written elements others firstDistinct.2
            secondDistinct.2).trans ?_
          exact and_congr_right fun _ => (and_iff_right trivial).symm
      | _ => exact (and_iff_left trivial).symm
  | object entries =>
      cases second with
      | object others =>
          have values := entriesAlike_iff_written entries others firstDistinct.2
            secondDistinct.2
          have keys := perm_iff_written firstDistinct.1 secondDistinct.1
          change List.Perm _ _ ∧ EntriesAlike _ _ _ ↔
            (List.Perm _ _ ∧ EntriesAlike _ _ _) ∧ (_ ∧ _) ∧ EveryCommonKey _ _ _ _
          rw [values, keys]
          constructor
          · rintro ⟨⟨samePerm, sameMember⟩, alike, lost, prototypes⟩
            exact ⟨⟨samePerm, alike⟩, ⟨sameMember, prototypes⟩, lost⟩
          · rintro ⟨⟨samePerm, alike⟩, ⟨sameMember, prototypes⟩, lost⟩
            exact ⟨⟨samePerm, sameMember⟩, alike, lost, prototypes⟩
      | _ => exact (and_iff_left trivial).symm
  | infinity negative =>
      cases second with
      | infinity other => exact (and_iff_right trivial).symm
      | null => exact (and_iff_right trivial).symm
      | _ => exact (and_iff_left trivial).symm
  | null =>
      cases second with
      | infinity other => exact (and_iff_right trivial).symm
      | _ => exact (and_iff_left trivial).symm
  | _ =>
      cases second with
      | _ => exact (and_iff_left trivial).symm

theorem elementsAlike_iff_written
    (elements others : List Json)
    (firstDistinct : EveryElement HasDistinctKeys elements)
    (secondDistinct : EveryElement HasDistinctKeys others) :
    ElementsAlike List.Perm elements others ↔
      ElementsAlike List.Perm (writtenElements elements) (writtenElements others) ∧
        EveryPair IsWritten SameUnwritten elements others := by
  cases elements with
  | nil =>
      cases others with
      | _ => exact (and_iff_left trivial).symm
  | cons element elements =>
      cases others with
      | nil => exact (and_iff_left trivial).symm
      | cons other others =>
          have first := equalUpToOrder_iff_written element other firstDistinct.1
            secondDistinct.1
          have later := elementsAlike_iff_written elements others firstDistinct.2
            secondDistinct.2
          exact (and_congr first later).trans and_and_and_comm

theorem entriesAlike_iff_written
    (entries others : List (String × Json))
    (firstDistinct : EveryEntry HasDistinctKeys entries)
    (secondDistinct : EveryEntry HasDistinctKeys others) :
    EntriesAlike List.Perm entries others ↔
      EntriesAlike List.Perm (writtenEntries entries) (writtenEntries others) ∧
        EveryCommonKey IsWritten SameUnwritten entries others ∧
          ∀ value other, ("__proto__", value) ∈ entries →
            ("__proto__", other) ∈ others → EqualUpToOrder value other := by
  cases entries with
  | nil => exact iff_of_true trivial ⟨trivial, trivial, nofun⟩
  | cons entry entries =>
      obtain ⟨key, value⟩ := entry
      have later := entriesAlike_iff_written entries others firstDistinct.2
        secondDistinct
      have same (other : Json) (isOther : (key, other) ∈ others) :=
        equalUpToOrder_iff_written value other firstDistinct.1
          (secondDistinct.everyPart isOther)
      rw [writtenEntries, EntriesAlike, EveryCommonKey, later]
      by_cases isPrototype : key = "__proto__"
      · subst isPrototype
        rw [if_pos rfl]
        constructor
        · rintro ⟨first, areWritten, common, prototypes⟩
          refine ⟨areWritten, ⟨fun isWritten => absurd rfl isWritten, common⟩, ?_⟩
          intro found other isEntry isOther
          rcases List.mem_cons.1 isEntry with ⟨⟨⟩⟩ | isLater
          · exact first other isOther
          · exact prototypes found other isLater isOther
        · rintro ⟨areWritten, ⟨_, common⟩, prototypes⟩
          refine ⟨fun other => prototypes value other List.mem_cons_self, areWritten,
            common, fun found other isLater => ?_⟩
          exact prototypes found other (List.mem_cons_of_mem _ isLater)
      · rw [if_neg isPrototype, EntriesAlike, forall_mem_writtenEntries]
        have notFirst (found : Json) : ("__proto__", found) ≠ (key, value) :=
          fun isFirst => isPrototype (congrArg Prod.fst isFirst).symm
        simp only [List.mem_cons, notFirst, false_or]
        constructor
        · rintro ⟨first, areWritten, common, prototypes⟩
          refine ⟨⟨fun _ other isOther => ?_, areWritten⟩,
            ⟨fun _ other isOther => ?_, common⟩, prototypes⟩
          · exact ((same other isOther).1 (first other isOther)).1
          · exact ((same other isOther).1 (first other isOther)).2
        · rintro ⟨⟨first, areWritten⟩, ⟨firstCommon, common⟩, prototypes⟩
          refine ⟨fun other isOther => (same other isOther).2 ⟨?_, ?_⟩, areWritten,
            common, prototypes⟩
          · exact first isPrototype other isOther
          · exact firstCommon isPrototype other isOther

end

end Losses

/-- Two values have the same canonical text exactly when they are equal up to the
order of keys, unless what is written of them is equal up to that order and either
tied keys are reordered or a difference is lost, but not both. -/
theorem canonical_text_tells_apart_iff
    [Std.TransCmp localeCompare]
    {first second : Json}
    (firstDistinct : EveryPart HasDistinctKeys first)
    (secondDistinct : EveryPart HasDistinctKeys second) :
    (canonicalStringify localeCompare first =
        canonicalStringify localeCompare second ↔ EqualUpToOrder first second) ↔
      (EqualUpToOrder (written first) (written second) →
        (KeepsTies localeCompare first second ↔ LosesNothing first second)) := by
  rw [canonicalStringify_eq_iff localeCompare firstDistinct secondDistinct,
    alike_written_iff,
    equalUpToOrder_iff_written first second firstDistinct secondDistinct]
  exact and_congr_right_iff

/-- Plain values that are written alike keep their ties and lose nothing. -/
theorem keepsTies_and_losesNothing_of_isPlain
    [Std.TransCmp localeCompare]
    {first second : Json}
    (firstPlain : EveryPart (IsPlain localeCompare) first)
    (secondPlain : EveryPart (IsPlain localeCompare) second)
    (sameWritten : EqualUpToOrder (written first) (written second)) :
    KeepsTies localeCompare first second ∧ LosesNothing first second := by
  have ties := alike_written_iff localeCompare first second
  have losses := equalUpToOrder_iff_written first second
    (firstPlain.imp IsPlain.hasDistinctKeys) (secondPlain.imp IsPlain.hasDistinctKeys)
  rw [written_of_isPlain first firstPlain, written_of_isPlain second secondPlain]
    at ties losses sameWritten
  rw [alike_iff_equalUpToOrder (keyLE_preorder localeCompare) first second
    (firstPlain.imp IsPlain.hasUntiedKeys)] at ties
  exact ⟨(ties.1 sameWritten).2, (losses.1 sameWritten).2⟩

end Differences

section Sample

/-- An object with two keys and the same object with its keys in the other order. -/
def sampleObjects : Json × Json :=
  (.object [("b", .number 1), ("a", .number 0)],
    .object [("a", .number 0), ("b", .number 1)])

theorem isPlain_sampleObjects :
    EveryPart (IsPlain compare) sampleObjects.1 ∧
      EveryPart (IsPlain compare) sampleObjects.2 := by
  have noIndexA : arrayIndex "a" = none :=
    @arrayIndex_eq_none "a" 'a' (by decide) rfl
  have noIndexB : arrayIndex "b" = none :=
    @arrayIndex_eq_none "b" 'b' (by decide) rfl
  have untied : tied (keyLE compare) "a" "b" = false := by
    simp only [tied, keyLE, indexesFirst, noIndexA, noIndexB]
    decide
  have untied' : tied (keyLE compare) "b" "a" = false := by
    rw [tied, Bool.and_comm]
    exact untied
  refine ⟨⟨⟨?_, ?_⟩, trivial, trivial, trivial⟩, ⟨⟨?_, ?_⟩, trivial, trivial, trivial⟩⟩
  · decide
  · exact List.pairwise_pair.2 untied'
  · decide
  · exact List.pairwise_pair.2 untied

/-- The order of two plain keys does not matter. -/
theorem canonical_text_tells_apart_samples :
    let (first, second) := sampleObjects
    canonicalStringify compare first = canonicalStringify compare second ↔
      EqualUpToOrder first second :=
  (canonical_text_tells_apart_iff compare
    (isPlain_sampleObjects.1.imp IsPlain.hasDistinctKeys)
    (isPlain_sampleObjects.2.imp IsPlain.hasDistinctKeys)).2 fun sameWritten =>
      have plain := keepsTies_and_losesNothing_of_isPlain compare
        isPlain_sampleObjects.1 isPlain_sampleObjects.2 sameWritten
      iff_of_true plain.1 plain.2

/-- An entry that names the prototype is lost. -/
theorem prototype_entry_is_lost :
    let first := Json.object [("__proto__", .number 1)]
    let second := Json.object []
    ¬(canonicalStringify compare first = canonicalStringify compare second ↔
      EqualUpToOrder first second) := by
  intro first second same
  have distinct : EveryPart HasDistinctKeys first :=
    ⟨List.nodup_singleton _, trivial, trivial⟩
  have alsoDistinct : EveryPart HasDistinctKeys second := ⟨List.nodup_nil, trivial⟩
  have sameText : canonicalStringify compare first = canonicalStringify compare second :=
    (canonicalStringify_eq_iff compare distinct alsoDistinct).2
      ⟨fun _ => rfl, trivial⟩
  exact absurd (same.1 sameText).1 (List.not_perm_nil_cons _ _ ·.symm)

end Sample

end Cache
end AiGateway
