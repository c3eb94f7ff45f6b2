import AiGateway.Foundations.JsonObject
import AiGateway.Foundations.JsonOrder
import Mathlib.Data.List.Induction

/-!
# Building an object in the order of its keys

An object that is built by assigning entries in the order of their keys enumerates
them in that order, apart from array indexes, which come first, and from the key that
names the prototype, which is not among its properties.
-/

namespace AiGateway
namespace Foundations
namespace Json

section Order

/-- Array indexes in increasing order, and then the other keys by a comparison. -/
def indexesFirst
    (le : String → String → Bool)
    (first second : String) : Bool :=
  match arrayIndex first, arrayIndex second with
  | some index, some other => index ≤ other
  | some _, none => true
  | none, some _ => false
  | none, none => le first second

variable {le : String → String → Bool}

/-- An array index spells one key. -/
theorem eq_repr_of_arrayIndex
    {key : String}
    {index : Nat}
    (isIndex : arrayIndex key = some index) : key = index.repr := by
  have facts := (Option.filter_eq_some_iff.1 isIndex).2
  rw [decide_eq_true_eq] at facts
  exact facts.1.symm

/-- A key with a character other than a digit is no array index. -/
theorem arrayIndex_eq_none
    {key : String}
    {char : Char}
    (isChar : char ∈ key.toList)
    (notDigit : char.isDigit = false) : arrayIndex key = none := by
  cases isIndex : arrayIndex key with
  | none => rfl
  | some index =>
      rw [eq_repr_of_arrayIndex isIndex, Nat.toList_repr] at isChar
      rw [Decimal.allDigits_toDigits index char isChar] at notDigit
      cases notDigit

theorem indexesFirst_preorder (preorder : TotalPreorder le) :
    TotalPreorder (indexesFirst le) where
  trans first second third := by
    unfold indexesFirst
    cases arrayIndex first <;> cases arrayIndex second <;> cases arrayIndex third <;>
      simp
    · exact preorder.trans _ _ _
    · exact Nat.le_trans
  total first second := by
    unfold indexesFirst
    cases arrayIndex first <;> cases arrayIndex second <;> simp
    · exact Bool.or_eq_true_iff.1 (preorder.total first second)
    · exact Nat.le_total _ _

/-- Keys that are tied are both array indexes or both not. -/
theorem arrayIndex_eq_of_tied
    {first second : String}
    (areTied : tied (indexesFirst le) first second = true) :
    arrayIndex second = arrayIndex first := by
  unfold tied indexesFirst at areTied
  cases isFirst : arrayIndex first <;> cases isSecond : arrayIndex second <;>
    simp [isFirst, isSecond] at areTied ⊢
  omega

/-- Keys that are tied with array indexes first are tied without. -/
theorem tied_of_tied_indexesFirst
    (preorder : TotalPreorder le)
    {first second : String}
    (areTied : tied (indexesFirst le) first second = true) :
    tied le first second = true := by
  have sameIndex := arrayIndex_eq_of_tied areTied
  cases isFirst : arrayIndex first with
  | none =>
      rw [isFirst] at sameIndex
      simpa only [tied, indexesFirst, isFirst, sameIndex] using areTied
  | some index =>
      rw [isFirst] at sameIndex
      rw [eq_repr_of_arrayIndex isFirst, eq_repr_of_arrayIndex sameIndex]
      exact preorder.tied_self _

end Order

section Insertion

variable {entries : List (String × Json)} {key : String} {value : Json}

/-- The entries of an object are enumerated as JavaScript does. -/
def Enumerated (entries : List (String × Json)) : Prop :=
  entries.Pairwise fun first second =>
    ∀ index ∈ arrayIndex second.1, precedes index first = true

/-- The entries with an array index, or with none. -/
def withIndex
    (index : Option Nat)
    (entries : List (String × Json)) : List (String × Json) :=
  entries.filter fun entry => arrayIndex entry.1 = index

/-- A new property comes after those with the same index. -/
theorem withIndex_insertEntry
    (isNew : key ∉ entries.map Prod.fst)
    (index : Option Nat) :
    withIndex index (insertEntry key value entries) =
      withIndex index entries ++ withIndex index [(key, value)] := by
  unfold insertEntry
  cases isIndex : arrayIndex key with
  | none => exact List.filter_append ..
  | some keyIndex =>
      dsimp only
      have split : withIndex index entries =
          withIndex index (entries.takeWhile (precedes keyIndex)) ++
            withIndex index (entries.dropWhile (precedes keyIndex)) := by
        rw [withIndex, withIndex, withIndex, ← List.filter_append,
          List.takeWhile_append_dropWhile]
      by_cases isSame : some keyIndex = index
      · have noOther : withIndex index entries = [] := by
          refine List.filter_eq_nil_iff.2 fun entry isEntry hasIndex => isNew ?_
          rw [decide_eq_true_eq, ← isSame] at hasIndex
          rw [eq_repr_of_arrayIndex isIndex, ← eq_repr_of_arrayIndex hasIndex]
          exact List.mem_map_of_mem isEntry
        have bothEmpty := List.append_eq_nil_iff.1 (split.symm.trans noOther)
        have notBefore := bothEmpty.1
        have notAfter := bothEmpty.2
        unfold withIndex at notBefore notAfter noOther ⊢
        rw [List.filter_append, List.filter_cons, notBefore, notAfter, noOther,
          isIndex, if_pos (decide_eq_true isSame), List.filter_cons, isIndex,
          if_pos (decide_eq_true isSame)]
        rfl
      · have notIndex : withIndex index [(key, value)] = [] :=
          List.filter_eq_nil_iff.2 fun entry isEntry hasIndex => isSame (by
            rw [decide_eq_true_eq, List.mem_singleton.1 isEntry, isIndex] at hasIndex
            exact hasIndex)
        rw [notIndex, List.append_nil, split]
        unfold withIndex at notIndex ⊢
        rw [List.filter_append, ← List.singleton_append, List.filter_append, notIndex,
          List.nil_append]

theorem precedes_eq_true_iff
    {index : Nat}
    {entry : String × Json} :
    precedes index entry = true ↔ ∃ other ∈ arrayIndex entry.1, other < index := by
  unfold precedes
  cases arrayIndex entry.1 <;> simp

/-- After the entries before an index none comes before it. -/
theorem Enumerated.not_precedes_of_mem_dropWhile
    (enumerated : Enumerated entries)
    {index : Nat}
    {entry : String × Json}
    (isLater : entry ∈ entries.dropWhile (precedes index)) :
    ¬precedes index entry = true := by
  have laterEnumerated := List.Pairwise.sublist
    (List.dropWhile_sublist (precedes index)) enumerated
  have headFacts := List.head?_dropWhile_not (precedes index) entries
  cases split : entries.dropWhile (precedes index) with
  | nil =>
      rw [split] at isLater
      cases isLater
  | cons first later =>
      rw [split] at isLater laterEnumerated headFacts
      have notFirst : ¬precedes index first = true := by
        simpa using headFacts
      rcases List.mem_cons.1 isLater with rfl | isLater
      · exact notFirst
      · intro isBefore
        obtain ⟨other, isOther, isLess⟩ := precedes_eq_true_iff.1 isBefore
        obtain ⟨least, isLeast, leastLess⟩ := precedes_eq_true_iff.1
          ((List.pairwise_cons.1 laterEnumerated).1 entry isLater other isOther)
        exact notFirst (precedes_eq_true_iff.2
          ⟨least, isLeast, leastLess.trans isLess⟩)

/-- A new property keeps the order of enumeration. -/
theorem Enumerated.insertEntry
    (enumerated : Enumerated entries)
    (isNew : key ∉ entries.map Prod.fst) :
    Enumerated (insertEntry key value entries) := by
  unfold Json.insertEntry
  cases isIndex : arrayIndex key with
  | none =>
      refine List.pairwise_append.2 ⟨enumerated, List.pairwise_singleton _ _, ?_⟩
      intro first _ second isSecond index isSecondIndex
      rw [List.mem_singleton.1 isSecond, isIndex] at isSecondIndex
      cases isSecondIndex
  | some keyIndex =>
      have split := enumerated
      rw [Enumerated, ← @List.takeWhile_append_dropWhile _ (precedes keyIndex) entries,
        List.pairwise_append] at split
      obtain ⟨before, after, between⟩ := split
      refine List.pairwise_append.2 ⟨before, List.pairwise_cons.2 ⟨?_, after⟩, ?_⟩
      · intro entry isLater index isEntryIndex
        refine precedes_eq_true_iff.2 ⟨keyIndex, isIndex, ?_⟩
        have notBefore := enumerated.not_precedes_of_mem_dropWhile isLater
        refine lt_of_le_of_ne ?_ ?_
        · exact Nat.le_of_not_lt fun isLess =>
            notBefore (precedes_eq_true_iff.2 ⟨index, isEntryIndex, isLess⟩)
        · rintro rfl
          refine isNew ?_
          rw [eq_repr_of_arrayIndex isIndex, ← eq_repr_of_arrayIndex isEntryIndex]
          exact List.mem_map_of_mem ((List.dropWhile_sublist _).subset isLater)
      · intro first isFirst second isSecond
        rcases List.mem_cons.1 isSecond with rfl | isLater
        · intro index isSecondIndex
          cases isIndex.symm.trans isSecondIndex
          exact List.mem_takeWhile_imp isFirst
        · exact between first isFirst second isLater

end Insertion

section Building

/-- The entries that become properties of an object. -/
def kept (entries : List (String × Json)) : List (String × Json) :=
  entries.filter fun entry => entry.1 ≠ "__proto__"

/-- The object that is built by assigning some entries. -/
def build (entries : List (String × Json)) : List (String × Json) :=
  entries.foldl (fun object entry => assign object entry.1 entry.2) []

/-- An object that is built of entries with distinct keys enumerates those with an
array index, and those without, in the order of their assignments. -/
theorem build_facts
    {entries : List (String × Json)}
    (distinct : (entries.map Prod.fst).Nodup) :
    Enumerated (build entries) ∧
      ∀ index, withIndex index (build entries) = withIndex index (kept entries) := by
  induction entries using List.reverseRecOn with
  | nil => exact ⟨List.Pairwise.nil, fun _ => rfl⟩
  | append_singleton entries entry inductionHypothesis =>
      obtain ⟨key, value⟩ := entry
      rw [List.map_append, List.nodup_append] at distinct
      obtain ⟨enumerated, sameIndexes⟩ := inductionHypothesis distinct.1
      have isNew : key ∉ (build entries).map Prod.fst := by
        rw [List.mem_map]
        rintro ⟨entry, isEntry, rfl⟩
        have isBuilt : entry ∈ withIndex (arrayIndex entry.1) (build entries) :=
          List.mem_filter.2 ⟨isEntry, decide_eq_true rfl⟩
        rw [sameIndexes] at isBuilt
        have isOld : entry ∈ entries :=
          List.mem_of_mem_filter (List.mem_of_mem_filter isBuilt)
        exact distinct.2.2 entry.1 (List.mem_map_of_mem isOld) entry.1
          List.mem_cons_self rfl
      have built : build (entries ++ [(key, value)]) =
          assign (build entries) key value := List.foldl_append
      rw [built, assign]
      by_cases isPrototype : key = "__proto__"
      · have keptEq : kept (entries ++ [(key, value)]) = kept entries := by
          rw [kept, List.filter_append, isPrototype]
          exact List.append_nil _
        rw [if_pos isPrototype, keptEq]
        exact ⟨enumerated, sameIndexes⟩
      · have keptEq : kept (entries ++ [(key, value)]) =
            kept entries ++ [(key, value)] := by
          rw [kept, List.filter_append, List.filter_cons_of_pos]
          · rfl
          · exact decide_eq_true isPrototype
        rw [if_neg isPrototype, if_neg isNew, keptEq]
        refine ⟨enumerated.insertEntry isNew, fun index => ?_⟩
        rw [withIndex_insertEntry isNew, sameIndexes]
        exact (List.filter_append ..).symm

variable {le : String → String → Bool}

/-- What an object is built of in the order of its keys is sorted with array indexes
first. -/
theorem pairwise_build
    {entries : List (String × Json)}
    (distinct : (entries.map Prod.fst).Nodup)
    (isSorted : entries.Pairwise fun first second =>
      entryLE le first second = true) :
    (build entries).Pairwise fun first second =>
      entryLE (indexesFirst le) first second = true := by
  obtain ⟨enumerated, sameIndexes⟩ := build_facts distinct
  have others : (withIndex none (build entries)).Pairwise fun first second =>
      entryLE le first second = true := by
    rw [sameIndexes]
    exact isSorted.sublist (List.filter_sublist.trans List.filter_sublist)
  refine (List.Pairwise.and enumerated (List.pairwise_filter.1 others)).imp ?_
  rintro first second ⟨inOrder, otherOrder⟩
  rw [entryLE, indexesFirst]
  cases isSecond : arrayIndex second.1 with
  | none =>
      cases isFirst : arrayIndex first.1 with
      | none => exact otherOrder (decide_eq_true isFirst) (decide_eq_true isSecond)
      | some index => rfl
  | some index =>
      obtain ⟨other, isOther, isLess⟩ :=
        precedes_eq_true_iff.1 (inOrder index isSecond)
      rw [Option.mem_def.1 isOther]
      exact decide_eq_true isLess.le

/-- Assigning entries in the order of their keys sorts them, with array indexes
first, and drops the one that names the prototype. -/
theorem build_mergeSort
    (preorder : TotalPreorder le)
    {entries : List (String × Json)}
    (distinct : (entries.map Prod.fst).Nodup) :
    build (entries.mergeSort (entryLE le)) =
      (kept entries).mergeSort (entryLE (indexesFirst le)) := by
  have sorted := List.pairwise_mergeSort (entryLE_preorder preorder).trans
    (entryLE_preorder preorder).total entries
  have sortedDistinct :
      ((entries.mergeSort (entryLE le)).map Prod.fst).Nodup :=
    (((List.mergeSort_perm entries _).map Prod.fst).nodup_iff).2 distinct
  refine (entryLE_preorder (indexesFirst_preorder preorder)).eq_mergeSort
    (pairwise_build sortedDistinct sorted) fun base => ?_
  have sameIndex (list : List (String × Json)) :
      (withIndex (arrayIndex base.1) list).filter
          (tied (entryLE (indexesFirst le)) base) =
        list.filter (tied (entryLE (indexesFirst le)) base) :=
    filter_filter_of_imp
      (fun _ areTied => decide_eq_true (arrayIndex_eq_of_tied areTied)) list
  have sameTies (list : List (String × Json)) :
      (list.filter (tied (entryLE le) base)).filter
          (tied (entryLE (indexesFirst le)) base) =
        list.filter (tied (entryLE (indexesFirst le)) base) :=
    filter_filter_of_imp (fun _ => tied_of_tied_indexesFirst preorder) list
  calc (build (entries.mergeSort (entryLE le))).filter
          (tied (entryLE (indexesFirst le)) base)
      = (kept (entries.mergeSort (entryLE le))).filter
          (tied (entryLE (indexesFirst le)) base) := by
        rw [← sameIndex (build _), (build_facts sortedDistinct).2, sameIndex]
    _ = kept ((entries.mergeSort (entryLE le)).filter
          (tied (entryLE (indexesFirst le)) base)) := List.filter_comm ..
    _ = kept (entries.filter (tied (entryLE (indexesFirst le)) base)) := by
        rw [← sameTies, (entryLE_preorder preorder).filter_mergeSort, sameTies]
    _ = (kept entries).filter (tied (entryLE (indexesFirst le)) base) :=
        List.filter_comm ..

end Building

end Json
end Foundations
end AiGateway
