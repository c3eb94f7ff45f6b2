import Mathlib.Data.List.Basic

/-!
# Stable sorting

A stable sort by a total preorder keeps the order of elements that are tied. The
sorted list is the only one with that property, so two lists are sorted into the same
list if and only if their tied elements are in the same order.
-/

namespace AiGateway
namespace Foundations

section Sorting

/-- Two elements are tied if each may stand before the other. -/
def tied (le : α → α → Bool) (first second : α) : Bool :=
  le first second && le second first

/-- A total preorder, as a comparison. -/
structure TotalPreorder (le : α → α → Bool) : Prop where
  trans : ∀ first second third,
    le first second → le second third → le first third
  total : ∀ first second, le first second || le second first

/-- A finer test needs no coarser one before it. -/
theorem filter_filter_of_imp
    {fine coarse : α → Bool}
    (imp : ∀ element, fine element = true → coarse element = true)
    (elements : List α) :
    (elements.filter coarse).filter fine = elements.filter fine := by
  rw [List.filter_filter]
  refine List.filter_congr fun element _ => ?_
  cases isFine : fine element with
  | true => rw [imp element isFine, Bool.and_self]
  | false => rfl

variable {le : α → α → Bool}

namespace TotalPreorder

variable (preorder : TotalPreorder le)
include preorder

theorem tied_self (element : α) : tied le element element = true := by
  have := preorder.total element element
  rw [Bool.or_self] at this
  rw [tied, this, Bool.and_self]

theorem le_of_tied_of_tied
    {base first second : α}
    (firstTied : tied le base first = true)
    (secondTied : tied le base second = true) : le first second = true := by
  rw [tied, Bool.and_eq_true] at firstTied secondTied
  exact preorder.trans _ _ _ firstTied.2 secondTied.1

/-- Sorting keeps tied elements in their order. -/
theorem filter_mergeSort
    (elements : List α)
    (base : α) :
    (elements.mergeSort le).filter (tied le base) =
      elements.filter (tied le base) := by
  have areTied : (elements.filter (tied le base)).Pairwise
      fun first second => le first second = true := by
    refine List.pairwise_iff_forall_sublist.2 fun isSublist => ?_
    refine preorder.le_of_tied_of_tied
      (List.mem_filter.1 (isSublist.subset List.mem_cons_self)).2
      (List.mem_filter.1 (isSublist.subset ?_)).2
    exact List.mem_cons_of_mem _ List.mem_cons_self
  have isSublist := (List.sublist_mergeSort preorder.trans preorder.total areTied
    List.filter_sublist).filter (tied le base)
  simp only [List.filter_filter, Bool.and_self] at isSublist
  exact (isSublist.eq_of_length
    ((List.mergeSort_perm elements le).filter _).length_eq.symm).symm

theorem mem_of_filter_eq
    {first second : List α}
    (sameTies : ∀ base, first.filter (tied le base) = second.filter (tied le base))
    {element : α}
    (isElement : element ∈ first) : element ∈ second := by
  have isTied := List.mem_filter.2 ⟨isElement, preorder.tied_self element⟩
  rw [sameTies element] at isTied
  exact (List.mem_filter.1 isTied).1

/-- A sorted list is determined by its tied elements. -/
theorem eq_of_sorted
    {first second : List α}
    (firstSorted : first.Pairwise fun left right => le left right = true)
    (secondSorted : second.Pairwise fun left right => le left right = true)
    (sameTies : ∀ base, first.filter (tied le base) = second.filter (tied le base)) :
    first = second := by
  induction first generalizing second with
  | nil =>
      refine (List.eq_nil_iff_forall_not_mem.2 fun element isElement => ?_).symm
      cases preorder.mem_of_filter_eq (fun base => (sameTies base).symm) isElement
  | cons head first inductionHypothesis =>
      have inSecond := preorder.mem_of_filter_eq sameTies List.mem_cons_self
      cases second with
      | nil => cases inSecond
      | cons other second =>
          have inFirst := preorder.mem_of_filter_eq
            (fun base => (sameTies base).symm) List.mem_cons_self
          rw [List.pairwise_cons] at firstSorted secondSorted
          have leOther : le head other = true := by
            rcases List.mem_cons.1 inFirst with rfl | isLater
            · exact (Bool.and_eq_true_iff.1 (preorder.tied_self other)).1
            · exact firstSorted.1 other isLater
          have leHead : le other head = true := by
            rcases List.mem_cons.1 inSecond with rfl | isLater
            · exact (Bool.and_eq_true_iff.1 (preorder.tied_self head)).1
            · exact secondSorted.1 head isLater
          have areTied : tied le head other = true := by
            rw [tied, leOther, leHead, Bool.and_self]
          have sameHead := sameTies head
          rw [List.filter_cons_of_pos (preorder.tied_self head),
            List.filter_cons_of_pos areTied] at sameHead
          obtain rfl := (List.cons.inj sameHead).1
          refine congrArg (head :: ·) (inductionHypothesis firstSorted.2
            secondSorted.2 fun base => ?_)
          have sameBase := sameTies base
          rw [List.filter_cons, List.filter_cons] at sameBase
          by_cases isTied : tied le base head = true
          · rw [if_pos isTied, if_pos isTied] at sameBase
            exact (List.cons.inj sameBase).2
          · rwa [if_neg isTied, if_neg isTied] at sameBase

/-- A stably sorted list is the result of sorting. -/
theorem eq_mergeSort
    {elements sorted : List α}
    (isSorted : sorted.Pairwise fun left right => le left right = true)
    (sameTies : ∀ base,
      sorted.filter (tied le base) = elements.filter (tied le base)) :
    sorted = elements.mergeSort le :=
  preorder.eq_of_sorted isSorted
    (List.pairwise_mergeSort preorder.trans preorder.total elements)
    fun base => (sameTies base).trans (preorder.filter_mergeSort elements base).symm

/-- Two lists are sorted alike if their tied elements are in the same order. -/
theorem mergeSort_eq_mergeSort_iff {first second : List α} :
    first.mergeSort le = second.mergeSort le ↔
      ∀ base, first.filter (tied le base) = second.filter (tied le base) := by
  constructor
  · intro sameSorted base
    rw [← preorder.filter_mergeSort first, sameSorted, preorder.filter_mergeSort]
  · intro sameTies
    refine preorder.eq_mergeSort
      (List.pairwise_mergeSort preorder.trans preorder.total first) fun base => ?_
    rw [preorder.filter_mergeSort, sameTies]

end TotalPreorder

end Sorting

end Foundations
end AiGateway
