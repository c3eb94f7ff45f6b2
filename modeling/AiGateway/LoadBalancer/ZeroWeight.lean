import AiGateway.Foundations.Runs
import AiGateway.LoadBalancer.WeightedRoundRobin
import Mathlib.Algebra.Order.BigOperators.Group.List

/-!
# Candidates of weight zero

The current weights of a set of candidates always sum to zero, so after the
weights of a selection are added some candidate is above zero. It need not be
one of positive weight: a candidate may still have what it was owed when its
weight was set to zero.
-/

namespace AiGateway
namespace LoadBalancer

open Foundations

section Model

/-- A set of candidates, by their ids. -/
structure CandidateSet where
  ids : List String
  distinct : ids.Nodup

/-- A call of `select` for a set of candidates, which lists them in some order
with the weights they have at the time. -/
structure Selection (set : CandidateSet) where
  clock : Nat
  draw : Nat
  call : ScriptCall
  candidates : List Candidate
  sameSet : (candidates.map Candidate.id).Perm set.ids

variable (functions : KeyFunctions) {set : CandidateSet}

/-- The hashes after a call of `select`. -/
def afterSelection (hashes : Hashes) (selection : Selection set) : Hashes :=
  (select functions selection.clock selection.draw selection.call
    selection.candidates hashes).2

/-- A candidate is picked by the script, or the call returns it. -/
def Selected
    (hashes : Hashes)
    (selection : Selection set)
    (candidate : Candidate) : Prop :=
  selection.call ≠ .notRun ∧
      (runScript functions selection.clock selection.candidates hashes).1 =
        some candidate.id ∨
    (select functions selection.clock selection.draw selection.call
      selection.candidates hashes).1.toOption = some (some candidate)

/-- Some candidate has a positive weight. -/
def Selection.HasPositive (selection : Selection set) : Prop :=
  ∃ candidate ∈ selection.candidates, 0 < candidate.share

/-- While some candidate has a positive weight, only such candidates are
selected. -/
def SelectsPositive (hashes : Hashes) (selection : Selection set) : Prop :=
  selection.HasPositive →
    ∀ candidate ∈ selection.candidates,
      Selected functions hashes selection candidate → 0 < candidate.share

/-- The current weight of a candidate before a selection. -/
def weightBefore
    (hashes : Hashes)
    (selection : Selection set)
    (candidate : Candidate) : Int :=
  currentWeight selection.clock
    (hashes (wrrKey functions selection.candidates)) candidate.id

/-- While some candidate has a positive weight, each candidate of weight zero
whose current weight is still positive has one of positive weight ahead of it,
once the weights are added. -/
def Outranked (hashes : Hashes) (selection : Selection set) : Prop :=
  selection.call ≠ .notRun → selection.HasPositive →
    ∀ idle ∈ selection.candidates, idle.share = 0 →
      0 < weightBefore functions hashes selection idle →
        ∃ other ∈ selection.candidates, 0 < other.share ∧
          Ahead (fun candidate =>
              weightBefore functions hashes selection candidate +
                candidate.share)
            selection.candidates other idle

end Model

section Selecting

variable {functions : KeyFunctions} {set : CandidateSet} {hashes : Hashes}
  {selection : Selection set}

theorem Selection.distinct_ids (selection : Selection set) :
    (selection.candidates.map Candidate.id).Nodup :=
  selection.sameSet.nodup_iff.2 set.distinct

theorem Selection.distinct_arguments (selection : Selection set) :
    ((selection.candidates.map Candidate.argument).map Prod.fst).Nodup := by
  rw [List.map_map]
  exact selection.distinct_ids

/-- Candidates of a selection with the same id are the same. -/
theorem Selection.eq_of_id_eq
    (selection : Selection set)
    {first second : Candidate}
    (isFirst : first ∈ selection.candidates)
    (isSecond : second ∈ selection.candidates)
    (same : first.id = second.id) :
    first = second :=
  List.inj_on_of_nodup_map selection.distinct_ids isFirst isSecond same

variable (functions hashes) in
/-- A run of the script picks the first candidate with the largest raised
weight. -/
theorem exists_runScript_picks (nonempty : selection.candidates ≠ []) :
    ∃ best ∈ selection.candidates,
      IsFirstMax (fun candidate =>
          weightBefore functions hashes selection candidate + candidate.share)
        selection.candidates best ∧
      Picks selection.clock wrrStateTtlMs
        (hashes (wrrKey functions selection.candidates))
        (selection.candidates.map Candidate.argument) best.argument := by
  obtain ⟨argument, picks⟩ : ∃ best, Picks selection.clock wrrStateTtlMs
      (hashes (wrrKey functions selection.candidates))
      (selection.candidates.map Candidate.argument) best :=
    exists_picks _ (List.map_eq_nil_iff.not.2 nonempty)
      selection.distinct_arguments
  obtain ⟨best, rfl, isFirst⟩ := exists_isFirstMax_of_map picks.isFirst
  exact ⟨best, isFirst.mem, isFirst, picks⟩

theorem sum_argument :
    ((selection.candidates.map Candidate.argument).map Prod.snd).sum =
      (selection.candidates.map Candidate.share).sum := by
  rw [List.map_map]
  rfl

theorem Selection.HasPositive.sum_pos (positive : selection.HasPositive) :
    0 < (selection.candidates.map Candidate.share).sum := by
  obtain ⟨candidate, isCandidate, isPositive⟩ := positive
  refine Int.lt_of_lt_of_le isPositive
    (List.single_le_sum ?_ _ (List.mem_map_of_mem isCandidate))
  intro share isShare
  obtain ⟨other, -, rfl⟩ := List.mem_map.1 isShare
  exact other.share_nonneg

theorem Selection.HasPositive.ne_nil (positive : selection.HasPositive) :
    selection.candidates ≠ [] := by
  obtain ⟨candidate, isCandidate, -⟩ := positive
  exact List.ne_nil_of_mem isCandidate

/-- A selection leaves a hash as it is, or runs the script on it. -/
theorem afterSelection_cases
    (selection : Selection set)
    (name : String) :
    afterSelection functions hashes selection name = hashes name ∨
      ∃ best, Picks selection.clock wrrStateTtlMs (hashes name)
          (selection.candidates.map Candidate.argument) best ∧
        afterSelection functions hashes selection name =
          (smoothWrrLua selection.clock wrrStateTtlMs
            (selection.candidates.map Candidate.argument) (hashes name)).2 := by
  rw [afterSelection, select_hashes]
  split_ifs with unchanged
  · exact .inl rfl
  · rw [not_or] at unchanged
    by_cases isName : name = wrrKey functions selection.candidates
    · obtain ⟨best, -, -, picks⟩ :=
        exists_runScript_picks functions hashes unchanged.1
      rw [isName, Function.update_self]
      exact .inr ⟨_, picks, rfl⟩
    · rw [Function.update_of_ne isName]
      exact .inl rfl

/-- The current weights of the set sum to zero at any time, under any name. -/
def Balanced (set : CandidateSet) (hashes : Hashes) : Prop :=
  ∀ name later,
    (set.ids.map fun id => currentWeight later (hashes name) id).sum = 0

/-- The sum over the set is the sum over the candidates of a selection. -/
theorem Selection.sum_ids (selection : Selection set) (value : String → Int) :
    (set.ids.map value).sum =
      (selection.candidates.map fun candidate => value candidate.id).sum := by
  rw [← (selection.sameSet.map value).sum_eq, List.map_map]
  rfl

/-- A selection keeps the balance. -/
theorem Balanced.afterSelection
    (balanced : Balanced set hashes)
    (selection : Selection set) :
    Balanced set (afterSelection functions hashes selection) := by
  intro name later
  rcases afterSelection_cases selection name with
    unchanged | ⟨best, picks, written⟩
  · rw [unchanged]
    exact balanced name later
  · have kept := picks.sum_currentWeight
      (selection.distinct_arguments.of_map Prod.fst) later
    rw [List.map_map, List.map_map] at kept
    rw [written, selection.sum_ids]
    refine kept.trans ?_
    split_ifs
    · exact (selection.sum_ids _).symm.trans (balanced name selection.clock)
    · rfl

variable (functions) in
/-- When the weights are added, some candidate is above zero. -/
theorem Balanced.exists_raised_pos
    (balanced : Balanced set hashes)
    (positive : selection.HasPositive) :
    ∃ candidate ∈ selection.candidates,
      0 < weightBefore functions hashes selection candidate +
        candidate.share := by
  have sumBefore : (selection.candidates.map
      (weightBefore functions hashes selection)).sum = 0 :=
    (selection.sum_ids _).symm.trans
      (balanced (wrrKey functions selection.candidates) selection.clock)
  refine List.exists_lt_of_sum_lt (fun _ => 0) _ ?_
  rw [List.sum_map_add, sumBefore, zero_add]
  simpa using positive.sum_pos

/-- While the weights are balanced, a selection goes to a candidate of positive
weight exactly when those of weight zero are outranked. -/
theorem Balanced.outranked_iff
    (balanced : Balanced set hashes)
    (selection : Selection set) :
    Outranked functions hashes selection ↔
      SelectsPositive functions hashes selection := by
  constructor
  · intro outranked positive candidate isCandidate selected
    have picked : (selection.call ≠ .notRun ∧
        (runScript functions selection.clock selection.candidates hashes).1 =
          some candidate.id) ∨
        weightedRandom selection.draw selection.candidates = some candidate := by
      rcases selected with picked | returned
      · exact .inl picked
      · rcases select_candidate returned with ⟨answered, picked⟩ | drawn
        · exact .inl ⟨by rw [answered]; decide, picked⟩
        · exact .inr drawn
    rcases picked with ⟨ran, picked⟩ | drawn
    · obtain ⟨best, isBest, isFirst, picks⟩ :=
        exists_runScript_picks functions hashes
          positive.ne_nil
      have sameId : candidate.id = best.id :=
        Option.some_inj.1 (picked.symm.trans picks.answer)
      obtain rfl := selection.eq_of_id_eq isCandidate isBest sameId
      by_contra notPositive
      have idle : candidate.share = 0 := by
        have nonnegative := candidate.share_nonneg
        omega
      obtain ⟨raised, isRaised, above⟩ :=
        balanced.exists_raised_pos functions positive
      have atLeast := isFirst.le isRaised
      obtain ⟨other, isOther, -, ahead⟩ :=
        outranked ran positive candidate isCandidate idle (by omega)
      exact isFirst.not_ahead isOther ahead
    · obtain ⟨chosen, -, isChosen, isPositive⟩ :=
        exists_weightedRandom selection.draw positive.sum_pos
      rw [drawn] at isChosen
      rwa [Option.some_inj.1 isChosen]
  · intro selectsPositive ran positive idle isIdle isZero _
    obtain ⟨best, isBest, isFirst, picks⟩ :=
      exists_runScript_picks functions hashes
        positive.ne_nil
    have isPositive : 0 < best.share :=
      selectsPositive positive best isBest (.inl ⟨ran, picks.answer⟩)
    refine ⟨best, isBest, isPositive, isFirst.ahead isIdle ?_⟩
    rintro rfl
    omega

end Selecting

section Runs

variable (functions : KeyFunctions) {set : CandidateSet}

theorem balanced_empty : Balanced set fun _ => none := by
  intro name later
  simp

/-- Along a run the current weights sum to zero, so outranking decides every
selection. -/
theorem everyStep_outranked_iff (selections : List (Selection set)) :
    EveryStep (afterSelection functions) (Outranked functions)
        (fun _ => none) selections ↔
      EveryStep (afterSelection functions) (SelectsPositive functions)
        (fun _ => none) selections :=
  EveryStep.iff_of_invariant (Balanced set)
    (fun _ selection balanced => balanced.afterSelection selection)
    (fun _ selection balanced => balanced.outranked_iff selection)
    balanced_empty selections

/-- In every run of selections for a set of candidates, whatever their weights
are at each selection, in whatever order they are listed, and whenever the
current weights lapse: no candidate of weight zero is selected while another has
a positive weight, exactly when at each run of the script those of weight zero
that still have a positive current weight are outranked. -/
theorem selectsPositive_iff_outranked (selections : List (Selection set)) :
    EveryStep (afterSelection functions) (SelectsPositive functions)
        (fun _ => none) selections ↔
      EveryStep (afterSelection functions) (Outranked functions)
        (fun _ => none) selections :=
  (everyStep_outranked_iff functions selections).symm

/-- Two candidates of weight one take turns, so after the first selection the
second one is owed the next. Its weight is then set to zero, and it is selected
all the same. -/
theorem zero_weight_selected :
    ¬ EveryStep
      (afterSelection
        { localeCompare := compare
          sha256Hex := fun _ => "c0ffee0123456789abcdef"
          defaultPrefix := "aigw:" })
      (SelectsPositive
        { localeCompare := compare
          sha256Hex := fun _ => "c0ffee0123456789abcdef"
          defaultPrefix := "aigw:" })
      (fun _ => none)
      ([{ clock := 0, draw := 0, call := .answered
          candidates := [⟨"a", 1⟩, ⟨"b", 1⟩], sameSet := .refl _ },
        { clock := 1000, draw := 0, call := .answered
          candidates := [⟨"a", 1⟩, ⟨"b", 0⟩], sameSet := .refl _ }] :
        List (Selection ⟨["a", "b"], by decide⟩)) := by
  intro every
  have positive := every.2.1 ⟨⟨"a", 1⟩, by decide, by decide⟩ ⟨"b", 0⟩
    (by decide) (.inl ⟨by decide, by decide⟩)
  revert positive
  decide

/-- No weight is set to zero: a candidate of weight zero had weight zero in all
selections before. -/
def NeverZeroed (selections : List (Selection set)) : Prop :=
  selections.Pairwise fun earlier later =>
    ∀ candidate ∈ later.candidates, candidate.share = 0 →
      ∀ old ∈ earlier.candidates, old.id = candidate.id → old.share = 0

variable {functions}

/-- A candidate of weight zero that has no positive current weight gets none. -/
theorem currentWeight_afterSelection_nonpos
    {hashes : Hashes}
    {selection : Selection set}
    {id : String}
    (isId : id ∈ set.ids)
    (idle : ∀ old ∈ selection.candidates, old.id = id → old.share = 0)
    (before : ∀ name later, currentWeight later (hashes name) id ≤ 0)
    (name : String)
    (later : Nat) :
    currentWeight later (afterSelection functions hashes selection name) id ≤
      0 := by
  rcases afterSelection_cases selection name with
    unchanged | ⟨best, picks, written⟩
  · rw [unchanged]
    exact before name later
  · obtain ⟨candidate, isCandidate, rfl⟩ :=
      List.mem_map.1 (selection.sameSet.mem_iff.2 isId)
    have stored := picks.stored later candidate.argument
      (List.mem_map_of_mem isCandidate)
    have raised : raisedWeight selection.clock (hashes name)
        candidate.argument ≤ 0 := by
      have share := idle candidate isCandidate rfl
      have current := before name selection.clock
      change currentWeight _ _ candidate.id + candidate.share ≤ 0
      omega
    have total : 0 ≤ (selection.candidates.map Candidate.share).sum := by
      refine List.sum_nonneg fun share isShare => ?_
      obtain ⟨other, -, rfl⟩ := List.mem_map.1 isShare
      exact other.share_nonneg
    rw [written]
    refine stored.trans_le ?_
    rw [sum_argument]
    split_ifs <;> omega

/-- In a run in which weights are changed but none is set to zero, no candidate
of weight zero is selected while another has a positive weight. -/
theorem NeverZeroed.selectsPositive
    {selections : List (Selection set)}
    (never : NeverZeroed selections) :
    EveryStep (afterSelection functions) (SelectsPositive functions)
      (fun _ => none) selections := by
  rw [← everyStep_outranked_iff, everyStep_iff_split]
  rintro before selection after rfl ran positive idle isIdle isZero isOwed
  have zeroBefore : ∀ earlier ∈ before, ∀ old ∈ earlier.candidates,
      old.id = idle.id → old.share = 0 := fun earlier isEarlier =>
    (List.pairwise_append.1 never).2.2 earlier isEarlier selection
      List.mem_cons_self idle isIdle isZero
  have isId : idle.id ∈ set.ids :=
    selection.sameSet.mem_iff.1 (List.mem_map_of_mem isIdle)
  have notOwed : ∀ name later, currentWeight later
      (runFrom (afterSelection functions) (fun _ => none) before name)
      idle.id ≤ 0 := runFrom_induction
    (fun hashes : Hashes => ∀ name later,
      currentWeight later (hashes name) idle.id ≤ 0)
    (fun _ earlier isEarlier notOwed =>
      currentWeight_afterSelection_nonpos isId (zeroBefore earlier isEarlier)
        notOwed)
    (fun _ _ => Int.le_refl 0)
  exact absurd isOwed (Int.not_lt.2 (notOwed _ _))

end Runs

end LoadBalancer
end AiGateway
