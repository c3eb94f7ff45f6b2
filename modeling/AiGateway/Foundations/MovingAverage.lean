import Mathlib.Algebra.Order.Field.Basic
import Mathlib.Tactic.Linarith
import Mathlib.Tactic.Ring

/-!
# Exponential moving averages

A moving average gives each sample a fixed weight and what was before it the rest;
the first sample counts in full. Samples are listed with the newest first. An average
that is off by an error at each sample stays within a fixed multiple of that error.

A sample counts as long as no pause before the next one, or before now, reaches a
lifetime.
-/

namespace AiGateway
namespace Foundations

section Smoothing

variable {α : Type u} {β : Type v}

/-- What comes of samples that are blended, from the oldest on, with what came of the
samples before. -/
def smooth (first : α → β) (blend : α → β → β) : List α → Option β
  | [] => none
  | sample :: earlier =>
      match smooth first blend earlier with
      | some prev => some (blend sample prev)
      | none => some (first sample)

variable {first : α → β} {blend : α → β → β}

/-- What comes of one more sample. -/
theorem smooth_cons (sample : α) (earlier : List α) :
    smooth first blend (sample :: earlier) =
      some (match smooth first blend earlier with
        | some prev => blend sample prev
        | none => first sample) := by
  rw [smooth]
  cases smooth first blend earlier <;> rfl

/-- What holds of the first sample and is kept by a blend holds in the end. -/
theorem smooth_induction
    {Holds : β → Prop}
    {samples : List α}
    {result : β}
    (ofFirst : ∀ sample ∈ samples, Holds (first sample))
    (ofBlend : ∀ sample ∈ samples, ∀ prev, Holds prev → Holds (blend sample prev))
    (isResult : smooth first blend samples = some result) :
    Holds result := by
  induction samples generalizing result with
  | nil => cases isResult
  | cons sample earlier inductionHypothesis =>
      obtain ⟨firstHolds, earlierFirst⟩ := List.forall_mem_cons.1 ofFirst
      obtain ⟨blendHolds, earlierBlend⟩ := List.forall_mem_cons.1 ofBlend
      rw [smooth_cons, Option.some.injEq] at isResult
      cases prevEq : smooth first blend earlier with
      | none =>
          rw [prevEq] at isResult
          exact isResult ▸ firstHolds
      | some prev =>
          rw [prevEq] at isResult
          exact isResult ▸ blendHolds prev
            (inductionHypothesis earlierFirst earlierBlend prevEq)

end Smoothing

section Average

variable {α : Type u} [Field α]

/-- The moving average of samples; there is none of no samples. -/
def movingAverage (weight : α) : List α → Option α :=
  smooth id fun sample prev => weight * sample + (1 - weight) * prev

variable [LinearOrder α] [IsStrictOrderedRing α] {weight : α}

/-- An average whose steps are each off by an error at most is off by the error over
the weight at most: of the error before, each step keeps the part that it keeps of the
average. -/
theorem exists_movingAverage_close
    (positive : 0 < weight)
    (leOne : weight ≤ 1)
    {first : α → α}
    {blend : α → α → α}
    (InRange : α → Prop)
    {error : α}
    {samples : List α}
    {result : α}
    (ofFirst : ∀ sample ∈ samples,
      InRange (first sample) ∧ |first sample - sample| ≤ error)
    (ofBlend : ∀ sample ∈ samples, ∀ prev, InRange prev →
      InRange (blend sample prev) ∧
        |blend sample prev - (weight * sample + (1 - weight) * prev)| ≤ error)
    (isResult : smooth first blend samples = some result) :
    ∃ average, movingAverage weight samples = some average ∧ InRange result ∧
      weight * |result - average| ≤ error := by
  induction samples generalizing result with
  | nil => cases isResult
  | cons sample earlier inductionHypothesis =>
      obtain ⟨⟨firstInRange, firstClose⟩, earlierFirst⟩ :=
        List.forall_mem_cons.1 ofFirst
      obtain ⟨sampleBlend, earlierBlend⟩ := List.forall_mem_cons.1 ofBlend
      rw [smooth_cons, Option.some.injEq] at isResult
      rw [movingAverage, smooth_cons]
      cases prevEq : smooth first blend earlier with
      | none =>
          have isEmpty : earlier = [] := by
            cases earlier with
            | nil => rfl
            | cons _ _ =>
                rw [smooth_cons] at prevEq
                cases prevEq
          rw [prevEq] at isResult
          subst isEmpty isResult
          refine ⟨sample, rfl, firstInRange, ?_⟩
          calc
            weight * |first sample - sample| ≤ 1 * |first sample - sample| :=
              mul_le_mul_of_nonneg_right leOne (abs_nonneg _)
            _ ≤ error := by rwa [one_mul]
      | some prev =>
          rw [prevEq] at isResult
          subst isResult
          obtain ⟨average, isAverage, prevInRange, close⟩ :=
            inductionHypothesis earlierFirst earlierBlend prevEq
          obtain ⟨inRange, blendClose⟩ := sampleBlend prev prevInRange
          rw [movingAverage] at isAverage
          refine ⟨weight * sample + (1 - weight) * average, by rw [isAverage], inRange,
            ?_⟩
          have split : blend sample prev -
              (weight * sample + (1 - weight) * average) =
                (blend sample prev - (weight * sample + (1 - weight) * prev)) +
                  (1 - weight) * (prev - average) := by ring
          have rest : |(1 - weight) * (prev - average)| =
              (1 - weight) * |prev - average| := by
            rw [abs_mul, abs_of_nonneg (sub_nonneg.2 leOne)]
          calc
            weight * |blend sample prev - (weight * sample + (1 - weight) * average)| ≤
                weight * (error + (1 - weight) * |prev - average|) := by
              rw [split, ← rest]
              exact mul_le_mul_of_nonneg_left
                ((abs_add_le _ _).trans (add_le_add_left blendClose _)) positive.le
            _ = weight * error + (1 - weight) * (weight * |prev - average|) := by ring
            _ ≤ weight * error + (1 - weight) * error := by
              have rest := mul_le_mul_of_nonneg_left close (sub_nonneg.2 leOne)
              linarith
            _ = error := by ring

end Average

section Pauses

variable {β : Type v} {lifetime : Nat}

/-- The samples after the last pause, newest first: a pause is a span of at least
the lifetime between two samples, or between the last one and now. -/
def unbroken (lifetime : Nat) : Nat → List (Nat × β) → List β
  | _, [] => []
  | now, (instant, sample) :: earlier =>
      if now < instant + lifetime then sample :: unbroken lifetime instant earlier
      else []

theorem unbroken_cons_of_lt
    {now instant : Nat}
    (isRecent : now < instant + lifetime)
    (sample : β)
    (earlier : List (Nat × β)) :
    unbroken lifetime now ((instant, sample) :: earlier) =
      sample :: unbroken lifetime instant earlier :=
  if_pos isRecent

theorem unbroken_cons_of_le
    {now instant : Nat}
    (isPause : instant + lifetime ≤ now)
    (sample : β)
    (earlier : List (Nat × β)) :
    unbroken lifetime now ((instant, sample) :: earlier) = [] :=
  if_neg (Nat.not_lt.2 isPause)

/-- The samples that count are samples. -/
theorem exists_of_mem_unbroken
    {now : Nat}
    {samples : List (Nat × β)}
    {sample : β}
    (counts : sample ∈ unbroken lifetime now samples) :
    ∃ instant, (instant, sample) ∈ samples := by
  induction samples generalizing now with
  | nil => cases counts
  | cons first earlier inductionHypothesis =>
      rw [unbroken] at counts
      split at counts
      · rcases List.mem_cons.1 counts with rfl | isEarlier
        · exact ⟨first.1, List.mem_cons_self⟩
        · obtain ⟨instant, isSample⟩ := inductionHypothesis isEarlier
          exact ⟨instant, List.mem_cons_of_mem first isSample⟩
      · cases counts

end Pauses

end Foundations
end AiGateway
