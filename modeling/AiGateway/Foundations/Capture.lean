import Mathlib.Data.List.Infix

/-!
# The leftmost capture between a marker and the end

A pattern looks for a marker, captures at least one symbol that it admits, and
ends with a trailer at the end of the text: `marker(.+)trailer$`. The search takes
the leftmost position at which the pattern matches. A text is read as a middle
exactly when it is made of a front, the marker, the middle and the trailer, and the
front leaves no room for an earlier match.
-/

namespace AiGateway
namespace Foundations

section Model

variable {α : Type u} [DecidableEq α]
  (admits : α → Bool) (marker trailer : List α)

/-- The capture between a marker that was read and the trailer. The trailer is at
the end, so that there is only one way to match. -/
def captureMiddle (rest : List α) : Option (List α) :=
  if trailer <:+ rest ∧
      rest.take (rest.length - trailer.length) ≠ [] ∧
      (rest.take (rest.length - trailer.length)).all admits = true then
    some (rest.take (rest.length - trailer.length))
  else none

/-- The capture of a match at the start of a text. -/
def captureHere (text : List α) : Option (List α) :=
  if marker <+: text then
    captureMiddle admits trailer (text.drop marker.length)
  else none

/-- The capture of the leftmost match. -/
def capture : List α → Option (List α)
  | [] => captureHere admits marker trailer []
  | symbol :: text =>
      (captureHere admits marker trailer (symbol :: text)).or (capture text)

end Model

section Rules

variable {α : Type u} {admits : α → Bool} {marker trailer : List α}

/-- A middle that the pattern can capture. -/
structure Captures (admits : α → Bool) (middle : List α) : Prop where
  nonempty : middle ≠ []
  admitted : ∀ symbol ∈ middle, admits symbol = true

/-- A front is marked if a match could start in it. -/
def Marked (admits : α → Bool) (marker front : List α) : Prop :=
  ∃ before after, front = before ++ marker ++ after ∧
    ∀ symbol ∈ after, admits symbol = true

/-- A marker whose occurrences do not overlap, and that can be captured itself. -/
structure IsMarker (admits : α → Bool) (marker : List α) : Prop where
  nonempty : marker ≠ []
  admitted : ∀ symbol ∈ marker, admits symbol = true
  /-- No proper part of the marker is both its start and its end. -/
  unbordered : ∀ border, border <+: marker → border <:+ marker →
    border = [] ∨ border = marker

theorem Marked.cons
    {front : List α}
    (symbol : α)
    (marked : Marked admits marker front) :
    Marked admits marker (symbol :: front) := by
  obtain ⟨before, after, rfl, admitted⟩ := marked
  exact ⟨symbol :: before, after, rfl, admitted⟩

theorem IsMarker.not_marked_nil (isMarker : IsMarker admits marker) :
    ¬ Marked admits marker [] := by
  rintro ⟨before, after, isEmpty, -⟩
  have parts := List.append_eq_nil_iff.1 isEmpty.symm
  exact isMarker.nonempty (List.append_eq_nil_iff.1 parts.1).2

/-- A match that starts in the front of a text starts with a marker that is in the
front: it cannot overlap the marker behind the front. -/
theorem IsMarker.front_of_match
    (isMarker : IsMarker admits marker)
    {front middle other : List α}
    (nonempty : front ≠ [])
    (same : front ++ marker ++ middle ++ trailer = marker ++ other ++ trailer) :
    ∃ after, front = marker ++ after ∧ other = after ++ marker ++ middle := by
  have same' : front ++ (marker ++ middle) = marker ++ other := by
    rw [← List.append_assoc]
    exact List.append_cancel_right same
  rcases List.append_eq_append_iff.1 same' with
    ⟨border, markerEq, restEq⟩ | ⟨after, frontEq, otherEq⟩
  · have isEnd : border <:+ marker := ⟨front, markerEq.symm⟩
    have isStart : border <+: marker :=
      List.prefix_of_prefix_length_le ⟨other, restEq.symm⟩
        (List.prefix_append marker middle) isEnd.length_le
    rcases isMarker.unbordered border isStart isEnd with rfl | rfl
    · refine ⟨[], ?_, ?_⟩
      · rw [List.append_nil] at markerEq ⊢
        exact markerEq.symm
      · rw [List.nil_append] at restEq ⊢
        exact restEq.symm
    · exact absurd (List.self_eq_append_left.1 markerEq) nonempty
  · refine ⟨after, frontEq, ?_⟩
    rw [otherEq, List.append_assoc]

variable [DecidableEq α]

theorem captureMiddle_eq_some {rest middle : List α} :
    captureMiddle admits trailer rest = some middle ↔
      rest = middle ++ trailer ∧ Captures admits middle := by
  unfold captureMiddle
  constructor
  · intro captured
    split_ifs at captured with isCaptured
    obtain ⟨⟨front, rfl⟩, nonempty, admitted⟩ := isCaptured
    rw [List.length_append, Nat.add_sub_cancel, List.take_left] at *
    cases captured
    exact ⟨rfl, nonempty, List.all_eq_true.1 admitted⟩
  · rintro ⟨rfl, nonempty, admitted⟩
    rw [List.length_append, Nat.add_sub_cancel, List.take_left]
    exact if_pos ⟨List.suffix_append _ _, nonempty, List.all_eq_true.2 admitted⟩

theorem captureHere_eq_some {text middle : List α} :
    captureHere admits marker trailer text = some middle ↔
      text = marker ++ middle ++ trailer ∧ Captures admits middle := by
  unfold captureHere
  constructor
  · intro captured
    split_ifs at captured with isMarked
    obtain ⟨rest, rfl⟩ := isMarked
    rw [List.drop_left, captureMiddle_eq_some] at captured
    rw [captured.1, List.append_assoc]
    exact ⟨rfl, captured.2⟩
  · rintro ⟨rfl, captures⟩
    rw [List.append_assoc, if_pos (List.prefix_append _ _), List.drop_left]
    exact captureMiddle_eq_some.2 ⟨rfl, captures⟩

theorem capture_of_captureHere
    {text middle : List α}
    (here : captureHere admits marker trailer text = some middle) :
    capture admits marker trailer text = some middle := by
  cases text with
  | nil => exact here
  | cons symbol text => rw [capture, here, Option.some_or]

/-- A text behind a front that is not marked is read back. -/
theorem IsMarker.capture_append
    (isMarker : IsMarker admits marker)
    {front middle : List α}
    (notMarked : ¬ Marked admits marker front)
    (captures : Captures admits middle) :
    capture admits marker trailer (front ++ marker ++ middle ++ trailer) =
      some middle := by
  induction front with
  | nil =>
      exact capture_of_captureHere (captureHere_eq_some.2 ⟨rfl, captures⟩)
  | cons symbol front inductionHypothesis =>
      have noMatch : captureHere admits marker trailer
          (symbol :: front ++ marker ++ middle ++ trailer) = none := by
        by_contra isMatch
        obtain ⟨other, captured⟩ := Option.ne_none_iff_exists'.1 isMatch
        obtain ⟨same, otherCaptures⟩ := captureHere_eq_some.1 captured
        obtain ⟨after, frontEq, rfl⟩ :=
          isMarker.front_of_match (List.cons_ne_nil _ _) same
        refine notMarked ⟨[], after, frontEq, fun inner isInner => ?_⟩
        exact otherCaptures.admitted inner
          (List.mem_append_left _ (List.mem_append_left _ isInner))
      simp only [List.cons_append] at noMatch ⊢
      rw [capture, noMatch, Option.none_or]
      exact inductionHypothesis fun marked => notMarked (marked.cons symbol)

/-- Every text that is read as a middle is built so. -/
theorem IsMarker.exists_front
    (isMarker : IsMarker admits marker)
    {text middle : List α}
    (captured : capture admits marker trailer text = some middle) :
    ∃ front, text = front ++ marker ++ middle ++ trailer ∧
      ¬ Marked admits marker front ∧ Captures admits middle := by
  induction text with
  | nil =>
      obtain ⟨same, captures⟩ := captureHere_eq_some.1 captured
      exact ⟨[], same, isMarker.not_marked_nil, captures⟩
  | cons symbol text inductionHypothesis =>
      cases here : captureHere admits marker trailer (symbol :: text) with
      | some first =>
          rw [capture, here, Option.some_or] at captured
          cases captured
          obtain ⟨same, captures⟩ := captureHere_eq_some.1 here
          exact ⟨[], same, isMarker.not_marked_nil, captures⟩
      | none =>
          rw [capture, here, Option.none_or] at captured
          obtain ⟨front, rfl, notMarked, captures⟩ := inductionHypothesis captured
          refine ⟨symbol :: front, rfl, ?_, captures⟩
          rintro ⟨before, after, frontEq, admitted⟩
          cases before with
          | cons first before =>
              obtain ⟨-, frontEq⟩ := List.cons.inj frontEq
              exact notMarked ⟨before, after, frontEq, admitted⟩
          | nil =>
              have isMatch : captureHere admits marker trailer
                  (symbol :: (front ++ marker ++ middle ++ trailer)) =
                    some (after ++ marker ++ middle) := by
                refine captureHere_eq_some.2 ⟨?_, ?_, ?_⟩
                · simp only [← List.cons_append, frontEq, List.nil_append,
                    List.append_assoc]
                · exact List.append_ne_nil_of_right_ne_nil _ captures.nonempty
                · intro inner isInner
                  simp only [List.mem_append] at isInner
                  rcases isInner with (isAfter | isInMarker) | isMiddle
                  · exact admitted inner isAfter
                  · exact isMarker.admitted inner isInMarker
                  · exact captures.admitted inner isMiddle
              rw [here] at isMatch
              cases isMatch

/-- What the search reads. -/
theorem IsMarker.capture_eq_some
    (isMarker : IsMarker admits marker)
    {text middle : List α} :
    capture admits marker trailer text = some middle ↔
      ∃ front, text = front ++ marker ++ middle ++ trailer ∧
        ¬ Marked admits marker front ∧ Captures admits middle := by
  constructor
  · exact isMarker.exists_front
  · rintro ⟨front, rfl, notMarked, captures⟩
    exact isMarker.capture_append notMarked captures

/-- A text is read back exactly if its front is not marked. -/
theorem IsMarker.capture_append_iff
    (isMarker : IsMarker admits marker)
    {front middle : List α}
    (captures : Captures admits middle) :
    capture admits marker trailer (front ++ marker ++ middle ++ trailer) =
        some middle ↔
      ¬ Marked admits marker front := by
  constructor
  · intro captured
    obtain ⟨other, same, notMarked, -⟩ := isMarker.exists_front captured
    rw [List.append_left_inj, List.append_left_inj, List.append_left_inj] at same
    rwa [same]
  · exact fun notMarked => isMarker.capture_append notMarked captures

end Rules

end Foundations
end AiGateway
