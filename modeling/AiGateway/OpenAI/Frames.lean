import AiGateway.Foundations.JsonText
import AiGateway.OpenAI.EventReference

/-!
# The frames for a client

The gateway writes every chunk as one `data:` line and a blank line, and `[DONE]` in
the same way. A text of such frames has one event for each of them, in order,
because `JSON.stringify` writes no line break.
-/

namespace AiGateway
namespace OpenAI

open Foundations (Json)
open Foundations.Json (SingleLine)

section Frames

/-- A `data:` line with a payload, and a blank line. -/
def dataFrame (payload : String) : String := "data: " ++ payload ++ "\n\n"

/-- `serializeSSE(payload)`. -/
def serializeSSE (payload : Json) : String := dataFrame payload.stringify

/-- `SSE_DONE_FRAME`. -/
def sseDoneFrame : String := dataFrame "[DONE]"

/-- The event of a frame. -/
def dataEvent (payload : String) : SSEEvent where
  event := none
  data := payload

end Frames

section Events

/-- A line feed completes a line. -/
theorem completeLines_lineFeed
    {line : List Char}
    (noLineFeed : '\n' ∉ line)
    (rest : List Char) :
    completeLines (line ++ '\n' :: rest) =
      (line :: (completeLines rest).1, (completeLines rest).2) := by
  induction line with
  | nil => rfl
  | cons char line inductionHypothesis =>
      rw [List.mem_cons, not_or] at noLineFeed
      rw [List.cons_append, completeLines, inductionHypothesis noLineFeed.2]
      simp [Ne.symm noLineFeed.1]

/-- The first line of a text. -/
theorem textLines_lineFeed
    {line : List Char}
    (noLineFeed : '\n' ∉ line)
    (rest : List Char) :
    textLines (line ++ '\n' :: rest) = line :: textLines rest := by
  rw [textLines_eq, textLines_eq, completeLines_lineFeed noLineFeed,
    List.cons_append]

theorem stripTrailingCR_of_notMem
    {line : List Char}
    (noCarriageReturn : '\r' ∉ line) : stripTrailingCR line = line := by
  refine if_neg fun isLast => noCarriageReturn ?_
  exact List.mem_of_getLast? isLast

/-- A `data:` line is kept for the next blank line. -/
theorem processLine_data
    {payload : List Char}
    (singleLine : SingleLine payload) :
    processLine {} ("data: ".toList ++ payload) =
      ({ dataLines := [String.ofList payload] }, []) := by
  have noCarriageReturn : '\r' ∉ "data: ".toList ++ payload := by
    rw [List.mem_append, not_or]
    exact ⟨by decide, fun isMember => (singleLine _ isMember).2 rfl⟩
  unfold processLine
  rw [stripTrailingCR_of_notMem noCarriageReturn]
  rfl

/-- A text that begins with a frame has its event first. -/
theorem textEvents_dataFrame
    {payload : String}
    (singleLine : SingleLine payload.toList)
    (rest : List Char) :
    textEvents ((dataFrame payload).toList ++ rest) =
      dataEvent payload :: textEvents rest := by
  have split : (dataFrame payload).toList ++ rest =
      ("data: ".toList ++ payload.toList) ++ '\n' :: ([] ++ '\n' :: rest) := by
    simp [dataFrame]
  have noLineFeed : '\n' ∉ "data: ".toList ++ payload.toList := by
    rw [List.mem_append, not_or]
    exact ⟨by decide, fun isMember => (singleLine _ isMember).1 rfl⟩
  rw [split, textEvents_eq, textLines_lineFeed noLineFeed,
    textLines_lineFeed List.not_mem_nil, textEvents_eq]
  simp only [processLines, processLine_data singleLine]
  rw [String.ofList_toList]
  rfl

/-- The events of a text of frames. -/
theorem textEvents_frames
    {payloads : List String}
    (singleLines : ∀ payload ∈ payloads, SingleLine payload.toList)
    (rest : List Char) :
    textEvents ((String.join (payloads.map dataFrame)).toList ++ rest) =
      payloads.map dataEvent ++ textEvents rest := by
  induction payloads with
  | nil => rfl
  | cons payload payloads inductionHypothesis =>
      rw [List.forall_mem_cons] at singleLines
      rw [List.map_cons, List.map_cons, String.join_cons, String.toList_append,
        List.append_assoc, textEvents_dataFrame singleLines.1,
        inductionHypothesis singleLines.2, List.cons_append]

end Events

end OpenAI
end AiGateway
