import AiGateway.Providers.AnthropicStream

/-!
# What the events of an Anthropic stream say

The adapter reads a few fields of an event and ignores the rest. A signal is
what it reads; the adapter is a machine over signals, so what it makes of a
stream can be told from the signals of the events alone.
-/

namespace AiGateway
namespace Providers
namespace Anthropic

open Foundations (Control Ending Json Transducer Yields)
open OpenAI

/-- What an event tells the adapter. -/
inductive Signal
  | messageStart (inputTokens : Option ℚ)
  | toolUseStart (block : ℚ) (id name : Option String)
  | textDelta (text : String)
  | inputJsonDelta (block : ℚ) (fragment : String)
  | messageDelta (stopReason : Option String) (outputTokens : Option ℚ)
  | failure (message : String)
  | messageStop
  /-- An event that the adapter skips. -/
  | passive
  deriving DecidableEq

/-- The number of the content block of a frame. -/
def blockIndex (frame : Json) : ℚ := (readNumber (frame.get "index")).getD 0

/-- What the start of a content block tells. -/
def startSignal (frame : Json) : Signal :=
  match (frame.getRecord "content_block").filter fun block =>
      block.getString "type" = some "tool_use" with
  | none => .passive
  | some block =>
      .toolUseStart (blockIndex frame) (block.getString "id")
        (block.getString "name")

/-- What a fragment of a content block tells. -/
def deltaSignal (frame : Json) : Signal :=
  match frame.getRecord "delta" with
  | none => .passive
  | some delta =>
      match delta.getString "type", delta.getString "text",
          delta.getString "partial_json" with
      | some "text_delta", some text, _ => .textDelta text
      | some "input_json_delta", _, some fragment =>
          .inputJsonDelta (blockIndex frame) fragment
      | _, _, _ => .passive

/-- What a record of a given type tells. -/
def frameSignal (type : String) (frame : Json) : Signal :=
  match type with
  | "message_start" =>
      .messageStart (readUsageField
        ((frame.getRecord "message").bind (Json.get "usage")) "input_tokens")
  | "content_block_start" => startSignal frame
  | "content_block_delta" => deltaSignal frame
  | "message_delta" =>
      .messageDelta ((frame.getRecord "delta").bind (Json.getString "stop_reason"))
        (readUsageField (frame.get "usage") "output_tokens")
  | "error" => .failure (errorMessage frame)
  | "message_stop" => .messageStop
  | _ => .passive

/-- What an event tells, for a parser that may reject. -/
def readSignal (parse : String → Option Json) (event : SSEEvent) : Signal :=
  match readEvent parse event with
  | none => .passive
  | some (type, frame) => frameSignal type frame

namespace Signal

/-- Does the adapter stop reading at a signal? -/
def isTerminal : Signal → Bool
  | failure _ => true
  | messageStop => true
  | _ => false

/-- Does a signal open the message? -/
def isMessageStart : Signal → Bool
  | messageStart _ => true
  | _ => false

/-- Does a signal carry text or a part of a tool call? -/
def isContent : Signal → Bool
  | toolUseStart _ _ _ => true
  | textDelta _ => true
  | inputJsonDelta _ _ => true
  | _ => false

end Signal

section Machine

variable
  (header : StreamHeader)
  (wantUsage : Bool)
  (providerId : String)

/-- One signal. -/
def StreamState.receive (state : StreamState) :
    Signal → StreamState × List ChatCompletionChunk × Control Thrown
  | .messageStart inputTokens =>
      ({ state with
          promptTokens := inputTokens.getD state.promptTokens
          roleEmitted := true },
        if state.roleEmitted then [] else [makeRoleChunk header], .proceed)
  | .toolUseStart block id name =>
      ({ state with
          nextToolIndex := state.nextToolIndex + 1
          toolIndexByBlock := (block, state.nextToolIndex) :: state.toolIndexByBlock
          sawToolUse := true },
        [makeToolCallChunk header
          { index := state.nextToolIndex
            hasType := true
            id := id
            name := name
            arguments := some "" }], .proceed)
  | .textDelta text => (state, [makeContentChunk header text], .proceed)
  | .inputJsonDelta block fragment =>
      (state,
        [makeToolCallChunk header
          { index := ((state.toolIndexByBlock.lookup block).getD 0 : Nat)
            arguments := some fragment }], .proceed)
  | .messageDelta stopReason outputTokens =>
      ({ state with
          stopReason := stopReason <|> state.stopReason
          completionTokens := outputTokens.getD state.completionTokens },
        [], .proceed)
  | .failure message =>
      (state, [],
        .fail (.gateway (.provider
          ("Anthropic stream error: " ++ message) 502 providerId)))
  | .messageStop => (state, stopChunks header wantUsage state, .done)
  | .passive => (state, [], .proceed)

/-- The adapter over signals. -/
def signalMachine :
    Transducer StreamState Signal ChatCompletionChunk Thrown where
  step := StreamState.receive header wantUsage providerId
  finish _ := []

theorem startBlock_eq (state : StreamState) (frame : Json) :
    ((startBlock header state frame).1, (startBlock header state frame).2,
        Control.proceed) =
      state.receive header wantUsage providerId (startSignal frame) := by
  unfold startBlock startSignal
  dsimp only
  generalize (frame.getRecord "content_block").filter _ = block
  cases block <;> rfl

theorem blockDelta_eq (state : StreamState) (frame : Json) :
    (state, blockDelta header state frame, Control.proceed) =
      state.receive header wantUsage providerId (deltaSignal frame) := by
  unfold blockDelta deltaSignal
  cases frame.getRecord "delta" with
  | none => rfl
  | some delta =>
      dsimp only
      split <;> simp_all [StreamState.receive, blockIndex]

/-- The adapter depends only on the signal of a frame. -/
theorem normaliseFrame_eq
    (state : StreamState)
    (type : String)
    (frame : Json) :
    normaliseFrame header wantUsage providerId state type frame =
      state.receive header wantUsage providerId (frameSignal type frame) := by
  unfold normaliseFrame
  split
  · rfl
  · exact startBlock_eq header wantUsage providerId state frame
  · exact blockDelta_eq header wantUsage providerId state frame
  · rfl
  · rfl
  · rfl
  · have isPassive : frameSignal type frame = .passive := by
      unfold frameSignal
      split <;> simp_all
    rw [isPassive]
    rfl

variable (parse : String → Option Json)

theorem step_eq (state : StreamState) (event : SSEEvent) :
    (normaliser header wantUsage providerId parse).step state event =
      (signalMachine header wantUsage providerId).step state
        (readSignal parse event) := by
  unfold normaliser signalMachine readSignal
  dsimp only
  cases readEvent parse event with
  | none => rfl
  | some read =>
      exact normaliseFrame_eq header wantUsage providerId state read.1 read.2

/-- What the adapter makes of events is what the machine makes of their
signals. -/
theorem run_eq
    (ending : Ending Thrown)
    (state : StreamState)
    (events : List SSEEvent) :
    (normaliser header wantUsage providerId parse).run ending state events =
      (signalMachine header wantUsage providerId).run ending state
        (events.map (readSignal parse)) :=
  Transducer.run_map _ (step_eq header wantUsage providerId parse)
    (fun _ => rfl) ending state events

/-- The adapter goes on after signals that are not terminal. -/
theorem proceeds_of_notTerminal
    (state : StreamState)
    {signals : List Signal}
    (notTerminal : ∀ signal ∈ signals, signal.isTerminal = false) :
    (signalMachine header wantUsage providerId).Proceeds state signals := by
  induction signals generalizing state with
  | nil => trivial
  | cons signal signals inductionHypothesis =>
      obtain ⟨notNow, notLater⟩ := List.forall_mem_cons.1 notTerminal
      refine ⟨?_, inductionHypothesis _ notLater⟩
      cases signal <;> first | rfl | cases notNow

end Machine

end Anthropic
end Providers
end AiGateway
