import AiGateway.OpenAI.CompleteStream
import AiGateway.Providers.AnthropicSignals
import Mathlib.Data.List.Induction

/-!
# The tool calls of an Anthropic stream

Anthropic numbers all content blocks, OpenAI numbers the tool calls. The adapter
keeps a map from block numbers to the indices of the tool calls, and falls back
to the first tool call for a number that is not in the map.
-/

namespace AiGateway
namespace Providers
namespace Anthropic

open Foundations (Json Transducer)
open OpenAI

section Positions

/-- The position at which a value stands last in a list. -/
def lastIndexOf [DecidableEq α] (value : α) : List α → Option Nat
  | [] => none
  | first :: rest =>
      match lastIndexOf value rest with
      | some index => some (index + 1)
      | none => if value = first then some 0 else none

theorem lastIndexOf_append_singleton
    [DecidableEq α]
    (value last : α)
    (list : List α) :
    lastIndexOf value (list ++ [last]) =
      if value = last then some list.length else lastIndexOf value list := by
  induction list with
  | nil => rfl
  | cons first rest inductionHypothesis =>
      rw [List.cons_append, lastIndexOf, inductionHypothesis]
      by_cases isLast : value = last
      · rw [if_pos isLast, if_pos isLast, List.length_cons]
      · rw [if_neg isLast, if_neg isLast, lastIndexOf]

theorem lastIndexOf_eq_none_iff [DecidableEq α] (value : α) (list : List α) :
    lastIndexOf value list = none ↔ value ∉ list := by
  induction list with
  | nil => simp [lastIndexOf]
  | cons first rest inductionHypothesis =>
      rw [List.mem_cons, not_or, ← inductionHypothesis, lastIndexOf]
      cases lastIndexOf value rest with
      | some index => simp
      | none => simp

end Positions

section Routing

/-- The numbers of the `tool_use` blocks that some signals start, in order. The
position of a start is the index of its tool call. -/
def startedBlocks (signals : List Signal) : List ℚ :=
  signals.filterMap fun
    | .toolUseStart block _ _ => some block
    | _ => none

variable
  (header : StreamHeader)
  (wantUsage : Bool)
  (providerId : String)

theorem startedBlocks_append_singleton (signals : List Signal) (signal : Signal) :
    startedBlocks (signals ++ [signal]) =
      startedBlocks signals ++ startedBlocks [signal] :=
  List.filterMap_append

/-- The adapter counts the blocks that were started, and its map holds the
position of the latest start of each number. -/
theorem toolIndices_afterAll (signals : List Signal) :
    let state :=
      (signalMachine header wantUsage providerId).afterAll {} signals
    state.nextToolIndex = (startedBlocks signals).length ∧
      ∀ block, state.toolIndexByBlock.lookup block =
        lastIndexOf block (startedBlocks signals) := by
  intro state
  induction signals using List.reverseRecOn with
  | nil => exact ⟨rfl, fun _ => rfl⟩
  | append_singleton signals signal inductionHypothesis =>
      obtain ⟨nextEq, lookupEq⟩ := inductionHypothesis
      have stateEq : state = (signalMachine header wantUsage providerId).after
          ((signalMachine header wantUsage providerId).afterAll {} signals)
          signal := Transducer.afterAll_append _ _ _ _
      rw [stateEq, startedBlocks_append_singleton]
      cases signal with
      | toolUseStart block id name =>
          refine ⟨?_, fun other => ?_⟩
          · rw [List.length_append, ← nextEq]
            rfl
          · change List.lookup other ((block, _) :: _) =
              lastIndexOf other (startedBlocks signals ++ [block])
            rw [lastIndexOf_append_singleton, ← nextEq, ← lookupEq,
              List.lookup_cons]
            by_cases isBlock : other = block
            · simp [isBlock]
            · rw [beq_false_of_ne isBlock, if_neg isBlock]
      | _ =>
          rw [show startedBlocks [_] = [] from rfl, List.append_nil]
          exact ⟨nextEq, lookupEq⟩

-- `JSON.parse`, which may reject
variable (parse : String → Option Json)

/-- The deltas of tool calls that the adapter sends for an event, after others
that it has read. -/
def toolCallsFor (before : List SSEEvent) (event : SSEEvent) :
    List ToolCallDelta :=
  let adapter := normaliser header wantUsage providerId parse
  (adapter.output (adapter.afterAll {} before) event).flatMap toolCallDeltas

/-- What some events have started. -/
def blocksStartedBy (events : List SSEEvent) : List ℚ :=
  startedBlocks (events.map (readSignal parse))

/-- Is an event read after others, because none of them stops the adapter? -/
def IsReadAfter
    (events before : List SSEEvent)
    (event : SSEEvent) : Prop :=
  before ++ [event] <+: events ∧
    ∀ earlier ∈ before, (readSignal parse earlier).isTerminal = false

/-- The law of the indices. A `tool_use` block that starts opens the next index;
a fragment goes to the index of the latest `tool_use` block with its number, and
a fragment of no such block goes to no tool call. -/
structure RoutesToolCalls (events : List SSEEvent) : Prop where
  opens_next : ∀ before event block id name,
    IsReadAfter parse events before event →
    readSignal parse event = .toolUseStart block id name →
    toolCallsFor header wantUsage providerId parse before event =
      [{ index := (blocksStartedBy parse before).length
         id := id
         hasType := true
         name := name
         arguments := some "" }]
  routes : ∀ before event block fragment,
    IsReadAfter parse events before event →
    readSignal parse event = .inputJsonDelta block fragment →
    ∀ call ∈ toolCallsFor header wantUsage providerId parse before event,
      ∃ index, lastIndexOf block (blocksStartedBy parse before) = some index ∧
        call.index = index
  skips : ∀ before event block fragment,
    IsReadAfter parse events before event →
    readSignal parse event = .inputJsonDelta block fragment →
    block ∉ blocksStartedBy parse before →
    toolCallsFor header wantUsage providerId parse before event = []

/-- Every fragment of JSON that is read belongs to the number of a `tool_use`
block that was started before it. -/
def FragmentsFollowStarts (events : List SSEEvent) : Prop :=
  ∀ before event block fragment, IsReadAfter parse events before event →
    readSignal parse event = .inputJsonDelta block fragment →
    block ∈ blocksStartedBy parse before

variable {parse}

/-- What is sent for an event depends on the signals. -/
theorem toolCallsFor_eq (before : List SSEEvent) (event : SSEEvent) :
    let machine := signalMachine header wantUsage providerId
    toolCallsFor header wantUsage providerId parse before event =
      (machine.output (machine.afterAll {} (before.map (readSignal parse)))
        (readSignal parse event)).flatMap toolCallDeltas := by
  intro machine
  have sameStep := step_eq header wantUsage providerId parse
  unfold toolCallsFor
  dsimp only
  rw [Transducer.afterAll_map _ sameStep, Transducer.output, sameStep]
  rfl

/-- The start of a block opens the next index. -/
theorem toolCallsFor_toolUseStart
    (before : List SSEEvent)
    {event : SSEEvent}
    {block : ℚ}
    {id name : Option String}
    (isStart : readSignal parse event = .toolUseStart block id name) :
    toolCallsFor header wantUsage providerId parse before event =
      [{ index := (blocksStartedBy parse before).length
         id := id
         hasType := true
         name := name
         arguments := some "" }] := by
  rw [toolCallsFor_eq, isStart, blocksStartedBy,
    ← (toolIndices_afterAll header wantUsage providerId _).1]
  rfl

/-- A fragment is sent for the tool call that the map gives, or for the
first. -/
theorem toolCallsFor_inputJsonDelta
    (before : List SSEEvent)
    {event : SSEEvent}
    {block : ℚ}
    {fragment : String}
    (isFragment : readSignal parse event = .inputJsonDelta block fragment) :
    toolCallsFor header wantUsage providerId parse before event =
      [{ index :=
          ((lastIndexOf block (blocksStartedBy parse before)).getD 0 : Nat)
         arguments := some fragment }] := by
  rw [toolCallsFor_eq, isFragment, blocksStartedBy,
    ← (toolIndices_afterAll header wantUsage providerId _).2 block]
  rfl

/-- The law holds exactly if every fragment follows the start of a `tool_use`
block with its number. -/
theorem routesToolCalls_iff (events : List SSEEvent) :
    RoutesToolCalls header wantUsage providerId parse events ↔
      FragmentsFollowStarts parse events := by
  constructor
  · intro routing before event block fragment isRead isFragment
    by_contra notStarted
    have noCall := routing.skips before event block fragment isRead isFragment
      notStarted
    rw [toolCallsFor_inputJsonDelta header wantUsage providerId before
      isFragment] at noCall
    cases noCall
  · intro follows
    refine ⟨fun before event block id name _ isStart => ?_,
      fun before event block fragment isRead isFragment call isCall => ?_,
      fun before event block fragment isRead isFragment notStarted => ?_⟩
    · exact toolCallsFor_toolUseStart header wantUsage providerId before isStart
    · have isStarted := follows before event block fragment isRead isFragment
      rw [toolCallsFor_inputJsonDelta header wantUsage providerId before
        isFragment, List.mem_singleton] at isCall
      obtain ⟨index, indexEq⟩ : ∃ index,
          lastIndexOf block (blocksStartedBy parse before) = some index := by
        refine Option.ne_none_iff_exists'.1 fun isNone => ?_
        exact (lastIndexOf_eq_none_iff _ _).1 isNone isStarted
      refine ⟨index, indexEq, ?_⟩
      rw [isCall, indexEq]
      rfl
    · exact (notStarted
        (follows before event block fragment isRead isFragment)).elim

/-- The input of a `server_tool_use` block is sent as arguments of the first
tool call. -/
theorem fragment_of_server_tool_goes_astray :
    let header : StreamHeader := { id := "chatcmpl-1", created := 0, model := "m" }
    let start : Json :=
      .object
        [("type", .string "content_block_start"), ("index", .number 0),
          ("content_block", .object [("type", .string "server_tool_use")])]
    let delta : Json :=
      .object
        [("type", .string "content_block_delta"), ("index", .number 0),
          ("delta", .object
            [("type", .string "input_json_delta"), ("partial_json", .string "1")])]
    let parse := fun data =>
      [start, delta].find? fun value => value.stringify == data
    let events : List SSEEvent :=
      [start, delta].map fun value => { event := none, data := value.stringify }
    ¬RoutesToolCalls header true "anthropic" parse events := by
  intro header start delta parse events routing
  let event (value : Json) : SSEEvent :=
    { event := none, data := value.stringify }
  have isFragment : readSignal parse (event delta) = .inputJsonDelta 0 "1" := by
    decide +kernel
  have noStart : readSignal parse (event start) = .passive := by
    decide +kernel
  have isRead : IsReadAfter parse events [event start] (event delta) :=
    ⟨List.prefix_rfl, by simp [noStart, Signal.isTerminal]⟩
  have noCall := routing.skips _ _ _ _ isRead isFragment
    (by simp [blocksStartedBy, noStart, startedBlocks])
  rw [toolCallsFor_inputJsonDelta header true "anthropic" _ isFragment] at noCall
  cases noCall

end Routing

end Anthropic
end Providers
end AiGateway
