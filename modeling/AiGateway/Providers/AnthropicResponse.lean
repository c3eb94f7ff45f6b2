import AiGateway.Foundations.JsonText
import AiGateway.OpenAI.Completion
import AiGateway.Providers.AnthropicSignals
import Mathlib.Data.List.Forall2

/-!
# Whole and streamed messages of Anthropic

A message arrives whole, or as a stream of events. The adapter translates both,
in separate code. What a client puts together from the stream is the translation
of the whole message, but for the arguments of some tool calls.
-/

namespace AiGateway
namespace Providers
namespace Anthropic

open Foundations (Control Json Transducer Yields)
open OpenAI

section WholeMessages

/-- `responseBlockSchema`, with the fields that are read. -/
structure ResponseBlock where
  type : String
  text : Option String := none
  id : Option String := none
  name : Option String := none
  input : Option Json := none

/-- `messageResponseSchema`. -/
structure MessageResponse where
  id : String
  model : Option String
  content : List ResponseBlock
  /-- The field is optional, and may be `null`. -/
  stopReason : Option (Option String)
  inputTokens : Nat
  outputTokens : Nat

/-- The text of a block, if it is a text block. -/
def ResponseBlock.textPart (block : ResponseBlock) : Option String :=
  if block.type = "text" then block.text else none

/-- `input ?? {}`. -/
def inputOrEmpty : Option Json → Json
  | none => .object []
  | some .null => .object []
  | some input => input

/-- The tool call of a block, if it is a `tool_use` block. -/
def ResponseBlock.toolCall (block : ResponseBlock) : Option ToolCall :=
  if block.type = "tool_use" then
    match block.id, block.name with
    | some id, some name =>
        some
          { id := id
            function :=
              { name := name
                arguments := (inputOrEmpty block.input).stringify } }
    | _, _ => none
  else
    none

/-- `AnthropicProvider.translateResponse`, with the identifier and the time that
it makes up. -/
def translateResponse
    (id : String)
    (created : Nat)
    (data : MessageResponse)
    (request : ChatCompletionRequest) : ChatCompletion :=
  let textParts := data.content.filterMap ResponseBlock.textPart
  let toolCalls := data.content.filterMap ResponseBlock.toolCall
  { id := id
    created := created
    model := data.model.getD request.model
    content := if textParts.isEmpty then none else some (String.join textParts)
    toolCalls := toolCalls
    finishReason := mapStopReason data.stopReason.join (!toolCalls.isEmpty)
    usage :=
      { promptTokens := data.inputTokens
        completionTokens := data.outputTokens
        totalTokens := data.inputTokens + data.outputTokens } }

/-- A block of a message. -/
inductive MessageBlock
  | text (text : String)
  | toolUse (id name : String) (input : Json)

/-- A message: any list of text and `tool_use` blocks. -/
structure Message where
  content : List MessageBlock
  stopReason : Option String
  inputTokens : Nat
  outputTokens : Nat

/-- A block as it stands in a response. -/
def MessageBlock.toResponse : MessageBlock → ResponseBlock
  | text words => { type := "text", text := some words }
  | toolUse id name input =>
      { type := "tool_use", id := some id, name := some name, input := some input }

/-- A message as it is sent whole. -/
def Message.toResponse
    (message : Message)
    (id : String)
    (model : Option String) : MessageResponse where
  id := id
  model := model
  content := message.content.map MessageBlock.toResponse
  stopReason := some message.stopReason
  inputTokens := message.inputTokens
  outputTokens := message.outputTokens

end WholeMessages

section StreamedMessages

/-- A block with its number in the stream and the fragments that carry it. -/
structure StreamedBlock where
  block : MessageBlock
  index : ℚ
  fragments : List String

-- `JSON.parse`, which may reject
variable (parse : String → Option Json)

/-- The fragments are pieces of the text, or of a JSON text of the input; an
empty object may go without. -/
def StreamedBlock.Fits (streamed : StreamedBlock) : Prop :=
  match streamed.block with
  | .text words => String.join streamed.fragments = words
  | .toolUse _ _ input =>
      parse (String.join streamed.fragments) = some input ∨
        String.join streamed.fragments = "" ∧ input = .object []

/-- An event of the stream of a message, as Anthropic documents it. -/
inductive WireEvent
  | messageStart (inputTokens : Nat)
  | blockStart (streamed : StreamedBlock)
  | fragment (streamed : StreamedBlock) (text : String)
  | messageDelta (stopReason : Option String) (outputTokens : Nat)
  | messageStop

/-- What the start of a block holds. -/
def MessageBlock.IsAnnouncedBy (content : Json) : MessageBlock → Prop
  | text _ => content.getString "type" = some "text"
  | toolUse id name _ =>
      content.getString "type" = some "tool_use" ∧
        content.getString "id" = some id ∧ content.getString "name" = some name

/-- What the delta of a block holds for a fragment. -/
def MessageBlock.IsCarriedBy (delta : Json) (fragment : String) :
    MessageBlock → Prop
  | text _ =>
      delta.getString "type" = some "text_delta" ∧
        delta.getString "text" = some fragment
  | toolUse _ _ _ =>
      delta.getString "type" = some "input_json_delta" ∧
        delta.getString "partial_json" = some fragment

/-- The fields of the frame that an event is sent as. -/
def WireEvent.IsSentAs (event : SSEEvent) : WireEvent → Prop
  | messageStart inputTokens =>
      ∃ frame message usage,
        readEvent parse event = some ("message_start", frame) ∧
          frame.getRecord "message" = some message ∧
          message.getRecord "usage" = some usage ∧
          readNumber (usage.get "input_tokens") = some (inputTokens : ℚ)
  | blockStart streamed =>
      ∃ frame content,
        readEvent parse event = some ("content_block_start", frame) ∧
          readNumber (frame.get "index") = some streamed.index ∧
          frame.getRecord "content_block" = some content ∧
          streamed.block.IsAnnouncedBy content
  | fragment streamed text =>
      ∃ frame delta,
        readEvent parse event = some ("content_block_delta", frame) ∧
          readNumber (frame.get "index") = some streamed.index ∧
          frame.getRecord "delta" = some delta ∧
          streamed.block.IsCarriedBy delta text
  | messageDelta stopReason outputTokens =>
      ∃ frame delta usage,
        readEvent parse event = some ("message_delta", frame) ∧
          frame.getRecord "delta" = some delta ∧
          delta.getString "stop_reason" = stopReason ∧
          frame.getRecord "usage" = some usage ∧
          readNumber (usage.get "output_tokens") = some (outputTokens : ℚ)
  | messageStop => ∃ frame, readEvent parse event = some ("message_stop", frame)

/-- Is it an event such as `ping` or `content_block_stop`, of which the adapter
reads nothing? -/
def isIgnored (event : SSEEvent) : Bool :=
  match readEvent parse event with
  | none => true
  | some (type, _) =>
      type ∉
        ["message_start", "content_block_start", "content_block_delta",
          "message_delta", "error", "message_stop"]

/-- The events of a block: its start, and its fragments in order. -/
def blockScript (streamed : StreamedBlock) : List WireEvent :=
  .blockStart streamed :: streamed.fragments.map (.fragment streamed)

/-- The events of a message. -/
def messageScript (message : Message) (plan : List StreamedBlock) :
    List WireEvent :=
  .messageStart message.inputTokens :: plan.flatMap blockScript ++
    [.messageDelta message.stopReason message.outputTokens, .messageStop]

/-- The events stream a message according to a plan: ignored events apart, they
are those of the message, each block in fragments that fit it. -/
structure Streams
    (message : Message)
    (plan : List StreamedBlock)
    (events : List SSEEvent) : Prop where
  blocks : plan.map StreamedBlock.block = message.content
  fits : ∀ streamed ∈ plan, streamed.Fits parse
  script : List.Forall₂ (WireEvent.IsSentAs parse)
    (events.filter fun event => !isIgnored parse event)
    (messageScript message plan)

end StreamedMessages

section Reading

variable {parse : String → Option Json}

/-- What the adapter is told by an event of the wire. -/
def WireEvent.signal : WireEvent → Signal
  | messageStart inputTokens => .messageStart (some inputTokens)
  | blockStart streamed =>
      match streamed.block with
      | .text _ => .passive
      | .toolUse id name _ =>
          .toolUseStart streamed.index (some id) (some name)
  | fragment streamed text =>
      match streamed.block with
      | .text _ => .textDelta text
      | .toolUse _ _ _ => .inputJsonDelta streamed.index text
  | messageDelta stopReason outputTokens =>
      .messageDelta stopReason (some outputTokens)
  | messageStop => .messageStop

theorem readSignal_of_isIgnored
    {event : SSEEvent}
    (ignored : isIgnored parse event = true) :
    readSignal parse event = .passive := by
  unfold isIgnored at ignored
  unfold readSignal
  cases isRead : readEvent parse event with
  | none => rfl
  | some read =>
      obtain ⟨type, frame⟩ := read
      rw [isRead] at ignored
      dsimp only at ignored ⊢
      unfold frameSignal
      split <;> simp at ignored ⊢

/-- A record under a key is the value under it. -/
theorem get_of_getRecord
    {key : String}
    {value record : Json}
    (isRecord : value.getRecord key = some record) :
    value.get key = some record ∧ record.isRecord = true :=
  Option.filter_eq_some_iff.1 isRecord

theorem readSignal_of_isSentAs
    {event : SSEEvent}
    {wire : WireEvent}
    (isSent : wire.IsSentAs parse event) :
    readSignal parse event = wire.signal := by
  cases wire with
  | messageStart inputTokens =>
      obtain ⟨frame, message, usage, isRead, isMessage, isUsage, isCount⟩ := isSent
      obtain ⟨usageEq, usageRecord⟩ := get_of_getRecord isUsage
      simp only [readSignal, isRead, frameSignal, isMessage, Option.bind_some,
        usageEq, readUsageField, Option.filter_some, usageRecord, if_true, isCount,
        WireEvent.signal]
  | blockStart streamed =>
      obtain ⟨frame, content, isRead, isIndex, isContent, announced⟩ := isSent
      simp only [readSignal, isRead, frameSignal, startSignal, isContent]
      cases blockEq : streamed.block with
      | text words =>
          rw [blockEq] at announced
          have isText : content.getString "type" = some "text" := announced
          simp [Option.filter_some, isText, WireEvent.signal, blockEq]
      | toolUse id name input =>
          rw [blockEq] at announced
          obtain ⟨isToolUse, isId, isName⟩ := announced
          simp [Option.filter_some, isToolUse, isId, isName, WireEvent.signal,
            blockEq, blockIndex, isIndex]
  | fragment streamed text =>
      obtain ⟨frame, delta, isRead, isIndex, isDelta, carried⟩ := isSent
      simp only [readSignal, isRead, frameSignal, deltaSignal, isDelta]
      cases blockEq : streamed.block with
      | text words =>
          rw [blockEq] at carried
          obtain ⟨isType, isText⟩ := carried
          simp [isType, isText, WireEvent.signal, blockEq]
      | toolUse id name input =>
          rw [blockEq] at carried
          obtain ⟨isType, isFragment⟩ := carried
          simp [isType, isFragment, WireEvent.signal, blockEq, blockIndex, isIndex]
  | messageDelta stopReason outputTokens =>
      obtain ⟨frame, delta, usage, isRead, isDelta, isReason, isUsage, isCount⟩ :=
        isSent
      obtain ⟨usageEq, usageRecord⟩ := get_of_getRecord isUsage
      simp only [readSignal, isRead, frameSignal, isDelta, Option.bind_some,
        isReason, usageEq, readUsageField, Option.filter_some, usageRecord, if_true,
        isCount, WireEvent.signal]
  | messageStop =>
      obtain ⟨frame, isRead⟩ := isSent
      simp only [readSignal, isRead, frameSignal, WireEvent.signal]

/-- The events of a message are not ignored. -/
theorem isIgnored_of_isSentAs
    {event : SSEEvent}
    {wire : WireEvent}
    (isSent : wire.IsSentAs parse event) : isIgnored parse event = false := by
  cases wire with
  | messageStart inputTokens =>
      obtain ⟨frame, message, usage, isRead, -⟩ := isSent
      simp [isIgnored, isRead]
  | blockStart streamed =>
      obtain ⟨frame, content, isRead, -⟩ := isSent
      simp [isIgnored, isRead]
  | fragment streamed text =>
      obtain ⟨frame, delta, isRead, -⟩ := isSent
      simp [isIgnored, isRead]
  | messageDelta stopReason outputTokens =>
      obtain ⟨frame, delta, usage, isRead, -⟩ := isSent
      simp [isIgnored, isRead]
  | messageStop =>
      obtain ⟨frame, isRead⟩ := isSent
      simp [isIgnored, isRead]

theorem script_of_isSentAs
    {events : List SSEEvent}
    {script : List WireEvent}
    (sent : List.Forall₂ (WireEvent.IsSentAs parse) events script) :
    List.Forall₂ (WireEvent.IsSentAs parse)
      (events.filter fun event => !isIgnored parse event) script := by
  induction sent with
  | nil => exact .nil
  | cons isSent _ inductionHypothesis =>
      rw [List.filter_cons_of_pos (by simp [isIgnored_of_isSentAs isSent])]
      exact .cons isSent inductionHypothesis

/-- Ignored events make no difference. -/
theorem run_filter_isIgnored
    (machine : Transducer StreamState Signal ChatCompletionChunk Thrown)
    (skips : ∀ state, machine.step state .passive = (state, [], .proceed))
    (ending : Foundations.Ending Thrown)
    (state : StreamState)
    (events : List SSEEvent) :
    machine.run ending state (events.map (readSignal parse)) =
      machine.run ending state
        ((events.filter fun event => !isIgnored parse event).map
          (readSignal parse)) := by
  induction events generalizing state with
  | nil => rfl
  | cons event events inductionHypothesis =>
      cases ignored : isIgnored parse event with
      | true =>
          rw [List.map_cons, readSignal_of_isIgnored ignored,
            List.filter_cons_of_neg (by simp [ignored])]
          simp only [Transducer.run, Transducer.control, Transducer.output,
            Transducer.after, skips, Yields.prepend_nil]
          exact inductionHypothesis state
      | false =>
          rw [List.filter_cons_of_pos (by simp [ignored])]
          simp only [List.map_cons, Transducer.run, inductionHypothesis]

theorem map_readSignal_of_script
    {events : List SSEEvent}
    {script : List WireEvent}
    (sent : List.Forall₂ (WireEvent.IsSentAs parse) events script) :
    events.map (readSignal parse) = script.map WireEvent.signal := by
  induction sent with
  | nil => rfl
  | cons isSent _ inductionHypothesis =>
      rw [List.map_cons, List.map_cons, readSignal_of_isSentAs isSent,
        inductionHypothesis]

/-- The adapter reads the script of the message. -/
theorem run_of_streams
    {message : Message}
    {plan : List StreamedBlock}
    {events : List SSEEvent}
    (streams : Streams parse message plan events)
    (header : StreamHeader)
    (wantUsage : Bool)
    (providerId : String)
    (ending : Foundations.Ending Thrown) :
    (normaliser header wantUsage providerId parse).run ending {} events =
      (signalMachine header wantUsage providerId).run ending {}
        ((messageScript message plan).map WireEvent.signal) := by
  rw [run_eq, run_filter_isIgnored _ (fun _ => rfl),
    map_readSignal_of_script streams.script]

end Reading

section Building

/-- The text that a block adds. -/
def StreamedBlock.text (streamed : StreamedBlock) : String :=
  match streamed.block with
  | .text _ => String.join streamed.fragments
  | .toolUse _ _ _ => ""

/-- The tool call that a block adds, if it is a `tool_use` block. -/
def StreamedBlock.call (streamed : StreamedBlock) : Option AccumulatedCall :=
  match streamed.block with
  | .text _ => none
  | .toolUse id name _ =>
      some
        { id := some id
          name := some name
          arguments := String.join streamed.fragments }

/-- The adapter and a client that puts its chunks together. -/
structure Reception where
  state : StreamState := {}
  message : Accumulated := {}

variable
  (header : StreamHeader)
  (wantUsage : Bool)
  (providerId : String)

/-- Both after more signals. -/
def Reception.receive (reception : Reception) (signals : List Signal) :
    Reception where
  state :=
    (signalMachine header wantUsage providerId).afterAll reception.state signals
  message :=
    reception.message.addAll
      ((signalMachine header wantUsage providerId).outputAll reception.state
        signals)

theorem Reception.receive_append
    (reception : Reception)
    (signals later : List Signal) :
    reception.receive header wantUsage providerId (signals ++ later) =
      (reception.receive header wantUsage providerId signals).receive header
        wantUsage providerId later := by
  simp only [receive, Transducer.afterAll_append, Transducer.outputAll_append,
    Accumulated.addAll_append]

theorem Reception.receive_singleton (reception : Reception) (signal : Signal) :
    reception.receive header wantUsage providerId [signal] =
      { state :=
          (reception.state.receive header wantUsage providerId signal).1
        message :=
          reception.message.addAll
            (reception.state.receive header wantUsage providerId signal).2.1 } := by
  simp [receive, Transducer.after, Transducer.output, signalMachine]

/-- Text and tool calls were added, the calls under the next indices. -/
structure Builds
    (before after : Reception)
    (addedText : String)
    (addedCalls : List AccumulatedCall) : Prop where
  text : after.message.text = before.message.text ++ addedText
  calls : after.message.toolCalls.map Prod.snd =
    before.message.toolCalls.map Prod.snd ++ addedCalls
  numbered : Numbered after.state.nextToolIndex after.message.toolCalls
  sawToolUse : after.state.sawToolUse =
    (before.state.sawToolUse || !addedCalls.isEmpty)
  promptTokens : after.state.promptTokens = before.state.promptTokens
  stopReason : after.state.stopReason = before.state.stopReason
  usage : after.message.usage = before.message.usage

theorem Builds.trans
    {first second third : Reception}
    {text later : String}
    {calls laterCalls : List AccumulatedCall}
    (builds : Builds first second text calls)
    (buildsLater : Builds second third later laterCalls) :
    Builds first third (text ++ later) (calls ++ laterCalls) where
  text := by rw [buildsLater.text, builds.text, String.append_assoc]
  calls := by rw [buildsLater.calls, builds.calls, List.append_assoc]
  numbered := buildsLater.numbered
  sawToolUse := by
    rw [buildsLater.sawToolUse, builds.sawToolUse, Bool.or_assoc]
    cases calls <;> simp
  promptTokens := buildsLater.promptTokens.trans builds.promptTokens
  stopReason := buildsLater.stopReason.trans builds.stopReason
  usage := buildsLater.usage.trans builds.usage

/-- Fragments of a text are appended. -/
theorem receive_textDeltas (reception : Reception) (fragments : List String) :
    reception.receive header wantUsage providerId (fragments.map .textDelta) =
      { reception with
        message :=
          { reception.message with
            text := reception.message.text ++ String.join fragments } } := by
  induction fragments generalizing reception with
  | nil => simp [Reception.receive]
  | cons fragment fragments inductionHypothesis =>
      rw [List.map_cons, ← List.singleton_append, Reception.receive_append,
        inductionHypothesis, Reception.receive_singleton]
      simp [StreamState.receive, String.append_assoc]

/-- Fragments of an input are appended to the arguments of the last call. -/
theorem receive_inputJsonDeltas
    {reception : Reception}
    {count : Nat}
    {calls : List (ℚ × AccumulatedCall)}
    {call : AccumulatedCall}
    {block : ℚ}
    (numbered : Numbered count calls)
    (callsEq : reception.message.toolCalls = calls ++ [((count : ℚ), call)])
    (isMapped : reception.state.toolIndexByBlock.lookup block = some count)
    (fragments : List String) :
    reception.receive header wantUsage providerId
        (fragments.map (.inputJsonDelta block)) =
      { reception with
        message :=
          { reception.message with
            toolCalls :=
              calls ++ [((count : ℚ),
                { call with
                  arguments := call.arguments ++ String.join fragments })] } } := by
  induction fragments generalizing reception call with
  | nil => simp [Reception.receive, ← callsEq]
  | cons fragment fragments inductionHypothesis =>
      rw [List.map_cons, ← List.singleton_append, Reception.receive_append]
      have received : reception.receive header wantUsage providerId
            [.inputJsonDelta block fragment] =
          { reception with
            message :=
              { reception.message with
                toolCalls := calls ++ [((count : ℚ),
                  call.extend { index := count, arguments := some fragment })] } } := by
        rw [Reception.receive_singleton]
        simp only [StreamState.receive, isMapped, Option.getD_some,
          Accumulated.addAll_cons, Accumulated.addAll_nil,
          Accumulated.add_makeToolCallChunk, callsEq]
        rw [mergeToolCall_last numbered call rfl]
      rw [received]
      refine Eq.trans (@inductionHypothesis _
        (call.extend { index := count, arguments := some fragment }) rfl
        isMapped) ?_
      simp [AccumulatedCall.extend, String.append_assoc]

/-- The start of a `tool_use` block opens a call under the next index. -/
theorem receive_toolUseStart
    {reception : Reception}
    (numbered : Numbered reception.state.nextToolIndex reception.message.toolCalls)
    (block : ℚ)
    (id name : Option String) :
    reception.receive header wantUsage providerId [.toolUseStart block id name] =
      { state :=
          { reception.state with
            nextToolIndex := reception.state.nextToolIndex + 1
            toolIndexByBlock :=
              (block, reception.state.nextToolIndex) ::
                reception.state.toolIndexByBlock
            sawToolUse := true }
        message :=
          { reception.message with
            toolCalls := reception.message.toolCalls ++
              [((reception.state.nextToolIndex : ℚ),
                { id := id, name := name })] } } := by
  rw [Reception.receive_singleton]
  simp only [StreamState.receive, Accumulated.addAll_cons, Accumulated.addAll_nil,
    Accumulated.add_makeToolCallChunk]
  rw [mergeToolCall_next numbered rfl]
  simp [AccumulatedCall.extend]

/-- A block adds its text or its tool call. -/
theorem builds_block
    (reception : Reception)
    (numbered : Numbered reception.state.nextToolIndex reception.message.toolCalls)
    (streamed : StreamedBlock) :
    Builds reception
      (reception.receive header wantUsage providerId
        ((blockScript streamed).map WireEvent.signal))
      streamed.text streamed.call.toList := by
  obtain ⟨block, index, fragments⟩ := streamed
  rw [blockScript, List.map_cons, List.map_map, ← List.singleton_append,
    Reception.receive_append]
  cases block with
  | text words =>
      have signals : WireEvent.signal ∘
          WireEvent.fragment ⟨.text words, index, fragments⟩ = .textDelta := rfl
      rw [signals, receive_textDeltas]
      refine ⟨rfl, ?_, numbered, ?_, rfl, rfl, rfl⟩
      · exact (List.append_nil _).symm
      · exact (Bool.or_false _).symm
  | toolUse id name input =>
      have signals : WireEvent.signal ∘
          WireEvent.fragment ⟨.toolUse id name input, index, fragments⟩ =
            .inputJsonDelta index := rfl
      have started := receive_toolUseStart header wantUsage providerId numbered
        index (some id) (some name)
      rw [signals, WireEvent.signal, started,
        receive_inputJsonDeltas header wantUsage providerId numbered rfl
          List.lookup_cons_self]
      refine ⟨?_, ?_, numbered.append_singleton _, ?_, rfl, rfl, rfl⟩
      · exact String.append_empty.symm
      · rw [List.map_append]
        rfl
      · exact (Bool.or_true _).symm

/-- The blocks of a plan add their texts and their tool calls. -/
theorem builds_plan
    (reception : Reception)
    (numbered : Numbered reception.state.nextToolIndex reception.message.toolCalls)
    (plan : List StreamedBlock) :
    Builds reception
      (reception.receive header wantUsage providerId
        ((plan.flatMap blockScript).map WireEvent.signal))
      (String.join (plan.map StreamedBlock.text))
      (plan.filterMap StreamedBlock.call) := by
  induction plan generalizing reception with
  | nil =>
      refine ⟨?_, ?_, numbered, ?_, rfl, rfl, rfl⟩
      · exact String.append_empty.symm
      · exact (List.append_nil _).symm
      · exact (Bool.or_false _).symm
  | cons streamed plan inductionHypothesis =>
      have builds := builds_block header wantUsage providerId reception numbered
        streamed
      have whole := builds.trans (inductionHypothesis _ builds.numbered)
      rw [List.flatMap_cons, List.map_append, Reception.receive_append,
        List.map_cons, String.join_cons]
      have callsEq : (streamed :: plan).filterMap StreamedBlock.call =
          streamed.call.toList ++ plan.filterMap StreamedBlock.call := by
        rw [List.filterMap_cons]
        cases streamed.call <;> rfl
      rw [callsEq]
      exact whole

/-- The events before the stop of the message. -/
def openingScript (message : Message) (plan : List StreamedBlock) :
    List WireEvent :=
  .messageStart message.inputTokens :: plan.flatMap blockScript ++
    [.messageDelta message.stopReason message.outputTokens]

theorem isTerminal_of_mem_openingScript
    {message : Message}
    {plan : List StreamedBlock}
    {wire : WireEvent}
    (isOpening : wire ∈ openingScript message plan) :
    wire.signal.isTerminal = false := by
  cases wire with
  | messageStart inputTokens => rfl
  | blockStart streamed =>
      obtain ⟨block, index, fragments⟩ := streamed
      cases block <;> rfl
  | fragment streamed text =>
      obtain ⟨block, index, fragments⟩ := streamed
      cases block <;> rfl
  | messageDelta stopReason outputTokens => rfl
  | messageStop => simp [openingScript, blockScript] at isOpening

/-- The adapter reads the events before the stop and sends the closing chunks. -/
theorem run_messageScript
    (message : Message)
    (plan : List StreamedBlock)
    (ending : Foundations.Ending Thrown) :
    let reception := Reception.receive header wantUsage providerId {}
      ((openingScript message plan).map WireEvent.signal)
    accumulate ((signalMachine header wantUsage providerId).run ending {}
        ((messageScript message plan).map WireEvent.signal)).items =
      reception.message.addAll (stopChunks header wantUsage reception.state) := by
  intro reception
  have scriptEq : messageScript message plan =
      openingScript message plan ++ [.messageStop] := by
    simp [messageScript, openingScript]
  have notTerminal : ∀ signal ∈ (openingScript message plan).map WireEvent.signal,
      signal.isTerminal = false := by
    intro signal isSignal
    obtain ⟨wire, isWire, rfl⟩ := List.mem_map.1 isSignal
    exact isTerminal_of_mem_openingScript isWire
  rw [scriptEq, List.map_append, Transducer.run_append _
    (proceeds_of_notTerminal header wantUsage providerId {} notTerminal),
    Yields.items_prepend, accumulate, Accumulated.addAll_append]
  rfl

/-- Both when the message has started. -/
def Reception.started (inputTokens : Nat) : Reception where
  state := { promptTokens := inputTokens, roleEmitted := true }

/-- Both before the stop of the message: what the blocks build, with the notes of
the last delta. -/
theorem exists_builds_of_openingScript
    (message : Message)
    (plan : List StreamedBlock) :
    ∃ built,
      Builds (.started message.inputTokens) built
        (String.join (plan.map StreamedBlock.text))
        (plan.filterMap StreamedBlock.call) ∧
      Reception.receive header wantUsage providerId {}
          ((openingScript message plan).map WireEvent.signal) =
        { built with
          state :=
            { built.state with
              stopReason := message.stopReason <|> built.state.stopReason
              completionTokens := message.outputTokens } } := by
  have startedEq : Reception.receive header wantUsage providerId {}
      [(WireEvent.messageStart message.inputTokens).signal] =
        .started message.inputTokens := by
    rw [Reception.receive_singleton]
    simp [StreamState.receive, WireEvent.signal, Reception.started]
  refine ⟨_, builds_plan header wantUsage providerId _ .nil plan, ?_⟩
  rw [openingScript, List.map_append, List.map_cons, ← List.singleton_append,
    Reception.receive_append, Reception.receive_append, startedEq]
  exact Reception.receive_singleton ..

/-- What a client puts together from the events of a message. -/
theorem accumulate_of_streams
    {parse : String → Option Json}
    {message : Message}
    {plan : List StreamedBlock}
    {events : List SSEEvent}
    (streams : Streams parse message plan events)
    (ending : Foundations.Ending Thrown) :
    let calls := plan.filterMap StreamedBlock.call
    let accumulated := accumulate
      ((normaliser header wantUsage providerId parse).run ending {} events).items
    accumulated.text = String.join (plan.map StreamedBlock.text) ∧
      accumulated.toolCalls.map Prod.snd = calls ∧
      accumulated.finishReason =
        some (mapStopReason message.stopReason (!calls.isEmpty)) ∧
      accumulated.usage =
        if wantUsage then
          some
            { promptTokens := message.inputTokens
              completionTokens := message.outputTokens
              totalTokens := message.inputTokens + message.outputTokens }
        else none := by
  intro calls accumulated
  obtain ⟨built, builds, receptionEq⟩ :=
    exists_builds_of_openingScript header wantUsage providerId message plan
  have scriptEq :=
    run_messageScript header wantUsage providerId message plan ending
  rw [receptionEq, ← run_of_streams streams] at scriptEq
  have sameReason : (message.stopReason <|> built.state.stopReason) =
      message.stopReason := by
    rw [builds.stopReason]
    cases message.stopReason <;> rfl
  have sawToolUse : built.state.sawToolUse = !calls.isEmpty :=
    builds.sawToolUse.trans (Bool.false_or _)
  have sameTokens : built.state.promptTokens = message.inputTokens :=
    builds.promptTokens
  have noUsage : built.message.usage = none := builds.usage
  have accumulatedEq : accumulated = _ :=
    scriptEq.trans (Accumulated.addAll_closingChunks ..)
  rw [accumulatedEq, sameReason, sawToolUse, sameTokens, noUsage]
  refine ⟨?_, ?_, rfl, rfl⟩
  · exact builds.text.trans String.empty_append
  · exact builds.calls.trans (List.nil_append _)

end Building

section Agreement

-- `JSON.parse`, which may reject
variable (parse : String → Option Json)

/-- What is assumed of `JSON.parse`: it reads the text that `JSON.stringify`
writes for a value it gave, in which an infinity is written `null`; it reads the
empty object; and no text is not a JSON text. -/
structure ReadsWritten : Prop where
  parse_stringify : ∀ text value,
    parse text = some value → parse value.stringify = some value.finite
  parse_emptyObject : parse (Json.object []).stringify = some (.object [])
  parse_empty : parse "" = none

/-- Two texts are JSON texts of one value. -/
def SameJson (left right : String) : Prop :=
  ∃ value, parse left = some value ∧ parse right = some value

/-- A tool call from a stream and one of a whole message are the same, the
arguments as parsed JSON. -/
structure SameCall (streamed : AccumulatedCall) (whole : ToolCall) : Prop where
  id : streamed.id = some whole.id
  name : streamed.name = some whole.function.name
  arguments : SameJson parse streamed.arguments whole.function.arguments

/-- What a client puts together from a stream is what a completion holds; the
usage is sent if it is wanted. -/
structure Agrees
    (wantUsage : Bool)
    (message : Accumulated)
    (whole : ChatCompletion) : Prop where
  text : message.text = whole.content.getD ""
  toolCalls : List.Forall₂ (SameCall parse)
    (message.toolCalls.map Prod.snd) whole.toolCalls
  finishReason : message.finishReason = some whole.finishReason
  usage : message.usage = if wantUsage then some whole.usage else none

/-- The input of a `tool_use` block is sent in some fragment, is not `null`, and
has no number that `JSON.stringify` cannot write. -/
def StreamedBlock.SendsInput (streamed : StreamedBlock) : Prop :=
  match streamed.block with
  | .text _ => True
  | .toolUse _ _ input =>
      String.join streamed.fragments ≠ "" ∧ input ≠ .null ∧ input.finite = input

variable {parse}

/-- The fragments of an input and the arguments of the whole message are texts of
one value exactly if the input is sent. -/
theorem sameJson_iff
    (reads : ReadsWritten parse)
    {fragments : String}
    {input : Json}
    (fits : parse fragments = some input ∨
      fragments = "" ∧ input = .object []) :
    SameJson parse fragments (inputOrEmpty (some input)).stringify ↔
      fragments ≠ "" ∧ input ≠ .null ∧ input.finite = input := by
  by_cases isBlank : fragments = ""
  · refine iff_of_false ?_ fun sends => sends.1 isBlank
    rintro ⟨value, isFragments, -⟩
    rw [isBlank, reads.parse_empty] at isFragments
    cases isFragments
  · have isInput := fits.resolve_right fun empty => isBlank empty.1
    unfold SameJson
    by_cases isNull : input = .null
    · subst isNull
      refine iff_of_false ?_ fun sends => sends.2.1 rfl
      rintro ⟨value, isFragments, isWhole⟩
      rw [isInput] at isFragments
      cases isFragments
      have isEmpty := reads.parse_emptyObject
      rw [inputOrEmpty, isEmpty] at isWhole
      cases isWhole
    · have sameInput : inputOrEmpty (some input) = input := by
        unfold inputOrEmpty
        split <;> simp_all
      rw [sameInput, isInput, reads.parse_stringify _ _ isInput]
      constructor
      · rintro ⟨value, isFragments, isWhole⟩
        cases isFragments
        exact ⟨isBlank, isNull, Option.some.inj isWhole⟩
      · rintro ⟨-, -, isFinite⟩
        exact ⟨input, rfl, congrArg some isFinite⟩

section Blocks

variable {plan : List StreamedBlock}

/-- The texts of the plan are those of the whole message. -/
theorem text_of_fits (fits : ∀ streamed ∈ plan, streamed.Fits parse) :
    String.join (plan.map StreamedBlock.text) =
      String.join ((plan.map fun streamed => streamed.block.toResponse).filterMap
        ResponseBlock.textPart) := by
  induction plan with
  | nil => rfl
  | cons streamed plan inductionHypothesis =>
      obtain ⟨fitsNow, fitsLater⟩ := List.forall_mem_cons.1 fits
      obtain ⟨block, index, fragments⟩ := streamed
      rw [List.map_cons, String.join_cons, inductionHypothesis fitsLater]
      cases block with
      | text words =>
          have isText : String.join fragments = words := fitsNow
          rw [List.map_cons, List.filterMap_cons]
          change String.join fragments ++ _ = String.join (words :: _)
          rw [isText, String.join_cons]
      | toolUse id name input => exact String.empty_append

/-- The tool calls of the plan are those of the whole message exactly if all
inputs are sent. -/
theorem sameCalls_iff
    (reads : ReadsWritten parse)
    (fits : ∀ streamed ∈ plan, streamed.Fits parse) :
    List.Forall₂ (SameCall parse) (plan.filterMap StreamedBlock.call)
        ((plan.map fun streamed => streamed.block.toResponse).filterMap
          ResponseBlock.toolCall) ↔
      ∀ streamed ∈ plan, streamed.SendsInput := by
  induction plan with
  | nil => simp
  | cons streamed plan inductionHypothesis =>
      obtain ⟨fitsNow, fitsLater⟩ := List.forall_mem_cons.1 fits
      obtain ⟨block, index, fragments⟩ := streamed
      rw [List.forall_mem_cons, ← inductionHypothesis fitsLater]
      cases block with
      | text words => exact ⟨fun same => ⟨trivial, same⟩, And.right⟩
      | toolUse id name input =>
          have sameCall : ∀ {arguments : String},
              SameCall parse
                  { id := some id
                    name := some name
                    arguments := String.join fragments }
                  { id := id, function := { name := name, arguments := arguments } } ↔
                SameJson parse (String.join fragments) arguments :=
            ⟨SameCall.arguments, fun same => ⟨rfl, rfl, same⟩⟩
          refine Iff.trans List.forall₂_cons (and_congr_left fun _ => ?_)
          exact sameCall.trans (sameJson_iff reads fitsNow)

/-- A plan has a tool call exactly if the whole message has one. -/
theorem isEmpty_calls :
    (plan.filterMap StreamedBlock.call).isEmpty =
      ((plan.map fun streamed => streamed.block.toResponse).filterMap
        ResponseBlock.toolCall).isEmpty := by
  induction plan with
  | nil => rfl
  | cons streamed plan inductionHypothesis =>
      obtain ⟨block, index, fragments⟩ := streamed
      cases block with
      | text words => exact inductionHypothesis
      | toolUse id name input => rfl

end Blocks

/-- What a client puts together from the events of a message agrees with the
translation of the whole message exactly if the inputs of all tool calls are
sent. -/
theorem agrees_iff
    (reads : ReadsWritten parse)
    (header : StreamHeader)
    (wantUsage : Bool)
    (providerId : String)
    {message : Message}
    {plan : List StreamedBlock}
    {source : Yields SSEEvent Thrown}
    (streams : Streams parse message plan source.items)
    (messageId completionId : String)
    (messageModel : Option String)
    (created : Nat)
    (request : ChatCompletionRequest) :
    Agrees parse wantUsage
        (accumulate ((normaliser header wantUsage providerId parse).transduce {}
          source).items)
        (translateResponse completionId created
          (message.toResponse messageId messageModel) request) ↔
      ∀ streamed ∈ plan, streamed.SendsInput := by
  have blocksEq : (message.toResponse messageId messageModel).content =
      plan.map fun streamed => streamed.block.toResponse := by
    rw [Message.toResponse, ← streams.blocks, List.map_map]
    rfl
  obtain ⟨textEq, callsEq, finishEq, usageEq⟩ :=
    accumulate_of_streams header wantUsage providerId streams source.ending
  rw [← sameCalls_iff reads streams.fits, ← callsEq, ← blocksEq]
  refine ⟨Agrees.toolCalls, fun sameCalls => ⟨?_, sameCalls, ?_, ?_⟩⟩
  · refine textEq.trans ?_
    rw [text_of_fits streams.fits, ← blocksEq, translateResponse]
    dsimp only
    generalize List.filterMap ResponseBlock.textPart _ = textParts
    cases textParts <;> rfl
  · refine finishEq.trans ?_
    rw [isEmpty_calls, ← blocksEq]
    rfl
  · exact usageEq

section Sample

/-- A parser of the texts of some values. -/
def parseOneOf (values : List Json) (text : String) : Option Json :=
  values.find? fun value => value.stringify == text

/-- The texts of finite values are read back. -/
theorem parseOneOf_stringify
    {values : List Json}
    (areFinite : ∀ value ∈ values, value.finite = value)
    {value : Json}
    (isValue : value ∈ values) :
    parseOneOf values value.stringify = some value := by
  have isFound : (parseOneOf values value.stringify).isSome = true :=
    List.find?_isSome.2 ⟨value, isValue, beq_self_eq_true _⟩
  obtain ⟨other, isOther⟩ := Option.isSome_iff_exists.1 isFound
  have sameText := List.find?_some isOther
  rw [beq_iff_eq] at sameText
  have sameFinite := Json.finite_eq_of_stringify_eq sameText
  rw [areFinite other (List.mem_of_find?_eq_some isOther),
    areFinite value isValue] at sameFinite
  rw [isOther, sameFinite]

theorem readsWritten_parseOneOf
    {values : List Json}
    (areFinite : ∀ value ∈ values, value.finite = value)
    (emptyObject : .object [] ∈ values)
    (notEmpty : parseOneOf values "" = none) :
    ReadsWritten (parseOneOf values) where
  parse_stringify := by
    intro text value isValue
    have isMember := List.mem_of_find?_eq_some isValue
    rw [areFinite value isMember]
    exact parseOneOf_stringify areFinite isMember
  parse_emptyObject := parseOneOf_stringify areFinite emptyObject
  parse_empty := notEmpty

/-- A message that calls a tool without arguments. -/
def plainCall : Message where
  content := [.toolUse "tu_1" "now" (.object [])]
  stopReason := some "tool_use"
  inputTokens := 1
  outputTokens := 1

/-- The frames of the message, with the input in some fragments. -/
def plainCallFrames (fragments : List String) : List Json :=
  [.object
      [("type", .string "message_start"),
        ("message", .object [("usage", .object [("input_tokens", .number 1)])])],
    .object
      [("type", .string "content_block_start"), ("index", .number 0),
        ("content_block", .object
          [("type", .string "tool_use"), ("id", .string "tu_1"),
            ("name", .string "now")])]] ++
    fragments.map (fun fragment =>
      .object
        [("type", .string "content_block_delta"), ("index", .number 0),
          ("delta", .object
            [("type", .string "input_json_delta"),
              ("partial_json", .string fragment)])]) ++
    [.object
        [("type", .string "message_delta"),
          ("delta", .object [("stop_reason", .string "tool_use")]),
          ("usage", .object [("output_tokens", .number 1)])],
      .object [("type", .string "message_stop")]]

theorem finite_plainCallFrames (fragments : List String) :
    ∀ value ∈ .object [] :: plainCallFrames fragments, value.finite = value := by
  simp only [plainCallFrames, List.forall_mem_cons, List.forall_mem_append,
    List.forall_mem_map]
  exact ⟨rfl, ⟨⟨rfl, rfl, by simp⟩, fun _ _ => rfl⟩, rfl, rfl, by simp⟩

/-- The events that carry frames. -/
def frameEvents (frames : List Json) : List SSEEvent :=
  frames.map fun frame => { event := none, data := frame.stringify }

/-- A frame with a type is read from its text. -/
theorem readEvent_of_frame
    {entries : List (String × Json)}
    {type : String}
    (isRead : parse (Json.object entries).stringify = some (.object entries))
    (isType : (Json.object entries).getString "type" = some type) :
    readEvent parse { event := none, data := (Json.object entries).stringify } =
      some (type, .object entries) := by
  rw [readEvent, if_neg (Json.stringify_object_ne_empty entries), safeJsonParse,
    isRead, Option.getD_some]
  dsimp only
  rw [isType]
  rfl

/-- The block of the message, with the input in some fragments. -/
def plainBlock (fragments : List String) : StreamedBlock where
  block := .toolUse "tu_1" "now" (.object [])
  index := 0
  fragments := fragments

/-- The frames stream the message. -/
theorem streams_plainCall
    {fragments : List String}
    (areRead : ∀ frame ∈ plainCallFrames fragments,
      parse frame.stringify = some frame)
    (fits : (plainBlock fragments).Fits parse) :
    Streams parse plainCall [plainBlock fragments]
      (frameEvents (plainCallFrames fragments)) := by
  simp only [plainCallFrames, List.forall_mem_append, List.forall_mem_cons,
    List.forall_mem_map] at areRead
  obtain ⟨⟨⟨startRead, blockRead, -⟩, fragmentsRead⟩, deltaRead, stopRead, -⟩ :=
    areRead
  have isZero : readNumber (some (.number 0)) = some (0 : ℚ) := by decide +kernel
  have isOne : readNumber (some (.number 1)) = some ((1 : Nat) : ℚ) := by
    decide +kernel
  have script : List.Forall₂ (WireEvent.IsSentAs parse)
      (frameEvents (plainCallFrames fragments))
      (messageScript plainCall [plainBlock fragments]) := by
    simp only [plainCallFrames, frameEvents, messageScript, blockScript,
      List.map_append, List.map_cons, List.map_nil, List.map_map,
      List.flatMap_cons, List.flatMap_nil, List.append_nil, List.cons_append,
      List.nil_append]
    refine .cons ⟨_, _, _, readEvent_of_frame startRead rfl, rfl, rfl, isOne⟩
      (.cons ⟨_, _, readEvent_of_frame blockRead rfl, isZero, rfl, rfl, rfl, rfl⟩
        (List.rel_append ?_
          (.cons ⟨_, _, _, readEvent_of_frame deltaRead rfl, rfl, rfl, rfl, isOne⟩
            (.cons ⟨_, readEvent_of_frame stopRead rfl⟩ .nil))))
    rw [List.forall₂_map_left_iff, List.forall₂_map_right_iff]
    refine List.forall₂_same.2 fun fragment isFragment => ?_
    exact ⟨_, _, readEvent_of_frame (fragmentsRead fragment isFragment) rfl, isZero,
      rfl, rfl, rfl⟩
  exact ⟨rfl, List.forall_mem_singleton.2 fits, script_of_isSentAs script⟩

/-- The input of a call without arguments is sent in no fragment: the client is
left with arguments that are no JSON. -/
theorem empty_input_is_lost :
    let frames := plainCallFrames []
    let parse := parseOneOf (.object [] :: frames)
    let plan : List StreamedBlock :=
      [{ block := .toolUse "tu_1" "now" (.object []), index := 0, fragments := [] }]
    let source : Yields SSEEvent Thrown :=
      { items := frameEvents frames, ending := .finished }
    Streams parse plainCall plan source.items ∧
      ∀ header request,
        ¬Agrees parse true
          (accumulate ((normaliser header true "anthropic" parse).transduce {}
            source).items)
          (translateResponse "chatcmpl-1" 0 (plainCall.toResponse "msg_1" none)
            request) := by
  intro frames parse plan source
  have streams : Streams parse plainCall plan source.items := by
    refine streams_plainCall (fun frame isFrame => ?_) (.inr ⟨rfl, rfl⟩)
    exact parseOneOf_stringify (finite_plainCallFrames [])
      (List.mem_cons_of_mem _ isFrame)
  refine ⟨streams, fun header request agrees => ?_⟩
  obtain ⟨-, callsEq, -, -⟩ :=
    accumulate_of_streams header true "anthropic" streams .finished
  have sameCalls := agrees.toolCalls
  rw [Transducer.transduce, callsEq] at sameCalls
  obtain ⟨value, isJson, -⟩ := (List.forall₂_cons.1 sameCalls).1.arguments
  cases isJson

/-- If the empty input is sent as a fragment, the stream agrees with the whole
message. -/
theorem agrees_of_sent_empty_input :
    let frames := plainCallFrames ["\x7b\x7d"]
    let parse := parseOneOf (.object [] :: frames)
    let source : Yields SSEEvent Thrown :=
      { items := frameEvents frames, ending := .finished }
    ∀ header request,
      Agrees parse true
        (accumulate ((normaliser header true "anthropic" parse).transduce {}
          source).items)
        (translateResponse "chatcmpl-1" 0 (plainCall.toResponse "msg_1" none)
          request) := by
  intro frames parse source header request
  have areFinite := finite_plainCallFrames ["\x7b\x7d"]
  have reads : ReadsWritten parse :=
    readsWritten_parseOneOf areFinite List.mem_cons_self rfl
  have streams :
      Streams parse plainCall [plainBlock ["\x7b\x7d"]] source.items := by
    refine streams_plainCall (fun frame isFrame => ?_) (.inl rfl)
    exact parseOneOf_stringify areFinite (List.mem_cons_of_mem _ isFrame)
  refine (agrees_iff reads header true "anthropic" streams "msg_1" "chatcmpl-1"
    none 0 request).2 (List.forall_mem_singleton.2 ⟨?_, ?_, rfl⟩)
  · decide
  · intro isNull
    cases isNull

end Sample

end Agreement

end Anthropic
end Providers
end AiGateway
