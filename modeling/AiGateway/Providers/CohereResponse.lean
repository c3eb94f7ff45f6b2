import AiGateway.OpenAI.Completion
import AiGateway.Providers.StreamOrder

/-!
# Whole and streamed messages of Cohere

A message arrives whole, or as typed events. The adapter translates both, in separate
code. What a client puts together from the events is the translation of the whole
message, however its texts and arguments are cut into fragments.
-/

namespace AiGateway
namespace Providers
namespace Cohere

open Foundations (Control Json Transducer Yields)
open OpenAI

section WholeMessages

/-- `extractText(content)`. -/
def extractText : Option Json → String
  | some (.string text) => text
  | some (.array blocks) =>
      String.join (blocks.filterMap fun block =>
        if block.getString "type" = some "text" then block.getString "text" else none)
  | _ => ""

-- the identifier that is made up for the call at a position
variable (createCompletionId : Nat → String)

/-- One element of `tool_calls`, with its position. -/
def extractToolCall (element : Json × Nat) : Option ToolCall :=
  (element.1.getRecord "function").map fun function =>
    { id := (element.1.getString "id").getD (createCompletionId element.2)
      function :=
        { name := (function.getString "name").getD ""
          arguments := (function.getString "arguments").getD
            (function.getOr "arguments" (.object [])).stringify } }

/-- `extractToolCalls(toolCalls)`. -/
def extractToolCalls (toolCalls : Option Json) : List ToolCall :=
  (toolCalls.elim [] Json.asArray).zipIdx.filterMap (extractToolCall createCompletionId)

/-- `CohereProvider.translateResponse`, with the identifier and the time that it
makes up. -/
def translateResponse
    (id : String)
    (created : Nat)
    (providerId : String)
    (raw : Json)
    (request : ChatCompletionRequest) : Except Thrown ChatCompletion :=
  if raw.isRecord then
    let message := (raw.getRecord "message").getD (.object [])
    let text := extractText (message.get "content")
    let toolCalls := extractToolCalls createCompletionId (message.get "tool_calls")
    .ok
      { id := (raw.getString "id").getD id
        created := created
        model := request.model
        content := if text = "" then none else some text
        toolCalls := toolCalls
        finishReason :=
          mapFinishReason (raw.getString "finish_reason") (!toolCalls.isEmpty)
        usage := readUsage (raw.get "usage") }
  else
    .error (.gateway (.provider "Cohere returned an unexpected response shape."
      502 providerId (some true)))

end WholeMessages

section Messages

/-- A part of a message with the fragments that carry it; the first fragment of the
arguments comes with the start of the call. -/
inductive MessagePart
  | text (fragments : List String)
  | toolCall (id name first : String) (fragments : List String)

/-- The text of a part. -/
def MessagePart.asText : MessagePart → Option String
  | text fragments => some (String.join fragments)
  | toolCall .. => none

/-- The tool call of a part. -/
def MessagePart.asCall : MessagePart → Option ToolCall
  | text _ => none
  | toolCall id name first fragments =>
      some
        { id := id
          function := { name := name, arguments := first ++ String.join fragments } }

/-- A message. -/
structure SentMessage where
  parts : List MessagePart
  finishReason : Option String
  inputTokens : Nat
  outputTokens : Nat

/-- A record with the usage of a message. -/
def SentMessage.IsReportedBy (message : SentMessage) (value : Json) : Prop :=
  ∃ usage tokens, value.getRecord "usage" = some usage ∧
    usage.getRecord "tokens" = some tokens ∧
    readNumber (tokens.get "input_tokens") = some (message.inputTokens : ℚ) ∧
    readNumber (tokens.get "output_tokens") = some (message.outputTokens : ℚ)

/-- A block of the content. -/
def IsTextBlock (block : Json) (text : String) : Prop :=
  block.getString "type" = some "text" ∧ block.getString "text" = some text

/-- An element of the tool calls. -/
def IsCall (element : Json) (call : ToolCall) : Prop :=
  element.getString "id" = some call.id ∧
    ∃ function, element.getRecord "function" = some function ∧
      function.getString "name" = some call.function.name ∧
      function.getString "arguments" = some call.function.arguments

/-- A content that holds some texts; it may go without any. -/
def HoldsTexts (texts : List String) : Option Json → Prop
  | none => texts = []
  | some content =>
      ∃ blocks, content = .array blocks ∧ List.Forall₂ IsTextBlock blocks texts

/-- The whole message, as Cohere documents it. -/
structure SentMessage.IsSentWhole (message : SentMessage) (raw : Json) : Prop where
  holds : ∃ body calls, raw.getRecord "message" = some body ∧
    HoldsTexts (message.parts.filterMap MessagePart.asText) (body.get "content") ∧
    (body.get "tool_calls").elim [] Json.asArray = calls ∧
    List.Forall₂ IsCall calls (message.parts.filterMap MessagePart.asCall)
  finishReason : raw.getString "finish_reason" = message.finishReason
  usage : message.IsReportedBy raw

/-- An event of the stream of a message. -/
inductive WireEvent
  | messageStart
  | contentDelta (text : String)
  | toolCallStart (index : Nat) (id name first : String)
  | toolCallDelta (index : Nat) (fragment : String)
  | messageEnd (message : SentMessage)

/-- The events of a part; `index` counts the calls before it. -/
def MessagePart.script (index : Nat) : MessagePart → List WireEvent
  | text fragments => fragments.map .contentDelta
  | toolCall id name first fragments =>
      .toolCallStart index id name first :: fragments.map (.toolCallDelta index)

/-- The events of some parts. -/
def partsScript : Nat → List MessagePart → List WireEvent
  | _, [] => []
  | index, part :: parts =>
      part.script index ++ partsScript (index + part.asCall.toList.length) parts

/-- The events of a message. -/
def SentMessage.script (message : SentMessage) : List WireEvent :=
  .messageStart :: partsScript 0 message.parts ++ [.messageEnd message]

-- `JSON.parse`, which may reject
variable (parse : String → Option Json)

/-- The fields of the frame that an event is sent as. -/
def WireEvent.IsSentAs (event : SSEEvent) : WireEvent → Prop
  | messageStart => ∃ frame, readEvent parse event = some ("message-start", frame)
  | contentDelta text =>
      ∃ frame delta body content,
        readEvent parse event = some ("content-delta", frame) ∧
          frame.getRecord "delta" = some delta ∧
          delta.getRecord "message" = some body ∧
          body.getRecord "content" = some content ∧
          content.getString "text" = some text
  | toolCallStart index id name first =>
      ∃ frame delta body call function,
        readEvent parse event = some ("tool-call-start", frame) ∧
          readNumber (frame.get "index") = some (index : ℚ) ∧
          frame.getRecord "delta" = some delta ∧
          delta.getRecord "message" = some body ∧
          body.getRecord "tool_calls" = some call ∧
          call.getString "id" = some id ∧
          call.getRecord "function" = some function ∧
          function.getString "name" = some name ∧
          function.getString "arguments" = some first
  | toolCallDelta index fragment =>
      ∃ frame delta body call function,
        readEvent parse event = some ("tool-call-delta", frame) ∧
          readNumber (frame.get "index") = some (index : ℚ) ∧
          frame.getRecord "delta" = some delta ∧
          delta.getRecord "message" = some body ∧
          body.getRecord "tool_calls" = some call ∧
          call.getRecord "function" = some function ∧
          function.getString "arguments" = some fragment
  | messageEnd message =>
      ∃ frame delta,
        readEvent parse event = some ("message-end", frame) ∧
          frame.getRecord "delta" = some delta ∧
          delta.getString "finish_reason" = message.finishReason ∧
          message.IsReportedBy delta

/-- Is it an event such as `content-start` or `tool-plan-delta`, of which the adapter
reads nothing? -/
def isIgnored (event : SSEEvent) : Bool :=
  match readEvent parse event with
  | none => true
  | some (type, _) =>
      type ∉ ["message-start", "content-delta", "tool-call-start", "tool-call-delta",
        "message-end"]

/-- The events stream a message: ignored events apart, they are its events. -/
def SentMessage.IsStreamed (message : SentMessage) (events : List SSEEvent) : Prop :=
  List.Forall₂ (WireEvent.IsSentAs parse)
    (events.filter fun event => !isIgnored parse event) message.script

end Messages

section Reading

variable (header : StreamHeader) (wantUsage : Bool)

/-- What the adapter does for an event of a message. -/
def StreamState.receive (state : StreamState) :
    WireEvent → StreamState × List ChatCompletionChunk
  | .messageStart => ({ state with roleEmitted := true }, emitRole header state)
  | .contentDelta text =>
      ({ state with roleEmitted := true },
        emitRole header state ++ [makeContentChunk header text])
  | .toolCallStart index id name first =>
      ({ state with roleEmitted := true, sawToolUse := true },
        emitRole header state ++
          [makeToolCallChunk header
            { index := index
              id := some id
              hasType := true
              name := some name
              arguments := some first }])
  | .toolCallDelta index fragment =>
      (state,
        [makeToolCallChunk header { index := index, arguments := some fragment }])
  | .messageEnd message =>
      ({ state with
          finishReason := message.finishReason <|> state.finishReason
          usage :=
            if (0 : ℚ) < message.inputTokens + message.outputTokens then
              { promptTokens := message.inputTokens
                completionTokens := message.outputTokens
                totalTokens := message.inputTokens + message.outputTokens }
            else
              state.usage },
        [])

variable {parse : String → Option Json}

theorem normaliseEvent_of_isIgnored
    {event : SSEEvent}
    (ignored : isIgnored parse event = true)
    (state : StreamState) :
    normaliseEvent header parse state event = (state, []) := by
  unfold isIgnored at ignored
  cases isRead : readEvent parse event with
  | none => exact normaliseEvent_of_skipped header parse state isRead
  | some read =>
      obtain ⟨type, frame⟩ := read
      obtain ⟨typeEq, same⟩ := normaliseEvent_of_read header parse state isRead
      rw [isRead] at ignored
      dsimp only at ignored
      rw [same]
      unfold normaliseFrame
      dsimp only
      rw [← typeEq]
      split <;> simp at ignored ⊢

/-- The record under a key is the value under it. -/
theorem get_of_getRecord
    {key : String}
    {value record : Json}
    (isRecord : value.getRecord key = some record) :
    value.get key = some record ∧ record.isRecord = true :=
  Option.filter_eq_some_iff.1 isRecord

theorem readUsage_of_isReportedBy
    {message : SentMessage}
    {value : Json}
    (reported : message.IsReportedBy value) :
    readUsage (value.get "usage") =
      { promptTokens := message.inputTokens
        completionTokens := message.outputTokens
        totalTokens := message.inputTokens + message.outputTokens } := by
  obtain ⟨usage, tokens, isUsage, isTokens, isInput, isOutput⟩ := reported
  obtain ⟨usageEq, usageRecord⟩ := get_of_getRecord isUsage
  simp [readUsage, usageEq, usageRecord, Option.filter_some, isTokens, isInput, isOutput]

theorem normaliseEvent_of_isSentAs
    {event : SSEEvent}
    {wire : WireEvent}
    (isSent : wire.IsSentAs parse event)
    (state : StreamState) :
    normaliseEvent header parse state event = state.receive header wire := by
  cases wire with
  | messageStart =>
      obtain ⟨frame, isRead⟩ := isSent
      obtain ⟨typeEq, same⟩ := normaliseEvent_of_read header parse state isRead
      rw [same, normaliseFrame, ← typeEq]
      rfl
  | contentDelta text =>
      obtain ⟨frame, delta, body, content, isRead, isDelta, isBody, isContent, isText⟩ :=
        isSent
      obtain ⟨typeEq, same⟩ := normaliseEvent_of_read header parse state isRead
      rw [same, normaliseFrame, ← typeEq]
      simp [readDeltaText, isDelta, isBody, isContent, isText, StreamState.receive]
  | toolCallStart index id name first =>
      obtain ⟨frame, delta, body, call, function, isRead, isIndex, isDelta, isBody, isCall,
        isId, isFunction, isName, isFirst⟩ := isSent
      obtain ⟨typeEq, same⟩ := normaliseEvent_of_read header parse state isRead
      obtain ⟨callEq, callRecord⟩ := get_of_getRecord isCall
      have readCall : readDeltaToolCall (some delta) =
          some { id := some id, name := some name, arguments := some first } := by
        simp [readDeltaToolCall, isBody, callEq, callRecord, isId, isFunction, isName,
          isFirst, Option.filter_some]
      rw [same, normaliseFrame, ← typeEq]
      simp [isIndex, isDelta, readCall, StreamState.receive]
  | toolCallDelta index fragment =>
      obtain ⟨frame, delta, body, call, function, isRead, isIndex, isDelta, isBody, isCall,
        isFunction, isFragment⟩ := isSent
      obtain ⟨typeEq, same⟩ := normaliseEvent_of_read header parse state isRead
      obtain ⟨callEq, callRecord⟩ := get_of_getRecord isCall
      have readArguments :
          (readDeltaToolCall (some delta)).bind DeltaToolCall.arguments =
            some fragment := by
        simp [readDeltaToolCall, isBody, callEq, callRecord, isFunction, isFragment,
          Option.filter_some]
      rw [same, normaliseFrame, ← typeEq]
      simp [isIndex, isDelta, readArguments, StreamState.receive]
  | messageEnd message =>
      obtain ⟨frame, delta, isRead, isDelta, isReason, reported⟩ := isSent
      obtain ⟨typeEq, same⟩ := normaliseEvent_of_read header parse state isRead
      rw [same, normaliseFrame, ← typeEq]
      simp only [isDelta, Option.bind_some, isReason, readUsage_of_isReportedBy reported,
        StreamState.receive]
      cases message.finishReason <;> split_ifs <;> rfl

/-- The events of a message are not ignored. -/
theorem isIgnored_of_isSentAs
    {event : SSEEvent}
    {wire : WireEvent}
    (isSent : wire.IsSentAs parse event) : isIgnored parse event = false := by
  have isRead : ∃ type frame, readEvent parse event = some (type, frame) ∧
      type ∈ ["message-start", "content-delta", "tool-call-start", "tool-call-delta",
        "message-end"] := by
    cases wire with
    | messageStart =>
        obtain ⟨frame, isRead⟩ := isSent
        exact ⟨_, frame, isRead, by simp⟩
    | contentDelta text =>
        obtain ⟨frame, -, -, -, isRead, -⟩ := isSent
        exact ⟨_, frame, isRead, by simp⟩
    | toolCallStart index id name first =>
        obtain ⟨frame, -, -, -, -, isRead, -⟩ := isSent
        exact ⟨_, frame, isRead, by simp⟩
    | toolCallDelta index fragment =>
        obtain ⟨frame, -, -, -, -, isRead, -⟩ := isSent
        exact ⟨_, frame, isRead, by simp⟩
    | messageEnd message =>
        obtain ⟨frame, -, isRead, -⟩ := isSent
        exact ⟨_, frame, isRead, by simp⟩
  obtain ⟨type, frame, isRead, isNamed⟩ := isRead
  rw [isIgnored, isRead]
  exact decide_eq_false fun notNamed => notNamed isNamed

/-- The adapter on the events of messages. -/
def wireMachine : Transducer StreamState WireEvent ChatCompletionChunk Thrown where
  step state wire :=
    let (state, chunks) := state.receive header wire
    (state, chunks, .proceed)
  finish state :=
    emitRole header state ++
      closingChunks header wantUsage
        (mapFinishReason state.finishReason state.sawToolUse) state.usage

/-- The adapter reads a script as its events, whatever is ignored between them. -/
theorem afterAll_of_isSent
    {events : List SSEEvent}
    {script : List WireEvent}
    (sent : List.Forall₂ (WireEvent.IsSentAs parse)
      (events.filter fun event => !isIgnored parse event) script)
    (state : StreamState) :
    (normaliser header parse wantUsage).afterAll state events =
        (wireMachine header wantUsage).afterAll state script ∧
      (normaliser header parse wantUsage).outputAll state events =
        (wireMachine header wantUsage).outputAll state script := by
  induction events generalizing script state with
  | nil =>
      cases sent
      exact ⟨rfl, rfl⟩
  | cons event events inductionHypothesis =>
      rw [Transducer.afterAll_cons, Transducer.outputAll_cons]
      cases ignored : isIgnored parse event with
      | true =>
          rw [List.filter_cons_of_neg (by simp [ignored])] at sent
          have same := normaliseEvent_of_isIgnored header ignored state
          simp only [Transducer.after, Transducer.output, normaliser, same]
          exact inductionHypothesis sent state
      | false =>
          rw [List.filter_cons_of_pos (by simp [ignored])] at sent
          cases sent with
          | cons isSent sent =>
              have same := normaliseEvent_of_isSentAs header isSent state
              rw [Transducer.afterAll_cons, Transducer.outputAll_cons]
              simp only [Transducer.after, Transducer.output, normaliser, wireMachine,
                same]
              obtain ⟨sameState, sameChunks⟩ := inductionHypothesis sent _
              exact ⟨sameState, congrArg _ sameChunks⟩

end Reading

section Building

variable (header : StreamHeader) (wantUsage : Bool)

@[simp] theorem addAll_emitRole (message : Accumulated) (state : StreamState) :
    message.addAll (emitRole header state) = message := by
  unfold emitRole
  split_ifs <;> simp

/-- The adapter, and a client that puts its chunks together. -/
structure Reception where
  state : StreamState := {}
  message : Accumulated := {}

/-- Both after more events. -/
def Reception.receive (reception : Reception) (script : List WireEvent) :
    Reception where
  state := (wireMachine header wantUsage).afterAll reception.state script
  message :=
    reception.message.addAll
      ((wireMachine header wantUsage).outputAll reception.state script)

theorem Reception.receive_append
    (reception : Reception)
    (script later : List WireEvent) :
    reception.receive header wantUsage (script ++ later) =
      (reception.receive header wantUsage script).receive header wantUsage later := by
  simp only [receive, Transducer.afterAll_append, Transducer.outputAll_append,
    Accumulated.addAll_append]

theorem Reception.receive_cons
    (reception : Reception)
    (wire : WireEvent)
    (script : List WireEvent) :
    reception.receive header wantUsage (wire :: script) =
      Reception.receive header wantUsage
        { state := (reception.state.receive header wire).1
          message :=
            reception.message.addAll (reception.state.receive header wire).2 }
        script := by
  simp only [receive, Transducer.afterAll_cons, Transducer.outputAll_cons,
    Accumulated.addAll_append]
  rfl

/-- A tool call as a client puts it together. -/
def accumulatedCall (call : ToolCall) : AccumulatedCall where
  id := some call.id
  name := some call.function.name
  arguments := call.function.arguments

/-- Text and tool calls were added, the calls under the next indices; what the end of
the message reports is not there yet. -/
structure Builds
    (before after : Reception)
    (addedText : String)
    (addedCalls : List ToolCall) : Prop where
  text : after.message.text = before.message.text ++ addedText
  calls : after.message.toolCalls.map Prod.snd =
    before.message.toolCalls.map Prod.snd ++ addedCalls.map accumulatedCall
  sawToolUse : after.state.sawToolUse =
    (before.state.sawToolUse || !addedCalls.isEmpty)
  finishReason : after.state.finishReason = before.state.finishReason
  usage : after.state.usage = before.state.usage
  noUsage : after.message.usage = before.message.usage

theorem Builds.trans
    {first second third : Reception}
    {text later : String}
    {calls laterCalls : List ToolCall}
    (builds : Builds first second text calls)
    (buildsLater : Builds second third later laterCalls) :
    Builds first third (text ++ later) (calls ++ laterCalls) where
  text := by rw [buildsLater.text, builds.text, String.append_assoc]
  calls := by
    rw [buildsLater.calls, builds.calls, List.append_assoc, List.map_append]
  sawToolUse := by
    rw [buildsLater.sawToolUse, builds.sawToolUse, Bool.or_assoc]
    cases calls <;> simp
  finishReason := buildsLater.finishReason.trans builds.finishReason
  usage := buildsLater.usage.trans builds.usage
  noUsage := buildsLater.noUsage.trans builds.noUsage

/-- Fragments of a text are appended. -/
theorem builds_contentDeltas (reception : Reception) (fragments : List String) :
    let after := reception.receive header wantUsage (fragments.map .contentDelta)
    Builds reception after (String.join fragments) [] ∧
      after.message.toolCalls = reception.message.toolCalls := by
  induction fragments generalizing reception with
  | nil =>
      refine ⟨⟨?_, ?_, ?_, rfl, rfl, rfl⟩, rfl⟩
      · exact String.append_empty.symm
      · exact (List.append_nil _).symm
      · exact (Bool.or_false _).symm
  | cons fragment fragments inductionHypothesis =>
      intro after
      obtain ⟨builds, sameCalls⟩ := inductionHypothesis
        { state := { reception.state with roleEmitted := true }
          message :=
            { reception.message with text := reception.message.text ++ fragment } }
      have afterEq : after = _ := Reception.receive_cons header wantUsage reception
        (.contentDelta fragment) (fragments.map .contentDelta)
      simp only [StreamState.receive, Accumulated.addAll_append, addAll_emitRole,
        Accumulated.addAll_cons, Accumulated.addAll_nil,
        Accumulated.add_makeContentChunk] at afterEq
      rw [afterEq]
      refine ⟨⟨?_, builds.calls, builds.sawToolUse, builds.finishReason, builds.usage,
        builds.noUsage⟩, sameCalls⟩
      rw [builds.text, String.join_cons, String.append_assoc]

/-- Fragments of the arguments are appended to the last call. -/
theorem receive_toolCallDeltas
    {reception : Reception}
    {count : Nat}
    {calls : List (ℚ × AccumulatedCall)}
    {call : AccumulatedCall}
    (numbered : Numbered count calls)
    (callsEq : reception.message.toolCalls = calls ++ [((count : ℚ), call)])
    (fragments : List String) :
    reception.receive header wantUsage (fragments.map (.toolCallDelta count)) =
      { reception with
        message :=
          { reception.message with
            toolCalls :=
              calls ++ [((count : ℚ),
                { call with
                  arguments := call.arguments ++ String.join fragments })] } } := by
  induction fragments generalizing reception call with
  | nil => simp [Reception.receive, ← callsEq]
  | cons fragment fragments inductionHypothesis =>
      rw [List.map_cons, Reception.receive_cons]
      simp only [StreamState.receive, Accumulated.addAll_cons, Accumulated.addAll_nil,
        Accumulated.add_makeToolCallChunk, callsEq]
      rw [mergeToolCall_last numbered call rfl]
      refine Eq.trans (@inductionHypothesis _
        (call.extend { index := count, arguments := some fragment }) rfl) ?_
      simp [AccumulatedCall.extend, String.append_assoc]

/-- A part adds its text or its tool call. -/
theorem builds_part
    {reception : Reception}
    {index : Nat}
    (numbered : Numbered index reception.message.toolCalls)
    (part : MessagePart) :
    let after := reception.receive header wantUsage (part.script index)
    Builds reception after (part.asText.getD "") part.asCall.toList ∧
      Numbered (index + part.asCall.toList.length) after.message.toolCalls := by
  cases part with
  | text fragments =>
      obtain ⟨builds, sameCalls⟩ :=
        builds_contentDeltas header wantUsage reception fragments
      refine ⟨builds, ?_⟩
      change Numbered index _
      rw [MessagePart.script, sameCalls]
      exact numbered
  | toolCall id name first fragments =>
      intro after
      have afterEq : after = _ := Reception.receive_cons header wantUsage reception
        (.toolCallStart index id name first) (fragments.map (.toolCallDelta index))
      simp only [StreamState.receive, Accumulated.addAll_append, addAll_emitRole,
        Accumulated.addAll_cons, Accumulated.addAll_nil,
        Accumulated.add_makeToolCallChunk] at afterEq
      rw [mergeToolCall_next numbered rfl,
        receive_toolCallDeltas header wantUsage numbered rfl] at afterEq
      rw [afterEq]
      refine ⟨⟨?_, ?_, ?_, rfl, rfl, rfl⟩, numbered.append_singleton _⟩
      · exact String.append_empty.symm
      · rw [List.map_append]
        simp [MessagePart.asCall, accumulatedCall, AccumulatedCall.extend]
      · exact (Bool.or_true _).symm

/-- The parts of a message add their texts and their tool calls. -/
theorem builds_parts
    {reception : Reception}
    {index : Nat}
    (numbered : Numbered index reception.message.toolCalls)
    (parts : List MessagePart) :
    Builds reception (reception.receive header wantUsage (partsScript index parts))
      (String.join (parts.filterMap MessagePart.asText))
      (parts.filterMap MessagePart.asCall) := by
  induction parts generalizing reception index with
  | nil =>
      refine ⟨?_, ?_, ?_, rfl, rfl, rfl⟩
      · exact String.append_empty.symm
      · exact (List.append_nil _).symm
      · exact (Bool.or_false _).symm
  | cons part parts inductionHypothesis =>
      obtain ⟨builds, numberedAfter⟩ := builds_part header wantUsage numbered part
      have whole := builds.trans (inductionHypothesis numberedAfter)
      rw [partsScript, Reception.receive_append]
      cases part with
      | text fragments =>
          simpa [List.filterMap_cons, MessagePart.asText, MessagePart.asCall]
            using whole
      | toolCall id name first fragments =>
          simpa [List.filterMap_cons, MessagePart.asText, MessagePart.asCall]
            using whole

/-- Both when the message has started. -/
def Reception.started : Reception where
  state := { roleEmitted := true }

/-- Both after all events of a message: what its parts build, with what its end
reports. -/
theorem exists_builds_of_script (message : SentMessage) :
    ∃ built,
      Builds .started built (String.join (message.parts.filterMap MessagePart.asText))
        (message.parts.filterMap MessagePart.asCall) ∧
      Reception.receive header wantUsage {} message.script =
        { built with state := (built.state.receive header (.messageEnd message)).1 } := by
  refine ⟨_, builds_parts header wantUsage Numbered.nil message.parts, ?_⟩
  rw [SentMessage.script, List.cons_append, Reception.receive_cons,
    Reception.receive_append]
  rfl

/-- What a client puts together from the events of a message. -/
theorem accumulate_of_isStreamed
    {parse : String → Option Json}
    {message : SentMessage}
    {events : List SSEEvent}
    (streamed : message.IsStreamed parse events) :
    let calls := message.parts.filterMap MessagePart.asCall
    let accumulated := accumulate ((normaliser header parse wantUsage).transduce {}
      { items := events, ending := .finished }).items
    accumulated.text = String.join (message.parts.filterMap MessagePart.asText) ∧
      accumulated.toolCalls.map Prod.snd = calls.map accumulatedCall ∧
      accumulated.finishReason =
        some (mapFinishReason message.finishReason (!calls.isEmpty)) ∧
      accumulated.usage =
        if wantUsage then
          some
            { promptTokens := message.inputTokens
              completionTokens := message.outputTokens
              totalTokens := message.inputTokens + message.outputTokens }
        else none := by
  intro calls accumulated
  obtain ⟨built, builds, receptionEq⟩ :=
    exists_builds_of_script header wantUsage message
  obtain ⟨sameState, sameChunks⟩ := afterAll_of_isSent header wantUsage streamed {}
  have stateEq := congrArg Reception.state receptionEq
  have messageEq := congrArg Reception.message receptionEq
  dsimp only [Reception.receive] at stateEq messageEq
  have accumulatedEq : accumulated = _ :=
    congrArg accumulate (items_normalised header parse wantUsage events)
  rw [accumulate, Accumulated.addAll_append, Accumulated.addAll_append, addAll_emitRole,
    Accumulated.addAll_closingChunks, sameState, sameChunks, stateEq, messageEq]
    at accumulatedEq
  have sameReason : (message.finishReason <|> built.state.finishReason) =
      message.finishReason := by
    rw [builds.finishReason]
    cases message.finishReason <;> rfl
  have sawToolUse : built.state.sawToolUse = !calls.isEmpty :=
    builds.sawToolUse.trans (Bool.false_or _)
  have noUsage : built.state.usage = .zero := builds.usage
  have unreported : built.message.usage = none := builds.noUsage
  rw [accumulatedEq]
  refine ⟨?_, ?_, ?_, ?_⟩
  · exact builds.text.trans String.empty_append
  · exact builds.calls.trans (List.nil_append _)
  · simp only [StreamState.receive, sameReason, sawToolUse]
  · simp only [StreamState.receive, noUsage, unreported]
    split_ifs with wanted counted
    · rfl
    · have nothing : message.inputTokens + message.outputTokens = 0 := by
        by_contra positive
        exact counted (by exact_mod_cast Nat.pos_of_ne_zero positive)
      obtain ⟨noInput, noOutput⟩ := Nat.add_eq_zero_iff.1 nothing
      rw [noInput, noOutput, CompletionUsage.zero, Nat.cast_zero, add_zero]
    · rfl

end Building

section Agreement

variable (createCompletionId : Nat → String)

theorem extractText_of_holdsTexts
    {content : Option Json}
    {texts : List String}
    (holds : HoldsTexts texts content) :
    extractText content = String.join texts := by
  cases content with
  | none =>
      obtain rfl : texts = [] := holds
      rfl
  | some content =>
      obtain ⟨blocks, rfl, areBlocks⟩ := holds
      rw [extractText]
      congr 1
      induction areBlocks with
      | nil => rfl
      | cons isBlock _ inductionHypothesis =>
          rw [List.filterMap_cons_some (by rw [if_pos isBlock.1]; exact isBlock.2),
            inductionHypothesis]

theorem filterMap_extractToolCall
    {elements : List Json}
    {calls : List ToolCall}
    (areCalls : List.Forall₂ IsCall elements calls)
    (first : Nat) :
    (elements.zipIdx first).filterMap (extractToolCall createCompletionId) = calls := by
  induction areCalls generalizing first with
  | nil => rfl
  | cons isCall _ inductionHypothesis =>
      obtain ⟨isId, function, isFunction, isName, isArguments⟩ := isCall
      rw [List.zipIdx_cons, List.filterMap_cons_some, inductionHypothesis]
      simp [extractToolCall, isId, isFunction, isName, isArguments]

/-- What a client puts together from a stream is what a completion holds; the usage is
sent if it is wanted. -/
structure Agrees
    (wantUsage : Bool)
    (message : Accumulated)
    (whole : ChatCompletion) : Prop where
  text : message.text = whole.content.getD ""
  toolCalls : message.toolCalls.map Prod.snd = whole.toolCalls.map accumulatedCall
  finishReason : message.finishReason = some whole.finishReason
  usage : message.usage = if wantUsage then some whole.usage else none

/-- The stream of a message agrees with the translation of the whole message. -/
theorem streamed_message_agrees
    (parse : String → Option Json)
    (header : StreamHeader)
    (wantUsage : Bool)
    (id : String)
    (created : Nat)
    (providerId : String)
    (request : ChatCompletionRequest)
    {message : SentMessage}
    {raw : Json}
    {events : List SSEEvent}
    (sentWhole : message.IsSentWhole raw)
    (streamed : message.IsStreamed parse events) :
    ∃ whole,
      translateResponse createCompletionId id created providerId raw request =
          .ok whole ∧
      Agrees wantUsage
        (accumulate ((normaliser header parse wantUsage).transduce {}
          { items := events, ending := .finished }).items)
        whole := by
  obtain ⟨body, elements, isBody, holdsTexts, elementsEq, areCalls⟩ := sentWhole.holds
  have isRecord : raw.isRecord = true := by
    cases raw with
    | object entries => rfl
    | _ => cases isBody
  refine ⟨_, if_pos isRecord, ?_⟩
  obtain ⟨text, calls, reason, usage⟩ :=
    accumulate_of_isStreamed header wantUsage streamed
  rw [isBody, Option.getD_some, extractToolCalls, elementsEq,
    extractText_of_holdsTexts holdsTexts,
    filterMap_extractToolCall createCompletionId areCalls, sentWhole.finishReason,
    readUsage_of_isReportedBy sentWhole.usage]
  refine ⟨?_, calls, reason, usage⟩
  rw [text]
  split_ifs with isEmpty
  · exact isEmpty
  · rfl

/-- A text and a call, the arguments in two fragments, and an event between them of
which nothing is read. -/
theorem streamed_message_agrees_sample :
    let header : StreamHeader := { id := "chatcmpl-1", created := 0, model := "m" }
    let usage : String × Json := ("usage", .object [("tokens", .object
      [("input_tokens", .number 1), ("output_tokens", .number 1)])])
    let function (fields : List (String × Json)) : String × Json :=
      ("function", .object fields)
    let frame (type : String) (rest delta : List (String × Json)) : Json :=
      .object (("type", .string type) :: rest ++ [("delta", .object delta)])
    let first : String × Json := ("index", .number 0)
    let parse := fun data =>
      if data = "start" then some (frame "message-start" [] [])
      else if data = "text" then
        some (frame "content-delta" [] [("message", .object
          [("content", .object [("text", .string "It is")])])])
      else if data = "plan" then some (frame "tool-plan-delta" [] [])
      else if data = "call" then
        some (frame "tool-call-start" [first] [("message", .object
          [("tool_calls", .object [("id", .string "c1"),
            function [("name", .string "now"), ("arguments", .string "")]])])])
      else if data = "arguments" then
        some (frame "tool-call-delta" [first] [("message", .object
          [("tool_calls", .object [function [("arguments", .string "{}")]])])])
      else if data = "end" then
        some (frame "message-end" [] [("finish_reason", .string "TOOL_CALL"), usage])
      else none
    let raw : Json := .object
      [("message", .object
          [("content", .array
              [.object [("type", .string "text"), ("text", .string "It is")]]),
            ("tool_calls", .array
              [.object [("id", .string "c1"), function
                [("name", .string "now"), ("arguments", .string "{}")]]])]),
        ("finish_reason", .string "TOOL_CALL"), usage]
    let events : List SSEEvent :=
      ["start", "text", "plan", "call", "arguments", "end"].map fun data =>
        { event := none, data := data }
    ∃ whole,
      translateResponse (fun _ => "call_1") "chatcmpl-1" 0 "cohere" raw
          { model := "m", messages := [] } = .ok whole ∧
        Agrees true
          (accumulate ((normaliser header parse true).transduce {}
            { items := events, ending := .finished }).items)
          whole := by
  intro header usage function frame first parse raw events
  let message : SentMessage :=
    { parts := [.text ["It is"], .toolCall "c1" "now" "" ["{}"]]
      finishReason := some "TOOL_CALL"
      inputTokens := 1
      outputTokens := 1 }
  have sentWhole : message.IsSentWhole raw :=
    { holds := ⟨_, _, rfl, ⟨_, rfl, .cons ⟨rfl, rfl⟩ .nil⟩, rfl,
        .cons ⟨rfl, _, rfl, rfl, rfl⟩ .nil⟩
      finishReason := rfl
      usage := ⟨_, _, rfl, rfl, by decide +kernel, by decide +kernel⟩ }
  have streamed : message.IsStreamed parse events :=
    .cons ⟨_, rfl⟩ (.cons ⟨_, _, _, _, rfl, rfl, rfl, rfl, rfl⟩
      (.cons ⟨_, _, _, _, _, rfl, by decide +kernel, rfl, rfl, rfl, rfl, rfl, rfl, rfl⟩
        (.cons ⟨_, _, _, _, _, rfl, by decide +kernel, rfl, rfl, rfl, rfl, rfl⟩
          (.cons ⟨_, _, rfl, rfl, rfl, _, _, rfl, rfl, by decide +kernel,
            by decide +kernel⟩ .nil))))
  exact streamed_message_agrees (fun _ => "call_1") parse header true "chatcmpl-1" 0
    "cohere" { model := "m", messages := [] } sentWhole streamed

end Agreement

end Cohere
end Providers
end AiGateway
