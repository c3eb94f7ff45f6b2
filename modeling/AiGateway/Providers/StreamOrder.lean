import AiGateway.OpenAI.CompleteStream
import AiGateway.Providers.AnthropicSignals
import AiGateway.Providers.CohereStream
import AiGateway.Providers.GeminiStream

/-!
# The order of the chunks

When the chunks of an adapter form a complete stream. The Gemini adapter opens
the message before anything else and closes it when the events end. The Cohere
adapter does so too, except that the arguments of a tool call do not open the
message. The Anthropic adapter sends the role and the closing chunks only for
the events that start and stop the message.
-/

namespace AiGateway
namespace Providers

open Foundations (Control Ending Json Transducer Yields)
open OpenAI

namespace Anthropic

section Reading

/-- The signals that are read before the adapter stops. -/
def readBefore (signals : List Signal) : List Signal :=
  signals.takeWhile fun signal => !signal.isTerminal

/-- The signal at which the adapter stops. -/
def lastSignal (signals : List Signal) : Option Signal :=
  signals.find? Signal.isTerminal

/-- The first signal that starts the message or carries content of it, if one is
read before the adapter stops. -/
def firstSent (signals : List Signal) : Option Signal :=
  (readBefore signals).find? fun signal =>
    signal.isMessageStart || signal.isContent

/-- The message is started before any content of it comes, and it is stopped; or
else the stream fails. -/
def StartsAndStops (ending : Ending Thrown) (signals : List Signal) : Prop :=
  match lastSignal signals with
  | some .messageStop => (firstSent signals).any Signal.isMessageStart = true
  | some _ => True
  | none => ending ≠ .finished

theorem isTerminal_of_mem_readBefore
    {signals : List Signal}
    {signal : Signal}
    (isRead : signal ∈ readBefore signals) : signal.isTerminal = false := by
  simpa using List.mem_takeWhile_imp isRead

/-- The signals after those that are read begin with the last one. -/
theorem eq_readBefore_append (signals : List Signal) :
    ∃ later, signals = readBefore signals ++ later ∧
      later.head? = lastSignal signals := by
  refine ⟨_, List.takeWhile_append_dropWhile.symm, ?_⟩
  exact (List.find?_eq_head?_dropWhile_not _ _).symm

end Reading

section Steps

variable
  (header : StreamHeader)
  (wantUsage : Bool)
  (providerId : String)

/-- The start of the message opens it; content is sent in any case. -/
def messageReading :
    MessageReading header (signalMachine header wantUsage providerId) where
  Reads signal := signal.isTerminal = false
  opened := StreamState.roleEmitted
  opens := Signal.isMessageStart
  carries := Signal.isContent
  of_opens state signal _ isStart := by
    cases signal with
    | messageStart inputTokens => exact ⟨.role _, rfl⟩
    | _ => cases isStart
  of_carries state signal _ _ isContent := by
    cases signal with
    | toolUseStart block id name => exact ⟨⟨_, .toolCall _, rfl⟩, rfl⟩
    | textDelta text => exact ⟨⟨_, .content _, rfl⟩, rfl⟩
    | inputJsonDelta block fragment => exact ⟨⟨_, .toolCall _, rfl⟩, rfl⟩
    | _ => cases isContent
  of_silent state signal notTerminal notStart notContent := by
    cases signal with
    | messageDelta stopReason outputTokens => exact ⟨rfl, rfl⟩
    | passive => exact ⟨rfl, rfl⟩
    | messageStart inputTokens => cases notStart
    | failure message => cases notTerminal
    | messageStop => cases notTerminal
    | _ => cases notContent

end Steps

section Completeness

variable
  (header : StreamHeader)
  (wantUsage : Bool)
  (providerId : String)

/-- What the machine does at the signal at which it stops, or when the source
ends before one. -/
def stopReading (state : StreamState) (ending : Ending Thrown) :
    Option Signal → Yields ChatCompletionChunk Thrown
  | some .messageStop =>
      { items := stopChunks header wantUsage state, ending := .finished }
  | some (.failure message) =>
      { items := []
        ending := .threw (.gateway (.provider
          ("Anthropic stream error: " ++ message) 502 providerId)) }
  | _ => { items := [], ending := ending }

/-- The machine reads the signals before the last one, and then stops. -/
theorem run_signals (ending : Ending Thrown) (signals : List Signal) :
    let machine := signalMachine header wantUsage providerId
    machine.run ending {} signals =
      (stopReading header wantUsage providerId
        (machine.afterAll {} (readBefore signals)) ending
        (lastSignal signals)).prepend
          (machine.outputAll {} (readBefore signals)) := by
  intro machine
  have notTerminal : ∀ signal ∈ readBefore signals, signal.isTerminal = false :=
    fun _ => isTerminal_of_mem_readBefore
  obtain ⟨later, signalsEq, isLast⟩ := eq_readBefore_append signals
  conv_lhs => rw [signalsEq]
  rw [Transducer.run_append _
    (proceeds_of_notTerminal header wantUsage providerId {} notTerminal), ← isLast]
  congr 1
  cases later with
  | nil => cases ending <;> rfl
  | cons last later =>
      have isTerminal : last.isTerminal = true := List.find?_some isLast.symm
      cases last with
      | failure message => rfl
      | messageStop => rfl
      | _ => cases isTerminal

/-- The chunks of a stopped message are complete exactly when its start is what
is sent first. -/
theorem isComplete_stopped_iff
    {signals : List Signal}
    (notTerminal : ∀ signal ∈ signals, signal.isTerminal = false) :
    let machine := signalMachine header wantUsage providerId
    IsComplete header wantUsage
        (machine.outputAll {} signals ++
          stopChunks header wantUsage (machine.afterAll {} signals)) ↔
      (signals.find? fun signal =>
        signal.isMessageStart || signal.isContent).any
          Signal.isMessageStart = true := by
  intro machine
  let reading := messageReading header wantUsage providerId
  change _ ↔ (reading.first signals).any reading.opens = true
  cases firstEq : reading.first signals with
  | none =>
      refine iff_of_false (fun complete => ?_) (by simp)
      rw [(MessageReading.outputAll_of_first_eq_none {} notTerminal firstEq).1]
        at complete
      cases complete.head_hasRole
  | some first =>
      rw [Option.any_some]
      cases opens : reading.opens first with
      | false =>
          refine iff_of_false (fun complete => ?_) Bool.false_ne_true
          obtain ⟨chunk, later, noRole, outputEq⟩ :=
            MessageReading.outputAll_of_first_carries {} notTerminal firstEq opens
          rw [outputEq, List.cons_append] at complete
          rw [complete.head_hasRole] at noRole
          cases noRole
      | true =>
          obtain ⟨ordered, -⟩ := MessageReading.inOrder_of_first_opens
            ({} : StreamState) notTerminal firstEq opens
          exact iff_of_true (ordered.isComplete wantUsage _ _) rfl

/-- A stream that the adapter ends cleanly is a complete one exactly if the
message is started before its content and is stopped, or the stream fails. -/
theorem isComplete_iff_opens_and_stops
    (parse : String → Option Json)
    (source : Yields SSEEvent Thrown) :
    let stream :=
      (normaliser header wantUsage providerId parse).transduce {} source
    (stream.ending = .finished → IsComplete header wantUsage stream.items) ↔
      StartsAndStops source.ending (source.items.map (readSignal parse)) := by
  intro stream
  have streamEq := run_eq header wantUsage providerId parse source.ending {}
    source.items
  generalize source.items.map (readSignal parse) = signals at streamEq ⊢
  rw [run_signals] at streamEq
  change stream = _ at streamEq
  have notTerminal : ∀ signal ∈ readBefore signals, signal.isTerminal = false :=
    fun _ => isTerminal_of_mem_readBefore
  rw [streamEq]
  unfold StartsAndStops
  split
  · next isStop =>
      rw [isStop]
      refine Iff.trans ?_
        (isComplete_stopped_iff header wantUsage providerId notTerminal)
      exact ⟨fun complete => complete rfl, fun complete _ => complete⟩
  · next last notStop isLast =>
      refine iff_of_true (fun isFinished => ?_) trivial
      rw [isLast] at isFinished
      have isTerminal : last.isTerminal = true := List.find?_some isLast
      cases last with
      | failure message => cases isFinished
      | messageStop => exact (notStop rfl).elim
      | _ => cases isTerminal
  · next isNone =>
      rw [isNone]
      refine ⟨fun complete isFinished => ?_, fun isFailure isFinished =>
        (isFailure isFinished).elim⟩
      obtain ⟨chunk, isChunk, isFinish⟩ := (complete isFinished).exists_isFinish
      have isSent : chunk ∈ (signalMachine header wantUsage providerId).outputAll
          {} (readBefore signals) := by
        simpa [stopReading] using isChunk
      rw [(messageReading header wantUsage providerId).isFinish_of_mem_outputAll
        {} notTerminal chunk isSent] at isFinish
      cases isFinish

/-- An upstream that is cut off after it started the message is presented as a
clean end without a finish chunk. -/
theorem not_complete_of_cut_off :
    let header : StreamHeader := { id := "chatcmpl-1", created := 0, model := "m" }
    let frame : Json := .object [("type", .string "message_start")]
    let parse := fun data => if data = frame.stringify then some frame else none
    let source : Yields SSEEvent Thrown :=
      { items := [{ event := some "message_start", data := frame.stringify }]
        ending := .finished }
    let stream := (normaliser header true "anthropic" parse).transduce {} source
    ¬(stream.ending = .finished → IsComplete header true stream.items) := by
  intro header frame parse source stream isComplete
  have isCutOff : stream = { items := [makeRoleChunk header], ending := .finished } := by
    rfl
  rw [isCutOff] at isComplete
  obtain ⟨chunk, isChunk, isFinish⟩ := (isComplete rfl).exists_isFinish
  rw [List.mem_singleton.1 isChunk] at isFinish
  cases isFinish

end Completeness

end Anthropic

namespace Cohere

section Reading

-- `JSON.parse`, which may reject
variable (parse : String → Option Json)

/-- The record that an event carries and its type. -/
def readEvent (event : SSEEvent) : Option (String × Json) :=
  if event.data = "" ∨ event.data = "[DONE]" then
    none
  else
    let frame := safeJsonParse parse event.data
    if frame.isRecord then
      some ((frame.getString "type" <|> event.event).getD "", frame)
    else
      none

/-- Does a frame of a given type open the message? -/
def frameOpens (type : String) (frame : Json) : Bool :=
  match type with
  | "message-start" => true
  | "content-delta" => (readDeltaText (frame.getRecord "delta")).isSome
  | "tool-call-start" => (readDeltaToolCall (frame.getRecord "delta")).isSome
  | _ => false

/-- Does a frame of a given type carry arguments of a tool call that was started
before? -/
def frameCarriesArguments (type : String) (frame : Json) : Bool :=
  match type with
  | "tool-call-delta" =>
      ((readDeltaToolCall (frame.getRecord "delta")).bind
        DeltaToolCall.arguments).isSome
  | _ => false

/-- Does an event open the message? -/
def opensMessage (event : SSEEvent) : Bool :=
  (readEvent parse event).any fun (type, frame) => frameOpens type frame

/-- Does an event carry arguments of a tool call that was started before? -/
def carriesArguments (event : SSEEvent) : Bool :=
  (readEvent parse event).any fun (type, frame) =>
    frameCarriesArguments type frame

/-- The first event that opens the message or carries arguments. -/
def firstSent (events : List SSEEvent) : Option SSEEvent :=
  events.find? fun event =>
    opensMessage parse event || carriesArguments parse event

end Reading

section Steps

variable
  (header : StreamHeader)
  (state : StreamState)
  {name : Option String}
  {frame : Json}

theorem normaliseFrame_of_opens
    (opens : frameOpens ((frame.getString "type" <|> name).getD "") frame = true) :
    InOrder header state.roleEmitted
        (normaliseFrame header state name frame).2 true ∧
      (normaliseFrame header state name frame).1.roleEmitted = true := by
  have role : InOrder header state.roleEmitted (emitRole header state) true :=
    .role _
  unfold frameOpens at opens
  unfold normaliseFrame
  dsimp only
  generalize (frame.getString "type" <|> name).getD "" = type at opens ⊢
  split at opens
  · exact ⟨role, rfl⟩
  · obtain ⟨text, textEq⟩ := Option.isSome_iff_exists.1 opens
    rw [textEq]
    exact ⟨role.append (.delta (.content text)), rfl⟩
  · obtain ⟨call, callEq⟩ := Option.isSome_iff_exists.1 opens
    rw [callEq]
    exact ⟨role.append (.delta (.toolCall _)), rfl⟩
  · cases opens

theorem normaliseFrame_of_carriesArguments
    (carries : frameCarriesArguments
      ((frame.getString "type" <|> name).getD "") frame = true) :
    (∃ chunk, IsDelta header chunk ∧
        (normaliseFrame header state name frame).2 = [chunk]) ∧
      (normaliseFrame header state name frame).1.roleEmitted =
        state.roleEmitted := by
  unfold frameCarriesArguments at carries
  unfold normaliseFrame
  dsimp only
  generalize (frame.getString "type" <|> name).getD "" = type at carries ⊢
  split at carries
  · obtain ⟨arguments, argumentsEq⟩ := Option.isSome_iff_exists.1 carries
    rw [argumentsEq]
    exact ⟨⟨_, .toolCall _, rfl⟩, rfl⟩
  · cases carries

theorem normaliseFrame_of_silent
    (notOpens :
      frameOpens ((frame.getString "type" <|> name).getD "") frame = false)
    (notCarries : frameCarriesArguments
      ((frame.getString "type" <|> name).getD "") frame = false) :
    (normaliseFrame header state name frame).2 = [] ∧
      (normaliseFrame header state name frame).1.roleEmitted =
        state.roleEmitted := by
  unfold normaliseFrame
  dsimp only
  generalize (frame.getString "type" <|> name).getD "" = type at notOpens notCarries ⊢
  split
  · cases notOpens
  · have noText : readDeltaText (frame.getRecord "delta") = none := by
      simpa [frameOpens] using notOpens
    rw [noText]
    exact ⟨rfl, rfl⟩
  · have noCall : readDeltaToolCall (frame.getRecord "delta") = none := by
      simpa [frameOpens] using notOpens
    rw [noCall]
    exact ⟨rfl, rfl⟩
  · have noArguments : (readDeltaToolCall (frame.getRecord "delta")).bind
        DeltaToolCall.arguments = none := by
      simpa [frameCarriesArguments] using notCarries
    rw [noArguments]
    exact ⟨rfl, rfl⟩
  · refine ⟨rfl, ?_⟩
    split_ifs <;> split <;> rfl
  · exact ⟨rfl, rfl⟩

end Steps

section Completeness

variable
  (header : StreamHeader)
  (parse : String → Option Json)
  (wantUsage : Bool)

theorem normaliseEvent_of_skipped
    (state : StreamState)
    {event : SSEEvent}
    (isSkipped : readEvent parse event = none) :
    normaliseEvent header parse state event = (state, []) := by
  unfold readEvent at isSkipped
  unfold normaliseEvent
  dsimp only at isSkipped ⊢
  split_ifs at isSkipped ⊢ <;> rfl

theorem normaliseEvent_of_read
    (state : StreamState)
    {event : SSEEvent}
    {type : String}
    {frame : Json}
    (isRead : readEvent parse event = some (type, frame)) :
    type = (frame.getString "type" <|> event.event).getD "" ∧
      normaliseEvent header parse state event =
        normaliseFrame header state event.event frame := by
  unfold readEvent at isRead
  unfold normaliseEvent
  dsimp only at isRead ⊢
  split_ifs at isRead ⊢ with isSkipped isRecord
  cases isRead
  exact ⟨rfl, rfl⟩

/-- Most events open the message before they send anything; the arguments of a
tool call are sent in any case. -/
def messageReading :
    MessageReading header (normaliser header parse wantUsage) where
  Reads _ := True
  opened := StreamState.roleEmitted
  opens := opensMessage parse
  carries := carriesArguments parse
  of_opens state event _ opens := by
    change InOrder header _ (normaliseEvent header parse state event).2 true ∧
      (normaliseEvent header parse state event).1.roleEmitted = true
    unfold opensMessage at opens
    cases isRead : readEvent parse event with
    | none => simp [isRead] at opens
    | some read =>
        obtain ⟨type, frame⟩ := read
        obtain ⟨rfl, eventEq⟩ := normaliseEvent_of_read header parse state isRead
        rw [isRead] at opens
        rw [eventEq]
        exact normaliseFrame_of_opens header state opens
  of_carries state event _ _ carries := by
    change (∃ chunk, IsDelta header chunk ∧
        (normaliseEvent header parse state event).2 = [chunk]) ∧
      (normaliseEvent header parse state event).1.roleEmitted = _
    unfold carriesArguments at carries
    cases isRead : readEvent parse event with
    | none => simp [isRead] at carries
    | some read =>
        obtain ⟨type, frame⟩ := read
        obtain ⟨rfl, eventEq⟩ := normaliseEvent_of_read header parse state isRead
        rw [isRead] at carries
        rw [eventEq]
        exact normaliseFrame_of_carriesArguments header state carries
  of_silent state event _ notOpens notCarries := by
    change (normaliseEvent header parse state event).2 = [] ∧
      (normaliseEvent header parse state event).1.roleEmitted = _
    unfold opensMessage at notOpens
    unfold carriesArguments at notCarries
    cases isRead : readEvent parse event with
    | none =>
        rw [normaliseEvent_of_skipped header parse state isRead]
        exact ⟨rfl, rfl⟩
    | some read =>
        obtain ⟨type, frame⟩ := read
        obtain ⟨rfl, eventEq⟩ := normaliseEvent_of_read header parse state isRead
        rw [isRead] at notOpens notCarries
        rw [eventEq]
        exact normaliseFrame_of_silent header state notOpens notCarries

/-- The whole stream: the chunks of the events, and then the closing chunks,
which open the message if it is not open. -/
theorem items_normalised (events : List SSEEvent) :
    let adapter := normaliser header parse wantUsage
    let state := adapter.afterAll {} events
    (adapter.transduce {} { items := events, ending := .finished }).items =
      adapter.outputAll {} events ++
        (emitRole header state ++
          closingChunks header wantUsage
            (mapFinishReason state.finishReason state.sawToolUse) state.usage) := by
  intro adapter state
  refine (adapter.items_transduce_of_control (fun _ _ => rfl) {} events).trans ?_
  exact congrArg _ (List.append_assoc _ _ _)

/-- A stream is complete exactly if the message is opened before arguments of a
tool call come. -/
theorem isComplete_iff_opens_first (events : List SSEEvent) :
    let stream := (normaliser header parse wantUsage).transduce {}
      { items := events, ending := .finished }
    IsComplete header wantUsage stream.items ↔
      ∀ first ∈ firstSent parse events, opensMessage parse first = true := by
  intro stream
  let reading := messageReading header parse wantUsage
  let adapter := normaliser header parse wantUsage
  have itemsEq : stream.items = _ :=
    items_normalised header parse wantUsage events
  change _ ↔ ∀ first ∈ reading.first events, _
  rw [itemsEq]
  have reads : ∀ event ∈ events, reading.Reads event := fun _ _ => trivial
  cases firstEq : reading.first events with
  | none =>
      obtain ⟨outputEq, sameOpened⟩ :=
        MessageReading.outputAll_of_first_eq_none ({} : StreamState) reads firstEq
      refine iff_of_true ?_ (by simp)
      have isClosed : (adapter.afterAll {} events).roleEmitted = false := sameOpened
      rw [outputEq, List.nil_append, emitRole, isClosed]
      exact InOrder.isComplete (InOrder.role false) wantUsage _ _
  | some first =>
      cases opens : reading.opens first with
      | true =>
          obtain ⟨ordered, openedAfter⟩ := MessageReading.inOrder_of_first_opens
            ({} : StreamState) reads firstEq opens
          refine iff_of_true ?_ fun other isOther => ?_
          · have isOpen : (adapter.afterAll {} events).roleEmitted = true :=
              openedAfter
            rw [emitRole, isOpen]
            exact ordered.isComplete wantUsage _ _
          · rw [← Option.some.inj isOther]
            exact opens
      | false =>
          obtain ⟨chunk, later, noRole, outputEq⟩ :=
            MessageReading.outputAll_of_first_carries ({} : StreamState) reads
              firstEq opens
          refine iff_of_false (fun complete => ?_) fun allOpen => ?_
          · rw [outputEq, List.cons_append] at complete
            rw [complete.head_hasRole] at noRole
            cases noRole
          · exact Bool.false_ne_true (opens.symm.trans (allOpen first rfl))

/-- Arguments that come first are sent before the role. -/
theorem not_complete_of_arguments_first :
    let header : StreamHeader := { id := "chatcmpl-1", created := 0, model := "m" }
    let frame : Json :=
      .object
        [("type", .string "tool-call-delta"),
          ("delta", .object
            [("message", .object
              [("tool_calls", .object
                [("function", .object [("arguments", .string "1")])])])])]
    let parse := fun data => if data = frame.stringify then some frame else none
    let events : List SSEEvent := [{ event := none, data := frame.stringify }]
    let stream := (normaliser header parse true).transduce {}
      { items := events, ending := .finished }
    ¬IsComplete header true stream.items := by
  intro header frame parse events stream complete
  have first : stream.items.head? = some
      (makeToolCallChunk header { index := 0, arguments := some "1" }) := by
    rfl
  obtain ⟨deltas, finishReason, usage, -, itemsEq⟩ := complete
  rw [itemsEq] at first
  cases first

end Completeness

end Cohere

namespace Gemini

variable
  (header : StreamHeader)
  (newToolCallId : Nat → String)

theorem inOrder_normalisePart (state : StreamState) (part : Json) :
    InOrder header state.roleEmitted
      (normalisePart header newToolCallId state part).2
      (normalisePart header newToolCallId state part).1.roleEmitted := by
  have role : InOrder header state.roleEmitted (emitRole header state) true :=
    .role _
  unfold normalisePart
  split_ifs
  · split
    · exact role.append (.delta (.content _))
    · exact role.append (.delta (.toolCall _))
    · exact role
  · exact .nothing _

theorem inOrder_normaliseParts (state : StreamState) (parts : List Json) :
    InOrder header state.roleEmitted
      (normaliseParts header newToolCallId state parts).2
      (normaliseParts header newToolCallId state parts).1.roleEmitted := by
  induction parts generalizing state with
  | nil => exact .nothing _
  | cons part parts inductionHypothesis =>
      exact (inOrder_normalisePart header newToolCallId state part).append
        (inductionHypothesis _)

theorem inOrder_normaliseFrame (state : StreamState) (frame : Json) :
    InOrder header state.roleEmitted
      (normaliseFrame header newToolCallId state frame).2
      (normaliseFrame header newToolCallId state frame).1.roleEmitted := by
  unfold normaliseFrame
  dsimp only
  split
  · split_ifs <;> exact .nothing _
  · refine Eq.mp (congrArg (fun opened => InOrder header opened _ _) ?_)
      (inOrder_normaliseParts header newToolCallId _ _)
    split <;> split_ifs <;> rfl

variable (parse : String → Option Json)

theorem inOrder_normaliseEvent (state : StreamState) (event : SSEEvent) :
    InOrder header state.roleEmitted
      (normaliseEvent header newToolCallId parse state event).2
      (normaliseEvent header newToolCallId parse state event).1.roleEmitted := by
  unfold normaliseEvent
  dsimp only
  split_ifs
  · exact .nothing _
  · exact inOrder_normaliseFrame header newToolCallId state _
  · exact .nothing _

variable (wantUsage : Bool)

/-- The whole stream: the chunks of the events, and then the closing chunks,
which open the message if it is not open. -/
theorem items_normalised (events : List SSEEvent) :
    let adapter := normaliser header newToolCallId parse wantUsage
    let state := adapter.afterAll {} events
    (adapter.transduce {} { items := events, ending := .finished }).items =
      adapter.outputAll {} events ++ emitRole header state ++
        closingChunks header wantUsage
          (mapFinishReason state.finishReason state.sawToolUse) state.usage := by
  intro adapter state
  rw [List.append_assoc]
  refine (adapter.items_transduce_of_control (fun _ _ => rfl) {} events).trans ?_
  exact congrArg _ (List.append_assoc _ _ _)

/-- Whatever the events are, the stream is complete. -/
theorem isComplete_normalised (events : List SSEEvent) :
    IsComplete header wantUsage
      ((normaliser header newToolCallId parse wantUsage).transduce {}
        { items := events, ending := .finished }).items := by
  rw [items_normalised]
  let adapter := normaliser header newToolCallId parse wantUsage
  have ordered : InOrder header false (adapter.outputAll {} events)
      (adapter.afterAll {} events).roleEmitted :=
    @Transducer.emits_outputAll _ _ _ _ adapter
      (fun first chunks second =>
        InOrder header first.roleEmitted chunks second.roleEmitted)
      (fun _ => .nothing _)
      (fun _ _ _ _ _ ordered orderedLater => ordered.append orderedLater)
      (inOrder_normaliseEvent header newToolCallId parse) {} events
  exact (ordered.append (.role _)).isComplete wantUsage _ _

end Gemini

end Providers
end AiGateway
