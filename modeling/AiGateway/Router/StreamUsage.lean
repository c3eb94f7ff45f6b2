import AiGateway.Providers.Adapters
import AiGateway.Router.Accounting

/-!
# Streams without usage

The router asks every provider for usage, so the Gemini and Cohere adapters end
every stream with a usage chunk, and the Anthropic adapter does when the message
stops, even if the upstream reported no usage. The router trusts such a chunk.
The main theorem says for which streams without usage the estimate is billed.
-/

namespace AiGateway
namespace Router

open Foundations (Ending Json Transducer Yields)
open OpenAI
open Providers

/-- The adapters that translate streams. -/
inductive NativeAdapter
  | anthropic
  | gemini
  | cohere
  deriving DecidableEq, Repr

section Streams

variable (platform : StreamPlatform) (config : ProviderInstanceConfig)

/-- `normaliseStream` of an adapter, from its initial state. -/
def normaliseStream
    (wantUsage : Bool)
    (source : Yields SSEEvent Thrown) :
    NativeAdapter → Yields ChatCompletionChunk Thrown
  | .anthropic =>
      (Anthropic.normaliser platform.header wantUsage config.id
        platform.parse).transduce {} source
  | .gemini =>
      (Gemini.normaliser platform.header platform.newToolCallId platform.parse
        wantUsage).transduce {} source
  | .cohere =>
      (Cohere.normaliser platform.header platform.parse wantUsage).transduce {}
        source

/-- The usage that an event reports to an adapter. -/
def reportedUsage (event : SSEEvent) : NativeAdapter → Option Json
  | .anthropic => Anthropic.reportedUsage platform.parse event
  | .gemini => Gemini.reportedUsage platform.parse event
  | .cohere => Cohere.reportedUsage platform.parse event

/-- The request that `prepareStream` sends upstream. -/
def streamRequest
    (canonicalModel : String)
    (request : ChatCompletionRequest) : ChatCompletionRequest :=
  { request with
    model := canonicalModel
    stream := some true
    streamOptions := some (some true) }

/-- The stream of the committed provider. -/
def committedStream
    (adapter : NativeAdapter)
    (canonicalModel : String)
    (request : ChatCompletionRequest)
    (source : Yields SSEEvent Thrown) : Yields ChatCompletionChunk Thrown :=
  normaliseStream platform config
    (streamRequest canonicalModel request).includeUsage source adapter

/-- What the generator has from `prepareStream`. -/
def streamContext
    (tokenizer : Tokenizer)
    (apiKeyId canonicalModel : String)
    (failoverCount : Nat)
    (request : ChatCompletionRequest) : StreamContext where
  apiKeyId := apiKeyId
  providerId := config.id
  canonicalModel := canonicalModel
  modelInfo := config.getModel canonicalModel
  failoverCount := failoverCount
  clientWantsUsage := request.includeUsage
  promptEstimate := countChatTokens tokenizer request.messages canonicalModel

end Streams

/-- The entry that the documented estimate gives: the estimate of the prompt and
the sum of those of the content deltas. -/
def StreamContext.estimatedEntry
    (context : StreamContext)
    (chunks : List ChatCompletionChunk) : RequestLogEntry :=
  context.settle
    { promptTokens := context.promptEstimate
      completionTokens := estimateCompletion chunks
      usageFromStream := false }
    false

section Entries

variable {context : StreamContext} {chunks : List ChatCompletionChunk}

/-- Without usage chunks the estimate is logged. -/
theorem drain_of_no_usage
    (noUsage : ∀ chunk ∈ chunks, chunk.usage = none) :
    (context.drain { items := chunks, ending := .finished }).2 =
      context.estimatedEntry chunks := by
  unfold StreamContext.drain
  rw [foldl_consume_of_no_usage noUsage rfl]
  simp [StreamContext.estimatedEntry, StreamContext.start]

/-- A last chunk with no tokens is logged as such, whatever was delivered. -/
theorem drain_ne_of_zero_usage
    (header : StreamHeader)
    (promptCosts : 0 < context.promptEstimate) :
    let items := chunks ++ [makeUsageChunk header .zero]
    (context.drain { items := items, ending := .finished }).2 ≠
      context.estimatedEntry items := by
  intro items sameEntry
  have samePrompt := congrArg RequestLogEntry.promptTokens sameEntry
  simp only [StreamContext.drain, items, foldl_consume_usage] at samePrompt
  have isZero : (0 : ℚ) = context.promptEstimate := samePrompt
  exact promptCosts.ne (by exact_mod_cast isZero)

end Entries

section Endings

/-- A run over no more items ends as the source does. -/
theorem run_nil_of_clean
    {transducer : Transducer σ SSEEvent ChatCompletionChunk Thrown}
    {ending : Ending Thrown}
    {state : σ}
    {outputs : List ChatCompletionChunk}
    (clean : ((transducer.run ending state []).prepend outputs).ending =
      .finished) :
    (transducer.run ending state []).prepend outputs =
      { items := outputs ++ transducer.finish state, ending := .finished } := by
  cases ending with
  | finished => rfl
  | threw error => cases clean

variable
  (platform : StreamPlatform)
  (config : ProviderInstanceConfig)
  {source : Yields SSEEvent Thrown}

/-- A Gemini stream that reports no usage still ends with a usage chunk. -/
theorem exists_gemini_zero_usage
    (noUsage : ∀ event ∈ source.items,
      reportedUsage platform event .gemini = none)
    (clean : (normaliseStream platform config true source .gemini).ending =
      .finished) :
    ∃ chunks, normaliseStream platform config true source .gemini =
      { items := chunks ++ [makeUsageChunk platform.header .zero]
        ending := .finished } := by
  let adapter := Gemini.normaliser platform.header platform.newToolCallId
    platform.parse true
  have keeps (state : Gemini.StreamState) (event : SSEEvent)
      (isEvent : event ∈ source.items) (isZero : state.usage = .zero) :
      (adapter.after state event).usage = .zero ∧
        ∀ chunk ∈ adapter.output state event, True :=
    ⟨((Gemini.usage_normaliseEvent platform.header platform.newToolCallId
      platform.parse state event).2 (noUsage event isEvent)).trans isZero,
      fun _ _ => trivial⟩
  obtain ⟨outputs, state, -, isZero, runEq⟩ :=
    Transducer.exists_outputs_of_proceeds (fun _ _ => rfl) keeps
      (rfl : ({} : Gemini.StreamState).usage = .zero)
  change normaliseStream platform config true source .gemini = _ at runEq
  rw [runEq] at clean
  rw [runEq, run_nil_of_clean clean]
  refine ⟨outputs ++ (Gemini.emitRole platform.header state ++ [makeFinishChunk
    platform.header (Gemini.mapFinishReason state.finishReason
      state.sawToolUse)]), ?_⟩
  rw [List.append_assoc, ← isZero]
  rfl

/-- A Cohere stream that reports no usage still ends with a usage chunk. -/
theorem exists_cohere_zero_usage
    (noUsage : ∀ event ∈ source.items,
      reportedUsage platform event .cohere = none)
    (clean : (normaliseStream platform config true source .cohere).ending =
      .finished) :
    ∃ chunks, normaliseStream platform config true source .cohere =
      { items := chunks ++ [makeUsageChunk platform.header .zero]
        ending := .finished } := by
  let adapter := Cohere.normaliser platform.header platform.parse true
  have keeps (state : Cohere.StreamState) (event : SSEEvent)
      (isEvent : event ∈ source.items) (isZero : state.usage = .zero) :
      (adapter.after state event).usage = .zero ∧
        ∀ chunk ∈ adapter.output state event, True :=
    ⟨((Cohere.usage_normaliseEvent platform.header platform.parse state
      event).2 (noUsage event isEvent)).trans isZero, fun _ _ => trivial⟩
  obtain ⟨outputs, state, -, isZero, runEq⟩ :=
    Transducer.exists_outputs_of_proceeds (fun _ _ => rfl) keeps
      (rfl : ({} : Cohere.StreamState).usage = .zero)
  change normaliseStream platform config true source .cohere = _ at runEq
  rw [runEq] at clean
  rw [runEq, run_nil_of_clean clean]
  refine ⟨outputs ++ (Cohere.emitRole platform.header state ++ [makeFinishChunk
    platform.header (Cohere.mapFinishReason state.finishReason
      state.sawToolUse)]), ?_⟩
  rw [List.append_assoc, ← isZero]
  rfl

/-- An Anthropic stream that reports no usage ends with a usage chunk if its
message stops, and has none otherwise. -/
theorem anthropic_stream_cases
    (noUsage : ∀ event ∈ source.items,
      reportedUsage platform event .anthropic = none)
    (clean : (normaliseStream platform config true source .anthropic).ending =
      .finished) :
    (∃ chunks, (∀ chunk ∈ chunks, chunk.usage = none) ∧
        normaliseStream platform config true source .anthropic =
          { items := chunks, ending := .finished } ∧
        ∀ event ∈ source.items,
          Anthropic.isMessageStop platform.parse event = false) ∨
      ∃ chunks, normaliseStream platform config true source .anthropic =
          { items := chunks ++ [makeUsageChunk platform.header .zero]
            ending := .finished } ∧
        ∃ event ∈ source.items,
          Anthropic.isMessageStop platform.parse event = true := by
  let adapter := Anthropic.normaliser platform.header true config.id
    platform.parse
  let IsZero (state : Anthropic.StreamState) : Prop :=
    state.promptTokens = 0 ∧ state.completionTokens = 0
  have keeps (state : Anthropic.StreamState) (event : SSEEvent)
      (isEvent : event ∈ source.items) (isZero : IsZero state)
      (proceeds : adapter.control state event = .proceed) :
      IsZero (adapter.after state event) ∧
        ∀ chunk ∈ adapter.output state event, chunk.usage = none := by
    obtain ⟨⟨samePrompt, sameCompletion⟩, chunks⟩ :=
      Anthropic.usage_normaliser platform.header true config.id platform.parse
        state event (noUsage event isEvent) proceeds
    exact ⟨⟨samePrompt.trans isZero.1, sameCompletion.trans isZero.2⟩, chunks⟩
  obtain ⟨outputs, state, noOutputUsage, isZero, ends⟩ :=
    Transducer.exists_last_state source.ending keeps
      (⟨rfl, rfl⟩ : IsZero {})
  change normaliseStream platform config true source .anthropic = _ ∧ _ ∨
    ∃ event ∈ source.items, _ ∧
      normaliseStream platform config true source .anthropic = _ ∨
      ∃ error, _ ∧ normaliseStream platform config true source .anthropic = _
    at ends
  rcases ends with ⟨runEq, proceeds⟩ |
    ⟨event, isEvent, ⟨isDone, runEq⟩ | ⟨error, -, runEq⟩⟩
  · rw [runEq] at clean
    have noFinish : adapter.finish state = [] := rfl
    rw [runEq, run_nil_of_clean clean, noFinish, List.append_nil]
    refine .inl ⟨outputs, noOutputUsage, rfl, fun event isEvent => ?_⟩
    obtain ⟨state, proceeds⟩ := proceeds event isEvent
    rw [Bool.eq_false_iff, ne_eq, ← Anthropic.control_eq_done_iff
      platform.header true config.id platform.parse state event]
    intro isDone
    cases proceeds.symm.trans isDone
  · have isStop := (Anthropic.control_eq_done_iff platform.header true config.id
      platform.parse state event).1 isDone
    have stopUsage : Anthropic.stopChunks platform.header true state =
        [makeFinishChunk platform.header
          (Anthropic.mapStopReason state.stopReason state.sawToolUse)] ++
          [makeUsageChunk platform.header .zero] := by
      rw [Anthropic.stopChunks, isZero.1, isZero.2, add_zero]
      rfl
    rw [runEq, Anthropic.output_of_isMessageStop _ _ _ _ isStop, stopUsage,
      ← List.append_assoc]
    exact .inr ⟨_, rfl, event, isEvent, isStop⟩
  · rw [runEq] at clean
    cases clean

end Endings

/-- A clean stream without usage is billed and logged by the estimate exactly if
it comes from Anthropic and its message never stops. -/
theorem logged_estimate_iff
    (platform : StreamPlatform)
    (config : ProviderInstanceConfig)
    (tokenizer : Tokenizer)
    (adapter : NativeAdapter)
    (apiKeyId canonicalModel : String)
    (failoverCount : Nat)
    (request : ChatCompletionRequest)
    (source : Yields SSEEvent Thrown)
    (noUsage : ∀ event ∈ source.items,
      reportedUsage platform event adapter = none)
    (clean :
      (committedStream platform config adapter canonicalModel request
        source).ending = .finished) :
    let context := streamContext config tokenizer apiKeyId canonicalModel
      failoverCount request
    let stream := committedStream platform config adapter canonicalModel request
      source
    (context.drain stream).2 = context.estimatedEntry stream.items ↔
      adapter = .anthropic ∧ ∀ event ∈ source.items,
        Anthropic.isMessageStop platform.parse event = false := by
  intro context stream
  have promptCosts : 0 < context.promptEstimate := countChatTokens_pos _ _ _
  cases adapter with
  | gemini =>
      obtain ⟨chunks, streamEq⟩ :=
        exists_gemini_zero_usage platform config noUsage clean
      change stream = _ at streamEq
      rw [streamEq]
      exact iff_of_false (drain_ne_of_zero_usage _ promptCosts) (by simp)
  | cohere =>
      obtain ⟨chunks, streamEq⟩ :=
        exists_cohere_zero_usage platform config noUsage clean
      change stream = _ at streamEq
      rw [streamEq]
      exact iff_of_false (drain_ne_of_zero_usage _ promptCosts) (by simp)
  | anthropic =>
      rcases anthropic_stream_cases platform config noUsage clean with
        ⟨chunks, noChunkUsage, streamEq, noStop⟩ |
        ⟨chunks, streamEq, event, isEvent, isStop⟩
      · change stream = _ at streamEq
        rw [streamEq]
        exact iff_of_true (drain_of_no_usage noChunkUsage) ⟨rfl, noStop⟩
      · change stream = _ at streamEq
        rw [streamEq]
        refine iff_of_false (drain_ne_of_zero_usage _ promptCosts) ?_
        rintro ⟨-, noStop⟩
        rw [noStop event isEvent] at isStop
        cases isStop

section Frames

/-- A platform whose parser reads the text of one frame. -/
def framePlatform (frame : Json) : StreamPlatform where
  header := { id := "chatcmpl-1", created := 0, model := "m" }
  newToolCallId _ := "call_1"
  parse data := if data = frame.stringify then some frame else none

/-- A stream that sends one frame and ends. -/
def frameSource (frame : Json) : Yields SSEEvent Thrown where
  items := [{ event := none, data := frame.stringify }]
  ending := .finished

/-- A provider without a price table. -/
def unpricedProvider : ProviderInstanceConfig where
  id := "p"
  name := "p"
  models := []

/-- A tokenizer that is not asked for a model with an unknown name. -/
def noTokenizer : Tokenizer where
  toLowerCase := id
  encode _ _ := 0

/-- A request with one user message. -/
def helloRequest : ChatCompletionRequest where
  model := "m"
  messages := [.user (.string "Hi") none]

def helloContext : StreamContext :=
  streamContext unpricedProvider noTokenizer "key" "m" 0 helloRequest

/-- A text delta of Anthropic. -/
def anthropicText : Json :=
  .object
    [("type", .string "content_block_delta"),
      ("delta", .object
        [("type", .string "text_delta"), ("text", .string "Hello")])]

/-- The only frame of a Gemini answer. -/
def geminiText : Json :=
  .object
    [("candidates", .array [.object
      [("content", .object
          [("parts", .array [.object [("text", .string "Hello")]])]),
        ("finishReason", .string "STOP")]])]

/-- An Anthropic stream that is cut off is billed by the estimate. -/
theorem logged_estimate_of_no_message_stop :
    let stream := committedStream (framePlatform anthropicText) unpricedProvider
      .anthropic "m" helloRequest (frameSource anthropicText)
    (helloContext.drain stream).2 = helloContext.estimatedEntry stream.items :=
  (logged_estimate_iff (framePlatform anthropicText) unpricedProvider
    noTokenizer .anthropic "key" "m" 0 helloRequest (frameSource anthropicText)
    (by decide +kernel) (by decide +kernel)).2 ⟨rfl, by decide +kernel⟩

/-- A Gemini stream delivers its text and is logged without a token. -/
theorem zero_tokens_of_gemini_text :
    let stream := committedStream (framePlatform geminiText) unpricedProvider
      .gemini "m" helloRequest (frameSource geminiText)
    let entry := (helloContext.drain stream).2
    let estimate := helloContext.estimatedEntry stream.items
    (∀ event ∈ (frameSource geminiText).items,
        reportedUsage (framePlatform geminiText) event .gemini = none) ∧
      stream.ending = .finished ∧
      (helloContext.drain stream).1.items.filterMap contentDelta = ["Hello"] ∧
      (entry.promptTokens, entry.completionTokens) = (0, 0) ∧
      (estimate.promptTokens, estimate.completionTokens) = (8, 1) := by
  decide +kernel

end Frames

end Router
end AiGateway
