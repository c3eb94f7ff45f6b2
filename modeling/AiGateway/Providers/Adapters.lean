import AiGateway.Providers.AnthropicStream
import AiGateway.Providers.CohereStream
import AiGateway.Providers.GeminiStream

/-!
# The stream adapters

Every adapter reads the events of an upstream stream in a loop. The OpenAI
adapter, and the Mistral adapter that extends it, yield what the upstream sent;
the others translate it.
-/

namespace AiGateway
namespace Providers

open Foundations (Ending Json Transducer)
open OpenAI

/-- `ADAPTER_TYPES`. -/
inductive AdapterType
  | openai
  | anthropic
  | gemini
  | cohere
  | mistral
  deriving DecidableEq, Repr

/-- The name in the messages of an adapter; Mistral inherits that of OpenAI. -/
def AdapterType.label : AdapterType → String
  | .openai => "OpenAI"
  | .anthropic => "Anthropic"
  | .gemini => "Gemini"
  | .cohere => "Cohere"
  | .mistral => "OpenAI"

/-- What the platform gives to a stream. -/
structure StreamPlatform where
  header : StreamHeader
  newToolCallId : Nat → String
  /-- `JSON.parse`, which may reject. -/
  parse : String → Option Json

/-- A chunk that an adapter yields: one it made, or whatever value an
OpenAI-compatible upstream sent. -/
inductive StreamItem
  | made (chunk : ChatCompletionChunk)
  | upstream (value : Json)

/-- A loop over events with its first state. -/
structure StreamAdapter where
  State : Type
  start : State
  transducer : Transducer State SSEEvent StreamItem Thrown

namespace StreamAdapter

/-- A loop that makes its chunks. -/
def ofNormaliser
    (start : σ)
    (normaliser : Transducer σ SSEEvent ChatCompletionChunk Thrown) :
    StreamAdapter where
  State := σ
  start := start
  transducer := normaliser.mapOutput .made

/-- The loop of `OpenAIProvider.chatStream`. -/
def openAI (parse : String → Option Json) : StreamAdapter where
  State := Unit
  start := ()
  transducer :=
    { step := fun _ event =>
        if event.data = "[DONE]" then
          ((), [], .done)
        else if event.data = "" then
          ((), [], .proceed)
        else
          ((), ((parse event.data).map StreamItem.upstream).toList, .proceed)
      finish := fun _ => [] }

end StreamAdapter

section Adapters

variable
  (platform : StreamPlatform)
  (config : ProviderInstanceConfig)
  (wantUsage : Bool)

/-- The loop over the events of an adapter. -/
def AdapterType.streamAdapter : AdapterType → StreamAdapter
  | .openai => .openAI platform.parse
  | .anthropic =>
      .ofNormaliser {} (Anthropic.normaliser platform.header wantUsage config.id
        platform.parse)
  | .gemini =>
      .ofNormaliser {} (Gemini.normaliser platform.header
        platform.newToolCallId platform.parse wantUsage)
  | .cohere =>
      .ofNormaliser {} (Cohere.normaliser platform.header platform.parse
        wantUsage)
  | .mistral => .openAI platform.parse

end Adapters

namespace StreamAdapter

section OpenAI

variable {parse : String → Option Json} {event : SSEEvent}

/-- `[DONE]` ends the stream. -/
theorem run_openAI_of_done
    (isDone : event.data = "[DONE]")
    (ending : Ending Thrown)
    (events : List SSEEvent) :
    (openAI parse).transducer.run ending () (event :: events) =
      { items := [], ending := .finished } := by
  simp [Transducer.run, Transducer.control, Transducer.output, openAI, isDone]

/-- An event without data or with data that is not JSON is skipped. -/
theorem run_openAI_of_skipped
    (notDone : event.data ≠ "[DONE]")
    (isSkipped : event.data = "" ∨ parse event.data = none)
    (ending : Ending Thrown)
    (events : List SSEEvent) :
    (openAI parse).transducer.run ending () (event :: events) =
      (openAI parse).transducer.run ending () events := by
  by_cases isBlank : event.data = ""
  · simp [Transducer.run, Transducer.control, Transducer.output,
      Transducer.after, openAI, isBlank]
  · have isRejected := isSkipped.resolve_left isBlank
    simp [Transducer.run, Transducer.control, Transducer.output,
      Transducer.after, openAI, notDone, isBlank, isRejected]

/-- Any other event yields its value. -/
theorem run_openAI_of_value
    (notDone : event.data ≠ "[DONE]")
    (notEmpty : event.data ≠ "")
    {value : Json}
    (isValue : parse event.data = some value)
    (ending : Ending Thrown)
    (events : List SSEEvent) :
    (openAI parse).transducer.run ending () (event :: events) =
      ((openAI parse).transducer.run ending () events).prepend
        [.upstream value] := by
  simp [Transducer.run, Transducer.control, Transducer.output,
    Transducer.after, openAI, notDone, notEmpty, isValue]

end OpenAI

end StreamAdapter

end Providers
end AiGateway
