import AiGateway.OpenAI.EventStream
import AiGateway.OpenAI.Tokens
import AiGateway.Providers.Adapters

/-!
# The exchange with a provider

The path that all adapters share: `fetch` under the timeout of the provider, the
check of the status, and the read of the body, as a whole or as a stream. Only
the first two turn a failure into an error of the gateway.
-/

namespace AiGateway
namespace Providers

open Foundations (Json Yields)
open OpenAI

/-- An error that `fetch` or a read of a body rejects with. -/
structure Fault where
  name : String
  message : String
  deriving DecidableEq, Repr

/-- A fault as it is thrown. -/
def Fault.thrown (fault : Fault) : Thrown := .raw fault.name fault.message

/-- A rejection of `fetch`, with the signals that are aborted by then. -/
structure Rejection where
  fault : Fault
  timedOut : Bool
  callerAborted : Bool

/-- A `Response`; its body is what reading it gives. -/
structure Response where
  status : Nat
  body : Option (Yields (List UInt8) Thrown)

namespace Response

/-- `response.ok`. -/
def ok (response : Response) : Bool :=
  200 ≤ response.status && response.status ≤ 299

/-- `response.text()`. -/
def text (decoder : TextDecoder) (response : Response) : Except Thrown String :=
  match response.body with
  | none => .ok ""
  | some body =>
      match body.ending with
      | .finished => .ok (decoder.decodeAll body.items)
      | .threw thrown => .error thrown

end Response

section Messages

/-- The longest prefix with at most a number of code units. -/
def utf16Prefix : Nat → List Char → List Char
  | _, [] => []
  | count, char :: rest =>
      let width := if char.toNat < 65536 then 1 else 2
      if width ≤ count then char :: utf16Prefix (count - width) rest else []

/-- `truncate(value, max)`. A character that the limit cuts in half is left
out. -/
def truncate (value : String) (max : Nat) : String :=
  if max < utf16Length value then
    String.ofList (utf16Prefix max value.toList) ++ "…"
  else
    value

/-- `extractProviderMessage(bodyText)`. -/
def extractProviderMessage
    (parse : String → Option Json)
    (bodyText : String) : String :=
  if bodyText = "" then
    "(empty body)"
  else
    let record := (parse bodyText).filter Json.isRecord
    let message :=
      record.bind (Json.getString "error") <|>
      (record.bind (Json.getRecord "error")).bind (Json.getString "message") <|>
      record.bind (Json.getString "message")
    truncate (message.getD bodyText) 500

end Messages

/-- `GATEWAY_SIDE_UPSTREAM_STATUSES`. -/
def gatewaySideUpstreamStatuses : List Nat := [401, 402, 403, 404]

section Exchange

variable
  (config : ProviderInstanceConfig)
  (decoder : TextDecoder)
  (parse : String → Option Json)

/-- `upstreamFetch`, for what `fetch` answers. -/
def upstreamFetch : Except Rejection Response → Except Thrown Response
  | .ok response => .ok response
  | .error rejection =>
      if rejection.timedOut then
        .error (.gateway (.upstreamTimeout config.id))
      else if rejection.callerAborted then
        .error rejection.fault.thrown
      else
        .error (.gateway (.provider
          ("Network error calling provider " ++ config.name ++ ": " ++
            rejection.fault.message)
          502 config.id (some true)))

/-- `mapHttpError(status, bodyText)`. -/
def mapHttpError (status : Nat) (bodyText : String) : GatewayError :=
  if status = 408 then
    .upstreamTimeout config.id
  else
    let detail := extractProviderMessage parse bodyText
    if status ∈ gatewaySideUpstreamStatuses then
      .provider
        ("Provider " ++ config.name ++ " rejected the gateway's request with " ++
          toString status ++ ": " ++ detail)
        502 config.id (some true)
    else
      .provider
        ("Provider " ++ config.name ++ " returned " ++ toString status ++ ": " ++
          detail)
        status config.id

/-- `ensureOk(response)`; a body that cannot be read counts as empty. -/
def ensureOk (response : Response) : Except Thrown Response :=
  if response.ok then
    .ok response
  else
    let bodyText :=
      match response.text decoder with
      | .ok text => text
      | .error _ => ""
    .error (.gateway (mapHttpError config parse response.status bodyText))

/-- An error status decides the error, although the body may not be readable. -/
theorem ensureOk_of_not_ok
    (response : Response)
    (notOk : response.ok = false) :
    ∃ bodyText, ensureOk config decoder parse response =
      .error (.gateway (mapHttpError config parse response.status bodyText)) := by
  unfold ensureOk
  rw [notOk]
  exact ⟨_, rfl⟩

/-- `readJson(response)`. -/
def readJson (response : Response) : Except Thrown Json := do
  let text ← response.text decoder
  match parse text with
  | some value => .ok value
  | none =>
      .error (.gateway (.provider
        ("Provider " ++ config.name ++ " returned non-JSON body.")
        502 config.id (some true)))

/-- `chat` and `embed` of an adapter, which then makes its answer of the body. -/
def complete
    (interpret : Json → Except Thrown α)
    (fetched : Except Rejection Response) : Except Thrown α := do
  let response ← upstreamFetch config fetched
  let response ← ensureOk config decoder parse response
  let raw ← readJson config decoder parse response
  interpret raw

/-- The body of a response to a stream request. -/
def openStream
    (label : String)
    (fetched : Except Rejection Response) :
    Except Thrown (Yields (List UInt8) Thrown) := do
  let response ← upstreamFetch config fetched
  let response ← ensureOk config decoder parse response
  match response.body with
  | some body => .ok body
  | none =>
      .error (.gateway (.provider (label ++ " returned an empty stream body.")
        502 config.id (some true)))

/-- `chatStream` of an adapter. -/
def chatStream
    (label : String)
    (adapter : StreamAdapter)
    (fetched : Except Rejection Response) : Yields StreamItem Thrown :=
  match openStream config decoder parse label fetched with
  | .ok body =>
      adapter.transducer.transduce adapter.start (parseSSEStream decoder body)
  | .error thrown => { items := [], ending := .threw thrown }

end Exchange

section Statuses

variable
  (config : ProviderInstanceConfig)
  (parse : String → Option Json)

/-- The statuses whose errors the failover loop retries. -/
def RetryableStatus (status : Nat) : Prop :=
  status ∈ [401, 402, 403, 404, 408, 429] ∨ 500 ≤ status

instance (status : Nat) : Decidable (RetryableStatus status) :=
  inferInstanceAs (Decidable (_ ∨ _))

/-- A good status has no error. -/
theorem not_retryableStatus_of_ok
    {status : Nat}
    (isOk : 200 ≤ status ∧ status ≤ 299) : ¬RetryableStatus status := by
  unfold RetryableStatus
  rw [not_or]
  refine ⟨fun isMember => ?_, by omega⟩
  have outside : ∀ other ∈ [401, 402, 403, 404, 408, 429],
      ¬(200 ≤ other ∧ other ≤ 299) := by decide
  exact outside status isMember isOk

/-- The error of a status is retried or not, whatever the body says. -/
theorem retryable_mapHttpError (status : Nat) (bodyText : String) :
    (mapHttpError config parse status bodyText).retryable = true ↔
      RetryableStatus status := by
  unfold mapHttpError RetryableStatus gatewaySideUpstreamStatuses
  split_ifs with isTimeout isGatewaySide
  · simp [GatewayError.upstreamTimeout, isTimeout]
  · refine iff_of_true rfl (.inl ?_)
    simp only [List.mem_cons] at isGatewaySide ⊢
    tauto
  · simp only [GatewayError.provider, Option.getD_none, Bool.or_eq_true,
      decide_eq_true_eq, List.mem_cons, List.not_mem_nil] at isGatewaySide ⊢
    tauto

end Statuses

end Providers
end AiGateway
