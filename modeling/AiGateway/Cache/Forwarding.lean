import AiGateway.Cache.KeyFields
import AiGateway.Cache.Upstream
import AiGateway.Foundations.JsonPath

/-!
# The cache key and the bodies that are passed on

The OpenAI adapter, and the Mistral adapter that extends it, send a request as it
is, with every parameter that the schema lets through. The key hashes a closed
list of fields. The main theorem says on which other fields two requests with
the same key have to agree to be the same request upstream.
-/

namespace AiGateway
namespace Cache

open Foundations (Decimal Json)
open Foundations.Json (Agrees PathStep agrees_of_eq assign)
open OpenAI

section Model

/-- `tool` as a property of a request. -/
def toolJson (tool : ToolDefinition) : Json :=
  .object
    [("type", .string "function"),
      ("function", .object
        (("name", .string tool.name) ::
          (optionalEntry "description" (tool.description.map .string) ++
            optionalEntry "parameters" (tool.parameters.map .object))))]

/-- `tool_choice` as a property of a request. -/
def toolChoiceJson : ToolChoice → Json
  | .none => .string "none"
  | .auto => .string "auto"
  | .required => .string "required"
  | .function name =>
      .object
        [("type", .string "function"),
          ("function", .object [("name", .string name)])]

/-- The fields that the schema names, with what a request has under them. -/
def knownFields (request : ChatCompletionRequest) :
    List (String × Option Json) :=
  [("model", some (.string request.model)),
    ("messages", some (.array (request.messages.map ChatMessage.toJson))),
    ("temperature", request.temperature.map .number),
    ("top_p", request.topP.map .number),
    ("n", request.n.map .number),
    ("stream", request.stream.map .bool),
    ("stream_options", request.streamOptions.map fun includeUsage =>
      .object (optionalEntry "include_usage" (includeUsage.map .bool))),
    ("stop", request.stop.map Stop.toJson),
    ("max_tokens", request.maxTokens.map .number),
    ("max_completion_tokens", request.maxCompletionTokens.map .number),
    ("presence_penalty", request.presencePenalty.map .number),
    ("frequency_penalty", request.frequencyPenalty.map .number),
    ("logit_bias", request.logitBias.map .object),
    ("user", request.user.map .string),
    ("seed", request.seed.map .number),
    ("tools", request.tools.map fun tools => .array (tools.map toolJson)),
    ("tool_choice", request.toolChoice.map toolChoiceJson),
    ("response_format", request.responseFormat.map .object)]

/-- The fields that the schema names. -/
def knownKeys : List String :=
  ["model", "messages", "temperature", "top_p", "n", "stream", "stream_options",
    "stop", "max_tokens", "max_completion_tokens", "presence_penalty",
    "frequency_penalty", "logit_bias", "user", "seed", "tools", "tool_choice",
    "response_format"]

/-- The properties of a parsed request with its further parameters. -/
def requestEntries
    (request : ChatCompletionRequest)
    (extra : List (String × Json)) : List (String × Json) :=
  (knownFields request).flatMap (fun field => optionalEntry field.1 field.2) ++
    extra

/-- A value all of whose objects have each key once, and none that names the
prototype: a body with such a key is refused before it is parsed. -/
def Plain (value : Json) : Prop :=
  ∀ path entries, value.follow path = some (.object entries) →
    PlainKeys entries

/-- A request that passed `chatCompletionRequestSchema.passthrough()`. -/
structure PassthroughRequest where
  request : ChatCompletionRequest
  /-- The parameters that the schema does not name. -/
  extra : List (String × Json)
  unknown : ∀ entry ∈ extra, entry.1 ∉ knownKeys
  plain : Plain (.object (requestEntries request extra))

/-- The properties of the request that the router sends to a provider. -/
def PassthroughRequest.forwarded
    (model : String)
    (parsed : PassthroughRequest) : List (String × Json) :=
  requestEntries (upstreamRequest model parsed.request) parsed.extra

/-- `OpenAIProvider.buildChatBody(request, stream)`. -/
def OpenAIProvider.buildChatBody
    (request : List (String × Json))
    (stream : Bool) : List (String × Json) :=
  if !stream then
    assign (request.filter fun entry => entry.1 ≠ "stream_options") "stream"
      (.bool false)
  else
    let body := assign request "stream" (.bool true)
    match (request.lookup "stream_options").bind (Json.get "include_usage") with
    | some (.bool true) =>
        assign body "stream_options" (.object [("include_usage", .bool true)])
    | _ => body

/-- `UNSUPPORTED_FIELDS`. -/
def unsupportedFields : List String :=
  ["logit_bias", "presence_penalty", "frequency_penalty", "n", "user"]

/-- `MistralProvider.buildChatBody(request, stream)`. -/
def MistralProvider.buildChatBody
    (request : List (String × Json))
    (stream : Bool) : List (String × Json) :=
  let body := OpenAIProvider.buildChatBody request stream
  let body :=
    match body.lookup "seed" with
    | some seed => assign body "random_seed" seed
    | none => body
  body.filter fun entry =>
    entry.1 ≠ "seed" ∧ entry.1 ≠ "stream_options" ∧
      entry.1 ∉ unsupportedFields

/-- Two bodies agree on every field but `user` and `stream_options`. -/
def SameUpstream (first second : List (String × Json)) : Prop :=
  ∀ field, field ≠ "user" → field ≠ "stream_options" →
    Agrees (first.lookup field) (second.lookup field)

/-- Two requests agree on the fields that the key leaves out. -/
structure AgreeUnhashed
    (skipped : List String)
    (first second : PassthroughRequest) : Prop where
  maxTokens : first.request.maxTokens = second.request.maxTokens
  maxCompletionTokens :
    first.request.maxCompletionTokens = second.request.maxCompletionTokens
  /-- One request may have an empty list of tools and the other none. -/
  tools : first.request.tools.isSome = second.request.tools.isSome
  toolChoice : first.request.toolChoice = second.request.toolChoice
  extra : ∀ key, key ∉ knownKeys → key ∉ skipped →
    Agrees (first.extra.lookup key) (second.extra.lookup key)

end Model

section Readings

variable {localeCompare : String → String → Ordering}

@[simp] theorem kind_canonical (value : Json) :
    (canonical localeCompare value).kind = value.kind := by
  cases value with
  | array elements =>
      rw [canonical_array]
      simp [Json.kind]
  | _ => rfl

/-- Sorting keeps what is at the end of a step. -/
theorem child_canonical
    {value : Json}
    (plain : Plain value)
    (step : PathStep) :
    (canonical localeCompare value).child step =
      (value.child step).map (canonical localeCompare) := by
  cases step with
  | key name =>
      cases value with
      | object entries =>
          exact get_canonical_object localeCompare
            (plain [] entries rfl) name
      | array elements =>
          rw [canonical_array]
          rfl
      | _ => rfl
  | index position =>
      cases value with
      | array elements =>
          rw [canonical_array]
          simp [Json.child]
      | _ => rfl

theorem Plain.child
    {value inner : Json}
    (plain : Plain value)
    {step : PathStep}
    (isChild : value.child step = some inner) : Plain inner := by
  intro path entries found
  refine plain (step :: path) entries ?_
  rw [Json.follow, isChild]
  exact found

/-- Values with the same canonical form read the same. -/
theorem reading_eq_of_canonical_eq
    {first second : Json}
    (firstPlain : Plain first)
    (secondPlain : Plain second)
    (sameForm :
      canonical localeCompare first = canonical localeCompare second)
    (path : List PathStep) : first.reading path = second.reading path := by
  induction path generalizing first second with
  | nil =>
      rw [Json.reading_nil, Json.reading_nil, ← kind_canonical, sameForm,
        kind_canonical]
  | cons step path inductionHypothesis =>
      have sameChild := congrArg (Json.child step) sameForm
      rw [child_canonical firstPlain, child_canonical secondPlain] at sameChild
      rw [Json.reading_cons, Json.reading_cons]
      cases firstChild : first.child step with
      | none =>
          cases secondChild : second.child step with
          | none => rfl
          | some other => simp [firstChild, secondChild] at sameChild
      | some inner =>
          cases secondChild : second.child step with
          | none => simp [firstChild, secondChild] at sameChild
          | some other =>
              rw [firstChild, secondChild] at sameChild
              exact inductionHypothesis (firstPlain.child firstChild)
                (secondPlain.child secondChild) (Option.some.inj sameChild)

end Readings

section Lookups

/-- A property of a request is a known field or a further parameter. -/
theorem lookup_flatMap_optionalEntry
    {fields : List (String × Option Json)}
    (distinct : (fields.map Prod.fst).Nodup)
    (key : String) :
    (fields.flatMap fun field => optionalEntry field.1 field.2).lookup key =
      (fields.lookup key).join := by
  induction fields with
  | nil => rfl
  | cons field fields inductionHypothesis =>
      obtain ⟨name, value⟩ := field
      rw [List.map_cons, List.nodup_cons] at distinct
      rw [List.flatMap_cons, List.lookup_append, lookup_optionalEntry,
        inductionHypothesis distinct.2, List.lookup_cons]
      by_cases isName : key = name
      · have notLater : fields.lookup key = none := by
          refine List.lookup_eq_none_iff.2 fun other isOther => ?_
          simp only [bne_iff_ne, ne_eq]
          intro isKey
          have isLater : other.1 ∈ fields.map Prod.fst :=
            List.mem_map_of_mem isOther
          rw [← isKey, isName] at isLater
          exact distinct.1 isLater
        rw [if_pos isName, notLater, isName, beq_self_eq_true]
        exact Option.or_none
      · rw [if_neg isName, beq_false_of_ne isName, Option.none_or]

theorem lookup_requestEntries
    (request : ChatCompletionRequest)
    (extra : List (String × Json))
    (key : String) :
    (requestEntries request extra).lookup key =
      ((knownFields request).lookup key).join.or (extra.lookup key) := by
  have distinct : ((knownFields request).map Prod.fst).Nodup := by
    change knownKeys.Nodup
    decide
  rw [requestEntries, List.lookup_append,
    lookup_flatMap_optionalEntry distinct]

variable {parsed : PassthroughRequest} {key : String}

/-- Under a key that the schema names there is the known field. -/
theorem lookup_forwarded_of_known
    (model : String)
    (isKnown : key ∈ knownKeys) :
    (parsed.forwarded model).lookup key =
      ((knownFields (upstreamRequest model parsed.request)).lookup key).join := by
  have notExtra : parsed.extra.lookup key = none := by
    refine List.lookup_eq_none_iff.2 fun entry isEntry => ?_
    simp only [bne_iff_ne, ne_eq]
    rintro rfl
    exact parsed.unknown entry isEntry isKnown
  rw [PassthroughRequest.forwarded, lookup_requestEntries, notExtra,
    Option.or_none]

/-- Under any other key there is the further parameter. -/
theorem lookup_forwarded_of_unknown
    (model : String)
    (isUnknown : key ∉ knownKeys) :
    (parsed.forwarded model).lookup key = parsed.extra.lookup key := by
  have notKnown (request : ChatCompletionRequest) :
      (knownFields request).lookup key = none := by
    refine List.lookup_eq_none_iff.2 fun field isField => ?_
    simp only [bne_iff_ne, ne_eq]
    rintro rfl
    have isKnown : field.1 ∈ (knownFields request).map Prod.fst :=
      List.mem_map_of_mem isField
    exact isUnknown isKnown
  rw [PassthroughRequest.forwarded, lookup_requestEntries, notKnown]
  rfl

/-- What is left after some keys are removed. -/
theorem lookup_filter_key
    (entries : List (String × Json))
    (keeps : String → Bool)
    (key : String) :
    (entries.filter fun entry => keeps entry.1).lookup key =
      if keeps key then entries.lookup key else none := by
  induction entries with
  | nil => simp
  | cons entry entries inductionHypothesis =>
      obtain ⟨name, value⟩ := entry
      rw [List.filter_cons, Json.lookup_cons_eq]
      by_cases kept : keeps name = true
      · rw [if_pos kept, Json.lookup_cons_eq, inductionHypothesis]
        by_cases isName : key = name
        · simp [isName, kept]
        · simp [isName]
      · rw [if_neg kept, inductionHypothesis]
        by_cases isName : key = name
        · simp [isName, kept]
        · simp [isName]

/-- The body of the OpenAI adapter, field by field. -/
theorem lookup_openAI_body (entries : List (String × Json)) (key : String) :
    (OpenAIProvider.buildChatBody entries false).lookup key =
      if key = "stream" then some (.bool false)
      else if key = "stream_options" then none
      else entries.lookup key := by
  unfold OpenAIProvider.buildChatBody
  rw [Bool.not_false, if_pos rfl, Json.lookup_assign (by decide),
    lookup_filter_key _ (fun key => decide (key ≠ "stream_options"))]
  simp

/-- The body of the Mistral adapter for a request with a seed. -/
theorem lookup_mistral_body
    {entries : List (String × Json)}
    {seed : Json}
    (hasSeed : entries.lookup "seed" = some seed)
    (key : String) :
    (MistralProvider.buildChatBody entries false).lookup key =
      if key = "seed" ∨ key = "stream_options" ∨ key ∈ unsupportedFields then
        none
      else if key = "random_seed" then some seed
      else (OpenAIProvider.buildChatBody entries false).lookup key := by
  have sentSeed :
      (OpenAIProvider.buildChatBody entries false).lookup "seed" =
        some seed := by
    rw [lookup_openAI_body, if_neg (by decide), if_neg (by decide), hasSeed]
  unfold MistralProvider.buildChatBody
  dsimp only
  rw [sentSeed, lookup_filter_key _ fun key => decide (key ≠ "seed" ∧
    key ≠ "stream_options" ∧ key ∉ unsupportedFields)]
  dsimp only
  rw [Json.lookup_assign (by decide)]
  by_cases removed :
      key = "seed" ∨ key = "stream_options" ∨ key ∈ unsupportedFields
  · rw [if_pos removed, if_neg]
    simpa [not_or, imp_iff_not_or] using removed
  · rw [if_neg removed, if_pos]
    simpa [not_or] using removed

end Lookups

section Agreement

variable
  {localeCompare : String → String → Ordering}
  {first second : PassthroughRequest}

/-- A free-form field that the key hashes. -/
theorem agrees_of_canonical_orNull
    {firstEntries secondEntries : Option (List (String × Json))}
    (firstPlain : ∀ entries ∈ firstEntries, Plain (.object entries))
    (secondPlain : ∀ entries ∈ secondEntries, Plain (.object entries))
    (sameForm :
      canonical localeCompare (orNull (firstEntries.map .object)) =
        canonical localeCompare (orNull (secondEntries.map .object))) :
    Agrees (firstEntries.map .object) (secondEntries.map .object) := by
  have sameKind := congrArg Json.kind sameForm
  rw [kind_canonical, kind_canonical] at sameKind
  cases firstEntries with
  | none =>
      cases secondEntries with
      | none => exact fun _ => rfl
      | some entries => cases sameKind
  | some entries =>
      cases secondEntries with
      | none => cases sameKind
      | some others =>
          exact reading_eq_of_canonical_eq (firstPlain entries rfl)
            (secondPlain others rfl) sameForm

/-- The choice of a tool is what is read of it. -/
theorem toolChoice_eq_of_agrees
    {firstChoice secondChoice : Option ToolChoice}
    (agree : Agrees (firstChoice.map toolChoiceJson)
      (secondChoice.map toolChoiceJson)) :
    firstChoice = secondChoice := by
  have atEnd := agree []
  have atName := agree [.key "function", .key "name"]
  rcases firstChoice with _ | _ | _ | _ | name <;>
    rcases secondChoice with _ | _ | _ | _ | other <;>
    simp_all [toolChoiceJson, Json.kind, Json.child, List.lookup_cons]

theorem number_eq_of_agrees
    {firstValue secondValue : Option Decimal}
    (agree : Agrees (firstValue.map .number) (secondValue.map .number)) :
    firstValue = secondValue := by
  have sameKind := agree.kind_eq
  cases firstValue <;> cases secondValue <;> simp_all [Json.kind]

/-- Requests without tools differ at most in an empty list. -/
theorem agrees_tools_iff
    {firstTools secondTools : Option (List ToolDefinition)}
    (firstEmpty : firstTools.getD [] = [])
    (secondEmpty : secondTools.getD [] = []) :
    Agrees (firstTools.map fun tools => .array (tools.map toolJson))
        (secondTools.map fun tools => .array (tools.map toolJson)) ↔
      firstTools.isSome = secondTools.isSome := by
  constructor
  · intro agree
    simpa using congrArg Option.isSome agree.kind_eq
  · intro sameTools
    refine agrees_of_eq ?_
    cases firstTools <;> cases secondTools <;> simp_all

/-- A known field of a parsed request has no key twice. -/
theorem PassthroughRequest.plain_field
    (parsed : PassthroughRequest)
    (key : String)
    {value : Json}
    (isField : ((knownFields parsed.request).lookup key).join = some value) :
    Plain value := by
  have isProperty : (requestEntries parsed.request parsed.extra).lookup key =
      some value := by
    rw [lookup_requestEntries, isField, Option.some_or]
  have isChild : (Json.object (requestEntries parsed.request
      parsed.extra)).child (.key key) = some value := isProperty
  exact parsed.plain.child isChild

/-- The fields that the key leaves out and an adapter sends. -/
def unhashedKeys : List String :=
  ["max_tokens", "max_completion_tokens", "tools", "tool_choice"]

/-- Requests with the same key agree on every known field that is sent if they
agree on those that the key leaves out. -/
theorem agrees_knownFields
    (model : String)
    (firstEligible : Eligible first.request)
    (secondEligible : Eligible second.request)
    (agree : AgreeOnKey localeCompare first.request second.request)
    {hidden : List String}
    (unhashed : AgreeUnhashed hidden first second)
    {key : String}
    (isKnown : key ∈ knownKeys)
    (isSent : key ∉ ["user", "stream", "stream_options"]) :
    Agrees
      ((knownFields (upstreamRequest model first.request)).lookup key).join
      ((knownFields (upstreamRequest model second.request)).lookup key).join := by
  have logitBias : Agrees (first.request.logitBias.map .object)
      (second.request.logitBias.map .object) :=
    agrees_of_canonical_orNull
      (fun entries isValue => first.plain_field "logit_bias"
        (congrArg (Option.map Json.object) isValue))
      (fun entries isValue => second.plain_field "logit_bias"
        (congrArg (Option.map Json.object) isValue)) agree.logitBias
  have responseFormat : Agrees (first.request.responseFormat.map .object)
      (second.request.responseFormat.map .object) :=
    agrees_of_canonical_orNull
      (fun entries isValue => first.plain_field "response_format"
        (congrArg (Option.map Json.object) isValue))
      (fun entries isValue => second.plain_field "response_format"
        (congrArg (Option.map Json.object) isValue)) agree.responseFormat
  have sameNumber {firstValue secondValue : Option Decimal}
      (same : firstValue = secondValue) :
      Agrees (firstValue.map .number) (secondValue.map .number) :=
    agrees_of_eq (by rw [same])
  simp only [knownKeys, List.mem_cons, List.not_mem_nil, or_false] at isKnown
  rcases isKnown with rfl | rfl | rfl | rfl | rfl | rfl | rfl | rfl | rfl | rfl |
    rfl | rfl | rfl | rfl | rfl | rfl | rfl | rfl
  · exact fun _ => rfl
  · refine agrees_of_eq ?_
    change some (Json.array (first.request.messages.map _)) =
      some (Json.array (second.request.messages.map _))
    rw [agree.messages]
  · exact sameNumber
      (firstEligible.temperature.trans secondEligible.temperature.symm)
  · exact sameNumber agree.topP
  · exact sameNumber agree.n
  · exact absurd (by decide) isSent
  · exact absurd (by decide) isSent
  · exact agrees_of_eq (congrArg (Option.map Stop.toJson) agree.stop)
  · exact sameNumber unhashed.maxTokens
  · exact sameNumber unhashed.maxCompletionTokens
  · exact sameNumber agree.presencePenalty
  · exact sameNumber agree.frequencyPenalty
  · exact logitBias
  · exact absurd (by decide) isSent
  · exact sameNumber agree.seed
  · exact (agrees_tools_iff firstEligible.noTools secondEligible.noTools).2
      unhashed.tools
  · exact agrees_of_eq (congrArg (Option.map toolChoiceJson) unhashed.toolChoice)
  · exact responseFormat

/-- Requests with the same key agree on the fields that are sent if they agree
on those that the key leaves out. -/
theorem agrees_forwarded_iff
    (model : String)
    (firstEligible : Eligible first.request)
    (secondEligible : Eligible second.request)
    (agree : AgreeOnKey localeCompare first.request second.request)
    {hidden : List String}
    (sent : ∀ key ∈ unhashedKeys, key ∉ hidden)
    (notSent : ∀ key ∈ ["user", "stream", "stream_options"], key ∈ hidden) :
    (∀ key, key ∉ hidden →
        Agrees ((first.forwarded model).lookup key)
          ((second.forwarded model).lookup key)) ↔
      AgreeUnhashed hidden first second := by
  constructor
  · intro agreeSent
    have known (key : String) (isKnown : key ∈ knownKeys)
        (isUnhashed : key ∈ unhashedKeys) :
        Agrees
          ((knownFields (upstreamRequest model first.request)).lookup key).join
          ((knownFields (upstreamRequest model second.request)).lookup
            key).join := by
      rw [← lookup_forwarded_of_known model isKnown,
        ← lookup_forwarded_of_known model isKnown]
      exact agreeSent key (sent key isUnhashed)
    refine ⟨?_, ?_, ?_, ?_, fun key isUnknown isSent => ?_⟩
    · exact number_eq_of_agrees
        (known "max_tokens" (by decide) (by decide))
    · exact number_eq_of_agrees
        (known "max_completion_tokens" (by decide) (by decide))
    · exact (agrees_tools_iff firstEligible.noTools secondEligible.noTools).1
        (known "tools" (by decide) (by decide))
    · exact toolChoice_eq_of_agrees
        (known "tool_choice" (by decide) (by decide))
    · rw [← lookup_forwarded_of_unknown model isUnknown,
        ← lookup_forwarded_of_unknown model isUnknown]
      exact agreeSent key isSent
  · intro unhashed key isSent
    by_cases isKnown : key ∈ knownKeys
    · rw [lookup_forwarded_of_known model isKnown,
        lookup_forwarded_of_known model isKnown]
      exact agrees_knownFields model firstEligible secondEligible agree unhashed
        isKnown fun isHidden => isSent (notSent key isHidden)
    · rw [lookup_forwarded_of_unknown model isKnown,
        lookup_forwarded_of_unknown model isKnown]
      exact unhashed.extra key isKnown isSent

/-- Which further parameters count depends on those that a body hides. -/
theorem agreeUnhashed_congr
    {skipped others : List String}
    (sameSkipped : ∀ key, key ∉ knownKeys → (key ∈ skipped ↔ key ∈ others)) :
    AgreeUnhashed skipped first second ↔ AgreeUnhashed others first second := by
  constructor
  · rintro ⟨maxTokens, maxCompletionTokens, tools, toolChoice, extra⟩
    exact ⟨maxTokens, maxCompletionTokens, tools, toolChoice,
      fun key isUnknown notSkipped => extra key isUnknown fun isSkipped =>
        notSkipped ((sameSkipped key isUnknown).1 isSkipped)⟩
  · rintro ⟨maxTokens, maxCompletionTokens, tools, toolChoice, extra⟩
    exact ⟨maxTokens, maxCompletionTokens, tools, toolChoice,
      fun key isUnknown notSkipped => extra key isUnknown fun isSkipped =>
        notSkipped ((sameSkipped key isUnknown).2 isSkipped)⟩

/-- Two bodies that send the fields that are not hidden as they are, and the hidden
ones alike, are the same upstream if the fields that are sent agree. -/
theorem sameUpstream_iff_of_hidden
    {hidden : List String}
    {firstBody secondBody firstSent secondSent : List (String × Json)}
    (hidesUser : "user" ∈ hidden)
    (hidesOptions : "stream_options" ∈ hidden)
    (alike : ∀ key, key ≠ "stream_options" → key ∈ hidden →
      key = "user" ∨ firstBody.lookup key = secondBody.lookup key)
    (sent : ∀ key, key ∉ hidden →
      firstBody.lookup key = firstSent.lookup key ∧
        secondBody.lookup key = secondSent.lookup key) :
    SameUpstream firstBody secondBody ↔
      ∀ key, key ∉ hidden →
        Agrees (firstSent.lookup key) (secondSent.lookup key) := by
  constructor
  · intro same key isSent
    have notUser : key ≠ "user" := fun isUser => isSent (isUser ▸ hidesUser)
    have notOptions : key ≠ "stream_options" := fun isOptions =>
      isSent (isOptions ▸ hidesOptions)
    have sameField := same key notUser notOptions
    rwa [(sent key isSent).1, (sent key isSent).2] at sameField
  · intro same key notUser notOptions
    by_cases isHidden : key ∈ hidden
    · rw [(alike key notOptions isHidden).resolve_left notUser]
      exact fun _ => rfl
    · rw [(sent key isHidden).1, (sent key isHidden).2]
      exact same key isHidden

variable
  (firstEligible : Eligible first.request)
  (secondEligible : Eligible second.request)
  (agree : AgreeOnKey localeCompare first.request second.request)

include firstEligible secondEligible agree

theorem sameUpstream_openAI_iff (model : String) :
    SameUpstream
        (OpenAIProvider.buildChatBody (first.forwarded model) false)
        (OpenAIProvider.buildChatBody (second.forwarded model) false) ↔
      AgreeUnhashed [] first second := by
  have hides : AgreeUnhashed ["user", "stream", "stream_options"] first second ↔
      AgreeUnhashed [] first second := by
    refine agreeUnhashed_congr fun key isUnknown => ?_
    refine iff_of_false (fun isHidden => isUnknown ?_) List.not_mem_nil
    have areKnown : ∀ key ∈ ["user", "stream", "stream_options"],
        key ∈ knownKeys := by decide
    exact areKnown key isHidden
  rw [← hides, ← agrees_forwarded_iff model firstEligible secondEligible agree
    (by decide) fun _ => id]
  apply sameUpstream_iff_of_hidden (by decide) (by decide)
  · intro key notOptions isHidden
    simp only [List.mem_cons, List.not_mem_nil, or_false] at isHidden
    rcases isHidden with isUser | isStream | isOptions
    · exact .inl isUser
    · rw [lookup_openAI_body, lookup_openAI_body, if_neg notOptions,
        if_neg notOptions, if_pos isStream, if_pos isStream]
      exact .inr rfl
    · exact absurd isOptions notOptions
  · intro key isSent
    simp only [List.mem_cons, List.not_mem_nil, or_false, not_or] at isSent
    obtain ⟨-, notStream, notOptions⟩ := isSent
    rw [lookup_openAI_body, lookup_openAI_body, if_neg notOptions,
      if_neg notOptions, if_neg notStream, if_neg notStream]
    exact ⟨rfl, rfl⟩

omit firstEligible secondEligible in
/-- The fields of the two bodies of the Mistral adapter. -/
theorem lookup_mistral_bodies
    (hasSeed : first.request.seed.isSome = true)
    (model : String) :
    ∃ seed : Json, ∀ key,
      (MistralProvider.buildChatBody (first.forwarded model) false).lookup key =
          (if key = "seed" ∨ key = "stream_options" ∨ key ∈ unsupportedFields
          then none
          else if key = "random_seed" then some seed
          else (OpenAIProvider.buildChatBody (first.forwarded model)
            false).lookup key) ∧
        (MistralProvider.buildChatBody (second.forwarded model) false).lookup
            key =
          if key = "seed" ∨ key = "stream_options" ∨ key ∈ unsupportedFields
          then none
          else if key = "random_seed" then some seed
          else (OpenAIProvider.buildChatBody (second.forwarded model)
            false).lookup key := by
  obtain ⟨seed, seedEq⟩ := Option.isSome_iff_exists.1 hasSeed
  have lookupSeed {parsed : PassthroughRequest}
      (isSeed : parsed.request.seed = some seed) :
      (parsed.forwarded model).lookup "seed" = some (.number seed) := by
    rw [lookup_forwarded_of_known model (by decide)]
    exact congrArg (Option.map Json.number) isSeed
  exact ⟨.number seed, fun key =>
    ⟨lookup_mistral_body (lookupSeed seedEq) key,
      lookup_mistral_body (lookupSeed (agree.seed ▸ seedEq)) key⟩⟩

theorem sameUpstream_mistral_iff
    (hasSeed : first.request.seed.isSome = true)
    (model : String) :
    SameUpstream
        (MistralProvider.buildChatBody (first.forwarded model) false)
        (MistralProvider.buildChatBody (second.forwarded model) false) ↔
      AgreeUnhashed ["random_seed"] first second := by
  let hidden : List String :=
    ["user", "stream", "stream_options", "random_seed", "seed"] ++
      unsupportedFields
  have hides : AgreeUnhashed hidden first second ↔
      AgreeUnhashed ["random_seed"] first second := by
    refine agreeUnhashed_congr fun key isUnknown => ⟨fun isHidden => ?_, ?_⟩
    · have areKnown : ∀ key ∈ hidden, key ∈ knownKeys ∨ key ∈ ["random_seed"] :=
        by decide
      exact (areKnown key isHidden).resolve_left isUnknown
    · have isHidden : ∀ key ∈ ["random_seed"], key ∈ hidden := by decide
      exact isHidden key
  obtain ⟨seed, body⟩ := lookup_mistral_bodies agree hasSeed model
  rw [← hides, ← agrees_forwarded_iff model firstEligible secondEligible agree
    (by decide) (by decide)]
  apply sameUpstream_iff_of_hidden (by decide) (by decide)
  · intro key notOptions isHidden
    rw [(body key).1, (body key).2]
    by_cases removed :
        key = "seed" ∨ key = "stream_options" ∨ key ∈ unsupportedFields
    · rw [if_pos removed, if_pos removed]
      exact .inr rfl
    · rw [if_neg removed, if_neg removed]
      simp only [not_or] at removed
      simp only [hidden, List.mem_append, List.mem_cons, List.not_mem_nil,
        or_false] at isHidden
      rcases isHidden with (isUser | isStream | isOptions | isRandom | isSeed) |
        isUnsupported
      · exact .inl isUser
      · have notRandom : ¬ key = "random_seed" := by
          rw [isStream]
          decide
        rw [if_neg notRandom, if_neg notRandom, lookup_openAI_body,
          lookup_openAI_body, if_neg notOptions, if_neg notOptions,
          if_pos isStream, if_pos isStream]
        exact .inr rfl
      · exact absurd isOptions notOptions
      · rw [if_pos isRandom, if_pos isRandom]
        exact .inr rfl
      · exact absurd isSeed removed.1
      · exact absurd isUnsupported removed.2.2
  · intro key isSent
    simp only [hidden, List.mem_append, List.mem_cons, List.not_mem_nil,
      or_false, not_or] at isSent
    obtain ⟨⟨-, notStream, notOptions, notRandom, notSeed⟩, supported⟩ := isSent
    have kept : ¬ (key = "seed" ∨ key = "stream_options" ∨
        key ∈ unsupportedFields) := by
      rintro (isSeed | isOptions | isUnsupported)
      · exact notSeed isSeed
      · exact notOptions isOptions
      · exact supported isUnsupported
    rw [(body key).1, (body key).2, if_neg kept, if_neg kept, if_neg notRandom,
      if_neg notRandom, lookup_openAI_body, lookup_openAI_body,
      if_neg notOptions, if_neg notOptions, if_neg notStream, if_neg notStream]
    exact ⟨rfl, rfl⟩

end Agreement

theorem isSome_seed_of_isEligible
    {cacheEnabled : Bool}
    {request : ChatCompletionRequest}
    (isEligible : isEligible cacheEnabled request = true) :
    request.seed.isSome = true := by
  unfold Cache.isEligible at isEligible
  split_ifs at isEligible with _ _ _ _ noSeed
  cases seedEq : request.seed with
  | none => simp [seedEq] at noSeed
  | some seed => rfl

/-- Requests that may be cached and have the same key are the same request to
OpenAI exactly when they agree on the two limits, on the choice of a tool, on
sending an empty list of tools and on every parameter that the schema does not
name; and likewise to Mistral, where a parameter `random_seed` is overwritten. -/
theorem sameUpstream_iff_agreeUnhashed
    (localeCompare : String → String → Ordering)
    (cacheEnabled : Bool)
    (model : String)
    (first second : PassthroughRequest)
    (firstEligible : isEligible cacheEnabled first.request = true)
    (secondEligible : isEligible cacheEnabled second.request = true)
    (sameKey :
      canonicalKey localeCompare first.request =
        canonicalKey localeCompare second.request) :
    (SameUpstream
        (OpenAIProvider.buildChatBody (first.forwarded model) false)
        (OpenAIProvider.buildChatBody (second.forwarded model) false) ↔
      AgreeUnhashed [] first second) ∧
    (SameUpstream
        (MistralProvider.buildChatBody (first.forwarded model) false)
        (MistralProvider.buildChatBody (second.forwarded model) false) ↔
      AgreeUnhashed ["random_seed"] first second) := by
  have agree := agreeOnKey_of_canonicalKey_eq sameKey
  have firstFacts := eligible_of_isEligible firstEligible
  have secondFacts := eligible_of_isEligible secondEligible
  exact ⟨sameUpstream_openAI_iff firstFacts secondFacts agree model,
    sameUpstream_mistral_iff firstFacts secondFacts agree
      (isSome_seed_of_isEligible firstEligible) model⟩

section Samples

theorem plain_of_no_child
    {value : Json}
    (noObject : ∀ entries, value ≠ .object entries)
    (noChild : ∀ step, value.child step = none) : Plain value := by
  intro path entries found
  cases path with
  | nil => exact absurd (Option.some.inj found) (noObject entries)
  | cons step path =>
      rw [Json.follow, noChild] at found
      cases found

theorem plain_string (value : String) : Plain (.string value) :=
  plain_of_no_child nofun (by rintro (_ | _) <;> rfl)

theorem plain_number (value : Decimal) : Plain (.number value) :=
  plain_of_no_child nofun (by rintro (_ | _) <;> rfl)

theorem plain_array
    {elements : List Json}
    (plain : ∀ element ∈ elements, Plain element) :
    Plain (.array elements) := by
  intro path entries found
  rcases path with _ | ⟨name | position, path⟩
  · cases found
  · cases found
  · obtain ⟨element, isElement, found⟩ := Option.bind_eq_some_iff.1 found
    exact plain element (List.mem_of_getElem? isElement) path entries found

theorem plain_object
    {entries : List (String × Json)}
    (plainKeys : PlainKeys entries)
    (plain : ∀ entry ∈ entries, Plain entry.2) :
    Plain (.object entries) := by
  intro path others found
  rcases path with _ | ⟨name | position, path⟩
  · cases found
    exact plainKeys
  · obtain ⟨value, isValue, found⟩ := Option.bind_eq_some_iff.1 found
    exact plain (name, value)
      ((Json.lookup_eq_some_iff_mem plainKeys.distinct).1 isValue) path others
      found
  · cases found

/-- The properties of a request for a greeting are plain. -/
theorem plain_greeting (user : Option String) (topK : Decimal) :
    Plain (.object
      (("model", .string "gpt-4o") ::
        ("messages", .array [.object
          [("role", .string "user"), ("content", .string "Hello")]]) ::
        ("temperature", .number 0) ::
        (optionalEntry "user" (user.map .string) ++
          [("seed", .number 1), ("top_k", .number topK)]))) := by
  have plainMessage : Plain (.array [.object
      [("role", .string "user"), ("content", .string "Hello")]]) := by
    refine plain_array ?_
    rw [List.forall_mem_singleton]
    exact plain_object (plainKeys_pair _ _ (by decide))
      (by simp [plain_string])
  refine plain_object ?_ ?_
  · cases user <;> constructor <;> simp [optionalEntry]
  · cases user <;>
      simp [optionalEntry, plain_string, plain_number, plainMessage]

/-- A request that may be cached, with a parameter that the schema does not
name. -/
def sampledRequest (user : Option String) (topK : Decimal) :
    PassthroughRequest where
  request :=
    { model := "gpt-4o"
      messages := [.user (.string "Hello") none]
      temperature := some 0
      seed := some 1
      user := user }
  extra := [("top_k", .number topK)]
  unknown := by
    rw [List.forall_mem_singleton]
    change "top_k" ∉ knownKeys
    decide
  plain := by
    have plain := plain_greeting user topK
    cases user <;> exact plain

/-- The user is not hashed, and need not be. -/
theorem sameUpstream_of_other_user :
    SameUpstream
        (OpenAIProvider.buildChatBody
          ((sampledRequest none 1).forwarded "gpt-4o") false)
        (OpenAIProvider.buildChatBody
          ((sampledRequest (some "alice") 1).forwarded "gpt-4o") false) ∧
      SameUpstream
        (MistralProvider.buildChatBody
          ((sampledRequest none 1).forwarded "gpt-4o") false)
        (MistralProvider.buildChatBody
          ((sampledRequest (some "alice") 1).forwarded "gpt-4o") false) := by
  have sameBodies := sameUpstream_iff_agreeUnhashed compare true "gpt-4o"
    (sampledRequest none 1) (sampledRequest (some "alice") 1) (by decide)
    (by decide) rfl
  have agree (skipped : List String) : AgreeUnhashed skipped
      (sampledRequest none 1) (sampledRequest (some "alice") 1) :=
    ⟨rfl, rfl, rfl, rfl, fun _ _ _ _ => rfl⟩
  exact ⟨sameBodies.1.2 (agree []), sameBodies.2.2 (agree ["random_seed"])⟩

/-- A parameter that is passed on is not hashed. -/
theorem different_bodies_of_passthrough :
    let two : Decimal := .ofDigit 2 (by decide)
    isEligible true (sampledRequest none 1).request = true ∧
      isEligible true (sampledRequest none two).request = true ∧
      (∀ localeCompare,
        canonicalKey localeCompare (sampledRequest none 1).request =
          canonicalKey localeCompare (sampledRequest none two).request) ∧
      ¬ SameUpstream
        (OpenAIProvider.buildChatBody
          ((sampledRequest none 1).forwarded "gpt-4o") false)
        (OpenAIProvider.buildChatBody
          ((sampledRequest none two).forwarded "gpt-4o") false) ∧
      ¬ SameUpstream
        (MistralProvider.buildChatBody
          ((sampledRequest none 1).forwarded "gpt-4o") false)
        (MistralProvider.buildChatBody
          ((sampledRequest none two).forwarded "gpt-4o") false) := by
  have differ : (1 : Decimal) ≠ .ofDigit 2 (by decide) := by decide
  refine ⟨by decide, by decide, fun _ => rfl, fun same => ?_, fun same => ?_⟩
  · have sameTopK := same "top_k" (by decide) (by decide) []
    rw [lookup_openAI_body, lookup_openAI_body] at sameTopK
    exact differ (Json.Kind.number.inj (Option.some.inj sameTopK))
  · have sameTopK := same "top_k" (by decide) (by decide) []
    have hasSeed (topK : Decimal) : ((sampledRequest none topK).forwarded
        "gpt-4o").lookup "seed" = some (.number 1) := rfl
    rw [lookup_mistral_body (hasSeed _), lookup_mistral_body (hasSeed _),
      lookup_openAI_body, lookup_openAI_body] at sameTopK
    exact differ (Json.Kind.number.inj (Option.some.inj sameTopK))

end Samples

end Cache
end AiGateway
