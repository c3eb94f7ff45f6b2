import AiGateway.Cache.Key

/-!
# What the cache key determines

A translation into JSON is faithful if its canonical form determines what was
translated. Messages are translated faithfully, so requests with the same
canonical key have the same messages, and agree on all the other hashed fields.
-/

namespace AiGateway
namespace Cache

open Foundations (Decimal Json)
open OpenAI

-- `left.localeCompare(right)`
variable (localeCompare : String → String → Ordering)

section Canonical

/-- Objects with the same canonical form agree on every property. -/
theorem lookup_eq_of_canonical_eq
    {first second : List (String × Json)}
    (firstPlain : PlainKeys first)
    (secondPlain : PlainKeys second)
    (sameForm :
      canonical localeCompare (.object first) =
        canonical localeCompare (.object second))
    (key : String) :
    (first.lookup key).map (canonical localeCompare) =
      (second.lookup key).map (canonical localeCompare) := by
  rw [← get_canonical_object localeCompare firstPlain, sameForm,
    get_canonical_object localeCompare secondPlain]

end Canonical

/-- The canonical form of a translated value determines the value. -/
def Faithful (toJson : α → Json) : Prop :=
  ∀ ⦃first second : α⦄,
    canonical localeCompare (toJson first) =
      canonical localeCompare (toJson second) → first = second

section Faithful

variable {localeCompare}

theorem faithful_string : Faithful localeCompare Json.string :=
  fun _ _ sameForm => Json.string.inj sameForm

theorem faithful_number : Faithful localeCompare Json.number :=
  fun _ _ sameForm => Json.number.inj sameForm

/-- A list of faithfully translated values. -/
theorem Faithful.array
    {toJson : α → Json}
    (faithful : Faithful localeCompare toJson) :
    Faithful localeCompare fun list : List α => Json.array (list.map toJson) := by
  intro first second sameForm
  rw [canonical_array, canonical_array, List.map_map, List.map_map] at sameForm
  exact List.map_injective_iff.2 (fun _ _ sameElement => faithful sameElement)
    (Json.array.inj sameForm)

/-- An optional value under a key of an object. -/
theorem Faithful.map
    {toJson : α → Json}
    (faithful : Faithful localeCompare toJson)
    {first second : Option α}
    (sameForm :
      (first.map toJson).map (canonical localeCompare) =
        (second.map toJson).map (canonical localeCompare)) :
    first = second := by
  rw [Option.map_map, Option.map_map] at sameForm
  exact Option.map_injective (fun _ _ sameValue => faithful sameValue) sameForm

/-- An optional value with `null` in its place. -/
theorem Faithful.orNull
    {toJson : α → Json}
    (faithful : Faithful localeCompare toJson)
    (notNull : ∀ value, canonical localeCompare (toJson value) ≠ .null) :
    Faithful localeCompare fun value : Option α => orNull (value.map toJson) := by
  intro first second sameForm
  cases first with
  | none =>
      cases second with
      | none => rfl
      | some value => exact absurd sameForm.symm (notNull value)
  | some value =>
      cases second with
      | none => exact absurd sameForm (notNull value)
      | some other => exact congrArg some (faithful sameForm)

end Faithful

section Messages

variable {localeCompare}

@[simp] theorem lookup_optionalEntry
    (key other : String)
    (value : Option Json) :
    (optionalEntry key value).lookup other =
      if other = key then value else none := by
  cases value with
  | none => simp [optionalEntry]
  | some value => exact Json.lookup_cons_eq

theorem faithful_imageDetail : Faithful localeCompare ImageDetail.toJson := by
  intro first second sameForm
  cases first <;> cases second <;>
    first
    | rfl
    | exact absurd (Json.string.inj sameForm) (by decide)

theorem plainKeys_pair
    {first second : String}
    (value other : Json)
    (areKeys :
      first ≠ second ∧ first ≠ "__proto__" ∧ second ≠ "__proto__") :
    PlainKeys [(first, value), (second, other)] := by
  constructor <;> simp [areKeys]

theorem plainKeys_image (url : Json) (detail : Option Json) :
    PlainKeys (("url", url) :: optionalEntry "detail" detail) := by
  cases detail <;> constructor <;> simp [optionalEntry]

theorem faithful_contentPart : Faithful localeCompare ContentPart.toJson := by
  intro first second sameForm
  cases first with
  | text words =>
      cases second with
      | text otherWords =>
          have sameWords := lookup_eq_of_canonical_eq localeCompare
            (plainKeys_pair _ _ (by decide)) (plainKeys_pair _ _ (by decide))
            sameForm "text"
          exact congrArg _ (Json.string.inj (Option.some.inj sameWords))
      | imageUrl url detail =>
          have sameType := lookup_eq_of_canonical_eq localeCompare
            (plainKeys_pair _ _ (by decide)) (plainKeys_pair _ _ (by decide))
            sameForm "type"
          exact absurd (Json.string.inj (Option.some.inj sameType)) (by decide)
  | imageUrl url detail =>
      cases second with
      | text otherWords =>
          have sameType := lookup_eq_of_canonical_eq localeCompare
            (plainKeys_pair _ _ (by decide)) (plainKeys_pair _ _ (by decide))
            sameForm "type"
          exact absurd (Json.string.inj (Option.some.inj sameType)) (by decide)
      | imageUrl otherUrl otherDetail =>
          have sameImage := lookup_eq_of_canonical_eq localeCompare
            (plainKeys_pair _ _ (by decide)) (plainKeys_pair _ _ (by decide))
            sameForm "image_url"
          have sameField := lookup_eq_of_canonical_eq localeCompare
            (plainKeys_image _ _) (plainKeys_image _ _)
            (Option.some.inj sameImage)
          have sameUrl := Json.string.inj (Option.some.inj (sameField "url"))
          have sameDetail : detail = otherDetail := by
            have := sameField "detail"
            rw [Json.lookup_cons_eq, Json.lookup_cons_eq, if_neg (by decide),
              if_neg (by decide), lookup_optionalEntry, lookup_optionalEntry,
              if_pos rfl, if_pos rfl] at this
            exact faithful_imageDetail.map this
          rw [sameUrl, sameDetail]

theorem faithful_messageContent :
    Faithful localeCompare MessageContent.toJson := by
  intro first second sameForm
  cases first with
  | string text =>
      cases second with
      | string otherText => exact congrArg _ (faithful_string sameForm)
      | parts others =>
          rw [MessageContent.toJson, MessageContent.toJson, canonical_array]
            at sameForm
          cases sameForm
  | parts parts =>
      cases second with
      | string otherText =>
          rw [MessageContent.toJson, MessageContent.toJson, canonical_array]
            at sameForm
          cases sameForm
      | parts others =>
          exact congrArg _ (faithful_contentPart.array sameForm)

theorem toContent_injective : Function.Injective TextContent.toContent := by
  intro first second sameContent
  cases first with
  | string text =>
      cases second with
      | string otherText =>
          exact congrArg _ (MessageContent.string.inj sameContent)
      | parts texts => cases sameContent
  | parts texts =>
      cases second with
      | string text => cases sameContent
      | parts otherTexts =>
          have sameParts := MessageContent.parts.inj sameContent
          exact congrArg _ (List.map_injective_iff.2
            (fun _ _ sameText => ContentPart.text.inj sameText) sameParts)

theorem faithful_textContent : Faithful localeCompare TextContent.toJson :=
  fun _ _ sameForm => toContent_injective (faithful_messageContent sameForm)

theorem faithful_functionCall :
    Faithful localeCompare FunctionCall.toJson := by
  intro first second sameForm
  have sameField := lookup_eq_of_canonical_eq localeCompare
    (plainKeys_pair _ _ (by decide)) (plainKeys_pair _ _ (by decide)) sameForm
  have sameName := Json.string.inj (Option.some.inj (sameField "name"))
  have sameArguments :=
    Json.string.inj (Option.some.inj (sameField "arguments"))
  cases first
  cases second
  cases sameName
  cases sameArguments
  rfl

theorem plainKeys_toolCall (id kind function : Json) :
    PlainKeys [("id", id), ("type", kind), ("function", function)] := by
  constructor <;> simp

theorem faithful_toolCall : Faithful localeCompare ToolCall.toJson := by
  intro first second sameForm
  have sameField := lookup_eq_of_canonical_eq localeCompare
    (plainKeys_toolCall _ _ _) (plainKeys_toolCall _ _ _) sameForm
  have sameId := Json.string.inj (Option.some.inj (sameField "id"))
  have sameFunction :=
    faithful_functionCall (Option.some.inj (sameField "function"))
  cases first
  cases second
  cases sameId
  cases sameFunction
  rfl

theorem plainKeys_entries (message : ChatMessage) :
    PlainKeys message.entries := by
  cases message with
  | system content name =>
      cases name <;> constructor <;> simp [ChatMessage.entries, optionalEntry]
  | user content name =>
      cases name <;> constructor <;> simp [ChatMessage.entries, optionalEntry]
  | assistant content name toolCalls =>
      cases content <;> cases name <;> cases toolCalls <;> constructor <;>
        simp [ChatMessage.entries, optionalEntry]
  | tool content toolCallId => constructor <;> simp [ChatMessage.entries]

theorem lookup_name (role content : Json) (name : Option Json) :
    (("role", role) :: ("content", content) ::
      optionalEntry "name" name).lookup "name" = name := by
  rw [Json.lookup_cons_eq, Json.lookup_cons_eq, if_neg (by decide),
    if_neg (by decide), lookup_optionalEntry, if_pos rfl]

/-- The optional properties of an assistant message. -/
theorem lookup_assistant
    (role : Json)
    (content name calls : Option Json)
    (key : String)
    (notRole : key ≠ "role") :
    (("role", role) ::
        (optionalEntry "content" content ++ optionalEntry "name" name ++
          optionalEntry "tool_calls" calls)).lookup key =
      if key = "content" then content
      else if key = "name" then name
      else if key = "tool_calls" then calls
      else none := by
  rw [Json.lookup_cons_eq, if_neg notRole, List.lookup_append,
    List.lookup_append, lookup_optionalEntry, lookup_optionalEntry,
    lookup_optionalEntry]
  split_ifs <;> simp_all

theorem canonical_textContent_ne_null (content : TextContent) :
    canonical localeCompare content.toJson ≠ .null := by
  cases content with
  | string text => exact fun isNull => by cases isNull
  | parts texts =>
      change canonical localeCompare (.array _) ≠ .null
      rw [canonical_array]
      exact fun isNull => by cases isNull

/-- A message is determined by the canonical form of its object. -/
theorem faithful_chatMessage : Faithful localeCompare ChatMessage.toJson := by
  intro first second sameForm
  have sameField := lookup_eq_of_canonical_eq localeCompare
    (plainKeys_entries first) (plainKeys_entries second) sameForm
  have sameRole := sameField "role"
  have sameContent := sameField "content"
  have sameName := sameField "name"
  have sameCalls := sameField "tool_calls"
  have sameId := sameField "tool_call_id"
  cases first <;> cases second <;>
    first
    | exact absurd (Json.string.inj (Option.some.inj sameRole)) (by decide)
    | skip
  case system.system content name otherContent otherName =>
    cases faithful_textContent (Option.some.inj sameContent)
    simp only [ChatMessage.entries, lookup_name] at sameName
    cases faithful_string.map sameName
    rfl
  case user.user content name otherContent otherName =>
    cases faithful_messageContent (Option.some.inj sameContent)
    simp only [ChatMessage.entries, lookup_name] at sameName
    cases faithful_string.map sameName
    rfl
  case assistant.assistant content name calls otherContent otherName
      otherCalls =>
    simp only [ChatMessage.entries] at sameContent sameName sameCalls
    rw [lookup_assistant _ _ _ _ _ (by decide),
      lookup_assistant _ _ _ _ _ (by decide)] at sameContent sameName sameCalls
    have faithfulContent : Faithful localeCompare
        fun content : Option TextContent =>
          orNull (content.map TextContent.toJson) :=
      faithful_textContent.orNull canonical_textContent_ne_null
    cases faithfulContent.map sameContent
    cases faithful_string.map sameName
    cases faithful_toolCall.array.map sameCalls
    rfl
  case tool.tool content id otherContent otherId =>
    cases faithful_textContent (Option.some.inj sameContent)
    cases Json.string.inj (Option.some.inj sameId)
    rfl

end Messages

section Requests

/-- The fields of two requests that the key hashes are the same, the free-form
ones up to their canonical form. -/
structure AgreeOnKey (first second : ChatCompletionRequest) : Prop where
  model : first.model = second.model
  messages : first.messages = second.messages
  topP : first.topP = second.topP
  maxTokens :
    (first.maxTokens <|> first.maxCompletionTokens) =
      (second.maxTokens <|> second.maxCompletionTokens)
  seed : first.seed = second.seed
  stop : first.stop = second.stop
  n : first.n = second.n
  presencePenalty : first.presencePenalty = second.presencePenalty
  frequencyPenalty : first.frequencyPenalty = second.frequencyPenalty
  logitBias :
    canonical localeCompare (orNull (first.logitBias.map .object)) =
      canonical localeCompare (orNull (second.logitBias.map .object))
  responseFormat :
    canonical localeCompare (orNull (first.responseFormat.map .object)) =
      canonical localeCompare (orNull (second.responseFormat.map .object))

variable {localeCompare}

theorem faithful_stop : Faithful localeCompare Stop.toJson := by
  intro first second sameForm
  cases first with
  | string sequence =>
      cases second with
      | string other => exact congrArg _ (faithful_string sameForm)
      | list others =>
          rw [Stop.toJson, Stop.toJson, canonical_array] at sameForm
          cases sameForm
  | list sequences =>
      cases second with
      | string other =>
          rw [Stop.toJson, Stop.toJson, canonical_array] at sameForm
          cases sameForm
      | list others => exact congrArg _ (faithful_string.array sameForm)

theorem canonical_stop_ne_null (stop : Stop) :
    canonical localeCompare stop.toJson ≠ .null := by
  cases stop with
  | string sequence => exact fun isNull => by cases isNull
  | list sequences =>
      rw [Stop.toJson, canonical_array]
      exact fun isNull => by cases isNull

theorem faithful_orNull_number :
    Faithful localeCompare fun value : Option Decimal =>
      orNull (value.map .number) :=
  faithful_number.orNull fun _ isNull => by cases isNull

theorem plainKeys_keyFields (request : ChatCompletionRequest) :
    PlainKeys (keyFields request) where
  distinct := by
    change List.Nodup ["model", "messages", "top_p", "max_tokens", "seed",
      "stop", "n", "presence_penalty", "frequency_penalty", "logit_bias",
      "response_format"]
    decide
  noPrototype := by simp [keyFields]

/-- Requests whose keys hash the same text agree on all the hashed fields. -/
theorem agreeOnKey_of_canonicalKey_eq
    {first second : ChatCompletionRequest}
    (sameKey :
      canonicalKey localeCompare first = canonicalKey localeCompare second) :
    AgreeOnKey localeCompare first second := by
  have sameField (key : String) := lookup_eq_of_canonical_eq localeCompare
    (plainKeys_keyFields first) (plainKeys_keyFields second)
    (canonical_eq_of_canonicalStringify_eq localeCompare sameKey) key
  have faithfulStop : Faithful localeCompare fun value : Option Stop =>
      orNull (value.map Stop.toJson) :=
    faithful_stop.orNull canonical_stop_ne_null
  constructor
  · exact faithful_string (Option.some.inj (sameField "model"))
  · exact faithful_chatMessage.array (Option.some.inj (sameField "messages"))
  · exact faithful_orNull_number (Option.some.inj (sameField "top_p"))
  · exact faithful_orNull_number (Option.some.inj (sameField "max_tokens"))
  · exact faithful_orNull_number (Option.some.inj (sameField "seed"))
  · exact faithfulStop (Option.some.inj (sameField "stop"))
  · exact faithful_orNull_number (Option.some.inj (sameField "n"))
  · exact faithful_orNull_number
      (Option.some.inj (sameField "presence_penalty"))
  · exact faithful_orNull_number
      (Option.some.inj (sameField "frequency_penalty"))
  · exact Option.some.inj (sameField "logit_bias")
  · exact Option.some.inj (sameField "response_format")

end Requests

end Cache
end AiGateway
