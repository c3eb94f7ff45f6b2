import AiGateway.Errors
import AiGateway.Foundations.Json
import AiGateway.OpenAI.Tokens

/-!
# Embedding requests

The input of an embedding request is a string, a list of strings, a list of
token ids or a list of such lists. The adapters of Gemini and Cohere walk over
it item by item and send one text for each item. This module compares the texts
they send, and the embeddings they return, with the inputs that the union
denotes.
-/

namespace AiGateway
namespace Providers

open Foundations (Decimal Json)
open OpenAI

section Input

/-- A list that passes `.min(1)`. -/
abbrev FilledList (α : Type) := { list : List α // list ≠ [] }

/-- A number that passes `.int()`. -/
structure TokenId where
  number : Decimal
  isInt : ∃ integer : Int, number.value = integer

/-- `embeddingRequestSchema.input`. -/
inductive EmbeddingInput
  | string (value : String)
  | strings (values : FilledList String)
  | tokenIds (ids : FilledList TokenId)
  | tokenLists (lists : FilledList (FilledList TokenId))

/-- An item of the input, as `typeof` tells them apart. -/
inductive InputItem
  | string (value : String)
  | number (id : TokenId)
  | array (ids : List TokenId)

/-- What `for (const item of input)` visits; a string is not walked over. -/
def EmbeddingInput.items : EmbeddingInput → List InputItem
  | .string _ => []
  | .strings values => values.1.map .string
  | .tokenIds ids => ids.1.map .number
  | .tokenLists lists => lists.1.map fun ids => .array ids.1

/-- `String(item)`. -/
def TokenId.toText (id : TokenId) : String := String.ofList id.number.text

/-- `item.join(' ')`. -/
def joinIds (ids : List TokenId) : String :=
  String.intercalate " " (ids.map TokenId.toText)

/-- The text that is pushed for an item. -/
def InputItem.toText : InputItem → String
  | .string value => value
  | .number id => id.toText
  | .array ids => joinIds ids

/-- The texts of an input, in the code that both adapters have. -/
def inputStrings (input : EmbeddingInput) : List String :=
  match input with
  | .string value => [value]
  | walked => walked.items.map InputItem.toText

/-- `embeddingInputToStrings` of `gemini.ts`. -/
def Gemini.embeddingInputToStrings : EmbeddingInput → List String :=
  inputStrings

/-- `embeddingInputToStrings` of `cohere.ts`. -/
def Cohere.embeddingInputToStrings : EmbeddingInput → List String :=
  inputStrings

/-- One input of a request: a text, or a text given by its tokens. -/
inductive DenotedInput
  | text (value : String)
  | tokens (ids : List TokenId)

/-- The inputs that the union denotes: a single list of token ids is one. -/
def EmbeddingInput.denoted : EmbeddingInput → List DenotedInput
  | .string value => [.text value]
  | .strings values => values.1.map .text
  | .tokenIds ids => [.tokens ids.1]
  | .tokenLists lists => lists.1.map fun ids => .tokens ids.1

/-- The text that stands for an input: its own, or its tokens in a row. -/
def DenotedInput.toText : DenotedInput → String
  | .text value => value
  | .tokens ids => joinIds ids

/-- `countOne(text)`. -/
def countOne (tokenizer : Tokenizer) (model text : String) : Nat :=
  if isOpenAITokenizable tokenizer model then
    tokenizer.encode (encodingForModel tokenizer model) text
  else
    approximateTextTokens text

/-- What the counter adds for an item. -/
def InputItem.tokens
    (tokenizer : Tokenizer)
    (model : String) : InputItem → Nat
  | .string value => countOne tokenizer model value
  | .number _ => 1
  | .array ids => ids.length

/-- `countEmbeddingTokens(input, model)`. -/
def countEmbeddingTokens
    (tokenizer : Tokenizer)
    (input : EmbeddingInput)
    (model : String) : Nat :=
  match input with
  | .string value => countOne tokenizer model value
  | walked => (walked.items.map (InputItem.tokens tokenizer model)).sum

/-- The tokens of an input. -/
def DenotedInput.tokenCount
    (tokenizer : Tokenizer)
    (model : String) : DenotedInput → Nat
  | .text value => countOne tokenizer model value
  | .tokens ids => ids.length

/-- The token counter reads the union as it is meant: a list of token ids counts
as much alone as it does as the only one of a list. -/
theorem countEmbeddingTokens_eq
    (tokenizer : Tokenizer)
    (input : EmbeddingInput)
    (model : String) :
    countEmbeddingTokens tokenizer input model =
      (input.denoted.map (DenotedInput.tokenCount tokenizer model)).sum := by
  cases input with
  | string value => exact (Nat.add_zero _).symm
  | strings values =>
      simp [countEmbeddingTokens, EmbeddingInput.items, EmbeddingInput.denoted,
        Function.comp_def, InputItem.tokens, DenotedInput.tokenCount]
  | tokenIds ids =>
      simp [countEmbeddingTokens, EmbeddingInput.items, EmbeddingInput.denoted,
        Function.comp_def, InputItem.tokens, DenotedInput.tokenCount,
        List.map_const']
  | tokenLists lists =>
      simp [countEmbeddingTokens, EmbeddingInput.items, EmbeddingInput.denoted,
        Function.comp_def, InputItem.tokens, DenotedInput.tokenCount]

/-- One text for each input, in order, unless a list of token ids does not have
exactly one. -/
theorem inputStrings_eq_iff (input : EmbeddingInput) :
    inputStrings input = input.denoted.map DenotedInput.toText ↔
      ∀ ids, input = .tokenIds ids → ids.1.length = 1 := by
  cases input with
  | string value => exact iff_of_true rfl (by rintro ids ⟨⟩)
  | strings values =>
      refine iff_of_true ?_ (by rintro ids ⟨⟩)
      simp [inputStrings, EmbeddingInput.items, EmbeddingInput.denoted,
        Function.comp_def, InputItem.toText, DenotedInput.toText]
  | tokenLists lists =>
      refine iff_of_true ?_ (by rintro ids ⟨⟩)
      simp [inputStrings, EmbeddingInput.items, EmbeddingInput.denoted,
        Function.comp_def, InputItem.toText, DenotedInput.toText]
  | tokenIds ids =>
      constructor
      · rintro same other ⟨⟩
        have lengths := congrArg List.length same
        simpa [inputStrings, EmbeddingInput.items, EmbeddingInput.denoted]
          using lengths
      · intro single
        obtain ⟨id, isSingle⟩ := List.length_eq_one_iff.1 (single ids rfl)
        simp [inputStrings, EmbeddingInput.items, EmbeddingInput.denoted,
          isSingle, InputItem.toText, DenotedInput.toText, joinIds]

end Input

section Exchange

/-- The fields of an embedding request that the adapters read. -/
structure EmbeddingRequest where
  model : String
  input : EmbeddingInput
  dimensions : Option Decimal := none

/-- An element of the `data` of an embedding response. -/
structure EmbeddingData where
  index : Nat
  embedding : List Json

/-- The embedding response of an adapter; its total tokens are its prompt
tokens. -/
structure AdapterEmbedding where
  data : List EmbeddingData
  model : String
  promptTokens : Nat

/-- `typeof item === 'number'`. -/
def isNumber : Json → Bool
  | .number _ => true
  | .infinity _ => true
  | _ => false

/-- `toNumberArray(value)`. -/
def toNumberArray (value : Option Json) : List Json :=
  match value with
  | some (.array elements) => elements.filter isNumber
  | _ => []

/-- What an adapter does in its own way: the texts it makes of an input, the body
of its request, and where the answer has its rows and a row its vector. -/
structure EmbeddingApi where
  embeddingInputToStrings : EmbeddingInput → List String
  body : EmbeddingRequest → List String → Json
  rows : Json → Option (List Json)
  vector : Json → Option Json
  unexpectedShape : String

/-- An element of `requests` of Gemini. -/
def geminiEmbedRequest (request : EmbeddingRequest) (text : String) : Json :=
  .object (
    [("model", .string ("models/" ++ request.model)),
      ("content", .object
        [("parts", .array [.object [("text", .string text)]])])] ++
      (request.dimensions.map fun dimensions =>
        ("outputDimensionality", .number dimensions)).toList)

/-- `POST …:batchEmbedContents`. -/
def geminiEmbeddings : EmbeddingApi where
  embeddingInputToStrings := Gemini.embeddingInputToStrings
  body request texts :=
    .object [("requests", .array (texts.map (geminiEmbedRequest request)))]
  rows raw :=
    match raw.get "embeddings" with
    | some (.array rows) => some rows
    | _ => none
  vector row := row.get "values"
  unexpectedShape := "Gemini returned an unexpected response shape."

/-- `POST /v2/embed`. -/
def cohereEmbeddings : EmbeddingApi where
  embeddingInputToStrings := Cohere.embeddingInputToStrings
  body request texts :=
    .object
      [("model", .string request.model),
        ("texts", .array (texts.map .string)),
        ("input_type", .string "search_document"),
        ("embedding_types", .array [.string "float"])]
  rows raw :=
    match (raw.getRecord "embeddings").bind (Json.get "float") with
    | some (.array rows) => some rows
    | _ => none
  vector row := some row
  unexpectedShape := "Cohere returned an unexpected response shape."

/-- `translateEmbedding(raw, request, texts)`. -/
def EmbeddingApi.translateEmbedding
    (api : EmbeddingApi)
    (providerId : String)
    (tokenizer : Tokenizer)
    (raw : Json)
    (request : EmbeddingRequest)
    (texts : List String) : Except Thrown AdapterEmbedding :=
  match api.rows raw with
  | none =>
      .error (.gateway (.provider api.unexpectedShape 502 providerId (some true)))
  | some rows =>
      .ok {
        data := rows.mapIdx fun index row =>
          { index := index, embedding := toNumberArray (api.vector row) }
        model := request.model
        promptTokens := (texts.map fun text =>
          countChatTokens tokenizer [.user (.string text) none]
            request.model).sum }

/-- `embed(request, signal)`; `upstream` answers the body of the request with
the JSON of its answer, or throws. -/
def EmbeddingApi.embed
    (api : EmbeddingApi)
    (providerId : String)
    (tokenizer : Tokenizer)
    (upstream : Json → Except Thrown Json)
    (request : EmbeddingRequest) : Except Thrown AdapterEmbedding := do
  let texts := api.embeddingInputToStrings request.input
  let raw ← upstream (api.body request texts)
  api.translateEmbedding providerId tokenizer raw request texts

/-- An upstream that answers every request with one row for each text. -/
def EmbeddingApi.AnswersEachText
    (api : EmbeddingApi)
    (upstream : Json → Except Thrown Json) : Prop :=
  ∀ request texts, ∃ raw rows,
    upstream (api.body request texts) = .ok raw ∧
      api.rows raw = some rows ∧ rows.length = texts.length

/-- The two adapters that translate embedding requests. -/
inductive EmbeddingAdapter
  | gemini
  | cohere
  deriving DecidableEq

def EmbeddingAdapter.api : EmbeddingAdapter → EmbeddingApi
  | .gemini => geminiEmbeddings
  | .cohere => cohereEmbeddings

/-- The texts that the body of a request asks embeddings for. -/
def EmbeddingAdapter.textsIn (body : Json) : EmbeddingAdapter → List String
  | .gemini =>
      ((body.get "requests").getD .null).asArray.filterMap fun request =>
        ((request.get "content").bind (Json.get "parts")).bind fun parts =>
          parts.asArray.head?.bind (Json.getString "text")
  | .cohere =>
      ((body.get "texts").getD .null).asArray.filterMap Json.asString

/-- A body carries the texts it is made from. -/
theorem EmbeddingAdapter.textsIn_body
    (adapter : EmbeddingAdapter)
    (request : EmbeddingRequest)
    (texts : List String) :
    adapter.textsIn (adapter.api.body request texts) = texts := by
  cases adapter with
  | gemini =>
      change (texts.map (geminiEmbedRequest request)).filterMap _ = texts
      rw [List.filterMap_map]
      exact List.filterMap_some
  | cohere =>
      change (texts.map Json.string).filterMap Json.asString = texts
      rw [List.filterMap_map]
      exact List.filterMap_some

/-- Both adapters make the texts of an input by the same code. -/
theorem EmbeddingAdapter.embeddingInputToStrings_eq
    (adapter : EmbeddingAdapter) :
    adapter.api.embeddingInputToStrings = inputStrings := by
  cases adapter <;> rfl

/-- One text goes upstream for each input that the request denotes, in order, and
the answer has one embedding for each, under its index. -/
structure EmbeddingAdapter.OnePerInput
    (adapter : EmbeddingAdapter)
    (providerId : String)
    (tokenizer : Tokenizer)
    (upstream : Json → Except Thrown Json)
    (request : EmbeddingRequest) : Prop where
  sent : adapter.textsIn (adapter.api.body request
      (adapter.api.embeddingInputToStrings request.input)) =
    request.input.denoted.map DenotedInput.toText
  returned : ∃ response,
    adapter.api.embed providerId tokenizer upstream request = .ok response ∧
      response.data.map EmbeddingData.index =
        List.range request.input.denoted.length

/-- The answer has one embedding for each text. -/
theorem EmbeddingApi.exists_embed
    {api : EmbeddingApi}
    {upstream : Json → Except Thrown Json}
    (answers : api.AnswersEachText upstream)
    (providerId : String)
    (tokenizer : Tokenizer)
    (request : EmbeddingRequest) :
    ∃ response, api.embed providerId tokenizer upstream request = .ok response ∧
      response.data.map EmbeddingData.index =
        List.range (api.embeddingInputToStrings request.input).length := by
  obtain ⟨raw, rows, answered, isRows, sameLength⟩ :=
    answers request (api.embeddingInputToStrings request.input)
  have embedded : api.embed providerId tokenizer upstream request =
      api.translateEmbedding providerId tokenizer raw request
        (api.embeddingInputToStrings request.input) := by
    unfold embed
    dsimp only
    rw [answered]
    rfl
  rw [embedded, ← sameLength]
  unfold translateEmbedding
  simp only [isRows]
  refine ⟨_, rfl, ?_⟩
  apply List.ext_getElem
  · simp
  · intro index _ _
    simp

/-- An adapter sends one text and returns one embedding for each input of a
request, unless the input is a list of token ids that does not have exactly
one. -/
theorem onePerInput_iff
    (adapter : EmbeddingAdapter)
    (providerId : String)
    (tokenizer : Tokenizer)
    (upstream : Json → Except Thrown Json)
    (answers : adapter.api.AnswersEachText upstream)
    (request : EmbeddingRequest) :
    adapter.OnePerInput providerId tokenizer upstream request ↔
      ∀ ids, request.input = .tokenIds ids → ids.1.length = 1 := by
  rw [← inputStrings_eq_iff]
  constructor
  · intro onePerInput
    have sent := onePerInput.sent
    rwa [adapter.textsIn_body, adapter.embeddingInputToStrings_eq] at sent
  · intro same
    refine ⟨?_, ?_⟩
    · rw [adapter.textsIn_body, adapter.embeddingInputToStrings_eq, same]
    · have embeds := EmbeddingApi.exists_embed answers providerId tokenizer
        request
      rwa [adapter.embeddingInputToStrings_eq, same, List.length_map] at embeds

end Exchange

section Runs

/-- A row of an answer with an empty vector. -/
def emptyRow : EmbeddingAdapter → Json
  | .gemini => .object [("values", .array [])]
  | .cohere => .array []

/-- An upstream that gives an empty vector for each text. -/
def emptyVectors (adapter : EmbeddingAdapter) (body : Json) :
    Except Thrown Json :=
  let rows := (adapter.textsIn body).map fun _ => emptyRow adapter
  match adapter with
  | .gemini => .ok (.object [("embeddings", .array rows)])
  | .cohere =>
      .ok (.object [("embeddings", .object [("float", .array rows)])])

theorem answersEachText_emptyVectors (adapter : EmbeddingAdapter) :
    adapter.api.AnswersEachText (emptyVectors adapter) := by
  intro request texts
  have rowCount : ((adapter.textsIn (adapter.api.body request texts)).map
      fun _ => emptyRow adapter).length = texts.length := by
    rw [List.length_map, adapter.textsIn_body]
  cases adapter with
  | gemini => exact ⟨_, _, rfl, rfl, rowCount⟩
  | cohere => exact ⟨_, _, rfl, rfl, rowCount⟩

/-- A tokenizer that is not asked for a model with an unknown name. -/
def unaskedTokenizer : Tokenizer where
  toLowerCase := id
  encode _ _ := 0

def tokenOne : TokenId where
  number := 1
  isInt := by
    refine ⟨1, ?_⟩
    change (1 : ℚ) * ((1 : Nat) : ℚ) * 10 ^ (0 : Int) = ((1 : Int) : ℚ)
    norm_num

/-- Two strings give two texts and two embeddings. -/
theorem onePerInput_two_strings :
    EmbeddingAdapter.gemini.OnePerInput "p" unaskedTokenizer
      (emptyVectors .gemini)
      { model := "m", input := .strings ⟨["a", "b"], by decide⟩ } :=
  (onePerInput_iff .gemini "p" unaskedTokenizer (emptyVectors .gemini)
    (answersEachText_emptyVectors .gemini) _).2 (by rintro ids ⟨⟩)

/-- One input of two tokens is sent as two texts, by both adapters. -/
theorem two_texts_for_one_input :
    ¬∀ (adapter : EmbeddingAdapter) (providerId : String)
      (tokenizer : Tokenizer) (upstream : Json → Except Thrown Json)
      (request : EmbeddingRequest),
      adapter.api.AnswersEachText upstream →
      adapter.OnePerInput providerId tokenizer upstream request := by
  intro onePerInput
  have sent := (onePerInput .cohere "p" unaskedTokenizer (emptyVectors .cohere)
    { model := "m", input := .tokenIds ⟨[tokenOne, tokenOne], by simp⟩ }
    (answersEachText_emptyVectors .cohere)).sent
  rw [EmbeddingAdapter.textsIn_body] at sent
  have lengths := congrArg List.length sent
  cases lengths

end Runs

end Providers
end AiGateway
