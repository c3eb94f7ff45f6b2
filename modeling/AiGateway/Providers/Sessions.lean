import AiGateway.Foundations.OrderedMap
import AiGateway.Foundations.Runs
import AiGateway.Providers.AnthropicResponse
import AiGateway.Providers.CohereRequest
import AiGateway.Providers.CohereResponse
import AiGateway.Providers.GeminiResponse
import AiGateway.Providers.Turns

/-!
# Sessions of an agent

An agent sends a conversation, adds the message of the completion and its own answers
to the conversation, and sends it again. The adapter translates the message of the
provider to a completion, and later the completion back to a message for the
provider. After any number of rounds the provider is sent what it said itself: its
texts, put together, and its calls in their order.
-/

namespace AiGateway
namespace OpenAI

/-- `choices[0].message`, as a client sends it back. -/
def ChatCompletion.message (completion : ChatCompletion) : ChatMessage :=
  .assistant (some (completion.content.map .string)) none
    (if completion.toolCalls.isEmpty then none else some completion.toolCalls)

end OpenAI

namespace Providers

open Foundations (Json runFrom runFrom_concat)
open OpenAI

section Sessions

/-- A round of a session: the response of the provider, what the gateway makes up for
it, and what the client adds. -/
structure Round (ρ : Type) where
  response : ρ
  id : String
  created : Nat
  /-- The identifier of the call at a position. -/
  newToolCallId : Nat → String
  replies : List ChatMessage

variable {ρ : Type}
  (translate : Round ρ → ChatCompletionRequest → Except Thrown ChatCompletion)

/-- The request after a round; nothing is added to the conversation when the
response cannot be translated. -/
def nextRequest (request : ChatCompletionRequest) (round : Round ρ) :
    ChatCompletionRequest :=
  match translate round request with
  | .ok completion =>
      { request with
        messages := request.messages ++ completion.message :: round.replies }
  | .error _ => request

/-- The request after some rounds. -/
def requestAfter (request : ChatCompletionRequest) (rounds : List (Round ρ)) :
    ChatCompletionRequest :=
  runFrom (nextRequest translate) request rounds

variable {translate}

/-- A round adds its message and the replies, or nothing. -/
theorem messages_nextRequest
    {echo : Option ChatMessage}
    {round : Round ρ}
    {request : ChatCompletionRequest}
    (said : (translate round request).toOption.map ChatCompletion.message = echo) :
    (nextRequest translate request round).messages =
      request.messages ++ echo.elim [] (· :: round.replies) := by
  rw [← said, nextRequest]
  cases translate round request with
  | ok completion => rfl
  | error thrown => exact (List.append_nil _).symm

/-- The messages of a session are those of its rounds. -/
theorem messages_requestAfter
    {echo : Round ρ → Option ChatMessage}
    (request : ChatCompletionRequest)
    {rounds : List (Round ρ)}
    (said : ∀ round ∈ rounds, ∀ request,
      (translate round request).toOption.map ChatCompletion.message = echo round) :
    (requestAfter translate request rounds).messages =
      request.messages ++ rounds.flatMap fun round =>
        (echo round).elim [] (· :: round.replies) := by
  induction rounds using List.reverseRecOn with
  | nil => exact (List.append_nil _).symm
  | append_singleton rounds round inductionHypothesis =>
      have saidLast := said round (List.mem_append_right _ List.mem_cons_self)
        (requestAfter translate request rounds)
      have before := inductionHypothesis fun earlier isEarlier =>
        said earlier (List.mem_append_left _ isEarlier)
      rw [List.flatMap_append, List.flatMap_singleton, ← List.append_assoc, ← before,
        ← messages_nextRequest saidLast, requestAfter, runFrom_concat]
      rfl

/-- `JSON.parse` reads a value back from what `JSON.stringify` writes for it. -/
def ReadsBack (parse : String → Option Json) (value : Json) : Prop :=
  parse value.stringify = some value.finite

theorem ReadsBack.safeJsonParse
    {parse : String → Option Json}
    {value : Json}
    (readsBack : ReadsBack parse value) :
    safeJsonParse parse value.stringify = value.finite := by
  have isRead : parse value.stringify = some value.finite := readsBack
  rw [Providers.safeJsonParse, isRead]
  rfl

/-- The calls of a message are there if the field is. -/
theorem getD_toolCalls (toolCalls : List ToolCall) :
    (if toolCalls.isEmpty then none else some toolCalls).getD [] = toolCalls := by
  cases toolCalls <;> rfl

/-- The arguments of two calls. -/
def sampleArguments : List (String × Json) × List (String × Json) :=
  ([("city", .string "Oslo")], [("city", .string "Oslo"), ("celsius", .bool true)])

/-- A parser that knows these arguments, and the empty ones. -/
def parseSample (text : String) : Option Json :=
  if text = (Json.object []).stringify then
    some (.object [])
  else if text = (Json.object sampleArguments.1).stringify then
    some (Json.object sampleArguments.1).finite
  else if text = (Json.object sampleArguments.2).stringify then
    some (Json.object sampleArguments.2).finite
  else
    none

theorem readsBack_sampleArguments :
    ReadsBack parseSample (.object sampleArguments.1) ∧
      ReadsBack parseSample (.object sampleArguments.2) := by
  have someFirst : (Json.object sampleArguments.1).stringify ≠
      (Json.object []).stringify := by decide
  have someSecond : (Json.object sampleArguments.2).stringify ≠
      (Json.object []).stringify := by decide
  have different : (Json.object sampleArguments.2).stringify ≠
      (Json.object sampleArguments.1).stringify := by decide
  constructor
  · exact (if_neg someFirst).trans (if_pos rfl)
  · exact (if_neg someSecond).trans ((if_neg different).trans (if_pos rfl))

end Sessions

namespace Anthropic

section Echo

/-- A `tool_use` block of a response, as it is sent back. -/
def ResponseBlock.toolUse (block : ResponseBlock) : Option ContentBlock :=
  if block.type = "tool_use" then
    match block.id, block.name with
    | some id, some name => some (.toolUse id name (inputOrEmpty block.input).finite)
    | _, _ => none
  else
    none

/-- What the model said in a response: one text, and its calls. -/
def MessageResponse.said (data : MessageResponse) : List ContentBlock :=
  let text := String.join (data.content.filterMap ResponseBlock.textPart)
  (if text = "" then [] else [.text text]) ++
    data.content.filterMap ResponseBlock.toolUse

/-- The message of a round. -/
def echo (round : Round MessageResponse) : ChatMessage :=
  let textParts := round.response.content.filterMap ResponseBlock.textPart
  let toolCalls := round.response.content.filterMap ResponseBlock.toolCall
  .assistant
    (some ((if textParts.isEmpty then none else some (String.join textParts)).map
      .string))
    none (if toolCalls.isEmpty then none else some toolCalls)

variable {parse : String → Option Json}

/-- A call is sent back as it came. -/
theorem toolCall_toolUse
    {block : ResponseBlock}
    (readsBack : ReadsBack parse (inputOrEmpty block.input)) :
    block.toolCall.map (toolUseBlock parse) = block.toolUse := by
  unfold ResponseBlock.toolCall ResponseBlock.toolUse
  split_ifs
  · cases block.id with
    | none => rfl
    | some id =>
        cases block.name with
        | none => rfl
        | some name => simp [toolUseBlock, readsBack.safeJsonParse]
  · rfl

/-- A message comes back as what the model said. -/
theorem ownTranslation_echo
    {round : Round MessageResponse}
    (readsBack : ∀ block ∈ round.response.content,
      ReadsBack parse (inputOrEmpty block.input)) :
    ownTranslation parse (echo round) = some (.assistant, round.response.said) := by
  have sameCalls : (round.response.content.filterMap ResponseBlock.toolCall).map
      (toolUseBlock parse) =
        round.response.content.filterMap ResponseBlock.toolUse := by
    rw [List.map_filterMap]
    exact List.filterMap_congr fun block isBlock =>
      toolCall_toolUse (readsBack block isBlock)
  have sameText (texts : List String) :
      ((some ((if texts.isEmpty then none else some (String.join texts)).map
        TextContent.string)).join.map textOnlyBlocks).getD [] =
        if String.join texts = "" then [] else [.text (String.join texts)] := by
    cases texts <;> rfl
  rw [echo, ownTranslation, getD_toolCalls, sameCalls, sameText]
  rfl

/-- The completion of a round. -/
def translateRound
    (round : Round MessageResponse)
    (request : ChatCompletionRequest) : Except Thrown ChatCompletion :=
  .ok (translateResponse round.id round.created round.response request)

/-- After any rounds the model is sent what it said, in its turns, and the system
messages beside them. -/
theorem session_sends_back
    (parse : String → Option Json)
    (config : ProviderInstanceConfig)
    (request : ChatCompletionRequest)
    (rounds : List (Round MessageResponse))
    (readsBack : ∀ round ∈ rounds, ∀ block ∈ round.response.content,
      ReadsBack parse (inputOrEmpty block.input))
    (stream : Bool) :
    let sent := translateRequest parse config
      (requestAfter translateRound request rounds) stream
    let systemTexts := request.messages.filterMap systemText ++
      rounds.flatMap fun round => round.replies.filterMap systemText
    Merges sent.messages
        (request.messages.filterMap (ownTranslation parse) ++
          rounds.flatMap fun round =>
            (.assistant, round.response.said) ::
              round.replies.filterMap (ownTranslation parse)) ∧
      sent.system =
        if systemTexts.isEmpty then none else some ("\n\n".intercalate systemTexts) := by
  intro sent systemTexts
  have translated : ∀ round ∈ rounds, ∀ request,
      (translateRound round request).toOption.map ChatCompletion.message =
        some (echo round) := fun _ _ _ => rfl
  have messagesEq := messages_requestAfter request translated
  have turnsEq : sent.messages = _ :=
    foldl_translateMessage parse [] (requestAfter translateRound request rounds).messages
  have roundsEq : (rounds.flatMap fun round => echo round :: round.replies).filterMap
      (ownTranslation parse) =
        rounds.flatMap fun round =>
          (.assistant, round.response.said) ::
            round.replies.filterMap (ownTranslation parse) := by
    rw [List.filterMap_flatMap]
    refine List.flatMap_congr fun round isRound => ?_
    rw [List.filterMap_cons, ownTranslation_echo (readsBack round isRound)]
  have systemEq : (requestAfter translateRound request rounds).messages.filterMap
      systemText = systemTexts := by
    rw [messagesEq, List.filterMap_append, List.filterMap_flatMap]
    rfl
  constructor
  · rw [turnsEq, messagesEq, List.filterMap_append, ← roundsEq]
    exact merges_pushAll _
  · rw [← systemEq]
    rfl

/-- A round with a text and a call. -/
def callRound
    (text id name : String)
    (input : List (String × Json))
    (replies : List ChatMessage) : Round MessageResponse where
  response :=
    { id := "msg_1"
      model := none
      content :=
        [{ type := "text", text := some text },
          { type := "tool_use"
            id := some id
            name := some name
            input := some (.object input) }]
      stopReason := some (some "tool_use")
      inputTokens := 9
      outputTokens := 7 }
  id := "chatcmpl-1"
  created := 0
  newToolCallId _ := ""
  replies := replies

/-- Two rounds, each with a call, and a system message after the second answer. -/
theorem session_sends_back_weather :
    let rounds :=
      [callRound "Let me look." "toolu_1" "weather" sampleArguments.1
          [.tool (.string "rain") "toolu_1"],
        callRound "And later?" "toolu_2" "forecast" sampleArguments.2
          [.tool (.string "sun") "toolu_2", .system (.string "Be brief.") none]]
    let sent := translateRequest parseSample { id := "a", name := "a", models := [] }
      (requestAfter translateRound
        { model := "m", messages := [.user (.string "Umbrella?") none] } rounds) false
    Merges sent.messages
        [(.user, [.text "Umbrella?"]),
          (.assistant, [.text "Let me look.",
            .toolUse "toolu_1" "weather" (.object sampleArguments.1)]),
          (.user, [.toolResult "toolu_1" "rain"]),
          (.assistant, [.text "And later?",
            .toolUse "toolu_2" "forecast" (.object sampleArguments.2)]),
          (.user, [.toolResult "toolu_2" "sun"])] ∧
      sent.system = some "Be brief." := by
  intro rounds sent
  have sendsBack := session_sends_back parseSample { id := "a", name := "a", models := [] }
    { model := "m", messages := [.user (.string "Umbrella?") none] } rounds
    (by
      intro round isRound block isBlock
      rcases List.mem_pair.1 isRound with rfl | rfl
      · rcases List.mem_pair.1 isBlock with rfl | rfl
        · exact if_pos rfl
        · exact readsBack_sampleArguments.1
      · rcases List.mem_pair.1 isBlock with rfl | rfl
        · exact if_pos rfl
        · exact readsBack_sampleArguments.2)
    false
  exact sendsBack

end Echo

end Anthropic

namespace Gemini

section Echo

/-- The text of a part of a response. -/
def partText (part : Json) : Option String :=
  if part.isRecord then part.getString "text" else none

/-- The name and the arguments of the call in a part of a response. -/
def partCall (part : Json) : Option (Option String × Json) :=
  if part.isRecord then
    match part.getString "text", part.getRecord "functionCall" with
    | some _, _ => none
    | none, some call =>
        some (call.getString "name", call.getOr "args" (.object []))
    | none, none => none
  else
    none

/-- The name of the call at a position; a call without a name is given one. -/
def callName (name : Option String) (index : Nat) : String :=
  name.getD ("tool_" ++ toString index)

/-- A value that is not a record is sent as an empty one. -/
def asRecord (value : Json) : Json := if value.isRecord then value else .object []

/-- What the model said in some parts of a response: one text, and its calls. -/
def said (parts : List Json) : List Part :=
  let text := String.join (parts.filterMap partText)
  (if text = "" then [] else [.text text]) ++
    (parts.filterMap partCall).zipIdx.map fun call =>
      .functionCall (callName call.1.1 call.2) (asRecord call.1.2.finite)

-- the identifier of the tool call with a given index
variable (newToolCallId : Nat → String)

/-- The tool call that a call is translated to. -/
def toToolCall (call : (Option String × Json) × Nat) : ToolCall where
  id := newToolCallId call.2
  function :=
    { name := callName call.1.1 call.2
      arguments := call.1.2.stringify }

/-- The loop of `extractParts` collects the texts and the calls. -/
theorem extractParts_eq (parts : List Json) :
    extractParts newToolCallId parts =
      { text := String.join (parts.filterMap partText)
        toolCalls := (parts.filterMap partCall).zipIdx.map (toToolCall newToolCallId)
        index := (parts.filterMap partCall).length } := by
  induction parts using List.reverseRecOn with
  | nil => rfl
  | append_singleton parts part inductionHypothesis =>
      rw [extractParts, List.foldl_concat, ← extractParts, inductionHypothesis,
        List.filterMap_append, List.filterMap_append]
      unfold Extracted.extractPart
      by_cases isRecord : part.isRecord
      · cases isText : part.getString "text" with
        | some text =>
            simp [partText, partCall, isRecord, isText, String.join_append]
        | none =>
            cases isCall : part.getRecord "functionCall" with
            | none => simp [partText, partCall, isRecord, isText, isCall]
            | some call =>
                simp [partText, partCall, isRecord, isText, isCall,
                  List.zipIdx_append, toToolCall, callName]
      · simp [partText, partCall, isRecord]

/-- The message of a round. -/
def echo (round : Round Json) : Option ChatMessage :=
  if round.response.isRecord then
    let parts := frameParts round.response
    let text := String.join (parts.filterMap partText)
    let toolCalls :=
      (parts.filterMap partCall).zipIdx.map (toToolCall round.newToolCallId)
    some (.assistant (some ((if text = "" then none else some text).map .string)) none
      (if toolCalls.isEmpty then none else some toolCalls))
  else
    none

/-- The completion of a round. -/
def translateRound
    (providerId : String)
    (round : Round Json)
    (request : ChatCompletionRequest) : Except Thrown ChatCompletion :=
  translateResponse round.newToolCallId round.id round.created providerId
    round.response request

theorem message_translateRound
    (providerId : String)
    (round : Round Json)
    (request : ChatCompletionRequest) :
    (translateRound providerId round request).toOption.map ChatCompletion.message =
      echo round := by
  unfold translateRound translateResponse echo
  split_ifs
  · simp [Except.toOption, ChatCompletion.message, extractParts_eq]
  · rfl

variable {parse : String → Option Json} {history : List ChatMessage}

/-- A message comes back as what the model said. -/
theorem ownTranslation_echo
    {round : Round Json}
    {message : ChatMessage}
    (isEcho : message ∈ echo round)
    (readsBack : ∀ call ∈ (frameParts round.response).filterMap partCall,
      ReadsBack parse call.2) :
    ownTranslation parse history message =
      some (.model, said (frameParts round.response)) := by
  unfold echo at isEcho
  split_ifs at isEcho
  · obtain rfl := Option.some_inj.1 isEcho
    have sameText (text : String) :
        ((some ((if text = "" then none else some text).map
          TextContent.string)).join.map textParts).getD [] =
          if text = "" then [] else [.text text] := by
      by_cases isEmpty : text = "" <;> simp [isEmpty, textParts]
    have sameCalls : ((frameParts round.response).filterMap partCall).zipIdx.map
        (functionCallPart parse ∘ toToolCall round.newToolCallId) =
          ((frameParts round.response).filterMap partCall).zipIdx.map fun call =>
            .functionCall (callName call.1.1 call.2) (asRecord call.1.2.finite) := by
      refine List.map_congr_left fun call isCall => ?_
      have isRead := (readsBack call.1 (List.fst_mem_of_mem_zipIdx isCall)).safeJsonParse
      simp only [Function.comp_apply, functionCallPart, toToolCall, parseArguments,
        isRead, asRecord]
    rw [ownTranslation, getD_toolCalls, sameText, List.map_map, sameCalls]
    rfl
  · cases isEcho

/-- A call that no other call shares its identifier with is found by it. -/
theorem toolName_of_mem
    {messages : List ChatMessage}
    (distinct : ((messages.flatMap toolNames).map Prod.fst).Nodup)
    {id name : String}
    (isCall : (id, name) ∈ messages.flatMap toolNames) :
    toolName messages id = name := by
  have found : (messages.flatMap toolNames).reverse.lookup id = some name := by
    refine Foundations.OrderedMap.lookup_eq_some_of_mem ?_ (List.mem_reverse.2 isCall)
    rw [List.map_reverse]
    exact List.nodup_reverse.2 distinct
  rw [toolName, found]
  rfl

/-- An answer to a call of the session is sent under the name of the call. -/
theorem ownTranslation_answer
    {rounds : List (Round Json)}
    {before : List ChatMessage}
    (messagesEq : history = before ++ rounds.flatMap fun round =>
      (echo round).elim [] (· :: round.replies))
    (distinct : ((history.flatMap toolNames).map Prod.fst).Nodup)
    {round : Round Json}
    (isRound : round ∈ rounds)
    (isRecord : round.response.isRecord = true)
    {call : (Option String × Json) × Nat}
    (isCall : call ∈ ((frameParts round.response).filterMap partCall).zipIdx)
    (content : TextContent) :
    ownTranslation parse history (.tool content (round.newToolCallId call.2)) =
      some (.user, [.functionResponse (callName call.1.1 call.2)
        (flattenText (some content.toContent))]) := by
  obtain ⟨message, isEcho⟩ : ∃ message, echo round = some message := by
    simp [echo, isRecord]
  have isMessage : message ∈ history := by
    rw [messagesEq]
    refine List.mem_append_right _ (List.mem_flatMap.2 ⟨round, isRound, ?_⟩)
    rw [isEcho]
    exact List.mem_cons_self
  have isNamed : (round.newToolCallId call.2, callName call.1.1 call.2) ∈
      toolNames message := by
    rw [echo, if_pos isRecord, Option.some_inj] at isEcho
    rw [← isEcho, toolNames, getD_toolCalls, List.map_map]
    exact List.mem_map.2 ⟨call, isCall, rfl⟩
  rw [ownTranslation, toolName_of_mem distinct
    (List.mem_flatMap.2 ⟨message, isMessage, isNamed⟩)]

/-- After any rounds the model is sent what it said, in its turns, and each answer
under the name of the function that was called. -/
theorem session_comes_back
    (parse : String → Option Json)
    (config : ProviderInstanceConfig)
    (request : ChatCompletionRequest)
    (rounds : List (Round Json))
    (readsBack : ∀ round ∈ rounds,
      ∀ call ∈ (frameParts round.response).filterMap partCall,
        ReadsBack parse call.2) :
    let sent := requestAfter (translateRound config.id) request rounds
    Merges (translateRequest parse config sent).contents
      (request.messages.filterMap (ownTranslation parse sent.messages) ++
        rounds.flatMap fun round =>
          if round.response.isRecord then
            (.model, said (frameParts round.response)) ::
              round.replies.filterMap (ownTranslation parse sent.messages)
          else
            []) ∧
      (((sent.messages.flatMap toolNames).map Prod.fst).Nodup →
        ∀ round ∈ rounds, round.response.isRecord = true →
          ∀ call ∈ ((frameParts round.response).filterMap partCall).zipIdx,
            ∀ content : TextContent,
              ownTranslation parse sent.messages
                  (.tool content (round.newToolCallId call.2)) =
                some (.user, [.functionResponse (callName call.1.1 call.2)
                  (flattenText (some content.toContent))])) := by
  intro sent
  have translated : ∀ round ∈ rounds, ∀ request,
      (translateRound config.id round request).toOption.map ChatCompletion.message =
        echo round := fun round _ => message_translateRound config.id round
  have messagesEq := messages_requestAfter request translated
  have turnsEq : (translateRequest parse config sent).contents = _ :=
    foldl_translateMessage parse sent.messages [] sent.messages
  have roundsEq : (rounds.flatMap fun round =>
        (echo round).elim [] (· :: round.replies)).filterMap
      (ownTranslation parse sent.messages) =
        rounds.flatMap fun round =>
          if round.response.isRecord then
            (.model, said (frameParts round.response)) ::
              round.replies.filterMap (ownTranslation parse sent.messages)
          else
            [] := by
    rw [List.filterMap_flatMap]
    refine List.flatMap_congr fun round isRound => ?_
    cases isEcho : echo round with
    | none =>
        have notRecord : ¬ round.response.isRecord = true := fun isRecord => by
          simp [echo, isRecord] at isEcho
        simp [notRecord]
    | some message =>
        have isRecord : round.response.isRecord = true := by
          by_contra notRecord
          simp [echo, notRecord] at isEcho
        have comesBack : ownTranslation parse sent.messages message = _ :=
          ownTranslation_echo isEcho (readsBack round isRound)
        simp [isRecord, comesBack]
  have sameMessages := congrArg (List.filterMap (ownTranslation parse sent.messages))
    messagesEq
  constructor
  · rw [turnsEq, ← roundsEq, ← List.filterMap_append, ← sameMessages]
    exact merges_pushAll _
  · intro distinct round isRound isRecord call isCall content
    exact ownTranslation_answer messagesEq distinct isRound isRecord isCall content

/-- A response with some texts and a call. -/
def callResponse
    (texts : List String)
    (name : String)
    (args : List (String × Json)) : Json :=
  let parts := texts.map (fun text => Json.object [("text", .string text)]) ++
    [.object [("functionCall", .object [("name", .string name), ("args", .object args)])]]
  .object [("candidates", .array
    [.object [("content", .object [("parts", .array parts)])]])]

theorem calls_callResponse
    (texts : List String)
    (name : String)
    (args : List (String × Json)) :
    (frameParts (callResponse texts name args)).filterMap partCall =
      [(some name, .object args)] := by
  change (texts.map _ ++ [_]).filterMap partCall = _
  have noCalls : (texts.map fun text => Json.object [("text", .string text)]).filterMap
      partCall = [] := by
    rw [List.filterMap_map]
    exact List.filterMap_eq_nil_iff.2 fun _ _ => rfl
  rw [List.filterMap_append, noCalls]
  rfl

theorem said_callResponse
    (texts : List String)
    (name : String)
    (args : List (String × Json)) :
    said (frameParts (callResponse texts name args)) =
      (if String.join texts = "" then [] else [.text (String.join texts)]) ++
        [.functionCall name (Json.object args).finite] := by
  have textsEq : (frameParts (callResponse texts name args)).filterMap partText =
      texts := by
    change (texts.map _ ++ [_]).filterMap partText = _
    rw [List.filterMap_append, List.filterMap_map]
    exact (List.append_nil _).trans (List.filterMap_some)
  rw [said, textsEq, calls_callResponse]
  rfl

/-- A round with a call and its answer. -/
def callRound
    (texts : List String)
    (name : String)
    (args : List (String × Json))
    (answer : String) : Round Json where
  response := callResponse texts name args
  id := "chatcmpl-1"
  created := 0
  newToolCallId index := "call_" ++ name ++ toString index
  replies := [.tool (.string answer) ("call_" ++ name ++ toString 0)]

/-- Two rounds, each with a call. -/
def weatherRounds : List (Round Json) :=
  [callRound ["Let me ", "look."] "weather" sampleArguments.1 "rain",
    callRound [] "forecast" sampleArguments.2 "sun"]

theorem session_comes_back_weather :
    Merges
      (translateRequest parseSample { id := "g", name := "g", models := [] }
        (requestAfter (translateRound "g")
          { model := "m", messages := [.user (.string "Umbrella?") none] } weatherRounds)
        ).contents
      [(.user, [.text "Umbrella?"]),
        (.model, [.text "Let me look.",
          .functionCall "weather" (.object sampleArguments.1)]),
        (.user, [.functionResponse "weather" "rain"]),
        (.model, [.functionCall "forecast" (.object sampleArguments.2)]),
        (.user, [.functionResponse "forecast" "sun"])] := by
  have comesBack := session_comes_back parseSample { id := "g", name := "g", models := [] }
    { model := "m", messages := [.user (.string "Umbrella?") none] } weatherRounds
    (by
      intro round isRound call isCall
      rcases List.mem_pair.1 isRound with rfl | rfl
      · rw [callRound, calls_callResponse, List.mem_singleton] at isCall
        rw [isCall]
        exact readsBack_sampleArguments.1
      · rw [callRound, calls_callResponse, List.mem_singleton] at isCall
        rw [isCall]
        exact readsBack_sampleArguments.2)
  let sent := requestAfter (translateRound "g")
    { model := "m", messages := [.user (.string "Umbrella?") none] } weatherRounds
  have answered {texts : List String} {name : String} {args : List (String × Json)}
      {answer : String} (isRound : callRound texts name args answer ∈ weatherRounds) :
      ownTranslation parseSample sent.messages
          (.tool (.string answer) ("call_" ++ name ++ toString 0)) =
        some (.user, [.functionResponse name answer]) := by
    refine comesBack.2 (by decide) _ isRound rfl ((some name, .object args), 0) ?_
      (.string answer)
    rw [callRound, calls_callResponse]
    exact List.mem_singleton_self _
  have merges := comesBack.1
  change Merges _ (_ ++ ((Role.model, said (frameParts (callResponse _ _ _))) ::
    List.filterMap (ownTranslation parseSample sent.messages) [_] ++
      ((Role.model, said (frameParts (callResponse _ _ _))) ::
        List.filterMap (ownTranslation parseSample sent.messages) [_] ++ []))) at merges
  rw [said_callResponse, said_callResponse,
    List.filterMap_cons_some (answered List.mem_cons_self),
    List.filterMap_cons_some (answered (List.mem_cons_of_mem _ List.mem_cons_self))]
    at merges
  exact merges

end Echo

end Gemini

namespace Cohere

section Echo

/-- The completion of a round. -/
def translateRound
    (providerId : String)
    (round : Round Json)
    (request : ChatCompletionRequest) : Except Thrown ChatCompletion :=
  translateResponse round.newToolCallId round.id round.created providerId
    round.response request

/-- The message of a round in which the model said some parts. -/
def SentMessage.echo (message : SentMessage) : ChatMessage :=
  let text := String.join (message.parts.filterMap MessagePart.asText)
  let toolCalls := message.parts.filterMap MessagePart.asCall
  .assistant (some ((if text = "" then none else some text).map .string)) none
    (if toolCalls.isEmpty then none else some toolCalls)

/-- What the model said, as it is sent back: one text, and its calls. -/
def SentMessage.said (message : SentMessage) : Message :=
  let text := String.join (message.parts.filterMap MessagePart.asText)
  let toolCalls := message.parts.filterMap MessagePart.asCall
  .assistant (if text = "" then none else some text)
    (if toolCalls.isEmpty then none else some toolCalls)

theorem message_translateRound
    {message : SentMessage}
    {round : Round Json}
    (sentWhole : message.IsSentWhole round.response)
    (providerId : String)
    (request : ChatCompletionRequest) :
    (translateRound providerId round request).toOption.map ChatCompletion.message =
      some message.echo := by
  obtain ⟨body, elements, isBody, holdsTexts, elementsEq, areCalls⟩ := sentWhole.holds
  have isRecord : round.response.isRecord = true := by
    cases isResponse : round.response with
    | object entries => rfl
    | _ => rw [isResponse] at isBody; cases isBody
  have calls := filterMap_extractToolCall round.newToolCallId areCalls 0
  unfold translateRound translateResponse extractToolCalls
  rw [if_pos isRecord, isBody, Option.getD_some]
  dsimp only
  rw [elementsEq, extractText_of_holdsTexts holdsTexts, calls]
  rfl

/-- A message comes back as what the model said. -/
theorem translateMessage_echo (message : SentMessage) :
    translateMessage message.echo = message.said := by
  have flattened (text : String) :
      flattenText ((some ((if text = "" then none else some text).map
        TextContent.string)).join.map TextContent.toContent) = text := by
    by_cases isEmpty : text = "" <;>
      simp [isEmpty, flattenText, TextContent.toContent]
  have sameCalls (calls : List ToolCall) :
      (if calls.isEmpty then none else some calls).filter (fun calls => !calls.isEmpty) =
        if calls.isEmpty then none else some calls := by
    cases calls <;> rfl
  unfold SentMessage.echo SentMessage.said translateMessage ChatMessage.content
  dsimp only
  rw [flattened, sameCalls]

/-- After any rounds the model is sent what it said. -/
theorem session_is_sent_back
    (request : ChatCompletionRequest)
    (providerId : String)
    {rounds : List (Round Json)}
    (message : Round Json → SentMessage)
    (sentWhole : ∀ round ∈ rounds, (message round).IsSentWhole round.response)
    (stream : Bool) :
    (translateRequest (requestAfter (translateRound providerId) request rounds)
        stream).messages =
      request.messages.map translateMessage ++
        rounds.flatMap fun round =>
          (message round).said :: round.replies.map translateMessage := by
  have translated : ∀ round ∈ rounds, ∀ request,
      (translateRound providerId round request).toOption.map ChatCompletion.message =
        some (message round).echo := fun round isRound =>
    message_translateRound (sentWhole round isRound) providerId
  have messagesEq := messages_requestAfter request translated
  have bodyEq : (translateRequest
      (requestAfter (translateRound providerId) request rounds) stream).messages =
        (requestAfter (translateRound providerId) request rounds).messages.map
          translateMessage := rfl
  rw [bodyEq, messagesEq, List.map_append, List.map_flatMap]
  simp [translateMessage_echo]

/-- A message with a text and a call, whose arguments are an object. -/
def callMessage (text id name arguments : String) : SentMessage where
  parts := [.text [text], .toolCall id name "" [arguments]]
  finishReason := some "TOOL_CALL"
  inputTokens := 1
  outputTokens := 1

/-- The response that sends such a message. -/
def callResponse (text id name arguments : String) : Json :=
  .object
    [("message", .object
        [("content", .array
            [.object [("type", .string "text"), ("text", .string text)]]),
          ("tool_calls", .array
            [.object [("id", .string id), ("function", .object
              [("name", .string name), ("arguments", .string arguments)])]])]),
      ("finish_reason", .string "TOOL_CALL"),
      ("usage", .object [("tokens", .object
        [("input_tokens", .number 1), ("output_tokens", .number 1)])])]

theorem isSentWhole_callMessage (text id name arguments : String) :
    (callMessage text id name arguments).IsSentWhole
      (callResponse text id name arguments) where
  holds := ⟨_, _, rfl, ⟨_, rfl, .cons ⟨rfl, rfl⟩ .nil⟩, rfl,
    .cons ⟨rfl, _, rfl, rfl, rfl⟩ .nil⟩
  finishReason := rfl
  usage :=
    have one : readNumber (some (.number 1)) = some ((1 : Nat) : Rat) := by
      decide +kernel
    ⟨_, _, rfl, rfl, one, one⟩

/-- A round with a response and an answer to its call. -/
def callRound (id : String) (response : Json) (answer : ChatMessage) : Round Json where
  response := response
  id := id
  created := 0
  newToolCallId _ := "call_1"
  replies := [answer]

/-- Two rounds, each with a call. -/
theorem session_is_sent_back_weather :
    let weather := "\x7b\"city\":\"Oslo\"\x7d"
    let forecast := "\x7b\"city\":\"Oslo\",\"days\":3\x7d"
    (translateRequest
        (requestAfter (translateRound "c")
          { model := "m", messages := [.user (.string "Umbrella?") none] }
          [callRound "chatcmpl-1" (callResponse "Let me look." "c1" "weather" weather)
              (.tool (.string "rain") "c1"),
            callRound "chatcmpl-2" (callResponse "And later?" "c2" "forecast" forecast)
              (.tool (.string "sun") "c2")])
        false).messages =
      [.user (.string "Umbrella?"),
        .assistant (some "Let me look.")
          (some [{ id := "c1", function := { name := "weather", arguments := weather } }]),
        .tool "c1" "rain",
        .assistant (some "And later?")
          (some
            [{ id := "c2", function := { name := "forecast", arguments := forecast } }]),
        .tool "c2" "sun"] := by
  intro weather forecast
  let message (round : Round Json) : SentMessage :=
    if round.id = "chatcmpl-1" then callMessage "Let me look." "c1" "weather" weather
    else callMessage "And later?" "c2" "forecast" forecast
  have sentWhole : ∀ round ∈
      [callRound "chatcmpl-1" (callResponse "Let me look." "c1" "weather" weather)
          (.tool (.string "rain") "c1"),
        callRound "chatcmpl-2" (callResponse "And later?" "c2" "forecast" forecast)
          (.tool (.string "sun") "c2")],
      (message round).IsSentWhole round.response := by
    intro round isRound
    rcases List.mem_pair.1 isRound with rfl | rfl
    · exact isSentWhole_callMessage "Let me look." "c1" "weather" weather
    · exact isSentWhole_callMessage "And later?" "c2" "forecast" forecast
  rw [session_is_sent_back _ "c" message sentWhole false]
  rfl

end Echo

end Cohere

end Providers
end AiGateway
