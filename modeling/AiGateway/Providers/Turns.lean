import AiGateway.Providers.AnthropicRequest
import AiGateway.Providers.GeminiRequest
import Mathlib.Data.List.Chain
import Mathlib.Data.List.Induction

/-!
# Turns of a conversation

Anthropic and Gemini want turns of alternating roles, so the adapters merge
consecutive messages of one role. Merging keeps what the messages translate to,
in order. Gemini further wants a tool message to name the function that was
called, which the adapter looks up in the whole conversation.
-/

namespace AiGateway
namespace Providers

open Foundations (Json)
open OpenAI

section Merging

variable {ρ β : Type}

/-- Each block of a message with the role of the message. -/
def withRole (role : ρ) (blocks : List β) : List (ρ × β) :=
  blocks.map fun block => (role, block)

/-- Turns of alternating roles, none of them empty, with the content of the
messages in order and under their roles. -/
structure Merges (turns : List (Turn ρ β)) (messages : List (ρ × List β)) :
    Prop where
  alternates : turns.IsChain fun turn next => turn.role ≠ next.role
  nonempty : ∀ turn ∈ turns, turn.content ≠ []
  content : turns.flatMap Turn.content = messages.flatMap Prod.snd
  roles : turns.flatMap (fun turn => withRole turn.role turn.content) =
    messages.flatMap fun message => withRole message.1 message.2

/-- The content is in order if it is in order under its roles. -/
theorem Merges.of_roles
    {turns : List (Turn ρ β)}
    {messages : List (ρ × List β)}
    (alternates : turns.IsChain fun turn next => turn.role ≠ next.role)
    (nonempty : ∀ turn ∈ turns, turn.content ≠ [])
    (roles : turns.flatMap (fun turn => withRole turn.role turn.content) =
      messages.flatMap fun message => withRole message.1 message.2) :
    Merges turns messages where
  alternates := alternates
  nonempty := nonempty
  content := by
    have withoutRoles : ∀ (role : ρ) (blocks : List β),
        (withRole role blocks).map Prod.snd = blocks := fun role blocks => by
      rw [withRole, List.map_map]
      exact List.map_id blocks
    have sameBlocks := congrArg (List.map Prod.snd) roles
    rw [List.map_flatMap, List.map_flatMap] at sameBlocks
    simp only [withoutRoles] at sameBlocks
    exact sameBlocks
  roles := roles

theorem Merges.nil : Merges ([] : List (Turn ρ β)) [] :=
  .of_roles .nil (by simp) rfl

variable [DecidableEq ρ]

/-- Push messages, one after the other. -/
def pushAll (turns : List (Turn ρ β)) (messages : List (ρ × List β)) :
    List (Turn ρ β) :=
  messages.foldl (fun turns message => push turns message.1 message.2) turns

/-- What a push does: nothing, or the last turn grows, or there is one more. -/
theorem push_cases (turns : List (Turn ρ β)) (role : ρ) (blocks : List β) :
    (blocks = [] ∧ push turns role blocks = turns) ∨
      blocks ≠ [] ∧
        ((∃ earlier last, turns = earlier ++ [last] ∧ last.role = role ∧
            push turns role blocks =
              earlier ++ [{ role := role, content := last.content ++ blocks }]) ∨
          (∀ last ∈ turns.getLast?, last.role ≠ role) ∧
            push turns role blocks =
              turns ++ [{ role := role, content := blocks }]) := by
  cases blocks with
  | nil => exact .inl ⟨rfl, rfl⟩
  | cons block blocks =>
      refine .inr ⟨List.cons_ne_nil _ _, ?_⟩
      induction turns using List.reverseRecOn with
      | nil => exact .inr ⟨by simp, rfl⟩
      | append_singleton earlier last _ =>
          by_cases sameRole : last.role = role
          · refine .inl ⟨earlier, last, rfl, sameRole, ?_⟩
            simp [push, sameRole]
          · exact .inr ⟨by simpa using sameRole, by simp [push, sameRole]⟩

/-- A push keeps turns merged. -/
theorem Merges.push
    {turns : List (Turn ρ β)}
    {messages : List (ρ × List β)}
    (merges : Merges turns messages)
    (role : ρ)
    (blocks : List β) :
    Merges (push turns role blocks) (messages ++ [(role, blocks)]) := by
  obtain ⟨alternates, nonempty, -, roles⟩ := merges
  have rolesAppend : (messages ++ [(role, blocks)]).flatMap
        (fun message => withRole message.1 message.2) =
      turns.flatMap (fun turn => withRole turn.role turn.content) ++
        withRole role blocks := by
    rw [List.flatMap_append, ← roles, List.flatMap_singleton]
  rcases push_cases turns role blocks with ⟨rfl, pushEq⟩ | ⟨hasBlock,
    ⟨earlier, last, rfl, sameRole, pushEq⟩ | ⟨otherRole, pushEq⟩⟩
  · rw [pushEq]
    refine .of_roles alternates nonempty ?_
    rw [rolesAppend, withRole, List.map_nil, List.append_nil]
  · rw [pushEq]
    refine .of_roles ?_ ?_ ?_
    · rw [List.isChain_append] at alternates ⊢
      obtain ⟨chain, -, differs⟩ := alternates
      refine ⟨chain, .singleton _, fun turn isLast next isNext => ?_⟩
      have := differs turn isLast last rfl
      cases isNext
      rwa [← sameRole]
    · rw [List.forall_mem_append] at nonempty ⊢
      exact ⟨nonempty.1, by simp [hasBlock]⟩
    · rw [rolesAppend]
      simp [List.flatMap_append, withRole, sameRole]
  · rw [pushEq]
    refine .of_roles ?_ ?_ ?_
    · refine alternates.append (.singleton _) fun turn isLast next isNext => ?_
      cases isNext
      exact otherRole turn isLast
    · exact List.forall_mem_append.2 ⟨nonempty, by simpa using hasBlock⟩
    · rw [rolesAppend]
      simp [List.flatMap_append]

/-- Messages that are pushed one after the other are merged. -/
theorem merges_pushAll (messages : List (ρ × List β)) :
    Merges (pushAll [] messages) messages := by
  induction messages using List.reverseRecOn with
  | nil => exact .nil
  | append_singleton messages message inductionHypothesis =>
      rw [pushAll, List.foldl_append]
      exact inductionHypothesis.push message.1 message.2

end Merging

namespace Anthropic

-- `JSON.parse`, which may reject
variable (parse : String → Option Json)

/-- What a message translates to by itself; a system message does not become
part of a turn. -/
def ownTranslation : ChatMessage → Option (Role × List ContentBlock)
  | .system _ _ => none
  | .user content _ => some (.user, contentToBlocks content)
  | .assistant content _ toolCalls =>
      some (.assistant,
        (content.join.map textOnlyBlocks).getD [] ++
          (toolCalls.getD []).map (toolUseBlock parse))
  | .tool content toolCallId =>
      some (.user, [.toolResult toolCallId (flattenText (some content.toContent))])

theorem foldl_translateMessage
    (turns : List (Turn Role ContentBlock))
    (messages : List ChatMessage) :
    messages.foldl (translateMessage parse) turns =
      pushAll turns (messages.filterMap (ownTranslation parse)) := by
  induction messages generalizing turns with
  | nil => rfl
  | cons message messages inductionHypothesis =>
      rw [List.foldl_cons, inductionHypothesis]
      cases message <;> rfl

end Anthropic

namespace Gemini

-- `JSON.parse`, which may reject
variable (parse : String → Option Json)

/-- What a message of a conversation translates to by itself; a system message
does not become part of a turn. -/
def ownTranslation (history : List ChatMessage) :
    ChatMessage → Option (Role × List Part)
  | .system _ _ => none
  | .user content _ => some (.user, contentToParts content)
  | .assistant content _ toolCalls =>
      some (.model,
        (content.join.map textParts).getD [] ++
          (toolCalls.getD []).map (functionCallPart parse))
  | .tool content toolCallId =>
      some (.user,
        [.functionResponse (toolName history toolCallId)
          (flattenText (some content.toContent))])

theorem foldl_translateMessage
    (history : List ChatMessage)
    (turns : List (Turn Role Part))
    (messages : List ChatMessage) :
    messages.foldl (translateMessage parse history) turns =
      pushAll turns (messages.filterMap (ownTranslation parse history)) := by
  induction messages generalizing turns with
  | nil => rfl
  | cons message messages inductionHypothesis =>
      rw [List.foldl_cons, inductionHypothesis]
      cases message <;> rfl

/-- The parts of the system instruction are the system texts. -/
theorem filterMap_systemPart (messages : List ChatMessage) :
    messages.filterMap systemPart =
      (messages.filterMap Anthropic.systemText).map .text := by
  rw [List.map_filterMap]
  refine List.filterMap_congr fun message _ => ?_
  cases message <;> rfl

end Gemini

namespace Gemini

section ToolNames

/-- The function of the last call with an identifier in some messages. -/
def lastCall (messages : List ChatMessage) (id : String) : Option String :=
  (messages.flatMap toolNames).reverse.lookup id

theorem toolName_eq (messages : List ChatMessage) (id : String) :
    toolName messages id = (lastCall messages id).getD id := rfl

/-- A later call hides the earlier ones with its identifier. -/
theorem lastCall_append (before after : List ChatMessage) (id : String) :
    lastCall (before ++ after) id = (lastCall after id).or (lastCall before id) := by
  rw [lastCall, List.flatMap_append, List.reverse_append, List.lookup_append]
  rfl

/-- A tool message makes no call. -/
theorem lastCall_cons_tool
    (content : TextContent)
    (toolCallId : String)
    (messages : List ChatMessage)
    (id : String) :
    lastCall (.tool content toolCallId :: messages) id = lastCall messages id := rfl

variable
  (parse : String → Option Json)
  (config : ProviderInstanceConfig)
  (request : ChatCompletionRequest)

/-- The parts that some messages of the request translate to. -/
def partsOf (messages : List ChatMessage) : List Part :=
  (messages.filterMap (ownTranslation parse request.messages)).flatMap Prod.snd

/-- The parts of the body are those of the messages, in order. -/
theorem parts_translateRequest :
    (translateRequest parse config request).contents.flatMap Turn.content =
      partsOf parse request request.messages := by
  have turnsEq : (translateRequest parse config request).contents = _ :=
    foldl_translateMessage parse request.messages [] request.messages
  rw [turnsEq]
  exact (merges_pushAll _).content

/-- The part that is sent for a tool message stands between those of the messages
before and after it. -/
theorem parts_of_tool_message
    {before after : List ChatMessage}
    {content : TextContent}
    {id : String}
    (messagesEq : request.messages = before ++ .tool content id :: after) :
    (translateRequest parse config request).contents.flatMap Turn.content =
      partsOf parse request before ++
        .functionResponse (toolName request.messages id)
          (flattenText (some content.toContent)) :: partsOf parse request after := by
  have partsEq := congrArg (partsOf parse request) messagesEq
  rw [parts_translateRequest, partsEq, partsOf, List.filterMap_append,
    List.flatMap_append]
  rfl

/-- Every tool message that answers a call is sent under the name of the function
of the nearest call before it with its identifier. -/
def NamesNearestCall : Prop :=
  ∀ before after content id name,
    request.messages = before ++ .tool content id :: after →
    lastCall before id = some name →
    (translateRequest parse config request).contents.flatMap Turn.content =
      partsOf parse request before ++
        .functionResponse name (flattenText (some content.toContent)) ::
          partsOf parse request after

/-- If an identifier is used again after a tool message that answers a call with
it, the last such call is of the same function. -/
def ReusesKeepName (messages : List ChatMessage) : Prop :=
  ∀ before after content id name,
    messages = before ++ .tool content id :: after →
    lastCall before id = some name →
    ∀ later ∈ lastCall after id, later = name

/-- The names are those of the nearest calls exactly if no identifier is used
again for another function. -/
theorem namesNearestCall_iff :
    NamesNearestCall parse config request ↔ ReusesKeepName request.messages := by
  refine forall_congr' fun before => forall_congr' fun after =>
    forall_congr' fun content => forall_congr' fun id => forall_congr' fun name =>
    forall_congr' fun messagesEq => forall_congr' fun isNearest => ?_
  rw [parts_of_tool_message parse config request messagesEq, List.append_right_inj,
    List.cons.injEq, Part.functionResponse.injEq, toolName_eq, messagesEq,
    lastCall_append, lastCall_cons_tool, isNearest]
  cases lastCall after id with
  | none => simp
  | some later => simp

/-- A client that numbers its calls anew in each turn: the answer to the first
call is sent under the name of the second. -/
theorem reused_id_takes_later_name :
    let call (name : String) : ChatMessage :=
      .assistant none none (some [{ id := "call_0", function :=
        { name := name, arguments := "{}" } }])
    let answer (text : String) : ChatMessage := .tool (.string text) "call_0"
    let request : ChatCompletionRequest :=
      { model := "m"
        messages :=
          [call "get_weather", answer "sunny", call "get_time", answer "noon"] }
    let config : ProviderInstanceConfig := { id := "g", name := "g", models := [] }
    ¬NamesNearestCall (fun _ => none) config request := by
  intro call answer request config names
  have messagesEq : request.messages =
      [call "get_weather"] ++ .tool (.string "sunny") "call_0" ::
        [call "get_time", answer "noon"] := rfl
  have parts := names _ _ _ _ "get_weather" messagesEq rfl
  rw [parts_of_tool_message _ config request messagesEq] at parts
  have sent := (List.cons.inj (List.append_cancel_left parts)).1
  rw [Part.functionResponse.injEq] at sent
  have isLater : toolName request.messages "call_0" = "get_time" := rfl
  rw [isLater] at sent
  exact absurd sent.1 (by decide)

end ToolNames

end Gemini

end Providers
end AiGateway
