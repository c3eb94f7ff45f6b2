import AiGateway.OpenAI.Types

/-!
# Counting tokens

The tokens of a prompt are counted by the tokenizer of the model if it is one of
OpenAI's, and estimated from the length of its texts otherwise. Lengths are in
UTF-16 code units.
-/

namespace AiGateway
namespace OpenAI

/-- The length of a string in JavaScript. -/
def utf16Length (text : String) : Nat :=
  (text.toList.map fun char => if char.toNat < 65536 then 1 else 2).sum

/-- A string without code units is empty. -/
@[simp] theorem utf16Length_eq_zero_iff (text : String) :
    utf16Length text = 0 ↔ text = "" := by
  rw [← String.toList_eq_nil_iff, utf16Length]
  cases text.toList with
  | nil => simp
  | cons char rest =>
      rw [List.map_cons, List.sum_cons]
      split_ifs <;> simp

/-- The functions of the platform that tokens are counted with. -/
structure Tokenizer where
  toLowerCase : String → String
  /-- The number of tokens of a text in the encoding with a given name. -/
  encode : String → String → Nat

/-- `encodingForModel(model)`. -/
def encodingForModel (tokenizer : Tokenizer) (model : String) : String :=
  let id := tokenizer.toLowerCase model
  if id.startsWith "gpt-4o" || id.startsWith "o1" || id.startsWith "o3" ||
      id.startsWith "o4" || id.contains "o200k" then
    "o200k_base"
  else
    "cl100k_base"

/-- `isOpenAITokenizable(model)`. -/
def isOpenAITokenizable (tokenizer : Tokenizer) (model : String) : Bool :=
  let id := tokenizer.toLowerCase model
  id.startsWith "gpt-" || id.startsWith "o1" || id.startsWith "o3" ||
    id.startsWith "o4" || id.startsWith "text-embedding-3" ||
    id.startsWith "text-embedding-ada"

/-- `approximateTextTokens(text)`: a quarter of the length, rounded up. -/
def approximateTextTokens (text : String) : Nat :=
  (utf16Length text + 3) / 4

section Count

-- the count of a single string
variable (count : String → Nat)

/-- `countContent(content, count)`. -/
def countContent : Option MessageContent → Nat
  | none => 0
  | some (.string text) => count text
  | some (.parts parts) =>
      (parts.map fun
        | .text text => count text
        | .imageUrl _ _ => 85).sum

/-- `message.role`. -/
def ChatMessage.role : ChatMessage → String
  | .system _ _ => "system"
  | .user _ _ => "user"
  | .assistant _ _ _ => "assistant"
  | .tool _ _ => "tool"

/-- `message.name`. -/
def ChatMessage.name : ChatMessage → Option String
  | .system _ name => name
  | .user _ name => name
  | .assistant _ name _ => name
  | .tool _ _ => none

/-- The tokens of a message apart from its role, content and name. -/
def countCalls : ChatMessage → Nat
  | .assistant _ _ (some calls) =>
      (calls.map fun call =>
        count call.function.name + count call.function.arguments).sum
  | .tool _ toolCallId => count toolCallId
  | _ => 0

/-- The tokens of one message. -/
def countMessage (message : ChatMessage) : Nat :=
  3 + count message.role + countContent count message.content +
    (message.name.elim 0 fun name => 1 + count name) + countCalls count message

/-- `countChat(messages, count)`. -/
def countChat (messages : List ChatMessage) : Nat :=
  (messages.map (countMessage count)).sum + 3

/-- The reply alone costs something. -/
theorem countChat_pos (messages : List ChatMessage) :
    0 < countChat count messages :=
  Nat.succ_pos _

end Count

/-- `countChatTokens(messages, model)`. -/
def countChatTokens
    (tokenizer : Tokenizer)
    (messages : List ChatMessage)
    (model : String) : Nat :=
  if isOpenAITokenizable tokenizer model then
    countChat (tokenizer.encode (encodingForModel tokenizer model)) messages
  else
    countChat approximateTextTokens messages

/-- No prompt is free. -/
theorem countChatTokens_pos
    (tokenizer : Tokenizer)
    (messages : List ChatMessage)
    (model : String) : 0 < countChatTokens tokenizer messages model := by
  unfold countChatTokens
  split_ifs <;> exact countChat_pos _ _

end OpenAI
end AiGateway
