import AiGateway.Foundations.JsonObject
import AiGateway.Foundations.JsonText
import AiGateway.OpenAI.Types

/-!
# The key of the semantic cache

`computeKey` hashes a canonical text of the fields of a request. The text is
that of an object whose keys are sorted by `localeCompare`, of which nothing is
assumed here. Requests with the same text agree on every hashed field.
-/

namespace AiGateway
namespace Cache

open Foundations (Decimal Json)
open OpenAI

section Canonical

-- `left.localeCompare(right)`
variable (localeCompare : String → String → Ordering)

/-- The entries of an object in the order of their keys. -/
def sortByKey (entries : List (String × Json)) : List (String × Json) :=
  entries.mergeSort fun left right => (localeCompare left.1 right.1).isLE

mutual

/-- `sortValue`. -/
def sortValue : Json → Json
  | .null => .null
  | .bool value => .bool value
  | .number value => .number value
  | .infinity negative => .infinity negative
  | .string value => .string value
  | .array elements => .array (sortElements elements)
  | .object entries =>
      .object
        ((sortByKey localeCompare (sortEntries entries)).foldl
          (fun sorted entry => Json.assign sorted entry.1 entry.2) [])

/-- `value.map(sortValue)`. -/
def sortElements : List Json → List Json
  | [] => []
  | element :: elements => sortValue element :: sortElements elements

/-- The entries of an object with sorted values. -/
def sortEntries : List (String × Json) → List (String × Json)
  | [] => []
  | (key, value) :: entries => (key, sortValue value) :: sortEntries entries

end

/-- `canonicalStringify`. -/
def canonicalStringify (value : Json) : String :=
  (sortValue localeCompare value).stringify

end Canonical

section Requests

/-- `SemanticCache.isEligible`. -/
def isEligible
    (cacheEnabled : Bool)
    (request : ChatCompletionRequest) : Bool :=
  if !cacheEnabled then
    false
  else if request.temperature ≠ some 0 then
    false
  else if request.stream = some true then
    false
  else if !(request.tools.getD []).isEmpty then
    false
  else if request.seed.isNone then
    false
  else
    true

/-- `value ?? null`. -/
def orNull (value : Option Json) : Json :=
  value.getD .null

/-- The object that `computeKey` serialises. -/
def keyFields (request : ChatCompletionRequest) : List (String × Json) :=
  [("model", .string request.model),
    ("messages", .array (request.messages.map ChatMessage.toJson)),
    ("top_p", orNull (request.topP.map .number)),
    ("max_tokens",
      orNull ((request.maxTokens <|> request.maxCompletionTokens).map .number)),
    ("seed", orNull (request.seed.map .number)),
    ("stop", orNull (request.stop.map Stop.toJson)),
    ("n", orNull (request.n.map .number)),
    ("presence_penalty", orNull (request.presencePenalty.map .number)),
    ("frequency_penalty", orNull (request.frequencyPenalty.map .number)),
    ("logit_bias", orNull (request.logitBias.map .object)),
    ("response_format", orNull (request.responseFormat.map .object))]

/-- The text that `computeKey` hashes. -/
def canonicalKey
    (localeCompare : String → String → Ordering)
    (request : ChatCompletionRequest) : String :=
  canonicalStringify localeCompare (.object (keyFields request))

/-- `SemanticCache.computeKey`. -/
def computeKey
    (sha256Hex : String → String)
    (localeCompare : String → String → Ordering)
    (request : ChatCompletionRequest) : String :=
  sha256Hex (canonicalKey localeCompare request)

end Requests

section Properties

variable (localeCompare : String → String → Ordering)

theorem sortElements_eq_map (elements : List Json) :
    sortElements localeCompare elements =
      elements.map (sortValue localeCompare) := by
  induction elements with
  | nil => rfl
  | cons element elements inductionHypothesis =>
      rw [sortElements, inductionHypothesis, List.map_cons]

theorem sortEntries_eq_map (entries : List (String × Json)) :
    sortEntries localeCompare entries =
      entries.map fun entry => (entry.1, sortValue localeCompare entry.2) := by
  induction entries with
  | nil => rfl
  | cons entry entries inductionHypothesis =>
      rw [sortEntries, inductionHypothesis, List.map_cons]

/-- What a canonical text tells of a value. -/
def canonical (value : Json) : Json := (sortValue localeCompare value).finite

theorem canonical_array (elements : List Json) :
    canonical localeCompare (.array elements) =
      .array (elements.map (canonical localeCompare)) := by
  rw [canonical, sortValue, Json.finite, sortElements_eq_map,
    Json.finiteElements_eq_map, List.map_map]
  rfl

/-- Values with the same canonical text have the same canonical form. -/
theorem canonical_eq_of_canonicalStringify_eq
    {first second : Json}
    (sameText :
      canonicalStringify localeCompare first =
        canonicalStringify localeCompare second) :
    canonical localeCompare first = canonical localeCompare second :=
  Json.finite_eq_of_stringify_eq sameText

/-- An object as the gateway builds it: no key twice, and none that names the
prototype. -/
structure PlainKeys (entries : List (String × Json)) : Prop where
  distinct : (entries.map Prod.fst).Nodup
  noPrototype : ∀ entry ∈ entries, entry.1 ≠ "__proto__"

/-- Sorting keeps the properties of an object. -/
theorem get_canonical_object
    {entries : List (String × Json)}
    (plain : PlainKeys entries)
    (key : String) :
    (canonical localeCompare (.object entries)).get key =
      (entries.lookup key).map (canonical localeCompare) := by
  let sorted := sortByKey localeCompare (sortEntries localeCompare entries)
  have sameEntries : sorted.Perm
      (entries.map fun entry => (entry.1, sortValue localeCompare entry.2)) := by
    rw [← sortEntries_eq_map]
    exact List.mergeSort_perm _ _
  have sameKeys : (sorted.map Prod.fst).Perm (entries.map Prod.fst) := by
    have := sameEntries.map Prod.fst
    rwa [List.map_map] at this
  have noPrototype : ∀ entry ∈ sorted, entry.1 ≠ "__proto__" := by
    intro entry isEntry
    obtain ⟨other, isOther, sameKey⟩ := List.mem_map.1
      (sameKeys.mem_iff.1 (List.mem_map_of_mem isEntry))
    rw [← sameKey]
    exact plain.noPrototype other isOther
  have distinct : (sorted.reverse.map Prod.fst).Nodup := by
    rw [List.map_reverse, List.nodup_reverse]
    exact sameKeys.nodup_iff.2 plain.distinct
  rw [canonical, Json.get_finite, sortValue, Json.get_object,
    Json.lookup_foldl_assign [] noPrototype, List.lookup_nil, Option.or_none,
    Json.lookup_eq_of_perm distinct ((List.reverse_perm sorted).trans sameEntries),
    Json.lookup_map_value, Option.map_map]
  rfl

end Properties

end Cache
end AiGateway
