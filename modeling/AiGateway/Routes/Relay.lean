import AiGateway.OpenAI.Frames
import AiGateway.Providers.Exchange
import AiGateway.Router.EntryPoints

/-!
# The relay of an OpenAI stream

The adapter of an OpenAI-compatible provider yields whatever values the upstream
sent, the generator of `prepareStream` passes them on, and the completions route
writes them to the client. The main theorem follows the bytes of an upstream stream
through the reader, the adapter, the generator and the frames for the client, and
back through the reader.
-/

namespace AiGateway
namespace Routes

open Foundations (Ending Json Transducer Yields)
open OpenAI
open Providers
open Router

section Chunks

/-- What reading a property of `null` throws. -/
def nullRead (property : String) : Thrown :=
  .raw "TypeError"
    ("Cannot read properties of null (reading '" ++ property ++ "')")

/-- The element of a value under index zero; that of a string has no properties. -/
def elementZero : Json → Option Json
  | .array elements => elements.head?
  | .object entries => entries.lookup "0"
  | _ => none

/-- `countDeltaTokens(chunk)`, for a value that is not `null`. -/
def countValueTokens (value : Json) : Nat :=
  let choice := (value.get "choices").bind elementZero
  let content := (choice.bind (Json.get "delta")).bind (Json.get "content")
  (content.bind Json.asString).elim 0 estimateDelta

/-- The usage of a value, if it is neither `undefined` nor `null`. -/
def presentUsage (value : Json) : Option Json :=
  match value.get "usage" with
  | some .null => none
  | usage => usage

/-- `chunk.choices === undefined || chunk.choices.length === 0`. -/
def hasNoChoices (value : Json) : Except Thrown Bool :=
  match value.get "choices" with
  | none => .ok true
  | some .null => .error (nullRead "length")
  | some (.array choices) => .ok choices.isEmpty
  | some (.string choices) => .ok (choices == "")
  | some (.object entries) =>
      match entries.lookup "length" with
      | some (.number length) => .ok (length == 0)
      | _ => .ok false
  | some _ => .ok false

/-- `isUsageOnlyChunk(chunk)`. -/
def isUsageOnlyItem : StreamItem → Except Thrown Bool
  | .made chunk => .ok (isUsageOnlyChunk chunk)
  | .upstream value =>
      (hasNoChoices value).map fun noChoices =>
        noChoices && (presentUsage value).isSome

/-- A count of tokens: a number of the gateway, or what an upstream sent for it. -/
inductive TokenCount
  | number (tokens : ℚ)
  | sent (value : Option Json)

/-- The token counts of the generator: numbers, or the usage that an upstream sent,
whatever it holds. -/
inductive RelayCounts
  | tally (counts : Tally)
  | reported (usage : Json)

namespace RelayCounts

def usageFromStream : RelayCounts → Bool
  | .tally counts => counts.usageFromStream
  | .reported _ => true

def promptTokens : RelayCounts → TokenCount
  | .tally counts => .number counts.promptTokens
  | .reported usage => .sent (usage.get "prompt_tokens")

def completionTokens : RelayCounts → TokenCount
  | .tally counts => .number counts.completionTokens
  | .reported usage => .sent (usage.get "completion_tokens")

/-- The counts after a chunk that an adapter made. -/
def consumeMade (chunk : ChatCompletionChunk) : RelayCounts → RelayCounts
  | .tally counts => .tally (consume counts chunk)
  | .reported sent =>
      match chunk.usage with
      | some usage =>
          .tally
            { promptTokens := usage.promptTokens
              completionTokens := usage.completionTokens
              usageFromStream := true }
      | none => .reported sent

/-- The counts with an estimate, unless usage has arrived. -/
def addEstimate (tokens : Nat) : RelayCounts → RelayCounts
  | .tally counts =>
      .tally
        (if counts.usageFromStream then counts
        else
          { counts with completionTokens := counts.completionTokens + tokens })
  | .reported usage => .reported usage

/-- The counts after a value that is not `null`. -/
def consumeValue (counts : RelayCounts) (value : Json) : RelayCounts :=
  match presentUsage value with
  | some usage => .reported usage
  | none => counts.addEstimate (countValueTokens value)

/-- The counts after one more chunk. -/
def consumeItem (counts : RelayCounts) : StreamItem → Except Thrown RelayCounts
  | .made chunk => .ok (counts.consumeMade chunk)
  | .upstream .null =>
      .error (nullRead (if counts.usageFromStream then "usage" else "choices"))
  | .upstream value => .ok (counts.consumeValue value)

end RelayCounts

end Chunks

section Generator

variable
  (wantsUsage : Bool)
  (inc : String → TokenCount → Except Thrown Unit)

/-- `clientWantsUsage || !isUsageOnlyChunk(chunk)`. -/
def isShown (item : StreamItem) : Except Thrown Bool :=
  if wantsUsage then .ok true
  else (isUsageOnlyItem item).map fun usageOnly => !usageOnly

/-- `recordProviderMetrics`, with `metrics.tokens.inc` for a direction, which may
reject what an upstream sent; the calls with other numbers are left out. -/
def recordProviderMetrics (counts : RelayCounts) : Except Thrown Unit := do
  inc "prompt" counts.promptTokens
  inc "completion" counts.completionTokens

/-- The `finally` block. An error of the metrics replaces how the generator ended;
the calls after them do not throw. -/
def finaliseRelay
    (counts : RelayCounts)
    (ending : Ending Thrown) : Yields StreamItem Thrown :=
  match recordProviderMetrics inc counts with
  | .ok () => { items := [], ending := ending }
  | .error thrown => { items := [], ending := .threw thrown }

/-- What the generator does with a chunk, and after it. -/
def relayItem
    (counts : RelayCounts)
    (item : StreamItem)
    (afterwards : RelayCounts → Yields StreamItem Thrown) :
    Yields StreamItem Thrown :=
  match counts.consumeItem item with
  | .error thrown => finaliseRelay inc counts (.threw thrown)
  | .ok counts =>
      match isShown wantsUsage item with
      | .error thrown => finaliseRelay inc counts (.threw thrown)
      | .ok shown => (afterwards counts).prepend (if shown then [item] else [])

/-- The `for` loop. -/
def relayLoop (ending : Ending Thrown) :
    RelayCounts → List StreamItem → Yields StreamItem Thrown
  | counts, [] => finaliseRelay inc counts ending
  | counts, item :: items =>
      relayItem wantsUsage inc counts item fun counts =>
        relayLoop ending counts items

/-- The stream that `prepareStream` returns, read to its end. No usage has arrived
before the first chunk, so its tokens are counted as those after it are. -/
def relay (preparation : StreamPreparation StreamItem) :
    Yields StreamItem Thrown :=
  let context := preparation.context
  let iterator := preparation.prepared.iterator
  let loop (counts : RelayCounts) : Yields StreamItem Thrown :=
    relayLoop context.clientWantsUsage inc iterator.ending counts
      iterator.items
  match preparation.prepared.first with
  | none => loop (.tally context.start)
  | some first =>
      relayItem context.clientWantsUsage inc (.tally context.start) first
        loop

end Generator

section Writing

/-- The frame of a chunk; what `JSON.stringify` writes for a chunk that an adapter
made is left open. -/
def itemFrame
    (stringifyMade : ChatCompletionChunk → String) : StreamItem → String
  | .made chunk => dataFrame (stringifyMade chunk)
  | .upstream value => serializeSSE value

/-- All that the write loop of the route writes. -/
def writtenText
    (stringifyMade : ChatCompletionChunk → String)
    (stream : Yields StreamItem Thrown) : String :=
  String.join (stream.items.map (itemFrame stringifyMade)) ++
    match stream.ending with
    | .finished => sseDoneFrame
    | .threw _ => ""

end Writing

section Values

/-- A JSON object with an array of choices. -/
def HasChoices (value : Json) : Prop :=
  ∃ choices, value.get "choices" = some (.array choices)

/-- A usage-only chunk: it has no choices, and usage. -/
def usageOnly (value : Json) : Bool :=
  match value.get "choices" with
  | some (.array choices) => choices.isEmpty && (presentUsage value).isSome
  | _ => false

/-- What is assumed of `JSON.parse`: it reads the text of a value that it gave
back, and rejects what is not JSON. -/
structure ParsesBack (parse : String → Option Json) : Prop where
  parse_stringify : ∀ text value,
    parse text = some value → parse value.stringify = some value
  parse_empty : parse "" = none
  parse_done : parse "[DONE]" = none

variable {value : Json} {values : List Json}

theorem consumeItem_upstream
    (hasChoices : HasChoices value)
    (counts : RelayCounts) :
    counts.consumeItem (.upstream value) = .ok (counts.consumeValue value) := by
  obtain ⟨choices, hasArray⟩ := hasChoices
  cases value with
  | object entries => rfl
  | _ => cases hasArray

theorem isShown_upstream
    (hasChoices : HasChoices value)
    (wantsUsage : Bool) :
    isShown wantsUsage (.upstream value) =
      .ok (wantsUsage || !usageOnly value) := by
  obtain ⟨choices, hasArray⟩ := hasChoices
  cases wantsUsage with
  | true => rfl
  | false =>
      simp only [isShown, isUsageOnlyItem, hasNoChoices, usageOnly, hasArray]
      rfl

/-- The generator passes values on and counts all of them. -/
theorem relayLoop_upstream
    (wantsUsage : Bool)
    (inc : String → TokenCount → Except Thrown Unit)
    (ending : Ending Thrown)
    (haveChoices : ∀ value ∈ values, HasChoices value)
    (counts : RelayCounts) :
    relayLoop wantsUsage inc ending counts (values.map .upstream) =
      (finaliseRelay inc (values.foldl .consumeValue counts)
        ending).prepend
          ((values.filter fun value => wantsUsage || !usageOnly value).map
            .upstream) := by
  induction values generalizing counts with
  | nil => rfl
  | cons value values inductionHypothesis =>
      rw [List.forall_mem_cons] at haveChoices
      rw [List.map_cons, relayLoop, relayItem,
        consumeItem_upstream haveChoices.1]
      dsimp only
      rw [isShown_upstream haveChoices.1]
      dsimp only
      rw [inductionHypothesis haveChoices.2, Yields.prepend_prepend,
        List.foldl_cons, List.filter_cons]
      cases wantsUsage || !usageOnly value <;> rfl

/-- The generator treats the first chunk as the chunks after it. -/
theorem relay_firstResult
    (inc : String → TokenCount → Except Thrown Unit)
    {stream : Yields StreamItem Thrown}
    {prepared : FirstResult StreamItem}
    (isFirst : firstResult stream = .ok prepared)
    (context : StreamContext) :
    relay inc { prepared := prepared, context := context } =
      relayLoop context.clientWantsUsage inc stream.ending
        (.tally context.start) stream.items := by
  obtain ⟨_ | ⟨first, items⟩, _ | error⟩ := stream
  · cases isFirst
    rfl
  · cases isFirst
  · cases isFirst
    rfl
  · cases isFirst
    rfl

end Values

section Upstream

variable {parse : String → Option Json}

/-- The data of some events are JSON texts of some values. -/
def HoldValues
    (parse : String → Option Json)
    (events : List SSEEvent)
    (values : List Json) : Prop :=
  List.Forall₂ (fun event value => parse event.data = some value) events values

theorem HoldValues.exists_text
    {events : List SSEEvent}
    {values : List Json}
    (holdValues : HoldValues parse events values)
    {value : Json}
    (isValue : value ∈ values) : ∃ text, parse text = some value := by
  induction holdValues with
  | nil => cases isValue
  | @cons event first events values isFirst _ inductionHypothesis =>
      rcases List.mem_cons.1 isValue with rfl | isLater
      · exact ⟨event.data, isFirst⟩
      · exact inductionHypothesis isLater

/-- The events of the texts of values hold these values. -/
theorem holdValues_stringify
    {values : List Json}
    (parsesBack : ∀ value ∈ values, parse value.stringify = some value) :
    HoldValues parse ((values.map Json.stringify).map dataEvent) values := by
  unfold HoldValues
  rw [List.forall₂_map_left_iff, List.forall₂_map_left_iff, List.forall₂_same]
  exact parsesBack

/-- None of them is `[DONE]`. -/
theorem HoldValues.data_ne_done
    (parses : ParsesBack parse)
    {events : List SSEEvent}
    {values : List Json}
    (holdValues : HoldValues parse events values)
    {event : SSEEvent}
    (isEvent : event ∈ events) : event.data ≠ "[DONE]" := by
  induction holdValues with
  | nil => cases isEvent
  | @cons first value events values isValue _ inductionHypothesis =>
      rcases List.mem_cons.1 isEvent with rfl | isLater
      · intro dataEq
        rw [dataEq, parses.parse_done] at isValue
        cases isValue
      · exact inductionHypothesis isLater

/-- The adapter yields the values of the events before `[DONE]`. -/
theorem transduce_openAI
    (parses : ParsesBack parse)
    {events : List SSEEvent}
    {values : List Json}
    (holdValues : HoldValues parse events values)
    {done : SSEEvent}
    (isDone : done.data = "[DONE]")
    (later : List SSEEvent)
    (ending : Ending Thrown) :
    (StreamAdapter.openAI parse).transducer.transduce ()
        { items := events ++ done :: later, ending := ending } =
      { items := values.map .upstream, ending := .finished } := by
  unfold Transducer.transduce
  induction holdValues with
  | nil => exact StreamAdapter.run_openAI_of_done isDone ending later
  | @cons event value events values isValue rest inductionHypothesis =>
      have notDone : event.data ≠ "[DONE]" :=
        HoldValues.data_ne_done parses (.cons isValue rest) List.mem_cons_self
      have notEmpty : event.data ≠ "" := by
        intro dataEq
        rw [dataEq, parses.parse_empty] at isValue
        cases isValue
      have yields := StreamAdapter.run_openAI_of_value notDone notEmpty isValue
        ending (events ++ done :: later)
      rw [inductionHypothesis] at yields
      exact yields

/-- The stream of the adapter over a body that is read to its end. -/
theorem chatStream_of_ok
    (config : ProviderInstanceConfig)
    {response : Response}
    (isOk : response.ok = true)
    {reads : List (List UInt8)}
    (body : response.body = some { items := reads, ending := .finished }) :
    chatStream config utf8Decoder parse "OpenAI" (.openAI parse) (.ok response) =
      (StreamAdapter.openAI parse).transducer.transduce ()
        { items := textEvents (decodeUtf8 reads.flatten).toList
          ending := .finished } := by
  have passes : ensureOk config utf8Decoder parse response = .ok response :=
    if_pos isOk
  have opens : openStream config utf8Decoder parse "OpenAI" (.ok response) =
      .ok { items := reads, ending := .finished } := by
    simp [openStream, upstreamFetch, passes, body, bind, Except.bind]
  unfold chatStream
  rw [opens]
  dsimp only
  rw [parseSSEStream_of_streams streams_utf8Decoder]
  rfl

end Upstream

section Client

variable (stringifyMade : ChatCompletionChunk → String) (values : List Json)

/-- The payloads that are written for some values. -/
theorem writtenText_upstream :
    writtenText stringifyMade
        { items := values.map .upstream, ending := .finished } =
      String.join ((values.map Json.stringify).map dataFrame) ++ sseDoneFrame := by
  unfold writtenText
  rw [List.map_map, List.map_map]
  rfl

/-- What the route writes begins with a frame. -/
theorem head?_writtenText :
    (writtenText stringifyMade
      { items := values.map .upstream, ending := .finished }).toList.head? =
        some 'd' := by
  rw [writtenText_upstream]
  cases values with
  | nil => rfl
  | cons value values =>
      simp [dataFrame]

/-- The events of what the route writes. -/
theorem textEvents_writtenText :
    textEvents (decodeUtf8 (encodeUtf8 (writtenText stringifyMade
        { items := values.map .upstream, ending := .finished }))).toList =
      (values.map Json.stringify).map dataEvent ++ [dataEvent "[DONE]"] := by
  have noMark := (head?_writtenText stringifyMade values).trans_ne
    (by decide : some 'd' ≠ some Foundations.Utf8.byteOrderMark)
  have singleLines : ∀ payload ∈ values.map Json.stringify,
      Json.SingleLine payload.toList := by
    intro payload isPayload
    obtain ⟨value, -, rfl⟩ := List.mem_map.1 isPayload
    rw [Json.stringify, String.toList_ofList]
    exact value.singleLine_text
  have isDone : Json.SingleLine "[DONE]".toList := Json.singleLine_of_all rfl
  have doneEvents := textEvents_dataFrame isDone []
  rw [List.append_nil] at doneEvents
  rw [decodeUtf8_encodeUtf8 noMark, writtenText_upstream, String.toList_append,
    textEvents_frames singleLines, sseDoneFrame, doneEvents]
  rfl

/-- The client reads the values and `[DONE]`, however the bytes are cut. -/
theorem parse_writtenText
    {reads : List (List UInt8)}
    (cut : reads.flatten = encodeUtf8 (writtenText stringifyMade
      { items := values.map .upstream, ending := .finished })) :
    parseSSEStream utf8Decoder { items := reads, ending := .finished } =
      { items := (values.map Json.stringify).map dataEvent ++ [dataEvent "[DONE]"]
        ending := .finished } := by
  rw [parseSSEStream_of_streams streams_utf8Decoder, cut, textEvents_writtenText]

end Client

section Relayed

variable
  {inc : String → TokenCount → Except Thrown Unit}
  {values : List Json}
  {prepared : FirstResult StreamItem}

/-- The stream of some values, relayed to its end. -/
theorem relay_upstream
    (haveChoices : ∀ value ∈ values, HasChoices value)
    (isFirst : firstResult
      { items := values.map StreamItem.upstream, ending := .finished } =
        .ok prepared)
    (context : StreamContext) :
    relay inc { prepared := prepared, context := context } =
      (finaliseRelay inc
        (values.foldl .consumeValue (.tally context.start)) .finished).prepend
          ((values.filter fun value =>
            context.clientWantsUsage || !usageOnly value).map .upstream) := by
  rw [relay_firstResult inc isFirst context]
  exact relayLoop_upstream _ _ _ haveChoices _

/-- Metrics that reject the counts take `[DONE]` away from the client. -/
theorem writtenText_of_unrecorded
    (stringifyMade : ChatCompletionChunk → String)
    (haveChoices : ∀ value ∈ values, HasChoices value)
    (isFirst : firstResult
      { items := values.map StreamItem.upstream, ending := .finished } =
        .ok prepared)
    (context : StreamContext)
    {thrown : Thrown}
    (unrecorded : recordProviderMetrics inc
      (values.foldl .consumeValue (.tally context.start)) = .error thrown) :
    writtenText stringifyMade
        (relay inc { prepared := prepared, context := context }) =
      String.join ((values.filter fun value =>
        context.clientWantsUsage || !usageOnly value).map serializeSSE) := by
  rw [relay_upstream haveChoices isFirst]
  simp only [finaliseRelay, unrecorded, writtenText, Yields.prepend,
    List.append_nil, List.map_map, String.append_empty]
  rfl

end Relayed

/-- However an upstream stream of chunks and `[DONE]` is cut into reads, and however
the bytes for the client are, the client reads the same values in the same order,
without the usage-only chunks that it did not ask for, and then `[DONE]`, once. The
metrics are taken to accept the counts of the stream. -/
theorem client_reads_upstream_values
    {parse : String → Option Json}
    (parses : ParsesBack parse)
    (config : ProviderInstanceConfig)
    (context : StreamContext)
    (stringifyMade : ChatCompletionChunk → String)
    (inc : String → TokenCount → Except Thrown Unit)
    {response : Response}
    (isOk : response.ok = true)
    {upstreamReads : List (List UInt8)}
    (body : response.body = some { items := upstreamReads, ending := .finished })
    {events later : List SSEEvent}
    {done : SSEEvent}
    (upstream : textEvents (decodeUtf8 upstreamReads.flatten).toList =
      events ++ done :: later)
    (isDone : done.data = "[DONE]")
    {values : List Json}
    (holdValues : HoldValues parse events values)
    (haveChoices : ∀ value ∈ values, HasChoices value)
    (recorded : recordProviderMetrics inc
      (values.foldl .consumeValue (.tally context.start)) = .ok ()) :
    ∃ prepared,
      firstResult (chatStream config utf8Decoder parse "OpenAI" (.openAI parse)
        (.ok response)) = .ok prepared ∧
      ∀ clientReads : List (List UInt8),
        clientReads.flatten = encodeUtf8 (writtenText stringifyMade
          (relay inc { prepared := prepared, context := context })) →
        ∃ relayed,
          parseSSEStream utf8Decoder { items := clientReads, ending := .finished } =
            { items := relayed ++ [dataEvent "[DONE]"], ending := .finished } ∧
          HoldValues parse relayed (values.filter fun value =>
            context.clientWantsUsage || !usageOnly value) ∧
          ∀ event ∈ relayed, event.data ≠ "[DONE]" := by
  let shown := values.filter fun value =>
    context.clientWantsUsage || !usageOnly value
  have isStream : chatStream config utf8Decoder parse "OpenAI" (.openAI parse)
      (.ok response) = { items := values.map .upstream, ending := .finished } := by
    rw [chatStream_of_ok config isOk body, upstream,
      transduce_openAI parses holdValues isDone]
  have holdShown : HoldValues parse
      ((shown.map Json.stringify).map dataEvent) shown := by
    refine holdValues_stringify fun value isShown => ?_
    obtain ⟨text, isText⟩ :=
      holdValues.exists_text (List.mem_of_mem_filter isShown)
    exact parses.parse_stringify text value isText
  rw [isStream]
  obtain ⟨prepared, isFirst⟩ : ∃ prepared, firstResult
      { items := values.map StreamItem.upstream, ending := .finished } =
        .ok prepared := by
    cases values <;> exact ⟨_, rfl⟩
  refine ⟨prepared, isFirst, fun clientReads cut => ?_⟩
  have isRelay : relay inc { prepared := prepared, context := context } =
      { items := shown.map .upstream, ending := .finished } := by
    rw [relay_upstream haveChoices isFirst]
    simp only [finaliseRelay, recorded, Yields.prepend, List.append_nil, shown]
  rw [isRelay] at cut
  exact ⟨_, parse_writtenText stringifyMade shown cut, holdShown,
    fun _ => holdShown.data_ne_done parses⟩

section Sample

/-- A parser of the texts of some values. -/
def parseTexts (values : List Json) (text : String) : Option Json :=
  values.find? fun value => value.stringify == text

theorem parsesBack_parseTexts
    {values : List Json}
    (notEmpty : ∀ value ∈ values, value.stringify ≠ "")
    (notDone : ∀ value ∈ values, value.stringify ≠ "[DONE]") :
    ParsesBack (parseTexts values) where
  parse_stringify := by
    intro text value isValue
    have isText := List.find?_some isValue
    rw [beq_iff_eq] at isText
    rwa [isText]
  parse_empty := List.find?_eq_none.2 fun value isValue => by
    simpa using notEmpty value isValue
  parse_done := List.find?_eq_none.2 fun value isValue => by
    simpa using notDone value isValue

/-- A counter that takes a number that is not negative, or nothing. -/
def sampleInc (_ : String) : TokenCount → Except Thrown Unit
  | .number _ | .sent none | .sent (some .null) => .ok ()
  | .sent (some (.number count)) =>
      if count.negative then
        .error (.raw "Error" "It is not possible to decrease a counter")
      else
        .ok ()
  | .sent (some _) => .error (.raw "TypeError" "Value is not a valid number")

/-- A chunk with a content delta. -/
def contentValue : Json :=
  .object
    [("choices", .array [.object [("delta", .object [("content", .string "Hi")])]])]

/-- A usage-only chunk. -/
def usageValue : Json :=
  .object
    [("choices", .array []),
      ("usage", .object
        [("prompt_tokens", .number 1), ("completion_tokens", .number 1)])]

/-- A client that did not ask for usage reads the content and `[DONE]`. -/
theorem client_reads_content_value :
    let parse := parseTexts [contentValue, usageValue]
    let context : StreamContext :=
      { apiKeyId := "key"
        providerId := "p"
        canonicalModel := "m"
        modelInfo := none
        failoverCount := 0
        clientWantsUsage := false
        promptEstimate := 1 }
    let response : Response :=
      { status := 200
        body := some
          { items := [encodeUtf8 (writtenText (fun _ => "")
              { items := [.upstream contentValue, .upstream usageValue]
                ending := .finished })]
            ending := .finished } }
    ∃ prepared,
      firstResult (chatStream plainProvider utf8Decoder parse "OpenAI"
        (.openAI parse) (.ok response)) = .ok prepared ∧
      ∀ clientReads : List (List UInt8),
        clientReads.flatten = encodeUtf8 (writtenText (fun _ => "")
          (relay sampleInc { prepared := prepared, context := context })) →
        ∃ relayed,
          parseSSEStream utf8Decoder { items := clientReads, ending := .finished } =
            { items := relayed ++ [dataEvent "[DONE]"], ending := .finished } ∧
          HoldValues parse relayed [contentValue] ∧
          ∀ event ∈ relayed, event.data ≠ "[DONE]" := by
  intro parse context response
  have parses : ParsesBack parse := parsesBack_parseTexts (by decide) (by decide)
  have holdValues : HoldValues parse
      ([contentValue.stringify, usageValue.stringify].map dataEvent)
      [contentValue, usageValue] := .cons rfl (.cons rfl .nil)
  have haveChoices :
      ∀ value ∈ [contentValue, usageValue], HasChoices value := by
    rw [List.forall_mem_cons, List.forall_mem_singleton]
    exact ⟨⟨_, rfl⟩, ⟨_, rfl⟩⟩
  have upstream := textEvents_writtenText (fun _ => "") [contentValue, usageValue]
  rw [← List.append_nil (encodeUtf8 _)] at upstream
  exact client_reads_upstream_values parses plainProvider context (fun _ => "")
    sampleInc (rfl : response.ok = true) rfl upstream rfl holdValues
    haveChoices rfl

end Sample

end Routes
end AiGateway
