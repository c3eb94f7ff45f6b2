import AiGateway.Routes.Relay

/-!
# What the generator makes of values of any shape

The adapter of an OpenAI-compatible provider casts what it parses to a chunk, and the
generator of `prepareStream` inspects it with helpers that guard against different
things. The main theorem tells for which values the generator raises nothing of its
own and logs counts of tokens.
-/

namespace AiGateway
namespace Routes

open Foundations (Decimal Ending Json Transducer Yields)
open OpenAI
open Providers
open Router

section Frames

variable (parse : String → Option Json)

/-- The stream of an OpenAI-compatible provider whose body holds some events. -/
def upstreamStream
    (events : List SSEEvent)
    (ending : Ending Thrown) : Yields StreamItem Thrown :=
  (StreamAdapter.openAI parse).transducer.transduce ()
    { items := events, ending := ending }

/-- The values that the data frames before `[DONE]` parse to. -/
def frameValues : List SSEEvent → List Json
  | [] => []
  | event :: events =>
      if event.data = "[DONE]" then []
      else if event.data = "" then frameValues events
      else (parse event.data).toList ++ frameValues events

/-- The stream of a provider ends as its body does, unless `[DONE]` ends it. -/
theorem upstreamStream_eq
    (events : List SSEEvent)
    (ending : Ending Thrown) :
    upstreamStream parse events ending =
      { items := (frameValues parse events).map .upstream
        ending :=
          if ∃ event ∈ events, event.data = "[DONE]" then .finished else ending } := by
  unfold upstreamStream Transducer.transduce
  dsimp only
  induction events with
  | nil =>
      rw [if_neg (by rintro ⟨event, isEvent, -⟩; cases isEvent)]
      cases ending <;> rfl
  | cons event events inductionHypothesis =>
      by_cases isDone : event.data = "[DONE]"
      · rw [StreamAdapter.run_openAI_of_done isDone, frameValues, if_pos isDone,
          if_pos ⟨event, List.mem_cons_self, isDone⟩]
        rfl
      · have doneLater :
            (∃ other ∈ event :: events, other.data = "[DONE]") ↔
              ∃ other ∈ events, other.data = "[DONE]" := by
          rw [List.exists_mem_cons_iff, or_iff_right isDone]
        simp only [frameValues, if_neg isDone, doneLater]
        by_cases isEmpty : event.data = ""
        · rw [StreamAdapter.run_openAI_of_skipped isDone (.inl isEmpty),
            if_pos isEmpty]
          exact inductionHypothesis
        · rw [if_neg isEmpty]
          cases isParsed : parse event.data with
          | none =>
              rw [StreamAdapter.run_openAI_of_skipped isDone (.inr isParsed)]
              exact inductionHypothesis
          | some value =>
              rw [StreamAdapter.run_openAI_of_value isDone isEmpty isParsed,
                inductionHypothesis]
              rfl

end Frames

section Counts

/-- The number that a count is, if it is one. -/
def TokenCount.asNumber : TokenCount → Option ℚ
  | .number tokens => some tokens
  | .sent reported => (reported.bind Json.asNumber).map Decimal.value

/-- The count is a non-negative integer. -/
def TokenCount.IsWhole (count : TokenCount) : Prop :=
  ∃ tokens : Nat, count.asNumber = some (tokens : ℚ)

/-- The numbers that the counts are, if they are. -/
def RelayCounts.asTally (counts : RelayCounts) : Option Tally := do
  let promptTokens ← counts.promptTokens.asNumber
  let completionTokens ← counts.completionTokens.asNumber
  return {
    promptTokens := promptTokens
    completionTokens := completionTokens
    usageFromStream := counts.usageFromStream }

/-- Both counts are non-negative integers. -/
def RelayCounts.AreWhole (counts : RelayCounts) : Prop :=
  counts.promptTokens.IsWhole ∧ counts.completionTokens.IsWhole

/-- The token counts of a log entry are non-negative integers. -/
def LogsWholeCounts (entry : RequestLogEntry) : Prop :=
  ∃ promptTokens completionTokens totalTokens : Nat,
    entry.promptTokens = promptTokens ∧
      entry.completionTokens = completionTokens ∧
      entry.totalTokens = totalTokens

/-- Whole counts are those that are logged as whole counts. -/
theorem RelayCounts.areWhole_iff
    (counts : RelayCounts)
    (context : StreamContext)
    (errored : Bool) :
    counts.AreWhole ↔
      ∃ tally, counts.asTally = some tally ∧
        LogsWholeCounts (context.settle tally errored) := by
  constructor
  · rintro ⟨⟨promptTokens, promptEq⟩, completionTokens, completionEq⟩
    refine ⟨_, by rw [asTally, promptEq, completionEq]; rfl,
      promptTokens, completionTokens, promptTokens + completionTokens, rfl, rfl, ?_⟩
    exact (Nat.cast_add promptTokens completionTokens).symm
  · rintro ⟨tally, isTally, promptTokens, completionTokens, -, promptEq,
      completionEq, -⟩
    unfold asTally at isTally
    cases prompt : counts.promptTokens.asNumber with
    | none =>
        rw [prompt] at isTally
        cases isTally
    | some promptNumber =>
        cases completion : counts.completionTokens.asNumber with
        | none =>
            rw [prompt, completion] at isTally
            cases isTally
        | some completionNumber =>
            rw [prompt, completion] at isTally
            cases isTally
            exact ⟨⟨promptTokens, prompt.trans (congrArg some promptEq)⟩,
              completionTokens, completion.trans (congrArg some completionEq)⟩

end Counts

section Loop

variable
  (wantsUsage : Bool)
  (inc : String → TokenCount → Except Thrown Unit)

/-- The counts when the loop is left, and how it is left. -/
def loopResult (ending : Ending Thrown) :
    RelayCounts → List StreamItem → RelayCounts × Ending Thrown
  | counts, [] => (counts, ending)
  | counts, item :: items =>
      match counts.consumeItem item with
      | .error thrown => (counts, .threw thrown)
      | .ok counts =>
          match isShown wantsUsage item with
          | .error thrown => (counts, .threw thrown)
          | .ok _ => loopResult ending counts items

/-- The loop is left for the `finally` block. -/
theorem ending_relayLoop
    (ending : Ending Thrown)
    (counts : RelayCounts)
    (items : List StreamItem) :
    (relayLoop wantsUsage inc ending counts items).ending =
      let result := loopResult wantsUsage ending counts items
      (finaliseRelay inc result.1 result.2).ending := by
  induction items generalizing counts with
  | nil => rfl
  | cons item items inductionHypothesis =>
      rw [relayLoop, relayItem, loopResult]
      cases counts.consumeItem item with
      | error thrown => rfl
      | ok counts =>
          dsimp only
          cases isShown wantsUsage item with
          | error thrown => rfl
          | ok shown => exact inductionHypothesis counts

/-- The entry that the `finally` block logs, and whose cost it charges: none if the
metrics reject the counts, or if these are no numbers. -/
def relayEntry (preparation : StreamPreparation StreamItem) :
    Option RequestLogEntry :=
  let context := preparation.context
  let iterator := preparation.prepared.iterator
  let result := loopResult context.clientWantsUsage iterator.ending
    (.tally context.start) (preparation.prepared.first.toList ++ iterator.items)
  match recordProviderMetrics inc result.1 with
  | .error _ => none
  | .ok () =>
      result.1.asTally.map fun tally =>
        context.settle tally (match result.2 with
          | .finished => false
          | .threw _ => true)

/-- The entry that is logged for a stream. -/
theorem relayEntry_firstResult
    {stream : Yields StreamItem Thrown}
    {prepared : FirstResult StreamItem}
    (isFirst : firstResult stream = .ok prepared)
    (context : StreamContext) :
    relayEntry inc { prepared := prepared, context := context } =
      let result := loopResult context.clientWantsUsage stream.ending
        (.tally context.start) stream.items
      match recordProviderMetrics inc result.1 with
      | .error _ => none
      | .ok () =>
          result.1.asTally.map fun tally =>
            context.settle tally (match result.2 with
              | .finished => false
              | .threw _ => true) := by
  obtain ⟨_ | ⟨first, items⟩, _ | error⟩ := stream
  · cases isFirst
    rfl
  · cases isFirst
  · cases isFirst
    rfl
  · cases isFirst
    rfl

end Loop

section Conditions

/-- The helpers can look at a value: it is not `null`, and neither are its choices
where it is asked whether it is a usage-only chunk. -/
def CanBeRead (wantsUsage : Bool) (value : Json) : Prop :=
  value ≠ .null ∧ (wantsUsage = true ∨ value.get "choices" ≠ some .null)

/-- A usage holds non-negative integers for both counts. -/
def HoldsCounts (usage : Json) : Prop :=
  (TokenCount.sent (usage.get "prompt_tokens")).IsWhole ∧
    (TokenCount.sent (usage.get "completion_tokens")).IsWhole

/-- The last usage of some values. -/
def lastUsage (values : List Json) : Option Json :=
  (values.filterMap presentUsage).getLast?

variable {values : List Json} {wantsUsage : Bool}

/-- Only choices that are `null` have no length to read. -/
theorem exists_hasNoChoices_iff (value : Json) :
    (∃ noChoices, hasNoChoices value = .ok noChoices) ↔
      value.get "choices" ≠ some .null := by
  cases choicesEq : value.get "choices" with
  | none =>
      refine iff_of_true ⟨true, ?_⟩ (by rintro ⟨⟩)
      rw [hasNoChoices, choicesEq]
  | some choices =>
      unfold hasNoChoices
      rw [choicesEq]
      cases choices with
      | null => exact iff_of_false (by rintro ⟨_, ⟨⟩⟩) (not_not.2 rfl)
      | object entries =>
          refine iff_of_true ?_ (by rintro ⟨⟩)
          dsimp only
          split <;> exact ⟨_, rfl⟩
      | _ => exact iff_of_true ⟨_, rfl⟩ (by rintro ⟨⟩)

/-- A value that the helpers cannot look at makes one of them throw. -/
theorem canBeRead_iff (counts : RelayCounts) (value : Json) :
    CanBeRead wantsUsage value ↔
      counts.consumeItem (.upstream value) = .ok (counts.consumeValue value) ∧
        ∃ shown, isShown wantsUsage (.upstream value) = .ok shown := by
  have isConsumed :
      counts.consumeItem (.upstream value) = .ok (counts.consumeValue value) ↔
        value ≠ .null := by
    cases value with
    | null => exact iff_of_false nofun (not_not.2 rfl)
    | _ => exact iff_of_true rfl nofun
  rw [CanBeRead, isConsumed]
  refine and_congr_right fun _ => ?_
  cases wantsUsage with
  | true => exact iff_of_true (.inl rfl) ⟨true, rfl⟩
  | false =>
      rw [or_iff_right Bool.false_ne_true, ← exists_hasNoChoices_iff, isShown,
        if_neg Bool.false_ne_true, isUsageOnlyItem]
      cases hasNoChoices value with
      | ok noChoices => exact iff_of_true ⟨_, rfl⟩ ⟨_, rfl⟩
      | error thrown =>
          exact iff_of_false (by rintro ⟨_, ⟨⟩⟩) (by rintro ⟨_, ⟨⟩⟩)

/-- Values that the helpers can look at are counted one after another. -/
theorem loopResult_of_canBeRead
    (canBeRead : ∀ value ∈ values, CanBeRead wantsUsage value)
    (ending : Ending Thrown)
    (counts : RelayCounts) :
    loopResult wantsUsage ending counts (values.map .upstream) =
      (values.foldl .consumeValue counts, ending) := by
  induction values generalizing counts with
  | nil => rfl
  | cons value values inductionHypothesis =>
      rw [List.forall_mem_cons] at canBeRead
      obtain ⟨isConsumed, shown, isShownEq⟩ :=
        (canBeRead_iff counts value).1 canBeRead.1
      rw [List.map_cons, loopResult, isConsumed]
      dsimp only
      rw [isShownEq]
      exact inductionHypothesis canBeRead.2 _

/-- If the loop finishes, then the helpers could look at every value. -/
theorem canBeRead_of_finished
    {counts : RelayCounts}
    (finishes : (loopResult wantsUsage .finished counts
      (values.map .upstream)).2 = .finished) :
    ∀ value ∈ values, CanBeRead wantsUsage value := by
  induction values generalizing counts with
  | nil => nofun
  | cons value values inductionHypothesis =>
      rw [List.map_cons, loopResult] at finishes
      cases isConsumed : counts.consumeItem (.upstream value) with
      | error thrown =>
          rw [isConsumed] at finishes
          cases finishes
      | ok nextCounts =>
          rw [isConsumed] at finishes
          dsimp only at finishes
          cases isShownEq : isShown wantsUsage (.upstream value) with
          | error thrown =>
              rw [isShownEq] at finishes
              cases finishes
          | ok shown =>
              rw [isShownEq] at finishes
              refine List.forall_mem_cons.2 ⟨?_, inductionHypothesis finishes⟩
              refine (canBeRead_iff counts value).2 ⟨?_, shown, isShownEq⟩
              cases value with
              | null => cases isConsumed
              | _ => rfl

/-- An estimate keeps whole counts whole. -/
theorem areWhole_addEstimate
    {tally : Tally}
    (areWhole : (RelayCounts.tally tally).AreWhole)
    (tokens : Nat) : ((RelayCounts.tally tally).addEstimate tokens).AreWhole := by
  obtain ⟨promptWhole, completionTokens, completionEq⟩ := areWhole
  unfold RelayCounts.addEstimate
  dsimp only
  split
  · exact ⟨promptWhole, completionTokens, completionEq⟩
  · refine ⟨promptWhole, completionTokens + tokens, ?_⟩
    rw [Nat.cast_add, ← Option.some_inj.1 completionEq]
    rfl

/-- The counts of some values are those of the last usage, or a whole estimate. -/
theorem foldl_consumeValue_cases
    {tally : Tally}
    (areWhole : (RelayCounts.tally tally).AreWhole)
    (values : List Json) :
    (∃ usage, lastUsage values = some usage ∧
      values.foldl RelayCounts.consumeValue (.tally tally) = .reported usage) ∨
    lastUsage values = none ∧
      ∃ estimate : Tally, (RelayCounts.tally estimate).AreWhole ∧
        values.foldl RelayCounts.consumeValue (.tally tally) =
          .tally estimate := by
  induction values using List.reverseRecOn with
  | nil => exact .inr ⟨rfl, tally, areWhole, rfl⟩
  | append_singleton values value inductionHypothesis =>
      have lastUsageEq : lastUsage (values ++ [value]) =
          (presentUsage value).or (lastUsage values) := by
        rw [lastUsage, List.filterMap_append, List.getLast?_append]
        cases isPresent : presentUsage value with
        | none => simp [isPresent, lastUsage]
        | some usage => simp [isPresent]
      rw [lastUsageEq, List.foldl_append, List.foldl_cons, List.foldl_nil,
        RelayCounts.consumeValue]
      cases presentUsage value with
      | some usage => exact .inl ⟨usage, rfl, rfl⟩
      | none =>
          rcases inductionHypothesis with
            ⟨usage, isLast, countsEq⟩ | ⟨noUsage, estimate, isWhole, countsEq⟩
          · rw [countsEq]
            exact .inl ⟨usage, isLast, rfl⟩
          · rw [countsEq]
            exact .inr ⟨noUsage, _,
              areWhole_addEstimate isWhole (countValueTokens value), rfl⟩

/-- The counts are whole unless the last usage holds something else. -/
theorem areWhole_foldl_consumeValue
    {tally : Tally}
    (areWhole : (RelayCounts.tally tally).AreWhole)
    (values : List Json) :
    (values.foldl RelayCounts.consumeValue (.tally tally)).AreWhole ↔
      ∀ usage ∈ lastUsage values, HoldsCounts usage := by
  rcases foldl_consumeValue_cases areWhole values with
    ⟨usage, isLast, countsEq⟩ | ⟨noUsage, estimate, isWhole, countsEq⟩
  · rw [isLast, countsEq]
    exact ⟨fun isWhole _ => by rintro ⟨⟩; exact isWhole, fun holds => holds usage rfl⟩
  · rw [noUsage, countsEq]
    exact iff_of_true isWhole nofun

/-- The counts before the first chunk are whole. -/
theorem areWhole_start (context : StreamContext) :
    (RelayCounts.tally context.start).AreWhole :=
  ⟨⟨context.promptEstimate, rfl⟩, 0, congrArg some Nat.cast_zero.symm⟩

end Conditions

section Safety

variable (inc : String → TokenCount → Except Thrown Unit)

/-- Read to its end, the generator raises nothing of its own, so that it ends as the
stream of the provider does, and it logs whole counts of tokens. -/
structure RelaysSafely
    (context : StreamContext)
    (stream : Yields StreamItem Thrown)
    (prepared : FirstResult StreamItem) : Prop where
  ending_eq :
    (relay inc { prepared := prepared, context := context }).ending =
      stream.ending
  logs : ∃ entry,
    relayEntry inc { prepared := prepared, context := context } = some entry ∧
      LogsWholeCounts entry

/-- The values that the generator relays safely. -/
structure CanBeRelayed (wantsUsage : Bool) (values : List Json) : Prop where
  canBeRead : ∀ value ∈ values, CanBeRead wantsUsage value
  holdsCounts : ∀ usage ∈ lastUsage values, HoldsCounts usage

variable {inc}

/-- What the loop comes to tells whether the generator relays a stream safely. -/
theorem relaysSafely_iff
    (accepts : ∀ direction count, count.IsWhole → inc direction count = .ok ())
    (context : StreamContext)
    {stream : Yields StreamItem Thrown}
    {prepared : FirstResult StreamItem}
    (isFirst : firstResult stream = .ok prepared) :
    RelaysSafely inc context stream prepared ↔
      let result := loopResult context.clientWantsUsage stream.ending
        (.tally context.start) stream.items
      result.2 = stream.ending ∧ result.1.AreWhole := by
  have endingEq := ending_relayLoop context.clientWantsUsage inc stream.ending
    (.tally context.start) stream.items
  rw [← relay_firstResult inc isFirst context] at endingEq
  unfold finaliseRelay at endingEq
  have entryEq := relayEntry_firstResult inc isFirst context
  generalize loopResult context.clientWantsUsage stream.ending
    (.tally context.start) stream.items = result at endingEq entryEq ⊢
  obtain ⟨counts, ending⟩ := result
  dsimp only at endingEq entryEq ⊢
  constructor
  · rintro ⟨sameEnding, entry, isEntry, areWhole⟩
    rw [entryEq] at isEntry
    rw [endingEq] at sameEnding
    cases recorded : recordProviderMetrics inc counts with
    | error thrown =>
        rw [recorded] at isEntry
        cases isEntry
    | ok _ =>
        rw [recorded] at isEntry sameEnding
        obtain ⟨tally, isTally, rfl⟩ := Option.map_eq_some_iff.1 isEntry
        exact ⟨sameEnding, (counts.areWhole_iff context _).2 ⟨tally, isTally, areWhole⟩⟩
  · rintro ⟨rfl, areWhole⟩
    have recorded : recordProviderMetrics inc counts = .ok () := by
      rw [recordProviderMetrics, accepts "prompt" _ areWhole.1]
      exact accepts "completion" _ areWhole.2
    rw [recorded] at endingEq entryEq
    obtain ⟨tally, isTally, logsWhole⟩ := (counts.areWhole_iff context
      (match stream.ending with
        | .finished => false
        | .threw _ => true)).1 areWhole
    exact ⟨endingEq, _, by rw [entryEq, isTally]; rfl, logsWhole⟩

/-- The generator raises nothing of its own and logs whole counts of tokens, however
the body of the provider ends, if and only if no value is `null`, no choices are
`null` where the client did not ask for usage, and the last usage, if there is one,
holds non-negative integers. The metrics are taken to accept those. -/
theorem relaysSafely_upstream_iff
    (accepts : ∀ direction count, count.IsWhole → inc direction count = .ok ())
    (context : StreamContext)
    (parse : String → Option Json)
    (events : List SSEEvent) :
    (∀ ending prepared,
      firstResult (upstreamStream parse events ending) = .ok prepared →
        RelaysSafely inc context (upstreamStream parse events ending) prepared) ↔
      CanBeRelayed context.clientWantsUsage (frameValues parse events) := by
  constructor
  · intro isSafe
    have isStream := upstreamStream_eq parse events .finished
    rw [ite_self] at isStream
    obtain ⟨prepared, isFirst⟩ : ∃ prepared,
        firstResult (upstreamStream parse events .finished) = .ok prepared := by
      rw [isStream]
      cases frameValues parse events <;> exact ⟨_, rfl⟩
    have facts := (relaysSafely_iff accepts context isFirst).1
      (isSafe .finished prepared isFirst)
    rw [isStream] at facts
    have canBeRead := canBeRead_of_finished facts.1
    refine ⟨canBeRead, ?_⟩
    rw [← areWhole_foldl_consumeValue (areWhole_start context)]
    have areWhole := facts.2
    rwa [loopResult_of_canBeRead canBeRead] at areWhole
  · rintro ⟨canBeRead, holdsCounts⟩ ending prepared isFirst
    rw [relaysSafely_iff accepts context isFirst, upstreamStream_eq,
      loopResult_of_canBeRead canBeRead]
    exact ⟨rfl, (areWhole_foldl_consumeValue (areWhole_start context) _).2
      holdsCounts⟩

section Sample

/-- The counter of the samples takes whole counts. -/
theorem sampleInc_of_isWhole
    (direction : String)
    (count : TokenCount)
    (isWhole : count.IsWhole) : sampleInc direction count = .ok () := by
  obtain ⟨tokens, isNumber⟩ := isWhole
  cases count with
  | number _ => rfl
  | sent reported =>
      cases reported with
      | none => rfl
      | some value =>
          cases value with
          | null => rfl
          | number number =>
              have valueEq : number.value = tokens := Option.some_inj.1 isNumber
              have unsigned : number.negative = false :=
                Decimal.negative_of_value_nonneg
                  (valueEq ▸ Nat.cast_nonneg tokens)
              rw [sampleInc, unsigned]
              rfl
          | _ => cases isNumber

/-- A call of a client that did not ask for usage. -/
def silentContext : StreamContext where
  apiKeyId := "key"
  providerId := "p"
  canonicalModel := "m"
  modelInfo := none
  failoverCount := 0
  clientWantsUsage := false
  promptEstimate := 1

/-- A value without choices, as upstreams send it for an error, is relayed safely. -/
theorem relaysSafely_error_value :
    let parse := fun _ : String => some (Json.object [("error", .object [])])
    let events := [dataEvent "\x7b\"error\":\x7b\x7d\x7d"]
    ∀ ending prepared,
      firstResult (upstreamStream parse events ending) = .ok prepared →
        RelaysSafely sampleInc silentContext (upstreamStream parse events ending)
          prepared :=
  (relaysSafely_upstream_iff sampleInc_of_isWhole silentContext _ _).2
    { canBeRead := by
        intro value isValue
        cases List.mem_singleton.1 isValue
        exact ⟨nofun, .inr nofun⟩
      holdsCounts := nofun }

/-- Choices that are `null` make `isUsageOnlyChunk` throw a `TypeError`. -/
theorem null_choices_end_the_stream :
    let parse := fun _ : String => some (Json.object [("choices", .null)])
    let events := [dataEvent "\x7b\"choices\":null\x7d"]
    ¬∀ ending prepared,
      firstResult (upstreamStream parse events ending) = .ok prepared →
        RelaysSafely sampleInc silentContext (upstreamStream parse events ending)
          prepared := by
  intro parse events isSafe
  have thrown : Ending.threw (nullRead "length") = .finished :=
    (isSafe .finished _ rfl).ending_eq
  cases thrown

end Sample

end Safety

end Routes
end AiGateway
