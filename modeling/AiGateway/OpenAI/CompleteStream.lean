import AiGateway.OpenAI.Chunks

/-!
# Complete streams

A complete stream opens the message with one role chunk, goes on with content
and tool-call chunks, and closes with one finish chunk and, if it is wanted, one
usage chunk. What an adapter sends for its events is in order if it opens the
message before it sends any delta.
-/

namespace AiGateway
namespace OpenAI

open Foundations (Transducer)

section Complete

variable (header : StreamHeader)

/-- A content chunk or a tool-call chunk. -/
inductive IsDelta : ChatCompletionChunk → Prop
  | content (text : String) : IsDelta (makeContentChunk header text)
  | toolCall (call : ToolCallDelta) : IsDelta (makeToolCallChunk header call)

/-- The chunks after the deltas. -/
def closingChunks
    (wantUsage : Bool)
    (finishReason : FinishReason)
    (usage : CompletionUsage) : List ChatCompletionChunk :=
  makeFinishChunk header finishReason ::
    if wantUsage then [makeUsageChunk header usage] else []

/-- A role chunk, any number of deltas, a finish chunk, and a usage chunk if and
only if it is wanted. -/
def IsComplete (wantUsage : Bool) (chunks : List ChatCompletionChunk) : Prop :=
  ∃ deltas finishReason usage, (∀ chunk ∈ deltas, IsDelta header chunk) ∧
    chunks = makeRoleChunk header :: deltas ++
      closingChunks header wantUsage finishReason usage

variable {header} {wantUsage : Bool} {chunks : List ChatCompletionChunk}

/-- Is it the chunk that opens the message? -/
def ChatCompletionChunk.hasRole (chunk : ChatCompletionChunk) : Bool :=
  chunk.choices.any fun choice => choice.delta.hasRole

/-- Is it a chunk that finishes the message? -/
def ChatCompletionChunk.isFinish (chunk : ChatCompletionChunk) : Bool :=
  chunk.choices.any fun choice => choice.finishReason.isSome

/-- The deltas of tool calls that a chunk carries. -/
def toolCallDeltas (chunk : ChatCompletionChunk) : List ToolCallDelta :=
  chunk.choices.flatMap fun choice => choice.delta.toolCalls.getD []

@[simp] theorem toolCallDeltas_makeRoleChunk :
    toolCallDeltas (makeRoleChunk header) = [] := rfl

@[simp] theorem toolCallDeltas_makeContentChunk (content : String) :
    toolCallDeltas (makeContentChunk header content) = [] := rfl

@[simp] theorem toolCallDeltas_makeToolCallChunk (call : ToolCallDelta) :
    toolCallDeltas (makeToolCallChunk header call) = [call] := rfl

@[simp] theorem toolCallDeltas_closingChunks
    (finishReason : FinishReason)
    (usage : CompletionUsage) :
    (closingChunks header wantUsage finishReason usage).flatMap toolCallDeltas =
      [] := by
  cases wantUsage <;> rfl

@[simp] theorem hasRole_makeRoleChunk :
    (makeRoleChunk header).hasRole = true := rfl

@[simp] theorem hasRole_makeFinishChunk (finishReason : FinishReason) :
    (makeFinishChunk header finishReason).hasRole = false := rfl

@[simp] theorem isFinish_makeRoleChunk :
    (makeRoleChunk header).isFinish = false := rfl

@[simp] theorem isFinish_makeFinishChunk (finishReason : FinishReason) :
    (makeFinishChunk header finishReason).isFinish = true := rfl

theorem IsDelta.hasRole_eq_false
    {chunk : ChatCompletionChunk}
    (isDelta : IsDelta header chunk) : chunk.hasRole = false := by
  cases isDelta <;> rfl

theorem IsDelta.isFinish_eq_false
    {chunk : ChatCompletionChunk}
    (isDelta : IsDelta header chunk) : chunk.isFinish = false := by
  cases isDelta <;> rfl

/-- A complete stream begins with the role. -/
theorem IsComplete.head_hasRole
    {chunk : ChatCompletionChunk}
    (complete : IsComplete header wantUsage (chunk :: chunks)) :
    chunk.hasRole = true := by
  obtain ⟨deltas, finishReason, usage, -, chunksEq⟩ := complete
  obtain ⟨rfl, -⟩ := List.cons.inj chunksEq
  rfl

/-- A complete stream is finished. -/
theorem IsComplete.exists_isFinish (complete : IsComplete header wantUsage chunks) :
    ∃ chunk ∈ chunks, chunk.isFinish = true := by
  obtain ⟨deltas, finishReason, usage, -, rfl⟩ := complete
  exact ⟨makeFinishChunk header finishReason, by simp [closingChunks], rfl⟩

end Complete

section Ordered

variable (header : StreamHeader)

/-- What may be sent next, given whether the message is open before and after:
deltas once it is open, and the role chunk that opens it first. -/
def InOrder : Bool → List ChatCompletionChunk → Bool → Prop
  | true, chunks, after =>
      after = true ∧ ∀ chunk ∈ chunks, IsDelta header chunk
  | false, chunks, after =>
      (after = false ∧ chunks = []) ∨
        after = true ∧ ∃ deltas, (∀ chunk ∈ deltas, IsDelta header chunk) ∧
          chunks = makeRoleChunk header :: deltas

variable {header}

theorem InOrder.nothing (opened : Bool) : InOrder header opened [] opened := by
  cases opened with
  | true => exact ⟨rfl, by simp⟩
  | false => exact .inl ⟨rfl, rfl⟩

/-- The chunk that opens the message, if it is not open yet. -/
theorem InOrder.role (opened : Bool) :
    InOrder header opened (if opened then [] else [makeRoleChunk header])
      true := by
  cases opened with
  | true => exact ⟨rfl, by simp⟩
  | false => exact .inr ⟨rfl, [], by simp, rfl⟩

theorem InOrder.append
    {first second third : Bool}
    {chunks later : List ChatCompletionChunk}
    (ordered : InOrder header first chunks second)
    (orderedLater : InOrder header second later third) :
    InOrder header first (chunks ++ later) third := by
  cases first with
  | true =>
      obtain ⟨rfl, areDeltas⟩ := ordered
      obtain ⟨rfl, areLater⟩ := orderedLater
      exact ⟨rfl, List.forall_mem_append.2 ⟨areDeltas, areLater⟩⟩
  | false =>
      rcases ordered with ⟨rfl, rfl⟩ | ⟨rfl, deltas, areDeltas, rfl⟩
      · exact orderedLater
      · obtain ⟨rfl, areLater⟩ := orderedLater
        exact .inr ⟨rfl, deltas ++ later,
          List.forall_mem_append.2 ⟨areDeltas, areLater⟩, rfl⟩

/-- A delta follows once the message is open. -/
theorem InOrder.delta
    {chunk : ChatCompletionChunk}
    (isDelta : IsDelta header chunk) :
    InOrder header true [chunk] true :=
  ⟨rfl, by simpa using isDelta⟩

/-- Chunks in order do not finish the message. -/
theorem InOrder.isFinish_eq_false
    {opened after : Bool}
    {chunks : List ChatCompletionChunk}
    (ordered : InOrder header opened chunks after) :
    ∀ chunk ∈ chunks, chunk.isFinish = false := by
  have ofDeltas : ∀ {deltas : List ChatCompletionChunk},
      (∀ chunk ∈ deltas, IsDelta header chunk) →
        ∀ chunk ∈ deltas, chunk.isFinish = false :=
    fun areDeltas chunk isChunk => (areDeltas chunk isChunk).isFinish_eq_false
  cases opened with
  | true => exact ofDeltas ordered.2
  | false =>
      rcases ordered with ⟨-, rfl⟩ | ⟨-, deltas, areDeltas, rfl⟩
      · simp
      · exact List.forall_mem_cons.2 ⟨rfl, ofDeltas areDeltas⟩

/-- Chunks in order that open the message are completed by the closing
chunks. -/
theorem InOrder.isComplete
    {chunks : List ChatCompletionChunk}
    (ordered : InOrder header false chunks true)
    (wantUsage : Bool)
    (finishReason : FinishReason)
    (usage : CompletionUsage) :
    IsComplete header wantUsage
      (chunks ++ closingChunks header wantUsage finishReason usage) := by
  rcases ordered with ⟨isFalse, -⟩ | ⟨-, deltas, areDeltas, rfl⟩
  · cases isFalse
  · exact ⟨deltas, finishReason, usage, areDeltas, rfl⟩

end Ordered

section Reading

/-- How the items of a source make an adapter send chunks: some open the message
unless it is open already, some send a delta whether it is open or not, and the
others send nothing. -/
structure MessageReading
    (header : StreamHeader)
    (adapter : Transducer σ ι ChatCompletionChunk ε) where
  /-- The items after which the adapter goes on. -/
  Reads : ι → Prop
  opened : σ → Bool
  opens : ι → Bool
  carries : ι → Bool
  of_opens : ∀ state item, Reads item → opens item = true →
    InOrder header (opened state) (adapter.output state item) true ∧
      opened (adapter.after state item) = true
  of_carries : ∀ state item, Reads item → opens item = false →
    carries item = true →
      (∃ chunk, IsDelta header chunk ∧ adapter.output state item = [chunk]) ∧
        opened (adapter.after state item) = opened state
  of_silent : ∀ state item, Reads item → opens item = false →
    carries item = false →
      adapter.output state item = [] ∧
        opened (adapter.after state item) = opened state

namespace MessageReading

variable
  {header : StreamHeader}
  {adapter : Transducer σ ι ChatCompletionChunk ε}
  (reading : MessageReading header adapter)

/-- The first item for which something is sent. -/
def first (items : List ι) : Option ι :=
  items.find? fun item => reading.opens item || reading.carries item

variable {reading} {item : ι} {items : List ι}

theorem first_cons_of_opens (opens : reading.opens item = true) :
    reading.first (item :: items) = some item :=
  List.find?_cons_of_pos (by simp [opens])

theorem first_cons_of_carries (carries : reading.carries item = true) :
    reading.first (item :: items) = some item :=
  List.find?_cons_of_pos (by simp [carries])

theorem first_cons_of_silent
    (notOpens : reading.opens item = false)
    (notCarries : reading.carries item = false) :
    reading.first (item :: items) = reading.first items :=
  List.find?_cons_of_neg (by simp [notOpens, notCarries])

/-- Once the message is open, everything that is sent is in order. -/
theorem inOrder_of_opened
    {state : σ}
    (opened : reading.opened state = true)
    (reads : ∀ item ∈ items, reading.Reads item) :
    InOrder header true (adapter.outputAll state items) true ∧
      reading.opened (adapter.afterAll state items) = true := by
  induction items generalizing state with
  | nil => exact ⟨.nothing true, opened⟩
  | cons item items inductionHypothesis =>
      obtain ⟨readsNow, readsLater⟩ := List.forall_mem_cons.1 reads
      rw [Transducer.outputAll_cons]
      cases opens : reading.opens item with
      | true =>
          obtain ⟨ordered, openedAfter⟩ :=
            reading.of_opens state item readsNow opens
          obtain ⟨orderedLater, openedLater⟩ :=
            inductionHypothesis openedAfter readsLater
          rw [opened] at ordered
          exact ⟨ordered.append orderedLater, openedLater⟩
      | false =>
          cases carries : reading.carries item with
          | true =>
              obtain ⟨⟨chunk, isDelta, outputEq⟩, sameOpened⟩ :=
                reading.of_carries state item readsNow opens carries
              obtain ⟨orderedLater, openedLater⟩ :=
                inductionHypothesis (sameOpened.trans opened) readsLater
              rw [outputEq]
              exact ⟨(InOrder.delta isDelta).append orderedLater, openedLater⟩
          | false =>
              obtain ⟨outputEq, sameOpened⟩ :=
                reading.of_silent state item readsNow opens carries
              rw [outputEq]
              exact inductionHypothesis (sameOpened.trans opened) readsLater

/-- Nothing is sent if there is no item to send anything for. -/
theorem outputAll_of_first_eq_none
    (state : σ)
    (reads : ∀ item ∈ items, reading.Reads item)
    (noFirst : reading.first items = none) :
    adapter.outputAll state items = [] ∧
      reading.opened (adapter.afterAll state items) = reading.opened state := by
  induction items generalizing state with
  | nil => exact ⟨rfl, rfl⟩
  | cons item items inductionHypothesis =>
      obtain ⟨readsNow, readsLater⟩ := List.forall_mem_cons.1 reads
      have silent := List.find?_eq_none.1 noFirst item List.mem_cons_self
      rw [Bool.not_eq_true, Bool.or_eq_false_iff] at silent
      obtain ⟨notOpens, notCarries⟩ := silent
      rw [first_cons_of_silent notOpens notCarries] at noFirst
      obtain ⟨outputEq, sameOpened⟩ :=
        reading.of_silent state item readsNow notOpens notCarries
      obtain ⟨outputLater, sameLater⟩ :=
        inductionHypothesis (adapter.after state item) readsLater noFirst
      rw [Transducer.outputAll_cons, Transducer.afterAll_cons, outputEq,
        outputLater]
      exact ⟨rfl, sameLater.trans sameOpened⟩

/-- If the message is opened before anything is sent, all is in order. -/
theorem inOrder_of_first_opens
    (state : σ)
    (reads : ∀ item ∈ items, reading.Reads item)
    {firstItem : ι}
    (isFirst : reading.first items = some firstItem)
    (opens : reading.opens firstItem = true) :
    InOrder header (reading.opened state) (adapter.outputAll state items)
        true ∧
      reading.opened (adapter.afterAll state items) = true := by
  induction items generalizing state with
  | nil => cases isFirst
  | cons item items inductionHypothesis =>
      obtain ⟨readsNow, readsLater⟩ := List.forall_mem_cons.1 reads
      rw [Transducer.outputAll_cons]
      cases opensNow : reading.opens item with
      | true =>
          obtain ⟨ordered, openedAfter⟩ :=
            reading.of_opens state item readsNow opensNow
          obtain ⟨orderedLater, openedLater⟩ :=
            inOrder_of_opened openedAfter readsLater
          exact ⟨ordered.append orderedLater, openedLater⟩
      | false =>
          cases carries : reading.carries item with
          | true =>
              rw [first_cons_of_carries carries, Option.some.injEq] at isFirst
              rw [isFirst, opens] at opensNow
              cases opensNow
          | false =>
              obtain ⟨outputEq, sameOpened⟩ :=
                reading.of_silent state item readsNow opensNow carries
              rw [first_cons_of_silent opensNow carries] at isFirst
              rw [outputEq, ← sameOpened]
              exact inductionHypothesis _ readsLater isFirst

/-- If something is sent before the message is opened, that comes first. -/
theorem outputAll_of_first_carries
    (state : σ)
    (reads : ∀ item ∈ items, reading.Reads item)
    {firstItem : ι}
    (isFirst : reading.first items = some firstItem)
    (notOpens : reading.opens firstItem = false) :
    ∃ chunk later, chunk.hasRole = false ∧
      adapter.outputAll state items = chunk :: later := by
  induction items generalizing state with
  | nil => cases isFirst
  | cons item items inductionHypothesis =>
      obtain ⟨readsNow, readsLater⟩ := List.forall_mem_cons.1 reads
      rw [Transducer.outputAll_cons]
      cases opens : reading.opens item with
      | true =>
          rw [first_cons_of_opens opens, Option.some.injEq] at isFirst
          rw [isFirst, notOpens] at opens
          cases opens
      | false =>
          cases carries : reading.carries item with
          | true =>
              obtain ⟨⟨chunk, isDelta, outputEq⟩, -⟩ :=
                reading.of_carries state item readsNow opens carries
              exact ⟨chunk, _, isDelta.hasRole_eq_false, by rw [outputEq]; rfl⟩
          | false =>
              obtain ⟨outputEq, -⟩ :=
                reading.of_silent state item readsNow opens carries
              rw [first_cons_of_silent opens carries] at isFirst
              rw [outputEq]
              exact inductionHypothesis _ readsLater isFirst

/-- Nothing that is sent for an item finishes the message. -/
theorem isFinish_of_mem_outputAll
    (state : σ)
    (reads : ∀ item ∈ items, reading.Reads item) :
    ∀ chunk ∈ adapter.outputAll state items, chunk.isFinish = false := by
  induction items generalizing state with
  | nil => simp
  | cons item items inductionHypothesis =>
      obtain ⟨readsNow, readsLater⟩ := List.forall_mem_cons.1 reads
      rw [Transducer.outputAll_cons]
      refine List.forall_mem_append.2 ⟨?_, inductionHypothesis _ readsLater⟩
      cases opens : reading.opens item with
      | true => exact (reading.of_opens state item readsNow opens).1.isFinish_eq_false
      | false =>
          cases carries : reading.carries item with
          | true =>
              obtain ⟨⟨chunk, isDelta, outputEq⟩, -⟩ :=
                reading.of_carries state item readsNow opens carries
              simpa [outputEq] using isDelta.isFinish_eq_false
          | false =>
              rw [(reading.of_silent state item readsNow opens carries).1]
              simp

end MessageReading

end Reading

end OpenAI
end AiGateway
