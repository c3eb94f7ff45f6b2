import AiGateway.Router.StreamDelivery

/-!
# The streaming branch of the completions route

The handler reads the stream that `prepareStream` returns and writes each chunk
to the socket. When the socket refuses more it waits for `drain`, unless the
response is destroyed. What the socket and the provider do is left open: they
are the events of the model, in any order. A response that has emitted `close`
emits no `drain`, and it need not emit `error`.
-/

namespace AiGateway
namespace Routes

open Foundations (EveryStep Yields runFrom runFrom_append runFrom_cons
  runFrom_induction)
open Router

section Model

/-- Where the handler stands. -/
inductive HandlerPhase
  /-- It awaits `router.prepareStream`. -/
  | preparing
  /-- It awaits the next chunk of `prep.stream`. -/
  | reading (generator : GeneratorState)
  /-- It awaits `once(reply.raw, 'drain')`. -/
  | waitingForDrain (generator : GeneratorState)
  | ended

/-- The handler of one request, and what it sees of `reply.raw`. -/
structure HandlerState where
  phase : HandlerPhase := .preparing
  /-- Has `prepareStream` returned a stream? -/
  prepared : Bool := false
  destroyed : Bool := false
  /-- Has the response emitted `close`? -/
  closed : Bool := false
  /-- What the generator did. -/
  trace : List StreamEvent := []

/-- What happens next. -/
inductive HandlerEvent
  /-- `prepareStream` returns, and the socket accepts the headers. -/
  | prepared (stream : CommittedStream)
  | prepareFailed
  /-- The next chunk or the end arrives; `accepted` is what `write` returns. -/
  | resumed (accepted : Bool)
  /-- The provider's stream rejects as `clientAbortSignal` is aborted. -/
  | upstreamAborted (error : Thrown)
  | drained
  | errored
  | destroyed
  | closed

/-- Is it a step of the handler or of the provider? -/
def HandlerEvent.ofHandlerOrUpstream : HandlerEvent → Bool
  | .prepared _ | .prepareFailed | .resumed _ | .upstreamAborted _ => true
  | .drained | .errored | .destroyed | .closed => false

/-- A provider's stream that rejects from now on. -/
def abortUpstream (error : Thrown) : GeneratorState → GeneratorState
  | .created .empty => .created .empty
  | .created (.begins first _) =>
      .created (.begins first { items := [], ending := .threw error })
  | .suspended tally _ =>
      .suspended tally { items := [], ending := .threw error }
  | .completed => .completed

namespace HandlerPhase

/-- Does the handler wait for `drain`? -/
def Waits : HandlerPhase → Prop
  | .waitingForDrain _ => True
  | _ => False

/-- The generator, if there is one, after its upstream was aborted. -/
def abort (error : Thrown) : HandlerPhase → HandlerPhase
  | .reading generator => .reading (abortUpstream error generator)
  | .waitingForDrain generator =>
      .waitingForDrain (abortUpstream error generator)
  | phase => phase

/-- `once` settles, and the loop calls `next` again. -/
def stopWaiting : HandlerPhase → HandlerPhase
  | .waitingForDrain generator => .reading generator
  | phase => phase

end HandlerPhase

namespace HandlerState

variable (context : StreamContext)

/-- The loop body for what `next` gives; a stream that finishes or throws ends
the response. -/
def resume
    (state : HandlerState)
    (generator : GeneratorState)
    (accepted : Bool) : HandlerState :=
  let (events, generator) := context.call generator .next
  let state := { state with trace := state.trace ++ events }
  match generator with
  | .completed => { state with phase := .ended }
  | generator =>
      if !accepted && !state.destroyed then
        { state with phase := .waitingForDrain generator }
      else
        { state with phase := .reading generator }

/-- One event; an event that cannot happen changes nothing. -/
def step (state : HandlerState) : HandlerEvent → HandlerState
  | .prepared stream =>
      match state.phase with
      | .preparing =>
          { state with phase := .reading (.created stream), prepared := true }
      | _ => state
  | .prepareFailed =>
      match state.phase with
      | .preparing => { state with phase := .ended }
      | _ => state
  | .resumed accepted =>
      match state.phase with
      | .reading generator => state.resume context generator accepted
      | _ => state
  | .upstreamAborted error =>
      if state.closed then
        { state with phase := state.phase.abort error }
      else
        state
  | .drained =>
      if state.closed then
        state
      else
        { state with phase := state.phase.stopWaiting }
  | .errored => { state with phase := state.phase.stopWaiting }
  | .destroyed => { state with destroyed := true }
  | .closed => { state with destroyed := true, closed := true }

/-- The generator is finalised: its cost is charged and its request logged,
once. -/
def Recorded (trace : List StreamEvent) : Prop :=
  ∃ entry, accounts trace =
    [.addSpend context.apiKeyId entry.costUsd, .enqueueRequest entry]

/-- The handler and the provider can take it from here to the end, whatever the
socket does not do; a stream that was prepared is finalised then. -/
def CanFinalise (state : HandlerState) : Prop :=
  ∃ events : List HandlerEvent,
    (∀ event ∈ events, event.ofHandlerOrUpstream = true) ∧
      (runFrom (step context) state events).phase = .ended ∧
      ((runFrom (step context) state events).prepared = true →
        Recorded context (runFrom (step context) state events).trace)

end HandlerState

end Model

section Invariant

variable {context : StreamContext}

variable (context) in
/-- What a call of `next` logs. -/
theorem accounts_next
    {generator : GeneratorState}
    (running : generator ≠ .completed) :
    (∃ entry, (context.call generator .next).2 = .completed ∧
        accounts (context.call generator .next).1 =
          [.addSpend context.apiKeyId entry.costUsd, .enqueueRequest entry]) ∨
      (context.call generator .next).2 ≠ .completed ∧
        accounts (context.call generator .next).1 = [] := by
  have loop (ending : Foundations.Ending Thrown) (tally : Tally)
      (items : List OpenAI.ChatCompletionChunk) :
      (∃ entry, (context.forLoop ending tally items).2 = .completed ∧
          accounts (context.forLoop ending tally items).1 =
            [.addSpend context.apiKeyId entry.costUsd,
              .enqueueRequest entry]) ∨
        (context.forLoop ending tally items).2 ≠ .completed ∧
          accounts (context.forLoop ending tally items).1 = [] := by
    have follows := follows_forLoop context ending tally items
    revert follows
    rcases context.forLoop ending tally items with
      ⟨trace, _ | ⟨after, rest⟩ | _⟩
    · exact False.elim
    · exact fun follows => .inr ⟨nofun, follows.2.2.2.2.1⟩
    · exact fun follows => .inl ⟨_, rfl, follows.2.2.1⟩
  cases generator with
  | created stream =>
      change (∃ entry, (context.firstNext stream).2 = _ ∧
          accounts (context.firstNext stream).1 = _) ∨
        (context.firstNext stream).2 ≠ _ ∧
          accounts (context.firstNext stream).1 = _
      rw [firstNext_eq]
      exact loop _ _ _
  | suspended tally rest => exact loop _ _ _
  | completed => exact absurd rfl running

variable (context) in
/-- A chunk that is written, or the end: the socket is left as it was. -/
theorem resume_cases
    {state : HandlerState}
    {generator : GeneratorState}
    (running : generator ≠ .completed)
    (noAccount : accounts state.trace = [])
    (accepted : Bool) :
    let after := state.resume context generator accepted
    (after.closed = state.closed ∧ after.destroyed = state.destroyed ∧
        after.prepared = state.prepared) ∧
      (after.phase = .ended ∧ HandlerState.Recorded context after.trace ∨
        ∃ next, next ≠ .completed ∧ accounts after.trace = [] ∧
          remaining next < remaining generator ∧
          after.phase =
            if !accepted && !state.destroyed then
              .waitingForDrain next
            else
              .reading next) := by
  have logged := accounts_next context running
  have progress := next_progress context generator
  revert logged progress
  unfold HandlerState.resume HandlerState.Recorded
  rcases context.call generator .next with ⟨events, next⟩
  rintro (⟨entry, isCompleted, entryEq⟩ | ⟨notCompleted, stillNone⟩) progress
  · cases isCompleted
    refine ⟨⟨rfl, rfl, rfl⟩, .inl ⟨rfl, entry, ?_⟩⟩
    rw [accounts_append, noAccount, List.nil_append, entryEq]
  · have shorter : remaining next < remaining generator :=
      progress.resolve_left notCompleted
    have noAccountAfter : accounts (state.trace ++ events) = [] := by
      rw [accounts_append, noAccount, stillNone, List.append_nil]
    cases next with
    | completed => exact absurd rfl notCompleted
    | created stream =>
        dsimp only
        split_ifs <;>
          exact ⟨⟨rfl, rfl, rfl⟩,
            .inr ⟨_, notCompleted, noAccountAfter, shorter, rfl⟩⟩
    | suspended tally rest =>
        dsimp only
        split_ifs <;>
          exact ⟨⟨rfl, rfl, rfl⟩,
            .inr ⟨_, notCompleted, noAccountAfter, shorter, rfl⟩⟩

/-- What was logged in a phase. -/
def SoundPhase
    (context : StreamContext)
    (prepared : Bool)
    (trace : List StreamEvent) : HandlerPhase → Prop
  | .preparing => prepared = false ∧ accounts trace = []
  | .reading generator | .waitingForDrain generator =>
      generator ≠ .completed ∧ accounts trace = []
  | .ended => prepared = true → HandlerState.Recorded context trace

/-- What holds of the handler, whatever happens. -/
structure Sound (context : StreamContext) (state : HandlerState) : Prop where
  destroyed_of_closed : state.closed = true → state.destroyed = true
  phase : SoundPhase context state.prepared state.trace state.phase

theorem sound_start : Sound context {} where
  destroyed_of_closed := nofun
  phase := ⟨rfl, rfl⟩

theorem abortUpstream_ne_completed
    {generator : GeneratorState}
    (running : generator ≠ .completed)
    (error : Thrown) : abortUpstream error generator ≠ .completed := by
  rcases generator with (_ | _) | _ | _
  · exact nofun
  · exact nofun
  · exact nofun
  · exact running

theorem SoundPhase.abort
    {prepared : Bool}
    {trace : List StreamEvent}
    {phase : HandlerPhase}
    (sound : SoundPhase context prepared trace phase)
    (error : Thrown) : SoundPhase context prepared trace (phase.abort error) := by
  cases phase with
  | preparing => exact sound
  | reading generator => exact sound.imp_left (abortUpstream_ne_completed · error)
  | waitingForDrain generator =>
      exact sound.imp_left (abortUpstream_ne_completed · error)
  | ended => exact sound

theorem SoundPhase.stopWaiting
    {prepared : Bool}
    {trace : List StreamEvent}
    {phase : HandlerPhase}
    (sound : SoundPhase context prepared trace phase) :
    SoundPhase context prepared trace phase.stopWaiting := by
  cases phase <;> exact sound

theorem Sound.resume
    {state : HandlerState}
    (sound : Sound context state)
    {generator : GeneratorState}
    (reads : state.phase = .reading generator)
    (accepted : Bool) :
    Sound context (state.resume context generator accepted) := by
  have running := sound.phase
  rw [reads] at running
  obtain ⟨⟨sameClosed, sameDestroyed, samePrepared⟩, ends⟩ :=
    resume_cases context running.1 running.2 accepted
  refine ⟨by rw [sameClosed, sameDestroyed]; exact sound.destroyed_of_closed,
    ?_⟩
  rcases ends with ⟨ended, recorded⟩ |
    ⟨next, notCompleted, noAccount, -, phaseEq⟩
  · rw [ended]
    exact fun _ => recorded
  · rw [phaseEq]
    split_ifs <;> exact ⟨notCompleted, noAccount⟩

/-- Every event keeps it. -/
theorem Sound.step
    {state : HandlerState}
    (sound : Sound context state)
    (event : HandlerEvent) : Sound context (state.step context event) := by
  obtain ⟨phase, prepared, destroyed, closed, trace⟩ := state
  obtain ⟨destroyed_of_closed, soundPhase⟩ := sound
  cases event with
  | prepared stream =>
      cases phase with
      | preparing => exact ⟨destroyed_of_closed, nofun, soundPhase.2⟩
      | _ => exact ⟨destroyed_of_closed, soundPhase⟩
  | prepareFailed =>
      cases phase with
      | preparing =>
          refine ⟨destroyed_of_closed, fun isPrepared => ?_⟩
          cases soundPhase.1.symm.trans isPrepared
      | _ => exact ⟨destroyed_of_closed, soundPhase⟩
  | resumed accepted =>
      cases phase with
      | reading generator =>
          exact Sound.resume ⟨destroyed_of_closed, soundPhase⟩ rfl accepted
      | _ => exact ⟨destroyed_of_closed, soundPhase⟩
  | upstreamAborted error =>
      cases closed with
      | false => exact ⟨destroyed_of_closed, soundPhase⟩
      | true => exact ⟨destroyed_of_closed, soundPhase.abort error⟩
  | drained =>
      cases closed with
      | false => exact ⟨destroyed_of_closed, soundPhase.stopWaiting⟩
      | true => exact ⟨destroyed_of_closed, soundPhase⟩
  | errored => exact ⟨destroyed_of_closed, soundPhase.stopWaiting⟩
  | destroyed => exact ⟨fun _ => rfl, soundPhase⟩
  | closed => exact ⟨fun _ => rfl, soundPhase⟩

end Invariant

section Progress

variable {context : StreamContext}

/-- A handler that reads after the response was destroyed comes to its end. -/
theorem runFrom_resumed
    {state : HandlerState}
    (sound : Sound context state)
    (destroyed : state.destroyed = true)
    {generator : GeneratorState}
    (reads : state.phase = .reading generator)
    {count : Nat}
    (enough : remaining generator < count) :
    let after := runFrom (HandlerState.step context) state
      (.replicate count (.resumed false))
    after.phase = .ended := by
  induction count generalizing state generator with
  | zero => exact absurd enough (Nat.not_lt_zero _)
  | succ count inductionHypothesis =>
      have running := sound.phase
      rw [reads] at running
      obtain ⟨⟨-, sameDestroyed, -⟩, ends⟩ :=
        resume_cases context running.1 running.2 false
      have stepEq : state.step context (.resumed false) =
          state.resume context generator false := by
        rw [HandlerState.step, reads]
      rw [List.replicate_succ, runFrom_cons, stepEq]
      rcases ends with ⟨ended, -⟩ | ⟨next, -, -, shorter, phaseEq⟩
      · refine runFrom_induction
          (fun state : HandlerState => state.phase = .ended)
          (fun state event isEvent ended => ?_) ended
        obtain rfl := List.eq_of_mem_replicate isEvent
        rw [HandlerState.step, ended]
        exact ended
      · rw [destroyed] at phaseEq
        exact inductionHypothesis (sound.resume reads false)
          (sameDestroyed.trans destroyed) phaseEq
          (Nat.lt_of_lt_of_le shorter (Nat.le_of_lt_succ enough))

variable (context) in
/-- Without the socket a closed handler that waits goes on waiting. -/
theorem waits_after
    {state : HandlerState}
    (closed : state.closed = true)
    (waits : state.phase.Waits)
    {events : List HandlerEvent}
    (noSocket : ∀ event ∈ events, event.ofHandlerOrUpstream = true) :
    (runFrom (HandlerState.step context) state events).phase.Waits := by
  refine (runFrom_induction
    (fun state : HandlerState => state.closed = true ∧ state.phase.Waits)
    (fun state event isEvent holds => ?_) ⟨closed, waits⟩).2
  have noSocket := noSocket event isEvent
  obtain ⟨_ | _ | generator | _, prepared, destroyed, closed, trace⟩ := state
  · exact holds.2.elim
  · exact holds.2.elim
  · cases event with
    | prepared | prepareFailed | resumed => exact holds
    | upstreamAborted error =>
        rw [HandlerState.step, if_pos holds.1]
        exact ⟨holds.1, trivial⟩
    | drained | errored | destroyed | closed => cases noSocket
  · exact holds.2.elim

/-- Once the response has emitted `close`, the handler can finalise the stream
exactly if it does not wait for `drain`. -/
theorem canFinalise_iff
    {state : HandlerState}
    (sound : Sound context state)
    (closed : state.closed = true) :
    state.CanFinalise context ↔ ¬ state.phase.Waits := by
  constructor
  · rintro ⟨events, noSocket, ended, -⟩ waits
    have stillWaits := waits_after context closed waits noSocket
    rw [ended] at stillWaits
    exact stillWaits
  · intro notWaiting
    cases phaseEq : state.phase with
    | preparing =>
        have unprepared := sound.phase
        rw [phaseEq] at unprepared
        refine ⟨[.prepareFailed], by simp [HandlerEvent.ofHandlerOrUpstream],
          ?_⟩
        simp [HandlerState.step, phaseEq, unprepared.1]
    | reading generator =>
        refine ⟨.replicate (remaining generator + 1) (.resumed false),
          fun event isEvent => ?_,
          runFrom_resumed sound (sound.destroyed_of_closed closed) phaseEq
            (Nat.lt_succ_self _), ?_⟩
        · rw [List.eq_of_mem_replicate isEvent]
          rfl
        · have soundAfter : Sound context (runFrom (HandlerState.step context)
              state (.replicate (remaining generator + 1) (.resumed false))) :=
            runFrom_induction (Sound context)
              (fun _ event _ sound => sound.step event) sound
          have recorded := soundAfter.phase
          rw [runFrom_resumed sound (sound.destroyed_of_closed closed) phaseEq
            (Nat.lt_succ_self _)] at recorded
          exact recorded
    | waitingForDrain generator =>
        rw [phaseEq] at notWaiting
        exact absurd trivial notWaiting
    | ended =>
        have recorded := sound.phase
        rw [phaseEq] at recorded
        exact ⟨[], by simp, phaseEq, recorded⟩

end Progress

section Closing

variable {context : StreamContext}

/-- The handler does not wait for `drain` after `close`. -/
structure Unblocked (context : StreamContext) (state : HandlerState) : Prop where
  sound : Sound context state
  reads : state.closed = true → ¬ state.phase.Waits

theorem not_waits_stopWaiting (phase : HandlerPhase) :
    ¬ phase.stopWaiting.Waits := by
  cases phase <;> exact id

theorem waits_abort_iff (phase : HandlerPhase) (error : Thrown) :
    (phase.abort error).Waits ↔ phase.Waits := by
  cases phase <;> exact Iff.rfl

/-- After `close` a chunk is written without waiting. -/
theorem not_waits_resume
    {state : HandlerState}
    (sound : Sound context state)
    {generator : GeneratorState}
    (isReading : state.phase = .reading generator)
    (accepted : Bool)
    (closed : (state.resume context generator accepted).closed = true) :
    ¬ (state.resume context generator accepted).phase.Waits := by
  have running := sound.phase
  rw [isReading] at running
  obtain ⟨⟨sameClosed, -, -⟩, ends⟩ :=
    resume_cases context running.1 running.2 accepted
  have destroyed := sound.destroyed_of_closed (sameClosed.symm.trans closed)
  rcases ends with ⟨ended, -⟩ | ⟨next, -, -, -, nextEq⟩
  · rw [ended]
    exact id
  · rw [nextEq, destroyed, Bool.not_true, Bool.and_false]
    exact id

/-- A response that closes while the handler does not wait finds it so. -/
theorem Unblocked.step
    {state : HandlerState}
    (unblocked : Unblocked context state)
    {event : HandlerEvent}
    (closesReading : event = .closed → ¬ state.phase.Waits) :
    Unblocked context (state.step context event) := by
  refine ⟨unblocked.sound.step event, fun closed => ?_⟩
  obtain ⟨sound, reads⟩ := unblocked
  obtain ⟨phase, prepared, destroyed, isClosed, trace⟩ := state
  cases event with
  | prepared stream =>
      cases phase with
      | preparing => exact id
      | _ => exact reads closed
  | prepareFailed =>
      cases phase with
      | preparing => exact id
      | _ => exact reads closed
  | resumed accepted =>
      cases phase with
      | reading generator => exact not_waits_resume sound rfl accepted closed
      | _ => exact reads closed
  | upstreamAborted error =>
      cases isClosed with
      | false => exact reads closed
      | true => exact (waits_abort_iff phase error).not.2 (reads rfl)
  | drained =>
      cases isClosed with
      | false => exact not_waits_stopWaiting phase
      | true => exact reads rfl
  | errored => exact not_waits_stopWaiting phase
  | destroyed => exact reads closed
  | closed => exact closesReading rfl

/-- In every state of a run in which the response has emitted `close` the handler
can go on and finalise the stream, if and only if no `close` comes while the
handler waits for `drain`. -/
theorem canFinalise_iff_closes_reading
    (context : StreamContext)
    (events : List HandlerEvent) :
    EveryStep (HandlerState.step context)
        (fun state event => (state.step context event).closed = true →
          (state.step context event).CanFinalise context) {} events ↔
      EveryStep (HandlerState.step context)
        (fun state event => event = .closed → ¬ state.phase.Waits) {} events := by
  have initially : Unblocked context {} := ⟨sound_start, nofun⟩
  constructor
  · have closesReading (state : HandlerState) (event : HandlerEvent)
        (unblocked : Unblocked context state)
        (finalises : (state.step context event).closed = true →
          (state.step context event).CanFinalise context)
        (isClosed : event = .closed) : ¬ state.phase.Waits := by
      subst isClosed
      exact (canFinalise_iff (unblocked.sound.step .closed) rfl).1
        (finalises rfl)
    exact EveryStep.of_invariant (Unblocked context)
      (fun state event unblocked finalises =>
        unblocked.step (closesReading state event unblocked finalises))
      closesReading initially
  · refine EveryStep.of_invariant (Unblocked context)
      (fun state event unblocked closesReading => unblocked.step closesReading)
      (fun state event unblocked closesReading closed => ?_) initially
    have after := unblocked.step closesReading
    exact (canFinalise_iff after.sound closed).2 (after.reads closed)

/-- A client that goes away while the socket is full leaves the handler waiting
for good. -/
theorem not_canFinalise_of_close_while_waiting :
    ¬ ∀ (context : StreamContext) (events : List HandlerEvent),
      (runFrom (HandlerState.step context) {} events).closed = true →
        (runFrom (HandlerState.step context) {} events).CanFinalise context := by
  intro finalises
  let context : StreamContext :=
    { apiKeyId := "key"
      providerId := "p"
      canonicalModel := "m"
      modelInfo := none
      failoverCount := 0
      clientWantsUsage := false
      promptEstimate := 1 }
  let events : List HandlerEvent :=
    [.prepared (.begins twoChoices { items := [], ending := .finished }),
      .resumed false, .closed]
  have sound : Sound context
      (runFrom (HandlerState.step context) {} events) :=
    runFrom_induction (Sound context) (fun _ event _ sound => sound.step event)
      sound_start
  exact (canFinalise_iff sound rfl).1 (finalises context events rfl) trivial

end Closing

end Routes
end AiGateway
