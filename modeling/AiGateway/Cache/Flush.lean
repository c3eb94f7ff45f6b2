import AiGateway.Foundations.Expiry
import AiGateway.Foundations.Runs
import Mathlib.Data.List.Infix

/-!
# Flushing the semantic cache

`flush` follows a `SCAN` over the keys of the cache and deletes what each reply
returns, while other clients write and delete keys and entries lapse. The store
promises to return the keys that are there from the beginning of the iteration to
its end, and no others are sure to be returned.

The main theorem says what that is worth: a flush that ends without an error
leaves no entry that was there all the while, and it touches no key outside the
cache.
-/

namespace AiGateway
namespace Cache

open Foundations (Key runFrom EveryStep)

section Keys

/-- `redisKeys.cacheEntry(fingerprint, prefix)`. -/
def cacheEntry (keyPrefix fingerprint : String) : String :=
  keyPrefix ++ "cache:" ++ fingerprint

/-- `redisKeys.cacheScanPattern(prefix)`. -/
def cacheScanPattern (keyPrefix : String) : String := keyPrefix ++ "cache:" ++ "*"

/-- `statKey(name)`. -/
def statKey (keyPrefix name : String) : String := keyPrefix ++ "cstats:" ++ name

/-- The key belongs to the cache. -/
def InCache (keyPrefix key : String) : Prop :=
  (keyPrefix ++ "cache:").toList <+: key.toList

instance (keyPrefix key : String) : Decidable (InCache keyPrefix key) :=
  inferInstanceAs (Decidable (_ <+: _))

/-- No symbol of a text is special in a pattern of the store. -/
def PlainText (text : String) : Prop := ∀ symbol ∈ text.toList, symbol ∉ "*?[\\".toList

instance (text : String) : Decidable (PlainText text) :=
  inferInstanceAs (Decidable (∀ symbol ∈ text.toList, _))

/-- A plain text with a star behind it matches what begins with the text. -/
def MatchesPrefixes (globMatch : String → String → Bool) : Prop :=
  ∀ text key, PlainText text →
    (globMatch (text ++ "*") key = true ↔ text.toList <+: key.toList)

theorem inCache_cacheEntry (keyPrefix fingerprint : String) :
    InCache keyPrefix (cacheEntry keyPrefix fingerprint) := by
  rw [InCache, cacheEntry, @String.toList_append (keyPrefix ++ "cache:")]
  exact List.prefix_append _ _

/-- The counters of the cache are not in it. -/
theorem not_inCache_statKey (keyPrefix name : String) :
    ¬ InCache keyPrefix (statKey keyPrefix name) := by
  rw [InCache, statKey, String.toList_append, String.toList_append,
    String.toList_append, List.append_assoc, List.prefix_append_right_inj]
  rintro ⟨rest, same⟩
  cases same

end Keys

section Model

/-- What a call of `flush` waits for. -/
inductive FlushStage
  | scanning
  /-- It deletes a batch, the last one when the cursor is back at `0`. -/
  | deleting (batch : List String) (last : Bool)
  | complete
  /-- The `catch`: it returns what it has counted so far. -/
  | failed
  deriving DecidableEq, Repr

/-- The store and one call of `flush`. -/
structure FlushState where
  clock : Nat
  keys : String → Key String
  stage : FlushStage := .scanning
  removed : Nat := 0
  /-- What `SCAN` has returned so far. -/
  returned : List String := []
  /-- The keys that have been there all the while. -/
  lasting : String → Bool

/-- What happens next. -/
inductive FlushEvent
  | elapse (ms : Nat)
  /-- Another client writes or deletes a key. -/
  | assign (key : String) (entry : Key String)
  /-- A reply to `SCAN`, the last one when its cursor is `0`. -/
  | scanned (batch : List String) (last : Bool)
  /-- `DEL` of the batch is answered. -/
  | deleted
  | failed
  deriving DecidableEq, Repr

namespace FlushState

variable (state : FlushState)

/-- The key is there. -/
def has (key : String) : Bool := ((state.keys key).visible state.clock).isSome

/-- The call begins. -/
def begin (clock : Nat) (keys : String → Key String) : FlushState where
  clock := clock
  keys := keys
  lasting key := ((keys key).visible clock).isSome

/-- The keys that are still there have been there all the while. -/
def observe : FlushState :=
  { state with lasting := fun key => state.lasting key && state.has key }

/-- `while (cursor !== '0')`. -/
def next (last : Bool) : FlushStage := if last then .complete else .scanning

/-- What an event changes. -/
def change : FlushEvent → FlushState
  | .elapse ms => { state with clock := state.clock + ms }
  | .assign key entry =>
      { state with
        keys := fun other => if other = key then entry else state.keys other }
  | .scanned batch last =>
      match state.stage with
      | .scanning =>
          { state with
            returned := state.returned ++ batch
            stage := if batch = [] then next last else .deleting batch last }
      | _ => state
  | .deleted =>
      match state.stage with
      | .deleting batch last =>
          { state with
            removed := state.removed + (batch.dedup.filter state.has).length
            keys := fun other => if other ∈ batch then none else state.keys other
            stage := next last }
      | _ => state
  | .failed =>
      match state.stage with
      | .scanning | .deleting .. => { state with stage := .failed }
      | _ => state

/-- One event. -/
def step (state : FlushState) (event : FlushEvent) : FlushState :=
  (state.change event).observe

/-- What the store promises of `SCAN`: it returns keys that are there and that the
pattern matches, and by the last reply all of them that were there all the
while. -/
def Promised
    (globMatch : String → String → Bool)
    (keyPrefix : String)
    (state : FlushState) : FlushEvent → Prop
  | .scanned batch last =>
      (∀ key ∈ batch, globMatch (cacheScanPattern keyPrefix) key = true) ∧
        (last = true → ∀ key, state.lasting key = true →
          globMatch (cacheScanPattern keyPrefix) key = true →
          key ∈ state.returned ++ batch)
  | .elapse _ | .assign .. | .deleted | .failed => True

end FlushState

end Model

section Steps

namespace FlushState

variable {globMatch : String → String → Bool} {keyPrefix : String}
  {state : FlushState}

/-- What happens leaves alone what has been observed. -/
theorem lasting_change (event : FlushEvent) :
    (state.change event).lasting = state.lasting := by
  cases event with
  | elapse ms => rfl
  | assign key entry => rfl
  | scanned batch last =>
      rw [change]
      cases state.stage <;> rfl
  | deleted =>
      rw [change]
      cases state.stage <;> rfl
  | failed =>
      rw [change]
      cases state.stage <;> rfl

/-- A key lasts as long as it is there. -/
theorem lasting_step {event : FlushEvent} {key : String} :
    (state.step event).lasting key = true ↔
      state.lasting key = true ∧ (state.step event).has key = true := by
  change ((state.change event).lasting key && _) = true ↔ _
  rw [lasting_change, Bool.and_eq_true]
  exact Iff.rfl

/-- What has been returned and still lasts is about to be deleted, and from the last
reply on every lasting key of the cache has been returned. -/
structure Swept
    (globMatch : String → String → Bool)
    (keyPrefix : String)
    (state : FlushState) : Prop where
  pending : ∀ key ∈ state.returned, state.lasting key = true →
    state.stage = .failed ∨
      ∃ batch last, state.stage = .deleting batch last ∧ key ∈ batch
  whole : state.stage = .complete ∨ (∃ batch, state.stage = .deleting batch true) →
    ∀ key, state.lasting key = true →
      globMatch (cacheScanPattern keyPrefix) key = true → key ∈ state.returned

/-- An event that changes only keys and the clock keeps the sweep. -/
theorem Swept.of_same
    (swept : state.Swept globMatch keyPrefix)
    {event : FlushEvent}
    (sameStage : (state.step event).stage = state.stage)
    (sameReturned : (state.step event).returned = state.returned) :
    (state.step event).Swept globMatch keyPrefix where
  pending := by
    rw [sameStage, sameReturned]
    exact fun key isReturned lasting =>
      swept.pending key isReturned (lasting_step.1 lasting).1
  whole := by
    rw [sameStage, sameReturned]
    exact fun isWhole key lasting => swept.whole isWhole key (lasting_step.1 lasting).1

/-- A reply to `SCAN` keeps the sweep. -/
theorem Swept.scanned
    (swept : state.Swept globMatch keyPrefix)
    (scanning : state.stage = .scanning)
    {batch : List String}
    {last : Bool}
    (promised : state.Promised globMatch keyPrefix (.scanned batch last)) :
    (state.step (.scanned batch last)).Swept globMatch keyPrefix := by
  have returned : (state.step (.scanned batch last)).returned =
      state.returned ++ batch := by
    simp only [step, observe, change, scanning]
  have stage : (state.step (.scanned batch last)).stage =
      if batch = [] then next last else .deleting batch last := by
    simp only [step, observe, change, scanning]
  constructor
  · rw [returned, stage]
    intro key isReturned lasting
    rcases List.mem_append.1 isReturned with isOld | isNew
    · have before := swept.pending key isOld (lasting_step.1 lasting).1
      rw [scanning] at before
      rcases before with ⟨⟨⟩⟩ | ⟨_, _, ⟨⟩, _⟩
    · rw [if_neg (List.ne_nil_of_mem isNew)]
      exact .inr ⟨batch, last, rfl, isNew⟩
  · rw [returned, stage]
    intro isWhole key lasting matched
    have isLast : last = true := by
      cases last with
      | true => rfl
      | false =>
          split_ifs at isWhole
          · rcases isWhole with ⟨⟨⟩⟩ | ⟨_, ⟨⟩⟩
          · rcases isWhole with ⟨⟨⟩⟩ | ⟨_, ⟨⟩⟩
    exact promised.2 isLast key (lasting_step.1 lasting).1 matched

/-- The deletion of a batch keeps the sweep. -/
theorem Swept.deleted
    (swept : state.Swept globMatch keyPrefix)
    {batch : List String}
    {last : Bool}
    (deleting : state.stage = .deleting batch last) :
    (state.step .deleted).Swept globMatch keyPrefix := by
  have returned : (state.step .deleted).returned = state.returned := by
    simp only [step, observe, change, deleting]
  have stage : (state.step .deleted).stage = next last := by
    simp only [step, observe, change, deleting]
  have away : ∀ key ∈ batch, (state.step .deleted).has key = false := by
    intro key isBatch
    simp only [has, step, observe, change, deleting, if_pos isBatch]
    rfl
  constructor
  · rw [returned]
    intro key isReturned lasting
    obtain ⟨before, stillThere⟩ := lasting_step.1 lasting
    have pending := swept.pending key isReturned before
    rw [deleting] at pending
    rcases pending with ⟨⟨⟩⟩ | ⟨_, _, ⟨⟩, isBatch⟩
    rw [away key isBatch] at stillThere
    cases stillThere
  · rw [returned, stage]
    intro isWhole key lasting matched
    have isLast : last = true := by
      cases last with
      | true => rfl
      | false => rcases isWhole with ⟨⟨⟩⟩ | ⟨_, ⟨⟩⟩
    exact swept.whole (.inr ⟨batch, deleting.trans (by rw [isLast])⟩) key
      (lasting_step.1 lasting).1 matched

/-- Every step keeps the sweep. -/
theorem Swept.step
    (swept : state.Swept globMatch keyPrefix)
    {event : FlushEvent}
    (promised : state.Promised globMatch keyPrefix event) :
    (state.step event).Swept globMatch keyPrefix := by
  have idle : state.change event = state →
      (state.step event).Swept globMatch keyPrefix := by
    intro same
    exact swept.of_same (by rw [FlushState.step, same]; rfl)
      (by rw [FlushState.step, same]; rfl)
  have fails : (state.step event).stage = .failed →
      (state.step event).Swept globMatch keyPrefix := by
    intro failed
    refine ⟨fun key _ _ => .inl failed, ?_⟩
    rw [failed]
    rintro (⟨⟨⟩⟩ | ⟨_, ⟨⟩⟩)
  cases event with
  | elapse ms => exact swept.of_same rfl rfl
  | assign key entry => exact swept.of_same rfl rfl
  | scanned batch last =>
      cases stage : state.stage with
      | scanning => exact swept.scanned stage promised
      | deleting batch last => exact idle (by rw [change, stage])
      | complete => exact idle (by rw [change, stage])
      | failed => exact idle (by rw [change, stage])
  | deleted =>
      cases stage : state.stage with
      | deleting batch last => exact swept.deleted stage
      | scanning => exact idle (by rw [change, stage])
      | complete => exact idle (by rw [change, stage])
      | failed => exact idle (by rw [change, stage])
  | failed =>
      cases stage : state.stage with
      | complete => exact idle (by rw [change, stage])
      | failed => exact idle (by rw [change, stage])
      | scanning => exact fails (by simp only [FlushState.step, observe, change, stage])
      | deleting batch last =>
          exact fails (by simp only [FlushState.step, observe, change, stage])

/-- A key that does not last was away at some moment. -/
theorem exists_away
    {events : List FlushEvent}
    {key : String}
    (lasts : state.lasting key = true → state.has key = true)
    (away : (runFrom FlushState.step state events).lasting key = false)
    (before : state.lasting key = true) :
    ∃ earlier later, events = earlier ++ later ∧
      (runFrom FlushState.step state earlier).has key = false := by
  induction events generalizing state with
  | nil =>
      change state.lasting key = false at away
      rw [before] at away
      cases away
  | cons event events inductionHypothesis =>
      cases now : (state.step event).lasting key with
      | true =>
          obtain ⟨earlier, later, rfl, isAway⟩ := inductionHypothesis
            (fun lasting => (lasting_step.1 lasting).2) away now
          exact ⟨event :: earlier, later, rfl, isAway⟩
      | false =>
          refine ⟨[event], events, rfl, ?_⟩
          cases there : (state.step event).has key with
          | false => exact there
          | true => rw [lasting_step.2 ⟨before, there⟩] at now; cases now

/-- What is about to be deleted matches the pattern. -/
def Matching
    (globMatch : String → String → Bool)
    (keyPrefix : String)
    (state : FlushState) : Prop :=
  ∀ batch last, state.stage = .deleting batch last →
    ∀ key ∈ batch, globMatch (cacheScanPattern keyPrefix) key = true

/-- A step keeps that, and leaves alone every key that the pattern does not match
and that nobody assigns. -/
theorem Matching.step
    (matching : state.Matching globMatch keyPrefix)
    {event : FlushEvent}
    (promised : state.Promised globMatch keyPrefix event) :
    (state.step event).Matching globMatch keyPrefix ∧
      ∀ key, globMatch (cacheScanPattern keyPrefix) key = false →
        (∀ entry, event ≠ .assign key entry) →
        (state.step event).keys key = state.keys key := by
  have idle : state.change event = state →
      (state.step event).Matching globMatch keyPrefix ∧
        ∀ key, globMatch (cacheScanPattern keyPrefix) key = false →
          (∀ entry, event ≠ .assign key entry) →
          (state.step event).keys key = state.keys key := by
    intro same
    rw [FlushState.step, same]
    exact ⟨matching, fun _ _ _ => rfl⟩
  cases event with
  | elapse ms => exact ⟨matching, fun _ _ _ => rfl⟩
  | assign other entry =>
      refine ⟨matching, fun key _ notAssigned => if_neg ?_⟩
      rintro rfl
      exact notAssigned entry rfl
  | scanned batch last =>
      cases stage : state.stage with
      | scanning =>
          simp only [FlushState.step, observe, change, Matching, stage]
          refine ⟨fun other isLast deleting => ?_, fun _ _ _ => trivial⟩
          split_ifs at deleting
          · cases last <;> cases deleting
          · cases deleting
            exact promised.1
      | deleting batch last => exact idle (by rw [change, stage])
      | complete => exact idle (by rw [change, stage])
      | failed => exact idle (by rw [change, stage])
  | deleted =>
      cases stage : state.stage with
      | deleting batch last =>
          simp only [FlushState.step, observe, change, Matching, stage]
          refine ⟨fun other isLast deleting => ?_, fun key unmatched _ => if_neg ?_⟩
          · cases last <;> cases deleting
          · intro isBatch
            rw [matching batch last stage key isBatch] at unmatched
            cases unmatched
      | scanning => exact idle (by rw [change, stage])
      | complete => exact idle (by rw [change, stage])
      | failed => exact idle (by rw [change, stage])
  | failed =>
      cases stage : state.stage with
      | scanning =>
          simp only [FlushState.step, observe, change, Matching, stage, and_true,
            implies_true]
          nofun
      | deleting batch last =>
          simp only [FlushState.step, observe, change, Matching, stage, and_true,
            implies_true]
          nofun
      | complete => exact idle (by rw [change, stage])
      | failed => exact idle (by rw [change, stage])

/-- A key that the pattern does not match and that nobody assigns stays. -/
theorem keys_runFrom
    (matching : state.Matching globMatch keyPrefix)
    {events : List FlushEvent}
    (promised : EveryStep FlushState.step (Promised globMatch keyPrefix) state events)
    {key : String}
    (unmatched : globMatch (cacheScanPattern keyPrefix) key = false)
    (notAssigned : ∀ entry, .assign key entry ∉ events) :
    (runFrom FlushState.step state events).keys key = state.keys key := by
  induction events generalizing state with
  | nil => rfl
  | cons event events inductionHypothesis =>
      obtain ⟨stillMatching, same⟩ := matching.step promised.1
      have later := inductionHypothesis stillMatching promised.2
        fun entry isLater => notAssigned entry (List.mem_cons_of_mem event isLater)
      refine later.trans (same key unmatched fun entry isAssigned => ?_)
      exact notAssigned entry (isAssigned ▸ List.mem_cons_self)

end FlushState

/-- A flush that ends without an error, on a store that keeps its promise, with a
plain prefix: every entry that is there at its end was away at some moment since
its beginning. Whatever becomes of the flush, it changes no key outside the
cache. -/
theorem flush_clears
    {globMatch : String → String → Bool}
    (matchesPrefixes : MatchesPrefixes globMatch)
    (keyPrefix : String)
    (plain : PlainText (keyPrefix ++ "cache:"))
    (clock : Nat)
    (keys : String → Key String)
    (events : List FlushEvent)
    (promised : EveryStep FlushState.step
      (FlushState.Promised globMatch keyPrefix) (.begin clock keys) events) :
    let final := runFrom FlushState.step (.begin clock keys) events
    (final.stage = .complete →
      ∀ key, InCache keyPrefix key → final.has key = true →
        ∃ earlier later, events = earlier ++ later ∧
          (runFrom FlushState.step (.begin clock keys) earlier).has key = false) ∧
      ∀ key, ¬ InCache keyPrefix key → (∀ entry, .assign key entry ∉ events) →
        final.keys key = keys key := by
  intro final
  have matched : ∀ key, globMatch (cacheScanPattern keyPrefix) key = true ↔
      InCache keyPrefix key := fun key => matchesPrefixes _ key plain
  constructor
  · intro complete key isKey isThere
    have swept : final.Swept globMatch keyPrefix :=
      EveryStep.invariant (FlushState.Swept globMatch keyPrefix)
        (fun state event swept promised => swept.step promised)
        ⟨nofun, by rintro (⟨⟨⟩⟩ | ⟨_, ⟨⟩⟩)⟩ promised
    have notLasting : final.lasting key = false := by
      by_contra lasting
      rw [Bool.not_eq_false] at lasting
      have isReturned := swept.whole (.inl complete) key lasting ((matched key).2 isKey)
      have pending := swept.pending key isReturned lasting
      rw [complete] at pending
      rcases pending with ⟨⟨⟩⟩ | ⟨_, _, ⟨⟩, _⟩
    cases before : (FlushState.begin clock keys).lasting key with
    | true => exact FlushState.exists_away (fun lasting => lasting) notLasting before
    | false => exact ⟨[], events, rfl, before⟩
  · intro key outside notAssigned
    refine FlushState.keys_runFrom (by rintro _ _ ⟨⟩) promised ?_ notAssigned
    rw [← Bool.not_eq_true, matched]
    exact outside

/-- A pattern that is a plain text and a star. -/
def starMatch (pattern key : String) : Bool :=
  pattern.toList.getLast? = some '*' && pattern.toList.dropLast.isPrefixOf key.toList

theorem matchesPrefixes_starMatch : MatchesPrefixes starMatch := by
  intro text key plain
  simp [starMatch, String.toList_append]

/-- An entry is stored while the flush runs, after its key was deleted. -/
def storedMeanwhile : List FlushEvent :=
  [.scanned ["gw:cache:a"] false, .deleted, .assign "gw:cache:a" (Key.setPx 0 9 "new"),
    .scanned [] true]

theorem flush_clears_storedMeanwhile :
    ∃ earlier later, storedMeanwhile = earlier ++ later ∧
      (runFrom FlushState.step
        (.begin 0 fun key => if key = "gw:cache:a" then Key.set "old" else none)
        earlier).has "gw:cache:a" = false := by
  have plain : PlainText ("gw:" ++ "cache:") := by simp [PlainText]
  refine (flush_clears matchesPrefixes_starMatch "gw:" plain 0
    (fun key => if key = "gw:cache:a" then Key.set "old" else none)
    storedMeanwhile ?_).1 (by decide) "gw:cache:a" (by decide) (by decide)
  refine ⟨⟨by decide, nofun⟩, trivial, trivial, ⟨nofun, fun _ key lasting _ => ?_⟩, trivial⟩
  have isFirst : key = "gw:cache:a" := by
    by_contra other
    simp [FlushState.step, FlushState.observe, FlushState.change, FlushState.begin,
      other] at lasting
  rw [isFirst]
  decide

end Steps

end Cache
end AiGateway
