import AiGateway.Cache.Flush
import AiGateway.Cache.Key
import Mathlib.Data.List.Induction

/-!
# Hits of the semantic cache

Any number of processes store, look up and invalidate responses, entries lapse, a
flush deletes them, and the store may be out of reach at any call. A hit is traced
back to what made it: the last response that was stored for a request with the same
key, not longer ago than it was to live, and not touched since.
-/

namespace AiGateway
namespace Cache

open Foundations (Json Key runFrom runFrom_concat runFrom_cons runFrom_nil)
open OpenAI (ChatCompletionRequest)

section Model

/-- The platform and the configuration of the cache. -/
structure CacheSettings where
  sha256Hex : String → String
  localeCompare : String → String → Ordering
  /-- `JSON.parse`; `none` when it throws. -/
  parse : String → Option Json
  keyPrefix : String
  /-- `CACHE_MAX_VALUE_BYTES`. -/
  maxValueBytes : Nat

/-- The key under which the response to a request is stored. -/
def CacheSettings.entryKey
    (settings : CacheSettings)
    (request : ChatCompletionRequest) : String :=
  cacheEntry settings.keyPrefix
    (computeKey settings.sha256Hex settings.localeCompare request)

/-- The entries of the cache and its two counters. -/
structure Entries where
  clockMs : Nat := 0
  keys : String → Key String := fun _ => none
  hits : Nat := 0
  misses : Nat := 0

/-- What happens next; `down` says that the store is out of reach. -/
inductive CacheEvent
  | elapse (ms : Nat)
  | set (request : ChatCompletionRequest) (response : Json) (ttlSeconds : Nat)
      (down : Bool)
  | get (request : ChatCompletionRequest) (down : Bool)
  | invalidate (request : ChatCompletionRequest) (down : Bool)
  /-- A flush deletes keys, or the store evicts them. -/
  | delete (keys : List String)

variable (settings : CacheSettings)

namespace Entries

variable (entries : Entries)

/-- What `get(request)` returns. -/
def get (request : ChatCompletionRequest) (down : Bool) : Option Json :=
  if down then none
  else
    match (entries.keys (settings.entryKey request)).read entries.clockMs with
    | none => none
    | some raw => settings.parse raw

/-- The counters after `get(request)`: a response that cannot be parsed is not
counted. -/
def count (request : ChatCompletionRequest) (down : Bool) : Entries :=
  if down then entries
  else
    match (entries.keys (settings.entryKey request)).read entries.clockMs with
    | none => { entries with misses := entries.misses + 1 }
    | some raw =>
        match settings.parse raw with
        | none => entries
        | some _ => { entries with hits := entries.hits + 1 }

/-- `set(request, response, ttlSeconds)`; the store refuses a time to live of
zero. -/
def set
    (request : ChatCompletionRequest)
    (response : Json)
    (ttlSeconds : Nat)
    (down : Bool) : Entries :=
  if settings.maxValueBytes < response.stringify.utf8ByteSize then entries
  else if down || ttlSeconds = 0 then entries
  else
    { entries with
      keys := Function.update entries.keys (settings.entryKey request)
        (Key.setPx entries.clockMs (ttlSeconds * 1000) response.stringify) }

/-- One event. -/
def step (entries : Entries) : CacheEvent → Entries
  | .elapse ms => { entries with clockMs := entries.clockMs + ms }
  | .set request response ttlSeconds down =>
      entries.set settings request response ttlSeconds down
  | .get request down => entries.count settings request down
  | .invalidate request down =>
      if down then entries
      else
        { entries with
          keys := Function.update entries.keys (settings.entryKey request) none }
  | .delete keys =>
      { entries with
        keys := fun key => if key ∈ keys then none else entries.keys key }

end Entries

/-- The time that passes. -/
def elapsedMs (events : List CacheEvent) : Nat :=
  (events.map fun
    | .elapse ms => ms
    | _ => 0).sum

/-- A response is written: it is not too large, and the store is there. -/
def Writes (response : Json) (ttlSeconds : Nat) (down : Bool) : Prop :=
  response.stringify.utf8ByteSize ≤ settings.maxValueBytes ∧ down = false ∧
    ttlSeconds ≠ 0

/-- The event replaces or deletes the entry of a key. -/
def CacheEvent.Touches (key : String) : CacheEvent → Prop
  | .set request response ttlSeconds down =>
      settings.entryKey request = key ∧ Writes settings response ttlSeconds down
  | .invalidate request down => settings.entryKey request = key ∧ down = false
  | .delete keys => key ∈ keys
  | .elapse _ | .get .. => False

/-- The entry of a key comes from a response that was stored and not touched
since. -/
def StoredBy
    (events : List CacheEvent)
    (key : String)
    (entry : Foundations.Entry String)
    (clockMs : Nat) : Prop :=
  ∃ earlier request response ttlSeconds down later,
    events = earlier ++ .set request response ttlSeconds down :: later ∧
      settings.entryKey request = key ∧
      Writes settings response ttlSeconds down ∧
      entry.value = response.stringify ∧
      entry.deadline = some (clockMs - elapsedMs later + ttlSeconds * 1000) ∧
      elapsedMs later ≤ clockMs ∧
      ∀ event ∈ later, ¬ event.Touches settings key

end Model

section Steps

variable {settings : CacheSettings} {entries : Entries}

/-- What an event does to the entry of a key: nothing, unless it touches it. -/
theorem keys_step_of_not_touches
    {event : CacheEvent}
    {key : String}
    (untouched : ¬ event.Touches settings key) :
    (entries.step settings event).keys key = entries.keys key := by
  cases event with
  | elapse ms => rfl
  | get request down =>
      change (entries.count settings request down).keys key = _
      unfold Entries.count
      split_ifs
      · rfl
      · split
        · rfl
        · split <;> rfl
  | delete keys => exact if_neg untouched
  | invalidate request down =>
      change (if down = true then entries else _).keys key = _
      split_ifs with isDown
      · rfl
      · refine Function.update_of_ne ?_ _ _
        rintro rfl
        exact untouched ⟨rfl, Bool.eq_false_iff.2 isDown⟩
  | set request response ttlSeconds down =>
      change (entries.set settings request response ttlSeconds down).keys key = _
      unfold Entries.set
      split_ifs with tooLarge refused
      · rfl
      · rfl
      · refine Function.update_of_ne ?_ _ _
        rintro rfl
        rw [Bool.or_eq_true, decide_eq_true_iff, not_or] at refused
        exact untouched ⟨rfl, Nat.not_lt.1 tooLarge, Bool.eq_false_iff.2 refused.1,
          refused.2⟩

/-- An event that touches the entry of a key deletes it or writes a response. -/
theorem keys_step_of_touches
    {event : CacheEvent}
    {key : String}
    (touches : event.Touches settings key) :
    (entries.step settings event).keys key = none ∨
      ∃ request response ttlSeconds down,
        event = .set request response ttlSeconds down ∧
          settings.entryKey request = key ∧
          Writes settings response ttlSeconds down ∧
          (entries.step settings event).keys key =
            Key.setPx entries.clockMs (ttlSeconds * 1000) response.stringify := by
  cases event with
  | elapse ms => cases touches
  | get request down => cases touches
  | delete keys => exact .inl (if_pos touches)
  | invalidate request down =>
      obtain ⟨rfl, rfl⟩ := touches
      exact .inl (Function.update_self _ _ _)
  | set request response ttlSeconds down =>
      obtain ⟨rfl, writes⟩ := touches
      refine .inr ⟨request, response, ttlSeconds, down, rfl, rfl, writes, ?_⟩
      obtain ⟨small, rfl, positive⟩ := writes
      change (entries.set settings request response ttlSeconds false).keys _ = _
      unfold Entries.set
      rw [if_neg (Nat.not_lt.2 small), if_neg (by simp [positive])]
      exact Function.update_self _ _ _

/-- Only the passing of time moves the clock. -/
theorem clockMs_step (event : CacheEvent) :
    (entries.step settings event).clockMs = entries.clockMs + elapsedMs [event] := by
  cases event with
  | elapse ms => simp [Entries.step, elapsedMs]
  | get request down =>
      change (entries.count settings request down).clockMs = _
      unfold Entries.count
      split_ifs
      · rfl
      · split
        · rfl
        · split <;> rfl
  | delete keys => rfl
  | invalidate request down =>
      change (if down = true then entries else _).clockMs = _
      split_ifs <;> rfl
  | set request response ttlSeconds down =>
      change (entries.set settings request response ttlSeconds down).clockMs = _
      unfold Entries.set
      split_ifs <;> rfl

theorem elapsedMs_concat (events : List CacheEvent) (event : CacheEvent) :
    elapsedMs (events ++ [event]) = elapsedMs events + elapsedMs [event] := by
  simp [elapsedMs]

/-- Every entry comes from a response that was stored and not touched since. -/
theorem storedBy_of_keys_eq_some
    {events : List CacheEvent}
    {key : String}
    {entry : Foundations.Entry String}
    (found : (runFrom (Entries.step settings) {} events).keys key = some entry) :
    StoredBy settings events key entry
      (runFrom (Entries.step settings) {} events).clockMs := by
  induction events using List.reverseRecOn with
  | nil => cases found
  | append_singleton events event inductionHypothesis =>
      rw [runFrom_concat] at found ⊢
      rw [clockMs_step]
      by_cases touches : event.Touches settings key
      · rcases keys_step_of_touches touches with
          isNone | ⟨request, response, ttlSeconds, down, rfl, sameKey, writes, written⟩
        · rw [isNone] at found
          cases found
        · rw [written] at found
          obtain rfl := Option.some_inj.1 found
          refine ⟨events, request, response, ttlSeconds, down, [], rfl, sameKey,
            writes, rfl, ?_, ?_, ?_⟩
          · simp [elapsedMs]
          · simp [elapsedMs]
          · simp
      · rw [keys_step_of_not_touches touches] at found
        obtain ⟨earlier, request, response, ttlSeconds, down, later, rfl, sameKey,
          writes, value, deadline, passed, untouched⟩ := inductionHypothesis found
        refine ⟨earlier, request, response, ttlSeconds, down, later ++ [event],
          by simp, sameKey, writes, value, ?_, ?_, ?_⟩
        · rw [deadline, elapsedMs_concat, Nat.add_sub_add_right]
        · rw [elapsedMs_concat]
          exact Nat.add_le_add_right passed _
        · intro other isLater
          rcases List.mem_append.1 isLater with isOld | isNew
          · exact untouched other isOld
          · rw [List.mem_singleton.1 isNew]
            exact touches

/-- After any calls, deletions and outages a hit is what the parser makes of the
last response that was stored for a request with the same key, within its time to
live, not larger than the limit, and neither replaced nor deleted since. -/
theorem hit_was_stored
    {events : List CacheEvent}
    {request : ChatCompletionRequest}
    (down : Bool)
    {response : Json}
    (hit : (runFrom (Entries.step settings) {} events).get settings request down =
      some response) :
    ∃ earlier other stored ttlSeconds otherDown later,
      events = earlier ++ .set other stored ttlSeconds otherDown :: later ∧
        settings.entryKey other = settings.entryKey request ∧
        settings.parse stored.stringify = some response ∧
        stored.stringify.utf8ByteSize ≤ settings.maxValueBytes ∧
        elapsedMs later < ttlSeconds * 1000 ∧
        ∀ event ∈ later, ¬ event.Touches settings (settings.entryKey request) := by
  unfold Entries.get at hit
  split_ifs at hit
  generalize same : (runFrom (Entries.step settings) {} events).clockMs = clockMs at hit
  cases alive : Key.visible clockMs
      ((runFrom (Entries.step settings) {} events).keys (settings.entryKey request)) with
  | none =>
      rw [Key.read, alive] at hit
      cases hit
  | some entry =>
      rw [Key.read, alive] at hit
      obtain ⟨found, live⟩ := Key.eq_some_of_visible alive
      obtain ⟨earlier, other, stored, ttlSeconds, otherDown, later, split, sameKey,
        writes, value, deadline, passed, untouched⟩ := storedBy_of_keys_eq_some found
      refine ⟨earlier, other, stored, ttlSeconds, otherDown, later, split, sameKey,
        ?_, writes.1, ?_, untouched⟩
      · change settings.parse entry.value = some response at hit
        rwa [value] at hit
      · rw [Foundations.Entry.live, deadline, Option.all_some, decide_eq_true_iff,
          same] at live
        rw [same] at passed
        omega

/-- A request that may be cached. -/
def greeting : ChatCompletionRequest where
  model := "gpt-4o"
  messages := []
  temperature := some 0
  seed := some 1

/-- A response to it, with a given text. -/
def greetingResponse (content : String) : Json :=
  .object
    [("id", .string "chatcmpl-1"),
      ("choices", .array
        [.object
          [("index", .number 0),
            ("message", .object
              [("role", .string "assistant"), ("content", .string content)]),
            ("finish_reason", .string "stop")]])]

/-- Settings under which a hash tells texts apart, and a parser that knows one
response. -/
def sampleSettings : CacheSettings where
  sha256Hex text := text
  localeCompare := compare
  parse text :=
    if text = (greetingResponse "Hello!").stringify then some (greetingResponse "Hello!")
    else none
  keyPrefix := "gw:"
  maxValueBytes := 262144

/-- A response is replaced by another one, which is still there just before its minute
is over. -/
def replacedGreeting : List CacheEvent :=
  [.set greeting (greetingResponse "Hi.") 60 false,
    .set greeting (greetingResponse "Hello!") 60 false, .elapse 59999]

theorem hit_was_stored_greeting :
    ∃ earlier other stored ttlSeconds otherDown later,
      replacedGreeting =
        earlier ++ .set other stored ttlSeconds otherDown :: later ∧
        sampleSettings.entryKey other = sampleSettings.entryKey greeting ∧
        sampleSettings.parse stored.stringify = some (greetingResponse "Hello!") ∧
        stored.stringify.utf8ByteSize ≤ sampleSettings.maxValueBytes ∧
        elapsedMs later < ttlSeconds * 1000 ∧
        ∀ event ∈ later, ¬ event.Touches sampleSettings
          (sampleSettings.entryKey greeting) := by
  have firstFits : ¬ sampleSettings.maxValueBytes <
      (greetingResponse "Hi.").stringify.utf8ByteSize := by decide +kernel
  have secondFits : ¬ sampleSettings.maxValueBytes <
      (greetingResponse "Hello!").stringify.utf8ByteSize := by decide +kernel
  have hit : (runFrom (Entries.step sampleSettings) {} replacedGreeting).get
      sampleSettings greeting false = some (greetingResponse "Hello!") := by
    simp only [replacedGreeting, runFrom_cons, runFrom_nil, Entries.step, Entries.set,
      Entries.get, if_neg firstFits, if_neg secondFits, Bool.false_eq_true, if_false,
      Bool.or_self, OfNat.ofNat_ne_zero, decide_false, Function.update_idem,
      Function.update_self]
    have isLive (text : String) :
        Key.read (0 + 59999) (Key.setPx 0 (60 * 1000) text) = some text := rfl
    have parses : sampleSettings.parse (greetingResponse "Hello!").stringify =
        some (greetingResponse "Hello!") := by
      simp only [sampleSettings, if_true]
    rw [isLive]
    exact parses
  exact hit_was_stored false hit

end Steps

end Cache
end AiGateway
