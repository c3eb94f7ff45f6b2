import AiGateway.Foundations.Capture
import Mathlib.Data.List.Count
import Mathlib.Data.List.Infix
import Mathlib.Data.List.Nodup

/-!
# The list of all breakers

`getAllStates` scans the store for the state keys, reads the id of a provider back
from each key that it finds, and reads the breaker of each id. The scan follows the
cursor of the store until it is `0`; the store may return a key more than once, and
it returns every key that the pattern matches.

The main theorem says when each provider with a breaker is listed once: the key of
the provider has to be read back, and to be the only key returned that is read as
the provider, and to be returned once.
-/

namespace AiGateway
namespace CircuitBreaker

open Foundations (Captures IsMarker Marked capture)

section Keys

/-- `redisKeys.cbState(providerId, prefix)`. -/
def cbState (keyPrefix providerId : String) : String :=
  keyPrefix ++ "cb:" ++ providerId ++ ":state"

/-- `redisKeys.cbFailures(providerId, prefix)`. -/
def cbFailures (keyPrefix providerId : String) : String :=
  keyPrefix ++ "cb:" ++ providerId ++ ":failures"

/-- `redisKeys.cbOpenedAt(providerId, prefix)`. -/
def cbOpenedAt (keyPrefix providerId : String) : String :=
  keyPrefix ++ "cb:" ++ providerId ++ ":opened_at"

/-- `redisKeys.cbScanPattern(prefix)`. -/
def cbScanPattern (keyPrefix : String) : String := keyPrefix ++ "cb:*:state"

/-- What `.` matches: everything but a line terminator. -/
def isDot (symbol : Char) : Bool :=
  symbol ≠ '\n' && symbol ≠ '\r' && symbol ≠ '\u2028' && symbol ≠ '\u2029'

/-- `/cb:(.+):state$/u.exec(key)?.[1]`. -/
def readStateKey (key : String) : Option String :=
  (capture isDot "cb:".toList ":state".toList key.toList).map String.ofList

/-- A digit of a UUID. -/
def isHexDigit (symbol : Char) : Bool :=
  symbol.isDigit || ('a' ≤ symbol && symbol ≤ 'f') ||
    ('A' ≤ symbol && symbol ≤ 'F')

/-- The text of a UUID. -/
def IsUuid (id : String) : Prop :=
  ((id.toList.splitOn '-').map List.length = [8, 4, 4, 4, 12]) ∧
    id.toList.all (fun symbol => symbol = '-' || isHexDigit symbol) = true

instance (id : String) : Decidable (IsUuid id) :=
  inferInstanceAs (Decidable (_ ∧ _))

end Keys

section Model

/-- The store: its keys, and what `MGET` reads of a key. -/
structure Keyspace where
  keys : List String
  get : String → Option String

/-- A reply to `SCAN`. -/
structure ScanReply where
  cursor : String
  batch : List String

/-- The replies to an iteration with a pattern that the store allows: a key that the
pattern matches is returned at least once, and no other key is returned. -/
structure ScanIteration
    (globMatch : String → String → Bool)
    (keyspace : Keyspace)
    (pattern : String) where
  replies : List ScanReply
  last : ScanReply
  goesOn : ∀ reply ∈ replies, reply.cursor ≠ "0"
  ends : last.cursor = "0"
  sound : ∀ reply ∈ replies ++ [last], ∀ key ∈ reply.batch,
    key ∈ keyspace.keys ∧ globMatch pattern key = true
  complete : ∀ key ∈ keyspace.keys, globMatch pattern key = true →
    ∃ reply ∈ replies ++ [last], key ∈ reply.batch

/-- Everything that an iteration returns, in its order. -/
def ScanIteration.returned
    {globMatch : String → String → Bool}
    {keyspace : Keyspace}
    {pattern : String}
    (iteration : ScanIteration globMatch keyspace pattern) : List String :=
  (iteration.replies ++ [iteration.last]).flatMap ScanReply.batch

/-- The loop of `scanStateKeys()` over the replies that come; it waits for one that
does not come. -/
def scanStateKeys (found : List String) : List ScanReply → Option (List String)
  | [] => none
  | reply :: replies =>
      if reply.cursor = "0" then some (found ++ reply.batch)
      else scanStateKeys (found ++ reply.batch) replies

/-- `CircuitBreakerStatus`; `ν` is the type of the numbers. -/
structure CircuitBreakerStatus (ν : Type u) where
  providerId : String
  state : String
  failures : ν
  openedAt : Option ν
  deriving DecidableEq

variable {ν : Type u} [OfNat ν 0] (number : String → ν)
  (localeCompare : String → String → Ordering)
  (keyPrefix : String) (keyspace : Keyspace)

/-- `getState(providerId)`; `number` is `Number`. -/
def getState (providerId : String) : CircuitBreakerStatus ν where
  providerId := providerId
  state := (keyspace.get (cbState keyPrefix providerId)).getD "CLOSED"
  failures :=
    ((keyspace.get (cbFailures keyPrefix providerId)).map number).getD 0
  openedAt := (keyspace.get (cbOpenedAt keyPrefix providerId)).map number

/-- `getAllStates()` over the replies of the store. -/
def getAllStates (replies : List ScanReply) :
    Option (List (CircuitBreakerStatus ν)) :=
  (scanStateKeys [] replies).map fun stateKeys =>
    ((stateKeys.filterMap readStateKey).map
        (getState number keyPrefix keyspace)).mergeSort
      fun first second => (localeCompare first.providerId second.providerId).isLE

/-- The last line of a text has a `cb:` in it. -/
def MarksLastLine (text : String) : Prop :=
  Marked isDot "cb:".toList text.toList

/-- The state key of the provider behind some prefix whose last line has no `cb:`
in it. -/
def NamesBreaker (providerId key : String) : Prop :=
  ∃ other, key = cbState other providerId ∧ ¬ MarksLastLine other

/-- Every provider with a breaker is read back from its key and listed once, with
its own state. -/
def ListsEachOnce (replies : List ScanReply) : Prop :=
  ∀ id, IsUuid id → cbState keyPrefix id ∈ keyspace.keys →
    readStateKey (cbState keyPrefix id) = some id ∧
      ∃ statuses, getAllStates number localeCompare keyPrefix keyspace replies =
          some statuses ∧
        statuses.filter (fun status => status.providerId = id) =
          [getState number keyPrefix keyspace id]

end Model

section Reading

theorem isMarker_cb : IsMarker isDot "cb:".toList where
  nonempty := by decide
  admitted := List.all_eq_true.1 (by decide)
  unbordered border isStart isEnd := by
    have inits : "cb:".toList.inits = [[], ['c'], ['c', 'b'], ['c', 'b', ':']] :=
      rfl
    have isInit := (List.mem_inits border _).2 isStart
    rw [inits] at isInit
    simp only [List.mem_cons, List.not_mem_nil, or_false] at isInit
    rcases isInit with rfl | rfl | rfl | rfl
    · exact .inl rfl
    · exact absurd isEnd (by decide)
    · exact absurd isEnd (by decide)
    · exact .inr rfl

theorem IsUuid.symbol
    {id : String}
    (isUuid : IsUuid id)
    {symbol : Char}
    (isSymbol : symbol ∈ id.toList) :
    (symbol = '-' || isHexDigit symbol) = true :=
  List.all_eq_true.1 isUuid.2 symbol isSymbol

/-- A UUID can be captured: it has no line terminator. -/
theorem IsUuid.captures {id : String} (isUuid : IsUuid id) :
    Captures isDot id.toList where
  nonempty isEmpty := by
    have groups := isUuid.1
    rw [isEmpty] at groups
    revert groups
    decide
  admitted symbol isSymbol := by
    have isDigit := isUuid.symbol isSymbol
    simp only [isDot, Bool.and_eq_true, decide_eq_true_eq]
    refine ⟨⟨⟨?_, ?_⟩, ?_⟩, ?_⟩ <;>
      rintro rfl <;> exact absurd isDigit (by decide)

theorem toList_cbState (keyPrefix providerId : String) :
    (cbState keyPrefix providerId).toList =
      keyPrefix.toList ++ "cb:".toList ++ providerId.toList ++
        ":state".toList := by
  simp only [cbState, String.toList_append]

theorem readStateKey_eq_some_iff_capture {id key : String} :
    readStateKey key = some id ↔
      capture isDot "cb:".toList ":state".toList key.toList = some id.toList := by
  unfold readStateKey
  rw [Option.map_eq_some_iff]
  constructor
  · rintro ⟨middle, captured, rfl⟩
    rw [captured, String.toList_ofList (l := middle)]
  · exact fun captured => ⟨id.toList, captured, String.ofList_toList⟩

/-- The keys that are read as a provider. -/
theorem readStateKey_eq_some
    {id key : String}
    (isUuid : IsUuid id) :
    readStateKey key = some id ↔ NamesBreaker id key := by
  rw [readStateKey_eq_some_iff_capture, isMarker_cb.capture_eq_some]
  constructor
  · rintro ⟨front, same, notMarked, -⟩
    refine ⟨String.ofList front, String.toList_inj.1 ?_, ?_⟩
    · rw [toList_cbState, String.toList_ofList (l := front)]
      exact same
    · rw [MarksLastLine, String.toList_ofList (l := front)]
      exact notMarked
  · rintro ⟨other, rfl, notMarked⟩
    exact ⟨other.toList, toList_cbState other id, notMarked, isUuid.captures⟩

/-- The key of a provider is read back exactly if the last line of the prefix has
no `cb:` in it. -/
theorem readStateKey_cbState_iff
    {id : String}
    (isUuid : IsUuid id)
    (keyPrefix : String) :
    readStateKey (cbState keyPrefix id) = some id ↔
      ¬ MarksLastLine keyPrefix := by
  rw [readStateKey_eq_some_iff_capture, toList_cbState]
  exact isMarker_cb.capture_append_iff isUuid.captures

/-- A prefix with a `cb:` becomes a part of the id. -/
example : readStateKey (cbState "cb:prod:" "0b9c") = some "prod:cb:0b9c" := by
  decide

end Reading

section Scanning

/-- The loop ends with the cursor `0` and keeps everything that was returned. -/
theorem scanStateKeys_append
    (found : List String)
    {replies : List ScanReply}
    {last : ScanReply}
    (goesOn : ∀ reply ∈ replies, reply.cursor ≠ "0")
    (ends : last.cursor = "0") :
    scanStateKeys found (replies ++ [last]) =
      some (found ++ (replies ++ [last]).flatMap ScanReply.batch) := by
  induction replies generalizing found with
  | nil => simp [scanStateKeys, ends]
  | cons reply replies inductionHypothesis =>
      rw [List.cons_append, scanStateKeys,
        if_neg (goesOn reply List.mem_cons_self),
        inductionHypothesis _ fun other isOther =>
          goesOn other (List.mem_cons_of_mem reply isOther),
        List.flatMap_cons, List.append_assoc]

variable {globMatch : String → String → Bool} {keyspace : Keyspace}
  {pattern : String}

theorem scanStateKeys_iteration
    (iteration : ScanIteration globMatch keyspace pattern) :
    scanStateKeys [] (iteration.replies ++ [iteration.last]) =
      some iteration.returned :=
  scanStateKeys_append [] iteration.goesOn iteration.ends

/-- What the pattern matches is what is returned. -/
theorem ScanIteration.mem_returned
    (iteration : ScanIteration globMatch keyspace pattern)
    {key : String} :
    key ∈ iteration.returned ↔
      key ∈ keyspace.keys ∧ globMatch pattern key = true := by
  unfold ScanIteration.returned
  rw [List.mem_flatMap]
  constructor
  · rintro ⟨reply, isReply, isKey⟩
    exact iteration.sound reply isReply key isKey
  · rintro ⟨isKey, isMatch⟩
    exact iteration.complete key isKey isMatch

end Scanning

section Counting

/-- A property has one position in a list if it is counted once. -/
theorem countP_eq_one_iff
    {elements : List α}
    {property : α → Bool} :
    elements.countP property = 1 ↔
      ∃! position : Nat, ∃ element, elements[position]? = some element ∧
        property element = true := by
  have mem_places (position : Nat) :
      position ∈ elements.findIdxs property ↔
        ∃ element, elements[position]? = some element ∧
          property element = true := by
    rw [List.mem_findIdxs_iff_exists_getElem_pos]
    simp only [List.getElem?_eq_some_iff]
    constructor
    · rintro ⟨inRange, holds⟩
      exact ⟨_, ⟨inRange, rfl⟩, holds⟩
    · rintro ⟨_, ⟨inRange, rfl⟩, holds⟩
      exact ⟨inRange, holds⟩
  simp only [← mem_places]
  rw [← List.length_findIdxs (s := 0)]
  constructor
  · intro isOne
    obtain ⟨place, places⟩ := List.length_eq_one_iff.1 isOne
    rw [places]
    exact ⟨place, List.mem_singleton_self place,
      fun other isPlace => List.mem_singleton.1 isPlace⟩
  · rintro ⟨place, isPlace, isOnly⟩
    have places : (elements.findIdxs property).Perm [place] := by
      apply (List.perm_ext_iff_of_nodup List.nodup_findIdxs
        (List.nodup_singleton place)).2
      intro other
      rw [List.mem_singleton]
      exact ⟨isOnly other, fun same => same ▸ isPlace⟩
    rw [places.length_eq, List.length_singleton]

/-- A property of an element of a list is counted once if the element is there once
and no other element has the property. -/
theorem countP_eq_one_iff_of_mem
    [DecidableEq α]
    {elements : List α}
    {property : α → Bool}
    {element : α}
    (isElement : element ∈ elements)
    (holds : property element = true) :
    elements.countP property = 1 ↔
      elements.count element = 1 ∧
        ∀ other ∈ elements, property other = true → other = element := by
  obtain ⟨before, after, rfl⟩ := List.append_of_mem isElement
  rw [List.countP_append, List.countP_cons_of_pos holds, List.count_append,
    List.count_cons_self]
  constructor
  · intro isOne
    have noneBefore := List.countP_eq_zero.1
      (show before.countP property = 0 by omega)
    have noneAfter := List.countP_eq_zero.1
      (show after.countP property = 0 by omega)
    have notBefore : element ∉ before := fun isBefore =>
      noneBefore element isBefore holds
    have notAfter : element ∉ after := fun isAfter =>
      noneAfter element isAfter holds
    refine ⟨?_, ?_⟩
    · rw [List.count_eq_zero_of_not_mem notBefore,
        List.count_eq_zero_of_not_mem notAfter]
    · intro other isOther otherHolds
      simp only [List.mem_append, List.mem_cons] at isOther
      rcases isOther with isBefore | rfl | isAfter
      · exact absurd otherHolds (noneBefore other isBefore)
      · rfl
      · exact absurd otherHolds (noneAfter other isAfter)
  · rintro ⟨isOne, isOnly⟩
    have notBefore := List.count_eq_zero.1
      (show before.count element = 0 by omega)
    have notAfter := List.count_eq_zero.1
      (show after.count element = 0 by omega)
    have noneBefore : before.countP property = 0 := by
      refine List.countP_eq_zero.2 fun other isBefore otherHolds => notBefore ?_
      rwa [← isOnly other (List.mem_append_left _ isBefore) otherHolds]
    have noneAfter : after.countP property = 0 := by
      refine List.countP_eq_zero.2 fun other isAfter otherHolds => notAfter ?_
      rwa [← isOnly other (List.mem_append_right _ (List.mem_cons_of_mem _ isAfter))
        otherHolds]
    omega

variable {ν : Type u} [OfNat ν 0] (number : String → ν)
  (localeCompare : String → String → Ordering)
  (keyPrefix : String) (keyspace : Keyspace)

/-- The statuses of a provider in the list are as many as the keys that are read as
the provider. -/
theorem filter_statuses (stateKeys : List String) (id : String) :
    (((stateKeys.filterMap readStateKey).map
        (getState number keyPrefix keyspace)).mergeSort
      fun first second =>
        (localeCompare first.providerId second.providerId).isLE).filter
        (fun status => status.providerId = id) =
      List.replicate (stateKeys.countP fun key => readStateKey key = some id)
        (getState number keyPrefix keyspace id) := by
  apply List.perm_replicate.1
  refine ((List.mergeSort_perm _ _).filter _).trans ?_
  have ofProvider :
      (fun status : CircuitBreakerStatus ν =>
          decide (status.providerId = id)) ∘ getState number keyPrefix keyspace =
        fun providerId => decide (providerId = id) := rfl
  rw [List.filter_map, ofProvider, List.filter_eq, List.map_replicate,
    List.count_filterMap]
  simp only [beq_eq_decide]
  exact List.Perm.refl _

/-- A provider is listed once exactly if one position of what the store returns is
read as the provider. -/
theorem listed_once_iff
    {globMatch : String → String → Bool}
    (iteration : ScanIteration globMatch keyspace (cbScanPattern keyPrefix))
    (id : String) :
    (∃ statuses, getAllStates number localeCompare keyPrefix keyspace
          (iteration.replies ++ [iteration.last]) = some statuses ∧
        statuses.filter (fun status => status.providerId = id) =
          [getState number keyPrefix keyspace id]) ↔
      iteration.returned.countP (fun key => readStateKey key = some id) = 1 := by
  unfold getAllStates
  rw [scanStateKeys_iteration]
  simp only [Option.map_some, Option.some.injEq, exists_eq_left',
    filter_statuses]
  constructor
  · intro isOne
    have lengths := congrArg List.length isOne
    rwa [List.length_replicate, List.length_singleton] at lengths
  · intro isOne
    rw [isOne]
    rfl

end Counting

section Condition

variable (globMatch : String → String → Bool) (keyPrefix : String)
  {keyspace : Keyspace}

/-- Of all that the store returns one element is the state key of the provider
behind a prefix that reads back: the provider's own key, returned once; or, if the
pattern does not match that key, another key. -/
def NamedOnce
    (iteration : ScanIteration globMatch keyspace (cbScanPattern keyPrefix))
    (id : String) : Prop :=
  if globMatch (cbScanPattern keyPrefix) (cbState keyPrefix id) then
    iteration.returned.count (cbState keyPrefix id) = 1 ∧
      ∀ key ∈ iteration.returned, NamesBreaker id key →
        key = cbState keyPrefix id
  else
    ∃! position : Nat, ∃ key, iteration.returned[position]? = some key ∧
      NamesBreaker id key

variable {ν : Type u} [OfNat ν 0] (number : String → ν)
  (localeCompare : String → String → Ordering)

/-- A provider is listed once exactly if its key reads back and one element of what
the store returns names it. -/
theorem listed_iff_namedOnce
    (iteration : ScanIteration globMatch keyspace (cbScanPattern keyPrefix))
    {id : String}
    (isUuid : IsUuid id)
    (isKey : cbState keyPrefix id ∈ keyspace.keys) :
    (readStateKey (cbState keyPrefix id) = some id ∧
        ∃ statuses, getAllStates number localeCompare keyPrefix keyspace
            (iteration.replies ++ [iteration.last]) = some statuses ∧
          statuses.filter (fun status => status.providerId = id) =
            [getState number keyPrefix keyspace id]) ↔
      ¬ MarksLastLine keyPrefix ∧ NamedOnce globMatch keyPrefix iteration id := by
  rw [readStateKey_cbState_iff isUuid, listed_once_iff]
  refine and_congr_right fun notMarked => ?_
  have readsBack := (readStateKey_cbState_iff isUuid keyPrefix).2 notMarked
  unfold NamedOnce
  split_ifs with isMatch
  · have isReturned := iteration.mem_returned.2 ⟨isKey, isMatch⟩
    rw [countP_eq_one_iff_of_mem isReturned (decide_eq_true readsBack)]
    simp only [decide_eq_true_eq, readStateKey_eq_some isUuid]
  · rw [countP_eq_one_iff]
    simp only [decide_eq_true_eq, readStateKey_eq_some isUuid]

/-- The providers are listed once exactly if the last line of the prefix has no
`cb:` in it, so that their keys read back, and each is named by one element of what
the store returns. -/
theorem listsEachOnce_iff
    (iteration : ScanIteration globMatch keyspace (cbScanPattern keyPrefix)) :
    ListsEachOnce number localeCompare keyPrefix keyspace
        (iteration.replies ++ [iteration.last]) ↔
      ∀ id, IsUuid id → cbState keyPrefix id ∈ keyspace.keys →
        ¬ MarksLastLine keyPrefix ∧
          NamedOnce globMatch keyPrefix iteration id :=
  forall_congr' fun _ => forall_congr' fun isUuid => forall_congr' fun isKey =>
    listed_iff_namedOnce _ _ number localeCompare iteration isUuid isKey

end Condition

section Star

/-- The matching of patterns whose only special character is `*`. -/
def globStar : List Char → List Char → Bool
  | [], text => text.isEmpty
  | symbol :: pattern, text =>
      if symbol = '*' then text.tails.any (globStar pattern)
      else text.head? = some symbol && globStar pattern text.tail

/-- `MATCH` with such a pattern. -/
def starMatch (pattern key : String) : Bool :=
  globStar pattern.toList key.toList

theorem globStar_star {pattern text : List Char} :
    globStar ('*' :: pattern) text = true ↔
      ∃ front rest, text = front ++ rest ∧ globStar pattern rest = true := by
  rw [globStar, if_pos rfl, List.any_eq_true]
  constructor
  · rintro ⟨rest, isTail, isMatch⟩
    obtain ⟨front, rfl⟩ := (List.mem_tails _ _).1 isTail
    exact ⟨front, rest, rfl, isMatch⟩
  · rintro ⟨front, rest, rfl, isMatch⟩
    exact ⟨rest, (List.mem_tails _ _).2 (List.suffix_append front rest), isMatch⟩

/-- A part of a pattern without `*` matches itself. -/
theorem globStar_append
    {literal : List Char}
    (plain : '*' ∉ literal)
    {pattern text : List Char} :
    globStar (literal ++ pattern) text = true ↔
      ∃ rest, text = literal ++ rest ∧ globStar pattern rest = true := by
  induction literal generalizing text with
  | nil => simp
  | cons symbol literal inductionHypothesis =>
      rw [List.mem_cons, not_or] at plain
      rw [List.cons_append, globStar, if_neg (Ne.symm plain.1), Bool.and_eq_true,
        decide_eq_true_eq, inductionHypothesis plain.2]
      constructor
      · rintro ⟨isHead, rest, isTail, isMatch⟩
        refine ⟨rest, ?_, isMatch⟩
        rw [List.cons_append, ← isTail]
        exact List.eq_cons_of_mem_head? isHead
      · rintro ⟨rest, rfl, isMatch⟩
        exact ⟨rfl, rest, rfl, isMatch⟩

/-- What the pattern of the scan matches, with a prefix that has no special
character. -/
theorem starMatch_cbScanPattern
    {keyPrefix : String}
    (plain : '*' ∉ keyPrefix.toList)
    {key : String} :
    starMatch (cbScanPattern keyPrefix) key = true ↔
      ∃ middle, key = cbState keyPrefix middle := by
  have pattern : (cbScanPattern keyPrefix).toList =
      keyPrefix.toList ++ ("cb:".toList ++ ('*' :: (":state".toList ++ []))) := by
    rw [cbScanPattern, String.toList_append]
    rfl
  rw [starMatch, pattern, globStar_append plain]
  simp only [globStar_append (show '*' ∉ "cb:".toList by decide), globStar_star,
    globStar_append (show '*' ∉ ":state".toList by decide)]
  constructor
  · rintro ⟨_, keyEq, _, rfl, middle, _, rfl, trailing, rfl, isEnd⟩
    rw [globStar, List.isEmpty_iff] at isEnd
    subst isEnd
    refine ⟨String.ofList middle, String.toList_inj.1 ?_⟩
    rw [toList_cbState, String.toList_ofList (l := middle), keyEq]
    simp only [List.append_assoc, List.append_nil]
  · rintro ⟨middle, rfl⟩
    refine ⟨_, ?_, _, rfl, middle.toList, _, rfl, [], rfl, rfl⟩
    rw [toList_cbState]
    simp only [List.append_assoc, List.append_nil]

/-- A key behind the prefix that has no line terminator names one provider. -/
theorem NamesBreaker.eq_of_oneLine
    {keyPrefix middle id : String}
    (isUuid : IsUuid id)
    (notMarked : ¬ MarksLastLine keyPrefix)
    (oneLine : ∀ symbol ∈ (cbState keyPrefix middle).toList, isDot symbol = true)
    (names : NamesBreaker id (cbState keyPrefix middle)) : middle = id := by
  by_cases isEmpty : middle.toList = []
  · -- the id of the other prefix would end with the `:` of the marker
    exfalso
    obtain ⟨other, same, -⟩ := names
    have same' := congrArg String.toList same
    rw [toList_cbState, toList_cbState, List.append_left_inj, isEmpty,
      List.append_nil] at same'
    have ends := congrArg List.getLast? same'
    rw [List.getLast?_append_of_ne_nil _ (by decide),
      List.getLast?_append_of_ne_nil _ isUuid.captures.nonempty] at ends
    have isSymbol : ':' ∈ id.toList := List.mem_of_getLast? ends.symm
    exact absurd (isUuid.symbol isSymbol) (by decide)
  · have captures : Captures isDot middle.toList := by
      refine ⟨isEmpty, fun symbol isSymbol => oneLine symbol ?_⟩
      rw [toList_cbState]
      exact List.mem_append_left _ (List.mem_append_right _ isSymbol)
    have readsMiddle :
        readStateKey (cbState keyPrefix middle) = some middle := by
      rw [readStateKey_eq_some_iff_capture, toList_cbState]
      exact isMarker_cb.capture_append notMarked captures
    rw [← readStateKey_eq_some isUuid, readsMiddle] at names
    exact Option.some_inj.1 names

/-- With a prefix without special characters and without `cb:`, and keys of one line,
the providers are listed once exactly if the store returns their keys once. -/
theorem listsEachOnce_iff_of_plain
    {ν : Type u}
    [OfNat ν 0]
    (number : String → ν)
    (localeCompare : String → String → Ordering)
    {keyPrefix : String}
    {keyspace : Keyspace}
    (plain : '*' ∉ keyPrefix.toList)
    (notMarked : ¬ MarksLastLine keyPrefix)
    (oneLine : ∀ key ∈ keyspace.keys, ∀ symbol ∈ key.toList,
      isDot symbol = true)
    (iteration : ScanIteration starMatch keyspace (cbScanPattern keyPrefix)) :
    ListsEachOnce number localeCompare keyPrefix keyspace
        (iteration.replies ++ [iteration.last]) ↔
      ∀ id, IsUuid id → cbState keyPrefix id ∈ keyspace.keys →
        iteration.returned.count (cbState keyPrefix id) = 1 := by
  refine forall_congr' fun id => forall_congr' fun isUuid =>
    forall_congr' fun isKey => ?_
  rw [listed_iff_namedOnce _ _ number localeCompare iteration isUuid isKey]
  have isMatch : starMatch (cbScanPattern keyPrefix) (cbState keyPrefix id) = true :=
    (starMatch_cbScanPattern plain).2 ⟨id, rfl⟩
  rw [NamedOnce, if_pos isMatch]
  constructor
  · exact fun named => named.2.1
  · intro isOnce
    refine ⟨notMarked, isOnce, fun key isReturned names => ?_⟩
    obtain ⟨isKey, matched⟩ := iteration.mem_returned.1 isReturned
    obtain ⟨middle, rfl⟩ := (starMatch_cbScanPattern plain).1 matched
    rw [names.eq_of_oneLine isUuid notMarked (oneLine _ isKey)]

end Star

section Repeated

/-- A provider. -/
def openProvider : String := "0b9c1f2e-5d3a-4c6b-8e7f-1a2b3c4d5e6f"

/-- Its breaker is open. -/
def oneOpenBreaker : Keyspace where
  keys := [cbState "gw:" openProvider]
  get key := if key = cbState "gw:" openProvider then some "OPEN" else none

/-- The store returns the key of the breaker in two batches. -/
def repeatedKey :
    ScanIteration starMatch oneOpenBreaker (cbScanPattern "gw:") where
  replies := [{ cursor := "17", batch := [cbState "gw:" openProvider] }]
  last := { cursor := "0", batch := [cbState "gw:" openProvider] }
  goesOn := by decide
  ends := rfl
  sound := by decide
  complete := by decide

/-- The breaker is listed twice. -/
theorem repeatedKey_not_listed_once :
    ¬ ListsEachOnce (fun text => text.toInt?.getD 0) compare "gw:" oneOpenBreaker
      (repeatedKey.replies ++ [repeatedKey.last]) := by
  intro listsOnce
  have isUuid : IsUuid openProvider := by decide
  obtain ⟨readsBack, isOnce⟩ :=
    listsOnce openProvider isUuid List.mem_cons_self
  rw [listed_once_iff] at isOnce
  have twice : repeatedKey.returned =
      [cbState "gw:" openProvider, cbState "gw:" openProvider] := rfl
  rw [twice] at isOnce
  simp [readsBack] at isOnce

end Repeated

end CircuitBreaker
end AiGateway
