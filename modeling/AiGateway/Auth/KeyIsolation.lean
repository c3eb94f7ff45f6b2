import AiGateway.Auth.KeyExpiry
import Mathlib.Data.List.Induction
import Mathlib.Data.List.Nodup

/-!
# Keys do not share contexts

`POST /keys` inserts a row for the hash of a new key, `PATCH` and `DELETE` change a
row and then delete the cached context of its hash, and a request presents a key in
its headers. All keys share one table and one cache, so a request can only be given
the context of another key through the hash. It never is: a context that a request is
given was that of an active row of its own hash.
-/

namespace AiGateway
namespace Auth

open Foundations

section Model

/-- `redisKeys.authKey(keyHash, prefix)`. -/
def authKey (keyPrefix keyHash : String) : String :=
  keyPrefix ++ "auth:" ++ keyHash

/-- What `String.prototype.trim` removes. -/
def isBlank (symbol : Char) : Bool :=
  symbol.val ∈ [0x9, 0xA, 0xB, 0xC, 0xD, 0x20, 0xA0, 0x1680, 0x2028, 0x2029, 0x202F,
      0x205F, 0x3000, 0xFEFF] ||
    (0x2000 ≤ symbol.val && symbol.val ≤ 0x200A)

/-- `String.prototype.trim`. -/
def trim (text : String) : String :=
  .ofList (((text.toList.dropWhile isBlank).reverse.dropWhile isBlank).reverse)

/-- The two headers that may hold a key. -/
structure Headers where
  authorization : Option String := none
  xApiKey : Option String := none
  deriving DecidableEq

/-- `/^bearer /iu.test(text)`. -/
def isBearer (text : String) : Bool :=
  (text.toList.take 7).map Char.toLower = "bearer ".toList

/-- Extract the raw key from the Authorization or x-api-key header. -/
def extractApiKey (headers : Headers) : Option String :=
  match headers.authorization.filter isBearer with
  | some text =>
      let token := trim (.ofList (text.toList.drop 7))
      if token.isEmpty then none else some token
  | none => (headers.xApiKey.filter fun text => !text.isEmpty).map trim

/-- The body of `POST /keys`, amounts and instants as the columns keep them. -/
structure KeyBody where
  name : Option String := none
  ownerId : Option String := none
  monthlyBudgetUsd : Option Rat := none
  allowedModels : Option (List String) := none
  rpmLimit : Option Nat := none
  tpmLimit : Option Nat := none
  expiresAt : Option Nat := none

/-- The row that is inserted, with the defaults of its columns. -/
def KeyBody.row (body : KeyBody) (id : String) : ApiKeyRow where
  id := id
  name := body.name
  ownerId := body.ownerId
  isActive := true
  expiresAt := body.expiresAt
  monthlyBudgetUsd := body.monthlyBudgetUsd
  allowedModels := body.allowedModels
  rpmLimit := body.rpmLimit.getD 60
  tpmLimit := body.tpmLimit.getD 100000

/-- A row of `api_keys` with its hash. -/
structure StoredKey where
  keyHash : String
  row : ApiKeyRow

/-- The id and the hash of a row, which are both unique. -/
def StoredKey.identity (key : StoredKey) : String × String :=
  (key.row.id, key.keyHash)

/-- The lookup of an active key goes on from an inactive row as it does when there is
no row. -/
def noRow : ApiKeyRow where
  id := ""
  name := none
  ownerId := none
  isActive := false
  expiresAt := none
  monthlyBudgetUsd := none
  allowedModels := none
  rpmLimit := 0
  tpmLimit := 0

/-- A request to a user-facing route. -/
structure KeyRequest where
  headers : Headers
  phase : Phase
  deriving DecidableEq

/-- The hash function, the prefix of the store and the time to live of contexts. -/
structure KeySettings where
  hashApiKey : String → String
  keyPrefix : String
  authCacheTtlSeconds : Nat

/-- The table, the cache, the requests, and the hashes whose cached context an admin
request has yet to delete. -/
structure KeySystem where
  keys : List StoredKey := []
  cache : String → Key GatewayContext := fun _ => none
  requests : List KeyRequest := []
  pending : List String := []

/-- One step of one request. -/
inductive KeyEvent
  /-- `POST /keys`, with what `generateApiKey` and the database make up. -/
  | create (raw id : String) (body : KeyBody)
  /-- The update of `PATCH /keys/:id` or `DELETE /keys/:id`. -/
  | update (id : String) (patch : KeyPatch)
  /-- Its cache deletion. -/
  | invalidate (index : Nat) (reached : Bool)
  /-- `authPreHandler` begins. -/
  | present (headers : Headers)
  /-- It goes on. -/
  | advance (index clock nowMs : Nat) (reached : Bool)

/-- `authPreHandler` up to the first access to the store. -/
def KeyRequest.start (headers : Headers) : KeyRequest where
  headers := headers
  phase :=
    if (extractApiKey headers).isSome then .readingCache
    else
      .done (.unauthenticated
        "Missing API key. Provide a Bearer token or x-api-key header.")

variable (settings : KeySettings)

namespace KeySystem

variable (system : KeySystem)

/-- `apiKeys.findFirst` for the active key of a hash. -/
def findActive (keyHash : String) : Option StoredKey :=
  system.keys.find? fun key => key.keyHash = keyHash && key.row.isActive

/-- The insertion, which the unique columns may refuse. -/
def insert (key : StoredKey) : KeySystem :=
  if system.keys.any fun other =>
      other.row.id = key.row.id || other.keyHash = key.keyHash then
    system
  else
    { system with keys := system.keys ++ [key] }

/-- `update(apiKeys).set(...).where(eq(apiKeys.id, id)).returning()`; no row is a
404. -/
def update (id : String) (patch : KeyPatch) : KeySystem :=
  match system.keys.find? fun key => key.row.id = id with
  | none => system
  | some found =>
      { system with
        keys := system.keys.map fun key =>
          if key.row.id = id then { key with row := patch.apply key.row } else key
        pending := system.pending ++ [found.keyHash] }

/-- The cached context of a hash after a request has worked on it. -/
def setCache (keyHash : String) (cached : Key GatewayContext) : KeySystem :=
  { system with
    cache := Function.update system.cache (authKey settings.keyPrefix keyHash) cached }

/-- A request that has presented a key takes a step. -/
def advance
    (index clock nowMs : Nat)
    (reached : Bool)
    (request : KeyRequest)
    (raw : String) :
    KeySystem :=
  let keyHash := settings.hashApiKey raw
  let next := authenticateStep settings.authCacheTtlSeconds clock nowMs reached
    (((system.findActive keyHash).map StoredKey.row).getD noRow)
    (system.cache (authKey settings.keyPrefix keyHash)) request.phase
  { system.setCache settings keyHash next.2 with
    requests := system.requests.set index { request with phase := next.1 } }

/-- What one event does. -/
def step : KeyEvent → KeySystem
  | .create raw id body =>
      system.insert { keyHash := settings.hashApiKey raw, row := body.row id }
  | .update id patch => system.update id patch
  | .invalidate index reached =>
      match system.pending[index]? with
      | none => system
      | some keyHash =>
          { system.setCache settings keyHash (invalidateAuthCache reached
              (system.cache (authKey settings.keyPrefix keyHash))) with
            pending := system.pending.eraseIdx index }
  | .present headers =>
      { system with requests := system.requests ++ [.start headers] }
  | .advance index clock nowMs reached =>
      match system.requests[index]? with
      | none => system
      | some request =>
          match extractApiKey request.headers with
          | none => system
          | some raw => system.advance settings index clock nowMs reached request raw

/-- A context is held for a hash: it is cached, or a request that has presented a key
of that hash carries it. -/
def Holds (keyHash : String) (context : GatewayContext) : Prop :=
  (∃ entry ∈ system.cache (authKey settings.keyPrefix keyHash), entry.value = context) ∨
    ∃ request ∈ system.requests, ∃ raw ∈ extractApiKey request.headers,
      settings.hashApiKey raw = keyHash ∧ context ∈ request.phase.carried

/-- A context is that of the active row of a hash. -/
def Grants (keyHash : String) (context : GatewayContext) : Prop :=
  ∃ key ∈ system.keys, key.keyHash = keyHash ∧ key.row.isActive = true ∧
    key.row.context = context

end KeySystem

end Model

section Steps

theorem authKey_injective {keyPrefix first second : String}
    (same : authKey keyPrefix first = authKey keyPrefix second) :
    first = second := by
  have texts := congrArg String.toList same
  simp only [authKey, String.toList_append] at texts
  exact String.toList_injective (List.append_cancel_left texts)

variable {settings : KeySettings} {system : KeySystem} {keyHash : String}
  {context : GatewayContext}

@[simp] theorem carried_start (headers : Headers) :
    (KeyRequest.start headers).phase.carried = none := by
  unfold KeyRequest.start
  dsimp only
  split_ifs <;> rfl

namespace KeySystem

/-- What the lookup finds is an active row of the hash. -/
theorem grants_of_findActive
    {key : StoredKey}
    (found : system.findActive keyHash = some key) :
    system.Grants keyHash key.row.context := by
  have isKey := List.mem_of_find?_eq_some found
  have matching := List.find?_some found
  rw [Bool.and_eq_true, decide_eq_true_iff] at matching
  exact ⟨key, isKey, matching.1, matching.2, rfl⟩

/-- A request that is given a new context finds it cached, or in an active row. -/
theorem holds_advance
    {index clock nowMs : Nat}
    {reached : Bool}
    {request : KeyRequest}
    {raw : String}
    (isRequest : system.requests[index]? = some request)
    (presents : extractApiKey request.headers = some raw)
    (holds : (system.advance settings index clock nowMs reached request raw).Holds
      settings keyHash context) :
    system.Holds settings keyHash context ∨ system.Grants keyHash context := by
  have isHere : request ∈ system.requests := List.mem_of_getElem? isRequest
  rcases holds with ⟨entry, isEntry, same⟩ | ⟨other, isOther, otherRaw, presented, ofHash,
    isCarried⟩
  · change entry ∈ Function.update system.cache _ _ _ at isEntry
    by_cases sameKey : authKey settings.keyPrefix keyHash =
        authKey settings.keyPrefix (settings.hashApiKey raw)
    · obtain rfl := authKey_injective sameKey
      rw [Function.update_self] at isEntry
      rcases cached_authenticateStep isEntry with ⟨old, isOld, sameValue⟩ | writes
      · exact .inl (.inl ⟨old, isOld, sameValue ▸ same⟩)
      · refine .inl (.inr ⟨request, isHere, raw, presents, rfl, ?_⟩)
        rw [writes, same]
        rfl
    · rw [Function.update_of_ne sameKey] at isEntry
      exact .inl (.inl ⟨entry, isEntry, same⟩)
  · rcases List.mem_or_eq_of_mem_set isOther with isOld | rfl
    · exact .inl (.inr ⟨other, isOld, otherRaw, presented, ofHash, isCarried⟩)
    · obtain rfl : raw = otherRaw := Option.some_inj.1 (presents.symm.trans presented)
      subst ofHash
      rcases carried_authenticateStep isCarried with ⟨isOld, -⟩ | ⟨-, -, found⟩
      · exact .inl (.inr ⟨request, isHere, raw, presents, rfl, isOld⟩)
      · rcases found with isCached | ⟨⟨-, -, isActive⟩, rfl⟩
        · exact .inl (.inl isCached)
        · cases lookup : system.findActive (settings.hashApiKey raw) with
          | none =>
              rw [lookup] at isActive
              cases isActive
          | some key => exact .inr (grants_of_findActive lookup)

/-- What is held after an event was held before it, or is the context of an active row
of the hash. -/
theorem holds_step
    (event : KeyEvent)
    (holds : (system.step settings event).Holds settings keyHash context) :
    system.Holds settings keyHash context ∨ system.Grants keyHash context := by
  cases event with
  | create raw id body =>
      simp only [step, insert] at holds
      split_ifs at holds <;> exact .inl holds
  | update id patch =>
      simp only [step, update] at holds
      split at holds <;> exact .inl holds
  | invalidate index reached =>
      simp only [step] at holds
      split at holds
      · exact .inl holds
      · rename_i updated _
        rcases holds with ⟨entry, isEntry, same⟩ | carries
        · change entry ∈ Function.update system.cache _ _ _ at isEntry
          by_cases sameKey : authKey settings.keyPrefix keyHash =
              authKey settings.keyPrefix updated
          · obtain rfl := authKey_injective sameKey
            rw [Function.update_self] at isEntry
            cases reached with
            | true => cases isEntry
            | false => exact .inl (.inl ⟨entry, isEntry, same⟩)
          · rw [Function.update_of_ne sameKey] at isEntry
            exact .inl (.inl ⟨entry, isEntry, same⟩)
        · exact .inl (.inr carries)
  | present headers =>
      rcases holds with isCached | ⟨request, isRequest, raw, presents, ofHash, isCarried⟩
      · exact .inl (.inl isCached)
      · rcases List.mem_append.1 isRequest with isOld | isNew
        · exact .inl (.inr ⟨request, isOld, raw, presents, ofHash, isCarried⟩)
        · rw [List.mem_singleton.1 isNew, carried_start] at isCarried
          cases isCarried
  | advance index clock nowMs reached =>
      simp only [step] at holds
      split at holds
      · exact .inl holds
      · split at holds
        · exact .inl holds
        · rename_i request isRequest _ raw presents
          exact holds_advance isRequest presents holds

/-- The ids and hashes of the rows. -/
def identities (system : KeySystem) : List (String × String) :=
  system.keys.map StoredKey.identity

/-- Rows keep their ids and hashes, and a row that is added has new ones. -/
theorem identities_step_cases (system : KeySystem) (event : KeyEvent) :
    (system.step settings event).identities = system.identities ∨
      ∃ raw id body, event = .create raw id body ∧
        (system.step settings event).identities =
          system.identities ++ [(id, settings.hashApiKey raw)] ∧
        ∀ identity ∈ system.identities,
          identity.1 ≠ id ∧ identity.2 ≠ settings.hashApiKey raw := by
  cases event with
  | create raw id body =>
      simp only [step, insert]
      split_ifs with taken
      · exact .inl rfl
      · refine .inr ⟨raw, id, body, rfl, List.map_append, fun identity isIdentity => ?_⟩
        obtain ⟨key, isKey, rfl⟩ := List.mem_map.1 isIdentity
        constructor
        · intro same
          exact taken (List.any_eq_true.2 ⟨key, isKey,
            Bool.or_eq_true_iff.2 (.inl (decide_eq_true same))⟩)
        · intro same
          exact taken (List.any_eq_true.2 ⟨key, isKey,
            Bool.or_eq_true_iff.2 (.inr (decide_eq_true same))⟩)
  | update id patch =>
      refine .inl ?_
      simp only [step, update]
      split
      · rfl
      · simp only [identities, List.map_map]
        refine List.map_congr_left fun key _ => ?_
        simp only [Function.comp_apply]
        split_ifs <;> rfl
  | invalidate index reached =>
      simp only [step]
      split <;> exact .inl rfl
  | present headers => exact .inl rfl
  | advance index clock nowMs reached =>
      simp only [step]
      split
      · exact .inl rfl
      · split <;> exact .inl rfl

theorem identities_runFrom (system : KeySystem) (events : List KeyEvent) :
    system.identities <+: (runFrom (step settings) system events).identities := by
  refine runFrom_induction
    (fun state : KeySystem => system.identities <+: state.identities)
    (fun state event _ grown => grown.trans ?_) List.prefix_rfl
  rcases identities_step_cases state event with same | ⟨_, _, _, -, added, -⟩
  · exact same ▸ List.prefix_rfl
  · exact added ▸ List.prefix_append _ _

/-- The unique columns, and where the rows come from. -/
structure Table (settings : KeySettings) (events : List KeyEvent)
    (system : KeySystem) : Prop where
  ids : (system.identities.map Prod.fst).Nodup
  hashes : (system.identities.map Prod.snd).Nodup
  created : ∀ identity ∈ system.identities, ∃ raw body,
    .create raw identity.1 body ∈ events ∧ settings.hashApiKey raw = identity.2
  /-- A request whose headers hold no key is given no context. -/
  keyless : ∀ request ∈ system.requests, extractApiKey request.headers = none →
    request.phase.carried = none

variable {events : List KeyEvent}

/-- The requests after an event: one has begun, one that has presented a key has gone
on, or they are as they were. -/
theorem requests_step_cases (system : KeySystem) (event : KeyEvent) :
    (system.step settings event).requests = system.requests ∨
      (∃ headers, event = .present headers ∧
        (system.step settings event).requests = system.requests ++ [.start headers]) ∨
      ∃ index clock nowMs reached request raw,
        event = .advance index clock nowMs reached ∧
        system.requests[index]? = some request ∧
        extractApiKey request.headers = some raw ∧
        system.step settings event =
          system.advance settings index clock nowMs reached request raw := by
  cases event with
  | create raw id body =>
      simp only [step, insert]
      split_ifs <;> exact .inl rfl
  | update id patch =>
      simp only [step, update]
      split <;> exact .inl rfl
  | invalidate index reached =>
      simp only [step]
      split <;> exact .inl rfl
  | present headers => exact .inr (.inl ⟨headers, rfl, rfl⟩)
  | advance index clock nowMs reached =>
      simp only [step]
      split
      · exact .inl rfl
      · split
        · exact .inl rfl
        · rename_i request isRequest _ raw presents
          exact .inr (.inr ⟨index, clock, nowMs, reached, request, raw, rfl, isRequest,
            presents, rfl⟩)

/-- Every event keeps the table in order. -/
theorem Table.step
    (table : Table settings events system)
    {event : KeyEvent}
    (isEvent : event ∈ events) :
    Table settings events (system.step settings event) := by
  have keyless : ∀ request ∈ (system.step settings event).requests,
      extractApiKey request.headers = none → request.phase.carried = none := by
    intro request isRequest noKey
    rcases requests_step_cases system event with
      same | ⟨headers, -, same⟩ | ⟨index, _, _, _, moved, raw, -, found, presents, same⟩
    · rw [same] at isRequest
      exact table.keyless request isRequest noKey
    · rw [same] at isRequest
      rcases List.mem_append.1 isRequest with isOld | isNew
      · exact table.keyless request isOld noKey
      · rw [List.mem_singleton.1 isNew, carried_start]
    · rw [same] at isRequest
      rcases List.mem_or_eq_of_mem_set isRequest with isOld | rfl
      · exact table.keyless request isOld noKey
      · rw [presents] at noKey
        cases noKey
  rcases identities_step_cases system event with same | ⟨raw, id, body, rfl, added, isNew⟩
  · refine ⟨?_, ?_, ?_, keyless⟩
    all_goals rw [same]
    · exact table.ids
    · exact table.hashes
    · exact table.created
  · refine ⟨?_, ?_, fun identity isIdentity => ?_, keyless⟩
    · rw [added, List.map_append]
      refine List.nodup_append.2 ⟨table.ids, List.nodup_singleton _, ?_⟩
      rintro _ isOld _ isSingle rfl
      obtain ⟨identity, isIdentity, same⟩ := List.mem_map.1 isOld
      exact (isNew identity isIdentity).1 (same.trans (List.mem_singleton.1 isSingle))
    · rw [added, List.map_append]
      refine List.nodup_append.2 ⟨table.hashes, List.nodup_singleton _, ?_⟩
      rintro _ isOld _ isSingle rfl
      obtain ⟨identity, isIdentity, same⟩ := List.mem_map.1 isOld
      exact (isNew identity isIdentity).2 (same.trans (List.mem_singleton.1 isSingle))
    · rw [added] at isIdentity
      rcases List.mem_append.1 isIdentity with isOld | isSingle
      · exact table.created identity isOld
      · obtain rfl := List.mem_singleton.1 isSingle
        exact ⟨raw, body, isEvent, rfl⟩

theorem table_initial (settings : KeySettings) (events : List KeyEvent) :
    Table settings events {} where
  ids := List.nodup_nil
  hashes := List.nodup_nil
  created _ isIdentity := absurd isIdentity List.not_mem_nil
  keyless _ isRequest := absurd isRequest List.not_mem_nil

theorem table_runFrom (settings : KeySettings) (events : List KeyEvent) :
    Table settings events (runFrom (KeySystem.step settings) {} events) :=
  runFrom_induction (Table settings events)
    (fun _ _ isEvent table => table.step isEvent) (table_initial settings events)

/-- What is held was granted at some moment. -/
theorem exists_grants
    {events : List KeyEvent}
    (holds : (runFrom (step settings) {} events).Holds settings keyHash context) :
    ∃ earlier later, events = earlier ++ later ∧
      (runFrom (step settings) {} earlier).Grants keyHash context := by
  induction events using List.reverseRecOn with
  | nil => rcases holds with ⟨entry, ⟨⟩, -⟩ | ⟨request, isRequest, -⟩; cases isRequest
  | append_singleton events event inductionHypothesis =>
      rw [runFrom_concat] at holds
      rcases holds_step event holds with before | grants
      · obtain ⟨earlier, later, rfl, grants⟩ := inductionHypothesis before
        exact ⟨earlier, later ++ [event], List.append_assoc _ _ _, grants⟩
      · exact ⟨events, [event], rfl, grants⟩

/-- A grant is that of a row, which the table keeps. -/
theorem mem_identities_of_grants
    {earlier later : List KeyEvent}
    (split : events = earlier ++ later)
    (grants : (runFrom (step settings) {} earlier).Grants keyHash context) :
    (context.apiKeyId, keyHash) ∈ (runFrom (step settings) {} events).identities := by
  obtain ⟨key, isKey, rfl, -, rfl⟩ := grants
  rw [split, runFrom_append]
  exact (identities_runFrom _ later).subset (List.mem_map_of_mem isKey)

/-- An id has one hash, and a hash one id. -/
theorem Table.id_eq_iff
    (table : Table settings events system)
    {first second : String × String}
    (isFirst : first ∈ system.identities)
    (isSecond : second ∈ system.identities) :
    first.1 = second.1 ↔ first.2 = second.2 := by
  constructor
  · intro sameId
    rw [List.inj_on_of_nodup_map table.ids isFirst isSecond sameId]
  · intro sameHash
    rw [List.inj_on_of_nodup_map table.hashes isFirst isSecond sameHash]

/-- A request that is given a context presented a key, and what it is given was granted
to the hash of that key. -/
theorem granted_of_returned
    {request : KeyRequest}
    (isRequest : request ∈ (runFrom (step settings) {} events).requests)
    (returned : request.phase = .done (.returned context)) :
    ∃ raw, extractApiKey request.headers = some raw ∧
      ∃ earlier later, events = earlier ++ later ∧
        (runFrom (step settings) {} earlier).Grants (settings.hashApiKey raw) context := by
  have carries : request.phase.carried = some context := by rw [returned]; rfl
  cases presents : extractApiKey request.headers with
  | none =>
      have nothing :=
        (table_runFrom settings events).keyless request isRequest presents
      rw [carries] at nothing
      cases nothing
  | some raw =>
      exact ⟨raw, rfl, exists_grants
        (.inr ⟨request, isRequest, raw, presents, rfl, carries⟩)⟩

end KeySystem

/-- In every interleaving of requests, admin changes and outages: a context that a
request is given was, at some moment, that of an active row of the hash of the key it
presented; its id is the one made up when a key of that hash was created; and two
requests are given contexts of one id exactly when their keys have one hash. -/
theorem context_of_presented_key
    (settings : KeySettings)
    (events : List KeyEvent) :
    let final := runFrom (KeySystem.step settings) {} events
    ∀ request ∈ final.requests, ∀ context,
      request.phase = .done (.returned context) →
      ∃ raw, extractApiKey request.headers = some raw ∧
        (∃ earlier later, events = earlier ++ later ∧
          (runFrom (KeySystem.step settings) {} earlier).Grants
            (settings.hashApiKey raw) context) ∧
        (∃ issued body, .create issued context.apiKeyId body ∈ events ∧
          settings.hashApiKey issued = settings.hashApiKey raw) ∧
        ∀ other ∈ final.requests, ∀ otherRaw otherContext,
          extractApiKey other.headers = some otherRaw →
          other.phase = .done (.returned otherContext) →
          (otherContext.apiKeyId = context.apiKeyId ↔
            settings.hashApiKey otherRaw = settings.hashApiKey raw) := by
  intro final request isRequest context returned
  have table : KeySystem.Table settings events final :=
    KeySystem.table_runFrom settings events
  obtain ⟨raw, presents, earlier, later, split, grants⟩ :=
    KeySystem.granted_of_returned isRequest returned
  have isIdentity : (context.apiKeyId, settings.hashApiKey raw) ∈ final.identities :=
    KeySystem.mem_identities_of_grants split grants
  refine ⟨raw, presents, ⟨earlier, later, split, grants⟩, table.created _ isIdentity,
    fun other isOther otherRaw otherContext otherPresents otherReturned => ?_⟩
  obtain ⟨sameRaw, samePresents, before, after, otherSplit, otherGrants⟩ :=
    KeySystem.granted_of_returned isOther otherReturned
  obtain rfl : otherRaw = sameRaw :=
    Option.some_inj.1 (otherPresents.symm.trans samePresents)
  have isOtherIdentity :
      (otherContext.apiKeyId, settings.hashApiKey otherRaw) ∈ final.identities :=
    KeySystem.mem_identities_of_grants otherSplit otherGrants
  exact table.id_eq_iff isOtherIdentity isIdentity

/-- Two keys and what they hash to. -/
def twoKeys : KeySettings where
  hashApiKey raw :=
    if raw = "gw-000102030405060708090a0b0c0d0e0f" then
      "33b77f1000b3ed624cf284ac6d2aa9a55c3391f4713b6ba9f0d7540fbce32d1d"
    else if raw = "gw-f0f1f2f3f4f5f6f7f8f9fafbfcfdfeff" then
      "269b96f948995a57980c55e8ec4b711a0f4d635e18e8ab5d88ff0e1075b17efe"
    else
      ""
  keyPrefix := "gw:"
  authCacheTtlSeconds := 300

/-- The second key in a header. -/
def secondKey : Headers where
  authorization := some "Bearer gw-f0f1f2f3f4f5f6f7f8f9fafbfcfdfeff"

/-- Two keys are created, and the second one is presented. -/
def presentedKey : List KeyEvent :=
  [.create "gw-000102030405060708090a0b0c0d0e0f" "a" {},
    .create "gw-f0f1f2f3f4f5f6f7f8f9fafbfcfdfeff" "b" {},
    .present secondKey, .advance 0 100 100 true, .advance 0 101 101 true,
    .advance 0 102 102 false]

theorem context_of_presented_key_twoKeys :
    ∃ issued body, .create issued "b" body ∈ presentedKey ∧
      twoKeys.hashApiKey issued =
        "269b96f948995a57980c55e8ec4b711a0f4d635e18e8ab5d88ff0e1075b17efe" := by
  have answered : (runFrom (KeySystem.step twoKeys) {} presentedKey).requests =
      [⟨secondKey, .done (.returned (KeyBody.row {} "b").context)⟩] := by decide
  have isRequest : ⟨secondKey, .done (.returned (KeyBody.row {} "b").context)⟩ ∈
      (runFrom (KeySystem.step twoKeys) {} presentedKey).requests := by
    rw [answered]
    exact List.mem_singleton_self _
  obtain ⟨raw, presents, -, issued, -⟩ :=
    context_of_presented_key twoKeys presentedKey _ isRequest _ rfl
  obtain rfl : "gw-f0f1f2f3f4f5f6f7f8f9fafbfcfdfeff" = raw :=
    Option.some_inj.1 ((by decide : _ = _).trans presents)
  exact issued

end Steps

section Creation

/-- How far a request can get that presents a key which has not changed since it was
created: to its context, to an error of the database, or to the expiry of the key. -/
def Phase.Serves (row : ApiKeyRow) (events : List KeyEvent) : Phase → Prop
  | .readingCache | .dropping | .readingDatabase => True
  | .refreshing context | .writing context => context = row.context
  | .done outcome =>
      outcome = .returned row.context ∨ outcome = .failed ∨
        outcome = .unauthenticated "API key has expired." ∧
          ∃ index clock nowMs reached, .advance index clock nowMs reached ∈ events ∧
            expired nowMs row.expiresAt = true

variable {settings : KeySettings} {system : KeySystem} {events later : List KeyEvent}
  {key : StoredKey} {base : Nat}

/-- A step of a request that presents such a key. -/
theorem Phase.Serves.step
    {row : ApiKeyRow}
    {phase : Phase}
    (serves : phase.Serves row later)
    (isActive : row.isActive = true)
    {cache : Key GatewayContext}
    (cached : ∀ entry ∈ cache, entry.value = row.context)
    {authCacheTtlSeconds index clock nowMs : Nat}
    {reached : Bool}
    (isEvent : .advance index clock nowMs reached ∈ later) :
    (authenticateStep authCacheTtlSeconds clock nowMs reached row cache
      phase).1.Serves row later := by
  cases phase with
  | readingCache =>
      cases reached with
      | false => trivial
      | true =>
          simp only [authenticateStep, if_true]
          cases isRead : cache.read clock with
          | none => trivial
          | some context =>
              obtain ⟨entry, visible, rfl⟩ := Option.map_eq_some_iff.1 isRead
              dsimp only
              split_ifs
              · trivial
              · exact cached entry (Key.eq_some_of_visible visible).1
  | refreshing context =>
      cases reached with
      | false => trivial
      | true => exact .inl (congrArg Outcome.returned serves)
  | dropping => trivial
  | readingDatabase =>
      cases reached with
      | false => exact .inr (.inl rfl)
      | true =>
          simp only [authenticateStep, if_true, afterLookup, isActive]
          split_ifs with isExpired
          · exact .inr (.inr ⟨rfl, index, clock, nowMs, true, isEvent, isExpired⟩)
          · rfl
  | writing context => exact .inl (congrArg Outcome.returned serves)
  | done outcome => exact serves

namespace KeySystem

/-- A key that has not changed since it was created, from the requests on that began
after that. -/
structure Fresh (settings : KeySettings) (events later : List KeyEvent)
    (key : StoredKey) (base : Nat) (system : KeySystem) : Prop where
  table : Table settings events system
  stored : key ∈ system.keys
  held : ∀ context, system.Holds settings key.keyHash context →
    context = key.row.context
  requests : ∀ index request raw, base ≤ index →
    system.requests[index]? = some request →
    extractApiKey request.headers = some raw →
    settings.hashApiKey raw = key.keyHash → request.phase.Serves key.row later

/-- A row is the only one of its hash. -/
theorem Table.eq_of_keyHash
    (table : Table settings events system)
    (stored : key ∈ system.keys)
    {other : StoredKey}
    (isOther : other ∈ system.keys)
    (same : other.keyHash = key.keyHash) :
    other = key := by
  have hashes := table.hashes
  rw [identities, List.map_map] at hashes
  exact List.inj_on_of_nodup_map hashes isOther stored same

theorem Table.context_eq
    (table : Table settings events system)
    (stored : key ∈ system.keys)
    {context : GatewayContext}
    (grants : system.Grants key.keyHash context) :
    context = key.row.context := by
  obtain ⟨other, isOther, sameHash, -, rfl⟩ := grants
  rw [table.eq_of_keyHash stored isOther sameHash]

theorem Table.findActive_eq
    (table : Table settings events system)
    (stored : key ∈ system.keys)
    (isActive : key.row.isActive = true) :
    system.findActive key.keyHash = some key := by
  cases found : system.findActive key.keyHash with
  | none =>
      have nothing := List.find?_eq_none.1 found key stored
      rw [isActive, Bool.and_true, decide_eq_true_iff] at nothing
      exact absurd rfl nothing
  | some other =>
      have matching := List.find?_some found
      rw [Bool.and_eq_true, decide_eq_true_iff] at matching
      rw [table.eq_of_keyHash stored (List.mem_of_find?_eq_some found) matching.1]

/-- Only an update of its own id changes a row. -/
theorem mem_keys_step
    (stored : key ∈ system.keys)
    {event : KeyEvent}
    (notUpdate : ∀ patch, event ≠ .update key.row.id patch) :
    key ∈ (system.step settings event).keys := by
  cases event with
  | create raw id body =>
      simp only [step, insert]
      split_ifs
      · exact stored
      · exact List.mem_append_left _ stored
  | update id patch =>
      simp only [step, update]
      split
      · exact stored
      · have different : key.row.id ≠ id := by
          rintro rfl
          exact notUpdate patch rfl
        exact List.mem_map.2 ⟨key, stored, if_neg different⟩
  | invalidate index reached =>
      simp only [step]
      split <;> exact stored
  | present headers => exact stored
  | advance index clock nowMs reached =>
      simp only [step]
      split
      · exact stored
      · split <;> exact stored

/-- Every event but an update of the key keeps it fresh. -/
theorem Fresh.step
    (fresh : Fresh settings events later key base system)
    (isActive : key.row.isActive = true)
    {event : KeyEvent}
    (isEvent : event ∈ events)
    (isLater : event ∈ later)
    (notUpdate : ∀ patch, event ≠ .update key.row.id patch) :
    Fresh settings events later key base (system.step settings event) where
  table := fresh.table.step isEvent
  stored := mem_keys_step fresh.stored notUpdate
  held := by
    intro context holds
    rcases holds_step event holds with before | grants
    · exact fresh.held context before
    · exact fresh.table.context_eq fresh.stored grants
  requests := by
    intro index request raw isRecent isRequest presents ofHash
    rcases requests_step_cases system event with
      same | ⟨headers, -, same⟩ |
        ⟨moved, clock, nowMs, reached, before, _, rfl, found, presented, same⟩
    · rw [same] at isRequest
      exact fresh.requests index request raw isRecent isRequest presents ofHash
    · rw [same] at isRequest
      by_cases isOld : index < system.requests.length
      · rw [List.getElem?_append_left isOld] at isRequest
        exact fresh.requests index request raw isRecent isRequest presents ofHash
      · rw [List.getElem?_append_right (Nat.le_of_not_lt isOld)] at isRequest
        obtain rfl := List.mem_singleton.1 (List.mem_of_getElem? isRequest)
        have hasKey : (extractApiKey headers).isSome = true := by
          rw [show extractApiKey headers = some raw from presents]
          rfl
        rw [KeyRequest.start, if_pos hasKey]
        trivial
    · rw [same] at isRequest
      change (system.requests.set moved _)[index]? = _ at isRequest
      by_cases isMoved : moved = index
      · subst isMoved
        have inBound := (List.getElem?_eq_some_iff.1 found).1
        rw [List.getElem?_set_self inBound] at isRequest
        obtain rfl := Option.some_inj.1 isRequest
        obtain rfl := Option.some_inj.1 (presented.symm.trans presents)
        have serves :=
          fresh.requests moved before _ isRecent found presented ofHash
        dsimp only
        rw [ofHash, fresh.table.findActive_eq fresh.stored isActive]
        exact serves.step isActive
          (fun entry isEntry => fresh.held _ (.inl ⟨entry, isEntry, rfl⟩)) isLater
      · rw [List.getElem?_set_ne isMoved] at isRequest
        exact fresh.requests index request raw isRecent isRequest presents ofHash

/-- A key that is inserted is fresh. -/
theorem fresh_of_create
    (settings : KeySettings)
    {before : List KeyEvent}
    {raw id : String}
    (body : KeyBody)
    (later : List KeyEvent)
    (unused : ∀ identity ∈ (runFrom (KeySystem.step settings) {} before).identities,
      identity.1 ≠ id ∧ identity.2 ≠ settings.hashApiKey raw) :
    let created := runFrom (KeySystem.step settings) {} (before ++ [.create raw id body])
    Fresh settings (before ++ .create raw id body :: later) later
      ⟨settings.hashApiKey raw, body.row id⟩ created.requests.length created := by
  intro created
  let event : KeyEvent := .create raw id body
  let state := runFrom (KeySystem.step settings) {} before
  have isStep : created = state.step settings event := runFrom_concat _ _ _ _
  have ungranted : ∀ context, ¬ state.Grants (settings.hashApiKey raw) context := by
    rintro context ⟨key, isKey, sameHash, -⟩
    exact (unused key.identity (List.mem_map_of_mem isKey)).2 sameHash
  refine ⟨?_, ?_, fun context holds => ?_, ?_⟩
  · refine runFrom_induction (Table settings (before ++ event :: later))
      (fun _ _ isEvent table => table.step ?_) (table_initial settings _)
    rcases List.mem_append.1 isEvent with isBefore | isCreate
    · exact List.mem_append_left _ isBefore
    · rw [List.mem_singleton.1 isCreate]
      exact List.mem_append_right _ List.mem_cons_self
  · rw [isStep]
    simp only [event, KeySystem.step, insert]
    split_ifs with taken
    · obtain ⟨key, isKey, clash⟩ := List.any_eq_true.1 taken
      have different := unused key.identity (List.mem_map_of_mem isKey)
      rcases Bool.or_eq_true_iff.1 clash with sameId | sameHash
      · exact absurd (of_decide_eq_true sameId) different.1
      · exact absurd (of_decide_eq_true sameHash) different.2
    · exact List.mem_concat_self
  · rw [isStep] at holds
    rcases holds_step event holds with held | grants
    · obtain ⟨earlier, rest, split, grants⟩ := exists_grants held
      exact absurd rfl
        (unused _ (mem_identities_of_grants split grants)).2
    · exact absurd grants (ungranted context)
  · intro index request presented isRecent isRequest
    rw [List.getElem?_eq_none isRecent] at isRequest
    cases isRequest

end KeySystem

/-- A key that was created, under an id and a hash that were not taken, and that no
request has changed since: a request that begins after that and presents it is given
its context, unless the database fails or the key has expired, whatever else is
created, changed, presented or deleted meanwhile. -/
theorem accepted_after_creation
    (settings : KeySettings)
    (before after : List KeyEvent)
    (raw id : String)
    (body : KeyBody)
    (unused : ∀ identity ∈ (runFrom (KeySystem.step settings) {} before).identities,
      identity.1 ≠ id ∧ identity.2 ≠ settings.hashApiKey raw)
    (unchanged : ∀ patch, .update id patch ∉ after) :
    let created :=
      runFrom (KeySystem.step settings) {} (before ++ [KeyEvent.create raw id body])
    let final := runFrom (KeySystem.step settings) created after
    ∀ index request presented outcome, created.requests.length ≤ index →
      final.requests[index]? = some request →
      extractApiKey request.headers = some presented →
      settings.hashApiKey presented = settings.hashApiKey raw →
      request.phase = .done outcome →
      outcome = .returned (body.row id).context ∨ outcome = .failed ∨
        outcome = .unauthenticated "API key has expired." ∧
          ∃ other clock nowMs reached, .advance other clock nowMs reached ∈ after ∧
            expired nowMs body.expiresAt = true := by
  intro created final index request presented outcome isRecent isRequest presents ofHash
    ended
  have fresh : KeySystem.Fresh settings (before ++ .create raw id body :: after) after
      ⟨settings.hashApiKey raw, body.row id⟩ created.requests.length final := by
    refine runFrom_induction _ (fun state event isEvent fresh => ?_)
      (KeySystem.fresh_of_create settings body after unused)
    refine fresh.step rfl
      (List.mem_append_right _ (List.mem_cons_of_mem _ isEvent)) isEvent ?_
    rintro patch rfl
    exact unchanged patch isEvent
  have serves := fresh.requests index request presented isRecent isRequest presents ofHash
  rw [ended] at serves
  exact serves

/-- A key that expires. -/
def expiringKey : KeyBody := { expiresAt := some 50 }

/-- The second key is presented before it expires and after that. -/
def presentedTwice : List KeyEvent :=
  [.present secondKey, .advance 0 10 10 true, .advance 0 11 11 true,
    .advance 0 12 12 true, .present secondKey, .advance 1 100 100 true,
    .advance 1 101 101 true, .advance 1 102 102 true]

theorem accepted_after_creation_expiring :
    let created := runFrom (KeySystem.step twoKeys) {}
      [.create "gw-000102030405060708090a0b0c0d0e0f" "a" {},
        .create "gw-f0f1f2f3f4f5f6f7f8f9fafbfcfdfeff" "b" expiringKey]
    let final := runFrom (KeySystem.step twoKeys) created presentedTwice
    (∃ context, final.requests[0]? = some ⟨secondKey, .done (.returned context)⟩ ∧
      context = (expiringKey.row "b").context) ∧
      ∃ message, final.requests[1]? = some ⟨secondKey, .done (.unauthenticated message)⟩ ∧
        message = "API key has expired." := by
  intro created final
  have unused : ∀ identity ∈ (runFrom (KeySystem.step twoKeys) {}
      [.create "gw-000102030405060708090a0b0c0d0e0f" "a" {}]).identities,
      identity.1 ≠ "b" ∧ identity.2 ≠
        twoKeys.hashApiKey "gw-f0f1f2f3f4f5f6f7f8f9fafbfcfdfeff" := by decide
  have unchanged : ∀ patch, .update "b" patch ∉ presentedTwice := by
    intro patch
    simp [presentedTwice]
  have accepted := accepted_after_creation twoKeys
    [.create "gw-000102030405060708090a0b0c0d0e0f" "a" {}] presentedTwice
    "gw-f0f1f2f3f4f5f6f7f8f9fafbfcfdfeff" "b" expiringKey unused unchanged
  constructor
  · obtain ⟨context, answered⟩ : ∃ context, final.requests[0]? =
        some ⟨secondKey, .done (.returned context)⟩ :=
      ⟨(expiringKey.row "b").context, by decide⟩
    refine ⟨context, answered, ?_⟩
    rcases accepted 0 _ _ _ (by decide) answered rfl rfl rfl with
      returned | failed | ⟨hasExpired, -⟩
    · injection returned
    · cases failed
    · cases hasExpired
  · obtain ⟨message, answered⟩ : ∃ message, final.requests[1]? =
        some ⟨secondKey, .done (.unauthenticated message)⟩ :=
      ⟨"API key has expired.", by decide⟩
    refine ⟨message, answered, ?_⟩
    rcases accepted 1 _ _ _ (by decide) answered rfl rfl rfl with
      returned | failed | ⟨hasExpired, -⟩
    · cases returned
    · cases failed
    · injection hasExpired

end Creation

end Auth
end AiGateway
