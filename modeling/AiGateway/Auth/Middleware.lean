import AiGateway.Foundations.Expiry
import Mathlib.Data.Rat.Defs

/-!
# API key authentication

`authenticateKey` reads the cached context of a key, falls back to the database,
and caches what it read there. Each access to the store or the database is one
step here, because the steps of calls on several replicas interleave. A step
that does not reach the store or the database takes the path of the exception.

The steps concern one key. The cached context is stored as JSON and read back
unchanged.
-/

namespace AiGateway
namespace Auth

open Foundations

/-- The row of an API key, as far as it is read here. -/
structure ApiKeyRow where
  id : String
  name : Option String
  ownerId : Option String
  isActive : Bool
  /-- Epoch milliseconds. -/
  expiresAt : Option Nat
  monthlyBudgetUsd : Option Rat
  allowedModels : Option (List String)
  rpmLimit : Nat
  tpmLimit : Nat
  deriving DecidableEq

/-- Per-request authorisation context attached after successful
authentication. -/
structure GatewayContext where
  apiKeyId : String
  ownerId : Option String
  name : Option String
  rpmLimit : Nat
  tpmLimit : Nat
  monthlyBudgetUsd : Option Rat
  allowedModels : Option (List String)
  expiresAtMs : Option Nat
  deriving DecidableEq

/-- The context of a row. -/
def ApiKeyRow.context (row : ApiKeyRow) : GatewayContext where
  apiKeyId := row.id
  ownerId := row.ownerId
  name := row.name
  rpmLimit := row.rpmLimit
  tpmLimit := row.tpmLimit
  monthlyBudgetUsd := row.monthlyBudgetUsd
  allowedModels := row.allowedModels
  expiresAtMs := row.expiresAt

/-- Is an expiry, if there is one, not after `nowMs`? -/
def expired (nowMs : Nat) (expiresAt : Option Nat) : Bool :=
  expiresAt.any fun instant => decide (instant ≤ nowMs)

/-- How a call ends. -/
inductive Outcome
  /-- The call returns a context. -/
  | returned (context : GatewayContext)
  /-- It throws an `AuthenticationError`. -/
  | unauthenticated (message : String)
  /-- It throws the error of the database. -/
  | failed
  deriving DecidableEq

/-- What a call of `authenticateKey` does next. -/
inductive Phase
  /-- `redis.get`, and the check of the expiry of what it returns. -/
  | readingCache
  /-- `redis.expire`, after a hit. -/
  | refreshing (context : GatewayContext)
  /-- `redis.del`, after a hit that has expired. -/
  | dropping
  /-- `apiKeys.findFirst`, and the checks of the row. -/
  | readingDatabase
  /-- `redis.set`. -/
  | writing (context : GatewayContext)
  | done (outcome : Outcome)
  deriving DecidableEq

/-- Is a call about to write the cache? -/
def Phase.isWriting : Phase → Bool
  | .writing _ => true
  | _ => false

/-- What follows from the row that the lookup of the active key finds. -/
def afterLookup (nowMs : Nat) (row : ApiKeyRow) : Phase :=
  if row.isActive then
    if expired nowMs row.expiresAt then
      .done (.unauthenticated "API key has expired.")
    else
      .writing row.context
  else
    .done (.unauthenticated "Invalid API key.")

/-- One step of `authenticateKey`, at the store's clock and the replica's time.
`reached` says whether the store or the database answers. -/
def authenticateStep
    (authCacheTtlSeconds clock nowMs : Nat)
    (reached : Bool)
    (row : ApiKeyRow)
    (cache : Key GatewayContext) : Phase → Phase × Key GatewayContext
  | .readingCache =>
      if reached then
        match cache.read clock with
        | none => (.readingDatabase, cache)
        | some context =>
            if expired nowMs context.expiresAtMs then (.dropping, cache)
            else (.refreshing context, cache)
      else
        (.readingDatabase, cache)
  | .refreshing context =>
      if reached then
        (.done (.returned context),
          cache.pexpire clock (authCacheTtlSeconds * 1000))
      else
        (.readingDatabase, cache)
  | .dropping => (.readingDatabase, if reached then Key.del else cache)
  | .readingDatabase =>
      if reached then (afterLookup nowMs row, cache)
      else (.done .failed, cache)
  | .writing context =>
      (.done (.returned context),
        if reached then
          Key.setPx clock (authCacheTtlSeconds * 1000) context
        else
          cache)
  | .done outcome => (.done outcome, cache)

/-- `invalidateAuthCache`; a failure is ignored. -/
def invalidateAuthCache (reached : Bool) (cache : Key GatewayContext) :
    Key GatewayContext :=
  if reached then Key.del else cache

/-- The body of a PATCH. A field that may be cleared is `some none` when it
is. -/
structure KeyPatch where
  name : Option String := none
  isActive : Option Bool := none
  monthlyBudgetUsd : Option (Option Rat) := none
  allowedModels : Option (Option (List String)) := none
  rpmLimit : Option Nat := none
  tpmLimit : Option Nat := none
  expiresAt : Option (Option Nat) := none
  deriving DecidableEq

/-- The update of the row. -/
def KeyPatch.apply (patch : KeyPatch) (row : ApiKeyRow) : ApiKeyRow :=
  { row with
    name := (patch.name.map some).getD row.name
    isActive := patch.isActive.getD row.isActive
    monthlyBudgetUsd := patch.monthlyBudgetUsd.getD row.monthlyBudgetUsd
    allowedModels := patch.allowedModels.getD row.allowedModels
    rpmLimit := patch.rpmLimit.getD row.rpmLimit
    tpmLimit := patch.tpmLimit.getD row.tpmLimit
    expiresAt := patch.expiresAt.getD row.expiresAt }

/-- `DELETE /keys/:id` updates the row like a PATCH of one field. -/
def KeyPatch.softDelete : KeyPatch := { isActive := some false }

end Auth
end AiGateway
