import AiGateway.Crypto
import AiGateway.Foundations.Runs
import AiGateway.Providers.Registry

/-!
# Rotation of the master key

A fleet of replicas shares the table of providers. To rotate the master key the
replicas are restarted one by one with the new key and the old one as previous
key; then a transaction encrypts all credentials anew; then the replicas are
restarted without the previous key. Admin requests and loads of the registry go
on all the time, on any replica.
-/

namespace AiGateway
namespace Providers

open Foundations
open Crypto (NodeCrypto MasterKey MasterKeys Iv CryptoError encrypt decrypt
  SealedUnder)

section Model

/-- The body of `POST /providers`. -/
structure CreateProviderBody where
  name : String
  baseUrl : String
  adapterType : AdapterType
  apiKey : String
  weight : Option Nat := none
  priority : Option Nat := none
  isActive : Option Bool := none
  timeoutMs : Option Nat := none

/-- The body of `PATCH /providers/:id`. -/
structure PatchProviderBody where
  name : Option String := none
  baseUrl : Option String := none
  apiKey : Option String := none
  weight : Option Nat := none
  priority : Option Nat := none
  isActive : Option Bool := none
  timeoutMs : Option Nat := none

/-- The columns that an update sets. -/
structure ProviderSet where
  name : Option String := none
  baseUrl : Option String := none
  encryptedApiKey : Option String := none
  weight : Option Nat := none
  priority : Option Nat := none
  isActive : Option Bool := none
  timeoutMs : Option Nat := none

/-- An admin request on providers. -/
inductive ProviderRequest
  /-- With the id that the database draws. -/
  | create (id : String) (body : CreateProviderBody)
  | patch (id : String) (body : PatchProviderBody)
  | delete (id : String)

/-- The statement that a request executes. -/
inductive ProviderWrite
  | insert (row : ProviderRow String)
  | update (id : String) (set : ProviderSet)

/-- The envelope that a statement stores. -/
def ProviderWrite.envelope : ProviderWrite → Option String
  | .insert row => some row.encryptedApiKey
  | .update _ set => set.encryptedApiKey

/-- The row after an update. -/
def ProviderSet.apply (set : ProviderSet) (row : ProviderRow String) :
    ProviderRow String :=
  { row with
    name := set.name.getD row.name
    baseUrl := set.baseUrl.getD row.baseUrl
    encryptedApiKey := set.encryptedApiKey.getD row.encryptedApiKey
    weight := set.weight.getD row.weight
    priority := set.priority.getD row.priority
    isActive := set.isActive.getD row.isActive
    timeoutMs := set.timeoutMs.getD row.timeoutMs }

/-- The table after a statement; ids and names are unique. -/
def ProviderWrite.apply
    (write : ProviderWrite)
    (rows : List (ProviderRow String)) : List (ProviderRow String) :=
  match write with
  | .insert row =>
      if ∃ old ∈ rows, old.id = row.id ∨ old.name = row.name then rows
      else rows ++ [row]
  | .update id set =>
      if ∃ other ∈ rows, other.id ≠ id ∧ set.name = some other.name then rows
      else rows.map fun row => if row.id = id then set.apply row else row

variable {β : Type} {node : NodeCrypto β}

/-- The statement that the handler of a request makes, under the master key of
its process. -/
def ProviderRequest.toWrite
    (keys : MasterKeys node)
    (iv : Iv node) : ProviderRequest → Except CryptoError ProviderWrite
  | .create id body => do
      let encryptedApiKey ← encrypt node body.apiKey keys.masterKey.1 iv.1
      pure (.insert
        { id := id
          name := body.name
          baseUrl := body.baseUrl
          adapterType := body.adapterType
          encryptedApiKey := encryptedApiKey
          weight := body.weight.getD 1
          priority := body.priority.getD 1
          isActive := body.isActive.getD true
          timeoutMs := body.timeoutMs.getD 60000
          models := [] })
  | .patch id body => do
      let encryptedApiKey ←
        match body.apiKey with
        | none => pure none
        | some apiKey => some <$> encrypt node apiKey keys.masterKey.1 iv.1
      pure (.update id
        { name := body.name
          baseUrl := body.baseUrl
          encryptedApiKey := encryptedApiKey
          weight := body.weight
          priority := body.priority
          isActive := body.isActive
          timeoutMs := body.timeoutMs })
  | .delete id => pure (.update id { isActive := some false })

/-- The loop of the rotation script: the ids of the rows with their envelopes
under the new key. -/
def reEncrypt
    (keys : MasterKeys node)
    (newKey : MasterKey node)
    (ivs : String → Iv node) :
    List (ProviderRow String) → Except CryptoError (List (String × String))
  | [] => pure []
  | row :: rows => do
      let plaintext ← decrypt keys row.encryptedApiKey
      let reEncrypted ← encrypt node plaintext newKey.1 (ivs row.id).1
      let others ← reEncrypt keys newKey ivs rows
      pure ((row.id, reEncrypted) :: others)

/-- The updates of the rotation script. -/
def applyReEncrypted
    (reEncrypted : List (String × String))
    (rows : List (ProviderRow String)) : List (ProviderRow String) :=
  rows.map fun row =>
    match reEncrypted.lookup row.id with
    | some envelope => { row with encryptedApiKey := envelope }
    | none => row

/-- How far the transaction of the rotation script is. -/
inductive RotationStatus
  | notRun
  /-- The rows were read and are locked. -/
  | locked (reEncrypted : List (String × String))
  | committed
  deriving DecidableEq

/-- The configurations of a replica in the order in which it gets them. -/
inductive ReplicaStage
  | oldOnly
  | newThenOld
  | newOnly
  deriving DecidableEq

variable (node)

/-- The keys of a rotation. -/
structure KeyRotation where
  oldKey : MasterKey node
  newKey : MasterKey node
  different : oldKey ≠ newKey

variable {node}

/-- The master keys of a replica. -/
def KeyRotation.keys (rotation : KeyRotation node) :
    ReplicaStage → MasterKeys node
  | .oldOnly => { masterKey := rotation.oldKey }
  | .newThenOld =>
      { masterKey := rotation.newKey
        previousMasterKey := some rotation.oldKey }
  | .newOnly => { masterKey := rotation.newKey }

/-- A fleet of replicas and the table they share. -/
structure Fleet (replicas : Nat) where
  rows : List (ProviderRow String)
  stage : Fin replicas → ReplicaStage := fun _ => .oldOnly
  /-- The statements of requests that were handled but not yet executed. -/
  writing : Nat → Option (Fin replicas × ProviderWrite) := fun _ => none
  status : RotationStatus := .notRun

variable (node)

/-- What happens in a fleet. -/
inductive FleetEvent (replicas : Nat)
  /-- A replica is restarted with the configuration of the next stage. -/
  | restart (replica : Fin replicas)
  /-- A replica handles an admin request. -/
  | handle (request : Nat) (replica : Fin replicas) (body : ProviderRequest)
      (iv : Iv node)
  /-- The database executes the statement of a request. -/
  | write (request : Nat)
  /-- A replica loads its registry. -/
  | load (replica : Fin replicas)
  /-- The rotation script reads and locks the rows and encrypts them anew. -/
  | lock (ivs : String → Iv node)
  /-- The transaction of the rotation script commits. -/
  | commit

variable {node}

/-- An update of a locked row waits. -/
def RotationStatus.blocks : RotationStatus → ProviderWrite → Bool
  | .locked reEncrypted, .update id _ => id ∈ reEncrypted.map Prod.fst
  | _, _ => false

/-- The next stage of a replica: the previous key is dropped only after the
rotation. -/
def ReplicaStage.next (status : RotationStatus) : ReplicaStage → ReplicaStage
  | .oldOnly => .newThenOld
  | .newThenOld => if status = .committed then .newOnly else .newThenOld
  | .newOnly => .newOnly

/-- The step of a fleet. The rotation script runs when all replicas have the new
key; if a row does not decrypt, it changes nothing. -/
def Fleet.step
    (rotation : KeyRotation node)
    (fleet : Fleet replicas) : FleetEvent node replicas → Fleet replicas
  | .restart replica =>
      { fleet with
        stage := Function.update fleet.stage replica
          ((fleet.stage replica).next fleet.status)
        writing := fun request =>
          (fleet.writing request).filter fun entry => entry.1 ≠ replica }
  | .handle request replica body iv =>
      match body.toWrite (rotation.keys (fleet.stage replica)) iv with
      | .ok write =>
          { fleet with
            writing := Function.update fleet.writing request
              (some (replica, write)) }
      | .error _ => fleet
  | .write request =>
      match fleet.writing request with
      | some (_, write) =>
          if fleet.status.blocks write then fleet
          else
            { fleet with
              rows := write.apply fleet.rows
              writing := Function.update fleet.writing request none }
      | none => fleet
  | .load _ => fleet
  | .lock ivs =>
      if fleet.status = .notRun ∧ ∀ replica, fleet.stage replica = .newThenOld then
        match reEncrypt (rotation.keys .newThenOld) rotation.newKey ivs
            fleet.rows with
        | .ok reEncrypted => { fleet with status := .locked reEncrypted }
        | .error _ => fleet
      else fleet
  | .commit =>
      match fleet.status with
      | .locked reEncrypted =>
          { fleet with
            rows := applyReEncrypted reEncrypted fleet.rows
            status := .committed }
      | _ => fleet

/-- The snapshot that a replica loads. -/
def Fleet.snapshot
    (rotation : KeyRotation node)
    (fleet : Fleet replicas)
    (replica : Fin replicas) : Snapshot :=
  buildSnapshot
    (fun envelope =>
      (decrypt (rotation.keys (fleet.stage replica)) envelope).toOption)
    fleet.rows

/-- A load decrypts every active row, and so skips none. -/
def LoadsEveryRow
    (rotation : KeyRotation node)
    (fleet : Fleet replicas) : FleetEvent node replicas → Prop
  | .load replica =>
      ∀ row ∈ fleet.rows, row.isActive = true →
        (∃ apiKey, decrypt (rotation.keys (fleet.stage replica))
          row.encryptedApiKey = .ok apiKey) ∧
        row.id ∈ (fleet.snapshot rotation replica).providersById.map Prod.fst
  | _ => True

/-- When a replica that has only the old key loads, no active row is under the
new one. -/
def OldReplicasLoadOldRows
    (rotation : KeyRotation node)
    (fleet : Fleet replicas) : FleetEvent node replicas → Prop
  | .load replica =>
      fleet.stage replica = .oldOnly →
        ∀ row ∈ fleet.rows, row.isActive = true →
          ¬ SealedUnder rotation.newKey row.encryptedApiKey
  | _ => True

/-- Does a request carry a credential? -/
def ProviderRequest.hasCredential : ProviderRequest → Bool
  | .create _ _ => true
  | .patch _ body => body.apiKey.isSome
  | .delete _ => false

/-- While some replica has only the old key, requests with credentials go to such
a replica. -/
def CredentialsGoToOldReplicas
    (fleet : Fleet replicas) : FleetEvent node replicas → Prop
  | .handle _ replica body _ =>
      body.hasCredential = true →
        (∃ other, fleet.stage other = .oldOnly) →
          fleet.stage replica = .oldOnly
  | _ => True

end Model

section Writes

variable {β : Type} {node : NodeCrypto β} {keys : MasterKeys node}

/-- What a handler encrypts is under the master key of its process. -/
theorem ProviderRequest.sealedUnder_envelope
    {request : ProviderRequest}
    {iv : Iv node}
    {write : ProviderWrite}
    (handled : request.toWrite keys iv = .ok write)
    {envelope : String}
    (stored : write.envelope = some envelope) :
    SealedUnder keys.masterKey envelope := by
  cases request with
  | create id body =>
      rw [toWrite, Crypto.encrypt_eq_ok keys.masterKey.2] at handled
      cases handled
      cases stored
      exact ⟨iv, body.apiKey, Crypto.encrypt_eq_ok keys.masterKey.2 _ _⟩
  | patch id body =>
      rw [toWrite] at handled
      cases given : body.apiKey with
      | none =>
          rw [given] at handled
          cases handled
          cases stored
      | some apiKey =>
          simp only [given, Crypto.encrypt_eq_ok keys.masterKey.2] at handled
          cases handled
          cases stored
          exact ⟨iv, apiKey, Crypto.encrypt_eq_ok keys.masterKey.2 _ _⟩
  | delete id =>
      cases handled
      cases stored

/-- A request without a credential stores none. -/
theorem ProviderRequest.envelope_eq_none
    {request : ProviderRequest}
    {iv : Iv node}
    {write : ProviderWrite}
    (handled : request.toWrite keys iv = .ok write)
    (noCredential : request.hasCredential = false) :
    write.envelope = none := by
  cases request with
  | create id body => cases noCredential
  | patch id body =>
      rw [hasCredential, Option.isSome_eq_false_iff, Option.isNone_iff_eq_none]
        at noCredential
      rw [toWrite, noCredential] at handled
      cases handled
      rfl
  | delete id =>
      cases handled
      rfl

/-- A row after a statement has the envelope of the statement, or that of the row
of the same id before. -/
theorem ProviderWrite.mem_apply
    {write : ProviderWrite}
    {rows : List (ProviderRow String)}
    {row : ProviderRow String}
    (isRow : row ∈ write.apply rows) :
    write.envelope = some row.encryptedApiKey ∨
      ∃ old ∈ rows, old.id = row.id ∧
        old.encryptedApiKey = row.encryptedApiKey := by
  cases write with
  | insert new =>
      rw [ProviderWrite.apply] at isRow
      split_ifs at isRow
      · exact .inr ⟨row, isRow, rfl, rfl⟩
      · rw [List.mem_append, List.mem_singleton] at isRow
        rcases isRow with isOld | rfl
        · exact .inr ⟨row, isOld, rfl, rfl⟩
        · exact .inl rfl
  | update id set =>
      rw [ProviderWrite.apply] at isRow
      split_ifs at isRow
      · exact .inr ⟨row, isRow, rfl, rfl⟩
      · obtain ⟨old, isOld, rfl⟩ := List.mem_map.1 isRow
        by_cases isTarget : old.id = id
        · rw [if_pos isTarget]
          cases given : set.encryptedApiKey with
          | none =>
              exact .inr ⟨old, isOld, rfl, by simp [ProviderSet.apply, given]⟩
          | some envelope =>
              exact .inl (by simp [ProviderSet.apply, ProviderWrite.envelope,
                given])
        · rw [if_neg isTarget]
          exact .inr ⟨old, isOld, rfl, rfl⟩

/-- The script encrypts all rows under the new key, or fails. -/
theorem reEncrypt_eq_ok
    {newKey : MasterKey node}
    {ivs : String → Iv node}
    {rows : List (ProviderRow String)}
    {reEncrypted : List (String × String)}
    (succeeds : reEncrypt keys newKey ivs rows = .ok reEncrypted) :
    reEncrypted.map Prod.fst = rows.map ProviderRow.id ∧
      ∀ entry ∈ reEncrypted, SealedUnder newKey entry.2 := by
  induction rows generalizing reEncrypted with
  | nil =>
      cases succeeds
      exact ⟨rfl, by simp⟩
  | cons row rows inductionHypothesis =>
      rw [reEncrypt] at succeeds
      cases decrypted : decrypt keys row.encryptedApiKey with
      | error error =>
          rw [decrypted] at succeeds
          cases succeeds
      | ok plaintext =>
          simp only [bind, Except.bind, decrypted,
            Crypto.encrypt_eq_ok newKey.2] at succeeds
          cases others : reEncrypt keys newKey ivs rows with
          | error error =>
              rw [others] at succeeds
              cases succeeds
          | ok rest =>
              rw [others] at succeeds
              cases succeeds
              obtain ⟨sameIds, areSealed⟩ := inductionHypothesis others
              refine ⟨by rw [List.map_cons, List.map_cons, sameIds], ?_⟩
              rw [List.forall_mem_cons]
              exact ⟨⟨ivs row.id, plaintext, Crypto.encrypt_eq_ok newKey.2 _ _⟩,
                areSealed⟩

/-- The script succeeds when its keys decrypt all rows. -/
theorem exists_reEncrypt
    (newKey : MasterKey node)
    (ivs : String → Iv node)
    {rows : List (ProviderRow String)}
    (decrypts : ∀ row ∈ rows, ∃ plaintext,
      decrypt keys row.encryptedApiKey = .ok plaintext) :
    ∃ reEncrypted, reEncrypt keys newKey ivs rows = .ok reEncrypted := by
  induction rows with
  | nil => exact ⟨[], rfl⟩
  | cons row rows inductionHypothesis =>
      rw [List.forall_mem_cons] at decrypts
      obtain ⟨plaintext, decrypted⟩ := decrypts.1
      obtain ⟨others, succeeds⟩ := inductionHypothesis decrypts.2
      refine ⟨(row.id, Crypto.envelopeText node newKey.1 (ivs row.id).1
        plaintext) :: others, ?_⟩
      simp only [reEncrypt, bind, Except.bind, decrypted,
        Crypto.encrypt_eq_ok newKey.2, succeeds]
      rfl

/-- A row after the updates of the script has a new envelope, or was not among
the rows that the script read. -/
theorem mem_applyReEncrypted
    {reEncrypted : List (String × String)}
    {rows : List (ProviderRow String)}
    {row : ProviderRow String}
    (isRow : row ∈ applyReEncrypted reEncrypted rows) :
    (∃ entry ∈ reEncrypted, entry.2 = row.encryptedApiKey) ∨
      row ∈ rows ∧ row.id ∉ reEncrypted.map Prod.fst := by
  obtain ⟨old, isOld, rfl⟩ := List.mem_map.1 isRow
  cases found : reEncrypted.lookup old.id with
  | none =>
      refine .inr ⟨isOld, fun isRead => ?_⟩
      obtain ⟨entry, isEntry, sameId⟩ := List.mem_map.1 isRead
      have different := List.lookup_eq_none_iff.1 found entry isEntry
      simp [sameId] at different
  | some envelope =>
      obtain ⟨before, after, rfl, -⟩ := List.lookup_eq_some_iff.1 found
      exact .inl ⟨(old.id, envelope), by simp, rfl⟩

end Writes

section Invariant

variable {β : Type} {node : NodeCrypto β} {rotation : KeyRotation node}
  {fleet : Fleet replicas}

/-- Every replica but those of the first stage encrypts under the new key. -/
theorem masterKey_keys
    {stage : ReplicaStage}
    (moved : stage ≠ .oldOnly) :
    (rotation.keys stage).masterKey = rotation.newKey := by
  cases stage with
  | oldOnly => exact absurd rfl moved
  | newThenOld => rfl
  | newOnly => rfl

/-- A fleet after a replica was restarted. -/
def Fleet.restarted (fleet : Fleet replicas) (replica : Fin replicas) :
    Fleet replicas :=
  { fleet with
    stage := Function.update fleet.stage replica
      ((fleet.stage replica).next fleet.status)
    writing := fun request =>
      (fleet.writing request).filter fun entry => entry.1 ≠ replica }

/-- What a step can do. -/
inductive Fleet.Moves
    (rotation : KeyRotation node)
    (fleet : Fleet replicas) : FleetEvent node replicas → Fleet replicas → Prop
  | idle (event : FleetEvent node replicas) : Moves rotation fleet event fleet
  | restarted (replica : Fin replicas) :
      Moves rotation fleet (.restart replica) (fleet.restarted replica)
  | handled
      {request : Nat}
      {replica : Fin replicas}
      {body : ProviderRequest}
      {iv : Iv node}
      {write : ProviderWrite}
      (new : body.toWrite (rotation.keys (fleet.stage replica)) iv = .ok write) :
      Moves rotation fleet (.handle request replica body iv)
        { fleet with
          writing := Function.update fleet.writing request
            (some (replica, write)) }
  | written
      {request : Nat}
      {replica : Fin replicas}
      {write : ProviderWrite}
      (isWriting : fleet.writing request = some (replica, write)) :
      Moves rotation fleet (.write request)
        { fleet with
          rows := write.apply fleet.rows
          writing := Function.update fleet.writing request none }
  | locked
      {ivs : String → Iv node}
      {reEncrypted : List (String × String)}
      (ready : ∀ replica, fleet.stage replica = .newThenOld)
      (succeeds : reEncrypt (rotation.keys .newThenOld) rotation.newKey ivs
        fleet.rows = .ok reEncrypted) :
      Moves rotation fleet (.lock ivs)
        { fleet with status := .locked reEncrypted }
  | committed
      {reEncrypted : List (String × String)}
      (isLocked : fleet.status = .locked reEncrypted) :
      Moves rotation fleet .commit
        { fleet with
          rows := applyReEncrypted reEncrypted fleet.rows
          status := .committed }

/-- A step does one of these. -/
theorem Fleet.moves_step
    (rotation : KeyRotation node)
    (fleet : Fleet replicas)
    (event : FleetEvent node replicas) :
    fleet.Moves rotation event (fleet.step rotation event) := by
  cases event with
  | restart replica => exact .restarted replica
  | handle request replica body iv =>
      rw [Fleet.step]
      cases new : body.toWrite (rotation.keys (fleet.stage replica)) iv with
      | error error => exact .idle _
      | ok write => exact .handled new
  | write request =>
      rw [Fleet.step]
      cases isWriting : fleet.writing request with
      | none => exact .idle _
      | some entry =>
          obtain ⟨replica, write⟩ := entry
          dsimp only
          split_ifs
          · exact .idle _
          · exact .written isWriting
  | load replica => exact .idle _
  | lock ivs =>
      rw [Fleet.step]
      split_ifs with ready
      · cases succeeds : reEncrypt (rotation.keys .newThenOld) rotation.newKey
            ivs fleet.rows with
        | error error => exact .idle _
        | ok reEncrypted => exact .locked ready.2 succeeds
      · exact .idle _
  | commit =>
      rw [Fleet.step]
      cases status : fleet.status with
      | notRun => exact .idle _
      | committed => exact .idle _
      | locked reEncrypted => exact .committed status

/-- What holds of a fleet during a rotation. -/
structure Fleet.Consistent
    (rotation : KeyRotation node)
    (fleet : Fleet replicas) : Prop where
  /-- Every row is under one of the two keys. -/
  rows : ∀ row ∈ fleet.rows,
    SealedUnder rotation.oldKey row.encryptedApiKey ∨
      SealedUnder rotation.newKey row.encryptedApiKey
  /-- What is about to be written is under the key of the replica that writes. -/
  writing : ∀ request replica write,
    fleet.writing request = some (replica, write) →
      ∀ envelope, write.envelope = some envelope →
        SealedUnder (rotation.keys (fleet.stage replica)).masterKey envelope
  /-- The script ran when no replica had only the old key. -/
  moved : fleet.status ≠ .notRun → ∀ replica, fleet.stage replica ≠ .oldOnly
  /-- Rows that are not locked came after the script read the table. -/
  locked : ∀ reEncrypted, fleet.status = .locked reEncrypted →
    (∀ entry ∈ reEncrypted, SealedUnder rotation.newKey entry.2) ∧
      ∀ row ∈ fleet.rows, row.id ∈ reEncrypted.map Prod.fst ∨
        SealedUnder rotation.newKey row.encryptedApiKey
  committed : fleet.status = .committed →
    ∀ row ∈ fleet.rows, SealedUnder rotation.newKey row.encryptedApiKey
  /-- The old key was dropped after the script had run. -/
  dropped : ∀ replica, fleet.stage replica = .newOnly → fleet.status = .committed

namespace Fleet.Consistent

variable (consistent : fleet.Consistent rotation)
include consistent

/-- The envelope of a statement is under one of the two keys. -/
theorem sealedUnder_writing
    {request : Nat}
    {replica : Fin replicas}
    {write : ProviderWrite}
    (isWriting : fleet.writing request = some (replica, write))
    {envelope : String}
    (stored : write.envelope = some envelope) :
    SealedUnder rotation.oldKey envelope ∨
      SealedUnder rotation.newKey envelope := by
  have isSealed := consistent.writing request replica write isWriting envelope
    stored
  cases stage : fleet.stage replica with
  | oldOnly =>
      rw [stage] at isSealed
      exact .inl isSealed
  | newThenOld =>
      rw [stage] at isSealed
      exact .inr isSealed
  | newOnly =>
      rw [stage] at isSealed
      exact .inr isSealed

/-- Once the script runs, statements store envelopes under the new key. -/
theorem sealedUnder_newKey_writing
    (ran : fleet.status ≠ .notRun)
    {request : Nat}
    {replica : Fin replicas}
    {write : ProviderWrite}
    (isWriting : fleet.writing request = some (replica, write))
    {envelope : String}
    (stored : write.envelope = some envelope) :
    SealedUnder rotation.newKey envelope := by
  rw [← masterKey_keys (consistent.moved ran replica)]
  exact consistent.writing request replica write isWriting envelope stored

/-- After a replica was restarted. -/
theorem restarted (replica : Fin replicas) :
    (fleet.restarted replica).Consistent rotation := by
  have stageOf (other : Fin replicas) :
      (fleet.restarted replica).stage other =
        if other = replica then (fleet.stage replica).next fleet.status
        else fleet.stage other := Function.update_apply _ _ _ _
  refine ⟨consistent.rows, ?_, ?_, consistent.locked, consistent.committed, ?_⟩
  · intro request writer write isWriting envelope stored
    obtain ⟨isOld, isOther⟩ := Option.filter_eq_some_iff.1 isWriting
    rw [decide_eq_true_eq] at isOther
    rw [stageOf, if_neg isOther]
    exact consistent.writing request writer write isOld envelope stored
  · intro ran other
    have moved := consistent.moved ran
    rw [stageOf]
    split_ifs
    · cases stage : fleet.stage replica with
      | oldOnly => exact absurd stage (moved replica)
      | newThenOld =>
          rw [ReplicaStage.next]
          split_ifs <;> simp
      | newOnly => simp [ReplicaStage.next]
    · exact moved other
  · intro other isLast
    rw [stageOf] at isLast
    split_ifs at isLast with isReplica
    · cases stage : fleet.stage replica with
      | oldOnly =>
          rw [stage] at isLast
          cases isLast
      | newThenOld =>
          rw [stage, ReplicaStage.next] at isLast
          split_ifs at isLast with isCommitted
          exact isCommitted
      | newOnly => exact consistent.dropped replica stage
    · exact consistent.dropped other isLast

/-- After a statement was executed. -/
theorem written
    {request : Nat}
    {replica : Fin replicas}
    {write : ProviderWrite}
    (isWriting : fleet.writing request = some (replica, write)) :
    ({ fleet with
        rows := write.apply fleet.rows
        writing := Function.update fleet.writing request none } :
      Fleet replicas).Consistent rotation := by
  refine ⟨fun row isRow => ?_, ?_, consistent.moved, ?_, ?_,
    consistent.dropped⟩
  · rcases write.mem_apply isRow with stored | ⟨old, isOld, -, same⟩
    · exact consistent.sealedUnder_writing isWriting stored
    · rw [← same]
      exact consistent.rows old isOld
  · intro other writer later isLater
    dsimp only at isLater
    rw [Function.update_apply] at isLater
    split_ifs at isLater
    exact consistent.writing other writer later isLater
  · intro reEncrypted isLocked
    have ran : fleet.status ≠ .notRun := by
      rw [show fleet.status = _ from isLocked]
      nofun
    obtain ⟨areSealed, others⟩ := consistent.locked reEncrypted isLocked
    refine ⟨areSealed, fun row isRow => ?_⟩
    rcases write.mem_apply isRow with stored | ⟨old, isOld, sameId, same⟩
    · exact .inr (consistent.sealedUnder_newKey_writing ran isWriting stored)
    · rw [← sameId, ← same]
      exact others old isOld
  · intro isCommitted row isRow
    have ran : fleet.status ≠ .notRun := by
      rw [show fleet.status = _ from isCommitted]
      nofun
    rcases write.mem_apply isRow with stored | ⟨old, isOld, -, same⟩
    · exact consistent.sealedUnder_newKey_writing ran isWriting stored
    · rw [← same]
      exact consistent.committed isCommitted old isOld

/-- After the transaction has committed. -/
theorem reEncrypted
    {reEncrypted : List (String × String)}
    (isLocked : fleet.status = .locked reEncrypted) :
    ({ fleet with
        rows := applyReEncrypted reEncrypted fleet.rows
        status := .committed } : Fleet replicas).Consistent rotation := by
  obtain ⟨areSealed, others⟩ := consistent.locked reEncrypted isLocked
  have allNew : ∀ row ∈ applyReEncrypted reEncrypted fleet.rows,
      SealedUnder rotation.newKey row.encryptedApiKey := by
    intro row isRow
    rcases mem_applyReEncrypted isRow with
      ⟨entry, isEntry, same⟩ | ⟨isOld, notRead⟩
    · rw [← same]
      exact areSealed entry isEntry
    · exact (others row isOld).resolve_left notRead
  exact ⟨fun row isRow => .inr (allNew row isRow), consistent.writing,
    fun _ => consistent.moved (by rw [isLocked]; nofun), nofun,
    fun _ => allNew, fun _ _ => rfl⟩

/-- One step keeps a fleet consistent. -/
theorem step (event : FleetEvent node replicas) :
    (fleet.step rotation event).Consistent rotation := by
  have moves := fleet.moves_step rotation event
  revert moves
  generalize fleet.step rotation event = after
  intro moves
  cases moves with
  | idle event => exact consistent
  | restarted replica => exact consistent.restarted replica
  | handled new =>
      refine ⟨consistent.rows, ?_, consistent.moved, consistent.locked,
        consistent.committed, consistent.dropped⟩
      intro other writer write isWriting envelope stored
      dsimp only at isWriting
      rw [Function.update_apply] at isWriting
      split_ifs at isWriting
      · cases isWriting
        exact ProviderRequest.sealedUnder_envelope new stored
      · exact consistent.writing other writer write isWriting envelope stored
  | written isWriting => exact consistent.written isWriting
  | locked ready succeeds =>
      obtain ⟨sameIds, areSealed⟩ := reEncrypt_eq_ok succeeds
      refine ⟨consistent.rows, consistent.writing, fun _ replica => ?_, ?_,
        nofun, fun replica isLast => ?_⟩
      · rw [ready replica]
        nofun
      · intro other isLocked
        cases isLocked
        refine ⟨areSealed, fun row isRow => .inl ?_⟩
        rw [sameIds]
        exact List.mem_map_of_mem isRow
      · cases (ready replica).symm.trans isLast
  | committed isLocked => exact consistent.reEncrypted isLocked

/-- A replica with both keys decrypts every row. -/
theorem exists_decrypt_newThenOld
    {row : ProviderRow String}
    (isRow : row ∈ fleet.rows) :
    ∃ plaintext, decrypt (rotation.keys .newThenOld) row.encryptedApiKey =
      .ok plaintext := by
  rcases consistent.rows row isRow with isOld | isNew
  · exact (isOld.decrypts_iff _).2 (List.mem_cons_of_mem _
      (List.mem_singleton_self _))
  · exact (isNew.decrypts_iff _).2 List.mem_cons_self

/-- The script does not fail: when all replicas have both keys it encrypts the
whole table anew. -/
theorem exists_locked
    (notRun : fleet.status = .notRun)
    (ready : ∀ replica, fleet.stage replica = .newThenOld)
    (ivs : String → Iv node) :
    ∃ reEncrypted,
      (fleet.step rotation (.lock ivs)).status = .locked reEncrypted := by
  obtain ⟨reEncrypted, succeeds⟩ := exists_reEncrypt rotation.newKey ivs
    fun _ isRow => consistent.exists_decrypt_newThenOld isRow
  refine ⟨reEncrypted, ?_⟩
  rw [Fleet.step, if_pos ⟨notRun, ready⟩, succeeds]

omit consistent in
/-- A row that decrypts is not skipped. -/
theorem loadsEveryRow_of_decrypts
    {replica : Fin replicas}
    (decrypts : ∀ row ∈ fleet.rows, row.isActive = true →
      ∃ apiKey, decrypt (rotation.keys (fleet.stage replica))
        row.encryptedApiKey = .ok apiKey) :
    LoadsEveryRow rotation fleet (.load replica) := by
  intro row isRow isActive
  obtain ⟨apiKey, decrypted⟩ := decrypts row isRow isActive
  refine ⟨⟨apiKey, decrypted⟩, mem_providersById_buildSnapshot.2
    ⟨row, isRow, isActive, rfl, ?_⟩⟩
  rw [decrypted]
  rfl

/-- In a consistent fleet a load decrypts every active row, unless the replica
has only the old key and a row is under the new one. -/
theorem loadsEveryRow_iff (event : FleetEvent node replicas) :
    LoadsEveryRow rotation fleet event ↔
      OldReplicasLoadOldRows rotation fleet event := by
  cases event with
  | load replica =>
      constructor
      · intro loads isOldOnly row isRow isActive isNew
        have decrypts := (loads row isRow isActive).1
        rw [isNew.decrypts_iff, isOldOnly] at decrypts
        exact rotation.different (List.mem_singleton.1 decrypts).symm
      · intro condition
        refine loadsEveryRow_of_decrypts fun row isRow isActive => ?_
        cases stage : fleet.stage replica with
        | oldOnly =>
            have isOld := (consistent.rows row isRow).resolve_right
              (condition stage row isRow isActive)
            exact (isOld.decrypts_iff _).2 (List.mem_singleton_self _)
        | newThenOld => exact consistent.exists_decrypt_newThenOld isRow
        | newOnly =>
            have isNew := consistent.committed
              (consistent.dropped replica stage) row isRow
            exact (isNew.decrypts_iff _).2 (List.mem_singleton_self _)
  | _ => exact Iff.rfl

end Fleet.Consistent

end Invariant

section Runs

variable {β : Type} {node : NodeCrypto β}

/-- A table whose credentials are all under one key. -/
structure SealedTable (key : MasterKey node) where
  rows : List (ProviderRow String)
  isSealed : ∀ row ∈ rows, SealedUnder key row.encryptedApiKey

/-- The fleet before the rotation. -/
def Fleet.start
    {key : MasterKey node}
    (replicas : Nat)
    (table : SealedTable key) : Fleet replicas where
  rows := table.rows

theorem Fleet.Consistent.start
    {rotation : KeyRotation node}
    (replicas : Nat)
    (table : SealedTable rotation.oldKey) :
    (Fleet.start replicas table).Consistent rotation where
  rows row isRow := .inl (table.isSealed row isRow)
  writing := nofun
  moved ran := absurd rfl ran
  locked := nofun
  committed := nofun
  dropped := nofun

/-- In every run of the rotation, with any number of replicas, any table, and
admin requests, statements and loads at any time on any replica: every load
decrypts every active row, exactly when no replica that still has only the old
key loads while an active row is under the new key. -/
theorem loadsEveryRow_iff_oldReplicasLoadOldRows
    (rotation : KeyRotation node)
    (replicas : Nat)
    (table : SealedTable rotation.oldKey)
    (events : List (FleetEvent node replicas)) :
    EveryStep (Fleet.step rotation) (LoadsEveryRow rotation)
        (Fleet.start replicas table) events ↔
      EveryStep (Fleet.step rotation) (OldReplicasLoadOldRows rotation)
        (Fleet.start replicas table) events :=
  EveryStep.iff_of_invariant (Fleet.Consistent rotation)
    (fun _ event consistent => consistent.step event)
    (fun _ event consistent => consistent.loadsEveryRow_iff event)
    (.start replicas table) events

/-- A rotation between two keys. -/
def plainRotation : KeyRotation Crypto.plainCrypto where
  oldKey := ⟨List.replicate 32 0, by decide⟩
  newKey := ⟨List.replicate 32 1, by decide⟩
  different := by decide

/-- The first replica is restarted with the new key and creates a provider; the
second one, which has not been restarted yet, loads and skips it. -/
theorem provider_skipped_during_first_roll :
    ¬ EveryStep (Fleet.step plainRotation) (LoadsEveryRow plainRotation)
      (Fleet.start 2 (⟨[], nofun⟩ : SealedTable plainRotation.oldKey))
      [.restart 0,
        .handle 0 0
          (.create "9b2e"
            { name := "openai"
              baseUrl := "https://api.openai.com"
              adapterType := .openai
              apiKey := "sk-1" })
          ⟨List.replicate 12 7, by decide⟩,
        .write 0,
        .load 1] := by
  intro every
  obtain ⟨-, -, -, loads, -⟩ := every
  have decrypts := (loads
    { id := "9b2e"
      name := "openai"
      baseUrl := "https://api.openai.com"
      adapterType := .openai
      encryptedApiKey := Crypto.envelopeText Crypto.plainCrypto
        plainRotation.newKey.1 (List.replicate 12 7) "sk-1"
      weight := 1
      priority := 1
      isActive := true
      timeoutMs := 60000
      models := [] }
    (List.mem_singleton_self _) rfl).1
  have isSealed : SealedUnder plainRotation.newKey
      (Crypto.envelopeText Crypto.plainCrypto plainRotation.newKey.1
        (List.replicate 12 7) "sk-1") :=
    ⟨⟨List.replicate 12 7, by decide⟩, "sk-1",
      Crypto.encrypt_eq_ok plainRotation.newKey.2 _ _⟩
  have hasKey := (isSealed.decrypts_iff _).1 decrypts
  exact plainRotation.different (List.mem_singleton.1 hasKey).symm

section OldReplicas

variable {rotation : KeyRotation node} {replicas : Nat}

/-- While some replica has only the old key, all credentials are under it. -/
structure Fleet.OldWhileMixed
    (rotation : KeyRotation node)
    (fleet : Fleet replicas) : Prop where
  consistent : fleet.Consistent rotation
  rows : (∃ other, fleet.stage other = .oldOnly) →
    ∀ row ∈ fleet.rows, SealedUnder rotation.oldKey row.encryptedApiKey
  writing : (∃ other, fleet.stage other = .oldOnly) →
    ∀ request replica write, fleet.writing request = some (replica, write) →
      ∀ envelope, write.envelope = some envelope →
        SealedUnder rotation.oldKey envelope

/-- A restart leaves no more replicas with only the old key. -/
theorem exists_oldOnly_of_restarted
    {fleet : Fleet replicas}
    {replica : Fin replicas}
    (isMixed : ∃ other, (fleet.restarted replica).stage other = .oldOnly) :
    ∃ other, fleet.stage other = .oldOnly := by
  obtain ⟨other, isOldOnly⟩ := isMixed
  change Function.update fleet.stage replica _ other = _ at isOldOnly
  rw [Function.update_apply] at isOldOnly
  split_ifs at isOldOnly
  · cases stage : fleet.stage replica with
    | oldOnly => exact ⟨replica, stage⟩
    | newThenOld =>
        rw [stage, ReplicaStage.next] at isOldOnly
        split_ifs at isOldOnly
    | newOnly =>
        rw [stage] at isOldOnly
        cases isOldOnly
  · exact ⟨other, isOldOnly⟩

/-- One step keeps the credentials under the old key. -/
theorem Fleet.OldWhileMixed.step
    {fleet : Fleet replicas}
    (old : fleet.OldWhileMixed rotation)
    {event : FleetEvent node replicas}
    (condition : CredentialsGoToOldReplicas fleet event) :
    (fleet.step rotation event).OldWhileMixed rotation := by
  have consistent := old.consistent.step event
  have moves := fleet.moves_step rotation event
  revert consistent moves
  generalize fleet.step rotation event = after
  intro consistent moves
  cases moves with
  | idle event => exact old
  | restarted replica =>
      refine ⟨consistent, fun isMixed =>
        old.rows (exists_oldOnly_of_restarted isMixed),
        fun isMixed request writer write isWriting => ?_⟩
      exact old.writing (exists_oldOnly_of_restarted isMixed) request writer
        write (Option.filter_eq_some_iff.1 isWriting).1
  | @handled request replica body iv new handled =>
      refine ⟨consistent, old.rows,
        fun isMixed other writer write isWriting envelope stored => ?_⟩
      dsimp only at isWriting
      rw [Function.update_apply] at isWriting
      split_ifs at isWriting
      · cases isWriting
        have credential : body.hasCredential = true := by
          by_contra noCredential
          rw [body.envelope_eq_none handled
            (Bool.eq_false_of_not_eq_true noCredential)] at stored
          cases stored
        have isSealed := body.sealedUnder_envelope handled stored
        rwa [condition credential isMixed] at isSealed
      · exact old.writing isMixed other writer write isWriting envelope stored
  | @written request replica write isWriting =>
      refine ⟨consistent, fun isMixed row isRow => ?_,
        fun isMixed other writer later isLater => ?_⟩
      · rcases write.mem_apply isRow with stored | ⟨before, isBefore, -, same⟩
        · exact old.writing isMixed request replica write isWriting _ stored
        · rw [← same]
          exact old.rows isMixed before isBefore
      · dsimp only at isLater
        rw [Function.update_apply] at isLater
        split_ifs at isLater
        exact old.writing isMixed other writer later isLater
  | locked ready succeeds => exact ⟨consistent, old.rows, old.writing⟩
  | committed isLocked =>
      have notMixed : ¬ ∃ other, fleet.stage other = .oldOnly := by
        rintro ⟨other, isOldOnly⟩
        exact old.consistent.moved (by rw [isLocked]; nofun) other isOldOnly
      exact ⟨consistent, fun isMixed => absurd isMixed notMixed,
        fun isMixed => absurd isMixed notMixed⟩

/-- If credentials go to replicas with only the old key as long as there is one,
every load of the rotation decrypts every active row. -/
theorem loadsEveryRow_of_credentialsGoToOldReplicas
    (table : SealedTable rotation.oldKey)
    {events : List (FleetEvent node replicas)}
    (every : EveryStep (Fleet.step rotation) CredentialsGoToOldReplicas
      (Fleet.start replicas table) events) :
    EveryStep (Fleet.step rotation) (LoadsEveryRow rotation)
      (Fleet.start replicas table) events := by
  refine every.of_invariant (Fleet.OldWhileMixed rotation)
    (fun _ _ old condition => old.step condition)
    (fun fleet event old _ => (old.consistent.loadsEveryRow_iff event).2 ?_)
    ⟨.start replicas table, fun _ => table.isSealed, nofun⟩
  cases event with
  | load replica =>
      intro isOldOnly row isRow _ isNew
      exact rotation.different
        ((old.rows ⟨replica, isOldOnly⟩ row isRow).key_eq isNew)
  | _ => trivial

end OldReplicas

end Runs

end Providers
end AiGateway
