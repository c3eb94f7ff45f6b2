import AiGateway.Foundations.JsonText
import AiGateway.Providers.KeyRotation
import AiGateway.Providers.RegistryIndexes
import Mathlib.Data.List.Forall2

/-!
# The rotation script

The script reads the new key from its environment, and in one transaction
decrypts every credential with the keys of its process and encrypts it under the
new key. A row that does not decrypt makes it throw, and the transaction is
rolled back. The time of the update, which the script writes to the rows too, is
not kept.
-/

namespace AiGateway
namespace Providers

open Crypto (NodeCrypto MasterKey MasterKeys Iv CryptoError encrypt decrypt
  decryptWithKey masterKeyBytes)
open Foundations (Json.hexValue OrderedMap.lookup_eq_some_of_mem)

section Model

variable {β : Type}

/-- `HEX_32_BYTES.test(text)`. -/
def isHexKey (text : String) : Bool :=
  text.length = 64 && text.toList.all fun char =>
    char.isDigit || ('a' ≤ char && char ≤ 'f') || ('A' ≤ char && char ≤ 'F')

/-- `Buffer.from(text, 'hex')`, which gives a byte for every two digits. -/
structure HexDecoder (node : NodeCrypto β) where
  fromHex : String → β
  length_fromHex : ∀ text, isHexKey text = true →
    node.length (fromHex text) = masterKeyBytes

variable {node : NodeCrypto β}

/-- The key in `NEW_ENCRYPTION_KEY`, if it passes the check. -/
def HexDecoder.newKey
    (decoder : HexDecoder node)
    (newKeyHex : Option String) : Option (MasterKey node) :=
  newKeyHex.bind fun text =>
    if isHex : isHexKey text = true then
      some ⟨decoder.fromHex text, decoder.length_fromHex text isHex⟩
    else
      none

/-- What the script returns, the number of rotated rows or the message of its
error, and the table after it. -/
structure RotationOutcome where
  result : Except String Nat
  table : ProviderTable String

/-- The updates leave the keys of the table as they were. -/
theorem map_applyReEncrypted
    {γ : Type}
    (column : ProviderRow String → γ)
    (unchanged : ∀ (row : ProviderRow String) envelope,
      column { row with encryptedApiKey := envelope } = column row)
    (reEncrypted : List (String × String))
    (rows : List (ProviderRow String)) :
    (applyReEncrypted reEncrypted rows).map column = rows.map column := by
  unfold applyReEncrypted
  rw [List.map_map]
  apply List.map_congr_left
  intro row _
  rw [Function.comp_apply]
  cases reEncrypted.lookup row.id with
  | none => rfl
  | some envelope => exact unchanged row envelope

/-- The table with its new envelopes. -/
def ProviderTable.reEncrypted
    (table : ProviderTable String)
    (envelopes : List (String × String)) : ProviderTable String where
  rows := applyReEncrypted envelopes table.rows
  distinctIds := by
    rw [map_applyReEncrypted ProviderRow.id fun _ _ => rfl]
    exact table.distinctIds
  distinctModels := by
    intro row isRow
    have isModels : row.models ∈ table.rows.map ProviderRow.models := by
      rw [← map_applyReEncrypted ProviderRow.models (fun _ _ => rfl) envelopes]
      exact List.mem_map_of_mem isRow
    obtain ⟨old, isOld, sameModels⟩ := List.mem_map.1 isModels
    rw [← sameModels]
    exact table.distinctModels old isOld

/-- `rotate()`, with the IVs that it draws for the rows. -/
def rotate
    (decoder : HexDecoder node)
    (keys : MasterKeys node)
    (newKeyHex : Option String)
    (ivs : String → Iv node)
    (table : ProviderTable String) : RotationOutcome :=
  match decoder.newKey newKeyHex with
  | none =>
      { result := .error
          "NEW_ENCRYPTION_KEY must be a 32-byte key as 64 hex chars."
        table := table }
  | some newKey =>
      match reEncrypt keys newKey ivs table.rows with
      | .error error => { result := .error error.message, table := table }
      | .ok envelopes =>
          { result := .ok envelopes.length
            table := table.reEncrypted envelopes }

end Model

section Pointwise

variable {α γ δ : Type} {related : α → γ → Prop} {first : List α}
  {second : List γ}

/-- Every element of the first list is related to one of the second. -/
theorem exists_mem_of_forall₂
    (pointwise : List.Forall₂ related first second)
    {element : α}
    (isMember : element ∈ first) :
    ∃ other ∈ second, related element other := by
  induction pointwise with
  | nil => cases isMember
  | cons head tail inductionHypothesis =>
      rcases List.mem_cons.1 isMember with rfl | isLater
      · exact ⟨_, List.mem_cons_self, head⟩
      · obtain ⟨other, isOther, isRelated⟩ := inductionHypothesis isLater
        exact ⟨other, List.mem_cons_of_mem _ isOther, isRelated⟩

/-- Relations between lists compose as those between their elements do. -/
theorem forall₂_compose
    {relatedNext : γ → δ → Prop}
    {composed : α → δ → Prop}
    {third : List δ}
    (compose : ∀ left middle right, related left middle →
      relatedNext middle right → composed left right)
    (pointwise : List.Forall₂ related first second)
    (pointwiseNext : List.Forall₂ relatedNext second third) :
    List.Forall₂ composed first third := by
  induction pointwise generalizing third with
  | nil =>
      cases pointwiseNext
      exact .nil
  | cons head tail inductionHypothesis =>
      cases pointwiseNext with
      | cons headNext tailNext =>
          exact .cons (compose _ _ _ head headNext)
            (inductionHypothesis tailNext)

end Pointwise

section Loop

variable {β : Type} {node : NodeCrypto β} {keys : MasterKeys node}
  {newKey : MasterKey node} {ivs : String → Iv node}

/-- A row and what the loop makes of it: the envelope of its plaintext under the
new key. -/
def IsReEncryptionOf
    (keys : MasterKeys node)
    (newKey : MasterKey node)
    (row : ProviderRow String)
    (entry : String × String) : Prop :=
  entry.1 = row.id ∧ ∃ (plaintext : String) (iv : Iv node),
    decrypt keys row.encryptedApiKey = .ok plaintext ∧
      entry.2 = Crypto.envelopeText node newKey.1 iv.1 plaintext

/-- A loop that ends has encrypted every row anew. -/
theorem forall₂_of_reEncrypt
    {rows : List (ProviderRow String)}
    {envelopes : List (String × String)}
    (succeeds : reEncrypt keys newKey ivs rows = .ok envelopes) :
    List.Forall₂ (IsReEncryptionOf keys newKey) rows envelopes := by
  induction rows generalizing envelopes with
  | nil =>
      cases succeeds
      exact .nil
  | cons row rows inductionHypothesis =>
      rw [reEncrypt] at succeeds
      cases decrypted : decrypt keys row.encryptedApiKey with
      | error error =>
          rw [decrypted] at succeeds
          cases succeeds
      | ok plaintext =>
          simp only [bind, Except.bind, decrypted,
            Crypto.encrypt_eq_ok newKey.2] at succeeds
          cases others : reEncrypt keys newKey ivs rows with
          | error error =>
              rw [others] at succeeds
              cases succeeds
          | ok rest =>
              rw [others] at succeeds
              cases succeeds
              exact .cons ⟨rfl, plaintext, ivs row.id, decrypted, rfl⟩
                (inductionHypothesis others)

/-- Each row of the table gets the envelope made of it. -/
theorem forall₂_reEncrypted
    {table : ProviderTable String}
    {envelopes : List (String × String)}
    (succeeds : reEncrypt keys newKey ivs table.rows = .ok envelopes) :
    List.Forall₂
      (fun before after =>
        after = { before with encryptedApiKey := after.encryptedApiKey } ∧
          IsReEncryptionOf keys newKey before
            (before.id, after.encryptedApiKey))
      table.rows (table.reEncrypted envelopes).rows := by
  have made := forall₂_of_reEncrypt succeeds
  have sameIds := (reEncrypt_eq_ok succeeds).1
  have distinct : (envelopes.map Prod.fst).Nodup := by
    rw [sameIds]
    exact table.distinctIds
  change List.Forall₂ _ table.rows (table.rows.map _)
  rw [List.forall₂_map_right_iff, List.forall₂_same]
  intro row isRow
  obtain ⟨entry, isEntry, sameId, reEncryption⟩ :=
    exists_mem_of_forall₂ made isRow
  have found : envelopes.lookup row.id = some entry.2 := by
    rw [← sameId]
    exact OrderedMap.lookup_eq_some_of_mem distinct isEntry
  rw [found]
  exact ⟨rfl, rfl, reEncryption⟩

end Loop

section Run

variable {β : Type} {node : NodeCrypto β} (decoder : HexDecoder node)

/-- A row after a rotation: only its envelope is new, and under the new key alone
it decrypts to the plaintext that the row had. -/
def KeepsPlaintext
    (keys : MasterKeys node)
    (newKey : MasterKey node)
    (before after : ProviderRow String) : Prop :=
  after = { before with encryptedApiKey := after.encryptedApiKey } ∧
    ∃ plaintext, decrypt keys before.encryptedApiKey = .ok plaintext ∧
      decryptWithKey node after.encryptedApiKey newKey.1 = .ok plaintext

/-- An envelope under a key decrypts for every process that has the key, wherever
it stands among its keys. -/
theorem decrypt_envelopeText
    {keys : MasterKeys node}
    {key : MasterKey node}
    (isCandidate : key ∈ keys.candidates)
    (iv : Iv node)
    (plaintext : String) :
    decrypt keys (Crypto.envelopeText node key.1 iv.1 plaintext) =
      .ok plaintext := by
  apply Crypto.decryptWithKeysFrom_of_mem
  · intro candidate isValue
    obtain ⟨other, -, rfl⟩ := List.mem_map.1 isValue
    exact other.2
  · exact List.mem_map_of_mem isCandidate

variable {keys : MasterKeys node} {newKeyHex : Option String}
  {newKey : MasterKey node} (ivs : String → Iv node)
  (table : ProviderTable String)

/-- A script whose keys decrypt every row commits. -/
theorem rotate_of_decryptable
    (isKey : decoder.newKey newKeyHex = some newKey)
    (decryptable : ∀ row ∈ table.rows, ∃ plaintext,
      decrypt keys row.encryptedApiKey = .ok plaintext) :
    (rotate decoder keys newKeyHex ivs table).result =
        .ok table.rows.length ∧
      List.Forall₂ (fun before after =>
        after = { before with encryptedApiKey := after.encryptedApiKey } ∧
          IsReEncryptionOf keys newKey before (before.id, after.encryptedApiKey))
        table.rows (rotate decoder keys newKeyHex ivs table).table.rows := by
  obtain ⟨envelopes, succeeds⟩ := exists_reEncrypt newKey ivs decryptable
  have rows := forall₂_reEncrypted succeeds
  have lengths := congrArg List.length (reEncrypt_eq_ok succeeds).1
  rw [List.length_map, List.length_map] at lengths
  unfold rotate
  simp only [isKey, succeeds]
  exact ⟨congrArg Except.ok lengths, rows⟩

/-- A script that meets a row that does not decrypt changes nothing. -/
theorem rotate_of_undecryptable
    (isKey : decoder.newKey newKeyHex = some newKey)
    (undecryptable : ¬∀ row ∈ table.rows, ∃ plaintext,
      decrypt keys row.encryptedApiKey = .ok plaintext) :
    (∃ message, (rotate decoder keys newKeyHex ivs table).result =
        .error message) ∧
      (rotate decoder keys newKeyHex ivs table).table = table := by
  unfold rotate
  simp only [isKey]
  cases succeeds : reEncrypt keys newKey ivs table.rows with
  | error error => exact ⟨⟨error.message, rfl⟩, rfl⟩
  | ok envelopes =>
      refine absurd (fun row isRow => ?_) undecryptable
      obtain ⟨_, _, _, plaintext, iv, decrypted, _⟩ :=
        exists_mem_of_forall₂ (forall₂_of_reEncrypt succeeds) isRow
      exact ⟨plaintext, decrypted⟩

/-- A re-encrypted row keeps its plaintext. -/
theorem KeepsPlaintext.of_isReEncryptionOf
    {before after : ProviderRow String}
    (sameRow : after = { before with encryptedApiKey := after.encryptedApiKey })
    (reEncryption : IsReEncryptionOf keys newKey before
      (before.id, after.encryptedApiKey)) :
    KeepsPlaintext keys newKey before after := by
  obtain ⟨-, plaintext, iv, decrypted, isEnvelope⟩ := reEncryption
  refine ⟨sameRow, plaintext, decrypted, ?_⟩
  have isText : after.encryptedApiKey = _ := isEnvelope
  rw [isText]
  exact Crypto.decryptWithKey_envelopeText newKey.2

/-- After a rotation the script can be run again with the new key. -/
theorem rotate_again
    {table rotated : ProviderTable String}
    (rows : List.Forall₂ (fun before after =>
      after = { before with encryptedApiKey := after.encryptedApiKey } ∧
        IsReEncryptionOf keys newKey before (before.id, after.encryptedApiKey))
      table.rows rotated.rows)
    {laterKeys : MasterKeys node}
    (isCandidate : newKey ∈ laterKeys.candidates)
    {laterKeyHex : Option String}
    {laterKey : MasterKey node}
    (isLaterKey : decoder.newKey laterKeyHex = some laterKey) :
    (rotate decoder laterKeys laterKeyHex ivs rotated).result =
        .ok table.rows.length ∧
      List.Forall₂ (fun before after => ∃ plaintext,
        decrypt keys before.encryptedApiKey = .ok plaintext ∧
          decryptWithKey node after.encryptedApiKey laterKey.1 = .ok plaintext)
        table.rows
          (rotate decoder laterKeys laterKeyHex ivs rotated).table.rows := by
  have decryptable : ∀ row ∈ rotated.rows, ∃ plaintext,
      decrypt laterKeys row.encryptedApiKey = .ok plaintext := by
    intro row isRow
    obtain ⟨before, _, _, _, plaintext, iv, _, isEnvelope⟩ :=
      exists_mem_of_forall₂ rows.flip isRow
    have isText : row.encryptedApiKey = _ := isEnvelope
    exact ⟨plaintext, isText ▸ decrypt_envelopeText isCandidate iv plaintext⟩
  obtain ⟨done, rowsAgain⟩ :=
    rotate_of_decryptable decoder ivs rotated isLaterKey decryptable
  refine ⟨rows.length_eq ▸ done, forall₂_compose ?_ rows rowsAgain⟩
  rintro before middle after ⟨-, -, plaintext, iv, decrypted, isEnvelope⟩
    ⟨sameRow, reEncryption⟩
  obtain ⟨-, other, decryptedAgain, underLaterKey⟩ :=
    KeepsPlaintext.of_isReEncryptionOf sameRow reEncryption
  have isText : middle.encryptedApiKey = _ := isEnvelope
  rw [isText, decrypt_envelopeText isCandidate, Except.ok.injEq] at decryptedAgain
  exact ⟨plaintext, decrypted, decryptedAgain ▸ underLaterKey⟩

end Run

/-- The script either commits, and then every row decrypts under the new key alone
to the plaintext it had, or it meets a row that does not decrypt and changes
nothing; without a valid new key it does not begin. After a commit it can be run
again with any keys among which the new one is, for any further key, and the
plaintexts are still the same. -/
theorem rotate_commits_or_changes_nothing
    {β : Type}
    {node : NodeCrypto β}
    (decoder : HexDecoder node)
    (keys : MasterKeys node)
    (newKeyHex : Option String)
    (ivs : String → Iv node)
    (table : ProviderTable String) :
    let outcome := rotate decoder keys newKeyHex ivs table
    (∃ newKey, decoder.newKey newKeyHex = some newKey ∧
      outcome.result = .ok table.rows.length ∧
      List.Forall₂ (KeepsPlaintext keys newKey) table.rows
        outcome.table.rows ∧
      ∀ (laterKeys : MasterKeys node) (laterKeyHex : Option String)
        (laterKey : MasterKey node) (laterIvs : String → Iv node),
        newKey ∈ laterKeys.candidates →
        decoder.newKey laterKeyHex = some laterKey →
        let again := rotate decoder laterKeys laterKeyHex laterIvs outcome.table
        again.result = .ok table.rows.length ∧
          List.Forall₂ (fun before after => ∃ plaintext,
            decrypt keys before.encryptedApiKey = .ok plaintext ∧
              decryptWithKey node after.encryptedApiKey laterKey.1 =
                .ok plaintext)
            table.rows again.table.rows) ∨
    (∃ message, outcome.result = .error message) ∧ outcome.table = table ∧
      (decoder.newKey newKeyHex = none ∨
        ∃ row ∈ table.rows, ∃ error,
          decrypt keys row.encryptedApiKey = .error error) := by
  intro outcome
  cases isKey : decoder.newKey newKeyHex with
  | none =>
      refine .inr ⟨⟨"NEW_ENCRYPTION_KEY must be a 32-byte key as 64 hex chars.",
        ?_⟩, ?_, .inl rfl⟩
      · simp only [outcome, rotate, isKey]
      · simp only [outcome, rotate, isKey]
  | some newKey =>
      by_cases decryptable : ∀ row ∈ table.rows, ∃ plaintext,
          decrypt keys row.encryptedApiKey = .ok plaintext
      · obtain ⟨done, rows⟩ :=
          rotate_of_decryptable decoder ivs table isKey decryptable
        refine .inl ⟨newKey, rfl, done, rows.imp fun _ _ row =>
          .of_isReEncryptionOf row.1 row.2, ?_⟩
        intro laterKeys laterKeyHex laterKey laterIvs isCandidate isLaterKey
        obtain ⟨doneAgain, again⟩ := rotate_again decoder laterIvs rows
          isCandidate isLaterKey
        exact ⟨doneAgain, again⟩
      · obtain ⟨fails, unchanged⟩ :=
          rotate_of_undecryptable decoder ivs table isKey decryptable
        refine .inr ⟨fails, unchanged, .inr ?_⟩
        push Not at decryptable
        obtain ⟨row, isRow, noPlaintext⟩ := decryptable
        refine ⟨row, isRow, ?_⟩
        cases decrypted : decrypt keys row.encryptedApiKey with
        | ok plaintext => exact absurd decrypted (noPlaintext plaintext)
        | error error => exact ⟨error, rfl⟩

section Sample

/-- The byte of every two digits. -/
def bytesOfDigits : List Char → List Nat
  | high :: low :: digits =>
      (16 * Json.hexValue high.toLower + Json.hexValue low.toLower) ::
        bytesOfDigits digits
  | _ => []

theorem length_bytesOfDigits (digits : List Char) :
    (bytesOfDigits digits).length = digits.length / 2 := by
  fun_induction bytesOfDigits digits with
  | case1 high low digits inductionHypothesis =>
      rw [List.length_cons, inductionHypothesis, List.length_cons, List.length_cons]
      omega
  | case2 digits short =>
      cases digits with
      | nil => rfl
      | cons first rest =>
          cases rest with
          | nil => simp
          | cons second rest => exact absurd rfl (short first second rest)

/-- A decoder for the buffers of the cipher that hides nothing. -/
def plainDecoder : HexDecoder Crypto.plainCrypto where
  fromHex text := bytesOfDigits text.toList
  length_fromHex := by
    intro text isHex
    rw [isHexKey, Bool.and_eq_true, decide_eq_true_eq] at isHex
    change (bytesOfDigits text.toList).length = 32
    rw [length_bytesOfDigits, String.length_toList, isHex.1]

/-- A process in the middle of a rotation. -/
def plainKeys : MasterKeys Crypto.plainCrypto where
  masterKey := plainRotation.newKey
  previousMasterKey := some plainRotation.oldKey

/-- A credential under a key. -/
def plainEnvelope
    (key : MasterKey Crypto.plainCrypto)
    (plaintext : String) : String :=
  Crypto.envelopeText Crypto.plainCrypto key.1 (List.replicate 12 7) plaintext

/-- One provider under the old key and one under the new key. -/
def mixedTable : ProviderTable String :=
  twoProviders (plainEnvelope plainRotation.oldKey "sk-1")
    (plainEnvelope plainRotation.newKey "sk-2")

/-- A table under two keys is rotated to a third one. -/
theorem rotate_commits_or_changes_nothing_mixed :
    let newKeyHex := some (String.ofList (List.replicate 64 'f'))
    let outcome := rotate plainDecoder plainKeys newKeyHex
      (fun _ => ⟨List.replicate 12 9, rfl⟩) mixedTable
    outcome.result = .ok 2 ∧
      ∃ newKey, plainDecoder.newKey newKeyHex = some newKey ∧
        List.Forall₂ (KeepsPlaintext plainKeys newKey) mixedTable.rows
          outcome.table.rows := by
  intro newKeyHex outcome
  rcases rotate_commits_or_changes_nothing plainDecoder plainKeys newKeyHex
      (fun _ => ⟨List.replicate 12 9, rfl⟩) mixedTable with
    ⟨newKey, isKey, done, rows, -⟩ | ⟨-, -, noKey | undecryptable⟩
  · exact ⟨done, newKey, isKey, rows⟩
  · have isHex : isHexKey (String.ofList (List.replicate 64 'f')) = true := by
      rw [isHexKey, String.length_ofList, String.toList_ofList]
      decide
    rw [HexDecoder.newKey, Option.bind_some, dif_pos isHex] at noKey
    cases noKey
  · obtain ⟨row, isRow, error, fails⟩ := undecryptable
    rcases List.mem_pair.1 isRow with rfl | rfl
    · have decrypts : decrypt plainKeys (plainEnvelope plainRotation.oldKey "sk-1") =
          .ok "sk-1" :=
        decrypt_envelopeText (List.mem_cons_of_mem _ (List.mem_singleton_self _))
          ⟨List.replicate 12 7, rfl⟩ _
      cases fails.symm.trans decrypts
    · have decrypts : decrypt plainKeys (plainEnvelope plainRotation.newKey "sk-2") =
          .ok "sk-2" :=
        decrypt_envelopeText List.mem_cons_self ⟨List.replicate 12 7, rfl⟩ _
      cases fails.symm.trans decrypts

end Sample

end Providers
end AiGateway
