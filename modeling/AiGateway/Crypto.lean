import Mathlib.Data.List.Basic

/-!
# Encryption of credentials

Credentials are stored as envelopes `v1.<iv>.<tag>.<ciphertext>`. A process
encrypts under its master key, and decrypts with it and then with the previous
one if it has one; an envelope that is not well formed fails at once.
-/

namespace AiGateway
namespace Crypto

section Model

/-- `CryptoError`. -/
structure CryptoError where
  message : String
  deriving DecidableEq, Repr

def algorithm : String := "aes-256-gcm"

def envelopeVersion : String := "v1"

def ivBytes : Nat := 12

def authTagBytes : Nat := 16

def masterKeyBytes : Nat := 32

/-- What `node:crypto` and `Buffer` provide; `β` is the type of the buffers. -/
structure NodeCrypto (β : Type) where
  length : β → Nat
  toBase64url : β → String
  fromBase64url : String → β
  /-- The tag and the ciphertext of a plaintext, given the key and the IV. -/
  encipher : β → β → String → β × β
  /-- The plaintext, given the key, the IV, the tag and the ciphertext; `none`
  when the tag does not fit. -/
  decipher : β → β → β → β → Option String
  fromBase64url_toBase64url :
    ∀ buffer, fromBase64url (toBase64url buffer) = buffer
  dot_notMem_toBase64url : ∀ buffer, '.' ∉ (toBase64url buffer).toList
  length_authTag : ∀ key iv plaintext,
    length (encipher key iv plaintext).1 = authTagBytes
  decipher_encipher : ∀ key iv plaintext,
    decipher key iv (encipher key iv plaintext).1
      (encipher key iv plaintext).2 = some plaintext
  decipher_encipher_of_ne : ∀ key other iv plaintext, other ≠ key →
    decipher other iv (encipher key iv plaintext).1
      (encipher key iv plaintext).2 = none

variable {β : Type} (node : NodeCrypto β)

/-- A key of the right length; the configuration accepts no other. -/
abbrev MasterKey := { key : β // node.length key = masterKeyBytes }

/-- An IV as it is drawn. -/
abbrev Iv := { iv : β // node.length iv = ivBytes }

/-- The master keys of a process. -/
structure MasterKeys where
  /-- `MASTER_KEY`. -/
  masterKey : MasterKey node
  /-- `PREVIOUS_MASTER_KEY`. -/
  previousMasterKey : Option (MasterKey node) := none

/-- `assertKeyLength(key)`. -/
def assertKeyLength (key : β) : Except CryptoError Unit :=
  if node.length key ≠ masterKeyBytes then
    throw ⟨s!"Key must be {masterKeyBytes} bytes for {algorithm}."⟩
  else pure ()

/-- The text of an envelope. -/
def envelopeText (key iv : β) (plaintext : String) : String :=
  let (authTag, ciphertext) := node.encipher key iv plaintext
  String.intercalate (String.singleton '.')
    [envelopeVersion, node.toBase64url iv, node.toBase64url authTag,
      node.toBase64url ciphertext]

/-- `encrypt(plaintext, key)`, with the IV that was drawn. -/
def encrypt (plaintext : String) (key iv : β) : Except CryptoError String := do
  assertKeyLength node key
  pure (envelopeText node key iv plaintext)

/-- `decryptWithKey(envelope, key)`. -/
def decryptWithKey (envelope : String) (key : β) : Except CryptoError String := do
  assertKeyLength node key
  match (envelope.split '.').toList.map (·.copy) with
  | [version, ivB64, tagB64, ctB64] =>
      if version ≠ envelopeVersion then
        throw ⟨s!"Unsupported ciphertext version: {version}."⟩
      let iv := node.fromBase64url ivB64
      let authTag := node.fromBase64url tagB64
      let ciphertext := node.fromBase64url ctB64
      if node.length iv ≠ ivBytes ∨ node.length authTag ≠ authTagBytes then
        throw ⟨"Malformed ciphertext envelope: bad IV or auth tag length."⟩
      match node.decipher key iv authTag ciphertext with
      | some plaintext => pure plaintext
      | none => throw ⟨"Decryption failed: wrong key or tampered ciphertext."⟩
  | _ => throw ⟨"Malformed ciphertext envelope: expected 4 segments."⟩

/-- The loop of `decryptWithKeys`, with the last error. -/
def decryptWithKeysFrom (envelope : String) :
    Option CryptoError → List β → Except CryptoError String
  | lastError, [] => throw (lastError.getD ⟨"Decryption failed."⟩)
  | _, candidate :: keys =>
      match decryptWithKey node envelope candidate with
      | .ok plaintext => pure plaintext
      | .error error =>
          if error.message.startsWith "Decryption failed" then
            decryptWithKeysFrom envelope (some error) keys
          else throw error

/-- `decryptWithKeys(envelope, keys)`. -/
def decryptWithKeys (envelope : String) (keys : List β) :
    Except CryptoError String :=
  decryptWithKeysFrom node envelope none keys

variable {node}

/-- The keys that a process decrypts with, in the order it tries them. -/
def MasterKeys.candidates (keys : MasterKeys node) : List (MasterKey node) :=
  match keys.previousMasterKey with
  | some previous => [keys.masterKey, previous]
  | none => [keys.masterKey]

/-- `decrypt(envelope)`. -/
def decrypt (keys : MasterKeys node) (envelope : String) :
    Except CryptoError String :=
  decryptWithKeys node envelope (keys.candidates.map Subtype.val)

end Model

section Envelopes

variable {β : Type} {node : NodeCrypto β}

theorem encrypt_eq_ok
    {key : β}
    (isKey : node.length key = masterKeyBytes)
    (plaintext : String)
    (iv : β) :
    encrypt node plaintext key iv = .ok (envelopeText node key iv plaintext) := by
  rw [encrypt, assertKeyLength, if_neg (not_not.2 isKey)]
  rfl

/-- The segments of an envelope. -/
theorem split_envelopeText (key iv : β) (plaintext : String) :
    ((envelopeText node key iv plaintext).split '.').toList.map (·.copy) =
      [envelopeVersion, node.toBase64url iv,
        node.toBase64url (node.encipher key iv plaintext).1,
        node.toBase64url (node.encipher key iv plaintext).2] := by
  rw [envelopeText, String.toList_split_intercalate, if_neg (List.cons_ne_nil _ _)]
  intro segment isSegment
  simp only [List.mem_cons, List.not_mem_nil, or_false] at isSegment
  rcases isSegment with rfl | rfl | rfl | rfl
  · decide
  · exact node.dot_notMem_toBase64url _
  · exact node.dot_notMem_toBase64url _
  · exact node.dot_notMem_toBase64url _

section Decryption

variable {key : β} {iv : Iv node} {plaintext : String}

/-- An envelope decrypts under its own key. -/
theorem decryptWithKey_envelopeText (isKey : node.length key = masterKeyBytes) :
    decryptWithKey node (envelopeText node key iv plaintext) key =
      .ok plaintext := by
  rw [decryptWithKey, assertKeyLength, if_neg (not_not.2 isKey),
    split_envelopeText]
  simp [node.fromBase64url_toBase64url, iv.2, node.length_authTag,
    node.decipher_encipher]
  rfl

/-- Under any other key its tag does not fit. -/
theorem decryptWithKey_envelopeText_of_ne
    {other : β}
    (isKey : node.length other = masterKeyBytes)
    (isOther : other ≠ key) :
    decryptWithKey node (envelopeText node key iv plaintext) other =
      .error ⟨"Decryption failed: wrong key or tampered ciphertext."⟩ := by
  rw [decryptWithKey, assertKeyLength, if_neg (not_not.2 isKey),
    split_envelopeText]
  simp [node.fromBase64url_toBase64url, iv.2, node.length_authTag,
    node.decipher_encipher_of_ne _ _ _ _ isOther]
  rfl

/-- After the wrong key the next one is tried. -/
theorem decryptWithKeysFrom_cons_of_ne
    {other : β}
    (isKey : node.length other = masterKeyBytes)
    (isOther : other ≠ key)
    (lastError : Option CryptoError)
    (keys : List β) :
    decryptWithKeysFrom node (envelopeText node key iv plaintext) lastError
        (other :: keys) =
      decryptWithKeysFrom node (envelopeText node key iv plaintext)
        (some ⟨"Decryption failed: wrong key or tampered ciphertext."⟩) keys := by
  have tryNext : "Decryption failed: wrong key or tampered ciphertext."
      |>.startsWith "Decryption failed" := by
    rw [String.startsWith_string_iff]
    decide
  rw [decryptWithKeysFrom, decryptWithKey_envelopeText_of_ne isKey isOther]
  simp only [tryNext, if_true]

/-- Trying keys in turn finds the key of an envelope, wherever it stands. -/
theorem decryptWithKeysFrom_of_mem
    {keys : List β}
    (areKeys : ∀ candidate ∈ keys, node.length candidate = masterKeyBytes)
    (isCandidate : key ∈ keys)
    (lastError : Option CryptoError) :
    decryptWithKeysFrom node (envelopeText node key iv plaintext) lastError keys =
      .ok plaintext := by
  induction keys generalizing lastError with
  | nil => cases isCandidate
  | cons candidate keys inductionHypothesis =>
      have isKey := areKeys candidate List.mem_cons_self
      by_cases same : candidate = key
      · rw [same] at isKey ⊢
        rw [decryptWithKeysFrom, decryptWithKey_envelopeText isKey]
        rfl
      · rw [decryptWithKeysFrom_cons_of_ne isKey same]
        exact inductionHypothesis
          (fun other isOther => areKeys other (List.mem_cons_of_mem _ isOther))
          ((List.mem_cons.1 isCandidate).resolve_left (Ne.symm same)) _

/-- Without its key an envelope does not decrypt. -/
theorem decryptWithKeysFrom_of_notMem
    {keys : List β}
    (areKeys : ∀ candidate ∈ keys, node.length candidate = masterKeyBytes)
    (notCandidate : key ∉ keys)
    (lastError : Option CryptoError) :
    ∃ error, decryptWithKeysFrom node (envelopeText node key iv plaintext)
      lastError keys = .error error := by
  induction keys generalizing lastError with
  | nil => exact ⟨_, rfl⟩
  | cons candidate keys inductionHypothesis =>
      rw [List.mem_cons, not_or] at notCandidate
      rw [decryptWithKeysFrom_cons_of_ne (areKeys candidate List.mem_cons_self)
        (Ne.symm notCandidate.1)]
      exact inductionHypothesis
        (fun other isOther => areKeys other (List.mem_cons_of_mem _ isOther))
        notCandidate.2 _

end Decryption

/-- An envelope was made under a key. -/
def SealedUnder (key : MasterKey node) (envelope : String) : Prop :=
  ∃ (iv : Iv node) (plaintext : String),
    encrypt node plaintext key iv = .ok envelope

/-- A process decrypts an envelope exactly when it has its key. -/
theorem SealedUnder.decrypts_iff
    {key : MasterKey node}
    {envelope : String}
    (isSealed : SealedUnder key envelope)
    (keys : MasterKeys node) :
    (∃ plaintext, decrypt keys envelope = .ok plaintext) ↔
      key ∈ keys.candidates := by
  obtain ⟨iv, plaintext, encrypted⟩ := isSealed
  rw [encrypt_eq_ok key.2, Except.ok.injEq] at encrypted
  subst encrypted
  have areKeys : ∀ candidate ∈ keys.candidates.map Subtype.val,
      node.length candidate = masterKeyBytes := by
    intro candidate isCandidate
    obtain ⟨other, -, rfl⟩ := List.mem_map.1 isCandidate
    exact other.2
  have isValue : key.1 ∈ keys.candidates.map Subtype.val ↔
      key ∈ keys.candidates := List.mem_map_of_injective Subtype.val_injective
  by_cases isCandidate : key ∈ keys.candidates
  · exact iff_of_true ⟨plaintext, decryptWithKeysFrom_of_mem areKeys
      (isValue.2 isCandidate) none⟩ isCandidate
  · obtain ⟨error, fails⟩ : ∃ error, decryptWithKeysFrom node
        (envelopeText node key iv plaintext) none _ = .error error :=
      decryptWithKeysFrom_of_notMem areKeys (isValue.not.2 isCandidate) none
    refine iff_of_false ?_ isCandidate
    rintro ⟨other, succeeds⟩
    cases fails.symm.trans succeeds

/-- An envelope is under one key only. -/
theorem SealedUnder.key_eq
    {key other : MasterKey node}
    {envelope : String}
    (isSealed : SealedUnder key envelope)
    (isSealedToo : SealedUnder other envelope) :
    key = other := by
  have decrypts := (isSealed.decrypts_iff { masterKey := key }).2
    (List.mem_singleton_self _)
  exact (List.mem_singleton.1
    ((isSealedToo.decrypts_iff { masterKey := key }).1 decrypts)).symm

end Envelopes

section Instance

/-- Read numbers that are written as strokes, each ended by a zero. -/
def fromStrokes : Nat → List Char → List Nat
  | _, [] => []
  | count, '1' :: chars => fromStrokes (count + 1) chars
  | count, _ :: chars => count :: fromStrokes 0 chars

theorem fromStrokes_replicate (count number : Nat) (chars : List Char) :
    fromStrokes count (List.replicate number '1' ++ '0' :: chars) =
      (count + number) :: fromStrokes 0 chars := by
  induction number generalizing count with
  | zero => rfl
  | succ number inductionHypothesis =>
      rw [List.replicate_succ, List.cons_append, fromStrokes,
        inductionHypothesis, Nat.add_right_comm, Nat.add_assoc]

/-- A cipher that hides nothing: the ciphertext is the key and the plaintext, and
the tag is zero. It shows that the laws can be met. -/
def plainCrypto : NodeCrypto (List Nat) where
  length := List.length
  toBase64url buffer :=
    String.ofList (buffer.flatMap fun number =>
      List.replicate number '1' ++ ['0'])
  fromBase64url text := fromStrokes 0 text.toList
  encipher key _ plaintext :=
    (List.replicate authTagBytes 0,
      key.length :: (key ++ plaintext.toList.map Char.toNat))
  decipher key _ _ ciphertext :=
    match ciphertext with
    | [] => none
    | size :: text =>
        if text.take size = key then
          some (String.ofList ((text.drop size).map Char.ofNat))
        else none
  fromBase64url_toBase64url buffer := by
    rw [String.toList_ofList]
    induction buffer with
    | nil => rfl
    | cons number buffer inductionHypothesis =>
        rw [List.flatMap_cons, List.append_assoc, List.cons_append,
          List.nil_append, fromStrokes_replicate, inductionHypothesis,
          Nat.zero_add]
  dot_notMem_toBase64url buffer := by
    rw [String.toList_ofList]
    intro isDot
    obtain ⟨number, -, isChar⟩ := List.mem_flatMap.1 isDot
    rw [List.mem_append, List.mem_singleton] at isChar
    rcases isChar with isStroke | isZero
    · cases List.eq_of_mem_replicate isStroke
    · cases isZero
  length_authTag _ _ _ := List.length_replicate
  decipher_encipher key _ plaintext := by
    dsimp only
    rw [List.take_left, if_pos rfl, List.drop_left, List.map_map]
    have sameChars : Char.ofNat ∘ Char.toNat = id :=
      funext Char.ofNat_toNat
    rw [sameChars, List.map_id, String.ofList_toList]
  decipher_encipher_of_ne key other _ plaintext isOther := by
    dsimp only
    rw [List.take_left, if_neg (Ne.symm isOther)]

end Instance

end Crypto
end AiGateway
