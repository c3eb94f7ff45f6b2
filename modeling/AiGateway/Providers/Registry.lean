import AiGateway.Foundations.OrderedMap
import AiGateway.Providers.Adapters

/-!
# The provider registry

`load` turns the active rows of the database into a snapshot: the providers by
their ids, and the candidates for each model by ascending priority. A row whose
credential does not decrypt is skipped. Requests are resolved from the snapshot.
-/

namespace AiGateway
namespace Providers

open Foundations (OrderedMap.set OrderedMap.lookup_eq_some_of_mem
  OrderedMap.mem_keys_set OrderedMap.mem_of_mem_set OrderedMap.nodup_keys_set)

section Model

/-- A row of `provider_models`. -/
structure ProviderModelRow where
  modelId : String
  info : ProviderModelInfo
  isActive : Bool

/-- A row of `providers` with its models; `ε` is the type of the encrypted
credentials. -/
structure ProviderRow (ε : Type) where
  id : String
  name : String
  baseUrl : String
  adapterType : AdapterType
  encryptedApiKey : ε
  weight : Nat
  priority : Nat
  isActive : Bool
  timeoutMs : Nat
  models : List ProviderModelRow

/-- An adapter as `createAdapter` makes it. -/
structure Provider where
  config : ProviderInstanceConfig
  adapterType : AdapterType
  baseUrl : String
  apiKey : String
  timeoutMs : Nat
  weight : Nat
  priority : Nat

/-- `ModelCandidate`. -/
structure ModelCandidate where
  provider : Provider
  modelId : String
  model : ProviderModelInfo

/-- The maps of the registry. -/
structure Snapshot where
  providersById : List (String × Provider) := []
  candidatesByModel : List (String × List ModelCandidate) := []

/-- `ModelResolution`. -/
structure ModelResolution where
  canonicalModel : String
  candidates : List ModelCandidate

/-- `MODEL_ALIASES`. -/
def modelAliases : List (String × String) :=
  [("gpt-4", "gpt-4o"), ("gpt-4-turbo", "gpt-4o"),
    ("gpt-3.5-turbo", "gpt-4o-mini"), ("claude-3-opus", "claude-opus-4"),
    ("claude-3-sonnet", "claude-sonnet-4"), ("gemini-pro", "gemini-1.5-pro")]

variable {ε : Type} (decrypt : ε → Option String)

/-- The provider of a row, given its credential. -/
def ProviderRow.toProvider (row : ProviderRow ε) (apiKey : String) :
    Provider where
  config :=
    { id := row.id
      name := row.name
      models := (row.models.filter ProviderModelRow.isActive).foldl
        (fun models model => OrderedMap.set models model.modelId model.info)
        [] }
  adapterType := row.adapterType
  baseUrl := row.baseUrl
  apiKey := apiKey
  timeoutMs := row.timeoutMs
  weight := row.weight
  priority := row.priority

/-- Add a candidate to the list of its model. -/
def addCandidate
    (candidatesByModel : List (String × List ModelCandidate))
    (candidate : ModelCandidate) : List (String × List ModelCandidate) :=
  OrderedMap.set candidatesByModel candidate.modelId
    ((candidatesByModel.lookup candidate.modelId).getD [] ++ [candidate])

/-- The body of the loop over the rows. -/
def addRow (snapshot : Snapshot) (row : ProviderRow ε) : Snapshot :=
  match decrypt row.encryptedApiKey with
  | none => snapshot
  | some apiKey =>
      let provider := row.toProvider apiKey
      { providersById := OrderedMap.set snapshot.providersById row.id provider
        candidatesByModel := provider.config.models.foldl
          (fun byModel entry => addCandidate byModel
            { provider := provider, modelId := entry.1, model := entry.2 })
          snapshot.candidatesByModel }

/-- The snapshot that `load` makes of the rows of the database. -/
def buildSnapshot (rows : List (ProviderRow ε)) : Snapshot :=
  let snapshot := (rows.filter ProviderRow.isActive).foldl (addRow decrypt) {}
  { snapshot with
    candidatesByModel := snapshot.candidatesByModel.map fun entry =>
      (entry.1, entry.2.mergeSort fun first second =>
        first.provider.priority ≤ second.provider.priority) }

/-- `resolveCandidates(requestedModel)`. -/
def Snapshot.resolveCandidates
    (snapshot : Snapshot)
    (requestedModel : String) : ModelResolution :=
  match snapshot.candidatesByModel.lookup requestedModel with
  | some (first :: rest) =>
      { canonicalModel := requestedModel, candidates := first :: rest }
  | _ =>
      match (modelAliases.lookup requestedModel).bind fun model =>
          (snapshot.candidatesByModel.lookup model).map (model, ·) with
      | some (model, first :: rest) =>
          { canonicalModel := model, candidates := first :: rest }
      | _ => { canonicalModel := requestedModel, candidates := [] }

/-- `ModelObject`; the name of the object is always the same. -/
structure ModelObject where
  id : String
  created : Nat := 0
  ownedBy : AdapterType
  deriving DecidableEq

/-- The body of the loop of `listModels`. -/
def addModel
    (seen : List (String × ModelObject))
    (entry : String × List ModelCandidate) : List (String × ModelObject) :=
  match entry.2 with
  | [] => seen
  | first :: _ =>
      if entry.1 ∈ seen.map Prod.fst then
        seen
      else
        OrderedMap.set seen entry.1
          { id := entry.1, ownedBy := first.provider.adapterType }

/-- `listModels()`; `localeCompare` orders the ids. -/
def Snapshot.listModels
    (localeCompare : String → String → Ordering)
    (snapshot : Snapshot) : List ModelObject :=
  ((snapshot.candidatesByModel.foldl addModel []).map Prod.snd).mergeSort
    fun left right => (localeCompare left.id right.id).isLE

end Model

section Rows

variable {ε : Type} {decrypt : ε → Option String}

/-- A provider comes from an active row that was decrypted. -/
def FromRow
    (decrypt : ε → Option String)
    (rows : List (ProviderRow ε))
    (provider : Provider) : Prop :=
  ∃ row ∈ rows, row.isActive = true ∧
    ∃ apiKey, decrypt row.encryptedApiKey = some apiKey ∧
      provider = row.toProvider apiKey

/-- All that a snapshot offers comes from some rows. -/
structure Snapshot.Offers
    (snapshot : Snapshot)
    (holds : Provider → Prop) : Prop where
  providers : ∀ entry ∈ snapshot.providersById, holds entry.2
  candidates : ∀ entry ∈ snapshot.candidatesByModel, ∀ candidate ∈ entry.2,
    holds candidate.provider

theorem mem_addCandidate
    {byModel : List (String × List ModelCandidate)}
    {candidate other : ModelCandidate}
    {entry : String × List ModelCandidate}
    (isEntry : entry ∈ addCandidate byModel candidate)
    (isCandidate : other ∈ entry.2) :
    other = candidate ∨ ∃ entry ∈ byModel, other ∈ entry.2 := by
  rcases OrderedMap.mem_of_mem_set isEntry with rfl | isOld
  · rcases List.mem_append.1 isCandidate with isOld | isNew
    · cases found : byModel.lookup candidate.modelId with
      | none =>
          rw [found] at isOld
          cases isOld
      | some candidates =>
          rw [found] at isOld
          obtain ⟨before, after, rfl, -⟩ := List.lookup_eq_some_iff.1 found
          exact .inr ⟨(candidate.modelId, candidates), by simp, isOld⟩
    · exact .inl (List.mem_singleton.1 isNew)
  · exact .inr ⟨entry, isOld, isCandidate⟩

/-- One more row adds no other provider than its own. -/
theorem Snapshot.Offers.addRow
    {snapshot : Snapshot}
    {holds : Provider → Prop}
    (offers : snapshot.Offers holds)
    {row : ProviderRow ε}
    (holdsOfRow : ∀ apiKey, decrypt row.encryptedApiKey = some apiKey →
      holds (row.toProvider apiKey)) :
    (Providers.addRow decrypt snapshot row).Offers holds := by
  unfold Providers.addRow
  cases decrypted : decrypt row.encryptedApiKey with
  | none => exact offers
  | some apiKey =>
      have holdsNow := holdsOfRow apiKey decrypted
      constructor
      · intro entry isEntry
        rcases OrderedMap.mem_of_mem_set isEntry with rfl | isOld
        · exact holdsNow
        · exact offers.providers entry isOld
      · dsimp only
        have candidates := offers.candidates
        revert candidates
        generalize snapshot.candidatesByModel = byModel
        induction (row.toProvider apiKey).config.models generalizing byModel with
        | nil => exact id
        | cons model models inductionHypothesis =>
            intro candidates
            refine inductionHypothesis _ fun entry isEntry other isOther => ?_
            rcases mem_addCandidate isEntry isOther with rfl | ⟨old, isOld, isIn⟩
            · exact holdsNow
            · exact candidates old isOld other isIn

/-- A snapshot offers providers of active rows only. -/
theorem offers_buildSnapshot (rows : List (ProviderRow ε)) :
    (buildSnapshot decrypt rows).Offers (FromRow decrypt rows) := by
  have offers : ((rows.filter ProviderRow.isActive).foldl (addRow decrypt)
      {}).Offers (FromRow decrypt rows) := by
    have start : ({} : Snapshot).Offers (FromRow decrypt rows) :=
      ⟨nofun, nofun⟩
    have areRows : ∀ row ∈ rows.filter ProviderRow.isActive,
        row ∈ rows ∧ row.isActive = true := fun row isRow =>
      List.mem_filter.1 isRow
    revert start areRows
    generalize rows.filter ProviderRow.isActive = active
    generalize ({} : Snapshot) = snapshot
    induction active generalizing snapshot with
    | nil => exact fun offers _ => offers
    | cons row active inductionHypothesis =>
        intro offers areRows
        obtain ⟨isRow, isActive⟩ := areRows row List.mem_cons_self
        exact inductionHypothesis _
          (offers.addRow fun apiKey decrypted =>
            ⟨row, isRow, isActive, apiKey, decrypted, rfl⟩)
          fun other isOther => areRows other (List.mem_cons_of_mem _ isOther)
  refine ⟨offers.providers, fun entry isEntry candidate isCandidate => ?_⟩
  obtain ⟨old, isOld, rfl⟩ := List.mem_map.1 isEntry
  exact offers.candidates old isOld candidate (List.mem_mergeSort.1 isCandidate)

/-- The ids after one more row. -/
theorem mem_providersById_addRow
    {snapshot : Snapshot}
    {row : ProviderRow ε}
    {id : String} :
    id ∈ (addRow decrypt snapshot row).providersById.map Prod.fst ↔
      row.id = id ∧ (decrypt row.encryptedApiKey).isSome ∨
        id ∈ snapshot.providersById.map Prod.fst := by
  unfold addRow
  cases decrypt row.encryptedApiKey with
  | none => simp
  | some apiKey =>
      rw [OrderedMap.mem_keys_set, eq_comm]
      simp

/-- The providers of a snapshot are those of the active rows that decrypt. -/
theorem mem_providersById_buildSnapshot
    {rows : List (ProviderRow ε)}
    {id : String} :
    id ∈ (buildSnapshot decrypt rows).providersById.map Prod.fst ↔
      ∃ row ∈ rows, row.isActive = true ∧ row.id = id ∧
        (decrypt row.encryptedApiKey).isSome := by
  have foldl (active : List (ProviderRow ε)) (snapshot : Snapshot) :
      id ∈ (active.foldl (addRow decrypt) snapshot).providersById.map Prod.fst ↔
        (∃ row ∈ active, row.id = id ∧ (decrypt row.encryptedApiKey).isSome) ∨
          id ∈ snapshot.providersById.map Prod.fst := by
    induction active generalizing snapshot with
    | nil => simp
    | cons row active inductionHypothesis =>
        rw [List.foldl_cons, inductionHypothesis, mem_providersById_addRow,
          List.exists_mem_cons_iff, or_left_comm, or_assoc]
  refine (foldl _ {}).trans ?_
  simp only [List.mem_filter, List.map_nil, List.not_mem_nil, or_false, and_assoc]

/-- A resolution names candidates of the snapshot. -/
theorem mem_resolveCandidates
    {snapshot : Snapshot}
    {requestedModel : String}
    {candidate : ModelCandidate}
    (isCandidate :
      candidate ∈ (snapshot.resolveCandidates requestedModel).candidates) :
    ∃ entry ∈ snapshot.candidatesByModel, candidate ∈ entry.2 := by
  have isEntry {model : String} {candidates : List ModelCandidate}
      (found : snapshot.candidatesByModel.lookup model = some candidates) :
      (model, candidates) ∈ snapshot.candidatesByModel := by
    obtain ⟨before, after, sameList, -⟩ := List.lookup_eq_some_iff.1 found
    rw [sameList]
    simp
  unfold Snapshot.resolveCandidates at isCandidate
  split at isCandidate
  · next first rest found => exact ⟨_, isEntry found, isCandidate⟩
  · split at isCandidate
    · next model first rest found =>
        obtain ⟨canonical, -, aliased⟩ := Option.bind_eq_some_iff.1 found
        obtain ⟨candidates, foundAlias, sameCandidates⟩ :=
          Option.map_eq_some_iff.1 aliased
        cases sameCandidates
        exact ⟨_, isEntry foundAlias, isCandidate⟩
    · cases isCandidate

/-- The models of a snapshot are the keys of a map. -/
theorem nodup_candidatesByModel (rows : List (ProviderRow ε)) :
    ((buildSnapshot decrypt rows).candidatesByModel.map Prod.fst).Nodup := by
  have addRowKeeps (snapshot : Snapshot) (row : ProviderRow ε) :
      (snapshot.candidatesByModel.map Prod.fst).Nodup →
        ((addRow decrypt snapshot row).candidatesByModel.map Prod.fst).Nodup := by
    unfold addRow
    cases decrypt row.encryptedApiKey with
    | none => exact id
    | some apiKey =>
        dsimp only
        generalize snapshot.candidatesByModel = byModel
        induction (row.toProvider apiKey).config.models generalizing byModel with
        | nil => exact id
        | cons model models inductionHypothesis =>
            intro distinct
            exact inductionHypothesis _ (OrderedMap.nodup_keys_set distinct _ _)
  have foldKeeps (active : List (ProviderRow ε)) (snapshot : Snapshot) :
      (snapshot.candidatesByModel.map Prod.fst).Nodup →
        ((active.foldl (addRow decrypt) snapshot).candidatesByModel.map
          Prod.fst).Nodup := by
    induction active generalizing snapshot with
    | nil => exact id
    | cons row active inductionHypothesis =>
        exact fun distinct => inductionHypothesis _ (addRowKeeps _ row distinct)
  unfold buildSnapshot
  rw [List.map_map]
  exact foldKeeps _ {} List.nodup_nil

/-- A provider without an active row is no candidate. -/
theorem id_ne_of_inactive
    {rows : List (ProviderRow ε)}
    {id : String}
    (inactive : ∀ row ∈ rows, row.id = id → row.isActive = false)
    {requestedModel : String}
    {candidate : ModelCandidate}
    (isCandidate : candidate ∈ ((buildSnapshot decrypt rows).resolveCandidates
      requestedModel).candidates) :
    candidate.provider.config.id ≠ id := by
  obtain ⟨entry, isEntry, isIn⟩ := mem_resolveCandidates isCandidate
  obtain ⟨row, isRow, isActive, apiKey, -, providerEq⟩ :=
    (offers_buildSnapshot rows).candidates entry isEntry candidate isIn
  intro sameId
  rw [providerEq] at sameId
  have notActive := inactive row isRow sameId
  rw [isActive] at notActive
  cases notActive

end Rows

section Listing

variable {snapshot : Snapshot} {model : String}

/-- A model is served if it has a candidate under its own id. -/
def Snapshot.Serves (snapshot : Snapshot) (model : String) : Prop :=
  ∃ first rest, (model, first :: rest) ∈ snapshot.candidatesByModel

/-- A served model resolves to itself. -/
theorem Snapshot.Serves.resolveCandidates
    (serves : snapshot.Serves model)
    (distinct : (snapshot.candidatesByModel.map Prod.fst).Nodup) :
    (snapshot.resolveCandidates model).canonicalModel = model ∧
      (snapshot.resolveCandidates model).candidates ≠ [] := by
  obtain ⟨first, rest, isEntry⟩ := serves
  unfold Snapshot.resolveCandidates
  rw [OrderedMap.lookup_eq_some_of_mem distinct isEntry]
  exact ⟨rfl, List.cons_ne_nil _ _⟩

/-- The ids that the loop has seen. -/
theorem mem_foldl_addModel
    (entries : List (String × List ModelCandidate))
    (seen : List (String × ModelObject)) :
    model ∈ (entries.foldl addModel seen).map Prod.fst ↔
      (∃ first rest, (model, first :: rest) ∈ entries) ∨
        model ∈ seen.map Prod.fst := by
  induction entries generalizing seen with
  | nil => simp
  | cons entry entries inductionHypothesis =>
      rw [List.foldl_cons, inductionHypothesis]
      obtain ⟨id, _ | ⟨candidate, candidates⟩⟩ := entry
      · simp [addModel]
      · have seenNow : model ∈ (addModel seen (id, candidate :: candidates)).map
            Prod.fst ↔ model = id ∨ model ∈ seen.map Prod.fst := by
          unfold addModel
          dsimp only
          split_ifs with isSeen
          · refine ⟨.inr, ?_⟩
            rintro (rfl | isOld)
            · exact isSeen
            · exact isOld
          · exact OrderedMap.mem_keys_set
        rw [seenNow]
        simp only [List.mem_cons, Prod.mk.injEq, List.cons.injEq]
        constructor
        · rintro (⟨first, rest, isEntry⟩ | rfl | isOld)
          · exact .inl ⟨first, rest, .inr isEntry⟩
          · exact .inl ⟨candidate, candidates, .inl ⟨rfl, rfl, rfl⟩⟩
          · exact .inr isOld
        · rintro (⟨first, rest, ⟨rfl, -⟩ | isEntry⟩ | isOld)
          · exact .inr (.inl rfl)
          · exact .inl ⟨first, rest, isEntry⟩
          · exact .inr (.inr isOld)

/-- Every object is seen under its own id. -/
theorem id_of_mem_foldl_addModel
    {entries : List (String × List ModelCandidate)}
    {seen : List (String × ModelObject)}
    (ownIds : ∀ entry ∈ seen, entry.2.id = entry.1) :
    ∀ entry ∈ entries.foldl addModel seen, entry.2.id = entry.1 := by
  induction entries generalizing seen with
  | nil => exact ownIds
  | cons entry entries inductionHypothesis =>
      refine inductionHypothesis ?_
      unfold addModel
      split
      · exact ownIds
      · split_ifs
        · exact ownIds
        · intro other isOther
          rcases OrderedMap.mem_of_mem_set isOther with rfl | isOld
          · rfl
          · exact ownIds other isOld

/-- The list names the models that are served. -/
theorem mem_listModels (localeCompare : String → String → Ordering) :
    model ∈ (snapshot.listModels localeCompare).map ModelObject.id ↔
      snapshot.Serves model := by
  have ownIds : ∀ entry ∈ snapshot.candidatesByModel.foldl addModel [],
      entry.2.id = entry.1 := id_of_mem_foldl_addModel nofun
  have sameIds : (snapshot.candidatesByModel.foldl addModel []).map
      (ModelObject.id ∘ Prod.snd) =
        (snapshot.candidatesByModel.foldl addModel []).map Prod.fst :=
    List.map_congr_left fun entry isEntry => ownIds entry isEntry
  unfold Snapshot.listModels
  rw [((List.mergeSort_perm _ _).map ModelObject.id).mem_iff, List.map_map, sameIds,
    mem_foldl_addModel]
  simp [Snapshot.Serves]

end Listing

end Providers
end AiGateway
