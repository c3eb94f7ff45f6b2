import AiGateway.Providers.Registry
import Mathlib.Data.List.Induction
import Mathlib.Data.List.Sort

/-!
# The two indexes of the registry

`load` fills a map of the providers by their ids and a map of the candidates by
model, in one loop that abandons a row whose credential does not decrypt or whose
adapter cannot be built. The rows are those of a table, whose ids are distinct.
Requests are resolved through the second map and priced through the models of
the provider that is found there. This module says that they agree.
-/

namespace AiGateway
namespace Providers

open Foundations (OrderedMap.set OrderedMap.lookup_set OrderedMap.nodup_keys_set
  OrderedMap.mem_keys_set OrderedMap.lookup_eq_some_of_mem)

section Model

variable {ε : Type}

/-- The table `providers` with its models: the ids of the rows are distinct, and a
provider has each of its models once. -/
structure ProviderTable (ε : Type) where
  rows : List (ProviderRow ε)
  distinctIds : (rows.map ProviderRow.id).Nodup
  distinctModels : ∀ row ∈ rows,
    (row.models.map ProviderModelRow.modelId).Nodup

-- a credential that does not decrypt, and a configuration for which
-- `createAdapter` throws
variable (decrypt : ε → Option String) (builds : Provider → Bool)

/-- What the loop makes of a row before it writes to the maps; `none` is a throw. -/
def loadRow (row : ProviderRow ε) : Option Provider :=
  (decrypt row.encryptedApiKey).bind fun apiKey =>
    if builds (row.toProvider apiKey) then some (row.toProvider apiKey) else none

/-- The writes of the loop for a provider. -/
def register (snapshot : Snapshot) (provider : Provider) : Snapshot where
  providersById :=
    OrderedMap.set snapshot.providersById provider.config.id provider
  candidatesByModel := provider.config.models.foldl
    (fun byModel entry => addCandidate byModel
      { provider := provider, modelId := entry.1, model := entry.2 })
    snapshot.candidatesByModel

/-- The body of the loop; a row that throws is skipped. -/
def tryRow (snapshot : Snapshot) (row : ProviderRow ε) : Snapshot :=
  match loadRow decrypt builds row with
  | none => snapshot
  | some provider => register snapshot provider

/-- The snapshot that `load` makes of a table. -/
def load (table : ProviderTable ε) : Snapshot :=
  let snapshot := (table.rows.filter ProviderRow.isActive).foldl
    (tryRow decrypt builds) {}
  { snapshot with
    candidatesByModel := snapshot.candidatesByModel.map fun entry =>
      (entry.1, entry.2.mergeSort fun first second =>
        first.provider.priority ≤ second.provider.priority) }

/-- The providers that load, in the order of their rows. -/
def loaded (table : ProviderTable ε) : List Provider :=
  (table.rows.filter ProviderRow.isActive).filterMap (loadRow decrypt builds)

/-- When every adapter can be built, this is the snapshot made of the rows. -/
theorem load_eq_buildSnapshot (table : ProviderTable ε) :
    load decrypt (fun _ => true) table = buildSnapshot decrypt table.rows := by
  have sameStep : tryRow decrypt (fun _ => true) = addRow decrypt := by
    funext snapshot row
    unfold tryRow loadRow addRow
    cases decrypt row.encryptedApiKey <;> rfl
  unfold load buildSnapshot
  rw [sameStep]

end Model

section Maps

/-- The candidate that a provider is for a model. -/
def Provider.candidateFor (provider : Provider) (model : String) :
    Option ModelCandidate :=
  (provider.config.getModel model).map fun info =>
    { provider := provider, modelId := model, model := info }

/-- The candidates under a model. -/
def Snapshot.servedBy (snapshot : Snapshot) (model : String) :
    List ModelCandidate :=
  (snapshot.candidatesByModel.lookup model).getD []

/-- One more candidate is last under its model. -/
theorem lookup_addCandidate
    (byModel : List (String × List ModelCandidate))
    (candidate : ModelCandidate)
    (model : String) :
    ((addCandidate byModel candidate).lookup model).getD [] =
      (byModel.lookup model).getD [] ++
        if model = candidate.modelId then [candidate] else [] := by
  unfold addCandidate
  rw [OrderedMap.lookup_set]
  split_ifs with isModel
  · rw [isModel, Option.getD_some]
  · rw [List.append_nil]

/-- Registering a provider adds what it is for each model. -/
theorem servedBy_register
    {provider : Provider}
    (distinct : (provider.config.models.map Prod.fst).Nodup)
    (snapshot : Snapshot)
    (model : String) :
    (register snapshot provider).servedBy model =
      snapshot.servedBy model ++ (provider.candidateFor model).toList := by
  unfold Snapshot.servedBy register Provider.candidateFor
    ProviderInstanceConfig.getModel
  generalize snapshot.candidatesByModel = byModel
  revert distinct
  induction provider.config.models generalizing byModel with
  | nil => simp
  | cons entry entries inductionHypothesis =>
      intro distinct
      obtain ⟨notLater, distinctLater⟩ := List.nodup_cons.1 distinct
      rw [List.foldl_cons, inductionHypothesis _ distinctLater,
        lookup_addCandidate, List.append_assoc, List.lookup_cons]
      by_cases isModel : model = entry.1
      · -- the model of this entry is in no later one
        have noLater : entries.lookup model = none := by
          rw [List.lookup_eq_none_iff]
          intro other isOther
          refine bne_iff_ne.2 fun same => notLater ?_
          rw [← isModel, same]
          exact List.mem_map_of_mem isOther
        simp [isModel, isModel ▸ noLater]
      · simp [isModel, beq_false_of_ne isModel]

/-- The models under which a provider has a candidate. -/
theorem mem_keys_register
    {snapshot : Snapshot}
    {provider : Provider}
    {entry : String × List ModelCandidate}
    (isEntry : entry ∈ (register snapshot provider).candidatesByModel)
    {candidate : ModelCandidate}
    (isCandidate : candidate ∈ entry.2) :
    candidate.provider = provider ∨
      ∃ entry ∈ snapshot.candidatesByModel, candidate ∈ entry.2 := by
  unfold register at isEntry
  dsimp only at isEntry
  revert isEntry
  generalize snapshot.candidatesByModel = byModel
  induction provider.config.models generalizing byModel with
  | nil => exact fun isOld => .inr ⟨entry, isOld, isCandidate⟩
  | cons model models inductionHypothesis =>
      intro isEntry
      rcases inductionHypothesis _ isEntry with same | ⟨old, isOld, isIn⟩
      · exact .inl same
      · rcases mem_addCandidate isOld isIn with rfl | older
        · exact .inl rfl
        · exact .inr older

section Fold

variable (providers : List Provider)

/-- The candidates after a list of providers, in its order. -/
theorem servedBy_foldl_register
    (distinct : ∀ provider ∈ providers,
      (provider.config.models.map Prod.fst).Nodup)
    (snapshot : Snapshot)
    (model : String) :
    (providers.foldl register snapshot).servedBy model =
      snapshot.servedBy model ++
        providers.filterMap fun provider => provider.candidateFor model := by
  induction providers generalizing snapshot with
  | nil => simp
  | cons provider providers inductionHypothesis =>
      rw [List.foldl_cons, inductionHypothesis
        (fun other isOther => distinct other (List.mem_cons_of_mem _ isOther)),
        servedBy_register (distinct provider List.mem_cons_self),
        List.append_assoc, List.filterMap_cons]
      cases provider.candidateFor model <;> rfl

/-- Every candidate is of one of them. -/
theorem mem_foldl_register
    {entry : String × List ModelCandidate}
    (isEntry : entry ∈ (providers.foldl register {}).candidatesByModel)
    {candidate : ModelCandidate}
    (isCandidate : candidate ∈ entry.2) :
    candidate.provider ∈ providers := by
  induction providers using List.reverseRecOn generalizing entry with
  | nil => cases isEntry
  | append_singleton providers provider inductionHypothesis =>
      rw [List.foldl_append] at isEntry
      rcases mem_keys_register isEntry isCandidate with rfl | ⟨old, isOld, isIn⟩
      · simp
      · exact List.mem_append_left _ (inductionHypothesis isOld isIn)

/-- The ids that are registered. -/
theorem mem_ids_foldl_register (id : String) :
    id ∈ (providers.foldl register {}).providersById.map Prod.fst ↔
      ∃ provider ∈ providers, provider.config.id = id := by
  induction providers using List.reverseRecOn with
  | nil => simp
  | append_singleton providers provider inductionHypothesis =>
      rw [List.foldl_append]
      change id ∈ (OrderedMap.set _ provider.config.id provider).map Prod.fst ↔ _
      rw [OrderedMap.mem_keys_set, inductionHypothesis]
      simp only [List.mem_append, List.mem_singleton]
      constructor
      · rintro (rfl | ⟨other, isOther, sameId⟩)
        · exact ⟨provider, .inr rfl, rfl⟩
        · exact ⟨other, .inl isOther, sameId⟩
      · rintro ⟨other, isOther | rfl, sameId⟩
        · exact .inr ⟨other, isOther, sameId⟩
        · exact .inl sameId.symm

/-- With distinct ids, each of them is found under its own. -/
theorem lookup_id_foldl_register
    (distinct : (providers.map fun provider => provider.config.id).Nodup)
    {provider : Provider}
    (isProvider : provider ∈ providers) :
    (providers.foldl register {}).providersById.lookup provider.config.id =
      some provider := by
  induction providers using List.reverseRecOn with
  | nil => cases isProvider
  | append_singleton providers last inductionHypothesis =>
      rw [List.map_append, List.nodup_append] at distinct
      rw [List.foldl_append]
      change (OrderedMap.set _ last.config.id last).lookup _ = _
      rw [OrderedMap.lookup_set]
      rcases List.mem_append.1 isProvider with isOld | isLast
      · have otherId : provider.config.id ≠ last.config.id :=
          distinct.2.2 _ (List.mem_map_of_mem isOld) _ (by simp)
        rw [if_neg otherId]
        exact inductionHypothesis distinct.1 isOld
      · rw [List.mem_singleton.1 isLast, if_pos rfl]

end Fold

end Maps

section Resolution

variable (snapshot : Snapshot) (model : String)

/-- A model is resolved to itself if it has candidates, else to its alias if that
has, else to nothing. -/
inductive Resolves : ModelResolution → Prop
  | direct
      (served : snapshot.servedBy model ≠ []) :
      Resolves ⟨model, snapshot.servedBy model⟩
  | aliased
      (notServed : snapshot.servedBy model = [])
      {canonical : String}
      (isAlias : modelAliases.lookup model = some canonical)
      (served : snapshot.servedBy canonical ≠ []) :
      Resolves ⟨canonical, snapshot.servedBy canonical⟩
  | unknown
      (notServed : snapshot.servedBy model = []) :
      Resolves ⟨model, []⟩

theorem resolves_resolveCandidates :
    Resolves snapshot model (snapshot.resolveCandidates model) := by
  have servedOf {id : String} {candidates : List ModelCandidate}
      (found : snapshot.candidatesByModel.lookup id = some candidates) :
      snapshot.servedBy id = candidates := by
    rw [Snapshot.servedBy, found, Option.getD_some]
  unfold Snapshot.resolveCandidates
  split
  · rename_i first rest found
    rw [← servedOf found]
    apply Resolves.direct
    rw [servedOf found]
    exact List.cons_ne_nil first rest
  · rename_i notFound
    have notServed : snapshot.servedBy model = [] := by
      unfold Snapshot.servedBy
      cases found : snapshot.candidatesByModel.lookup model with
      | none => rfl
      | some candidates =>
          cases candidates with
          | nil => rfl
          | cons first rest => exact absurd found (notFound first rest)
    split
    · rename_i canonical first rest found
      obtain ⟨other, isAlias, foundOther⟩ := Option.bind_eq_some_iff.1 found
      obtain ⟨candidates, foundAlias, same⟩ :=
        Option.map_eq_some_iff.1 foundOther
      cases same
      rw [← servedOf foundAlias]
      apply Resolves.aliased notServed isAlias
      rw [servedOf foundAlias]
      exact List.cons_ne_nil first rest
    · exact Resolves.unknown notServed

/-- The candidates of a resolution are those under its canonical model. -/
theorem candidates_resolveCandidates :
    (snapshot.resolveCandidates model).candidates =
      snapshot.servedBy (snapshot.resolveCandidates model).canonicalModel := by
  have resolves := resolves_resolveCandidates snapshot model
  generalize snapshot.resolveCandidates model = resolution at resolves
  cases resolves with
  | direct served => rfl
  | aliased notServed isAlias served => rfl
  | unknown notServed => exact notServed.symm

/-- A model with candidates is not rewritten. -/
theorem resolveCandidates_of_served
    (served : snapshot.servedBy model ≠ []) :
    snapshot.resolveCandidates model = ⟨model, snapshot.servedBy model⟩ := by
  have resolves := resolves_resolveCandidates snapshot model
  generalize snapshot.resolveCandidates model = resolution at resolves
  cases resolves with
  | direct _ => rfl
  | aliased notServed isAlias _ => exact absurd notServed served
  | unknown notServed => exact absurd notServed served

/-- Resolving the canonical model gives the same resolution. -/
theorem resolveCandidates_canonicalModel :
    snapshot.resolveCandidates (snapshot.resolveCandidates model).canonicalModel =
      snapshot.resolveCandidates model := by
  have resolves := resolves_resolveCandidates snapshot model
  cases resolved : snapshot.resolveCandidates model with
  | mk canonical candidates =>
      rw [resolved] at resolves
      cases resolves with
      | direct served => exact resolveCandidates_of_served snapshot _ served
      | aliased notServed isAlias served =>
          exact resolveCandidates_of_served snapshot _ served
      | unknown notServed => exact resolved

end Resolution

section Load

variable {ε : Type} {decrypt : ε → Option String} {builds : Provider → Bool}

/-- What a map of changed values gives for a key. -/
theorem lookup_map_value
    {β γ : Type}
    (change : β → γ)
    (map : List (String × β))
    (key : String) :
    (map.map fun entry => (entry.1, change entry.2)).lookup key =
      (map.lookup key).map change := by
  induction map with
  | nil => rfl
  | cons entry entries inductionHypothesis =>
      rw [List.map_cons, List.lookup_cons, List.lookup_cons,
        inductionHypothesis]
      cases key == entry.1 <;> rfl

/-- What a map gives for a key after the active models of a row were set. -/
theorem lookup_foldl_models
    (models : List ProviderModelRow)
    (distinct : (models.map ProviderModelRow.modelId).Nodup)
    (model : String)
    (info : ProviderModelInfo) :
    (models.foldl (fun map row => OrderedMap.set map row.modelId row.info)
        []).lookup model = some info ↔
      ∃ row ∈ models, row.modelId = model ∧ row.info = info := by
  induction models using List.reverseRecOn with
  | nil => simp
  | append_singleton models last inductionHypothesis =>
      rw [List.map_append, List.nodup_append] at distinct
      rw [List.foldl_append, List.foldl_cons, List.foldl_nil,
        OrderedMap.lookup_set]
      simp only [List.mem_append, List.mem_singleton]
      split_ifs with isLast
      · -- the last row is the only one with this id
        constructor
        · rintro ⟨⟩
          exact ⟨last, .inr rfl, isLast.symm, rfl⟩
        · rintro ⟨row, isOld | rfl, sameId, rfl⟩
          · exact absurd (sameId.trans isLast)
              (distinct.2.2 _ (List.mem_map_of_mem isOld) _ (by simp))
          · rfl
      · rw [inductionHypothesis distinct.1]
        constructor
        · rintro ⟨row, isOld, same⟩
          exact ⟨row, .inl isOld, same⟩
        · rintro ⟨row, isOld | rfl, sameId, sameInfo⟩
          · exact ⟨row, isOld, sameId, sameInfo⟩
          · exact absurd sameId.symm isLast

/-- The models of a provider are the active ones of its row. -/
theorem getModel_toProvider
    {row : ProviderRow ε}
    (distinct : (row.models.map ProviderModelRow.modelId).Nodup)
    (apiKey model : String)
    (info : ProviderModelInfo) :
    (row.toProvider apiKey).config.getModel model = some info ↔
      ∃ modelRow ∈ row.models, modelRow.isActive = true ∧
        modelRow.modelId = model ∧ modelRow.info = info := by
  refine (lookup_foldl_models _
    (distinct.sublist (List.filter_sublist.map _)) model info).trans ?_
  simp only [List.mem_filter, and_assoc]

/-- A row that loads gives a provider of its own. -/
theorem eq_toProvider_of_loadRow
    {row : ProviderRow ε}
    {provider : Provider}
    (loads : loadRow decrypt builds row = some provider) :
    ∃ apiKey, provider = row.toProvider apiKey := by
  obtain ⟨apiKey, _, built⟩ := Option.bind_eq_some_iff.1 loads
  split_ifs at built
  exact ⟨apiKey, (Option.some.inj built).symm⟩

/-- What is kept of the elements that a partial function takes is a part of the
whole. -/
theorem map_filterMap_sublist
    {α β γ : Type}
    {take : α → Option β}
    {keyAfter : β → γ}
    {key : α → γ}
    (keeps : ∀ before after, take before = some after →
      keyAfter after = key before)
    (list : List α) :
    ((list.filterMap take).map keyAfter).Sublist (list.map key) := by
  induction list with
  | nil => exact List.Sublist.slnil
  | cons first rest inductionHypothesis =>
      cases taken : take first with
      | none =>
          rw [List.filterMap_cons_none taken]
          exact inductionHypothesis.cons _
      | some after =>
          rw [List.filterMap_cons_some taken, List.map_cons, List.map_cons,
            keeps first after taken]
          exact inductionHypothesis.cons_cons _

variable (table : ProviderTable ε)

/-- The loop registers the providers that load. -/
theorem foldl_tryRow :
    (table.rows.filter ProviderRow.isActive).foldl (tryRow decrypt builds) {} =
      (loaded decrypt builds table).foldl register {} := by
  rw [loaded, List.foldl_filterMap]
  apply congrFun
  apply congrFun
  apply congrArg
  funext snapshot row
  unfold tryRow
  cases loadRow decrypt builds row <;> rfl

/-- The models of a loaded provider are the keys of a map. -/
theorem nodup_models_of_loaded
    {provider : Provider}
    (isLoaded : provider ∈ loaded decrypt builds table) :
    (provider.config.models.map Prod.fst).Nodup := by
  obtain ⟨row, -, loads⟩ := List.mem_filterMap.1 isLoaded
  obtain ⟨apiKey, rfl⟩ := eq_toProvider_of_loadRow loads
  change ((List.foldl _ [] (row.models.filter ProviderModelRow.isActive)).map
    Prod.fst).Nodup
  induction row.models.filter ProviderModelRow.isActive
    using List.reverseRecOn with
  | nil => exact List.nodup_nil
  | append_singleton models last inductionHypothesis =>
      rw [List.foldl_append]
      exact OrderedMap.nodup_keys_set inductionHypothesis _ _

/-- Loaded providers have distinct ids. -/
theorem nodup_ids_loaded :
    ((loaded decrypt builds table).map
      fun provider => provider.config.id).Nodup := by
  refine table.distinctIds.sublist ((map_filterMap_sublist ?_ _).trans
    (List.filter_sublist.map ProviderRow.id))
  intro row provider loads
  obtain ⟨apiKey, rfl⟩ := eq_toProvider_of_loadRow loads
  rfl

/-- The candidates under a model are what the loaded providers are for it, by
priority. -/
theorem servedBy_load (model : String) :
    (load decrypt builds table).servedBy model =
      ((loaded decrypt builds table).filterMap fun provider =>
        provider.candidateFor model).mergeSort fun first second =>
          first.provider.priority ≤ second.provider.priority := by
  have served := servedBy_foldl_register (loaded decrypt builds table)
    (fun provider isLoaded => nodup_models_of_loaded table isLoaded) {} model
  rw [← foldl_tryRow] at served
  change _ = [] ++ _ at served
  rw [List.nil_append] at served
  rw [← served]
  have found := lookup_map_value
    (fun candidates : List ModelCandidate =>
      candidates.mergeSort fun first second =>
        first.provider.priority ≤ second.provider.priority)
    ((table.rows.filter ProviderRow.isActive).foldl
      (tryRow decrypt builds) {}).candidatesByModel model
  refine (congrArg (fun list => list.getD []) found).trans ?_
  unfold Snapshot.servedBy
  cases List.lookup model _ with
  | none => simp
  | some candidates => rfl

/-- A provider is a candidate for the models that it has. -/
theorem candidateFor_eq_some_iff
    {provider : Provider}
    {model : String}
    {candidate : ModelCandidate} :
    provider.candidateFor model = some candidate ↔
      candidate.provider = provider ∧ candidate.modelId = model ∧
        provider.config.getModel model = some candidate.model := by
  unfold Provider.candidateFor
  rw [Option.map_eq_some_iff]
  constructor
  · rintro ⟨info, found, rfl⟩
    exact ⟨rfl, rfl, found⟩
  · rintro ⟨rfl, rfl, found⟩
    exact ⟨candidate.model, found, rfl⟩

theorem mem_servedBy_load
    (model : String)
    (candidate : ModelCandidate) :
    candidate ∈ (load decrypt builds table).servedBy model ↔
      candidate.provider ∈ loaded decrypt builds table ∧
        candidate.modelId = model ∧
          candidate.provider.config.getModel model = some candidate.model := by
  rw [servedBy_load, List.mem_mergeSort, List.mem_filterMap]
  simp only [candidateFor_eq_some_iff]
  constructor
  · rintro ⟨provider, isLoaded, rfl, sameModel, found⟩
    exact ⟨isLoaded, sameModel, found⟩
  · rintro ⟨isLoaded, sameModel, found⟩
    exact ⟨candidate.provider, isLoaded, rfl, sameModel, found⟩

/-- The loaded providers are those of the active rows that load. -/
theorem mem_loaded (provider : Provider) :
    provider ∈ loaded decrypt builds table ↔
      ∃ row ∈ table.rows, row.isActive = true ∧
        loadRow decrypt builds row = some provider := by
  unfold loaded
  simp only [List.mem_filterMap, List.mem_filter, and_assoc]

/-- No provider is twice among the candidates for a model. -/
theorem nodup_ids_servedBy (model : String) :
    (((load decrypt builds table).servedBy model).map fun candidate =>
      candidate.provider.config.id).Nodup := by
  rw [servedBy_load]
  refine ((List.mergeSort_perm _ _).map _).nodup_iff.2
    ((nodup_ids_loaded table).sublist (map_filterMap_sublist ?_ _))
  intro provider candidate isCandidate
  rw [(candidateFor_eq_some_iff.1 isCandidate).1]

/-- The candidates for a model are in ascending priority. -/
theorem ascending_servedBy (model : String) :
    ((load decrypt builds table).servedBy model).Pairwise fun first second =>
      first.provider.priority ≤ second.provider.priority := by
  rw [servedBy_load]
  refine (List.pairwise_mergeSort ?_ ?_ _).imp of_decide_eq_true
  · intro first second third firstSecond secondThird
    exact decide_eq_true ((of_decide_eq_true firstSecond).trans
      (of_decide_eq_true secondThird))
  · intro first second
    rw [Bool.or_eq_true, decide_eq_true_eq, decide_eq_true_eq]
    exact Nat.le_total _ _

/-- The providers by id are those that the loop registers. -/
theorem providersById_load :
    (load decrypt builds table).providersById =
      ((loaded decrypt builds table).foldl register {}).providersById := by
  rw [← foldl_tryRow]
  rfl

/-- Every candidate is of a loaded provider. -/
theorem provider_mem_loaded
    {entry : String × List ModelCandidate}
    (isEntry : entry ∈ (load decrypt builds table).candidatesByModel)
    {candidate : ModelCandidate}
    (isCandidate : candidate ∈ entry.2) :
    candidate.provider ∈ loaded decrypt builds table := by
  obtain ⟨old, isOld, rfl⟩ := List.mem_map.1 isEntry
  rw [foldl_tryRow] at isOld
  exact mem_foldl_register _ isOld (List.mem_mergeSort.1 isCandidate)

/-- A row serves a model if it has an active row of that model. -/
def ProviderRow.ServesModel
    (row : ProviderRow ε)
    (model : String)
    (info : ProviderModelInfo) : Prop :=
  ∃ modelRow ∈ row.models, modelRow.isActive = true ∧
    modelRow.modelId = model ∧ modelRow.info = info

/-- The models of a loaded provider are those that its row serves. -/
theorem getModel_of_loadRow
    {row : ProviderRow ε}
    (isRow : row ∈ table.rows)
    {provider : Provider}
    (loads : loadRow decrypt builds row = some provider)
    (model : String)
    (info : ProviderModelInfo) :
    provider.config.getModel model = some info ↔ row.ServesModel model info := by
  obtain ⟨apiKey, rfl⟩ := eq_toProvider_of_loadRow loads
  exact getModel_toProvider (table.distinctModels row isRow) apiKey model info

end Load

section Routing

variable {ε : Type}

/-- What a resolution is to be for a requested model. -/
structure RoutesAsLoaded
    (decrypt : ε → Option String)
    (builds : Provider → Bool)
    (table : ProviderTable ε)
    (requestedModel : String)
    (snapshot : Snapshot)
    (resolution : ModelResolution) : Prop where
  /-- The candidates are the loadable providers that serve the canonical model,
  with the price row of that model. -/
  exact : ∀ candidate, candidate ∈ resolution.candidates ↔
    ∃ row ∈ table.rows, row.isActive = true ∧
      loadRow decrypt builds row = some candidate.provider ∧
      candidate.modelId = resolution.canonicalModel ∧
      row.ServesModel resolution.canonicalModel candidate.model
  /-- Each of them once. -/
  once : (resolution.candidates.map fun candidate =>
    candidate.provider.config.id).Nodup
  /-- In ascending priority. -/
  ascending : resolution.candidates.Pairwise fun first second =>
    first.provider.priority ≤ second.provider.priority
  /-- Each of them is registered by its id. -/
  registered : ∀ candidate ∈ resolution.candidates,
    snapshot.providersById.lookup candidate.provider.config.id =
      some candidate.provider
  /-- Each of them gives the price row of its candidate for the canonical
  model. -/
  priced : ∀ candidate ∈ resolution.candidates,
    candidate.provider.config.getModel resolution.canonicalModel =
      some candidate.model
  /-- A row that does not load is in neither map. -/
  noTrace : ∀ row ∈ table.rows, loadRow decrypt builds row = none →
    row.id ∉ snapshot.providersById.map Prod.fst ∧
      ∀ entry ∈ snapshot.candidatesByModel, ∀ candidate ∈ entry.2,
        candidate.provider.config.id ≠ row.id
  /-- A model that a loadable provider serves is not rewritten. -/
  direct : (∃ row ∈ table.rows, row.isActive = true ∧
      (loadRow decrypt builds row).isSome ∧
      ∃ info, row.ServesModel requestedModel info) →
    resolution.canonicalModel = requestedModel
  /-- The canonical model resolves to the same. -/
  again : snapshot.resolveCandidates resolution.canonicalModel = resolution

/-- A loaded provider that has the id of a row is the provider of that row. -/
theorem loadRow_ne_none_of_id
    {decrypt : ε → Option String}
    {builds : Provider → Bool}
    (table : ProviderTable ε)
    {row : ProviderRow ε}
    (isRow : row ∈ table.rows)
    {provider : Provider}
    (isLoaded : provider ∈ loaded decrypt builds table)
    (sameId : provider.config.id = row.id) :
    loadRow decrypt builds row ≠ none := by
  obtain ⟨other, isOther, -, loads⟩ := (mem_loaded table provider).1 isLoaded
  obtain ⟨apiKey, rfl⟩ := eq_toProvider_of_loadRow loads
  have same : other = row :=
    List.inj_on_of_nodup_map table.distinctIds isOther isRow sameId
  rw [← same, loads]
  exact Option.some_ne_none _

section Rows

variable {decrypt : ε → Option String} {builds : Provider → Bool}
  (table : ProviderTable ε)

/-- The candidates for a model are the loadable rows that serve it. -/
theorem mem_servedBy_load_iff_row
    (model : String)
    (candidate : ModelCandidate) :
    candidate ∈ (load decrypt builds table).servedBy model ↔
      ∃ row ∈ table.rows, row.isActive = true ∧
        loadRow decrypt builds row = some candidate.provider ∧
        candidate.modelId = model ∧ row.ServesModel model candidate.model := by
  rw [mem_servedBy_load, mem_loaded]
  constructor
  · rintro ⟨⟨row, isRow, isActive, loads⟩, sameModel, found⟩
    exact ⟨row, isRow, isActive, loads, sameModel,
      (getModel_of_loadRow table isRow loads _ _).1 found⟩
  · rintro ⟨row, isRow, isActive, loads, sameModel, serves⟩
    exact ⟨⟨row, isRow, isActive, loads⟩, sameModel,
      (getModel_of_loadRow table isRow loads _ _).2 serves⟩

/-- A model that a loadable row serves has a candidate. -/
theorem servedBy_load_ne_nil
    {row : ProviderRow ε}
    (isRow : row ∈ table.rows)
    (isActive : row.isActive = true)
    (loads : (loadRow decrypt builds row).isSome)
    {model : String}
    {info : ProviderModelInfo}
    (serves : row.ServesModel model info) :
    (load decrypt builds table).servedBy model ≠ [] := by
  obtain ⟨provider, isLoaded⟩ := Option.isSome_iff_exists.1 loads
  have isMember : { provider := provider, modelId := model, model := info } ∈
      (load decrypt builds table).servedBy model := by
    apply (mem_servedBy_load_iff_row table model _).2
    exact ⟨row, isRow, isActive, isLoaded, rfl, serves⟩
  exact List.ne_nil_of_mem isMember

/-- A row that does not load is in neither map. -/
theorem not_traced_of_loadRow
    {row : ProviderRow ε}
    (isRow : row ∈ table.rows)
    (fails : loadRow decrypt builds row = none) :
    row.id ∉ (load decrypt builds table).providersById.map Prod.fst ∧
      ∀ entry ∈ (load decrypt builds table).candidatesByModel,
        ∀ candidate ∈ entry.2, candidate.provider.config.id ≠ row.id := by
  constructor
  · rw [providersById_load, mem_ids_foldl_register]
    rintro ⟨provider, isLoaded, sameId⟩
    exact loadRow_ne_none_of_id table isRow isLoaded sameId fails
  · intro entry isEntry candidate isCandidate sameId
    exact loadRow_ne_none_of_id table isRow
      (provider_mem_loaded table isEntry isCandidate) sameId fails

end Rows

/-- After a load every requested model is routed and priced as the rows say. -/
theorem routesAsLoaded
    (decrypt : ε → Option String)
    (builds : Provider → Bool)
    (table : ProviderTable ε)
    (requestedModel : String) :
    RoutesAsLoaded decrypt builds table requestedModel
      (load decrypt builds table)
      ((load decrypt builds table).resolveCandidates requestedModel) := by
  have candidates := candidates_resolveCandidates (load decrypt builds table)
    requestedModel
  have again := resolveCandidates_canonicalModel (load decrypt builds table)
    requestedModel
  have direct := resolveCandidates_of_served (load decrypt builds table)
    requestedModel
  generalize (load decrypt builds table).resolveCandidates requestedModel =
    resolution at candidates again direct
  refine ⟨?_, ?_, ?_, ?_, ?_, ?_, ?_, again⟩
  · intro candidate
    rw [candidates]
    exact mem_servedBy_load_iff_row table _ candidate
  · rw [candidates]
    exact nodup_ids_servedBy table _
  · rw [candidates]
    exact ascending_servedBy table _
  · intro candidate isCandidate
    rw [candidates, mem_servedBy_load] at isCandidate
    rw [providersById_load]
    exact lookup_id_foldl_register _ (nodup_ids_loaded table) isCandidate.1
  · intro candidate isCandidate
    rw [candidates, mem_servedBy_load] at isCandidate
    exact isCandidate.2.2
  · exact fun row isRow fails => not_traced_of_loadRow table isRow fails
  · rintro ⟨row, isRow, isActive, loads, info, serves⟩
    rw [direct (servedBy_load_ne_nil table isRow isActive loads serves)]

end Routing

section Sample

variable {ε : Type}

/-- A row with one model. -/
def rowOfOneModel (id : String) (credential : ε) : ProviderRow ε where
  id := id
  name := id
  baseUrl := "https://api.openai.com"
  adapterType := .openai
  encryptedApiKey := credential
  weight := 1
  priority := 1
  isActive := true
  timeoutMs := 60000
  models :=
    [{ modelId := "gpt-4o"
       info :=
         { maxOutputTokens := none
           inputPricePer1k := some (1 / 400)
           outputPricePer1k := some (1 / 100) }
       isActive := true }]

/-- Two providers of the same model. -/
def twoProviders (first second : ε) : ProviderTable ε where
  rows := [rowOfOneModel "a" first, rowOfOneModel "b" second]
  distinctIds := by
    change ["a", "b"].Nodup
    decide
  distinctModels := by
    intro row isRow
    rcases List.mem_pair.1 isRow with rfl | rfl
    · exact List.nodup_singleton _
    · exact List.nodup_singleton _

/-- When the credential of the second provider does not decrypt, the model is routed
to the first one alone. -/
theorem routesAsLoaded_twoProviders :
    let snapshot := load id (fun _ => true) (twoProviders (some "sk-1") none)
    let resolution := snapshot.resolveCandidates "gpt-4o"
    resolution.canonicalModel = "gpt-4o" ∧
      (∃ candidate ∈ resolution.candidates, candidate.provider.apiKey = "sk-1") ∧
      (∀ candidate ∈ resolution.candidates, candidate.provider.config.id = "a") ∧
      "b" ∉ snapshot.providersById.map Prod.fst := by
  intro snapshot resolution
  let table := twoProviders (some "sk-1") none
  have routes := routesAsLoaded id (fun _ => true) table "gpt-4o"
  have first : rowOfOneModel "a" (some "sk-1") ∈ table.rows := List.mem_cons_self
  have second : rowOfOneModel "b" none ∈ table.rows :=
    List.mem_cons_of_mem _ List.mem_cons_self
  have serves (canonical : String) (isModel : canonical = "gpt-4o") :
      (rowOfOneModel "a" (some "sk-1")).ServesModel canonical _ :=
    ⟨_, List.mem_singleton_self _, rfl, isModel.symm, rfl⟩
  have isModel : resolution.canonicalModel = "gpt-4o" :=
    routes.direct ⟨_, first, rfl, rfl, _, serves _ rfl⟩
  refine ⟨isModel, ⟨⟨_, resolution.canonicalModel, _⟩, (routes.exact _).2
    ⟨_, first, rfl, rfl, rfl, serves _ isModel⟩, rfl⟩, ?_, (routes.noTrace _ second rfl).1⟩
  intro candidate isCandidate
  obtain ⟨row, isRow, _, loads, _⟩ := (routes.exact candidate).1 isCandidate
  rcases List.mem_pair.1 isRow with rfl | rfl
  · rw [← Option.some.inj loads]
    rfl
  · cases loads

end Sample

end Providers
end AiGateway
