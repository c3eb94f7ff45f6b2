import AiGateway.Database.LogPartitions
import AiGateway.Foundations.Grouping
import Mathlib

/-!
# What a key has used

The materialised view `monthly_usage` has the sums of each key and month, as of its
last refresh; the usage report of the admin API adds up all rows of a key.

The main theorems are about a refresh in any run of inserts, partition jobs and
earlier refreshes: the view has every key and month once, and for the months that
are kept its sums are over all requests ever recorded, each once; the report is
the sum of what the view has of the key.
-/

namespace AiGateway
namespace Database

open Foundations (groupsOf inGroup mem_groupsOf mem_inGroup runFrom runFrom_concat)

section Model

/-- `count(*)` and the sums; a column that is null does not count. -/
structure Totals where
  requests : Nat
  tokens : Int
  cost : Int
  deriving DecidableEq

def totals (rows : List (LogRow LogColumns)) : Totals where
  requests := rows.length
  tokens := (rows.map fun row => row.columns.totalTokens.getD 0).sum
  cost := (rows.map fun row => row.columns.costUsd.getD 0).sum

/-- A row of `monthly_usage`. -/
structure MonthlyUsage where
  apiKeyId : String
  yearMonth : String
  totals : Totals
  deriving DecidableEq

/-- `WHERE api_key_id IS NOT NULL GROUP BY api_key_id, date_trunc('month', created_at)`. -/
def usageGroup (row : LogRow LogColumns) : Option (String × Nat) :=
  row.columns.apiKeyId.map fun apiKeyId => (apiKeyId, monthAt row.createdAt)

/-- The query of `monthly_usage`. -/
def monthlyUsage (rows : List (LogRow LogColumns)) : List MonthlyUsage :=
  (groupsOf usageGroup rows).map fun group =>
    ⟨group.1, toCharMonth "-" group.2, totals (inGroup usageGroup rows group)⟩

/-- The body of `GET /keys/:id/usage`. -/
structure UsageReport where
  apiKeyId : String
  totals : Totals
  cacheHits : Nat
  monthToDateSpendUsd : ℚ

/-- `GET /keys/:id/usage`, with what `getMonthlySpendUsd` gives. -/
def usageReport
    (rows : List (LogRow LogColumns))
    (apiKeyId : String)
    (monthToDateSpendUsd : ℚ) : UsageReport :=
  let own := rows.filter fun row => row.columns.apiKeyId = some apiKeyId
  { apiKeyId := apiKeyId
    totals := totals own
    cacheHits := own.countP fun row => row.columns.cacheHit
    monthToDateSpendUsd := monthToDateSpendUsd }

/-- The request log and its view. -/
structure UsageStore where
  store : LogStore LogColumns
  view : List MonthlyUsage

inductive UsageEvent
  | log (event : LogEvent LogColumns)
  /-- `REFRESH MATERIALIZED VIEW`. -/
  | refresh

namespace UsageStore

/-- The migration refreshes the view of its empty table. -/
def initial (now : Nat) : UsageStore where
  store := LogStore.initial now
  view := monthlyUsage (LogStore.initial now).logs.rows

def step (usage : UsageStore) : UsageEvent → UsageStore
  | .log event => { store := usage.store.step event, view := usage.view }
  | .refresh => { store := usage.store, view := monthlyUsage usage.store.logs.rows }

end UsageStore

end Model

section Views

variable {rows : List (LogRow LogColumns)}

theorem mem_monthlyUsage {apiKeyId : String} {month : Nat} {sums : Totals} :
    ⟨apiKeyId, toCharMonth "-" month, sums⟩ ∈ monthlyUsage rows ↔
      (∃ row ∈ rows, usageGroup row = some (apiKeyId, month)) ∧
        sums = totals (inGroup usageGroup rows (apiKeyId, month)) := by
  rw [monthlyUsage, List.mem_map]
  constructor
  · rintro ⟨⟨key, other⟩, isGroup, same⟩
    obtain ⟨rfl, sameMonth, rfl⟩ := MonthlyUsage.mk.inj same
    obtain rfl := toCharMonth_injective "-" sameMonth
    exact ⟨mem_groupsOf.1 isGroup, rfl⟩
  · rintro ⟨hasRow, rfl⟩
    exact ⟨(apiKeyId, month), mem_groupsOf.2 hasRow, rfl⟩

/-- No key and month is twice in the view, as its unique index asks. -/
theorem nodup_monthlyUsage (rows : List (LogRow LogColumns)) :
    ((monthlyUsage rows).map fun usage => (usage.apiKeyId, usage.yearMonth)).Nodup := by
  rw [monthlyUsage, List.map_map]
  refine (List.nodup_dedup _).map fun group other same => ?_
  obtain ⟨sameKey, sameMonth⟩ := Prod.mk.inj same
  exact Prod.ext sameKey (toCharMonth_injective "-" sameMonth)

/-- The sums do not depend on the order of the rows. -/
theorem totals_eq_of_perm
    {others : List (LogRow LogColumns)}
    (perm : rows.Perm others) : totals rows = totals others := by
  rw [totals, totals, perm.length_eq, (perm.map _).sum_eq, (perm.map _).sum_eq]

/-- The rows of the view that are about a key add up to its report. -/
theorem sum_monthlyUsage
    {μ : Type u}
    [AddCommMonoid μ]
    (rows : List (LogRow LogColumns))
    (apiKeyId : String)
    (field : Totals → μ)
    (value : LogRow LogColumns → μ)
    (isSum : ∀ rows, field (totals rows) = (rows.map value).sum) :
    (((monthlyUsage rows).filter fun usage => usage.apiKeyId = apiKeyId).map fun usage =>
        field usage.totals).sum =
      field (totals (rows.filter fun row => row.columns.apiKeyId = some apiKeyId)) := by
  have ownRows : (fun row => (usageGroup row).any fun group => group.1 = apiKeyId) =
      fun row => decide (row.columns.apiKeyId = some apiKeyId) := by
    funext row
    cases keyEq : row.columns.apiKeyId <;> simp [usageGroup, keyEq]
  rw [isSum, ← ownRows, ← Foundations.sum_groups usageGroup, monthlyUsage,
    List.filter_map, List.map_map]
  refine congrArg List.sum (List.map_congr_left fun group _ => ?_)
  exact isSum (inGroup usageGroup rows group)

end Views

section Runs

/-- No row is recorded twice. -/
theorem LogStore.nodup_recorded_step
    {ρ : Type u}
    {store : LogStore ρ}
    (sound : store.Sound)
    (nodup : store.recorded.Nodup)
    (event : LogEvent ρ) : (store.step event).recorded.Nodup := by
  cases event with
  | tick microseconds => exact nodup
  | recordRequest id columns =>
      unfold LogStore.step RequestLogs.insert
      dsimp only
      split
      · exact nodup
      · next logs inserted =>
          split at inserted
          · cases inserted
          · next fresh =>
              refine List.nodup_append.2 ⟨nodup, List.nodup_singleton _, ?_⟩
              intro row isRow other isNew same
              obtain rfl := List.mem_singleton.1 isNew
              subst same
              -- recorded now, it would still be in the table
              have isThere := (sound.kept _).2 ⟨isRow, .inr (sound.not_dropped (by
                dsimp only
                omega))⟩
              exact fresh (List.mem_map_of_mem isThere)
  | createPartition argument =>
      unfold LogStore.step
      dsimp only
      split <;> exact nodup
  | pruneLogs => exact nodup

namespace UsageStore

variable {start : Nat} {events : List UsageEvent}

/-- The log of any run is sound, and records no row twice. -/
theorem sound_run (start : Nat) (events : List UsageEvent) :
    (runFrom step (initial start) events).store.Sound ∧
      (runFrom step (initial start) events).store.recorded.Nodup := by
  refine Foundations.runFrom_induction
    (fun usage : UsageStore => usage.store.Sound ∧ usage.store.recorded.Nodup)
    (fun usage event _ before => ?_) ⟨LogStore.sound_initial start, List.nodup_nil⟩
  obtain ⟨sound, nodup⟩ := before
  cases event with
  | log event =>
      exact ⟨sound.step event, LogStore.nodup_recorded_step sound nodup event⟩
  | refresh => exact ⟨sound, nodup⟩

/-- The rows of a month that is kept are all that were ever recorded. -/
theorem perm_inGroup
    {store : LogStore LogColumns}
    (sound : store.Sound)
    (nodup : store.recorded.Nodup)
    (apiKeyId : String)
    {month : Nat}
    (kept : monthAt store.now < month + 6) :
    (inGroup usageGroup store.logs.rows (apiKeyId, month)).Perm
      (inGroup usageGroup store.recorded (apiKeyId, month)) := by
  refine (List.perm_ext_iff_of_nodup
    (Foundations.nodup_inGroup (List.Nodup.of_map _ sound.wellPlaced.keys) _)
    (Foundations.nodup_inGroup nodup _)).2 fun row => ?_
  rw [mem_inGroup, mem_inGroup, sound.kept row]
  refine and_congr_left fun isOwn => and_iff_left (.inr (sound.not_dropped ?_))
  obtain ⟨key, -, groupEq⟩ := Option.map_eq_some_iff.1 isOwn
  rw [(Prod.mk.inj groupEq).2]
  exact kept

/-- A refreshed view has each key and month once, and in a month that is kept it
counts every request ever recorded of the key, once. -/
theorem view_counts_recorded (start : Nat) (events : List UsageEvent) :
    let usage := runFrom step (initial start) (events ++ [.refresh])
    (usage.view.map fun row => (row.apiKeyId, row.yearMonth)).Nodup ∧
      ∀ (apiKeyId : String) (month : Nat) (sums : Totals),
        monthAt usage.store.now < month + 6 →
          (⟨apiKeyId, toCharMonth "-" month, sums⟩ ∈ usage.view ↔
            (∃ row ∈ usage.store.recorded, usageGroup row = some (apiKeyId, month)) ∧
              sums = totals (inGroup usageGroup usage.store.recorded (apiKeyId, month))) := by
  intro usage
  obtain ⟨sound, nodup⟩ := sound_run start (events ++ [.refresh])
  have viewEq : usage.view = monthlyUsage usage.store.logs.rows := by
    have concat := runFrom_concat step (initial start) events .refresh
    change (runFrom step (initial start) (events ++ [.refresh])).view =
      monthlyUsage (runFrom step (initial start) (events ++ [.refresh])).store.logs.rows
    rw [concat]
    rfl
  refine ⟨viewEq ▸ nodup_monthlyUsage _, fun apiKeyId month sums kept => ?_⟩
  have perm := perm_inGroup sound nodup apiKeyId kept
  rw [viewEq, mem_monthlyUsage, totals_eq_of_perm perm]
  have sameRows :
      (∃ row ∈ usage.store.logs.rows, usageGroup row = some (apiKeyId, month)) ↔
        ∃ row ∈ usage.store.recorded, usageGroup row = some (apiKeyId, month) := by
    have inRows (rows : List (LogRow LogColumns)) :
        (∃ row ∈ rows, usageGroup row = some (apiKeyId, month)) ↔
          ∃ row, row ∈ inGroup usageGroup rows (apiKeyId, month) := by
      simp [mem_inGroup]
    rw [inRows, inRows]
    exact exists_congr fun row => perm.mem_iff
  rw [sameRows]

/-- The columns of a request of a key. -/
def usedBy (apiKeyId : String) (totalTokens : Int) : LogColumns where
  apiKeyId := some apiKeyId
  providerId := none
  modelId := none
  promptTokens := none
  completionTokens := none
  totalTokens := some totalTokens
  costUsd := none
  latencyMs := none
  statusCode := some 200
  cacheHit := false
  failoverCount := 0
  errorMessage := none

/-- Two requests of one key, with a refresh in between. -/
def twoRequests : List UsageEvent :=
  [.log (.recordRequest "a" (usedBy "k" 3)), .refresh, .log (.tick 1000000),
    .log (.recordRequest "b" (usedBy "k" 4))]

theorem view_counts_recorded_january :
    ⟨"k", toCharMonth "-" 0, ⟨2, 7, 0⟩⟩ ∈
      (runFrom step (initial 0) (twoRequests ++ [.refresh])).view := by
  have counts :=
    (view_counts_recorded 0 twoRequests).2 "k" 0 ⟨2, 7, 0⟩ (by decide +kernel)
  exact counts.2
    ⟨⟨⟨"a", 0, usedBy "k" 3⟩, by decide +kernel, by decide +kernel⟩, by decide +kernel⟩

/-- After a refresh the report of a key is the sum of its months in the view. -/
theorem report_eq_sum_view
    (start : Nat)
    (events : List UsageEvent)
    (apiKeyId : String)
    (spend : ℚ) :
    let usage := runFrom step (initial start) (events ++ [.refresh])
    let months := usage.view.filter fun row => row.apiKeyId = apiKeyId
    let report := usageReport usage.store.logs.rows apiKeyId spend
    (months.map fun row => row.totals.requests).sum = report.totals.requests ∧
      (months.map fun row => row.totals.tokens).sum = report.totals.tokens ∧
      (months.map fun row => row.totals.cost).sum = report.totals.cost := by
  intro usage months report
  have viewEq : usage.view = monthlyUsage usage.store.logs.rows := by
    have concat := runFrom_concat step (initial start) events .refresh
    change (runFrom step (initial start) (events ++ [.refresh])).view =
      monthlyUsage (runFrom step (initial start) (events ++ [.refresh])).store.logs.rows
    rw [concat]
    rfl
  have monthsEq : months = (monthlyUsage usage.store.logs.rows).filter fun row =>
      row.apiKeyId = apiKeyId := by rw [← viewEq]
  rw [monthsEq]
  refine ⟨?_, ?_, ?_⟩
  · exact sum_monthlyUsage _ apiKeyId Totals.requests (fun _ => 1)
      fun rows => by simp [totals]
  · exact sum_monthlyUsage _ apiKeyId Totals.tokens
      (fun row => row.columns.totalTokens.getD 0) fun _ => rfl
  · exact sum_monthlyUsage _ apiKeyId Totals.cost
      (fun row => row.columns.costUsd.getD 0) fun _ => rfl

end UsageStore

end Runs

end Database
end AiGateway
