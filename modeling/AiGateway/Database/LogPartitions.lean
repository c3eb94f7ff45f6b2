import AiGateway.Foundations.Calendar
import AiGateway.Foundations.Runs
import Mathlib.Data.List.Flatten
import Mathlib.Data.List.Induction
import Mathlib.Data.List.Nodup

/-!
# The partitions of the request log

`request_logs` is partitioned by month. A job creates the partition of the next
month, another one drops the partition of six months ago, and the first migration
creates those of its month and the next one. A row of a month without a partition
goes to the default partition, and then PostgreSQL refuses to create that month's.

The main theorems are about every run of inserts and jobs: with a job in every
month the default partition stays empty; a month that has a row there keeps all its
rows there; and a row stays in the table until its partition is dropped.
-/

namespace AiGateway
namespace Database

open Foundations (runFrom runFrom_nil runFrom_concat Calendar.monthOf
  Calendar.monthStart)

section Model

/-- The month of an instant, which is counted in microseconds; months are counted
from January 1970, in UTC. -/
def monthAt (instant : Nat) : Nat :=
  Calendar.monthOf (instant / 86400000000)

/-- `make_date(year, month, 1)`. -/
def firstInstant (month : Nat) : Nat :=
  Calendar.monthStart month * 86400000000

/-- The `MM` of `to_char`. -/
def twoDigits (number : Nat) : String :=
  if number < 10 then "0" ++ toString number else toString number

/-- `to_char(month, 'YYYY_MM')`, or with another separator. -/
def toCharMonth (separator : String) (month : Nat) : String :=
  toString (1970 + month / 12) ++ separator ++ twoDigits (month % 12 + 1)

/-- `format('request_logs_%s', to_char(month, 'YYYY_MM'))`. -/
def partitionName (month : Nat) : String :=
  "request_logs_" ++ toCharMonth "_" month

/-- The columns of `request_logs` besides `id` and `created_at`; the cost is in
millionths of a dollar, as `numeric(10,6)` has it. -/
structure LogColumns where
  apiKeyId : Option String
  providerId : Option String
  modelId : Option String
  promptTokens : Option Int
  completionTokens : Option Int
  totalTokens : Option Int
  costUsd : Option Int
  latencyMs : Option Int
  statusCode : Option Int
  cacheHit : Bool
  failoverCount : Int
  errorMessage : Option String
  deriving DecidableEq

/-- A row of `request_logs`: what the database fills in, and the other columns. -/
structure LogRow (ρ : Type u) where
  id : String
  createdAt : Nat
  columns : ρ
  deriving DecidableEq

/-- The primary key. -/
def LogRow.key {ρ : Type u} (row : LogRow ρ) : String × Nat :=
  (row.id, row.createdAt)

/-- A partition for the values from `start` to, but without, `stop`. -/
structure Partition (ρ : Type u) where
  name : String
  start : Nat
  stop : Nat
  rows : List (LogRow ρ)

/-- Does an instant belong in a partition? -/
def Partition.holds {ρ : Type u} (partition : Partition ρ) (instant : Nat) : Bool :=
  partition.start ≤ instant && instant < partition.stop

/-- The partitions of `request_logs`, and `request_logs_default`. -/
structure RequestLogs (ρ : Type u) where
  partitions : List (Partition ρ)
  default : List (LogRow ρ)

/-- Why PostgreSQL refuses to create a partition. -/
inductive PartitionError
  /-- `partition would overlap partition`. -/
  | overlaps
  /-- `updated partition constraint for default partition would be violated by
  some row`. -/
  | defaultViolated
  deriving DecidableEq

namespace RequestLogs

variable {ρ : Type u} (logs : RequestLogs ρ)

/-- What a query of the table sees. -/
def rows : List (LogRow ρ) :=
  logs.partitions.flatMap Partition.rows ++ logs.default

/-- Put a row where its time belongs. -/
def route (row : LogRow ρ) : RequestLogs ρ :=
  if logs.partitions.any (·.holds row.createdAt) then
    { partitions := logs.partitions.map fun partition =>
        if partition.holds row.createdAt then
          { partition with rows := partition.rows ++ [row] }
        else partition
      default := logs.default }
  else
    { partitions := logs.partitions, default := logs.default ++ [row] }

/-- An insert, which the primary key may refuse. -/
def insert (row : LogRow ρ) : Option (RequestLogs ρ) :=
  if row.key ∈ logs.rows.map LogRow.key then none else some (logs.route row)

/-- `create_request_logs_partition(year, month)`. -/
def createPartition (month : Nat) : Except PartitionError (RequestLogs ρ) :=
  let name := partitionName month
  let start := firstInstant month
  let stop := firstInstant (month + 1)
  -- CREATE TABLE IF NOT EXISTS
  if logs.partitions.any fun partition => partition.name = name then
    .ok logs
  else if logs.partitions.any fun partition =>
      partition.start < stop && start < partition.stop then
    .error .overlaps
  else if logs.default.any fun row =>
      start ≤ row.createdAt && row.createdAt < stop then
    .error .defaultViolated
  else
    .ok
      { partitions := logs.partitions ++ [⟨name, start, stop, []⟩]
        default := logs.default }

/-- `DROP TABLE IF EXISTS`. -/
def dropPartition (month : Nat) : RequestLogs ρ where
  partitions := logs.partitions.filter fun partition =>
    partition.name ≠ partitionName month
  default := logs.default

/-- The table after the migration that creates it. -/
def migrated (now : Nat) : Except PartitionError (RequestLogs ρ) := do
  let logs ← createPartition { partitions := [], default := [] } (monthAt now)
  logs.createPartition (monthAt now + 1)

end RequestLogs

/-- What happens to the request log. -/
inductive LogEvent (ρ : Type u)
  | tick (microseconds : Nat)
  /-- `recordRequest(entry)`; its errors are caught. The row can be read from its
  `created_at` on, so an INSERT takes no time here. -/
  | recordRequest (id : String) (columns : ρ)
  /-- `create-partition.ts`, with the arguments of a month or without. -/
  | createPartition (argument : Option Nat)
  /-- The job `prune-logs`. -/
  | pruneLogs

/-- `targetYearMonth()`. -/
def targetYearMonth (argument : Option Nat) (now : Nat) : Nat :=
  argument.getD (monthAt now + 1)

/-- The request log, with a record of what has happened, which nothing reads. -/
structure LogStore (ρ : Type u) where
  now : Nat
  logs : RequestLogs ρ
  /-- The rows that an insert has stored. -/
  recorded : List (LogRow ρ)
  /-- When the job ran that creates the next month's partition. -/
  creations : List Nat
  /-- When the job `prune-logs` ran. -/
  prunes : List Nat

namespace LogStore

variable {ρ : Type u}

/-- The log when the migration has run. -/
def initial (now : Nat) : LogStore ρ where
  now := now
  logs := (RequestLogs.migrated now).toOption.getD { partitions := [], default := [] }
  recorded := []
  creations := []
  prunes := []

/-- One event. -/
def step (store : LogStore ρ) : LogEvent ρ → LogStore ρ
  | .tick microseconds => { store with now := store.now + microseconds }
  | .recordRequest id columns =>
      let row := ⟨id, store.now, columns⟩
      match store.logs.insert row with
      | none => store
      | some logs => { store with logs := logs, recorded := store.recorded ++ [row] }
  | .createPartition argument =>
      let creations :=
        if argument.isNone then store.creations ++ [store.now] else store.creations
      match store.logs.createPartition (targetYearMonth argument store.now) with
      | .error _ => { store with creations := creations }
      | .ok logs => { store with logs := logs, creations := creations }
  | .pruneLogs =>
      { store with
        logs :=
          if 6 ≤ monthAt store.now then
            store.logs.dropPartition (monthAt store.now - 6)
          else store.logs
        prunes := store.prunes ++ [store.now] }

/-- The job that creates partitions has run in every month that is over. -/
def JobsRan (start : Nat) (store : LogStore ρ) : Prop :=
  ∀ month, monthAt start ≤ month → month < monthAt store.now →
    ∃ instant ∈ store.creations, monthAt instant = month

/-- The partition of a row has been dropped. -/
def Dropped (store : LogStore ρ) (row : LogRow ρ) : Prop :=
  ∃ instant ∈ store.prunes, monthAt instant = monthAt row.createdAt + 6

end LogStore

end Model

section Months

theorem monthAt_mono : Monotone monthAt := fun _ _ order =>
  Foundations.Calendar.monthOf_mono (Nat.div_le_div_right order)

/-- A month has the instants from its first one to that of the next month. -/
theorem monthAt_eq_iff {instant month : Nat} :
    monthAt instant = month ↔
      firstInstant month ≤ instant ∧ instant < firstInstant (month + 1) := by
  rw [monthAt, Foundations.Calendar.monthOf_eq_iff, Foundations.Calendar.InMonth,
    firstInstant, firstInstant, Nat.le_div_iff_mul_le (by decide),
    Nat.div_lt_iff_lt_mul (by decide)]

theorem firstInstant_strictMono : StrictMono firstInstant := fun _ _ earlier =>
  Nat.mul_lt_mul_of_pos_right
    (Foundations.Calendar.monthStart_strictMono earlier) (by decide)

theorem length_twoDigits {number : Nat} (inYear : number < 12) :
    (twoDigits (number + 1)).toList.length = 2 := by
  revert number
  decide

theorem ofDigitChars_twoDigits (number : Nat) :
    Nat.ofDigitChars 10 (twoDigits number).toList 0 = number := by
  have ofToString : Nat.ofDigitChars 10 (toString number).toList 0 = number := by
    rw [Nat.toString_eq_repr, Nat.toList_repr, Nat.ofDigitChars_ten_toDigits]
  unfold twoDigits
  split
  · rw [String.toList_append]
    exact ofToString
  · exact ofToString

/-- Each month has its own text. -/
theorem toCharMonth_injective (separator : String) :
    Function.Injective (toCharMonth separator) := by
  intro month other same
  have sameList := congrArg String.toList same
  simp only [toCharMonth, String.toList_append] at sameList
  obtain ⟨sameYear, sameMonth⟩ := List.append_inj' sameList <| by
    rw [length_twoDigits (Nat.mod_lt month (by decide)),
      length_twoDigits (Nat.mod_lt other (by decide))]
  have yearEq := congrArg (Nat.ofDigitChars 10 · 0)
    (List.append_cancel_right sameYear)
  have monthEq := congrArg (Nat.ofDigitChars 10 · 0) sameMonth
  simp only [ofDigitChars_twoDigits, Nat.toString_eq_repr, Nat.toList_repr,
    Nat.ofDigitChars_ten_toDigits] at yearEq monthEq
  omega

/-- Each month has its own partition. -/
theorem partitionName_injective : Function.Injective partitionName := by
  intro month other same
  have sameList := congrArg String.toList same
  rw [partitionName, partitionName, String.toList_append, String.toList_append,
    List.append_cancel_left_eq, String.toList_inj] at sameList
  exact toCharMonth_injective "_" sameList

end Months

section Placement

variable {ρ : Type u} {logs : RequestLogs ρ} {month : Nat} {row : LogRow ρ}

/-- A partition is that of a month. -/
structure Partition.IsOf (month : Nat) (partition : Partition ρ) : Prop where
  name : partition.name = partitionName month
  start : partition.start = firstInstant month
  stop : partition.stop = firstInstant (month + 1)

theorem Partition.IsOf.holds_iff
    {partition : Partition ρ}
    (isOf : partition.IsOf month)
    (instant : Nat) :
    partition.holds instant = true ↔ monthAt instant = month := by
  rw [monthAt_eq_iff, Partition.holds, isOf.start, isOf.stop, Bool.and_eq_true,
    decide_eq_true_iff, decide_eq_true_iff]

theorem Partition.IsOf.unique
    {partition : Partition ρ}
    {other : Nat}
    (isOf : partition.IsOf month)
    (isOfOther : partition.IsOf other) : other = month :=
  partitionName_injective (isOfOther.name.symm.trans isOf.name)

namespace RequestLogs

/-- A month has a partition. -/
def HasMonth (logs : RequestLogs ρ) (month : Nat) : Prop :=
  ∃ partition ∈ logs.partitions, partition.IsOf month

/-- Each row is in the partition of its month if there is one. -/
structure WellPlaced (logs : RequestLogs ρ) : Prop where
  dated : ∀ partition ∈ logs.partitions, ∃ month, partition.IsOf month
  names : (logs.partitions.map Partition.name).Nodup
  placed : ∀ partition ∈ logs.partitions, ∀ row ∈ partition.rows,
    partition.holds row.createdAt = true
  undated : ∀ row ∈ logs.default, ¬ logs.HasMonth (monthAt row.createdAt)
  keys : (logs.rows.map LogRow.key).Nodup

theorem mem_rows {row : LogRow ρ} :
    row ∈ logs.rows ↔
      (∃ partition ∈ logs.partitions, row ∈ partition.rows) ∨ row ∈ logs.default := by
  rw [rows, List.mem_append, List.mem_flatMap]

namespace WellPlaced

/-- The partition with a month's name. -/
theorem any_name_iff (wellPlaced : logs.WellPlaced) :
    (logs.partitions.any fun partition => partition.name = partitionName month) =
        true ↔ logs.HasMonth month := by
  rw [List.any_eq_true]
  constructor
  · rintro ⟨partition, isPartition, sameName⟩
    obtain ⟨other, isOf⟩ := wellPlaced.dated partition isPartition
    obtain rfl : other = month :=
      partitionName_injective (isOf.name.symm.trans (of_decide_eq_true sameName))
    exact ⟨partition, isPartition, isOf⟩
  · rintro ⟨partition, isPartition, isOf⟩
    exact ⟨partition, isPartition, decide_eq_true isOf.name⟩

/-- The partition with a month's instants. -/
theorem any_holds_iff
    (wellPlaced : logs.WellPlaced)
    (instant : Nat) :
    logs.partitions.any (·.holds instant) = true ↔ logs.HasMonth (monthAt instant) := by
  rw [List.any_eq_true]
  constructor
  · rintro ⟨partition, isPartition, holds⟩
    obtain ⟨month, isOf⟩ := wellPlaced.dated partition isPartition
    rw [isOf.holds_iff] at holds
    exact ⟨partition, isPartition, holds ▸ isOf⟩
  · rintro ⟨partition, isPartition, isOf⟩
    exact ⟨partition, isPartition, (isOf.holds_iff instant).2 rfl⟩

/-- The bounds of a month overlap those of no other month's partition. -/
theorem not_any_overlaps
    (wellPlaced : logs.WellPlaced)
    (absent : ¬ logs.HasMonth month) :
    (logs.partitions.any fun partition =>
      partition.start < firstInstant (month + 1) &&
        firstInstant month < partition.stop) = false := by
  rw [List.any_eq_false]
  intro partition isPartition overlaps
  obtain ⟨other, isOf⟩ := wellPlaced.dated partition isPartition
  rw [isOf.start, isOf.stop, Bool.and_eq_true, decide_eq_true_iff, decide_eq_true_iff,
    firstInstant_strictMono.lt_iff_lt, firstInstant_strictMono.lt_iff_lt] at overlaps
  obtain rfl : other = month := by omega
  exact absent ⟨partition, isPartition, isOf⟩

/-- What creating a partition can come to. -/
theorem createPartition_cases
    (wellPlaced : logs.WellPlaced)
    (month : Nat) :
    (logs.HasMonth month ∧ logs.createPartition month = .ok logs) ∨
    (¬ logs.HasMonth month ∧
      (∃ row ∈ logs.default, monthAt row.createdAt = month) ∧
      logs.createPartition month = .error .defaultViolated) ∨
    (¬ logs.HasMonth month ∧
      (∀ row ∈ logs.default, monthAt row.createdAt ≠ month) ∧
      logs.createPartition month =
        .ok
          { partitions := logs.partitions ++
              [⟨partitionName month, firstInstant month, firstInstant (month + 1), []⟩]
            default := logs.default }) := by
  unfold createPartition
  by_cases present : logs.HasMonth month
  · rw [if_pos (wellPlaced.any_name_iff.2 present)]
    exact .inl ⟨present, rfl⟩
  rw [if_neg (fun found => present (wellPlaced.any_name_iff.1 found)),
    wellPlaced.not_any_overlaps present, if_neg Bool.false_ne_true]
  have inMonth (row : LogRow ρ) :
      (firstInstant month ≤ row.createdAt && row.createdAt < firstInstant (month + 1)) =
        true ↔ monthAt row.createdAt = month := by
    rw [monthAt_eq_iff, Bool.and_eq_true, decide_eq_true_iff, decide_eq_true_iff]
  split
  · next found =>
      obtain ⟨row, isRow, holds⟩ := List.any_eq_true.1 found
      exact .inr (.inl ⟨present, ⟨row, isRow, (inMonth row).1 holds⟩, rfl⟩)
  · next none =>
      refine .inr (.inr ⟨present, fun row isRow same => none ?_, rfl⟩)
      exact List.any_eq_true.2 ⟨row, isRow, (inMonth row).2 same⟩

end WellPlaced

/-- At most one partition holds an instant. -/
theorem WellPlaced.pairwise
    (wellPlaced : logs.WellPlaced)
    (instant : Nat) :
    logs.partitions.Pairwise fun partition other =>
      partition.holds instant = true → other.holds instant = false := by
  refine (List.pairwise_map.1 wellPlaced.names).imp_of_mem ?_
  intro partition other isPartition isOther differ holds
  obtain ⟨month, isOf⟩ := wellPlaced.dated partition isPartition
  obtain ⟨otherMonth, isOfOther⟩ := wellPlaced.dated other isOther
  rw [← Bool.not_eq_true]
  intro otherHolds
  rw [isOf.holds_iff] at holds
  rw [isOfOther.holds_iff] at otherHolds
  exact differ (by rw [isOf.name, isOfOther.name, ← holds, ← otherHolds])

/-- Adding a row to the one partition that holds its time. -/
theorem perm_addTo
    {partitions : List (Partition ρ)}
    (disjoint : partitions.Pairwise fun partition other =>
      partition.holds row.createdAt = true → other.holds row.createdAt = false)
    (found : partitions.any (·.holds row.createdAt) = true) :
    ((partitions.map fun partition =>
      if partition.holds row.createdAt then
        { partition with rows := partition.rows ++ [row] }
      else partition).flatMap Partition.rows).Perm
        (row :: partitions.flatMap Partition.rows) := by
  induction partitions with
  | nil => cases found
  | cons partition partitions inductionHypothesis =>
      obtain ⟨others, disjointRest⟩ := List.pairwise_cons.1 disjoint
      rw [List.map_cons, List.flatMap_cons, List.flatMap_cons]
      by_cases holds : partition.holds row.createdAt = true
      · have unchanged : (partitions.map fun partition =>
            if partition.holds row.createdAt then
              { partition with rows := partition.rows ++ [row] }
            else partition) = partitions := by
          refine (List.map_congr_left fun other isOther => ?_).trans (List.map_id _)
          rw [others other isOther holds, if_neg Bool.false_ne_true, id]
        rw [unchanged, if_pos holds, List.append_assoc]
        exact List.perm_middle
      · rw [if_neg holds]
        rw [List.any_cons, Bool.or_eq_true] at found
        have inRest := inductionHypothesis disjointRest (found.resolve_left holds)
        exact (inRest.append_left partition.rows).trans List.perm_middle

/-- A row that is put in its place is one more row. -/
theorem WellPlaced.rows_route
    (wellPlaced : logs.WellPlaced)
    (row : LogRow ρ) :
    (logs.route row).rows.Perm (row :: logs.rows) := by
  unfold route
  split
  · next found =>
      exact (perm_addTo (wellPlaced.pairwise row.createdAt) found).append_right
        logs.default
  · rw [rows, ← List.append_assoc]
    exact List.perm_append_singleton row logs.rows

/-- A partition that may have got a row is still that of its month. -/
theorem isOf_addTo_iff {partition : Partition ρ} :
    (if partition.holds row.createdAt then
      { partition with rows := partition.rows ++ [row] }
    else partition).IsOf month ↔ partition.IsOf month := by
  split
  · exact ⟨fun isOf => ⟨isOf.name, isOf.start, isOf.stop⟩,
      fun isOf => ⟨isOf.name, isOf.start, isOf.stop⟩⟩
  · exact Iff.rfl

theorem hasMonth_route : (logs.route row).HasMonth month ↔ logs.HasMonth month := by
  unfold route HasMonth
  split
  · constructor
    · rintro ⟨partition, isPartition, isOf⟩
      obtain ⟨old, isOld, rfl⟩ := List.mem_map.1 isPartition
      exact ⟨old, isOld, isOf_addTo_iff.1 isOf⟩
    · rintro ⟨partition, isPartition, isOf⟩
      exact ⟨_, List.mem_map_of_mem isPartition, isOf_addTo_iff.2 isOf⟩
  · exact Iff.rfl

theorem WellPlaced.mem_default_route
    (wellPlaced : logs.WellPlaced)
    {other : LogRow ρ} :
    other ∈ (logs.route row).default ↔
      other ∈ logs.default ∨
        other = row ∧ ¬ logs.HasMonth (monthAt row.createdAt) := by
  rw [← wellPlaced.any_holds_iff]
  unfold route
  split
  · next found => simp [found]
  · next none => simp [none]

theorem WellPlaced.route
    (wellPlaced : logs.WellPlaced)
    (fresh : row.key ∉ logs.rows.map LogRow.key) :
    (logs.route row).WellPlaced where
  dated := by
    unfold RequestLogs.route
    split
    · intro partition isPartition
      obtain ⟨old, isOld, rfl⟩ := List.mem_map.1 isPartition
      obtain ⟨month, isOf⟩ := wellPlaced.dated old isOld
      exact ⟨month, isOf_addTo_iff.2 isOf⟩
    · exact wellPlaced.dated
  names := by
    unfold RequestLogs.route
    split
    · rw [List.map_map]
      refine cast (congrArg List.Nodup (List.map_congr_left fun partition _ => ?_))
        wellPlaced.names
      rw [Function.comp_apply]
      split <;> rfl
    · exact wellPlaced.names
  placed := by
    unfold RequestLogs.route
    split
    · intro partition isPartition other isOther
      obtain ⟨old, isOld, rfl⟩ := List.mem_map.1 isPartition
      by_cases holds : old.holds row.createdAt = true
      · rw [if_pos holds] at isOther ⊢
        rcases List.mem_append.1 isOther with isOther | isNew
        · exact wellPlaced.placed old isOld other isOther
        · obtain rfl := List.mem_singleton.1 isNew
          exact holds
      · rw [if_neg holds] at isOther ⊢
        exact wellPlaced.placed old isOld other isOther
    · exact wellPlaced.placed
  undated := by
    intro other isOther
    rw [hasMonth_route]
    rcases wellPlaced.mem_default_route.1 isOther with isOld | ⟨rfl, absent⟩
    · exact wellPlaced.undated other isOld
    · exact absent
  keys := by
    rw [((wellPlaced.rows_route row).map LogRow.key).nodup_iff, List.map_cons,
      List.nodup_cons]
    exact ⟨fresh, wellPlaced.keys⟩

/-- A new partition, for a month that the default partition has no row of. -/
theorem WellPlaced.concat
    (wellPlaced : logs.WellPlaced)
    (absent : ¬ logs.HasMonth month)
    (free : ∀ row ∈ logs.default, monthAt row.createdAt ≠ month) :
    WellPlaced
      { partitions := logs.partitions ++
          [⟨partitionName month, firstInstant month, firstInstant (month + 1), []⟩]
        default := logs.default } where
  dated partition isPartition := by
    rcases List.mem_append.1 isPartition with isOld | isNew
    · exact wellPlaced.dated partition isOld
    · obtain rfl := List.mem_singleton.1 isNew
      exact ⟨month, rfl, rfl, rfl⟩
  names := by
    rw [List.map_append, List.map_singleton, List.nodup_append]
    refine ⟨wellPlaced.names, List.nodup_singleton _, ?_⟩
    intro name isName other isNew same
    obtain ⟨partition, isPartition, rfl⟩ := List.mem_map.1 isName
    rw [List.mem_singleton.1 isNew] at same
    exact absent (wellPlaced.any_name_iff.1
      (List.any_eq_true.2 ⟨partition, isPartition, decide_eq_true same⟩))
  placed partition isPartition row isRow := by
    rcases List.mem_append.1 isPartition with isOld | isNew
    · exact wellPlaced.placed partition isOld row isRow
    · obtain rfl := List.mem_singleton.1 isNew
      cases isRow
  undated row isRow := by
    rintro ⟨partition, isPartition, isOf⟩
    rcases List.mem_append.1 isPartition with isOld | isNew
    · exact wellPlaced.undated row isRow ⟨partition, isOld, isOf⟩
    · obtain rfl := List.mem_singleton.1 isNew
      exact free row isRow (partitionName_injective isOf.name).symm
  keys := by
    simpa [RequestLogs.rows] using wellPlaced.keys

theorem hasMonth_concat
    {other : Nat}
    (hasMonth : logs.HasMonth other) :
    HasMonth
      { partitions := logs.partitions ++
          [⟨partitionName month, firstInstant month, firstInstant (month + 1), []⟩]
        default := logs.default } other := by
  obtain ⟨partition, isPartition, isOf⟩ := hasMonth
  exact ⟨partition, List.mem_append_left _ isPartition, isOf⟩

/-- Dropping a month's partition takes that month's rows, those in the default
partition apart. -/
theorem WellPlaced.mem_rows_dropPartition
    (wellPlaced : logs.WellPlaced)
    (month : Nat) :
    row ∈ (logs.dropPartition month).rows ↔
      row ∈ logs.rows ∧ (row ∈ logs.default ∨ monthAt row.createdAt ≠ month) := by
  rw [mem_rows, mem_rows]
  have inPartition (partition : Partition ρ) (isPartition : partition ∈ logs.partitions)
      (isRow : row ∈ partition.rows) :
      partition.name ≠ partitionName month ↔ monthAt row.createdAt ≠ month := by
    obtain ⟨other, isOf⟩ := wellPlaced.dated partition isPartition
    have sameMonth : monthAt row.createdAt = other :=
      (isOf.holds_iff _).1 (wellPlaced.placed partition isPartition row isRow)
    rw [isOf.name, partitionName_injective.ne_iff, sameMonth]
  constructor
  · rintro (⟨partition, isPartition, isRow⟩ | isDefault)
    · rw [dropPartition, List.mem_filter, decide_eq_true_iff] at isPartition
      exact ⟨.inl ⟨partition, isPartition.1, isRow⟩,
        .inr ((inPartition partition isPartition.1 isRow).1 isPartition.2)⟩
    · exact ⟨.inr isDefault, .inl isDefault⟩
  · rintro ⟨⟨partition, isPartition, isRow⟩ | isDefault, kept⟩
    · rcases kept with isDefault | differs
      · exact .inr isDefault
      · refine .inl ⟨partition, ?_, isRow⟩
        rw [dropPartition, List.mem_filter, decide_eq_true_iff]
        exact ⟨isPartition, (inPartition partition isPartition isRow).2 differs⟩
    · exact .inr isDefault

theorem hasMonth_dropPartition
    {other : Nat}
    (hasMonth : logs.HasMonth other)
    (differs : other ≠ month) : (logs.dropPartition month).HasMonth other := by
  obtain ⟨partition, isPartition, isOf⟩ := hasMonth
  refine ⟨partition, List.mem_filter.2 ⟨isPartition, decide_eq_true ?_⟩, isOf⟩
  rw [isOf.name]
  exact partitionName_injective.ne differs

theorem WellPlaced.dropPartition
    (wellPlaced : logs.WellPlaced)
    (month : Nat) : (logs.dropPartition month).WellPlaced where
  dated partition isPartition :=
    wellPlaced.dated partition (List.mem_filter.1 isPartition).1
  names := wellPlaced.names.sublist (List.filter_sublist.map _)
  placed partition isPartition :=
    wellPlaced.placed partition (List.mem_filter.1 isPartition).1
  undated row isRow := by
    rintro ⟨partition, isPartition, isOf⟩
    exact wellPlaced.undated row isRow
      ⟨partition, (List.mem_filter.1 isPartition).1, isOf⟩
  keys := wellPlaced.keys.sublist
    ((List.Sublist.append_right (List.filter_sublist.flatMap _) _).map _)

end RequestLogs

end Placement

section Steps

open RequestLogs

variable {ρ : Type u} {store : LogStore ρ} {row : LogRow ρ}

namespace LogStore

/-- The log as any run leaves it. -/
structure Sound (store : LogStore ρ) : Prop where
  wellPlaced : store.logs.WellPlaced
  past : ∀ row ∈ store.recorded, row.createdAt ≤ store.now
  prunesPast : ∀ instant ∈ store.prunes, instant ≤ store.now
  kept : ∀ row, row ∈ store.logs.rows ↔
    row ∈ store.recorded ∧ (row ∈ store.logs.default ∨ ¬ store.Dropped row)
  /-- A month with a row in the default partition has all its rows there. -/
  together : ∀ row ∈ store.logs.default, ∀ other ∈ store.recorded,
    monthAt other.createdAt = monthAt row.createdAt → other ∈ store.logs.default

namespace Sound

/-- No partition of a month is dropped before six months have gone by. -/
theorem not_dropped
    (sound : store.Sound)
    (recent : monthAt store.now < monthAt row.createdAt + 6) :
    ¬ store.Dropped row := by
  rintro ⟨instant, isPrune, sixMonths⟩
  have notLater := monthAt_mono (sound.prunesPast instant isPrune)
  omega

theorem tick
    (sound : store.Sound)
    (microseconds : Nat) :
    Sound (store.step (.tick microseconds)) where
  wellPlaced := sound.wellPlaced
  past row isRow := Nat.le_add_right_of_le (sound.past row isRow)
  prunesPast instant isPrune := Nat.le_add_right_of_le (sound.prunesPast instant isPrune)
  kept := sound.kept
  together := sound.together

theorem recordRequest
    (sound : store.Sound)
    (id : String)
    (columns : ρ) :
    Sound (store.step (.recordRequest id columns)) := by
  unfold step RequestLogs.insert
  dsimp only
  by_cases taken : LogRow.key ⟨id, store.now, columns⟩ ∈ store.logs.rows.map LogRow.key
  · rw [if_pos taken]
    exact sound
  rw [if_neg taken]
  generalize rowEq : (⟨id, store.now, columns⟩ : LogRow ρ) = row at taken ⊢
  have isNow : row.createdAt = store.now := rowEq ▸ rfl
  have notDropped : ¬ store.Dropped row := sound.not_dropped (by rw [isNow]; omega)
  refine
    { wellPlaced := sound.wellPlaced.route taken
      past := ?_
      prunesPast := sound.prunesPast
      kept := ?_
      together := ?_ }
  · intro other isOther
    rcases List.mem_append.1 isOther with isOld | isNew
    · exact sound.past other isOld
    · obtain rfl := List.mem_singleton.1 isNew
      exact isNow.le
  · intro other
    dsimp only
    rw [(sound.wellPlaced.rows_route row).mem_iff, List.mem_cons, List.mem_append,
      List.mem_singleton, sound.wellPlaced.mem_default_route, sound.kept other]
    constructor
    · rintro (rfl | ⟨isOld, stays⟩)
      · exact ⟨.inr rfl, .inr notDropped⟩
      · exact ⟨.inl isOld, stays.imp_left .inl⟩
    · rintro ⟨isOld | rfl, stays⟩
      · by_cases isNew : other = row
        · exact .inl isNew
        · exact .inr ⟨isOld, stays.imp_left
            fun isDefault => isDefault.resolve_right fun new => isNew new.1⟩
      · exact .inl rfl
  · intro other isOther
    rcases sound.wellPlaced.mem_default_route.1 isOther with isOld | ⟨rfl, absent⟩
    · intro third isThird sameMonth
      rw [sound.wellPlaced.mem_default_route]
      rcases List.mem_append.1 isThird with isOldThird | isNew
      · exact .inl (sound.together other isOld third isOldThird sameMonth)
      · obtain rfl := List.mem_singleton.1 isNew
        refine .inr ⟨rfl, ?_⟩
        rw [sameMonth]
        exact sound.wellPlaced.undated other isOld
    · intro third isThird sameMonth
      rw [sound.wellPlaced.mem_default_route]
      rcases List.mem_append.1 isThird with isOldThird | isNew
      · -- its month is not over, so its partition would still be there
        have thirdKept := (sound.kept third).2 ⟨isOldThird, .inr <| sound.not_dropped <| by
          rw [sameMonth, isNow]
          omega⟩
        rcases mem_rows.1 thirdKept with ⟨partition, isPartition, isRow⟩ | isDefault
        · obtain ⟨month, isOf⟩ := sound.wellPlaced.dated partition isPartition
          have holds := sound.wellPlaced.placed partition isPartition third isRow
          rw [isOf.holds_iff, sameMonth] at holds
          exact absurd ⟨partition, isPartition, holds ▸ isOf⟩ absent
        · exact .inl isDefault
      · obtain rfl := List.mem_singleton.1 isNew
        exact .inr ⟨rfl, absent⟩

theorem createPartition
    (sound : store.Sound)
    (argument : Option Nat) :
    Sound (store.step (.createPartition argument)) := by
  unfold step
  dsimp only
  obtain ⟨-, created⟩ | ⟨-, -, created⟩ | ⟨absent, free, created⟩ :=
    sound.wellPlaced.createPartition_cases (targetYearMonth argument store.now)
  · rw [created]
    exact ⟨sound.wellPlaced, sound.past, sound.prunesPast, sound.kept, sound.together⟩
  · rw [created]
    exact ⟨sound.wellPlaced, sound.past, sound.prunesPast, sound.kept, sound.together⟩
  · rw [created]
    refine ⟨sound.wellPlaced.concat absent free, sound.past, sound.prunesPast,
      fun row => ?_, sound.together⟩
    have kept := sound.kept row
    simp only [mem_rows, List.mem_append, List.mem_singleton, or_and_right, exists_or,
      exists_eq_left, List.not_mem_nil, or_false] at kept ⊢
    exact kept

theorem pruneLogs (sound : store.Sound) : Sound (store.step .pruneLogs) := by
  unfold step
  have droppedIff (row : LogRow ρ) :
      Dropped { store with prunes := store.prunes ++ [store.now] } row ↔
        store.Dropped row ∨ monthAt store.now = monthAt row.createdAt + 6 := by
    simp [Dropped, or_and_right, exists_or]
  have prunesPast : ∀ instant ∈ store.prunes ++ [store.now], instant ≤ store.now := by
    intro instant isPrune
    rcases List.mem_append.1 isPrune with isOld | isNew
    · exact sound.prunesPast instant isOld
    · exact (List.mem_singleton.1 isNew).le
  by_cases sixMonths : 6 ≤ monthAt store.now
  · rw [if_pos sixMonths]
    refine ⟨sound.wellPlaced.dropPartition _, sound.past, prunesPast, fun row => ?_,
      sound.together⟩
    have now : monthAt row.createdAt ≠ monthAt store.now - 6 ↔
        ¬ monthAt store.now = monthAt row.createdAt + 6 := by omega
    have dropped := droppedIff row
    unfold Dropped at dropped ⊢
    rw [sound.wellPlaced.mem_rows_dropPartition, sound.kept row, dropped, not_or, now]
    unfold RequestLogs.dropPartition Dropped
    tauto
  · rw [if_neg sixMonths]
    refine ⟨sound.wellPlaced, sound.past, prunesPast, fun row => ?_, sound.together⟩
    have now : ¬ monthAt store.now = monthAt row.createdAt + 6 := by omega
    have dropped := droppedIff row
    unfold Dropped at dropped ⊢
    rw [sound.kept row, dropped, or_iff_left now]
    rfl

theorem step
    (sound : store.Sound)
    (event : LogEvent ρ) : Sound (store.step event) := by
  cases event with
  | tick microseconds => exact sound.tick microseconds
  | recordRequest id columns => exact sound.recordRequest id columns
  | createPartition argument => exact sound.createPartition argument
  | pruneLogs => exact sound.pruneLogs

end Sound

/-- The partition of a month, without rows. -/
def newPartition (month : Nat) : Partition ρ :=
  ⟨partitionName month, firstInstant month, firstInstant (month + 1), []⟩

theorem isOf_newPartition (month : Nat) : (newPartition (ρ := ρ) month).IsOf month :=
  ⟨rfl, rfl, rfl⟩

/-- The migration creates the partitions of its month and of the next one. -/
theorem logs_initial (now : Nat) :
    (initial (ρ := ρ) now).logs =
      { partitions := [newPartition (monthAt now), newPartition (monthAt now + 1)]
        default := [] } := by
  have otherName : partitionName (monthAt now) ≠ partitionName (monthAt now + 1) :=
    partitionName_injective.ne (Nat.ne_add_one _)
  simp [initial, RequestLogs.migrated, RequestLogs.createPartition, otherName, bind,
    Except.bind, newPartition, Except.toOption]

theorem sound_initial (now : Nat) : Sound (initial (ρ := ρ) now) := by
  have empty : WellPlaced (ρ := ρ) { partitions := [], default := [] } :=
    ⟨nofun, List.nodup_nil, nofun, nofun, List.nodup_nil⟩
  have first : WellPlaced (ρ := ρ)
      { partitions := [newPartition (monthAt now)], default := [] } :=
    empty.concat nofun nofun
  have absent : ¬ HasMonth (ρ := ρ)
      { partitions := [newPartition (monthAt now)], default := [] } (monthAt now + 1) := by
    rintro ⟨partition, isPartition, isOf⟩
    rw [List.mem_singleton.1 isPartition] at isOf
    exact absurd ((isOf_newPartition _).unique isOf) (Nat.succ_ne_self _)
  have noRows : (initial (ρ := ρ) now).logs.rows = [] := by
    rw [logs_initial]
    rfl
  refine ⟨?_, nofun, nofun, fun row => ?_, fun row isRow => ?_⟩
  · rw [logs_initial]
    exact first.concat absent nofun
  · rw [noRows]
    simp [initial]
  · rw [logs_initial] at isRow
    cases isRow

/-- Every run leaves a sound log. -/
theorem sound_run
    (start : Nat)
    (events : List (LogEvent ρ)) :
    Sound (runFrom step (initial start) events) :=
  Foundations.runFrom_induction Sound (fun _ event _ sound => sound.step event)
    (sound_initial start)

/-- What the jobs of the months so far have achieved. -/
structure Covered (start : Nat) (store : LogStore ρ) : Prop where
  default_eq : store.logs.default = []
  hasMonth : ∀ month, monthAt store.now ≤ month →
    (month ≤ monthAt start + 1 ∨
      ∃ instant ∈ store.creations, month = monthAt instant + 1) →
    store.logs.HasMonth month

/-- A step does not run the job of a month that was over before. -/
theorem JobsRan.of_step
    {start : Nat}
    {event : LogEvent ρ}
    (jobsRan : JobsRan start (store.step event)) : JobsRan start store := by
  intro month fromStart isOver
  cases event with
  | tick microseconds =>
      exact jobsRan month fromStart
        (isOver.trans_le (monthAt_mono (Nat.le_add_right _ _)))
  | recordRequest id columns =>
      unfold step at jobsRan
      dsimp only at jobsRan
      split at jobsRan <;> exact jobsRan month fromStart isOver
  | pruneLogs => exact jobsRan month fromStart isOver
  | createPartition argument =>
      have ran : ∃ instant ∈ if argument.isNone then store.creations ++ [store.now]
          else store.creations, monthAt instant = month := by
        unfold step at jobsRan
        dsimp only at jobsRan
        split at jobsRan <;> exact jobsRan month fromStart isOver
      obtain ⟨instant, isCreation, inMonth⟩ := ran
      split at isCreation
      · rcases List.mem_append.1 isCreation with isOld | isNew
        · exact ⟨instant, isOld, inMonth⟩
        · obtain rfl := List.mem_singleton.1 isNew
          exact absurd inMonth isOver.ne'
      · exact ⟨instant, isCreation, inMonth⟩

theorem covered_initial (now : Nat) : Covered now (initial (ρ := ρ) now) where
  default_eq := by rw [logs_initial]
  hasMonth month fromNow created := by
    rw [logs_initial]
    have notLater : month ≤ monthAt now + 1 := created.resolve_right (by simp [initial])
    have isNow : (initial (ρ := ρ) now).now = now := rfl
    rw [isNow] at fromNow
    by_cases isFirst : month = monthAt now
    · exact ⟨newPartition (monthAt now), List.mem_cons_self,
        isFirst ▸ isOf_newPartition _⟩
    · obtain rfl : month = monthAt now + 1 := by omega
      exact ⟨_, List.mem_cons_of_mem _ List.mem_cons_self, isOf_newPartition _⟩

/-- When the jobs so far have run, the current month has its partition. -/
theorem Covered.hasMonth_now
    {start : Nat}
    (covered : Covered start store)
    (jobsRan : JobsRan start store) : store.logs.HasMonth (monthAt store.now) := by
  refine covered.hasMonth _ le_rfl ?_
  by_cases isEarly : monthAt store.now ≤ monthAt start + 1
  · exact .inl isEarly
  · obtain ⟨instant, isCreation, inMonth⟩ :=
      jobsRan (monthAt store.now - 1) (by omega) (by omega)
    exact .inr ⟨instant, isCreation, by omega⟩

theorem Covered.step
    {start : Nat}
    (covered : Covered start store)
    (sound : store.Sound)
    (jobsRan : JobsRan start store)
    (event : LogEvent ρ) : Covered start (store.step event) := by
  cases event with
  | tick microseconds =>
      refine ⟨covered.default_eq, fun month fromLater => covered.hasMonth month ?_⟩
      exact (monthAt_mono (Nat.le_add_right _ _)).trans fromLater
  | recordRequest id columns =>
      unfold LogStore.step RequestLogs.insert
      dsimp only
      split
      · exact covered
      · next logs inserted =>
          split at inserted
          · cases inserted
          · cases inserted
            refine ⟨?_, fun month fromNow created =>
              hasMonth_route.2 (covered.hasMonth month fromNow created)⟩
            refine List.eq_nil_iff_forall_not_mem.2 fun row isRow => ?_
            rcases sound.wellPlaced.mem_default_route.1 isRow with isOld | ⟨-, absent⟩
            · rw [covered.default_eq] at isOld
              cases isOld
            · exact absent (covered.hasMonth_now jobsRan)
  | pruneLogs =>
      unfold LogStore.step
      dsimp only
      split
      · refine ⟨covered.default_eq, fun month fromNow created => ?_⟩
        refine hasMonth_dropPartition (covered.hasMonth month fromNow created) ?_
        dsimp only at fromNow
        omega
      · exact ⟨covered.default_eq, covered.hasMonth⟩
  | createPartition argument =>
      unfold LogStore.step
      dsimp only
      -- the default partition is empty, so the partition is there afterwards
      have outcome : ∃ logs, store.logs.createPartition (targetYearMonth argument
          store.now) = .ok logs ∧ logs.default = [] ∧
          logs.HasMonth (targetYearMonth argument store.now) ∧
          ∀ month, store.logs.HasMonth month → logs.HasMonth month := by
        obtain ⟨present, created⟩ | ⟨-, ⟨row, isRow, -⟩, -⟩ | ⟨-, -, created⟩ :=
          sound.wellPlaced.createPartition_cases (targetYearMonth argument store.now)
        · exact ⟨_, created, covered.default_eq, present, fun _ => id⟩
        · rw [covered.default_eq] at isRow
          cases isRow
        · exact ⟨_, created, covered.default_eq,
            ⟨_, List.mem_append_right _ List.mem_cons_self, isOf_newPartition _⟩,
            fun _ => hasMonth_concat⟩
      obtain ⟨logs, created, noRows, hasTarget, keeps⟩ := outcome
      rw [created]
      refine ⟨noRows, fun month fromNow wasCreated => ?_⟩
      rcases wasCreated with isEarly | ⟨instant, isCreation, next⟩
      · exact keeps month (covered.hasMonth month fromNow (.inl isEarly))
      · dsimp only at isCreation
        split at isCreation
        · next isNone =>
            rcases List.mem_append.1 isCreation with isOld | isNew
            · exact keeps month
                (covered.hasMonth month fromNow (.inr ⟨instant, isOld, next⟩))
            · obtain rfl := List.mem_singleton.1 isNew
              obtain rfl := Option.isNone_iff_eq_none.1 isNone
              rw [next]
              exact hasTarget
        · exact keeps month
            (covered.hasMonth month fromNow (.inr ⟨instant, isCreation, next⟩))

theorem covered_run
    (start : Nat)
    (events : List (LogEvent ρ))
    (jobsRan : JobsRan start (runFrom step (initial start) events)) :
    Covered start (runFrom step (initial start) events) := by
  induction events using List.reverseRecOn with
  | nil => exact covered_initial start
  | append_singleton events event inductionHypothesis =>
      rw [runFrom_concat] at jobsRan ⊢
      have ranBefore := jobsRan.of_step
      exact (inductionHypothesis ranBefore).step (sound_run start events) ranBefore event

/-- When the job has run in every month that is over, each row whose partition has
not been dropped is in the partition of its month. -/
theorem stored_by_month
    (start : Nat)
    (events : List (LogEvent ρ))
    (jobsRan : JobsRan start (runFrom step (initial start) events)) :
    let store := runFrom step (initial start) events
    store.logs.default = [] ∧
      ∀ row ∈ store.recorded, ¬ store.Dropped row →
        ∃ partition ∈ store.logs.partitions,
          partition.IsOf (monthAt row.createdAt) ∧ row ∈ partition.rows := by
  intro store
  have sound : store.Sound := sound_run start events
  have empty := (covered_run start events jobsRan).default_eq
  refine ⟨empty, fun row isRecorded notDropped => ?_⟩
  have isRow := (sound.kept row).2 ⟨isRecorded, .inr notDropped⟩
  rcases mem_rows.1 isRow with ⟨partition, isPartition, isRow⟩ | isDefault
  · obtain ⟨month, isOf⟩ := sound.wellPlaced.dated partition isPartition
    have holds := sound.wellPlaced.placed partition isPartition row isRow
    rw [isOf.holds_iff] at holds
    exact ⟨partition, isPartition, holds ▸ isOf, isRow⟩
  · rw [empty] at isDefault
    cases isDefault

/-- A log whose next partition is created in time. -/
theorem stored_by_month_february :
    let store := runFrom step (initial (ρ := Nat) 0)
      [.tick 2073600000000, .createPartition none, .tick 864000000000,
        .recordRequest "a" 200]
    store.logs.default = [] ∧
      ∀ row ∈ store.recorded, ¬ store.Dropped row →
        ∃ partition ∈ store.logs.partitions,
          partition.IsOf (monthAt row.createdAt) ∧ row ∈ partition.rows := by
  refine stored_by_month 0 _ fun month _ isOver => ⟨2073600000000, by decide +kernel, ?_⟩
  have now : monthAt (runFrom step (initial (ρ := Nat) 0)
      [.tick 2073600000000, .createPartition none, .tick 864000000000,
        .recordRequest "a" 200]).now = 1 := by decide +kernel
  rw [now] at isOver
  obtain rfl : month = 0 := by omega
  decide +kernel

/-- Nothing takes a row out of the default partition. -/
theorem mem_default_run
    {events : List (LogEvent ρ)}
    (isDefault : row ∈ store.logs.default) :
    row ∈ (runFrom step store events).logs.default := by
  refine Foundations.runFrom_induction
    (fun store : LogStore ρ => row ∈ store.logs.default)
    (fun store event _ isDefault => ?_) isDefault
  cases event with
  | tick microseconds => exact isDefault
  | recordRequest id columns =>
      unfold LogStore.step RequestLogs.insert RequestLogs.route
      dsimp only
      split_ifs
      · exact isDefault
      · exact isDefault
      · exact List.mem_append_left _ isDefault
  | createPartition argument =>
      unfold LogStore.step RequestLogs.createPartition
      dsimp only
      split_ifs <;> exact isDefault
  | pruneLogs =>
      unfold LogStore.step RequestLogs.dropPartition
      dsimp only
      split_ifs <;> exact isDefault

/-- Nothing is taken back that an insert has stored. -/
theorem mem_recorded_run
    {events : List (LogEvent ρ)}
    (isRecorded : row ∈ store.recorded) :
    row ∈ (runFrom step store events).recorded := by
  refine Foundations.runFrom_induction (fun store : LogStore ρ => row ∈ store.recorded)
    (fun store event _ isRecorded => ?_) isRecorded
  cases event with
  | tick microseconds => exact isRecorded
  | recordRequest id columns =>
      unfold LogStore.step
      dsimp only
      split
      · exact isRecorded
      · exact List.mem_append_left _ isRecorded
  | createPartition argument =>
      unfold LogStore.step
      dsimp only
      split <;> exact isRecorded
  | pruneLogs => exact isRecorded

/-- A row of the table was there before, or is being inserted. -/
theorem Sound.mem_rows_of_step
    (sound : store.Sound)
    {event : LogEvent ρ}
    (isRow : row ∈ (LogStore.step store event).logs.rows) :
    row ∈ store.logs.rows ∨ store.now = row.createdAt := by
  have soundLater := sound.step event
  cases event with
  | tick microseconds => exact .inl isRow
  | recordRequest id columns =>
      unfold LogStore.step RequestLogs.insert at isRow
      dsimp only at isRow
      split at isRow
      · exact .inl isRow
      · next logs inserted =>
          split at inserted
          · cases inserted
          · cases inserted
            rcases List.mem_cons.1 ((sound.wellPlaced.rows_route _).mem_iff.1 isRow) with
              rfl | isOld
            · exact .inr rfl
            · exact .inl isOld
  | createPartition argument =>
      refine .inl ((sound.kept row).2 ?_)
      have kept := (soundLater.kept row).1 isRow
      unfold LogStore.step RequestLogs.createPartition at kept
      dsimp only at kept
      split_ifs at kept <;> exact kept
  | pruneLogs =>
      unfold LogStore.step at isRow
      dsimp only at isRow
      split at isRow
      · exact .inl ((sound.wellPlaced.mem_rows_dropPartition _).1 isRow).1
      · exact .inl isRow

theorem now_le_step (store : LogStore ρ) (event : LogEvent ρ) :
    store.now ≤ (LogStore.step store event).now := by
  cases event with
  | tick microseconds => exact Nat.le_add_right _ _
  | recordRequest id columns =>
      unfold LogStore.step
      dsimp only
      split <;> exact le_rfl
  | createPartition argument =>
      unfold LogStore.step
      dsimp only
      split <;> exact le_rfl
  | pruneLogs => exact le_rfl

theorem now_le_run {events : List (LogEvent ρ)} :
    store.now ≤ (runFrom LogStore.step store events).now :=
  Foundations.runFrom_induction (fun later : LogStore ρ => store.now ≤ later.now)
    (fun later event _ notEarlier => notEarlier.trans (now_le_step later event)) le_rfl

/-- No row with a time of the past comes into the table. -/
theorem Sound.mem_rows_of_run
    {events : List (LogEvent ρ)}
    (sound : store.Sound)
    (isRow : row ∈ (runFrom LogStore.step store events).logs.rows)
    (isPast : row.createdAt < store.now) : row ∈ store.logs.rows := by
  have wasThere : (runFrom LogStore.step store events).Sound ∧
      store.now ≤ (runFrom LogStore.step store events).now ∧
      (row ∈ (runFrom LogStore.step store events).logs.rows → row ∈ store.logs.rows) := by
    refine Foundations.runFrom_induction
      (fun later : LogStore ρ => later.Sound ∧ store.now ≤ later.now ∧
        (row ∈ later.logs.rows → row ∈ store.logs.rows))
      (fun later event _ before => ?_) ⟨sound, le_rfl, id⟩
    obtain ⟨soundThen, notEarlier, fromBefore⟩ := before
    refine ⟨soundThen.step event, notEarlier.trans (now_le_step later event), ?_⟩
    intro isThere
    rcases soundThen.mem_rows_of_step isThere with wasThere | isNow
    · exact fromBefore wasThere
    · omega
  exact wasThere.2.2 isRow

/-- A partition that has been dropped stays so. -/
theorem Dropped.run
    {events : List (LogEvent ρ)}
    (dropped : store.Dropped row) : (runFrom step store events).Dropped row := by
  refine Foundations.runFrom_induction (fun store : LogStore ρ => store.Dropped row)
    (fun store event _ dropped => ?_) dropped
  obtain ⟨instant, isPrune, sixMonths⟩ := dropped
  refine ⟨instant, ?_, sixMonths⟩
  cases event with
  | tick microseconds => exact isPrune
  | recordRequest id columns =>
      unfold LogStore.step
      dsimp only
      split <;> exact isPrune
  | createPartition argument =>
      unfold LogStore.step
      dsimp only
      split <;> exact isPrune
  | pruneLogs => exact List.mem_append_left _ isPrune

/-- A row stays if its partition is not dropped meanwhile. -/
theorem Sound.mem_rows_run
    {events : List (LogEvent ρ)}
    (sound : store.Sound)
    (isRow : row ∈ store.logs.rows)
    (notMeanwhile : (runFrom LogStore.step store events).Dropped row → store.Dropped row) :
    row ∈ (runFrom LogStore.step store events).logs.rows := by
  have soundLater : Sound (runFrom LogStore.step store events) :=
    Foundations.runFrom_induction Sound (fun _ event _ sound => sound.step event) sound
  obtain ⟨isRecorded, stays⟩ := (sound.kept row).1 isRow
  exact (soundLater.kept row).2
    ⟨mem_recorded_run isRecorded, stays.imp mem_default_run (mt notMeanwhile)⟩

/-- Once a row of a month is in the default partition, all rows of that month are
there and stay there, and the month's partition can no longer be created. -/
theorem month_stuck
    (start : Nat)
    (before after : List (LogEvent ρ))
    (isDefault : row ∈ (runFrom step (initial start) before).logs.default) :
    let store := runFrom step (initial start) (before ++ after)
    store.logs.createPartition (monthAt row.createdAt) = .error .defaultViolated ∧
      ∀ other ∈ store.recorded, monthAt other.createdAt = monthAt row.createdAt →
        other ∈ store.logs.default := by
  intro store
  have sound : store.Sound := sound_run start (before ++ after)
  have stays : row ∈ store.logs.default := by
    have storeEq : store = runFrom step (runFrom step (initial start) before) after :=
      Foundations.runFrom_append step (initial start) before after
    rw [storeEq]
    exact mem_default_run isDefault
  have absent := sound.wellPlaced.undated row stays
  refine ⟨?_, sound.together row stays⟩
  obtain ⟨present, -⟩ | ⟨-, -, refused⟩ | ⟨-, free, -⟩ :=
    sound.wellPlaced.createPartition_cases (monthAt row.createdAt)
  · exact absurd present absent
  · exact refused
  · exact absurd rfl (free row stays)

/-- A month whose job did not run, and the operator's attempt to catch up. -/
theorem month_stuck_march :
    let store := runFrom step (initial (ρ := Nat) 0)
      ([.tick 6048000000000, .recordRequest "a" 200] ++
        [.createPartition (some 2), .recordRequest "b" 200])
    store.logs.createPartition 2 = .error .defaultViolated ∧
      ∀ other ∈ store.recorded, monthAt other.createdAt = 2 →
        other ∈ store.logs.default := by
  have isDefault : (⟨"a", 6048000000000, 200⟩ : LogRow Nat) ∈
      (runFrom step (initial (ρ := Nat) 0)
        [.tick 6048000000000, .recordRequest "a" 200]).logs.default := by
    have default_eq : (runFrom step (initial (ρ := Nat) 0)
        [.tick 6048000000000, .recordRequest "a" 200]).logs.default =
          [⟨"a", 6048000000000, 200⟩] := by decide +kernel
    rw [default_eq]
    exact List.mem_cons_self
  have isMarch : monthAt 6048000000000 = 2 := by decide +kernel
  have stuck := month_stuck 0 _ [.createPartition (some 2), .recordRequest "b" 200]
    isDefault
  rwa [isMarch] at stuck

theorem recorded_recordRequest
    {id : String}
    {columns : ρ}
    (fresh : ∀ row ∈ store.logs.rows, row.key ≠ (id, store.now)) :
    (store.step (.recordRequest id columns)).recorded =
      store.recorded ++ [⟨id, store.now, columns⟩] := by
  have notTaken : LogRow.key ⟨id, store.now, columns⟩ ∉
      store.logs.rows.map LogRow.key := by
    rw [List.mem_map]
    rintro ⟨other, isOther, sameKey⟩
    exact fresh other isOther sameKey
  unfold step RequestLogs.insert
  dsimp only
  rw [if_neg notTaken]

/-- A row is in the table, once, as long as its partition has not been dropped, which
happens in the sixth month after its own, or it is in the default partition; and
nothing that comes later takes a row out of the default partition. -/
theorem stays_until_dropped
    (start : Nat)
    (before after : List (LogEvent ρ))
    (id : String)
    (columns : ρ)
    (fresh : ∀ row ∈ (runFrom step (initial start) before).logs.rows,
      row.key ≠ (id, (runFrom step (initial start) before).now)) :
    let store := runFrom step (initial start)
      (before ++ .recordRequest id columns :: after)
    let row := ⟨id, (runFrom step (initial start) before).now, columns⟩
    (store.logs.rows.map LogRow.key).Nodup ∧
      (row ∈ store.logs.rows ↔ row ∈ store.logs.default ∨ ¬ store.Dropped row) ∧
      ∀ other ∈ store.logs.default, ∀ later,
        other ∈ (runFrom step store later).logs.default := by
  intro store row
  have sound : store.Sound := sound_run start _
  have isRecorded : row ∈ store.recorded := by
    have storeEq : store = runFrom step
        (step (runFrom step (initial start) before) (.recordRequest id columns)) after :=
      Foundations.runFrom_append step (initial start) before _
    rw [storeEq]
    refine mem_recorded_run ?_
    rw [recorded_recordRequest fresh]
    exact List.mem_append_right _ List.mem_cons_self
  refine ⟨sound.wellPlaced.keys, ?_, fun other isDefault later => ?_⟩
  · rw [sound.kept row, and_iff_right isRecorded]
  · exact mem_default_run isDefault

/-- A row that is pruned in July. -/
theorem stays_until_dropped_january :
    let store := runFrom step (initial 0)
      ([.tick 1000] ++ .recordRequest "a" 200 :: [.tick 15638400000000, .pruneLogs])
    let row : LogRow Nat := ⟨"a", 1000, 200⟩
    (store.logs.rows.map LogRow.key).Nodup ∧
      (row ∈ store.logs.rows ↔ row ∈ store.logs.default ∨ ¬ store.Dropped row) ∧
      ∀ other ∈ store.logs.default, ∀ later,
        other ∈ (runFrom step store later).logs.default := by
  refine stays_until_dropped 0 [.tick 1000] [.tick 15638400000000, .pruneLogs] "a" 200 ?_
  have noRows : (runFrom step (initial (ρ := Nat) 0) [.tick 1000]).logs.rows = [] := by
    decide +kernel
  rw [noRows]
  exact nofun

end LogStore

end Steps

end Database
end AiGateway
