import AiGateway.Database.LogPartitions
import AiGateway.Foundations.Pages

/-!
# Reading the request log through the admin API

`GET /logs` answers with a page of the rows that meet all filters, newest first.
A client reads one page after the other, and stops at the first one that is not
full, while requests are logged and old partitions dropped.

The main theorems are about every such walk: a row that is in the log all the while
is come upon, however many newer ones are added; and when the time filter keeps
new rows out, the pages together are the rows of the filter, each once, newest
first.
-/

namespace AiGateway
namespace Routes

open Database (LogColumns LogEvent LogRow LogStore RequestLogs)
open Foundations (AloneAt EndsShort IsPage NewestFirst Reads newerThan runFrom)

section Model

/-- A query that `querySchema` has let through; times are in milliseconds. -/
structure LogQuery where
  apiKeyId : Option String
  providerId : Option String
  modelId : Option String
  statusCode : Option Int
  cacheHit : Option Bool
  fromMs : Option Int
  toMs : Option Int
  limit : Nat
  offset : Nat
  limit_bounds : 1 ≤ limit ∧ limit ≤ 1000

/-- The parameters that are not given. -/
def LogQuery.default : LogQuery where
  apiKeyId := none
  providerId := none
  modelId := none
  statusCode := none
  cacheHit := none
  fromMs := none
  toMs := none
  limit := 50
  offset := 0
  limit_bounds := by decide

/-- The conditions of the WHERE clause; a column that is null meets none. -/
def LogQuery.conditions (query : LogQuery) : List (LogRow LogColumns → Bool) :=
  (query.apiKeyId.map fun id (row : LogRow LogColumns) =>
      decide (row.columns.apiKeyId = some id)).toList ++
    (query.providerId.map fun id (row : LogRow LogColumns) =>
      decide (row.columns.providerId = some id)).toList ++
    (query.modelId.map fun id (row : LogRow LogColumns) =>
      decide (row.columns.modelId = some id)).toList ++
    (query.statusCode.map fun code (row : LogRow LogColumns) =>
      decide (row.columns.statusCode = some code)).toList ++
    (query.cacheHit.map fun hit (row : LogRow LogColumns) =>
      decide (row.columns.cacheHit = hit)).toList ++
    (query.fromMs.map fun (time : Int) (row : LogRow LogColumns) =>
      decide (time * 1000 ≤ row.createdAt)).toList ++
    (query.toMs.map fun (time : Int) (row : LogRow LogColumns) =>
      decide (row.createdAt ≤ time * 1000)).toList

/-- `and(...conditions)`. -/
def LogQuery.selects (query : LogQuery) (row : LogRow LogColumns) : Bool :=
  query.conditions.all fun condition => condition row

/-- The rows that meet all conditions. -/
def LogQuery.selected (query : LogQuery) (logs : RequestLogs LogColumns) :
    List (LogRow LogColumns) :=
  logs.rows.filter query.selects

/-- The body of the answer. -/
structure LogReply where
  data : List (LogRow LogColumns)
  limit : Nat
  offset : Nat
  count : Nat

/-- An answer that the route may give; rows of one time may come in any order. -/
structure IsReply
    (logs : RequestLogs LogColumns)
    (query : LogQuery)
    (reply : LogReply) : Prop where
  data : IsPage LogRow.createdAt (query.selected logs) query.offset query.limit
    reply.data
  limit : reply.limit = query.limit
  offset : reply.offset = query.offset
  count : reply.count = reply.data.length

/-- A request of a client that reads the log: what happens before it, and its
answer. -/
structure Visit where
  meanwhile : List (LogEvent LogColumns)
  reply : LogReply

/-- A client asks for one page after the other. -/
def Walk (query : LogQuery) : LogStore LogColumns → Nat → List Visit → Prop
  | _, _, [] => True
  | store, offset, visit :: visits =>
      let later := runFrom LogStore.step store visit.meanwhile
      IsReply later.logs { query with offset := offset } visit.reply ∧
        Walk query later (offset + query.limit) visits

/-- The last page was not full. -/
def Finished (query : LogQuery) (visits : List Visit) : Prop :=
  ∃ visit, visits.getLast? = some visit ∧ visit.reply.count < query.limit

/-- The log when a client has made its requests. -/
def storeAfter (store : LogStore LogColumns) (visits : List Visit) :
    LogStore LogColumns :=
  runFrom LogStore.step store (visits.flatMap Visit.meanwhile)

/-- What the client's requests find, and their answers. -/
def found (query : LogQuery) : LogStore LogColumns → List Visit →
    List (List (LogRow LogColumns) × List (LogRow LogColumns))
  | _, [] => []
  | store, visit :: visits =>
      let later := runFrom LogStore.step store visit.meanwhile
      (query.selected later.logs, visit.reply.data) :: found query later visits

end Model

section Walks

variable {query : LogQuery} {store : LogStore LogColumns} {row : LogRow LogColumns}
  {visits : List Visit}

theorem mem_selected {logs : RequestLogs LogColumns} :
    row ∈ query.selected logs ↔ row ∈ logs.rows ∧ query.selects row = true :=
  List.mem_filter

theorem nodup_selected (sound : store.Sound) : (query.selected store.logs).Nodup :=
  (List.Nodup.of_map _ sound.wellPlaced.keys).filter _

theorem storeAfter_cons
    (store : LogStore LogColumns)
    (visit : Visit)
    (visits : List Visit) :
    storeAfter store (visit :: visits) =
      storeAfter (runFrom LogStore.step store visit.meanwhile) visits := by
  rw [storeAfter, List.flatMap_cons, Foundations.runFrom_append]
  rfl

/-- The pages of a walk are those of a reader. -/
theorem Walk.reads
    {offset : Nat}
    (walk : Walk query store offset visits) :
    Reads LogRow.createdAt query.limit offset (found query store visits) := by
  induction visits generalizing store offset with
  | nil => trivial
  | cons visit visits inductionHypothesis =>
      exact ⟨walk.1.data, inductionHypothesis walk.2⟩

theorem Walk.count_eq
    {offset : Nat}
    (walk : Walk query store offset visits) :
    ∀ visit ∈ visits, visit.reply.count = visit.reply.data.length := by
  induction visits generalizing store offset with
  | nil => exact nofun
  | cons visit visits inductionHypothesis =>
      intro other isOther
      rcases List.mem_cons.1 isOther with rfl | isOther
      · exact walk.1.count
      · exact inductionHypothesis walk.2 other isOther

theorem map_snd_found (query : LogQuery) (store : LogStore LogColumns) (visits : List Visit) :
    (found query store visits).map Prod.snd = visits.map fun visit => visit.reply.data := by
  induction visits generalizing store with
  | nil => rfl
  | cons visit visits inductionHypothesis =>
      rw [found, List.map_cons, List.map_cons, inductionHypothesis]

/-- A client that sees a page that is not full has read to the end. -/
theorem Walk.endsShort
    {offset : Nat}
    (walk : Walk query store offset visits)
    (finished : Finished query visits) :
    EndsShort query.limit (found query store visits) := by
  obtain ⟨visit, isLast, short⟩ := finished
  have pages := congrArg List.getLast? (map_snd_found query store visits)
  rw [List.getLast?_map, List.getLast?_map, isLast, Option.map_some,
    Option.map_eq_some_iff] at pages
  obtain ⟨pair, isPair, pageEq⟩ := pages
  refine ⟨pair, isPair, ?_⟩
  rw [pageEq, ← walk.count_eq visit (List.mem_of_getLast? isLast)]
  exact short

/-- What a walk finds of a row and of the newer ones that stay. -/
theorem found_of_stays
    (sound : store.Sound)
    (stays : ∀ other ∈ (storeAfter store visits).recorded,
      query.selects other = true → row.createdAt ≤ other.createdAt →
        (storeAfter store visits).Dropped other → store.Dropped other)
    (isRow : row ∈ query.selected store.logs)
    (alone : ∀ other ∈ (storeAfter store visits).recorded, query.selects other = true →
      other.createdAt = row.createdAt → other = row) :
    (∀ pair ∈ found query store visits, row ∈ pair.1) ∧
      (∀ pair ∈ found query store visits, AloneAt LogRow.createdAt pair.1 row) ∧
      ((query.selected store.logs, []) :: found query store visits).IsChain
        fun before after =>
          newerThan LogRow.createdAt before.1 row.createdAt ≤
            newerThan LogRow.createdAt after.1 row.createdAt := by
  induction visits generalizing store with
  | nil => exact ⟨nofun, nofun, List.isChain_singleton _⟩
  | cons visit visits inductionHypothesis =>
      rw [storeAfter_cons] at stays alone
      generalize laterEq : runFrom LogStore.step store visit.meanwhile = later
        at stays alone
      have soundLater : later.Sound := laterEq ▸
        Foundations.runFrom_induction LogStore.Sound
          (fun _ event _ sound => sound.step event) sound
      -- a row is dropped before the request or not at all
      have keeps : ∀ other ∈ query.selected store.logs,
          row.createdAt ≤ other.createdAt → other ∈ query.selected later.logs := by
        intro other isOther notOlder
        obtain ⟨isThere, isSelected⟩ := mem_selected.1 isOther
        refine mem_selected.2 ⟨?_, isSelected⟩
        rw [← laterEq]
        refine LogStore.Sound.mem_rows_run sound isThere fun dropped => ?_
        have isRecorded := ((sound.kept other).1 isThere).1
        rw [laterEq] at dropped
        refine stays other ?_ isSelected notOlder (LogStore.Dropped.run dropped)
        rw [← laterEq]
        exact LogStore.mem_recorded_run (LogStore.mem_recorded_run isRecorded)
      have isRowLater := keeps row isRow le_rfl
      have staysLater : ∀ other ∈ (storeAfter later visits).recorded,
          query.selects other = true → row.createdAt ≤ other.createdAt →
            (storeAfter later visits).Dropped other → later.Dropped other := by
        intro other isRecorded isSelected notOlder dropped
        have droppedBefore := stays other isRecorded isSelected notOlder dropped
        rw [← laterEq]
        exact LogStore.Dropped.run droppedBefore
      obtain ⟨inAll, aloneInAll, chain⟩ :=
        inductionHypothesis soundLater staysLater isRowLater alone
      have aloneLater : AloneAt LogRow.createdAt (query.selected later.logs) row := by
        intro other isOther
        obtain ⟨isThere, isSelected⟩ := mem_selected.1 isOther
        exact alone other
          (LogStore.mem_recorded_run ((soundLater.kept other).1 isThere).1) isSelected
      have noneLost : newerThan LogRow.createdAt (query.selected store.logs) row.createdAt ≤
          newerThan LogRow.createdAt (query.selected later.logs) row.createdAt :=
        Foundations.newerThan_le_of_subset (nodup_selected sound)
          fun other isOther newer => keeps other isOther newer.le
      unfold found
      rw [laterEq]
      refine ⟨?_, ?_, ?_⟩
      · exact List.forall_mem_cons.2 ⟨isRowLater, inAll⟩
      · exact List.forall_mem_cons.2 ⟨aloneLater, aloneInAll⟩
      · refine List.isChain_cons_cons.2 ⟨noneLost, ?_⟩
        rw [List.isChain_cons] at chain ⊢
        exact chain

/-- A client that reads to the end comes upon every row that is in the log from the
beginning, if no other row of the filter has its time and none that is as new is
dropped meanwhile. -/
theorem walk_comes_upon
    (start : Nat)
    (before : List (LogEvent LogColumns))
    (walk : Walk query (runFrom LogStore.step (LogStore.initial start) before) 0 visits)
    (finished : Finished query visits)
    (isRow : row ∈
      query.selected (runFrom LogStore.step (LogStore.initial start) before).logs)
    (alone : ∀ other ∈
        (storeAfter (runFrom LogStore.step (LogStore.initial start) before) visits).recorded,
      query.selects other = true → other.createdAt = row.createdAt → other = row)
    (stays : ∀ other ∈
        (storeAfter (runFrom LogStore.step (LogStore.initial start) before) visits).recorded,
      query.selects other = true → row.createdAt ≤ other.createdAt →
        (storeAfter (runFrom LogStore.step (LogStore.initial start) before)
          visits).Dropped other →
        (runFrom LogStore.step (LogStore.initial start) before).Dropped other) :
    ∃ visit ∈ visits, row ∈ visit.reply.data := by
  have sound := LogStore.sound_run start before
  generalize runFrom LogStore.step (LogStore.initial start) before = store at *
  obtain ⟨inAll, aloneInAll, chain⟩ := found_of_stays sound stays isRow alone
  obtain ⟨pair, isPair, onPage⟩ := walk.reads.mem_of_endsShort (walk.endsShort finished)
    inAll aloneInAll (List.isChain_cons.1 chain).2 fun _ _ => Nat.zero_le _
  have isPage := List.mem_map_of_mem (f := Prod.snd) isPair
  rw [map_snd_found, List.mem_map] at isPage
  obtain ⟨visit, isVisit, pageEq⟩ := isPage
  exact ⟨visit, isVisit, pageEq ▸ onPage⟩

/-- A request that was served with a status code. -/
def served (statusCode : Int) : LogColumns where
  apiKeyId := none
  providerId := none
  modelId := none
  promptTokens := none
  completionTokens := none
  totalTokens := none
  costUsd := none
  latencyMs := none
  statusCode := some statusCode
  cacheHit := false
  failoverCount := 0
  errorMessage := none

/-- The rows that were served with 200, one a page. -/
def oneByOne (toMs : Option Int) : LogQuery where
  apiKeyId := none
  providerId := none
  modelId := none
  statusCode := some 200
  cacheHit := none
  fromMs := none
  toMs := toMs
  limit := 1
  offset := 0
  limit_bounds := by decide

/-- Two requests that were served. -/
def twoServed : List (LogEvent LogColumns) :=
  [.tick 1000000, .recordRequest "a" (served 200), .tick 1000000,
    .recordRequest "b" (served 200), .tick 1000000]

/-- The pages of a client that is overtaken by a third request. -/
def overtaken : List Visit :=
  [⟨[], [⟨"b", 2000000, served 200⟩], 1, 0, 1⟩,
    ⟨[.recordRequest "c" (served 200)], [⟨"b", 2000000, served 200⟩], 1, 1, 1⟩,
    ⟨[], [⟨"a", 1000000, served 200⟩], 1, 2, 1⟩,
    ⟨[], [], 1, 3, 0⟩]

theorem walk_comes_upon_first :
    ∃ visit ∈ overtaken, ⟨"a", 1000000, served 200⟩ ∈ visit.reply.data := by
  let rowA : LogRow LogColumns := ⟨"a", 1000000, served 200⟩
  let rowB : LogRow LogColumns := ⟨"b", 2000000, served 200⟩
  let rowC : LogRow LogColumns := ⟨"c", 3000000, served 200⟩
  have recorded : (storeAfter (runFrom LogStore.step (LogStore.initial 0) twoServed)
      overtaken).recorded = [rowA, rowB, rowC] := by decide +kernel
  have walk : Walk (oneByOne none)
      (runFrom LogStore.step (LogStore.initial 0) twoServed) 0 overtaken :=
    ⟨⟨⟨[rowB, rowA], ⟨by decide +kernel, by decide +kernel⟩, rfl⟩, rfl, rfl, rfl⟩,
      ⟨⟨[rowC, rowB, rowA], ⟨by decide +kernel, by decide +kernel⟩, rfl⟩, rfl, rfl, rfl⟩,
      ⟨⟨[rowC, rowB, rowA], ⟨by decide +kernel, by decide +kernel⟩, rfl⟩, rfl, rfl, rfl⟩,
      ⟨⟨[rowC, rowB, rowA], ⟨by decide +kernel, by decide +kernel⟩, rfl⟩, rfl, rfl, rfl⟩,
      trivial⟩
  refine walk_comes_upon 0 twoServed walk ⟨⟨[], [], 1, 3, 0⟩, rfl, by decide⟩
    (by decide +kernel) ?_ ?_
  · rw [recorded]
    decide +kernel
  · have noPrunes : (storeAfter (runFrom LogStore.step (LogStore.initial 0) twoServed)
        overtaken).prunes = [] := by decide +kernel
    rintro other - - - ⟨instant, isPrune, -⟩
    rw [noPrunes] at isPrune
    cases isPrune

/-- With a time filter that has passed, every request finds the same rows. -/
theorem found_unchanged
    (visits : List Visit)
    {time : Int}
    (sound : store.Sound)
    (closed : query.toMs = some time)
    (isPast : time * 1000 < store.now)
    (stays : ∀ other ∈ (storeAfter store visits).recorded,
      query.selects other = true →
        (storeAfter store visits).Dropped other → store.Dropped other) :
    ∀ pair ∈ found query store visits, pair.1.Perm (query.selected store.logs) := by
  induction visits generalizing store with
  | nil => exact nofun
  | cons visit visits inductionHypothesis =>
      rw [storeAfter_cons] at stays
      generalize laterEq : runFrom LogStore.step store visit.meanwhile = later at stays
      have soundLater : later.Sound := laterEq ▸
        Foundations.runFrom_induction LogStore.Sound
          (fun _ event _ sound => sound.step event) sound
      have notEarlier : store.now ≤ later.now := laterEq ▸ LogStore.now_le_run
      have beforeTime (other : LogRow LogColumns) (isSelected : query.selects other = true) :
          other.createdAt < store.now := by
        have condition : (other.createdAt : Int) ≤ time * 1000 := by
          have all := List.all_eq_true.1 isSelected
            (fun row => decide ((row.createdAt : Int) ≤ time * 1000))
            (by simp [LogQuery.conditions, closed])
          simpa using all
        omega
      have same : (query.selected later.logs).Perm (query.selected store.logs) := by
        refine (List.perm_ext_iff_of_nodup (nodup_selected soundLater)
          (nodup_selected sound)).2 fun other => ?_
        rw [mem_selected, mem_selected]
        refine and_congr_left fun isSelected => ⟨fun isThere => ?_, fun isThere => ?_⟩
        · rw [← laterEq] at isThere
          exact LogStore.Sound.mem_rows_of_run sound isThere (beforeTime other isSelected)
        · rw [← laterEq]
          refine LogStore.Sound.mem_rows_run sound isThere fun dropped => ?_
          have isRecorded := ((sound.kept other).1 isThere).1
          rw [laterEq] at dropped
          refine stays other ?_ isSelected (LogStore.Dropped.run dropped)
          rw [← laterEq]
          exact LogStore.mem_recorded_run (LogStore.mem_recorded_run isRecorded)
      have rest := inductionHypothesis soundLater (isPast.trans_le (by omega))
        fun other isRecorded isSelected dropped => by
          have droppedBefore := stays other isRecorded isSelected dropped
          rw [← laterEq]
          exact LogStore.Dropped.run droppedBefore
      unfold found
      rw [laterEq]
      exact List.forall_mem_cons.2
        ⟨same, fun pair isPair => (rest pair isPair).trans same⟩

/-- When the time filter has passed, and no two rows of the filter have one time and
none is dropped meanwhile, the pages of a client that reads to the end are the rows
of the filter, newest first. -/
theorem walk_reads_selected
    {time : Int}
    (start : Nat)
    (before : List (LogEvent LogColumns))
    (walk : Walk query (runFrom LogStore.step (LogStore.initial start) before) 0 visits)
    (finished : Finished query visits)
    (closed : query.toMs = some time)
    (isPast : time * 1000 <
      (runFrom (ε := LogEvent LogColumns) LogStore.step (LogStore.initial start) before).now)
    (distinct : ∀ row ∈
        query.selected (runFrom LogStore.step (LogStore.initial start) before).logs,
      AloneAt LogRow.createdAt
        (query.selected (runFrom LogStore.step (LogStore.initial start) before).logs) row)
    (stays : ∀ other ∈
        (storeAfter (runFrom LogStore.step (LogStore.initial start) before) visits).recorded,
      query.selects other = true →
        (storeAfter (runFrom LogStore.step (LogStore.initial start) before)
          visits).Dropped other →
        (runFrom LogStore.step (LogStore.initial start) before).Dropped other) :
    NewestFirst LogRow.createdAt
      (query.selected (runFrom LogStore.step (LogStore.initial start) before).logs)
      (visits.flatMap fun visit => visit.reply.data) := by
  have sound := LogStore.sound_run start before
  generalize runFrom LogStore.step (LogStore.initial start) before = store at *
  have unchanged := found_unchanged visits sound closed isPast stays
  have reads := walk.reads
  have short := walk.endsShort finished
  obtain ⟨pair, isLast, -⟩ := short
  have isPair := List.mem_of_getLast? isLast
  obtain ⟨listing, newestFirst⟩ :
      ∃ listing, NewestFirst LogRow.createdAt (query.selected store.logs) listing := by
    obtain ⟨_, listing, newestFirst, -⟩ := reads.isPage pair isPair
    exact ⟨listing, newestFirst.perm.trans (unchanged pair isPair), newestFirst.sorted⟩
  have pagesEq := reads.flatten_eq (walk.endsShort finished) newestFirst distinct unchanged
  rw [map_snd_found, List.drop_zero, ← List.flatMap_def] at pagesEq
  rw [pagesEq]
  exact newestFirst

/-- The pages of a client that asks for the rows of the first two seconds and a half. -/
def notOvertaken : List Visit :=
  [⟨[], [⟨"b", 2000000, served 200⟩], 1, 0, 1⟩,
    ⟨[.recordRequest "c" (served 200)], [⟨"a", 1000000, served 200⟩], 1, 1, 1⟩,
    ⟨[], [], 1, 2, 0⟩]

theorem walk_reads_selected_first :
    NewestFirst LogRow.createdAt
      ((oneByOne (some 2500)).selected
        (runFrom LogStore.step (LogStore.initial 0) twoServed).logs)
      (notOvertaken.flatMap fun visit => visit.reply.data) := by
  let rowA : LogRow LogColumns := ⟨"a", 1000000, served 200⟩
  let rowB : LogRow LogColumns := ⟨"b", 2000000, served 200⟩
  have walk : Walk (oneByOne (some 2500))
      (runFrom LogStore.step (LogStore.initial 0) twoServed) 0 notOvertaken :=
    ⟨⟨⟨[rowB, rowA], ⟨by decide +kernel, by decide +kernel⟩, rfl⟩, rfl, rfl, rfl⟩,
      ⟨⟨[rowB, rowA], ⟨by decide +kernel, by decide +kernel⟩, rfl⟩, rfl, rfl, rfl⟩,
      ⟨⟨[rowB, rowA], ⟨by decide +kernel, by decide +kernel⟩, rfl⟩, rfl, rfl, rfl⟩,
      trivial⟩
  refine walk_reads_selected 0 twoServed walk ⟨⟨[], [], 1, 2, 0⟩, rfl, by decide⟩ rfl
    (by decide +kernel) ?_ ?_
  · unfold AloneAt
    decide +kernel
  · have noPrunes : (storeAfter (runFrom LogStore.step (LogStore.initial 0) twoServed)
        notOvertaken).prunes = [] := by decide +kernel
    rintro other - - ⟨instant, isPrune, -⟩
    rw [noPrunes] at isPrune
    cases isPrune

end Walks

end Routes
end AiGateway
