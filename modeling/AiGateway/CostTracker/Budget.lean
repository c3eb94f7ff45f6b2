import AiGateway.CostTracker.Spend
import AiGateway.Foundations.Runs
import Mathlib.Data.List.Count
import Mathlib.Data.List.Infix
import Mathlib.Data.List.Induction

/-!
# The budget of a key

A request reads the spend counter before its provider is called and is charged
after the answer. Both take the name of the month when they are called and reach
Redis later, so any number of other requests come between, and the month may end.
The main theorem bounds what a month is charged beyond the budget, and says that a
month that is over the budget stays so.
-/

namespace AiGateway
namespace CostTracker

open Foundations

section Model

/-- What a request does next. -/
inductive RequestPhase
  /-- `isOverBudget` reads the counter of the month in which it was called. -/
  | checking (month : Month)
  /-- The request was admitted, and a provider works on it. -/
  | calling
  /-- `addSpend` increments the counter of the month in which it was called. -/
  | charging (month : Month) (costUsd : ℚ)
  /-- `addSpend` renews the time to live of the counter. -/
  | expiring (month : Month)
  | done
  deriving DecidableEq

/-- The requests of one key, with its counters. -/
structure Ledger where
  nowMs : Nat := 0
  counters : Counters := fun _ => none
  requests : List RequestPhase := []

/-- What happens next. -/
inductive Event
  | elapse (ms : Nat)
  /-- A new request calls `isOverBudget`. -/
  | check
  /-- The counter is read for a request. -/
  | readSpend (request : Nat)
  /-- A request calls `addSpend`. -/
  | addSpend (request : Nat) (costUsd : ℚ)
  | increment (request : Nat)
  | expire (request : Nat)
  /-- A request fails before it is charged. -/
  | abandon (request : Nat)
  deriving DecidableEq

namespace Ledger

variable (budget : ℚ) (ledger : Ledger)

/-- What the counter of a month reads. -/
def spend (month : Month) : ℚ :=
  getMonthlySpendUsd ledger.nowMs ledger.counters month

/-- What `isOverBudget` answers for a month. -/
def overBudget (month : Month) : Bool :=
  isOverBudget (some budget) (ledger.spend month)

/-- A request goes on. -/
def goOn (request : Nat) (phase : RequestPhase) : Ledger :=
  { ledger with requests := ledger.requests.set request phase }

/-- Write the counter of a month. -/
def write (month : Month) (key : Key ℚ) : Ledger :=
  { ledger with counters := Function.update ledger.counters month key }

/-- One event. -/
def step : Event → Ledger
  | .elapse ms => { ledger with nowMs := ledger.nowMs + ms }
  | .check =>
      { ledger with
        requests := ledger.requests ++ [.checking (yearMonth ledger.nowMs)] }
  | .readSpend request =>
      match ledger.requests[request]? with
      | some (.checking month) =>
          ledger.goOn request
            (if ledger.overBudget budget month then .done else .calling)
      | _ => ledger
  | .addSpend request costUsd =>
      match ledger.requests[request]? with
      | some .calling =>
          ledger.goOn request
            (if costUsd ≤ 0 then .done
            else .charging (yearMonth ledger.nowMs) costUsd)
      | _ => ledger
  | .increment request =>
      match ledger.requests[request]? with
      | some (.charging month costUsd) =>
          (ledger.write month
            (incrByFloat ledger.nowMs costUsd (ledger.counters month))).goOn
              request (.expiring month)
      | _ => ledger
  | .expire request =>
      match ledger.requests[request]? with
      | some (.expiring month) =>
          (ledger.write month
            ((ledger.counters month).pexpire ledger.nowMs
              (spendTtlSeconds * 1000))).goOn request .done
      | _ => ledger
  | .abandon request =>
      match ledger.requests[request]? with
      | some .calling => ledger.goOn request .done
      | _ => ledger

/-- The number of requests in progress. -/
def inProgress : Nat := ledger.requests.countP (· ≠ .done)

end Ledger

end Model

section Steps

variable (budget : ℚ) (ledger : Ledger)

/-- What one event can do. -/
inductive Change : Event → Ledger → Prop
  | nothing (event : Event) : Change event ledger
  | elapse (ms : Nat) :
      Change (.elapse ms) { ledger with nowMs := ledger.nowMs + ms }
  | check :
      Change .check
        { ledger with
          requests := ledger.requests ++ [.checking (yearMonth ledger.nowMs)] }
  | admitted
      {event : Event}
      {request : Nat}
      {month : Month}
      (found : ledger.requests[request]? = some (.checking month))
      (notOver : ledger.spend month < budget) :
      Change event (ledger.goOn request .calling)
  /-- A request is rejected, or it ends without a charge. -/
  | finished
      {event : Event}
      {request : Nat}
      {old : RequestPhase}
      (found : ledger.requests[request]? = some old) :
      Change event (ledger.goOn request .done)
  | charged
      {request : Nat}
      {costUsd : ℚ}
      (found : ledger.requests[request]? = some .calling) :
      Change (.addSpend request costUsd)
        (ledger.goOn request (.charging (yearMonth ledger.nowMs) costUsd))
  | incremented
      {event : Event}
      {request : Nat}
      {month : Month}
      {costUsd : ℚ}
      (found : ledger.requests[request]? = some (.charging month costUsd)) :
      Change event
        ((ledger.write month
          (incrByFloat ledger.nowMs costUsd (ledger.counters month))).goOn request
            (.expiring month))
  | expired
      {event : Event}
      {request : Nat}
      {month : Month}
      (found : ledger.requests[request]? = some (.expiring month)) :
      Change event
        ((ledger.write month
          ((ledger.counters month).pexpire ledger.nowMs
            (spendTtlSeconds * 1000))).goOn request .done)

theorem change_step (event : Event) :
    Change budget ledger event (ledger.step budget event) := by
  cases event with
  | elapse ms => exact .elapse ms
  | check => exact .check
  | readSpend request =>
      rw [Ledger.step]
      split
      · rename_i month found
        cases isOver : ledger.overBudget budget month with
        | false => exact .admitted found (not_le.1 (of_decide_eq_false isOver))
        | true => exact .finished found
      · exact .nothing _
  | addSpend request costUsd =>
      rw [Ledger.step]
      split
      · rename_i found
        split_ifs
        · exact .finished found
        · exact .charged found
      · exact .nothing _
  | increment request =>
      rw [Ledger.step]
      split
      · rename_i found
        exact .incremented found
      · exact .nothing _
  | expire request =>
      rw [Ledger.step]
      split
      · rename_i found
        exact .expired found
      · exact .nothing _
  | abandon request =>
      rw [Ledger.step]
      split
      · rename_i found
        exact .finished found
      · exact .nothing _

end Steps

section Invariants

variable {budget maxCost : ℚ} {ledger next : Ledger} {event : Event}

/-- The costs of an event lie between nothing and a bound. -/
def CostsAtMost (maxCost : ℚ) : Event → Prop
  | .addSpend _ costUsd => 0 ≤ costUsd ∧ costUsd ≤ maxCost
  | _ => True

/-- A charge is for a month that has begun, and within the bound. -/
def SoundPhase (nowMs : Nat) (maxCost : ℚ) : RequestPhase → Prop
  | .charging month costUsd =>
      Started month nowMs ∧ 0 ≤ costUsd ∧ costUsd ≤ maxCost
  | .expiring month => Started month nowMs
  | _ => True

theorem SoundPhase.later
    {nowMs later : Nat}
    {phase : RequestPhase}
    (sound : SoundPhase nowMs maxCost phase)
    (order : nowMs ≤ later) : SoundPhase later maxCost phase := by
  cases phase with
  | charging month costUsd => exact ⟨sound.1.later order, sound.2⟩
  | expiring month => exact Started.later sound order
  | checking month => trivial
  | calling => trivial
  | done => trivial

/-- The counters are written by charges only. -/
structure Sound (maxCost : ℚ) (ledger : Ledger) : Prop where
  counters : ∀ month, SoundCounter ledger.nowMs month (ledger.counters month)
  requests : ∀ phase ∈ ledger.requests, SoundPhase ledger.nowMs maxCost phase

theorem sound_start (nowMs : Nat) : Sound maxCost { nowMs := nowMs } where
  counters _ := soundCounter_none
  requests := nofun

theorem Sound.phase
    (sound : Sound maxCost ledger)
    {request : Nat}
    {phase : RequestPhase}
    (found : ledger.requests[request]? = some phase) :
    SoundPhase ledger.nowMs maxCost phase :=
  sound.requests phase (List.mem_of_getElem? found)

theorem Sound.goOn
    (sound : Sound maxCost ledger)
    (request : Nat)
    {phase : RequestPhase}
    (soundPhase : SoundPhase ledger.nowMs maxCost phase) :
    Sound maxCost (ledger.goOn request phase) where
  counters := sound.counters
  requests := by
    intro other isOther
    rcases List.mem_or_eq_of_mem_set isOther with isOld | rfl
    · exact sound.requests other isOld
    · exact soundPhase

theorem Sound.write
    (sound : Sound maxCost ledger)
    {month : Month}
    {key : Key ℚ}
    (soundKey : SoundCounter ledger.nowMs month key) :
    Sound maxCost (ledger.write month key) where
  counters := by
    intro other
    change SoundCounter _ _ (Function.update ledger.counters month key other)
    rw [Function.update_apply]
    split_ifs with same
    · rwa [same]
    · exact sound.counters other
  requests := sound.requests

theorem Sound.change
    (sound : Sound maxCost ledger)
    (change : Change budget ledger event next)
    (costs : CostsAtMost maxCost event) : Sound maxCost next := by
  cases change with
  | nothing => exact sound
  | elapse ms =>
      have order : ledger.nowMs ≤ ledger.nowMs + ms := Nat.le_add_right _ _
      exact
        ⟨fun month => (sound.counters month).later order,
          fun phase isPhase => (sound.requests phase isPhase).later order⟩
  | check =>
      refine ⟨sound.counters, fun phase isPhase => ?_⟩
      rcases List.mem_append.1 isPhase with isOld | isNew
      · exact sound.requests phase isOld
      · obtain rfl := List.mem_singleton.1 isNew
        trivial
  | admitted => exact sound.goOn _ trivial
  | finished => exact sound.goOn _ trivial
  | charged => exact sound.goOn _ ⟨started_now _, costs⟩
  | incremented found =>
      obtain ⟨started, nonneg, -⟩ := sound.phase found
      exact (sound.write ((sound.counters _).incrByFloat started nonneg)).goOn _
        started
  | expired found =>
      have started : Started _ _ := sound.phase found
      exact (sound.write ((sound.counters _).expire started)).goOn _ trivial

end Invariants

section Exposure

/-- May a request still be charged to a month without another look at its
counter? -/
def RequestPhase.mayCharge (current month : Month) : RequestPhase → Bool
  -- the counter of another month admits it
  | .checking other => current = month && other ≠ month
  | .calling => current = month
  | .charging other _ => other = month
  | .expiring _ => false
  | .done => false

/-- The number of requests that may still be charged to a month. -/
def Ledger.exposed (ledger : Ledger) (month : Month) : Nat :=
  ledger.requests.countP (RequestPhase.mayCharge (yearMonth ledger.nowMs) month)

/-- A month is charged at most the budget and a number of costs, also when the
requests that may still be charged to it are. -/
def Bounded
    (budget maxCost : ℚ)
    (concurrency : Nat)
    (ledger : Ledger) : Prop :=
  ∀ month, ledger.spend month + ledger.exposed month * maxCost ≤
    budget + concurrency * maxCost

/-- Counting after one entry was replaced. -/
theorem countP_set_add
    (p : α → Bool)
    {list : List α}
    {index : Nat}
    {old : α}
    (found : list[index]? = some old)
    (new : α) :
    (list.set index new).countP p + (if p old then 1 else 0) =
      list.countP p + if p new then 1 else 0 := by
  obtain ⟨inside, rfl⟩ := List.getElem?_eq_some_iff.1 found
  have counted := List.boole_getElem_le_countP (p := p) inside
  rw [List.countP_set inside]
  omega

theorem exposed_le_inProgress (ledger : Ledger) (month : Month) :
    ledger.exposed month ≤ ledger.inProgress := by
  refine List.countP_mono_left fun phase _ mayCharge => ?_
  cases phase with
  | done => cases mayCharge
  | _ => rfl

variable {budget maxCost : ℚ} {concurrency : Nat} {ledger next : Ledger}
  {event : Event}

/-- Fewer requests that may be charged, and no more charged. -/
theorem Bounded.of_le
    (bounded : Bounded budget maxCost concurrency ledger)
    (maxCostNonneg : 0 ≤ maxCost)
    {month : Month}
    (spendLe : next.spend month ≤ ledger.spend month)
    (exposedLe : next.exposed month ≤ ledger.exposed month) :
    next.spend month + next.exposed month * maxCost ≤
      budget + concurrency * maxCost := by
  have costs : (next.exposed month : ℚ) * maxCost ≤
      ledger.exposed month * maxCost :=
    mul_le_mul_of_nonneg_right (Nat.cast_le.2 exposedLe) maxCostNonneg
  have before := bounded month
  linarith

/-- A month that is not over the budget yet, whatever the requests in progress
do. -/
theorem le_of_spend_le
    (maxCostNonneg : 0 ≤ maxCost)
    (atMost : ledger.inProgress ≤ concurrency)
    {month : Month}
    (notOver : ledger.spend month ≤ budget) :
    ledger.spend month + ledger.exposed month * maxCost ≤
      budget + concurrency * maxCost := by
  have exposedLe := (exposed_le_inProgress ledger month).trans atMost
  have costs : (ledger.exposed month : ℚ) * maxCost ≤ concurrency * maxCost :=
    mul_le_mul_of_nonneg_right (Nat.cast_le.2 exposedLe) maxCostNonneg
  linarith

/-- A request that goes on. -/
theorem exposed_goOn
    {request : Nat}
    {old : RequestPhase}
    (found : ledger.requests[request]? = some old)
    (new : RequestPhase)
    (month : Month) :
    (ledger.goOn request new).exposed month +
        (if old.mayCharge (yearMonth ledger.nowMs) month then 1 else 0) =
      ledger.exposed month +
        if new.mayCharge (yearMonth ledger.nowMs) month then 1 else 0 :=
  countP_set_add _ found new

/-- A request that goes on and may be charged only if it could be before. -/
theorem exposed_goOn_le
    {request : Nat}
    {old new : RequestPhase}
    (found : ledger.requests[request]? = some old)
    {month : Month}
    (couldCharge : new.mayCharge (yearMonth ledger.nowMs) month = true →
      old.mayCharge (yearMonth ledger.nowMs) month = true) :
    (ledger.goOn request new).exposed month ≤ ledger.exposed month := by
  have counted := exposed_goOn found new month
  split_ifs at counted with couldBefore mayNow mayNow
  · omega
  · omega
  · exact absurd (couldCharge mayNow) couldBefore
  · omega

/-- What a counter reads after a write. -/
theorem spend_write
    (month other : Month)
    (key : Key ℚ) :
    (ledger.write month key).spend other =
      if other = month then (key.read ledger.nowMs).getD 0
      else ledger.spend other := by
  change ((Function.update ledger.counters month key other).read _).getD 0 = _
  rw [Function.update_apply]
  split_ifs <;> rfl

/-- As time goes by, a month that has not begun is charged nothing, and one that is
over is charged by the requests that were charging it already. -/
theorem Bounded.elapse
    (bounded : Bounded budget maxCost concurrency ledger)
    (sound : Sound maxCost ledger)
    (budgetNonneg : 0 ≤ budget)
    (maxCostNonneg : 0 ≤ maxCost)
    (ms : Nat)
    (atMost : ledger.inProgress ≤ concurrency) :
    Bounded budget maxCost concurrency
      { ledger with nowMs := ledger.nowMs + ms } := by
  intro month
  have order : ledger.nowMs ≤ ledger.nowMs + ms := Nat.le_add_right _ _
  have spendLe := (sound.counters month).read_later_le order
  by_cases isNow : yearMonth (ledger.nowMs + ms) = month
  · by_cases wasNow : yearMonth ledger.nowMs = month
    · refine bounded.of_le maxCostNonneg spendLe (le_of_eq ?_)
      unfold Ledger.exposed
      rw [isNow, wasNow]
    · -- the month begins
      have notStarted : ¬Started month ledger.nowMs := by
        rintro ⟨instant, before, sameMonth⟩
        refine wasNow ?_
        rw [← isNow]
        exact yearMonth_eq_of_between before order (sameMonth.trans isNow.symm)
      have nothing := (sound.counters month).eq_none notStarted
      have stillAtMost : Ledger.inProgress
          { ledger with nowMs := ledger.nowMs + ms } ≤ concurrency := atMost
      refine le_of_spend_le maxCostNonneg stillAtMost ?_
      change ((ledger.counters month).read _).getD 0 ≤ budget
      rwa [nothing, Key.read_none, Option.getD_none]
  · refine bounded.of_le maxCostNonneg spendLe ?_
    refine List.countP_mono_left fun phase _ mayCharge => ?_
    cases phase with
    | checking other => simp [RequestPhase.mayCharge, isNow] at mayCharge
    | calling => simp [RequestPhase.mayCharge, isNow] at mayCharge
    | charging other costUsd => exact mayCharge
    | expiring other => exact mayCharge
    | done => exact mayCharge

theorem Bounded.change
    (bounded : Bounded budget maxCost concurrency ledger)
    (sound : Sound maxCost ledger)
    (budgetNonneg : 0 ≤ budget)
    (maxCostNonneg : 0 ≤ maxCost)
    (change : Change budget ledger event next)
    (atMost : next.inProgress ≤ concurrency) :
    Bounded budget maxCost concurrency next := by
  cases change with
  | nothing => exact bounded
  | elapse ms => exact bounded.elapse sound budgetNonneg maxCostNonneg ms atMost
  | check =>
      intro month
      refine bounded.of_le maxCostNonneg le_rfl (le_of_eq ?_)
      unfold Ledger.exposed
      rw [List.countP_append]
      simp +contextual [RequestPhase.mayCharge]
  | @admitted _ request other found notOver =>
      intro month
      by_cases isNow : yearMonth ledger.nowMs = month ∧ other = month
      · refine le_of_spend_le maxCostNonneg atMost ?_
        rw [← isNow.2]
        exact notOver.le
      · refine bounded.of_le maxCostNonneg le_rfl (exposed_goOn_le found ?_)
        intro mayCharge
        have current := of_decide_eq_true mayCharge
        have isOther : other ≠ month := fun same => isNow ⟨current, same⟩
        simp [RequestPhase.mayCharge, current, isOther]
  | @finished _ request old found =>
      intro month
      exact bounded.of_le maxCostNonneg le_rfl (exposed_goOn_le found nofun)
  | @charged request costUsd found =>
      intro month
      exact bounded.of_le maxCostNonneg le_rfl (exposed_goOn_le found id)
  | @incremented _ request other costUsd found =>
      intro month
      obtain ⟨-, nonneg, atMostCost⟩ := sound.phase found
      have counted := exposed_goOn found (.expiring other) month
      have before := bounded month
      change (ledger.write other _).spend month +
        (ledger.goOn request (.expiring other)).exposed month * maxCost ≤ _
      rw [spend_write, read_incrByFloat]
      simp only [RequestPhase.mayCharge, decide_eq_true_eq, Bool.false_eq_true,
        if_false, Nat.add_zero, @eq_comm _ other] at counted
      by_cases same : month = other
      · rw [if_pos same] at counted ⊢
        rw [← counted, Nat.cast_add, Nat.cast_one, add_mul, one_mul] at before
        subst same
        change ledger.spend month + costUsd + _ ≤ _
        linarith
      · rw [if_neg same] at counted ⊢
        rw [← counted] at before
        exact before
  | @expired _ request other found =>
      intro month
      refine bounded.of_le maxCostNonneg (le_of_eq ?_) (exposed_goOn_le found nofun)
      change (ledger.write other _).spend month = _
      rw [spend_write, read_expire]
      split_ifs with same
      · rw [same]
        rfl
      · rfl

end Exposure

section Runs

variable {budget maxCost : ℚ} {concurrency : Nat} {ledger next : Ledger}
  {event : Event}

/-- What a month was charged is not forgotten before it is over. -/
theorem spend_le_of_change
    (sound : Sound maxCost ledger)
    (change : Change budget ledger event next)
    {month : Month}
    {instant : Nat}
    (before : next.nowMs ≤ instant)
    (inMonth : yearMonth instant = month) :
    ledger.spend month ≤ next.spend month := by
  cases change with
  | nothing => exact le_rfl
  | elapse ms =>
      have same := (sound.counters month).read_eq_of_month
        (Nat.le_add_right ledger.nowMs ms) before inMonth
      change ((ledger.counters month).read _).getD 0 ≤
        ((ledger.counters month).read (ledger.nowMs + ms)).getD 0
      rw [same]
  | check => exact le_rfl
  | admitted => exact le_rfl
  | finished => exact le_rfl
  | charged => exact le_rfl
  | @incremented _ _ other costUsd found =>
      obtain ⟨-, nonneg, -⟩ := sound.phase found
      change ledger.spend month ≤ (ledger.write other _).spend month
      rw [spend_write, read_incrByFloat]
      split_ifs with same
      · subst same
        exact le_add_of_nonneg_right nonneg
      · exact le_rfl
  | @expired _ _ other found =>
      change ledger.spend month ≤ (ledger.write other _).spend month
      rw [spend_write, read_expire]
      split_ifs with same
      · rw [same]
        exact le_rfl
      · exact le_rfl

theorem nowMs_le_step (event : Event) :
    ledger.nowMs ≤ (ledger.step budget event).nowMs := by
  have change := change_step budget ledger event
  generalize ledger.step budget event = next at change
  cases change with
  | elapse ms => exact Nat.le_add_right _ _
  | _ => exact le_rfl

theorem nowMs_le_run (events : List Event) :
    ledger.nowMs ≤ (runFrom (Ledger.step budget) ledger events).nowMs :=
  runFrom_induction (fun later : Ledger => ledger.nowMs ≤ later.nowMs)
    (fun _ event _ order => order.trans (nowMs_le_step event)) le_rfl

theorem sound_run
    (sound : Sound maxCost ledger)
    {events : List Event}
    (costs : ∀ event ∈ events, CostsAtMost maxCost event) :
    Sound maxCost (runFrom (Ledger.step budget) ledger events) :=
  runFrom_induction (Sound maxCost)
    (fun _ event isEvent soundBefore =>
      soundBefore.change (change_step budget _ event) (costs event isEvent))
    sound

theorem spend_le_run
    (sound : Sound maxCost ledger)
    {events : List Event}
    (costs : ∀ event ∈ events, CostsAtMost maxCost event)
    {month : Month}
    (inMonth :
      yearMonth (runFrom (Ledger.step budget) ledger events).nowMs = month) :
    ledger.spend month ≤
      (runFrom (Ledger.step budget) ledger events).spend month := by
  induction events generalizing ledger with
  | nil => exact le_rfl
  | cons event events inductionHypothesis =>
      have change := change_step budget ledger event
      have soundNext := sound.change change (costs event List.mem_cons_self)
      refine (spend_le_of_change sound change (nowMs_le_run events) inMonth).trans ?_
      exact inductionHypothesis soundNext
        (fun other isLater => costs other (List.mem_cons_of_mem _ isLater)) inMonth

end Runs

/-- However the checks and the charges of the requests of a key come, with at most
`concurrency` requests in progress at any moment and costs of at most `maxCost`,
no month is charged more than that many costs above the budget; and a month that is
over the budget stays so until it ends. -/
theorem spend_le_and_overBudget_stays
    (budget maxCost : ℚ)
    (concurrency nowMs : Nat)
    (budgetNonneg : 0 ≤ budget)
    (maxCostNonneg : 0 ≤ maxCost)
    (events : List Event)
    (costs : ∀ event ∈ events, CostsAtMost maxCost event)
    (atMost : ∀ before, before <+: events →
      (runFrom (Ledger.step budget) { nowMs := nowMs } before).inProgress ≤
        concurrency) :
    let run := runFrom (Ledger.step budget) { nowMs := nowMs }
    (∀ month, (run events).spend month ≤ budget + concurrency * maxCost) ∧
      ∀ before, before <+: events → ∀ month,
        (run before).overBudget budget month = true →
          yearMonth (run events).nowMs = month →
            (run events).overBudget budget month = true := by
  intro run
  have soundAt {before : List Event} (isBefore : before <+: events) :
      Sound maxCost (run before) :=
    sound_run (sound_start nowMs) fun event isEvent =>
      costs event (isBefore.subset isEvent)
  constructor
  · have bounded : Bounded budget maxCost concurrency (run events) := by
      clear soundAt
      induction events using List.reverseRecOn with
      | nil =>
          intro month
          exact le_of_spend_le maxCostNonneg (Nat.zero_le _) budgetNonneg
      | append_singleton events event inductionHypothesis =>
          have boundedBefore := inductionHypothesis
            (fun other isOther => costs other (List.mem_append_left _ isOther))
            (fun before isBefore =>
              atMost before (isBefore.trans (List.prefix_append _ _)))
          have sound : Sound maxCost (run events) :=
            sound_run (sound_start nowMs) fun other isOther =>
              costs other (List.mem_append_left _ isOther)
          have atMostAfter := atMost _ List.prefix_rfl
          rw [runFrom_concat] at atMostAfter
          change Bounded _ _ _ (runFrom _ _ (events ++ [event]))
          rw [runFrom_concat]
          exact boundedBefore.change sound budgetNonneg maxCostNonneg
            (change_step budget _ event) atMostAfter
    intro month
    have exposed : (0 : ℚ) ≤ (run events).exposed month * maxCost :=
      mul_nonneg (Nat.cast_nonneg _) maxCostNonneg
    have bound := bounded month
    linarith
  · intro before isBefore month isOver inMonth
    obtain ⟨after, rfl⟩ := id isBefore
    have grown : (run before).spend month ≤ (run (before ++ after)).spend month := by
      change _ ≤ Ledger.spend (runFrom _ _ (before ++ after)) month
      rw [runFrom_append]
      refine spend_le_run (soundAt isBefore)
        (fun event isEvent => costs event (List.mem_append_right _ isEvent)) ?_
      rw [← runFrom_append]
      exact inMonth
    exact decide_eq_true ((of_decide_eq_true isOver).trans grown)

/-- Two requests that are checked at the same time. -/
def twoAtOnce : List Event :=
  [.check, .check, .readSpend 0, .readSpend 1, .addSpend 0 8, .addSpend 1 8,
    .increment 0, .increment 1, .expire 0, .expire 1, .check, .readSpend 2]

/-- They charge almost two costs more than the budget. -/
theorem spend_le_of_twoAtOnce :
    let run := runFrom (Ledger.step 1) { nowMs := 0 }
    (∀ month, (run twoAtOnce).spend month ≤ 1 + (2 : Nat) * 8) ∧
      ∀ before, before <+: twoAtOnce → ∀ month,
        (run before).overBudget 1 month = true →
          yearMonth (run twoAtOnce).nowMs = month →
            (run twoAtOnce).overBudget 1 month = true := by
  have atMost : ∀ before ∈ twoAtOnce.inits,
      (runFrom (Ledger.step 1) { nowMs := 0 } before).inProgress ≤ 2 := by
    decide +kernel
  have costs : ∀ event ∈ twoAtOnce, CostsAtMost 8 event := by
    simp [twoAtOnce, CostsAtMost]
  exact spend_le_and_overBudget_stays 1 8 2 0 (by decide) (by decide) twoAtOnce
    costs fun before isBefore => atMost before ((List.mem_inits _ _).2 isBefore)

end CostTracker
end AiGateway
