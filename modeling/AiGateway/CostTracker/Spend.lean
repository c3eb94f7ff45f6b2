import AiGateway.Foundations.Calendar
import AiGateway.Foundations.Expiry
import Mathlib.Algebra.Order.Ring.Rat
import Mathlib.Logic.Function.Basic
import Mathlib.Tactic.Linarith

/-!
# The spend counters of a key

Every month has a counter of its own. A charge increments it and then gives it a
new time to live, which is longer than any month. Sums of money are exact here.
-/

namespace AiGateway
namespace CostTracker

open Foundations

section Model

/-- A month, as the key of a counter names it. -/
structure Month where
  year : Nat
  month : Nat
  deriving DecidableEq, Repr

/-- `new Date(nowMs).toISOString().slice(0, 7)`. -/
def yearMonth (nowMs : Nat) : Month :=
  let index := Calendar.monthOf (nowMs / 86400000)
  { year := 1970 + index / 12, month := index % 12 + 1 }

/-- `SPEND_TTL_SECONDS`. -/
def spendTtlSeconds : Nat := 40 * 24 * 60 * 60

/-- INCRBYFLOAT: a missing counter counts as zero, a live one keeps its
deadline. -/
def incrByFloat (clock : Nat) (amount : ℚ) (key : Key ℚ) : Key ℚ :=
  match key.visible clock with
  | none => some { value := amount }
  | some entry => some { entry with value := entry.value + amount }

/-- The counters of one API key. -/
abbrev Counters := Month → Key ℚ

/-- `getMonthlySpendUsd`, for the month that `nowMs` is in. -/
def getMonthlySpendUsd
    (clock : Nat)
    (counters : Counters)
    (month : Month) : ℚ :=
  ((counters month).read clock).getD 0

/-- `isOverBudget`, for what it reads. -/
def isOverBudget (monthlyBudgetUsd : Option ℚ) (spend : ℚ) : Bool :=
  match monthlyBudgetUsd with
  | none => false
  | some budget => decide (budget ≤ spend)

end Model

section Months

/-- Is a month not later than a time? -/
def Started (month : Month) (nowMs : Nat) : Prop :=
  ∃ instant ≤ nowMs, yearMonth instant = month

theorem Started.later
    {month : Month}
    {nowMs later : Nat}
    (started : Started month nowMs)
    (order : nowMs ≤ later) : Started month later := by
  obtain ⟨instant, before, sameMonth⟩ := started
  exact ⟨instant, before.trans order, sameMonth⟩

theorem started_now (nowMs : Nat) : Started (yearMonth nowMs) nowMs :=
  ⟨nowMs, le_rfl, rfl⟩

/-- The name of a month tells it from all others. -/
theorem monthOf_eq_of_yearMonth_eq
    {first second : Nat}
    (sameMonth : yearMonth first = yearMonth second) :
    Calendar.monthOf (first / 86400000) =
      Calendar.monthOf (second / 86400000) := by
  have sameYear := congrArg Month.year sameMonth
  have sameIndex := congrArg Month.month sameMonth
  simp only [yearMonth] at sameYear sameIndex
  omega

/-- A month does not come back. -/
theorem yearMonth_eq_of_between
    {first between last : Nat}
    (afterFirst : first ≤ between)
    (beforeLast : between ≤ last)
    (sameMonth : yearMonth first = yearMonth last) :
    yearMonth between = yearMonth last := by
  have fromFirst := Calendar.monthOf_mono
    (Nat.div_le_div_right (c := 86400000) afterFirst)
  have toLast := Calendar.monthOf_mono
    (Nat.div_le_div_right (c := 86400000) beforeLast)
  rw [monthOf_eq_of_yearMonth_eq sameMonth] at fromFirst
  simp only [yearMonth, le_antisymm toLast fromFirst]

/-- The time to live of a counter is longer than its month. -/
theorem lt_add_ttl
    {first second : Nat}
    (sameMonth : yearMonth first = yearMonth second) :
    second < first + spendTtlSeconds * 1000 := by
  have near := Calendar.lt_add_of_monthOf_eq
    (monthOf_eq_of_yearMonth_eq sameMonth)
  unfold spendTtlSeconds
  omega

end Months

section Counters

/-- A counter that only charges have written: it has not gone below zero, and it
stays until its month is over. -/
def SoundCounter (nowMs : Nat) (month : Month) (key : Key ℚ) : Prop :=
  ∀ entry, key = some entry →
    0 ≤ entry.value ∧ Started month nowMs ∧
      ∀ deadline, entry.deadline = some deadline →
        ∀ instant, yearMonth instant = month → instant < deadline

variable {nowMs : Nat} {month : Month} {key : Key ℚ}

theorem soundCounter_none : SoundCounter nowMs month none := nofun

namespace SoundCounter

theorem later
    (sound : SoundCounter nowMs month key)
    {later : Nat}
    (order : nowMs ≤ later) : SoundCounter later month key := by
  intro entry isEntry
  obtain ⟨nonneg, started, stays⟩ := sound entry isEntry
  exact ⟨nonneg, started.later order, stays⟩

/-- A counter of a month that has not begun does not exist. -/
theorem eq_none
    (sound : SoundCounter nowMs month key)
    (notStarted : ¬Started month nowMs) : key = none := by
  cases key with
  | none => rfl
  | some entry => exact absurd (sound entry rfl).2.1 notStarted

theorem read_nonneg
    (sound : SoundCounter nowMs month key)
    (clock : Nat) : 0 ≤ (key.read clock).getD 0 := by
  unfold Key.read
  cases visible : key.visible clock with
  | none => exact le_rfl
  | some entry => exact (sound entry (Key.eq_some_of_visible visible).1).1

/-- A counter can lapse as time passes; it does not grow. -/
theorem read_later_le
    (sound : SoundCounter nowMs month key)
    {clock later : Nat}
    (order : clock ≤ later) :
    (key.read later).getD 0 ≤ (key.read clock).getD 0 := by
  rcases Key.visible_later key order with gone | same
  · have nothing : key.read later = none := by rw [Key.read, gone, Option.map_none]
    rw [nothing]
    exact sound.read_nonneg clock
  · rw [Key.read, same, Key.read]

/-- It does not lapse before its month is over. -/
theorem read_eq_of_month
    (sound : SoundCounter nowMs month key)
    {clock later instant : Nat}
    (order : clock ≤ later)
    (before : later ≤ instant)
    (inMonth : yearMonth instant = month) :
    key.read later = key.read clock := by
  have alwaysThere {now : Nat} (notAfter : now ≤ instant) :
      key.visible now = key := by
    cases key with
    | none => rfl
    | some entry =>
        rw [Key.visible_some, if_pos]
        unfold Entry.live
        cases deadlineEq : entry.deadline with
        | none => rfl
        | some deadline =>
            have stays := (sound entry rfl).2.2 deadline deadlineEq instant inMonth
            exact decide_eq_true (lt_of_le_of_lt notAfter stays)
  rw [Key.read, Key.read, alwaysThere before, alwaysThere (order.trans before)]

end SoundCounter

/-- INCRBYFLOAT adds to what is read. -/
theorem read_incrByFloat (clock : Nat) (amount : ℚ) (key : Key ℚ) :
    ((incrByFloat clock amount key).read clock).getD 0 =
      (key.read clock).getD 0 + amount := by
  unfold incrByFloat
  cases alive : key.visible clock with
  | none => simp [Key.read, alive, Entry.live]
  | some entry =>
      have live := (Key.eq_some_of_visible alive).2
      have stillLive :
          ({ entry with value := entry.value + amount } : Entry ℚ).live clock =
            true := live
      simp [Key.read, alive, stillLive]

theorem SoundCounter.incrByFloat
    (sound : SoundCounter nowMs month key)
    (started : Started month nowMs)
    {amount : ℚ}
    (nonneg : 0 ≤ amount) :
    SoundCounter nowMs month (incrByFloat nowMs amount key) := by
  unfold CostTracker.incrByFloat
  cases alive : key.visible nowMs with
  | none =>
      rintro entry ⟨⟩
      exact ⟨nonneg, started, nofun⟩
  | some old =>
      rintro entry ⟨⟩
      obtain ⟨oldNonneg, -, stays⟩ :=
        sound old (Key.eq_some_of_visible alive).1
      exact ⟨add_nonneg oldNonneg nonneg, started, stays⟩

/-- EXPIRE does not change what is read. -/
theorem read_expire (clock : Nat) (key : Key ℚ) :
    (key.pexpire clock (spendTtlSeconds * 1000)).read clock = key.read clock := by
  rw [Key.read_pexpire, if_pos (Nat.lt_add_of_pos_right (by decide))]

theorem SoundCounter.expire
    (sound : SoundCounter nowMs month key)
    (started : Started month nowMs) :
    SoundCounter nowMs month (key.pexpire nowMs (spendTtlSeconds * 1000)) := by
  intro entry isEntry
  obtain ⟨old, visible, rfl⟩ := Option.map_eq_some_iff.1 isEntry
  refine ⟨(sound old (Key.eq_some_of_visible visible).1).1, started, ?_⟩
  rintro deadline ⟨⟩ instant inMonth
  obtain ⟨first, before, sameMonth⟩ := started
  have near := lt_add_ttl (sameMonth.trans inMonth.symm)
  exact lt_of_lt_of_le near (Nat.add_le_add_right before _)

end Counters

end CostTracker
end AiGateway
