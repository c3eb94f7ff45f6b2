import Mathlib.Order.Monotone.Basic

/-!
# Months of the calendar

Months are counted from January 1970, days from the first of it. The month of a
day is found by going through the lengths of the months, and it is the month
between whose first days the day lies.
-/

namespace AiGateway
namespace Foundations
namespace Calendar

/-- The leap years of the Gregorian calendar. -/
def isLeapYear (year : Nat) : Bool :=
  year % 4 = 0 && (year % 100 ≠ 0 || year % 400 = 0)

/-- The number of days of a month. -/
def monthLength (month : Nat) : Nat :=
  match month % 12 with
  | 1 => if isLeapYear (1970 + month / 12) then 29 else 28
  | 3 | 5 | 8 | 10 => 30
  | _ => 31

theorem monthLength_bounds (month : Nat) :
    0 < monthLength month ∧ monthLength month ≤ 31 := by
  unfold monthLength
  split
  · split_ifs <;> decide
  all_goals decide

/-- The first day of a month. -/
def monthStart : Nat → Nat
  | 0 => 0
  | month + 1 => monthStart month + monthLength month

theorem monthStart_strictMono : StrictMono monthStart :=
  strictMono_nat_of_lt_succ fun month =>
    Nat.lt_add_of_pos_right (monthLength_bounds month).1

/-- The month of a day that is counted from the first day of `month`. -/
def monthFrom : (fuel : Nat) → (month day : Nat) → Nat
  | 0, month, _ => month
  | fuel + 1, month, day =>
      if day < monthLength month then month
      else monthFrom fuel (month + 1) (day - monthLength month)

/-- The month of a day. -/
def monthOf (day : Nat) : Nat := monthFrom day 0 day

/-- A day lies in a month: not before its first day, and before that of the next
one. -/
def InMonth (month day : Nat) : Prop :=
  monthStart month ≤ day ∧ day < monthStart (month + 1)

theorem inMonth_monthFrom
    {fuel day : Nat}
    (enough : day ≤ fuel)
    (month : Nat) :
    InMonth (monthFrom fuel month day) (monthStart month + day) := by
  induction fuel generalizing month day with
  | zero =>
      obtain rfl : day = 0 := Nat.le_zero.1 enough
      exact ⟨le_rfl, monthStart_strictMono (Nat.lt_succ_self month)⟩
  | succ fuel inductionHypothesis =>
      have positive := (monthLength_bounds month).1
      unfold monthFrom
      split_ifs with inside
      · exact ⟨Nat.le_add_right _ _, Nat.add_lt_add_left inside _⟩
      · have shorter : day - monthLength month ≤ fuel := by omega
        have rest := inductionHypothesis shorter (month + 1)
        have sameDay : monthStart (month + 1) + (day - monthLength month) =
            monthStart month + day := by
          rw [monthStart]
          omega
        rwa [sameDay] at rest

/-- Every day lies in its month. -/
theorem inMonth_monthOf (day : Nat) : InMonth (monthOf day) day := by
  have inMonth := inMonth_monthFrom (le_refl day) 0
  rwa [monthStart, Nat.zero_add] at inMonth

/-- A day lies in no other month. -/
theorem monthOf_eq_iff {day month : Nat} :
    monthOf day = month ↔ InMonth month day := by
  constructor
  · rintro rfl
    exact inMonth_monthOf day
  · intro inMonth
    have inMonthOf := inMonth_monthOf day
    have notLater : monthOf day < month + 1 :=
      monthStart_strictMono.lt_iff_lt.1 (inMonthOf.1.trans_lt inMonth.2)
    have notEarlier : month < monthOf day + 1 :=
      monthStart_strictMono.lt_iff_lt.1 (inMonth.1.trans_lt inMonthOf.2)
    omega

/-- The months go on with the days. -/
theorem monthOf_mono : Monotone monthOf := by
  intro first second order
  by_contra later
  have startLater : monthStart (monthOf second + 1) ≤ monthStart (monthOf first) :=
    monthStart_strictMono.monotone (by omega)
  have inFirst := (inMonth_monthOf first).1
  have inSecond := (inMonth_monthOf second).2
  omega

/-- Two days of one month are less than 31 days apart. -/
theorem lt_add_of_monthOf_eq
    {first second : Nat}
    (sameMonth : monthOf first = monthOf second) :
    second < first + 31 := by
  have inFirst := (inMonth_monthOf first).1
  have inSecond := (inMonth_monthOf second).2
  rw [← sameMonth, monthStart] at inSecond
  have atMost := (monthLength_bounds (monthOf first)).2
  omega

-- 29 February and 1 March 2000
example : (monthOf 11016, monthOf 11017) = (361, 362) := by decide +kernel

end Calendar
end Foundations
end AiGateway
