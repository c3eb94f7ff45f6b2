import Mathlib.Algebra.Order.Field.Power
import Mathlib.Data.Int.Log
import Mathlib.Data.Rat.Floor
import Mathlib.Tactic.FieldSimp
import Mathlib.Tactic.Linarith
import Mathlib.Tactic.NormNum
import Mathlib.Tactic.Positivity

/-!
# Rounding to a number of digits

A format keeps so many digits of a base, and none below a smallest one. A number
that is not negative is rounded to the nearest number of the format, and to the one
with an even last digit of two. Numbers of the format are rounded to themselves,
rounding keeps the order of two numbers, and it moves a number by half a unit of its
last digit at most.
-/

namespace AiGateway
namespace Foundations

/-- The integer nearest to a number, the even one of two. -/
def roundEven (number : ℚ) : Int :=
  if Int.fract number < 1 / 2 then ⌊number⌋
  else if 1 / 2 < Int.fract number then ⌊number⌋ + 1
  else ⌊number⌋ + ⌊number⌋ % 2

section RoundEven

variable {number : ℚ} {integer : Int}

theorem floor_le_roundEven (number : ℚ) : ⌊number⌋ ≤ roundEven number := by
  rw [roundEven]
  split_ifs <;> omega

theorem roundEven_le_floor_add_one (number : ℚ) :
    roundEven number ≤ ⌊number⌋ + 1 := by
  rw [roundEven]
  split_ifs <;> omega

@[simp] theorem roundEven_intCast (integer : Int) :
    roundEven integer = integer := by
  rw [roundEven, Int.fract_intCast, if_pos (by norm_num), Int.floor_intCast]

theorem abs_roundEven_sub_le (number : ℚ) :
    |roundEven number - number| ≤ 1 / 2 := by
  have split := Int.floor_add_fract number
  have fractNonneg := Int.fract_nonneg number
  have fractLt := Int.fract_lt_one number
  have parityNonneg : (0 : ℚ) ≤ (⌊number⌋ % 2 : Int) := by
    exact_mod_cast Int.emod_nonneg ⌊number⌋ (by norm_num)
  have parityLe : ((⌊number⌋ % 2 : Int) : ℚ) ≤ 1 := by
    exact_mod_cast Int.le_of_lt_add_one (Int.emod_lt_of_pos ⌊number⌋ (by norm_num))
  rw [roundEven, abs_le]
  split_ifs <;> push_cast <;> constructor <;> linarith

/-- Rounding keeps the order of two numbers. -/
theorem roundEven_mono {smaller larger : ℚ} (le : smaller ≤ larger) :
    roundEven smaller ≤ roundEven larger := by
  rcases (Int.floor_le_floor le).eq_or_lt with same | less
  · have fracts : Int.fract smaller ≤ Int.fract larger := by
      rw [Int.fract, Int.fract, same]
      linarith
    rw [roundEven, roundEven, same]
    split_ifs <;> first | omega | linarith
  · calc
      roundEven smaller ≤ ⌊smaller⌋ + 1 := roundEven_le_floor_add_one smaller
      _ ≤ ⌊larger⌋ := less
      _ ≤ roundEven larger := floor_le_roundEven larger

/-- Rounding does not take a number past an integer. -/
theorem roundEven_le (atMost : number ≤ integer) : roundEven number ≤ integer := by
  rw [← roundEven_intCast integer]
  exact roundEven_mono atMost

theorem le_roundEven (atLeast : integer ≤ number) : integer ≤ roundEven number := by
  rw [← roundEven_intCast integer]
  exact roundEven_mono atLeast

/-- A number less than a half above an integer is not rounded up past it. -/
theorem roundEven_le_of_close (close : number - integer < 1 / 2) :
    roundEven number ≤ integer := by
  have error := (abs_le.1 (abs_roundEven_sub_le number)).2
  have below : (roundEven number : ℚ) < integer + 1 := by linarith
  exact Int.le_of_lt_add_one (by exact_mod_cast below)

/-- A number less than a half below an integer is not rounded down past it. -/
theorem le_roundEven_of_close (close : integer - number < 1 / 2) :
    integer ≤ roundEven number := by
  have error := (abs_le.1 (abs_roundEven_sub_le number)).1
  have above : (integer : ℚ) < roundEven number + 1 := by linarith
  exact Int.le_of_lt_add_one (by exact_mod_cast above)

end RoundEven

/-- How many digits of which base a number keeps, and the exponent of the smallest
digit that there is. -/
structure Format where
  base : Nat
  digits : Nat
  least : Int
  one_lt_base : 1 < base
  digits_pos : 0 < digits

namespace Format

variable (format : Format)

/-- A number that is not negative is in the format. -/
def IsPrecise (number : ℚ) : Prop :=
  ∃ (significand : Nat) (exponent : Int),
    significand < format.base ^ format.digits ∧ format.least ≤ exponent ∧
      number = significand * (format.base : ℚ) ^ exponent

/-- The exponent of the last digit that is kept of a number. -/
def lastDigit (number : ℚ) : Int :=
  max (Int.log format.base number + 1 - format.digits) format.least

/-- The unit of the last digit that is kept of a number. -/
def unit (number : ℚ) : ℚ := (format.base : ℚ) ^ format.lastDigit number

/-- The number of the format that is nearest to a number. -/
def round (number : ℚ) : ℚ :=
  roundEven (number / format.unit number) * format.unit number

variable {format} {number bound : ℚ}

section Units

variable (format) in
theorem one_lt_cast_base : (1 : ℚ) < format.base := by
  exact_mod_cast format.one_lt_base

variable (format) in
theorem cast_base_pos : (0 : ℚ) < format.base :=
  zero_lt_one.trans format.one_lt_cast_base

variable (format) in
theorem unit_pos (number : ℚ) : 0 < format.unit number :=
  zpow_pos format.cast_base_pos _

theorem IsPrecise.nonneg (precise : format.IsPrecise number) : 0 ≤ number := by
  obtain ⟨significand, exponent, -, -, rfl⟩ := precise
  positivity

variable (format) in
/-- A power of the base whose digit there is. -/
theorem isPrecise_zpow {exponent : Int} (inRange : format.least ≤ exponent) :
    format.IsPrecise ((format.base : ℚ) ^ exponent) := by
  refine ⟨1, exponent, ?_, inRange, ?_⟩
  · exact Nat.one_lt_pow format.digits_pos.ne' format.one_lt_base
  · rw [Nat.cast_one, one_mul]

variable (format) in
/-- A power of the base is a multiple of a smaller one. -/
theorem zpow_eq_mul_zpow {small large : Int} (le : small ≤ large) :
    (format.base : ℚ) ^ large =
      ((format.base ^ (large - small).toNat : Nat) : ℚ) *
        (format.base : ℚ) ^ small := by
  rw [Nat.cast_pow, ← zpow_natCast, Int.toNat_of_nonneg (by omega),
    ← zpow_add₀ format.cast_base_pos.ne', Int.sub_add_cancel]

theorem lt_zpow_of_isPrecise
    {significand : Nat}
    {exponent : Int}
    (small : significand < format.base ^ format.digits) :
    significand * (format.base : ℚ) ^ exponent <
      (format.base : ℚ) ^ (format.digits + exponent) := by
  rw [zpow_add₀ format.cast_base_pos.ne', zpow_natCast]
  apply mul_lt_mul_of_pos_right
  · exact_mod_cast small
  · exact zpow_pos format.cast_base_pos _

/-- A number of the format is a multiple of the unit of any smaller number. -/
theorem IsPrecise.exists_multiple
    (precise : format.IsPrecise bound)
    (positive : 0 < number)
    (atMost : number ≤ bound) :
    ∃ multiple : Int, bound = multiple * format.unit number := by
  obtain ⟨significand, exponent, small, inRange, rfl⟩ := precise
  have log : Int.log format.base number < format.digits + exponent :=
    (Int.lt_zpow_iff_log_lt format.one_lt_base positive).1
      (atMost.trans_lt (lt_zpow_of_isPrecise small))
  have lastLe : format.lastDigit number ≤ exponent :=
    max_le (by omega) inRange
  refine ⟨significand *
    (format.base ^ (exponent - format.lastDigit number).toNat : Nat), ?_⟩
  rw [zpow_eq_mul_zpow format lastLe, unit]
  push_cast
  ring

/-- Two numbers of the format are a unit of the smaller one apart. -/
theorem IsPrecise.add_unit_le
    (precise : format.IsPrecise number)
    (larger : format.IsPrecise bound)
    (positive : 0 < number)
    (less : number < bound) :
    number + format.unit number ≤ bound := by
  have unitPos := format.unit_pos number
  obtain ⟨first, isFirst⟩ := precise.exists_multiple positive le_rfl
  obtain ⟨second, isSecond⟩ := larger.exists_multiple positive less.le
  have multiples : first < second := by
    have scaled : first * format.unit number < second * format.unit number := by
      rwa [← isFirst, ← isSecond]
    exact_mod_cast lt_of_mul_lt_mul_right scaled unitPos.le
  calc
    number + format.unit number = (first + 1) * format.unit number := by
      rw [add_mul, one_mul, ← isFirst]
    _ ≤ second * format.unit number := by
      gcongr
      exact_mod_cast multiples
    _ = bound := isSecond.symm

variable (format) in
theorem unit_mono {smaller larger : ℚ} (positive : 0 < smaller)
    (le : smaller ≤ larger) : format.unit smaller ≤ format.unit larger := by
  apply zpow_le_zpow_right₀ format.one_lt_cast_base.le
  exact max_le_max_right _
    (Int.sub_le_sub_right (Int.add_le_add_right (Int.log_mono_right positive le) 1) _)

/-- A number is less than so many units as its digits count. -/
theorem lt_mul_unit (format : Format) (number : ℚ) :
    number < format.base ^ format.digits * format.unit number := by
  calc
    number < (format.base : ℚ) ^ (Int.log format.base number + 1) :=
      Int.lt_zpow_succ_log_self format.one_lt_base number
    _ ≤ (format.base : ℚ) ^ (format.digits + format.lastDigit number) := by
      apply zpow_le_zpow_right₀ format.one_lt_cast_base.le
      have last := le_max_left (Int.log format.base number + 1 - format.digits)
        format.least
      rw [← lastDigit] at last
      omega
    _ = format.base ^ format.digits * format.unit number := by
      rw [zpow_add₀ format.cast_base_pos.ne', zpow_natCast, unit]

/-- Where the format has all its digits, the first of them counts as many units as
there are numbers of the others. -/
theorem mul_unit_le
    (positive : 0 < number)
    (large : (format.base : ℚ) ^ (format.least + format.digits - 1) ≤ number) :
    format.base ^ (format.digits - 1) * format.unit number ≤ number := by
  have log : format.least + format.digits - 1 ≤ Int.log format.base number :=
    (Int.zpow_le_iff_le_log format.one_lt_base positive).1 large
  have digitsPos := format.digits_pos
  calc
    format.base ^ (format.digits - 1) * format.unit number =
        (format.base : ℚ) ^ Int.log format.base number := by
      rw [unit, lastDigit, max_eq_left (by omega), ← zpow_natCast,
        ← zpow_add₀ format.cast_base_pos.ne']
      congr 1
      omega
    _ ≤ number := Int.zpow_log_le_self format.one_lt_base positive

end Units

section Rounding

@[simp] theorem round_zero (format : Format) : format.round 0 = 0 := by
  have rounded : roundEven 0 = 0 := by exact_mod_cast roundEven_intCast 0
  rw [round, zero_div, rounded, Int.cast_zero, zero_mul]

/-- Rounding does not take a number past one of the format. -/
theorem round_le
    (precise : format.IsPrecise bound)
    (nonnegative : 0 ≤ number)
    (atMost : number ≤ bound) :
    format.round number ≤ bound := by
  rcases nonnegative.eq_or_lt with rfl | positive
  · rwa [round_zero]
  · obtain ⟨multiple, isMultiple⟩ := precise.exists_multiple positive atMost
    have scaled : number / format.unit number ≤ multiple := by
      rwa [div_le_iff₀ (format.unit_pos number), ← isMultiple]
    rw [round, isMultiple]
    gcongr
    · exact (format.unit_pos number).le
    · exact roundEven_le scaled

/-- A multiple of the unit of a number is not passed by rounding the number. -/
theorem le_round_of_multiple
    {multiple : Int}
    (atLeast : multiple * format.unit number ≤ number) :
    multiple * format.unit number ≤ format.round number := by
  have scaled : (multiple : ℚ) ≤ number / format.unit number := by
    rwa [le_div_iff₀ (format.unit_pos number)]
  rw [round]
  gcongr
  · exact (format.unit_pos number).le
  · exact le_roundEven scaled

theorem round_nonneg (nonnegative : 0 ≤ number) : 0 ≤ format.round number := by
  have rounded : 0 ≤ roundEven (number / format.unit number) := by
    apply le_roundEven
    rw [Int.cast_zero]
    exact div_nonneg nonnegative (format.unit_pos number).le
  exact mul_nonneg (by exact_mod_cast rounded) (format.unit_pos number).le

/-- Between numbers with different units there is the leading digit of the larger
one, which is not passed by rounding it. -/
theorem exists_leading {smaller larger : ℚ}
    (positive : 0 < smaller)
    (le : smaller ≤ larger)
    (less : format.unit smaller < format.unit larger) :
    ∃ leading, format.IsPrecise leading ∧ smaller < leading ∧ leading ≤ larger ∧
      leading ≤ format.round larger := by
  have lasts : format.lastDigit smaller < format.lastDigit larger :=
    (zpow_lt_zpow_iff_right₀ format.one_lt_cast_base).1 less
  have inRange : format.least ≤ format.lastDigit smaller := le_max_right _ _
  have isMax : format.lastDigit larger =
      max (Int.log format.base larger + 1 - format.digits) format.least := rfl
  have logLess : Int.log format.base smaller < Int.log format.base larger := by
    have last : Int.log format.base smaller + 1 - format.digits ≤
        format.lastDigit smaller := le_max_left _ _
    omega
  have digitsPos := format.digits_pos
  have kept : (Int.log format.base larger - format.lastDigit larger).toNat =
      format.digits - 1 := by omega
  have lastLe : format.lastDigit larger ≤ Int.log format.base larger := by omega
  have isMultiple := zpow_eq_mul_zpow format lastLe
  have atMost : (format.base : ℚ) ^ Int.log format.base larger ≤ larger :=
    Int.zpow_log_le_self format.one_lt_base (positive.trans_le le)
  refine ⟨(format.base : ℚ) ^ Int.log format.base larger,
    isPrecise_zpow format (by omega), ?_, atMost, ?_⟩
  · exact (Int.lt_zpow_iff_log_lt format.one_lt_base positive).2 logLess
  · rw [isMultiple, ← Int.cast_natCast] at atMost ⊢
    exact le_round_of_multiple atMost

theorem le_round
    (precise : format.IsPrecise bound)
    (nonnegative : 0 ≤ number)
    (atLeast : bound ≤ number) :
    bound ≤ format.round number := by
  rcases precise.nonneg.eq_or_lt with rfl | positive
  · exact round_nonneg nonnegative
  rcases (unit_mono format positive atLeast).eq_or_lt with same | less
  · obtain ⟨multiple, isMultiple⟩ := precise.exists_multiple positive le_rfl
    rw [same] at isMultiple
    rw [isMultiple] at atLeast ⊢
    exact le_round_of_multiple atLeast
  · obtain ⟨leading, -, above, -, notPassed⟩ := exists_leading positive atLeast less
    exact above.le.trans notPassed

/-- A number of the format is rounded to itself. -/
theorem round_eq_self (precise : format.IsPrecise number) :
    format.round number = number :=
  le_antisymm (round_le precise precise.nonneg le_rfl)
    (le_round precise precise.nonneg le_rfl)

/-- What is rounded is in the format. -/
theorem isPrecise_round (nonnegative : 0 ≤ number) :
    format.IsPrecise (format.round number) := by
  have scaledNonneg : 0 ≤ roundEven (number / format.unit number) := by
    apply le_roundEven
    rw [Int.cast_zero]
    exact div_nonneg nonnegative (format.unit_pos number).le
  have atMost : roundEven (number / format.unit number) ≤
      (format.base ^ format.digits : Nat) := by
    apply roundEven_le
    rw [div_le_iff₀ (format.unit_pos number)]
    exact_mod_cast (format.lt_mul_unit number).le
  obtain ⟨significand, isSignificand⟩ := Int.eq_ofNat_of_zero_le scaledNonneg
  have inRange : format.least ≤ format.lastDigit number := le_max_right _ _
  rw [round, isSignificand, Int.cast_natCast]
  rw [isSignificand] at atMost
  rcases (Int.ofNat_le.1 atMost).eq_or_lt with full | small
  · -- all digits were carried over
    have carriedInRange : format.least ≤ format.digits + format.lastDigit number := by
      omega
    have carried := isPrecise_zpow format carriedInRange
    rwa [zpow_add₀ format.cast_base_pos.ne', zpow_natCast, ← Nat.cast_pow,
      ← full] at carried
  · exact ⟨significand, format.lastDigit number, small, inRange, rfl⟩

/-- Rounding keeps the order of two numbers. -/
theorem round_mono {smaller larger : ℚ}
    (nonnegative : 0 ≤ smaller)
    (le : smaller ≤ larger) :
    format.round smaller ≤ format.round larger := by
  rcases nonnegative.eq_or_lt with rfl | positive
  · rw [round_zero]
    exact round_nonneg le
  rcases (unit_mono format positive le).eq_or_lt with same | less
  · have unitPos := format.unit_pos larger
    rw [round, round, same]
    gcongr
    exact roundEven_mono (div_le_div_of_nonneg_right le unitPos.le)
  · obtain ⟨leading, precise, above, -, notPassed⟩ := exists_leading positive le less
    exact (round_le precise nonnegative above.le).trans notPassed

/-- Rounding moves a number by half a unit at most. -/
theorem abs_round_sub_le (format : Format) (number : ℚ) :
    |format.round number - number| ≤ format.unit number / 2 := by
  have unitPos := format.unit_pos number
  have scaled : format.round number - number =
      (roundEven (number / format.unit number) - number / format.unit number) *
        format.unit number := by
    rw [round, sub_mul, div_mul_cancel₀ _ unitPos.ne']
  calc
    |format.round number - number| =
        |roundEven (number / format.unit number) - number / format.unit number| *
          format.unit number := by
      rw [scaled, abs_mul, abs_of_pos unitPos]
    _ ≤ 1 / 2 * format.unit number :=
      mul_le_mul_of_nonneg_right (abs_roundEven_sub_le _) unitPos.le
    _ = format.unit number / 2 := by ring

variable (format) in
/-- Rounding moves the numbers up to a bound by a fixed part of the bound at most, if
the format has all its digits there. -/
theorem abs_round_sub_le_of_le
    (nonnegative : 0 ≤ number)
    (atMost : number ≤ bound)
    (large : (format.base : ℚ) ^ (format.least + format.digits - 1) ≤ bound) :
    |format.round number - number| ≤
      bound / (2 * format.base ^ (format.digits - 1)) := by
  have power : (0 : ℚ) < format.base ^ (format.digits - 1) :=
    pow_pos format.cast_base_pos _
  have boundPos : 0 < bound := (zpow_pos format.cast_base_pos _).trans_le large
  rcases nonnegative.eq_or_lt with rfl | positive
  · rw [round_zero, sub_zero, abs_zero]
    positivity
  have unitLe := mul_unit_le boundPos large
  rw [le_div_iff₀ (by positivity)]
  calc
    |format.round number - number| * (2 * format.base ^ (format.digits - 1)) ≤
        format.unit bound / 2 * (2 * format.base ^ (format.digits - 1)) := by
      gcongr
      exact (format.abs_round_sub_le number).trans
        (div_le_div_of_nonneg_right (unit_mono format positive atMost) zero_le_two)
    _ = format.base ^ (format.digits - 1) * format.unit bound := by ring
    _ ≤ bound := unitLe

/-- A number less than half a unit above one of the format is not rounded up past
it. -/
theorem round_le_of_close
    (precise : format.IsPrecise bound)
    (positive : 0 < bound)
    (nonnegative : 0 ≤ number)
    (close : number - bound < format.unit bound / 2) :
    format.round number ≤ bound := by
  rcases le_total number bound with atMost | atLeast
  · exact round_le precise nonnegative atMost
  have unitPos := format.unit_pos bound
  obtain ⟨multiple, isMultiple⟩ := precise.exists_multiple positive le_rfl
  rcases (unit_mono format positive atLeast).eq_or_lt with same | less
  · rw [round, ← same]
    have scaled : number / format.unit bound - multiple < 1 / 2 := by
      rw [sub_lt_iff_lt_add, div_lt_iff₀ unitPos, add_mul, ← isMultiple]
      linarith
    calc
      roundEven (number / format.unit bound) * format.unit bound ≤
          multiple * format.unit bound := by
        gcongr
        exact roundEven_le_of_close scaled
      _ = bound := isMultiple.symm
  · -- the leading digit of the number is at least a unit away
    obtain ⟨leading, isPrecise, above, atMost, -⟩ := exists_leading positive atLeast less
    have unitAway := precise.add_unit_le isPrecise positive above
    linarith

/-- A number less than half a unit below one of the format is not rounded down past
it. -/
theorem le_round_of_close
    (precise : format.IsPrecise bound)
    (positive : 0 < number)
    (close : bound - number < format.unit number / 2) :
    bound ≤ format.round number := by
  rcases le_total bound number with atLeast | atMost
  · exact le_round precise positive.le atLeast
  have unitPos := format.unit_pos number
  obtain ⟨multiple, isMultiple⟩ := precise.exists_multiple positive atMost
  have scaled : multiple - number / format.unit number < 1 / 2 := by
    rw [sub_lt_comm, lt_div_iff₀ unitPos, sub_mul, ← isMultiple]
    linarith
  rw [round, isMultiple]
  gcongr
  exact le_roundEven_of_close scaled

end Rounding

end Format

end Foundations
end AiGateway
