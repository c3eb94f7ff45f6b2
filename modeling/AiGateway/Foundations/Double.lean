import AiGateway.Foundations.Rounding
import Mathlib.Order.WithBot

/-!
# Doubles that are not negative

A result of arithmetic on doubles is the exact result, rounded to the nearest number
of 53 significant bits; from `2 ^ 1024` on it is infinite. The text of a number in
Lua has 14 significant digits, which is less than a double has.
-/

namespace AiGateway
namespace Foundations

/-- Double precision: 53 significant bits, none of them below the smallest. -/
def doublePrecision : Format where
  base := 2
  digits := 53
  least := -1074
  one_lt_base := by norm_num
  digits_pos := by norm_num

/-- A number that is not negative has double precision. -/
abbrev HasDoublePrecision (number : ℚ) : Prop := doublePrecision.IsPrecise number

/-- The number of double precision that is nearest to a number. -/
def nearest (number : ℚ) : ℚ := doublePrecision.round number

/-- What `%.14g` keeps of a double: 14 significant digits, also of the smallest. -/
def fourteenDigits : Format where
  base := 10
  digits := 14
  least := -337
  one_lt_base := by norm_num
  digits_pos := by norm_num

/-- The number in the text that `tostring` makes of a double. -/
def tostring (number : ℚ) : ℚ := fourteenDigits.round number

/-- `dividend / divisor` of doubles that are not negative, with a divisor that is
not zero. -/
def quotient (dividend divisor : ℚ) : WithTop ℚ :=
  if nearest (dividend / divisor) < 2 ^ 1024 then nearest (dividend / divisor) else ⊤

/-- A finite double that is not negative. -/
structure Double where
  value : ℚ
  precise : HasDoublePrecision value
  finite : value < 2 ^ 1024

/-- What arithmetic makes of doubles that are not negative. -/
inductive Number
  | finite (value : ℚ)
  | infinity
  | nan
  deriving DecidableEq, Repr

namespace Number

/-- The double for an exact result. -/
def ofExact (result : ℚ) : Number :=
  if nearest result < 2 ^ 1024 then finite (nearest result) else infinity

/-- `left * right`. -/
def times : Number → Number → Number
  | finite left, finite right => ofExact (left * right)
  | finite factor, infinity => if factor = 0 then nan else infinity
  | infinity, finite factor => if factor = 0 then nan else infinity
  | infinity, infinity => infinity
  | nan, _ => nan
  | _, nan => nan

/-- `Math.min(left, right)`. -/
def min : Number → Number → Number
  | finite left, finite right => finite (Min.min left right)
  | nan, _ => nan
  | _, nan => nan
  | infinity, other => other
  | other, infinity => other

/-- `Math.floor(number)`. -/
def floor : Number → Number
  | finite value => finite ⌊value⌋
  | infinity => infinity
  | nan => nan

/-- `2 ** exponent`. -/
def powerOfTwo (exponent : Nat) : Number := ofExact (2 ^ exponent)

end Number

section Precision

variable {number : ℚ}

theorem hasDoublePrecision_natCast {count : Nat} (small : count < 2 ^ 53) :
    HasDoublePrecision count :=
  ⟨count, 0, small, by decide, by rw [zpow_zero, mul_one]⟩

/-- Doubling a number leaves its precision as it is. -/
theorem hasDoublePrecision_mul_two_pow
    (precise : HasDoublePrecision number)
    (exponent : Nat) :
    HasDoublePrecision (number * 2 ^ exponent) := by
  obtain ⟨significand, scale, small, inRange, rfl⟩ := precise
  refine ⟨significand, scale + exponent, small, by omega, ?_⟩
  have doubled : (doublePrecision.base : ℚ) = 2 := rfl
  rw [doubled, zpow_add₀ (by norm_num), zpow_natCast, mul_assoc]

theorem hasDoublePrecision_two_pow (exponent : Nat) :
    HasDoublePrecision (2 ^ exponent) := by
  have one : HasDoublePrecision ((1 : Nat) : ℚ) :=
    hasDoublePrecision_natCast (by norm_num)
  have doubled := hasDoublePrecision_mul_two_pow one exponent
  rwa [Nat.cast_one, one_mul] at doubled

/-- A count below `2 ^ 53`. -/
def Double.ofNat (count : Nat) (small : count < 2 ^ 53) : Double where
  value := count
  precise := hasDoublePrecision_natCast small
  finite := by
    calc (count : ℚ) < 2 ^ 53 := by exact_mod_cast small
      _ < 2 ^ 1024 := pow_lt_pow_right₀ (by norm_num) (by norm_num)

end Precision

section Nearest

variable {number bound : ℚ}

@[simp] theorem nearest_zero : nearest 0 = 0 := Format.round_zero _

theorem nearest_nonneg (nonnegative : 0 ≤ number) : 0 ≤ nearest number :=
  Format.round_nonneg nonnegative

theorem nearest_mono {smaller larger : ℚ}
    (nonnegative : 0 ≤ smaller)
    (le : smaller ≤ larger) :
    nearest smaller ≤ nearest larger :=
  Format.round_mono nonnegative le

/-- Rounding does not take a number past one of double precision. -/
theorem nearest_le
    (precise : HasDoublePrecision bound)
    (nonnegative : 0 ≤ number)
    (atMost : number ≤ bound) :
    nearest number ≤ bound :=
  Format.round_le precise nonnegative atMost

/-- A number of double precision is rounded to itself. -/
theorem nearest_eq_self (precise : HasDoublePrecision number) :
    nearest number = number :=
  Format.round_eq_self precise

/-- Rounding moves the numbers up to a bound by a small part of the bound. -/
theorem abs_nearest_sub_le
    (nonnegative : 0 ≤ number)
    (atMost : number ≤ bound)
    (large : 2 ^ (-1022 : Int) ≤ bound) :
    |nearest number - number| ≤ bound / 2 ^ 53 := by
  have moved := doublePrecision.abs_round_sub_le_of_le nonnegative atMost large
  exact moved.trans_eq (by norm_num [doublePrecision])

end Nearest

section Text

variable {number bound : ℚ}

theorem tostring_nonneg (nonnegative : 0 ≤ number) : 0 ≤ tostring number :=
  Format.round_nonneg nonnegative

theorem tostring_mono {smaller larger : ℚ}
    (nonnegative : 0 ≤ smaller)
    (le : smaller ≤ larger) :
    tostring smaller ≤ tostring larger :=
  Format.round_mono nonnegative le

/-- A count of at most 14 digits is written as it is. -/
theorem isPrecise_natCast {count : Nat} (small : count < 10 ^ 14) :
    fourteenDigits.IsPrecise count :=
  ⟨count, 0, small, by decide, by rw [zpow_zero, mul_one]⟩

/-- A text leaves out a small part of the bound of a number. -/
theorem abs_tostring_sub_le
    (nonnegative : 0 ≤ number)
    (atMost : number ≤ bound)
    (large : 2 ^ (-1022 : Int) ≤ bound) :
    |tostring number - number| ≤ bound / (2 * 10 ^ 13) := by
  have powers : (2 : ℚ) ^ 1022 ≤ 10 ^ 324 := by
    exact_mod_cast (by decide +kernel : 2 ^ 1022 ≤ 10 ^ 324)
  have inRange : (10 : ℚ) ^ (-324 : Int) ≤ bound :=
    le_trans (inv_anti₀ (by positivity) powers) large
  exact fourteenDigits.abs_round_sub_le_of_le nonnegative atMost inRange

end Text

/-- Of two quotients, the one with the larger divisor is not larger. -/
theorem quotient_anti {dividend smaller larger : ℚ}
    (nonnegative : 0 ≤ dividend)
    (positive : 0 < smaller)
    (le : smaller ≤ larger) :
    quotient dividend larger ≤ quotient dividend smaller := by
  have rounded : nearest (dividend / larger) ≤ nearest (dividend / smaller) := by
    apply nearest_mono (div_nonneg nonnegative (positive.le.trans le))
    exact div_le_div_of_nonneg_left nonnegative positive le
  rw [quotient, quotient]
  split_ifs with largerFinite smallerFinite smallerFinite
  · exact WithTop.coe_le_coe.2 rounded
  · exact le_top
  · exact absurd (rounded.trans_lt smallerFinite) largerFinite
  · exact le_rfl

namespace Number

variable {left right result : ℚ}

theorem ofExact_of_lt
    (precise : HasDoublePrecision result)
    (finite : result < 2 ^ 1024) :
    ofExact result = .finite result := by
  rw [ofExact, nearest_eq_self precise, if_pos finite]

theorem ofExact_of_le
    (precise : HasDoublePrecision result)
    (large : 2 ^ 1024 ≤ result) :
    ofExact result = infinity := by
  rw [ofExact, nearest_eq_self precise, if_neg large.not_gt]

theorem powerOfTwo_of_lt {exponent : Nat} (small : exponent < 1024) :
    powerOfTwo exponent = finite (2 ^ exponent) :=
  ofExact_of_lt (hasDoublePrecision_two_pow exponent)
    (pow_lt_pow_right₀ (by norm_num) small)

theorem powerOfTwo_of_le {exponent : Nat} (large : 1024 ≤ exponent) :
    powerOfTwo exponent = infinity :=
  ofExact_of_le (hasDoublePrecision_two_pow exponent)
    (pow_le_pow_right₀ (by norm_num) large)

/-- A fraction of a double is no larger than it. -/
theorem times_fraction
    {fraction : ℚ}
    (factor : Double)
    (nonnegative : 0 ≤ fraction)
    (atMostOne : fraction ≤ 1) :
    (finite fraction).times (finite factor.value) =
        finite (nearest (fraction * factor.value)) ∧
      0 ≤ nearest (fraction * factor.value) ∧
      nearest (fraction * factor.value) ≤ factor.value := by
  have product : 0 ≤ fraction * factor.value :=
    mul_nonneg nonnegative factor.precise.nonneg
  have below : nearest (fraction * factor.value) ≤ factor.value :=
    nearest_le factor.precise product
      (mul_le_of_le_one_left factor.precise.nonneg atMostOne)
  refine ⟨?_, nearest_nonneg product, below⟩
  rw [times, ofExact, if_pos (below.trans_lt factor.finite)]

end Number

end Foundations
end AiGateway
