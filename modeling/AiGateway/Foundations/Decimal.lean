import Mathlib.Algebra.Order.Field.Power
import Mathlib.Algebra.Order.Field.Rat
import Mathlib.Data.List.TakeWhile
import Mathlib.Tactic.Ring
import Mathlib.Tactic.NormNum

/-!
# Decimal numbers and their texts

A finite double is written as the shortest decimal that denotes it, and two
doubles with the same text are the same, up to the sign of zero. This module
takes a number to be that decimal: a sign, an integer whose last digit is not
zero, and a power of ten. Comparisons are those of the denoted rationals.

`text` is the text that JavaScript writes for a number. It can be read back, so
numbers with the same text are equal.
-/

namespace AiGateway
namespace Foundations

/-- A decimal number in its shortest form; there is one zero. -/
structure Decimal where
  negative : Bool
  digits : Nat
  exponent : Int
  canonical :
    if digits = 0 then negative = false ∧ exponent = 0 else digits % 10 ≠ 0
  deriving DecidableEq

namespace Decimal

/-- The rational that a decimal denotes. -/
def value (number : Decimal) : ℚ :=
  (if number.negative then -1 else 1) * number.digits * 10 ^ number.exponent

instance : Zero Decimal := ⟨false, 0, 0, by decide⟩

instance : One Decimal := ⟨false, 1, 0, by decide⟩

instance : Inhabited Decimal := ⟨0⟩

/-- A decimal that denotes no negative number has no sign. -/
theorem negative_of_value_nonneg
    {number : Decimal}
    (nonneg : 0 ≤ number.value) : number.negative = false := by
  by_contra isNegative
  rw [Bool.not_eq_false] at isNegative
  have hasDigits : number.digits ≠ 0 := by
    intro noDigits
    have canonical := number.canonical
    rw [if_pos noDigits, isNegative] at canonical
    cases canonical.1
  have magnitude : (0 : ℚ) < number.digits * 10 ^ number.exponent := by
    positivity
  rw [value, if_pos isNegative, mul_assoc, neg_one_mul, neg_nonneg] at nonneg
  exact nonneg.not_gt magnitude

/-- A whole number without trailing zeros, such as the small constants of a
program. -/
def ofDigit (digit : Nat) (notZero : digit % 10 ≠ 0) : Decimal where
  negative := false
  digits := digit
  exponent := 0
  canonical := by
    rw [if_neg]
    · exact notZero
    · rintro rfl
      exact notZero rfl

/-- The text of a power of ten. -/
def exponentText (exponent : Int) : List Char :=
  'e' :: (if 0 ≤ exponent then '+' else '-') ::
    Nat.toDigits 10 exponent.natAbs

/-- The text of the digits with a decimal point or an exponent, for a number
that is not zero. The point stands after so many digits. -/
def magnitudeText (digits : List Char) (point : Int) : List Char :=
  if digits.length ≤ point ∧ point ≤ 21 then
    digits ++ List.replicate (point - digits.length).toNat '0'
  else if 0 < point ∧ point ≤ 21 then
    digits.take point.toNat ++ '.' :: digits.drop point.toNat
  else if -6 < point ∧ point ≤ 0 then
    ('0' :: '.' :: List.replicate (-point).toNat '0') ++ digits
  else
    (digits.take 1 ++
      if digits.length = 1 then [] else '.' :: digits.drop 1) ++
      exponentText (point - 1)

/-- The text of a number without its sign. -/
def unsignedText (number : Decimal) : List Char :=
  if number.digits = 0 then
    ['0']
  else
    let digits := Nat.toDigits 10 number.digits
    magnitudeText digits (digits.length + number.exponent)

/-- `Number::toString`. -/
def text (number : Decimal) : List Char :=
  (if number.negative then ['-'] else []) ++ number.unsignedText

section Reading

/-- The exponent at the end of a text. -/
def readExponent : List Char → Int
  | 'e' :: '+' :: digits => Nat.ofDigitChars 10 digits 0
  | 'e' :: '-' :: digits => -(Nat.ofDigitChars 10 digits 0 : Int)
  | _ => 0

/-- The number that an unsigned text denotes. -/
def readMagnitude (text : List Char) : ℚ :=
  let mantissa := text.takeWhile (· ≠ 'e')
  let fraction := (mantissa.dropWhile (· ≠ '.')).drop 1
  (Nat.ofDigitChars 10 (mantissa.filter (· ≠ '.')) 0 : ℚ) *
    10 ^ (readExponent (text.dropWhile (· ≠ 'e')) - fraction.length)

/-- A list of decimal digits. -/
def AllDigits (chars : List Char) : Prop :=
  ∀ char ∈ chars, char.isDigit = true

theorem allDigits_toDigits (n : Nat) : AllDigits (Nat.toDigits 10 n) :=
  fun _ isDigit => Nat.isDigit_of_mem_toDigits (by decide) (by decide) isDigit

theorem allDigits_replicate_zero (count : Nat) :
    AllDigits (List.replicate count '0') := by
  intro char isMember
  rw [List.eq_of_mem_replicate isMember]
  rfl

theorem AllDigits.append
    {first second : List Char}
    (left : AllDigits first)
    (right : AllDigits second) : AllDigits (first ++ second) :=
  List.forall_mem_append.2 ⟨left, right⟩

theorem AllDigits.take
    {chars : List Char}
    (allDigits : AllDigits chars)
    (count : Nat) : AllDigits (chars.take count) :=
  fun _ isMember => allDigits _ (List.mem_of_mem_take isMember)

theorem AllDigits.drop
    {chars : List Char}
    (allDigits : AllDigits chars)
    (count : Nat) : AllDigits (chars.drop count) :=
  fun _ isMember => allDigits _ (List.mem_of_mem_drop isMember)

theorem AllDigits.ne
    {chars : List Char}
    (allDigits : AllDigits chars)
    (other : Char)
    (notDigit : other.isDigit = false) :
    ∀ char ∈ chars, char ≠ other := by
  rintro char isMember rfl
  rw [allDigits char isMember] at notDigit
  cases notDigit

/-- What may follow the mantissa of a text: nothing, or an exponent. -/
def IsSuffix (suffix : List Char) : Prop :=
  suffix.takeWhile (· ≠ 'e') = []

theorem takeWhile_mantissa
    {mantissa suffix : List Char}
    (noExponent : ∀ char ∈ mantissa, char ≠ 'e')
    (isSuffix : IsSuffix suffix) :
    (mantissa ++ suffix).takeWhile (· ≠ 'e') = mantissa := by
  rw [List.takeWhile_append_of_pos (by simpa using noExponent), isSuffix,
    List.append_nil]

theorem dropWhile_mantissa
    {mantissa suffix : List Char}
    (noExponent : ∀ char ∈ mantissa, char ≠ 'e')
    (isSuffix : IsSuffix suffix) :
    (mantissa ++ suffix).dropWhile (· ≠ 'e') = suffix := by
  have split := List.takeWhile_append_dropWhile
    (p := fun char => decide (char ≠ 'e')) (l := mantissa ++ suffix)
  rw [takeWhile_mantissa noExponent isSuffix] at split
  exact List.append_cancel_left split

theorem isSuffix_exponentText (exponent : Int) :
    IsSuffix (exponentText exponent) := rfl

@[simp] theorem readExponent_exponentText (exponent : Int) :
    readExponent (exponentText exponent) = exponent := by
  unfold exponentText
  split_ifs with nonnegative
  · rw [readExponent, Nat.ofDigitChars_ten_toDigits]
    omega
  · rw [readExponent, Nat.ofDigitChars_ten_toDigits]
    omega

/-- A text without a point denotes its digits. -/
theorem readMagnitude_whole
    {whole suffix : List Char}
    (allDigits : AllDigits whole)
    (isSuffix : IsSuffix suffix) :
    readMagnitude (whole ++ suffix) =
      (Nat.ofDigitChars 10 whole 0 : ℚ) * 10 ^ readExponent suffix := by
  have noExponent := allDigits.ne 'e' (by decide)
  have noPoint := allDigits.ne '.' (by decide)
  have filterWhole : whole.filter (· ≠ '.') = whole :=
    List.filter_eq_self.2 (by simpa using noPoint)
  have noFraction : whole.dropWhile (· ≠ '.') = [] :=
    List.dropWhile_eq_nil_iff.2 (by simpa using noPoint)
  simp only [readMagnitude]
  rw [takeWhile_mantissa noExponent isSuffix,
    dropWhile_mantissa noExponent isSuffix, filterWhole, noFraction]
  simp

/-- A text with a point denotes all its digits, shifted by those after the
point. -/
theorem readMagnitude_fraction
    {whole fraction suffix : List Char}
    (wholeDigits : AllDigits whole)
    (fractionDigits : AllDigits fraction)
    (isSuffix : IsSuffix suffix) :
    readMagnitude ((whole ++ '.' :: fraction) ++ suffix) =
      (Nat.ofDigitChars 10 (whole ++ fraction) 0 : ℚ) *
        10 ^ (readExponent suffix - fraction.length) := by
  have noExponent : ∀ char ∈ whole ++ '.' :: fraction, char ≠ 'e' := by
    intro char isMember
    rcases List.mem_append.1 isMember with inWhole | inRest
    · exact wholeDigits.ne 'e' (by decide) char inWhole
    · rcases List.mem_cons.1 inRest with rfl | inFraction
      · decide
      · exact fractionDigits.ne 'e' (by decide) char inFraction
  have noPoint := wholeDigits.ne '.' (by decide)
  have noPointAfter := fractionDigits.ne '.' (by decide)
  have filterDigits : (whole ++ '.' :: fraction).filter (· ≠ '.') =
      whole ++ fraction := by
    rw [List.filter_append, List.filter_cons_of_neg (by decide),
      List.filter_eq_self.2 (by simpa using noPoint),
      List.filter_eq_self.2 (by simpa using noPointAfter)]
  have dropWhole : (whole ++ '.' :: fraction).dropWhile (· ≠ '.') =
      '.' :: fraction := by
    rw [List.dropWhile_append_of_pos (by simpa using noPoint),
      List.dropWhile_cons_of_neg (by decide)]
  simp only [readMagnitude]
  rw [takeWhile_mantissa noExponent isSuffix,
    dropWhile_mantissa noExponent isSuffix, filterDigits, dropWhole]
  rfl

end Reading

section ReadBack

variable {digits : List Char} {point : Int}

/-- The text of an unsigned number denotes its digits, shifted so that the point
stands where it should. -/
theorem readMagnitude_magnitudeText
    (allDigits : AllDigits digits)
    (nonempty : digits ≠ []) :
    readMagnitude (magnitudeText digits point) =
      (Nat.ofDigitChars 10 digits 0 : ℚ) * 10 ^ (point - digits.length) := by
  have notSuffix : IsSuffix [] := rfl
  have someDigit : 0 < digits.length := List.length_pos_iff.2 nonempty
  unfold magnitudeText
  split_ifs with isWhole hasPoint isSmall isSingle
  · rw [← List.append_nil (digits ++ _), readMagnitude_whole
      (allDigits.append (allDigits_replicate_zero _)) notSuffix,
      Nat.ofDigitChars_append, Nat.ofDigitChars_replicate_zero]
    have shift : point - digits.length =
        ((point - digits.length).toNat : Int) := by omega
    rw [shift, zpow_natCast]
    push_cast
    simp [readExponent, mul_comm]
  · have shift : point - digits.length =
        0 - ((digits.drop point.toNat).length : Int) := by
      rw [List.length_drop]
      omega
    rw [← List.append_nil (digits.take _ ++ _), readMagnitude_fraction
      (allDigits.take _) (allDigits.drop _) notSuffix, List.take_append_drop,
      shift]
    rfl
  · have shift : point - digits.length = 0 -
        ((List.replicate (-point).toNat '0' ++ digits).length : Int) := by
      rw [List.length_append, List.length_replicate]
      omega
    have zeros : Nat.ofDigitChars 10
        (['0'] ++ (List.replicate (-point).toNat '0' ++ digits)) 0 =
          Nat.ofDigitChars 10 digits 0 := by
      rw [Nat.ofDigitChars_append, Nat.ofDigitChars_append,
        Nat.ofDigitChars_replicate_zero]
      rfl
    have lone : AllDigits ['0'] := allDigits_replicate_zero 1
    change readMagnitude (['0'] ++ '.' :: (_ ++ digits)) = _
    rw [← List.append_nil (['0'] ++ _), readMagnitude_fraction
      lone ((allDigits_replicate_zero _).append allDigits) notSuffix, zeros, shift]
    rfl
  · have takeAll : digits.take 1 = digits := List.take_of_length_le (by omega)
    rw [takeAll, List.append_nil, readMagnitude_whole allDigits
      (isSuffix_exponentText _), readExponent_exponentText, isSingle]
    rfl
  · have shift : point - digits.length =
        point - 1 - ((digits.drop 1).length : Int) := by
      rw [List.length_drop]
      omega
    rw [readMagnitude_fraction (allDigits.take _) (allDigits.drop _)
      (isSuffix_exponentText _), List.take_append_drop,
      readExponent_exponentText, shift]

/-- An unsigned text starts with a digit. -/
theorem exists_digit_magnitudeText
    (allDigits : AllDigits digits)
    (nonempty : digits ≠ []) :
    ∃ char rest, magnitudeText digits point = char :: rest ∧
      char.isDigit = true := by
  obtain ⟨first, others, rfl⟩ := List.exists_cons_of_ne_nil nonempty
  have isDigit : first.isDigit = true := allDigits first List.mem_cons_self
  unfold magnitudeText
  split_ifs with isWhole hasPoint isSmall isSingle
  · exact ⟨first, _, rfl, isDigit⟩
  · have succ : point.toNat = (point.toNat - 1) + 1 := by omega
    rw [succ]
    exact ⟨first, _, rfl, isDigit⟩
  · exact ⟨'0', _, rfl, rfl⟩
  · exact ⟨first, _, rfl, isDigit⟩
  · exact ⟨first, _, rfl, isDigit⟩

end ReadBack

/-- A number that does not end in zero has one decimal form. -/
theorem eq_of_scaled_eq
    {first second : Nat}
    {left right : Int}
    (firstEnd : first % 10 ≠ 0)
    (secondEnd : second % 10 ≠ 0)
    (equal : (first : ℚ) * 10 ^ left = second * 10 ^ right) :
    first = second ∧ left = right := by
  wlog ordered : left ≤ right generalizing first second left right
  · obtain ⟨digitsEq, exponentEq⟩ :=
      this secondEnd firstEnd equal.symm (by omega)
    exact ⟨digitsEq.symm, exponentEq.symm⟩
  obtain ⟨gap, rfl⟩ : ∃ gap : Nat, right = left + gap :=
    ⟨(right - left).toNat, by omega⟩
  have scaled : first = second * 10 ^ gap := by
    rw [zpow_add₀ (by norm_num), zpow_natCast, mul_left_comm, mul_comm,
      mul_right_inj' (zpow_ne_zero _ (by norm_num))] at equal
    exact_mod_cast equal
  cases gap with
  | zero => simpa using scaled
  | succ gap =>
      rw [pow_succ, ← mul_assoc] at scaled
      omega

section Injective

variable (number : Decimal)

@[simp] theorem readMagnitude_unsignedText :
    readMagnitude number.unsignedText =
      (number.digits : ℚ) * 10 ^ number.exponent := by
  unfold unsignedText
  split_ifs with isZero
  · have isZeroDigit : readMagnitude (['0'] ++ []) = _ :=
      readMagnitude_whole (allDigits_replicate_zero 1) rfl
    rw [List.append_nil] at isZeroDigit
    rw [isZeroDigit, isZero, Nat.cast_zero, zero_mul]
    exact zero_mul _
  · rw [readMagnitude_magnitudeText (allDigits_toDigits _) Nat.toDigits_ne_nil,
      Nat.ofDigitChars_ten_toDigits, add_sub_cancel_left]

theorem exists_digit_unsignedText :
    ∃ char rest, number.unsignedText = char :: rest ∧ char.isDigit = true := by
  unfold unsignedText
  split_ifs
  · exact ⟨'0', [], rfl, rfl⟩
  · exact exists_digit_magnitudeText (allDigits_toDigits _) Nat.toDigits_ne_nil

variable {number} {other : Decimal}

/-- Numbers with the same unsigned text have the same digits and exponent. -/
theorem digits_eq_of_unsignedText_eq
    (sameText : number.unsignedText = other.unsignedText) :
    number.digits = other.digits ∧ number.exponent = other.exponent := by
  have scaled := congrArg readMagnitude sameText
  rw [readMagnitude_unsignedText, readMagnitude_unsignedText] at scaled
  have tenPower (exponent : Int) : (10 : ℚ) ^ exponent ≠ 0 :=
    zpow_ne_zero _ (by norm_num)
  have canonical := number.canonical
  have otherCanonical := other.canonical
  by_cases isZero : number.digits = 0
  · have otherZero : other.digits = 0 := by
      rw [isZero, Nat.cast_zero, zero_mul, eq_comm, mul_eq_zero,
        or_iff_left (tenPower _)] at scaled
      exact_mod_cast scaled
    rw [if_pos isZero] at canonical
    rw [if_pos otherZero] at otherCanonical
    exact ⟨isZero.trans otherZero.symm, canonical.2.trans otherCanonical.2.symm⟩
  · have otherNotZero : other.digits ≠ 0 := by
      intro otherZero
      rw [otherZero, Nat.cast_zero, zero_mul, mul_eq_zero,
        or_iff_left (tenPower _)] at scaled
      exact isZero (by exact_mod_cast scaled)
    rw [if_neg isZero] at canonical
    rw [if_neg otherNotZero] at otherCanonical
    exact eq_of_scaled_eq canonical otherCanonical scaled

/-- Numbers with the same text are equal. -/
theorem text_injective (sameText : number.text = other.text) :
    number = other := by
  obtain ⟨char, rest, textEq, isDigit⟩ := exists_digit_unsignedText number
  obtain ⟨otherChar, otherRest, otherEq, otherDigit⟩ :=
    exists_digit_unsignedText other
  have sameSign : number.negative = other.negative := by
    unfold text at sameText
    rw [textEq, otherEq] at sameText
    cases isNegative : number.negative <;>
      cases otherNegative : other.negative
    · rfl
    · rw [isNegative, otherNegative] at sameText
      cases sameText
      cases isDigit
    · rw [isNegative, otherNegative] at sameText
      cases sameText
      cases otherDigit
    · rfl
  have sameUnsigned : number.unsignedText = other.unsignedText := by
    unfold text at sameText
    rw [sameSign] at sameText
    exact List.append_cancel_left sameText
  obtain ⟨digitsEq, exponentEq⟩ := digits_eq_of_unsignedText_eq sameUnsigned
  cases number
  cases other
  cases sameSign
  cases digitsEq
  cases exponentEq
  rfl

end Injective

/-- A character that occurs in the texts of numbers. -/
def IsTextChar (char : Char) : Prop :=
  char.isDigit = true ∨ char = '-' ∨ char = '+' ∨ char = '.' ∨ char = 'e'

theorem AllDigits.isTextChar
    {chars : List Char}
    (allDigits : AllDigits chars) : ∀ char ∈ chars, IsTextChar char :=
  fun char isMember => .inl (allDigits char isMember)

theorem isTextChar_exponentText (exponent : Int) :
    ∀ char ∈ exponentText exponent, IsTextChar char := by
  unfold exponentText
  refine List.forall_mem_cons.2 ⟨by simp [IsTextChar],
    List.forall_mem_cons.2 ⟨?_, (allDigits_toDigits _).isTextChar⟩⟩
  split_ifs <;> simp [IsTextChar]

theorem isTextChar_magnitudeText
    {digits : List Char}
    (allDigits : AllDigits digits)
    (point : Int) :
    ∀ char ∈ magnitudeText digits point, IsTextChar char := by
  have isPoint : IsTextChar '.' := by simp [IsTextChar]
  have zeros (count : Nat) := (allDigits_replicate_zero count).isTextChar
  unfold magnitudeText
  split_ifs
  · exact List.forall_mem_append.2 ⟨allDigits.isTextChar, zeros _⟩
  · exact List.forall_mem_append.2 ⟨(allDigits.take _).isTextChar,
      List.forall_mem_cons.2 ⟨isPoint, (allDigits.drop _).isTextChar⟩⟩
  · exact List.forall_mem_append.2 ⟨List.forall_mem_cons.2 ⟨zeros 1 _ (by simp),
      List.forall_mem_cons.2 ⟨isPoint, zeros _⟩⟩, allDigits.isTextChar⟩
  · rw [List.append_nil]
    exact List.forall_mem_append.2 ⟨(allDigits.take _).isTextChar,
      isTextChar_exponentText _⟩
  · exact List.forall_mem_append.2 ⟨List.forall_mem_append.2
      ⟨(allDigits.take _).isTextChar, List.forall_mem_cons.2
        ⟨isPoint, (allDigits.drop _).isTextChar⟩⟩, isTextChar_exponentText _⟩

/-- The text of a number has no other characters. -/
theorem isTextChar_text (number : Decimal) :
    ∀ char ∈ number.text, IsTextChar char := by
  unfold text unsignedText
  refine List.forall_mem_append.2 ⟨?_, ?_⟩
  · split_ifs <;> simp [IsTextChar]
  · split_ifs
    · simp [IsTextChar]
    · exact isTextChar_magnitudeText (allDigits_toDigits _) _

/-- The text of a number starts with a digit or a minus sign. -/
theorem exists_head_text (number : Decimal) :
    ∃ char rest, number.text = char :: rest ∧
      (char.isDigit = true ∨ char = '-') := by
  obtain ⟨char, rest, textEq, isDigit⟩ := exists_digit_unsignedText number
  unfold text
  rw [textEq]
  split_ifs
  · exact ⟨'-', _, rfl, .inr rfl⟩
  · exact ⟨char, rest, rfl, .inl isDigit⟩

example :
    (Decimal.mk true 25 (-2) (by decide)).text = "-0.25".toList := by decide

end Decimal

end Foundations
end AiGateway
