/-!
# Decimal numbers as binary fractions

A finite double is a sign with `mantissa * 2 ^ exponent`.  A decimal number is rounded to the
nearest double, ties to the even mantissa; a double is written with the fewest decimal digits that
round back to it, and among those with the nearest.  All arithmetic is exact.
-/

namespace ClassEnhancement

/-- A finite double: the mantissa has 53 bits, or fewer at the least exponent. -/
structure Binary64 where
  /-- Whether the sign is set; zero has a sign too. -/
  negative : Bool
  /-- Significant bits. -/
  mantissa : Nat
  /-- Power of two. -/
  exponent : Int
  deriving DecidableEq, Repr

namespace Binary64

/-- Exponent of the smallest doubles. -/
def leastExponent : Int := -1074

/-- Exponent of the greatest doubles. -/
def greatestExponent : Int := 971

/-- First mantissa that needs 53 bits. -/
def fullMantissa : Nat := 1 <<< 52

/-- A zero with a sign. -/
def zero (negative : Bool) : Binary64 := ⟨negative, 0, leastExponent⟩

/-- A fraction multiplied by a power of a base. -/
def scale (base : Nat) (power : Int) (fraction : Nat × Nat) : Nat × Nat :=
  if 0 ≤ power then (fraction.1 * base.pow power.toNat, fraction.2)
  else (fraction.1, fraction.2 * base.pow (-power).toNat)

/-- The integer nearest to a fraction, an exact half going to the even neighbour. -/
def roundHalfEven (fraction : Nat × Nat) : Nat :=
  let quotient := fraction.1 / fraction.2
  let twice := 2 * (fraction.1 % fraction.2)
  if fraction.2 < twice ∨ (twice = fraction.2 ∧ quotient % 2 = 1) then quotient + 1 else quotient

/-- The power of two with which a positive fraction has 53 bits before the point, bounded from
below by that of the smallest doubles. -/
def exponentOf (fraction : Nat × Nat) : Int :=
  let estimate : Int := (fraction.1.log2 : Int) - (fraction.2.log2 : Int) - 52
  let (num, den) := scale 2 (-estimate) fraction
  max leastExponent (if num / den < fullMantissa then estimate - 1 else estimate)

/-- The double nearest to a fraction, unless it is too great. -/
def ofFraction? (negative : Bool) (fraction : Nat × Nat) : Option Binary64 :=
  if fraction.1 = 0 then some (zero negative)
  else
    let exponent := exponentOf fraction
    let mantissa := roundHalfEven (scale 2 (-exponent) fraction)
    let (mantissa, exponent) :=
      if mantissa = 2 * fullMantissa then (fullMantissa, exponent + 1) else (mantissa, exponent)
    if greatestExponent < exponent then none else some ⟨negative, mantissa, exponent⟩

/-- Number of decimal digits. -/
def digitCount (n : Nat) : Nat := (Nat.toDigits 10 n).length

/-- The double nearest to `digits * 10 ^ power`, unless it is too great.  Powers far outside the
range of doubles are decided without computing them. -/
def ofDecimal? (negative : Bool) (digits : Nat) (power : Int) : Option Binary64 :=
  let size := power + digitCount digits
  if digits = 0 ∨ size < -400 then some (zero negative)
  else if 400 < size then none
  else ofFraction? negative (scale 10 power (digits, 1))

/-! ## Shortest digits -/

/-- Digits with the power of ten of the last one. -/
structure Decimal where
  /-- Significant digits as a number. -/
  digits : Nat
  /-- Power of ten of the last digit. -/
  power : Int
  deriving DecidableEq, Repr

/-- The power of ten just above a positive fraction. -/
def magnitude (fraction : Nat × Nat) : Int :=
  if fraction.2 ≤ fraction.1 then digitCount (fraction.1 / fraction.2)
  else 1 - digitCount ((fraction.2 + fraction.1 - 1) / fraction.1 - 1)

/-- The magnitude of a double as a fraction. -/
def toFraction (value : Binary64) : Nat × Nat := scale 2 value.exponent (value.mantissa, 1)

/-- Whether a decimal reads back as a double.  Distances are counted in quarters of the last bit;
below a power of two the neighbour is half as far, and the ends belong to even mantissas. -/
def readsBack (value : Binary64) (decimal : Decimal) : Bool :=
  let (num, den) := scale 2 (2 - value.exponent) (scale 10 decimal.power (decimal.digits, 1))
  let below :=
    if value.mantissa = fullMantissa ∧ leastExponent < value.exponent then 1 else 2
  let low := (4 * value.mantissa - below) * den
  let high := (4 * value.mantissa + 2) * den
  if value.mantissa % 2 = 0 then low ≤ num && num ≤ high else low < num && num < high

/-- The decimal of a number of digits that reads back, the nearer one of the two neighbours. -/
def ofDigits? (value : Binary64) (count : Nat) : Option Decimal :=
  let power := magnitude value.toFraction - count
  let scaled := scale 10 (-power) value.toFraction
  let lower : Decimal := ⟨scaled.1 / scaled.2, power⟩
  let upper : Decimal := ⟨scaled.1 / scaled.2 + 1, power⟩
  let nearest : Decimal := ⟨roundHalfEven scaled, power⟩
  if value.readsBack lower && value.readsBack upper then some nearest
  else if value.readsBack lower then some lower
  else if value.readsBack upper then some upper
  else none

/-- A decimal without zeros at the end, removing at most the given number. -/
def Decimal.trim : Nat → Decimal → Decimal
  | 0, decimal => decimal
  | bound + 1, decimal =>
    if decimal.digits ≠ 0 ∧ decimal.digits % 10 = 0 then
      trim bound ⟨decimal.digits / 10, decimal.power + 1⟩
    else decimal

/-- The shortest decimal that reads back as a positive double; 17 digits always do. -/
def shortest (value : Binary64) : Decimal :=
  let found := (List.range 17).findSome? fun index => value.ofDigits? (index + 1)
  (found.getD ⟨0, 0⟩).trim 17

/-! ## Layout -/

/-- How digits are laid out: numbers whose first digit has a power of ten between the bounds are
written positionally, others with an exponent. -/
structure Layout where
  /-- Least power of ten of the first digit in positional form. -/
  leastPower : Int
  /-- Greatest power of ten of the first digit in positional form. -/
  greatestPower : Int

/-- Text of a positive decimal. -/
def Decimal.render (layout : Layout) (decimal : Decimal) : String :=
  let digits := Nat.toDigits 10 decimal.digits
  let first := decimal.power + digits.length - 1
  let text : List Char :=
    if layout.leastPower ≤ first ∧ first ≤ layout.greatestPower then
      if first < 0 then '0' :: '.' :: List.replicate (-first - 1).toNat '0' ++ digits
      else if 0 ≤ decimal.power then
        digits ++ List.replicate decimal.power.toNat '0' ++ ['.', '0']
      else
        digits.take (first.toNat + 1) ++ '.' :: digits.drop (first.toNat + 1)
    else
      let mantissa := match digits with
        | [] => []
        | [digit] => [digit]
        | digit :: rest => digit :: '.' :: rest
      mantissa ++ 'e' :: (if first < 0 then '-' else '+') :: Nat.toDigits 10 first.natAbs
  String.ofList text

/-- Text of a double. -/
def render (layout : Layout) (value : Binary64) : String :=
  let magnitude := if value.mantissa = 0 then "0.0" else value.shortest.render layout
  if value.negative then "-" ++ magnitude else magnitude

end Binary64
end ClassEnhancement
