/-!
# Binary floating point numbers

A finite number of the 64-bit binary format, kept as sign, significand and
exponent rather than as a machine float, so that equality is decidable and
rounding is plain arithmetic on natural numbers. Every operation rounds its
exact result to the nearest number of the format, a half to the even
neighbour; a result that would be infinite is absent.
-/

set_option autoImplicit false

namespace PluginAudit

/-- A finite number of the 64-bit binary format. Its size is `significand * 2 ^ exponent`, where
the significand has 53 bits, or fewer at the least exponent. -/
structure Binary64 where
  negative : Bool
  significand : Nat
  exponent : Int
  deriving DecidableEq, Repr

namespace Binary64

/-- The exponent of the numbers closest to zero. -/
def leastExponent : Int := -1074

/-- The exponent of the largest numbers. -/
def mostExponent : Int := 971

/-- The number zero with its sign. -/
def zero (negative : Bool) : Binary64 := ⟨negative, 0, leastExponent⟩

/-- A quotient rounded to the nearest natural number, a half to the even neighbour. -/
def roundHalfEven (numerator denominator : Nat) : Nat :=
  let quotient := numerator / denominator
  let remainder := numerator % denominator
  if 2 * remainder < denominator then quotient
  else if denominator < 2 * remainder then quotient + 1
  else if quotient % 2 = 0 then quotient else quotient + 1

/-- The largest power of two that a positive quotient reaches. -/
def binaryOrder (numerator denominator : Nat) : Int :=
  let estimate : Int := (numerator.log2 : Int) - denominator.log2
  let reached :=
    if 0 ≤ estimate then denominator * Nat.pow 2 estimate.toNat ≤ numerator
    else denominator ≤ numerator * Nat.pow 2 (-estimate).toNat
  if reached then estimate else estimate - 1

/-- The number of the format nearest to a quotient of natural numbers with a positive
denominator; absent when it would be infinite. -/
def nearest (negative : Bool) (numerator denominator : Nat) : Option Binary64 :=
  if numerator = 0 then some (zero negative)
  else
    let exponent := max leastExponent (binaryOrder numerator denominator - 52)
    let rounded :=
      if 0 ≤ exponent then roundHalfEven numerator (denominator * Nat.pow 2 exponent.toNat)
      else roundHalfEven (numerator * Nat.pow 2 (-exponent).toNat) denominator
    let (significand, exponent) :=
      if rounded = Nat.pow 2 53 then (Nat.pow 2 52, exponent + 1) else (rounded, exponent)
    if mostExponent < exponent then none else some ⟨negative, significand, exponent⟩

/-- Numerator and denominator of the size of a number. -/
def fraction (x : Binary64) : Nat × Nat :=
  if 0 ≤ x.exponent then (x.significand * Nat.pow 2 x.exponent.toNat, 1)
  else (x.significand, Nat.pow 2 (-x.exponent).toNat)

/-- The rounded product. -/
def mul (x y : Binary64) : Option Binary64 :=
  let (n, d) := x.fraction
  let (n', d') := y.fraction
  nearest (x.negative != y.negative) (n * n') (d * d')

/-- The rounded quotient by a number other than zero. -/
def div (x y : Binary64) : Option Binary64 :=
  let (n, d) := x.fraction
  let (n', d') := y.fraction
  nearest (x.negative != y.negative) (n * d') (d * n')

/-- The number nearest to a natural number. -/
def ofNat (n : Nat) : Option Binary64 := nearest false n 1

/-- The number with the opposite sign. -/
def neg (x : Binary64) : Binary64 := { x with negative := !x.negative }

/-- Whether a number is zero of either sign. -/
def isZero (x : Binary64) : Bool := x.significand == 0

/-- The number nearest to `significand * 10 ^ exponent`. Sizes far outside the format are settled
by the number of digits, so that no huge power is formed. -/
def ofDecimal (negative : Bool) (significand : Nat) (exponent : Int) : Option Binary64 :=
  let order : Int := exponent + (Nat.toDigits 10 significand).length
  if significand = 0 then some (zero negative)
  else if 400 < order then none
  else if order < -400 then some (zero negative)
  else if 0 ≤ exponent then nearest negative (significand * Nat.pow 10 exponent.toNat) 1
  else nearest negative significand (Nat.pow 10 (-exponent).toNat)

end Binary64

end PluginAudit
